import Mathlib.Data.List.Induction
import NestedQuery.Proofs.SchemaDump.Changes
import NestedQuery.Proofs.SchemaDump.KeyClauses

/-! The history of a dump: what its statements do, one after the other. Reading a dump is replaying
its history. A definition has the primary key that its own clauses state, changed by the statements
after it up to the next definition of the same relation. -/

namespace NestedQuery.SchemaDump

variable {product : Product} {table : RelationId} {tokens left : Tokens}

/-- A relation as a statement creates it, with the foreign keys that the statement declares. -/
structure Creation where
  id : RelationId
  kind : RelationKind
  fields : List Field
  clauses : List KeyClause := []
  keys : List KeyDeclaration := []
  deriving DecidableEq, Repr

inductive Action where
  | pass
  | create (creation : Creation)
  | setPrimaryKey (table : RelationId) (columns : List String)
  | addKey (key : KeyDeclaration)
  deriving DecidableEq, Repr

def Creation.definition (creation : Creation) (later : List KeyClause) : Definition where
  id := creation.id
  kind := creation.kind
  fields := creation.fields
  primaryKey := finalKey (creation.clauses ++ later)

namespace Draft

def perform (draft : Draft) : Action → Draft
  | .pass => draft
  | .create creation => draft.add (creation.definition []) creation.keys
  | .setPrimaryKey table columns => draft.setPrimaryKey table columns
  | .addKey key => draft.addKey key

def replay (draft : Draft) (log : List Action) : Draft := log.foldl perform draft

end Draft

def tableAction (product : Product) (table : RelationId) :
    Tokens → Except DumpError (Action × Tokens)
  | .openParen :: inside =>
      match readBody product table {} inside with
      | .error cause => .error cause
      | .ok (body, left) =>
          let creation : Creation :=
            { id := table, kind := .table, fields := body.fields
              clauses := bodyClauses product table {} inside, keys := body.keys }
          .ok (.create creation, skipStatement left)
  | tokens => .ok (.pass, skipStatement tokens)

def createAction (product : Product) (tokens : Tokens) : Except DumpError (Action × Tokens) :=
  match tokens.dropWhile (·.isWordIn createModifiers) with
  | .keyword .table :: rest =>
      match readRelationId product.caseRule (skipIfNotExists rest) with
      | (some table, left) => tableAction product table left
      | (none, left) => .ok (.pass, skipStatement left)
  | .keyword .view :: rest =>
      match readRelationId product.caseRule (skipIfNotExists rest) with
      | (some view, left) =>
          let (columns, after) := readColumnList product.caseRule left
          .ok (.create { id := view, kind := .view, fields := columns.map viewField },
            skipStatement after)
      | (none, left) => .ok (.pass, skipStatement left)
  | rest => .ok (.pass, skipStatement rest)

def addedAction (product : Product) (table : RelationId) (constraintName : Option String) :
    Tokens → Except DumpError (Action × Tokens)
  | .keyword .primary :: rest =>
      let (columns, left) := readColumnList product.caseRule (skipKeyword .key rest)
      .ok (.setPrimaryKey table columns, skipStatement left)
  | .keyword .foreign :: rest =>
      match readForeignKey product.caseRule table constraintName rest with
      | .error cause => .error cause
      | .ok (some key, left) => .ok (.addKey key, skipStatement left)
      | .ok (none, left) => .ok (.pass, skipStatement left)
  | tokens => .ok (.pass, skipStatement tokens)

def readConstraintName (rule : CaseRule) : Tokens → Option String × Tokens
  | .keyword .constraint :: rest => readName rule rest
  | tokens => (none, tokens)

def alterAction (product : Product) (tokens : Tokens) : Except DumpError (Action × Tokens) :=
  match tokens with
  | .keyword .table :: rest =>
      match readRelationId product.caseRule (skipKeyword .only (skipIfExists rest)) with
      | (some table, .keyword .add :: left) =>
          let (constraintName, after) := readConstraintName product.caseRule left
          addedAction product table constraintName after
      | (_, left) => .ok (.pass, skipStatement left)
  | rest => .ok (.pass, skipStatement rest)

variable {draft : Draft}

theorem readTable_eq_map :
    readTable product draft table tokens =
      (tableAction product table tokens).map (Prod.map draft.perform id) := by
  unfold readTable
  split
  · rename_i inside
    rw [tableAction]
    cases content : readBody product table {} inside with
    | error cause => rfl
    | ok done =>
        have key : done.1.primaryKey = finalKey _ := readBody_primaryKey content
        simp [Except.map, Draft.perform, Creation.definition, key]
  · rename_i other
    rw [tableAction]
    · rfl
    · exact other

theorem readCreate_eq_map :
    readCreate product draft tokens =
      (createAction product tokens).map (Prod.map draft.perform id) := by
  unfold readCreate
  split
  · rename_i rest start
    rw [createAction, start]
    simp only
    rcases readRelationId product.caseRule (skipIfNotExists rest) with ⟨_ | table, left⟩
    · rfl
    · exact readTable_eq_map
  · rename_i rest start
    rw [createAction, start]
    simp only
    rcases readRelationId product.caseRule (skipIfNotExists rest) with ⟨_ | view, left⟩
    · rfl
    · rfl
  · rename_i notTable notView
    unfold createAction
    split
    · rename_i start
      exact absurd start (notTable _)
    · rename_i start
      exact absurd start (notView _)
    · rfl

theorem readAddedConstraint_eq_map {constraintName : Option String} :
    readAddedConstraint product draft table constraintName tokens =
      (addedAction product table constraintName tokens).map (Prod.map draft.perform id) := by
  unfold readAddedConstraint
  split
  · rfl
  · rename_i rest
    rw [addedAction]
    rcases readForeignKey product.caseRule table constraintName rest with cause | ⟨_ | key, left⟩
    · rfl
    · rfl
    · rfl
  · rename_i notPrimary notForeign
    rw [addedAction]
    · rfl
    · exact notPrimary
    · exact notForeign

theorem readAlter_eq_map :
    readAlter product draft tokens =
      (alterAction product tokens).map (Prod.map draft.perform id) := by
  unfold readAlter
  split
  · rw [alterAction]
    split
    · rename_i named
      rw [named]
      exact readAddedConstraint_eq_map
    · rename_i noConstraint named
      rw [named]
      simp only
      rw [readConstraintName]
      · exact readAddedConstraint_eq_map
      · exact noConstraint
    · rename_i notAdd named
      rw [named]
      split
      · rename_i same
        cases same
        exact absurd rfl (notAdd _ _ rfl)
      · rename_i same
        cases same
        rfl
  · rename_i notTable
    rw [alterAction]
    · rfl
    · exact notTable

theorem length_createAction_le {action : Action}
    (done : createAction product tokens = .ok (action, left)) : left.length ≤ tokens.length := by
  have read : readCreate product {} tokens = .ok (Draft.perform {} action, left) := by
    rw [readCreate_eq_map, done]
    rfl
  exact length_readCreate_le read

theorem length_alterAction_le {action : Action}
    (done : alterAction product tokens = .ok (action, left)) : left.length ≤ tokens.length := by
  have read : readAlter product {} tokens = .ok (Draft.perform {} action, left) := by
    rw [readAlter_eq_map, done]
    rfl
  exact length_readAlter_le read

def history (product : Product) : Tokens → Except DumpError (List Action)
  | [] => .ok []
  | .keyword .create :: rest =>
      match done : createAction product rest with
      | .error cause => .error cause
      | .ok (action, left) =>
          have : left.length ≤ rest.length := length_createAction_le done
          (history product left).map (action :: ·)
  | .keyword .alter :: rest =>
      match done : alterAction product rest with
      | .error cause => .error cause
      | .ok (action, left) =>
          have : left.length ≤ rest.length := length_alterAction_le done
          (history product left).map (action :: ·)
  | _ :: rest => history product rest
termination_by tokens => tokens.length
decreasing_by
  all_goals
    simp only [List.length_cons]
    omega

theorem map_replay_cons (draft : Draft) (action : Action) (log : Except DumpError (List Action)) :
    (log.map (action :: ·)).map draft.replay = log.map (draft.perform action).replay := by
  cases log <;> rfl

/-- A dump is read by replaying its history. -/
theorem readStatements_eq_replay (product : Product) (draft : Draft) (tokens : Tokens) :
    readStatements product draft tokens = (history product tokens).map draft.replay := by
  fun_induction history product tokens generalizing draft with
  | case1 =>
      rw [readStatements]
      rfl
  | case2 rest cause failed =>
      rw [readStatements_create_failed (by rw [readCreate_eq_map, failed]; rfl)]
      rfl
  | case3 rest action left done shorter ih =>
      have read : readCreate product draft rest = .ok (draft.perform action, left) := by
        rw [readCreate_eq_map, done]
        rfl
      rw [readStatements_create read, map_replay_cons]
      exact ih _
  | case4 rest cause failed =>
      rw [readStatements_alter_failed (by rw [readAlter_eq_map, failed]; rfl)]
      rfl
  | case5 rest action left done shorter ih =>
      have read : readAlter product draft rest = .ok (draft.perform action, left) := by
        rw [readAlter_eq_map, done]
        rfl
      rw [readStatements_alter read, map_replay_cons]
      exact ih _
  | case6 token rest notCreate notAlter ih =>
      rw [readStatements]
      · exact ih draft
      · exact notCreate
      · exact notAlter

namespace Action

def keys : Action → List KeyDeclaration
  | create creation => creation.keys
  | addKey key => [key]
  | _ => []

/-- What statements after the definition of a relation say of its primary key, up to the next
definition of the same relation. -/
def laterClauses (id : RelationId) : List Action → List KeyClause
  | [] => []
  | create creation :: later => if creation.id = id then [] else laterClauses id later
  | setPrimaryKey table columns :: later =>
      if table = id then .list columns :: laterClauses id later else laterClauses id later
  | _ :: later => laterClauses id later

def definitions : List Action → List Definition
  | [] => []
  | create creation :: later =>
      creation.definition (laterClauses creation.id later) :: definitions later
  | _ :: later => definitions later

theorem mem_definitions_iff {definition : Definition} {log : List Action} :
    definition ∈ definitions log ↔ ∃ earlier creation later,
      log = earlier ++ create creation :: later ∧
        definition = creation.definition (laterClauses creation.id later) := by
  fun_induction definitions log with
  | case1 => simp
  | case2 first rest ih =>
      rw [List.mem_cons, ih]
      constructor
      · rintro (same | ⟨earlier, creation, later, rfl, same⟩)
        · exact ⟨[], first, rest, rfl, same⟩
        · exact ⟨create first :: earlier, creation, later, rfl, same⟩
      · rintro ⟨earlier, creation, later, whole, same⟩
        cases earlier with
        | nil =>
            cases whole
            exact .inl same
        | cons _ earlier =>
            cases whole
            exact .inr ⟨earlier, creation, later, rfl, same⟩
  | case3 action rest notCreate ih =>
      rw [ih]
      constructor
      · rintro ⟨earlier, creation, later, rfl, same⟩
        exact ⟨action :: earlier, creation, later, rfl, same⟩
      · rintro ⟨earlier, creation, later, whole, same⟩
        cases earlier with
        | nil =>
            cases whole
            exact absurd rfl (notCreate creation)
        | cons _ earlier =>
            cases whole
            exact ⟨earlier, creation, later, rfl, same⟩

theorem mem_ids_iff {log : List Action} {id : RelationId} :
    id ∈ (definitions log).map (·.id) ↔ ∃ creation, create creation ∈ log ∧ creation.id = id := by
  simp only [List.mem_map, mem_definitions_iff]
  constructor
  · rintro ⟨_, ⟨earlier, creation, later, rfl, rfl⟩, same⟩
    exact ⟨creation, by simp, same⟩
  · rintro ⟨creation, created, same⟩
    obtain ⟨earlier, later, rfl⟩ := List.append_of_mem created
    exact ⟨_, ⟨earlier, creation, later, rfl, rfl⟩, same⟩

theorem laterClauses_append (id : RelationId) (log more : List Action) :
    laterClauses id (log ++ more) = laterClauses id log ++
      if id ∈ (definitions log).map (·.id) then [] else laterClauses id more := by
  fun_induction laterClauses id log with
  | case1 => simp [definitions]
  | case2 creation later same => simp [laterClauses, definitions, Creation.definition, same]
  | case3 creation later other ih =>
      simp [laterClauses, definitions, Creation.definition, other, ih, Ne.symm other]
  | case4 columns later ih => simp [laterClauses, definitions, ih]
  | case5 table columns later other ih => simp [laterClauses, definitions, other, ih]
  | case6 action later notCreate notSet ih =>
      cases action with
      | pass => simpa [laterClauses, definitions] using ih
      | addKey key => simpa [laterClauses, definitions] using ih
      | create creation => exact absurd rfl (notCreate creation)
      | setPrimaryKey table columns => exact absurd rfl (notSet table columns)

theorem definitions_append_create (log : List Action) (creation : Creation) :
    definitions (log ++ [create creation]) = definitions log ++ [creation.definition []] := by
  have none (id : RelationId) : laterClauses id [create creation] = [] := by
    rw [laterClauses]
    split <;> rfl
  fun_induction definitions log with
  | case1 => simp [definitions, laterClauses]
  | case2 first later ih => simp [definitions, laterClauses_append, none, ih]
  | case3 action later notCreate ih =>
      rw [List.cons_append, definitions, ih]
      exact notCreate

theorem replaceKey_append (id : RelationId) (names : List String) (first second : List Definition) :
    Draft.replaceKey id names (first ++ second) =
      if id ∈ first.map (·.id) then Draft.replaceKey id names first ++ second
      else first ++ Draft.replaceKey id names second := by
  induction first with
  | nil => rfl
  | cons definition first ih =>
      rw [List.cons_append, Draft.replaceKey, Draft.replaceKey]
      by_cases same : definition.id = id
      · simp [same]
      · rw [if_neg same, if_neg same, ih]
        simp only [List.map_cons, List.mem_cons, Ne.symm same, false_or]
        split <;> rfl

theorem finalKey_append_list (clauses : List KeyClause) (names : List String) :
    finalKey (clauses ++ [.list names]) = names := by
  rw [finalKey, List.foldl_append]
  rfl

theorem definitions_append_setPrimaryKey (log : List Action) (table : RelationId)
    (columns : List String) :
    definitions (log ++ [setPrimaryKey table columns]) =
      (Draft.replaceKey table columns (definitions log).reverse).reverse := by
  fun_induction definitions log with
  | case1 => rfl
  | case2 creation later ih =>
      rw [List.cons_append, definitions, ih, List.reverse_cons, replaceKey_append,
        laterClauses_append]
      have reversed : table ∈ (definitions later).reverse.map (·.id) ↔
          table ∈ (definitions later).map (·.id) := by
        rw [List.map_reverse, List.mem_reverse]
      by_cases known : table ∈ (definitions later).map (·.id)
      · -- A later definition takes the key, and this one has no later clause.
        have none : (if creation.id ∈ (definitions later).map (·.id) then []
            else laterClauses creation.id [setPrimaryKey table columns]) = [] := by
          split
          · rfl
          · rename_i last
            have other : table ≠ creation.id := fun same => last (same ▸ known)
            simp [laterClauses, other]
        rw [if_pos (reversed.mpr known), none]
        simp
      · have kept : Draft.replaceKey table columns (definitions later).reverse =
            (definitions later).reverse := by
          have whole := replaceKey_append table columns (definitions later).reverse []
          rw [if_neg (mt reversed.mp known), List.append_nil] at whole
          rw [whole]
          simp [Draft.replaceKey]
        rw [if_neg (mt reversed.mp known), kept, Draft.replaceKey]
        by_cases same : creation.id = table
        · subst same
          simp [known, laterClauses, Creation.definition, ← List.append_assoc,
            finalKey_append_list]
        · simp [Ne.symm same, same, laterClauses, Creation.definition, Draft.replaceKey]
  | case3 action later notCreate ih =>
      rw [List.cons_append, definitions, ih]
      exact notCreate

theorem definitions_append_other {action : Action} (log : List Action)
    (notCreate : ∀ creation, action ≠ create creation)
    (notSet : ∀ table columns, action ≠ setPrimaryKey table columns) :
    definitions (log ++ [action]) = definitions log := by
  have none (id : RelationId) : laterClauses id [action] = [] := by
    cases action with
    | create creation => exact absurd rfl (notCreate creation)
    | setPrimaryKey table columns => exact absurd rfl (notSet table columns)
    | _ => rfl
  fun_induction definitions log with
  | case1 => cases action <;> simp_all [definitions]
  | case2 creation later ih => simp [definitions, laterClauses_append, none, ih]
  | case3 first later other ih =>
      rw [List.cons_append, definitions, ih]
      exact other

end Action

/-- What a history defines: each created relation, with the clauses of later statements. -/
theorem Draft.definitions_replay (log : List Action) :
    (Draft.replay {} log).definitions = Action.definitions log := by
  induction log using List.reverseRecOn with
  | nil => rfl
  | append_singleton log action ih =>
      rw [Draft.replay, List.foldl_append]
      change (Draft.perform (Draft.replay {} log) action).definitions = _
      cases action with
      | create creation =>
          rw [Action.definitions_append_create, ← ih]
          rfl
      | setPrimaryKey table columns =>
          rw [Action.definitions_append_setPrimaryKey, ← ih]
          rfl
      | pass => rw [Action.definitions_append_other log (by simp) (by simp), ← ih]; rfl
      | addKey key => rw [Action.definitions_append_other log (by simp) (by simp), ← ih]; rfl

theorem Draft.keys_replay (draft : Draft) (log : List Action) :
    (draft.replay log).keys = draft.keys ++ log.flatMap Action.keys := by
  induction log generalizing draft with
  | nil => simp [Draft.replay]
  | cons action log ih =>
      rw [List.flatMap_cons, ← List.append_assoc]
      refine (ih (draft.perform action)).trans (congrArg (· ++ _) ?_)
      cases action <;> simp [Draft.perform, Action.keys, Draft.add, Draft.addKey,
        Draft.setPrimaryKey]

theorem exists_history_of_readCatalog {dump : String} {productName : Option String}
    {catalog : Catalog} (read : readCatalog dump productName = .ok catalog) :
    ∃ product log, productOf? dump productName = some product ∧
      history product (scan dump) = .ok log ∧
      catalog = (Draft.replay {} log).catalog product := by
  obtain ⟨product, draft, found, statements, built⟩ := exists_product_of_readCatalog read
  rw [readStatements_eq_replay] at statements
  cases logged : history product (scan dump) with
  | error cause =>
      rw [logged] at statements
      cases statements
  | ok log =>
      rw [logged] at statements
      cases statements
      exact ⟨product, log, found, logged, built⟩

theorem forall_history {P : Action → Prop} {log : List Action}
    (created : ∀ {tokens action left}, createAction product tokens = .ok (action, left) → P action)
    (altered : ∀ {tokens action left}, alterAction product tokens = .ok (action, left) → P action)
    (logged : history product tokens = .ok log) : ∀ action ∈ log, P action := by
  have cons {action : Action} {rest : Except DumpError (List Action)} {whole : List Action}
      (first : P action) (later : ∀ {log}, rest = .ok log → ∀ action ∈ log, P action)
      (logged : rest.map (action :: ·) = .ok whole) : ∀ action ∈ whole, P action := by
    cases rest with
    | error cause => cases logged
    | ok log =>
        cases logged
        exact List.forall_mem_cons.mpr ⟨first, later rfl⟩
  fun_induction history product tokens generalizing log with
  | case1 =>
      cases logged
      exact List.forall_mem_nil _
  | case2 => cases logged
  | case3 rest action left done shorter ih => exact cons (created done) ih logged
  | case4 => cases logged
  | case5 rest action left done shorter ih => exact cons (altered done) ih logged
  | case6 token rest notCreate notAlter ih => exact ih logged

theorem forall_creations {P : Creation → Prop} {log : List Action}
    (ofTable : ∀ {table inside body left}, readBody product table {} inside = .ok (body, left) →
      P { id := table, kind := .table, fields := body.fields
          clauses := bodyClauses product table {} inside, keys := body.keys })
    (ofView : ∀ view (columns : List String),
      P { id := view, kind := .view, fields := columns.map viewField })
    (logged : history product tokens = .ok log) {creation : Creation}
    (created : .create creation ∈ log) : P creation := by
  have all : ∀ action ∈ log, ∀ creation, action = .create creation → P creation := by
    refine forall_history ?_ ?_ logged
    · rintro tokens action left done creation rfl
      unfold createAction at done
      split at done
      · split at done
        · unfold tableAction at done
          split at done
          · split at done
            · cases done
            · rename_i content
              cases done
              exact ofTable content
          · cases done
        · cases done
      · split at done
        · cases done
          exact ofView _ _
        · cases done
      · cases done
    · rintro tokens action left done creation rfl
      unfold alterAction at done
      split at done
      · split at done
        · simp only at done
          unfold addedAction at done
          split at done
          · cases done
          · split at done <;> cases done
          · cases done
        · cases done
      · cases done
  exact all _ created creation rfl

end NestedQuery.SchemaDump

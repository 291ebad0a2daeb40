import NestedQuery.Proofs.SchemaDump.DumpedKeys

/-! Relations that a dump defines more than once. The last definition of an id is the one that the
catalog finds, and a primary key that is added later is added to this definition alone. -/

namespace NestedQuery.SchemaDump

namespace Action

/-- The primary key that a statement of its own gives to a relation. -/
def addedKey? (id : RelationId) : Action → Option (List String)
  | setPrimaryKey table columns => if table = id then some columns else none
  | _ => none

theorem laterClauses_eq_map {id : RelationId} {later : List Action}
    (last : ∀ other, create other ∈ later → other.id ≠ id) :
    laterClauses id later = (later.filterMap (addedKey? id)).map KeyClause.list := by
  fun_induction laterClauses id later with
  | case1 => rfl
  | case2 creation later same => exact absurd same (last creation List.mem_cons_self)
  | case3 creation later other ih =>
      rw [ih fun again member => last again (List.mem_cons_of_mem _ member)]
      rfl
  | case4 columns later ih =>
      rw [ih fun again member => last again (List.mem_cons_of_mem _ member)]
      simp [addedKey?]
  | case5 table columns later other ih =>
      rw [ih fun again member => last again (List.mem_cons_of_mem _ member)]
      simp [addedKey?, other]
  | case6 action later notCreate notSet ih =>
      rw [ih fun again member => last again (List.mem_cons_of_mem _ member)]
      cases action with
      | create creation => exact absurd rfl (notCreate creation)
      | setPrimaryKey table columns => exact absurd rfl (notSet table columns)
      | _ => rfl

theorem finalKey_append_lists (clauses : List KeyClause) (keys : List (List String)) :
    finalKey (clauses ++ keys.map KeyClause.list) = keys.getLast?.getD (finalKey clauses) := by
  induction keys using List.reverseRecOn with
  | nil => simp
  | append_singleton keys key _ =>
      rw [List.map_append, ← List.append_assoc, List.getLast?_concat]
      exact finalKey_append_list _ key

theorem exists_definitions_append (log more : List Action) :
    ∃ others, definitions (log ++ more) = others ++ definitions more ∧
      others.length = (definitions log).length := by
  fun_induction definitions log with
  | case1 => exact ⟨[], rfl, rfl⟩
  | case2 creation later ih =>
      obtain ⟨others, whole, count⟩ := ih
      refine ⟨creation.definition (laterClauses creation.id (later ++ more)) :: others, ?_,
        congrArg (· + 1) count⟩
      rw [List.cons_append, definitions, whole, List.cons_append]
  | case3 action later notCreate ih =>
      rw [List.cons_append, definitions]
      · exact ih
      · exact notCreate

end Action

/-- The definition of a relation in the end. A key that is added later takes the place of its own.
-/
def Creation.settled (creation : Creation) (later : List Action) : Definition where
  id := creation.id
  kind := creation.kind
  fields := creation.fields
  primaryKey :=
    (later.filterMap (Action.addedKey? creation.id)).getLast?.getD (finalKey creation.clauses)

namespace Draft

variable {later : List Action} {creation : Creation}

theorem exists_definitions_replay (earlier : List Action)
    (last : ∀ other, .create other ∈ later → other.id ≠ creation.id) :
    ∃ others more, (replay {} (earlier ++ .create creation :: later)).definitions =
        others ++ creation.settled later :: more ∧
      others.length = (replay {} earlier).definitions.length ∧
      ∀ definition ∈ more, definition.id ≠ creation.id := by
  obtain ⟨others, whole, count⟩ :=
    Action.exists_definitions_append earlier (.create creation :: later)
  have settled : creation.definition (Action.laterClauses creation.id later) =
      creation.settled later := by
    rw [Creation.definition, Action.laterClauses_eq_map last, Action.finalKey_append_lists]
    rfl
  refine ⟨others, Action.definitions later, ?_, ?_, ?_⟩
  · rw [definitions_replay, whole, Action.definitions, settled]
  · rw [definitions_replay, count]
  · intro definition member same
    obtain ⟨other, created, sameId⟩ :=
      Action.mem_ids_iff.mp (List.mem_map.mpr ⟨definition, member, same⟩)
    exact last other created sameId

theorem definition?_replay (earlier : List Action)
    (last : ∀ other, .create other ∈ later → other.id ≠ creation.id) :
    (replay {} (earlier ++ .create creation :: later)).definition? creation.id =
      some (creation.settled later) := by
  obtain ⟨others, more, whole, -, noneLater⟩ := exists_definitions_replay earlier last
  have passed : more.reverse.find? (·.id == creation.id) = none := by
    rw [List.find?_eq_none]
    intro definition member
    simpa using noneLater definition (List.mem_reverse.mp member)
  rw [definition?, whole, List.reverse_append, List.reverse_cons, List.append_assoc,
    List.find?_append, passed]
  simp [Creation.settled]

theorem definitions_setPrimaryKey {draft : Draft} {others more : List Definition}
    {definition : Definition} (whole : draft.definitions = others ++ definition :: more)
    (noneLater : ∀ other ∈ more, other.id ≠ definition.id) (columns : List String) :
    (draft.setPrimaryKey definition.id columns).definitions =
      others ++ { definition with primaryKey := columns } :: more := by
  have passed : definition.id ∉ more.reverse.map (·.id) := by
    intro member
    obtain ⟨other, inside, same⟩ := List.mem_map.mp member
    exact noneLater other (List.mem_reverse.mp inside) same
  have reversed : draft.definitions.reverse = more.reverse ++ definition :: others.reverse := by
    simp [whole]
  rw [setPrimaryKey, reversed, Action.replaceKey_append, if_neg passed, replaceKey, if_pos rfl]
  simp

end Draft

/-- A catalog read from a dump finds the relations that the dump creates, each as its last
definition in the dump. A primary key that is added after this definition is added to it and to no
other. -/
theorem last_definition_found {dump : String} {productName : Option String} {catalog : Catalog}
    (read : readCatalog dump productName = .ok catalog) :
    ∃ product log, productOf? dump productName = some product ∧
      history product (scan dump) = .ok log ∧
      readStatements product {} (scan dump) = .ok (Draft.replay {} log) ∧
      (∀ id, (catalog.relation? id).isSome ↔
        ∃ creation, Action.create creation ∈ log ∧ creation.id = id) ∧
      ∀ earlier creation later, log = earlier ++ Action.create creation :: later →
        (∀ other, Action.create other ∈ later → other.id ≠ creation.id) →
          catalog.relation? creation.id = some (creation.settled later).relation ∧
          ∀ between columns after,
            later = between ++ Action.setPrimaryKey creation.id columns :: after →
            ∃ others more,
              others.length = (Draft.replay {} earlier).definitions.length ∧
              (Draft.replay {} (earlier ++ Action.create creation :: between)).definitions =
                others ++ creation.settled between :: more ∧
              (Draft.replay {} (earlier ++ Action.create creation :: between ++
                  [Action.setPrimaryKey creation.id columns])).definitions =
                others ++ { creation.settled between with primaryKey := columns } :: more := by
  obtain ⟨product, log, found, logged, rfl⟩ := exists_history_of_readCatalog read
  refine ⟨product, log, found, logged, ?_, fun _ => isSome_relation?_replay, ?_⟩
  · rw [readStatements_eq_replay, logged]
    rfl
  · rintro earlier creation later rfl last
    refine ⟨?_, ?_⟩
    · rw [Draft.relation?_catalog, Draft.definition?_replay earlier last]
      rfl
    · rintro between columns after rfl
      have lastSoFar : ∀ other, Action.create other ∈ between → other.id ≠ creation.id :=
        fun other member => last other (List.mem_append_left _ member)
      obtain ⟨others, more, whole, count, noneLater⟩ :=
        Draft.exists_definitions_replay earlier lastSoFar
      refine ⟨others, more, count, whole, ?_⟩
      rw [Draft.replay, List.foldl_append]
      exact Draft.definitions_setPrimaryKey whole noneLater columns

namespace Cranes

def dump : String :=
  "CREATE VIEW dock.crane (id);\n" ++
  "CREATE TABLE \"dock.crane\" (id INT);\n" ++
  "CREATE TABLE dock.crane (no INT, berth INT, PRIMARY KEY (no));\n" ++
  "ALTER TABLE dock.crane ADD PRIMARY KEY (berth, no);"

def view : Creation where
  id := ⟨some "dock", "crane"⟩
  kind := .view
  fields := [viewField "id"]

def dotted : Creation where
  id := ⟨none, "dock.crane"⟩
  kind := .table
  fields := [columnField .generic "id" "INT" false]

def table : Creation where
  id := ⟨some "dock", "crane"⟩
  kind := .table
  fields := [columnField .generic "no" "INT" false, columnField .generic "berth" "INT" false]
  clauses := [.list ["no"]]

def log : List Action :=
  [.create view, .create dotted, .create table, .setPrimaryKey table.id ["berth", "no"]]

def catalog : Catalog := (Draft.replay {} log).catalog .generic

theorem history_dump : history .generic (scan dump) = .ok log := by decide +kernel

theorem readCatalog_dump : readCatalog dump (some "generic") = .ok catalog := by
  refine readCatalog_of_product (by decide) ?_
  rw [readStatements_eq_replay, history_dump]
  rfl

end Cranes

theorem last_definition_found_cranes :
    readCatalog Cranes.dump (some "generic") = .ok Cranes.catalog ∧
      Cranes.catalog.relation? ⟨some "dock", "crane"⟩ = some
        { id := ⟨some "dock", "crane"⟩
          fields := [
            { columnField .generic "no" "INT" true with primaryKeyPart := some 2 },
            { columnField .generic "berth" "INT" true with primaryKeyPart := some 1 }] } ∧
      Cranes.catalog.relation? ⟨none, "dock.crane"⟩ = some
        { id := ⟨none, "dock.crane"⟩, fields := Cranes.dotted.fields } := by
  obtain ⟨product, log, found, logged, -, -, isLast⟩ :=
    last_definition_found Cranes.readCatalog_dump
  have known : productOf? Cranes.dump (some "generic") = some .generic := by decide +kernel
  obtain rfl : .generic = product := Option.some.inj (known.symm.trans found)
  obtain rfl : Cranes.log = log := Except.ok.inj (Cranes.history_dump.symm.trans logged)
  have crane := (isLast [.create Cranes.view, .create Cranes.dotted] Cranes.table
    [.setPrimaryKey Cranes.table.id ["berth", "no"]] rfl (by simp)).1
  have dotted := (isLast [.create Cranes.view] Cranes.dotted
    [.create Cranes.table, .setPrimaryKey Cranes.table.id ["berth", "no"]] rfl (by
      intro other created
      obtain rfl : other = Cranes.table := by simpa using created
      decide)).1
  exact ⟨Cranes.readCatalog_dump, crane, dotted⟩

end NestedQuery.SchemaDump

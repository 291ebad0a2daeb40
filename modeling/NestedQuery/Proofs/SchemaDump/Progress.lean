import NestedQuery.Proofs.SchemaDump.LetterCase
import NestedQuery.Proofs.SchemaDump.Positions

/-! Reading a dump always gets on. The readers that repeat something do so in loops; each pass of a
loop leaves it or goes on at a later place, so that a loop is left after at most one pass more than
there are items to read. -/

namespace NestedQuery.SchemaDump

/-- What one pass of a loop over a list does. -/
inductive Pass (ι σ ρ : Type) where
  | leave (result : ρ)
  | again (state : σ) (left : List ι)

section Loops

variable {ι σ ρ : Type}

def runLoop (pass : σ → List ι → Pass ι σ ρ) : (passes : Nat) → σ → List ι → Option ρ
  | 0, _, _ => none
  | passes + 1, state, items =>
      match pass state items with
      | .leave result => some result
      | .again changed left => runLoop pass passes changed left

/-- Every pass that does not leave the loop goes forward, and a loop of such passes is all that the
reader does. -/
structure Progresses (pass : σ → List ι → Pass ι σ ρ) (reader : σ → List ι → ρ) : Prop where
  forward : ∀ {state items changed left}, pass state items = .again changed left →
    left <:+ items ∧ left.length < items.length
  ends : ∀ passes state items, items.length < passes →
    runLoop pass passes state items = some (reader state items)

variable {pass : σ → List ι → Pass ι σ ρ} {reader : σ → List ι → ρ}

/-- A pass does what the reader does: it leaves with the reader's result, or takes the reader to a
later place. -/
def Pass.Fits (reader : σ → List ι → ρ) (state : σ) (items : List ι) : Pass ι σ ρ → Prop
  | .leave result => reader state items = result
  | .again changed left =>
      (left <:+ items ∧ left.length < items.length) ∧ reader state items = reader changed left

theorem Progresses.of_fits (fits : ∀ state items, (pass state items).Fits reader state items) :
    Progresses pass reader := by
  constructor
  · intro state items changed left goesOn
    have fit := fits state items
    rw [goesOn] at fit
    exact fit.1
  · intro passes
    induction passes with
    | zero =>
        intro state items bound
        omega
    | succ passes ih =>
        intro state items bound
        have fit := fits state items
        rw [runLoop]
        cases step : pass state items with
        | leave result =>
            rw [step] at fit
            exact congrArg some fit.symm
        | again changed left =>
            rw [step] at fit
            obtain ⟨⟨-, shorter⟩, same⟩ := fit
            rw [same]
            exact ih changed left (by omega)

theorem rest_forward {item : ι} {left rest : List ι} (suffix : left <:+ rest) :
    left <:+ item :: rest ∧ left.length < (item :: rest).length :=
  ⟨suffix.trans (List.suffix_cons item rest), Nat.lt_succ_of_le suffix.length_le⟩

def Pass.ofStep : Except DumpError (σ × List ι) → Pass ι σ (Except DumpError ρ)
  | .error cause => .leave (.error cause)
  | .ok (state, left) => .again state left

theorem Pass.Fits.ofStep {reader : σ → List ι → Except DumpError ρ} {state : σ} {items : List ι}
    {step : Except DumpError (σ × List ι)}
    (failed : ∀ {cause}, step = .error cause → reader state items = .error cause)
    (done : ∀ {changed left}, step = .ok (changed, left) →
      (left <:+ items ∧ left.length < items.length) ∧
        reader state items = reader changed left) :
    (Pass.ofStep step : Pass ι σ (Except DumpError ρ)).Fits reader state items := by
  cases step with
  | error cause => exact failed rfl
  | ok result => exact done rfl

end Loops

/-! The passes of the loops. -/

def statementPass (product : Product) (draft : Draft) :
    Tokens → Pass Token Draft (Except DumpError Draft)
  | [] => .leave (.ok draft)
  | token :: rest =>
      if token = .keyword .create then .ofStep (readCreate product draft rest)
      else if token = .keyword .alter then .ofStep (readAlter product draft rest)
      else .again draft rest

def bodyPass (product : Product) (table : RelationId) (body : TableBody) :
    Tokens → Pass Token TableBody (Except DumpError (TableBody × Tokens))
  | [] => .leave (.error (.expected .tableEnd none))
  | token :: rest =>
      if token = .closeParen then .leave (.ok (body, rest))
      else .ofStep (bodyStep product table body token rest)

def constraintPass (rule : CaseRule) (child : RelationId) (name : String) (facts : ColumnFacts) :
    Tokens → Pass Token ColumnFacts (Except DumpError (ColumnFacts × Tokens))
  | [] => .leave (.ok (facts, []))
  | token :: rest =>
      if token = .comma ∨ token = .closeParen then .leave (.ok (facts, token :: rest))
      else .ofStep (columnStep rule child name facts token rest)

def typePass (declared : Nat × String) : Tokens → Pass Token (Nat × String) (String × Tokens)
  | [] => .leave (declared.2, [])
  | token :: rest =>
      match extendType? declared.1 declared.2 token with
      | some longer => .again longer rest
      | none => .leave (declared.2, token :: rest)

def namesPass (rule : CaseRule) (names : List String) :
    Tokens → Pass Token (List String) (List String × Tokens)
  | [] => .leave (names, [])
  | token :: rest =>
      if token = .closeParen then .leave (names, rest)
      else .again (names ++ (nameOf? rule token).toList) rest

def actionPass (_ : Unit) : Tokens → Pass Token Unit Tokens
  | [] => .leave []
  | token :: rest =>
      if token = .keyword .on then .again () (skipAction (skipEvent rest))
      else .leave (token :: rest)

def untilPass (stops : List Token) (_ : Unit) : Tokens → Pass Token Unit Tokens
  | [] => .leave []
  | token :: rest =>
      if token ∈ stops then .leave (token :: rest)
      else if token = .openParen then .again () (skipParens (token :: rest))
      else .again () rest

def nestedPass : (depth : Nat) → Tokens → Pass Token Nat Tokens
  | 0, tokens => .leave tokens
  | _ + 1, [] => .leave []
  | depth + 1, token :: rest =>
      if token = .openParen then .again (depth + 2) rest
      else if token = .closeParen then .again depth rest
      else .again (depth + 1) rest

def statementEndPass (_ : Unit) : Tokens → Pass Token Unit Tokens
  | [] => .leave []
  | token :: rest => if token = .semicolon then .leave rest else .again () rest

def modifierPass (_ : Unit) : Tokens → Pass Token Unit Tokens
  | [] => .leave []
  | token :: rest =>
      if token.isWordIn createModifiers then .again () rest else .leave (token :: rest)

def scanPass (tokens : List Token) : List Char → Pass Char (List Token) (List Token)
  | [] => .leave tokens
  | c :: rest => .again (tokens ++ (readToken c rest).1.toList) (readToken c rest).2

theorem statements_progress (product : Product) :
    Progresses (statementPass product) (readStatements product) := by
  apply Progresses.of_fits
  intro draft tokens
  cases tokens with
  | nil => exact readStatements.eq_1 product draft
  | cons token rest =>
      rw [statementPass]
      split
      · rename_i isCreate
        subst isCreate
        exact .ofStep readStatements_create_failed fun done =>
          ⟨rest_forward (readCreate_suffix done), readStatements_create done⟩
      · split
        · rename_i isAlter
          subst isAlter
          exact .ofStep readStatements_alter_failed fun done =>
            ⟨rest_forward (readAlter_suffix done), readStatements_alter done⟩
        · rename_i notCreate notAlter
          refine ⟨rest_forward List.suffix_rfl, ?_⟩
          rw [readStatements]
          · exact notCreate
          · exact notAlter

theorem body_progress (product : Product) (table : RelationId) :
    Progresses (bodyPass product table) (readBody product table) := by
  apply Progresses.of_fits
  intro body tokens
  cases tokens with
  | nil => exact readBody.eq_1 product table body
  | cons token rest =>
      rw [bodyPass]
      split
      · rename_i isEnd
        subst isEnd
        exact readBody.eq_2 product table body rest
      · rename_i goesOn
        exact .ofStep (readBody_failed goesOn) fun done =>
          ⟨rest_forward (bodyStep_suffix done), readBody_step goesOn done⟩

theorem constraints_progress (rule : CaseRule) (child : RelationId) (name : String) :
    Progresses (constraintPass rule child name) (readConstraints rule child name) := by
  apply Progresses.of_fits
  intro facts tokens
  cases tokens with
  | nil => exact readConstraints.eq_1 rule child name facts
  | cons token rest =>
      rw [constraintPass]
      split
      · rename_i ends
        exact readConstraints_stop ends rule child name facts rest
      · rename_i goesOn
        exact .ofStep (readConstraints_failed goesOn) fun done =>
          ⟨rest_forward (columnStep_suffix done), readConstraints_step goesOn done⟩

theorem type_progress :
    Progresses typePass fun declared => readTypeFrom declared.1 declared.2 := by
  apply Progresses.of_fits
  intro declared tokens
  cases tokens with
  | nil => rfl
  | cons token rest =>
      rw [typePass]
      cases extended : extendType? declared.1 declared.2 token with
      | some longer =>
          refine ⟨rest_forward List.suffix_rfl, ?_⟩
          simp only [readTypeFrom, extended]
      | none => simp only [Pass.Fits, readTypeFrom, extended]

theorem names_progress (rule : CaseRule) :
    Progresses (namesPass rule) fun names tokens =>
      (names ++ (readNames rule tokens).1, (readNames rule tokens).2) := by
  apply Progresses.of_fits
  intro names tokens
  cases tokens with
  | nil => simp [Pass.Fits, namesPass, readNames]
  | cons token rest =>
      rw [namesPass]
      split
      · rename_i isEnd
        subst isEnd
        simp [Pass.Fits, readNames]
      · rename_i goesOn
        refine ⟨rest_forward List.suffix_rfl, ?_⟩
        have read := readNames.eq_3 rule token rest goesOn
        simp only [read, List.append_assoc]

theorem actions_progress : Progresses actionPass fun _ => skipActions := by
  apply Progresses.of_fits
  intro _ tokens
  cases tokens with
  | nil => exact skipActions.eq_1
  | cons token rest =>
      rw [actionPass]
      split
      · rename_i isOn
        refine ⟨rest_forward ((skipAction_suffix _).trans (skipEvent_suffix _)), ?_⟩
        simp only [skipActions, isOn, if_true]
      · rename_i notOn
        rw [Pass.Fits, skipActions, if_neg notOn]

theorem skipUntil_eq_skipNested (stops : List Token) (depth : Nat) (tokens : Tokens) :
    skipUntil stops depth tokens = skipUntil stops 0 (skipNested depth tokens) := by
  fun_induction skipNested depth tokens with
  | case1 tokens => rfl
  | case2 depth => rfl
  | case3 depth rest ih => exact ih
  | case4 depth rest ih => exact ih
  | case5 depth token rest notOpen notClose ih =>
      rw [skipUntil]
      · exact ih
      · exact notOpen
      · exact notClose

theorem until_progress (stops : List Token) :
    Progresses (untilPass stops) fun _ => skipUntil stops 0 := by
  apply Progresses.of_fits
  intro _ tokens
  cases tokens with
  | nil => rfl
  | cons token rest =>
      rw [untilPass]
      split
      · rename_i found
        rw [Pass.Fits, skipUntil, if_pos found]
      · rename_i notFound
        split
        · rename_i isOpen
          subst isOpen
          refine ⟨rest_forward (skipNested_suffix 1 rest), ?_⟩
          simp only [skipUntil, if_neg notFound, if_true]
          exact skipUntil_eq_skipNested stops 1 rest
        · rename_i notOpen
          refine ⟨rest_forward List.suffix_rfl, ?_⟩
          simp only [skipUntil, if_neg notFound, if_neg notOpen]

theorem nested_progress : Progresses nestedPass skipNested := by
  apply Progresses.of_fits
  intro depth tokens
  cases depth with
  | zero => rw [nestedPass, Pass.Fits, skipNested]
  | succ depth =>
      cases tokens with
      | nil => rfl
      | cons token rest =>
          rw [nestedPass]
          split
          · rename_i isOpen
            subst isOpen
            exact ⟨rest_forward List.suffix_rfl, rfl⟩
          · split
            · rename_i isClose
              subst isClose
              exact ⟨rest_forward List.suffix_rfl, rfl⟩
            · rename_i notOpen notClose
              refine ⟨rest_forward List.suffix_rfl, ?_⟩
              rw [skipNested]
              · exact notOpen
              · exact notClose

theorem statementEnd_progress : Progresses statementEndPass fun _ => skipStatement := by
  apply Progresses.of_fits
  intro _ tokens
  cases tokens with
  | nil => rfl
  | cons token rest =>
      rw [statementEndPass]
      split
      · rename_i isEnd
        subst isEnd
        rfl
      · rename_i goesOn
        exact ⟨rest_forward List.suffix_rfl, skipStatement.eq_3 token rest goesOn⟩

theorem modifiers_progress :
    Progresses modifierPass fun _ tokens => tokens.dropWhile (·.isWordIn createModifiers) := by
  apply Progresses.of_fits
  intro _ tokens
  cases tokens with
  | nil => rfl
  | cons token rest =>
      rw [modifierPass]
      split
      · rename_i modifier
        exact ⟨rest_forward List.suffix_rfl, List.dropWhile_cons_of_pos modifier⟩
      · rename_i other
        exact List.dropWhile_cons_of_neg other

theorem skipPast_suffix (mark text : List Char) : skipPast mark text <:+ text := by
  induction text with
  | nil => exact List.suffix_rfl
  | cons c rest ih =>
      rw [skipPast]
      split
      · exact List.drop_suffix _ _
      · exact ih.trans (List.suffix_cons c rest)

theorem readQuoted_suffix (quote : Char) (text : List Char) :
    (readQuoted quote text).2 <:+ text := by
  fun_induction readQuoted quote text with
  | case1 => exact List.suffix_rfl
  | case2 => exact List.nil_suffix
  | case3 after inside left found ih =>
      rw [found] at ih
      exact ih.trans ((List.suffix_cons _ _).trans (List.suffix_cons _ _))
  | case4 next after other => exact List.suffix_cons _ _
  | case5 c rest other inside left found ih =>
      rw [found] at ih
      exact ih.trans (List.suffix_cons _ _)

theorem readNumber_suffix (text : List Char) : (readNumber text).2 <:+ text := by
  have whole := List.dropWhile_suffix (l := text) Char.isDigit
  unfold readNumber
  split
  · rename_i after found
    rw [found] at whole
    split
    · exact (List.dropWhile_suffix _).trans ((List.suffix_cons _ _).trans whole)
    · exact whole
  · exact whole

theorem readToken_suffix (c : Char) (rest : List Char) : (readToken c rest).2 <:+ c :: rest := by
  have later {left : List Char} (suffix : left <:+ rest) : left <:+ c :: rest :=
    suffix.trans (List.suffix_cons c rest)
  unfold readToken
  split
  · exact later List.suffix_rfl
  split
  · exact later (skipPast_suffix _ _)
  split
  · exact later ((skipPast_suffix _ _).trans (List.tail_suffix rest))
  split
  · exact later (readNumber_suffix rest)
  split
  · exact readNumber_suffix (c :: rest)
  split
  · exact later (readQuoted_suffix c rest)
  split
  · exact later (readQuoted_suffix c rest)
  split
  · exact later (List.dropWhile_suffix _)
  · exact later List.suffix_rfl

theorem scan_progress : Progresses scanPass fun tokens text => tokens ++ scanChars text := by
  apply Progresses.of_fits
  intro tokens text
  cases text with
  | nil => simp [Pass.Fits, scanPass, scanChars]
  | cons c rest =>
      have shorter := length_readToken_le c rest
      refine ⟨⟨readToken_suffix c rest, Nat.lt_succ_of_le shorter⟩, ?_⟩
      simp only [scanChars, List.append_assoc]

theorem length_scanChars_le (text : List Char) : (scanChars text).length ≤ text.length := by
  fun_induction scanChars text with
  | case1 => exact Nat.le_refl _
  | case2 c rest ih =>
      have shorter := length_readToken_le c rest
      have one : (readToken c rest).1.toList.length ≤ 1 := by
        cases (readToken c rest).1 <;> simp
      simp only [List.length_append, List.length_cons]
      omega

structure GetsOn (product : Product) : Prop where
  routines : ∀ (routine : Routine) (tokens : Tokens),
    Within tokens (routine.leaves product tokens)
  statements : Progresses (statementPass product) (readStatements product)
  tableBody : ∀ table, Progresses (bodyPass product table) (readBody product table)
  constraints : ∀ child name, Progresses (constraintPass product.caseRule child name)
    (readConstraints product.caseRule child name)
  declaredType : Progresses typePass fun declared => readTypeFrom declared.1 declared.2
  columnList : Progresses (namesPass product.caseRule) fun names tokens =>
    (names ++ (readNames product.caseRule tokens).1, (readNames product.caseRule tokens).2)
  actions : Progresses actionPass fun _ => skipActions
  upTo : ∀ stops, Progresses (untilPass stops) fun _ => skipUntil stops 0
  parens : Progresses nestedPass skipNested
  statementEnd : Progresses statementEndPass fun _ => skipStatement
  modifiers : Progresses modifierPass fun _ tokens =>
    tokens.dropWhile (·.isWordIn createModifiers)

/-- The catalog of a dump, if neither the loop over its characters nor the one over its statements
takes more than so many passes. -/
def readWithin (passes : Nat) (dump : String) (productName : Option String) :
    Option (Except DumpError Catalog) :=
  match productOf? dump productName with
  | none => some (.error (.unknownProduct (productName.getD "")))
  | some product => do
      let tokens ← runLoop scanPass passes [] dump.toList
      let outcome ← runLoop (statementPass product) passes {} tokens
      return outcome.map (·.catalog product)

theorem readCatalog_of_unknown {dump : String} {productName : Option String}
    (unknown : productOf? dump productName = none) :
    readCatalog dump productName = .error (.unknownProduct (productName.getD "")) := by
  cases productName with
  | none => cases unknown
  | some name =>
      have notKnown : Product.ofName? name = none := Option.map_eq_none_iff.mp unknown
      rw [readCatalog]
      simp only [notKnown]
      rfl

theorem readCatalog_of_known {dump : String} {productName : Option String} {product : Product}
    (found : productOf? dump productName = some product) :
    readCatalog dump productName =
      (readStatements product {} (scan dump)).map (·.catalog product) := by
  have ofProduct (product : Product) :
      (do let draft ← readStatements product {} (scan dump)
          return draft.catalog product) =
        (readStatements product {} (scan dump)).map (·.catalog product) := by
    cases readStatements product {} (scan dump) <;> rfl
  cases productName with
  | none =>
      obtain rfl := Option.some.inj found
      exact ofProduct _
  | some name =>
      obtain ⟨named, known, rfl⟩ := Option.map_eq_some_iff.mp found
      simp only [readCatalog, known]
      exact ofProduct _

/-- Every loop of the reader gets on with each pass, and no routine leaves the tokens; so a dump is
read to its catalog or its error within one pass more than it has characters. -/
theorem reading_gets_on :
    (∀ product, GetsOn product) ∧
      ∀ dump productName, readWithin (dump.toList.length + 1) dump productName =
        some (readCatalog dump productName) := by
  constructor
  · intro product
    exact ⟨fun routine tokens => routine.within product tokens, statements_progress product,
      body_progress product, constraints_progress product.caseRule, type_progress,
      names_progress product.caseRule, actions_progress, until_progress, nested_progress,
      statementEnd_progress, modifiers_progress⟩
  · intro dump productName
    rw [readWithin]
    cases found : productOf? dump productName with
    | none => rw [readCatalog_of_unknown found]
    | some product =>
        have scanned : runLoop scanPass (dump.toList.length + 1) [] dump.toList =
            some (scan dump) :=
          scan_progress.ends (dump.toList.length + 1) [] dump.toList (by omega)
        have bound : (scan dump).length ≤ dump.toList.length := length_scanChars_le dump.toList
        have read := (statements_progress product).ends (dump.toList.length + 1) {} (scan dump)
          (by omega)
        rw [readCatalog_of_known found]
        simp only [scanned, read, Option.bind_eq_bind, Option.bind_some, Option.pure_def]

end NestedQuery.SchemaDump

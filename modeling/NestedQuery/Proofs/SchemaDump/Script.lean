import NestedQuery.Proofs.SchemaDump.Nesting
import NestedQuery.Proofs.SchemaDump.Parsing

/-! Scripts that state keys in different places: at a column, at its table, or in a statement of
their own. Names are written in any way in which they are read as names. Each statement of a script
is read as one change of what is defined so far. -/

namespace NestedQuery.SchemaDump

structure Spelling (rule : CaseRule) where
  token : Token
  name : String
  spells : nameOf? rule token = some name := by decide +kernel

structure WrittenId (rule : CaseRule) where
  schema : Option (Spelling rule) := none
  name : Spelling rule

/-- Tokens that say nothing of a column. -/
def idles : Token → Bool
  | .keyword keyword =>
      keyword ∉ [Keyword.primary, .not, .default, .constraint, .references, .check]
  | .openParen | .closeParen | .comma => false
  | _ => true

/-- A type that is read up to words which say nothing, such as `integer generated as identity`. -/
structure WrittenType where
  tokens : Tokens
  balanced : Balanced tokens := by decide +kernel
  present : (readDeclaredType tokens).1.isEmpty = false := by decide +kernel
  rest : (readDeclaredType tokens).2.all idles = true := by decide +kernel

def WrittenType.declared (type : WrittenType) : String := (readDeclaredType type.tokens).1

/-- Without columns the reference is to the primary key of the parent. -/
structure WrittenReference (rule : CaseRule) where
  constraintName : Option (Spelling rule) := none
  parent : WrittenId rule
  columns : List (Spelling rule) := []

def separates (token : Token) : Bool :=
  token ≠ .dot && token ≠ .keyword .on && (extendType? 0 "" token).isNone

inductive Clause (rule : CaseRule) where
  | notNull
  | primaryKey
  | references (reference : WrittenReference rule)
  | other (token : Token) (idle : idles token = true) (apart : separates token = true)

structure WrittenColumn (rule : CaseRule) where
  name : Spelling rule
  included : name.token.isWordIn ["like", "exclude"] = false := by decide +kernel
  type : WrittenType
  clauses : List (Clause rule) := []

inductive Part (rule : CaseRule) where
  | column (written : WrittenColumn rule)
  | primaryKey (constraintName : Option (Spelling rule)) (columns : List (Spelling rule))
  | foreignKey (columns : List (Spelling rule)) (reference : WrittenReference rule)

inductive Statement (rule : CaseRule) where
  | create (table : WrittenId rule) (parts : List (Part rule))
  | addPrimaryKey (only : Bool) (table : WrittenId rule) (constraintName : Option (Spelling rule))
      (columns : List (Spelling rule))
  | addForeignKey (only : Bool) (table : WrittenId rule) (columns : List (Spelling rule))
      (reference : WrittenReference rule)

variable {rule : CaseRule}

def WrittenId.id (written : WrittenId rule) : RelationId :=
  ⟨written.schema.map (·.name), written.name.name⟩

def WrittenId.tokens (written : WrittenId rule) : Tokens :=
  match written.schema with
  | none => [written.name.token]
  | some schema => [schema.token, .dot, written.name.token]

def listTokens (names : List (Spelling rule)) : Tokens :=
  .openParen :: (separated (names.map ([·.token])) ++ [.closeParen])

def constraintTokens : Option (Spelling rule) → Tokens
  | none => []
  | some name => [.keyword .constraint, name.token]

namespace WrittenReference

def columnTokens (reference : WrittenReference rule) : Tokens :=
  if reference.columns.isEmpty then [] else listTokens reference.columns

def tokens (reference : WrittenReference rule) : Tokens :=
  .keyword .references :: (reference.parent.tokens ++ reference.columnTokens)

def declaration (reference : WrittenReference rule) (child : RelationId)
    (childFields : List String) : KeyDeclaration where
  constraintName := reference.constraintName.map (·.name)
  child := child
  childFields := childFields
  parent := reference.parent.id
  parentFields := reference.columns.map (·.name)

end WrittenReference

def Clause.tokens : Clause rule → Tokens
  | notNull => [.keyword .not, .keyword .null]
  | primaryKey => [.keyword .primary, .keyword .key]
  | references reference => constraintTokens reference.constraintName ++ reference.tokens
  | other token _ _ => [token]

def WrittenColumn.tokens (column : WrittenColumn rule) : Tokens :=
  column.name.token :: (column.type.tokens ++ column.clauses.flatMap Clause.tokens)

def primaryKeyTokens (constraintName : Option (Spelling rule)) (columns : List (Spelling rule)) :
    Tokens :=
  constraintTokens constraintName ++ .keyword .primary :: .keyword .key :: listTokens columns

def foreignKeyTokens (columns : List (Spelling rule)) (reference : WrittenReference rule) :
    Tokens :=
  constraintTokens reference.constraintName ++
    .keyword .foreign :: .keyword .key :: (listTokens columns ++ reference.tokens)

def Part.tokens : Part rule → Tokens
  | column written => written.tokens
  | primaryKey constraintName columns => primaryKeyTokens constraintName columns
  | foreignKey columns reference => foreignKeyTokens columns reference

def alterTokens (only : Bool) (table : WrittenId rule) : Tokens :=
  .keyword .alter :: .keyword .table :: ((if only then [.keyword .only] else []) ++
    (table.tokens ++ [.keyword .add]))

def Statement.tokens : Statement rule → Tokens
  | create table parts =>
      .keyword .create :: .keyword .table :: (table.tokens ++ .openParen ::
        (separated (parts.map Part.tokens) ++ [.closeParen, .semicolon]))
  | addPrimaryKey only table constraintName columns =>
      alterTokens only table ++ (primaryKeyTokens constraintName columns ++ [.semicolon])
  | addForeignKey only table columns reference =>
      alterTokens only table ++ (foreignKeyTokens columns reference ++ [.semicolon])

def Clause.apply (child : RelationId) (name : String) (facts : ColumnFacts) :
    Clause rule → ColumnFacts
  | notNull => { facts with notNull := true }
  | primaryKey => { facts with notNull := true, primaryKey := facts.primaryKey ++ [name] }
  | references reference =>
      { facts with keys := facts.keys ++ [reference.declaration child [name]] }
  | other _ _ _ => facts

def WrittenColumn.facts (column : WrittenColumn rule) (child : RelationId) : ColumnFacts :=
  column.clauses.foldl (Clause.apply child column.name.name) {}

def columnField (product : Product) (name declared : String) (notNull : Bool) : Field :=
  let type := product.columnType declared
  { name
    typeCode := type.code
    databaseType := type.databaseType
    length := type.length
    precision := type.precision
    fractionalDigits := type.fractionalDigits
    nullable := some !notNull }

def Part.apply (product : Product) (table : RelationId) (body : TableBody) :
    Part rule → TableBody
  | column written =>
      let facts := written.facts table
      { body with
        fields := body.fields ++
          [columnField product written.name.name written.type.declared facts.notNull]
        primaryKey := body.primaryKey ++ facts.primaryKey
        keys := body.keys ++ facts.keys }
  | primaryKey _ columns => { body with primaryKey := columns.map (·.name) }
  | foreignKey columns reference =>
      { body with keys := body.keys ++ [reference.declaration table (columns.map (·.name))] }

def Statement.apply (product : Product) (draft : Draft) : Statement rule → Draft
  | create table parts =>
      let body := parts.foldl (Part.apply product table.id) {}
      draft.add { id := table.id, kind := .table, fields := body.fields,
                  primaryKey := body.primaryKey } body.keys
  | addPrimaryKey _ table _ columns => draft.setPrimaryKey table.id (columns.map (·.name))
  | addForeignKey _ table columns reference =>
      draft.addKey (reference.declaration table.id (columns.map (·.name)))

theorem readName_spelling (name : Spelling rule) (rest : Tokens) :
    readName rule (name.token :: rest) = (some name.name, rest) := by
  simp [readName, name.spells]

theorem readRelationId_written (written : WrittenId rule) {rest : Tokens}
    (undotted : rest.head? ≠ some .dot) :
    readRelationId rule (written.tokens ++ rest) = (some written.id, rest) := by
  obtain ⟨schema, name⟩ := written
  cases schema with
  | none =>
      cases rest with
      | nil => simp [WrittenId.tokens, WrittenId.id, readRelationId, readName_spelling]
      | cons token rest =>
          have other : token ≠ .dot := by simpa using undotted
          simp [WrittenId.tokens, WrittenId.id, readRelationId, readName_spelling, other]
  | some schema => simp [WrittenId.tokens, WrittenId.id, readRelationId, readName_spelling]

theorem readNames_spelling (name : Spelling rule) (rest : Tokens) :
    readNames rule (name.token :: rest) =
      (name.name :: (readNames rule rest).1, (readNames rule rest).2) := by
  have notClose := (nameOf?_ne_paren name.spells).2
  rw [readNames]
  · simp [name.spells]
  · exact notClose

theorem readNames_spellings (names : List (Spelling rule)) (rest : Tokens) :
    readNames rule (separated (names.map ([·.token])) ++ .closeParen :: rest) =
      (names.map (·.name), rest) := by
  induction names with
  | nil => rfl
  | cons name names ih =>
      cases names with
      | nil => simp [separated_singleton, readNames_spelling, readNames]
      | cons next names =>
          simp only [List.map_cons, separated_cons_cons] at ih ⊢
          simp [readNames_spelling, readNames, nameOf?, ih]

theorem readColumnList_list (names : List (Spelling rule)) (rest : Tokens) :
    readColumnList rule (listTokens names ++ rest) = (names.map (·.name), rest) := by
  have read := readNames_spellings names rest
  simpa [listTokens, readColumnList] using read

theorem readColumnList_reference (reference : WrittenReference rule) {rest : Tokens}
    (unopened : rest.head? ≠ some .openParen) :
    readColumnList rule (reference.columnTokens ++ rest) =
      (reference.columns.map (·.name), rest) := by
  unfold WrittenReference.columnTokens
  cases empty : reference.columns.isEmpty with
  | false => simpa using readColumnList_list reference.columns rest
  | true =>
      have none : reference.columns = [] := List.isEmpty_iff.mp empty
      cases rest with
      | nil => simp [none, readColumnList]
      | cons token rest =>
          have other : token ≠ .openParen := by simpa using unopened
          simp [none, readColumnList, other]

theorem separates_facts {token : Token} (apart : separates token = true) :
    token ≠ .dot ∧ token ≠ .keyword .on ∧ ∀ declared, extendType? 0 declared token = none := by
  simp only [separates, Bool.and_eq_true, decide_eq_true_eq, Option.isNone_iff_eq_none] at apart
  obtain ⟨⟨notDot, notOn⟩, ended⟩ := apart
  refine ⟨notDot, notOn, ?_⟩
  intro declared
  cases token with
  | word text =>
      by_cases stop : (Token.word text).isWordIn typeStops = true
      · simp [extendType?, stop]
      · simp [extendType?, stop] at ended
  | openParen => cases ended
  | _ => rfl

theorem separates_ne_openParen {token : Token} (apart : separates token = true) :
    token ≠ .openParen := by
  rintro rfl
  cases apart

theorem skipActions_separates {stop : Token} (apart : separates stop = true) (rest : Tokens) :
    skipActions (stop :: rest) = stop :: rest := by
  rw [skipActions, if_neg (separates_facts apart).2.1]

theorem readReference_written (reference : WrittenReference rule) {stop : Token}
    (apart : separates stop = true) (rest : Tokens) :
    readReference rule (reference.parent.tokens ++ (reference.columnTokens ++ stop :: rest)) =
      .ok ((reference.parent.id, reference.columns.map (·.name)), stop :: rest) := by
  have unopened : (stop :: rest).head? ≠ some .openParen := by
    simpa using separates_ne_openParen apart
  have undotted : (reference.columnTokens ++ stop :: rest).head? ≠ some .dot := by
    unfold WrittenReference.columnTokens
    split
    · simpa using (separates_facts apart).1
    · simp [listTokens]
  simp [readReference, readRelationId_written _ undotted, readColumnList_reference _ unopened]

theorem columnStep_idle {token : Token} (idle : idles token = true) (child : RelationId)
    (name : String) (facts : ColumnFacts) (rest : Tokens) :
    columnStep rule child name facts token rest = .ok (facts, rest) := by
  cases token with
  | keyword keyword => cases keyword <;> first | rfl | cases idle
  | openParen => cases idle
  | _ => rfl

theorem not_endsItem_of_idles {token : Token} (idle : idles token = true) : ¬EndsItem token := by
  rintro (rfl | rfl)
  · cases idle
  · cases idle

theorem readConstraints_idle {tokens : Tokens} (idle : tokens.all idles = true)
    (child : RelationId) (name : String) (facts : ColumnFacts) (rest : Tokens) :
    readConstraints rule child name facts (tokens ++ rest) =
      readConstraints rule child name facts rest := by
  induction tokens with
  | nil => rfl
  | cons token tokens ih =>
      obtain ⟨first, later⟩ : idles token = true ∧ tokens.all idles = true := by
        simpa using idle
      have step := @columnStep_idle rule token first child name facts (tokens ++ rest)
      rw [List.cons_append, readConstraints_step (not_endsItem_of_idles first) step, ih later]

theorem readConstraints_clause (child : RelationId) (name : String) {facts : ColumnFacts}
    (unnamed : facts.constraintName = none) (clause : Clause rule) {stop : Token}
    (apart : separates stop = true) (rest : Tokens) :
    readConstraints rule child name facts (clause.tokens ++ stop :: rest) =
      readConstraints rule child name (clause.apply child name facts) (stop :: rest) := by
  cases clause with
  | notNull => exact readConstraints_step (by simp [EndsItem]) rfl
  | primaryKey => exact readConstraints_step (by simp [EndsItem]) rfl
  | other token idle _ =>
      exact readConstraints_step (not_endsItem_of_idles idle) (columnStep_idle idle child name _ _)
  | references reference =>
      have read (facts : ColumnFacts) (named : facts.constraintName =
          reference.constraintName.map (·.name)) :
          readConstraints rule child name facts (reference.tokens ++ stop :: rest) =
            readConstraints rule child name { facts with
              keys := facts.keys ++ [reference.declaration child [name]]
              constraintName := none } (stop :: rest) := by
        have target := readReference_written reference apart rest
        have ended := skipActions_separates apart rest
        simp only [WrittenReference.tokens, List.cons_append, List.append_assoc]
        refine readConstraints_step (by simp [EndsItem]) ?_
        simp [columnStep, target, ended, named, WrittenReference.declaration]
      cases stated : reference.constraintName with
      | none =>
          simp only [Clause.tokens, Clause.apply, stated, constraintTokens, List.nil_append]
          rw [read facts (by simp [unnamed, stated]), ← unnamed]
      | some constraint =>
          have step : columnStep rule child name facts (.keyword .constraint)
              (constraint.token :: (reference.tokens ++ stop :: rest)) =
              .ok ({ facts with constraintName := some constraint.name },
                reference.tokens ++ stop :: rest) := by
            simp [columnStep, readName_spelling]
          simp only [Clause.tokens, Clause.apply, stated, constraintTokens, List.cons_append,
            List.nil_append]
          rw [readConstraints_step (by simp [EndsItem]) step, read _ (by simp [stated]), ← unnamed]

theorem Clause.apply_unnamed (child : RelationId) (name : String) {facts : ColumnFacts}
    (unnamed : facts.constraintName = none) (clause : Clause rule) :
    (clause.apply child name facts).constraintName = none := by
  cases clause <;> exact unnamed

theorem separates_clauses (clauses : List (Clause rule)) {stop : Token}
    (apart : separates stop = true) (rest : Tokens) :
    ∃ first more, clauses.flatMap Clause.tokens ++ stop :: rest = first :: more ∧
      separates first = true := by
  cases clauses with
  | nil => exact ⟨stop, rest, rfl, apart⟩
  | cons clause clauses =>
      cases clause with
      | notNull => exact ⟨_, _, rfl, by decide⟩
      | primaryKey => exact ⟨_, _, rfl, by decide⟩
      | other token idle separate => exact ⟨_, _, rfl, separate⟩
      | references reference =>
          cases stated : reference.constraintName with
          | none =>
              refine ⟨.keyword .references, ?_, ?_, by decide⟩
              rotate_left
              · simp only [List.flatMap_cons, Clause.tokens, stated, constraintTokens,
                  WrittenReference.tokens, List.nil_append, List.cons_append]
                rfl
          | some constraint =>
              refine ⟨.keyword .constraint, ?_, ?_, by decide⟩
              rotate_left
              · simp only [List.flatMap_cons, Clause.tokens, stated, constraintTokens,
                  List.nil_append, List.cons_append]
                rfl

theorem separates_of_endsItem {stop : Token} (ends : EndsItem stop) : separates stop = true := by
  rcases ends with rfl | rfl
  · decide
  · decide

theorem readConstraints_clauses (child : RelationId) (name : String) {facts : ColumnFacts}
    (unnamed : facts.constraintName = none) (clauses : List (Clause rule)) {stop : Token}
    (ends : EndsItem stop) (rest : Tokens) :
    readConstraints rule child name facts (clauses.flatMap Clause.tokens ++ stop :: rest) =
      .ok (clauses.foldl (Clause.apply child name) facts, stop :: rest) := by
  induction clauses generalizing facts with
  | nil => exact readConstraints_stop ends rule child name facts rest
  | cons clause clauses ih =>
      obtain ⟨first, more, split, apart⟩ :=
        separates_clauses clauses (separates_of_endsItem ends) rest
      rw [List.flatMap_cons, List.append_assoc, split,
        readConstraints_clause child name unnamed clause apart, ← split,
        ih (clause.apply_unnamed child name unnamed), List.foldl_cons]

theorem readTypeFrom_append (depth : Nat) (declared : String) (tokens more : Tokens) :
    ∃ stop, Passes depth tokens stop (readTypeFrom depth declared tokens).2 ∧
      readTypeFrom depth declared (tokens ++ more) =
        if (readTypeFrom depth declared tokens).2.isEmpty then
          readTypeFrom stop (readTypeFrom depth declared tokens).1 more
        else ((readTypeFrom depth declared tokens).1,
          (readTypeFrom depth declared tokens).2 ++ more) := by
  fun_induction readTypeFrom depth declared tokens with
  | case1 depth declared => exact ⟨depth, .refl _ _, rfl⟩
  | case2 depth declared token rest deeper longer extended ih =>
      obtain ⟨stop, passes, read⟩ := ih
      refine ⟨stop, (extendType?_passes extended rest).1.trans passes, ?_⟩
      rw [List.cons_append, readTypeFrom, extended]
      exact read
  | case3 depth declared token rest ended =>
      refine ⟨depth, .refl _ _, ?_⟩
      rw [List.cons_append, readTypeFrom, ended]
      simp

theorem readDeclaredType_written (type : WrittenType) {stop : Token}
    (apart : separates stop = true) (rest : Tokens) :
    readDeclaredType (type.tokens ++ stop :: rest) =
      (type.declared, (readDeclaredType type.tokens).2 ++ stop :: rest) := by
  obtain ⟨depth, passes, read⟩ := readTypeFrom_append 0 "" type.tokens (stop :: rest)
  rw [readDeclaredType, read]
  split
  · rename_i whole
    have nothing : (readTypeFrom 0 "" type.tokens).2 = [] := List.isEmpty_iff.mp whole
    rw [nothing] at passes
    obtain rfl : depth = 0 := passes.stop_unique type.balanced
    rw [readTypeFrom_stop (separates_facts apart).2.2]
    simp [WrittenType.declared, readDeclaredType, nothing]
  · rfl

theorem readColumn_written (product : Product) (column : WrittenColumn product.caseRule)
    (table : RelationId) (body : TableBody) {stop : Token} (ends : EndsItem stop) (rest : Tokens) :
    readColumn product table body column.name.name
        (column.type.tokens ++ (column.clauses.flatMap Clause.tokens ++ stop :: rest)) =
      .ok ((Part.column column).apply product table body, stop :: rest) := by
  obtain ⟨first, more, split, apart⟩ :=
    separates_clauses column.clauses (separates_of_endsItem ends) rest
  have type : readDeclaredType
      (column.type.tokens ++ (column.clauses.flatMap Clause.tokens ++ stop :: rest)) =
      (column.type.declared, (readDeclaredType column.type.tokens).2 ++
        (column.clauses.flatMap Clause.tokens ++ stop :: rest)) := by
    rw [split]
    exact readDeclaredType_written column.type apart more
  have constraints : readConstraints product.caseRule table column.name.name {}
      ((readDeclaredType column.type.tokens).2 ++
        (column.clauses.flatMap Clause.tokens ++ stop :: rest)) =
      .ok (column.facts table, stop :: rest) := by
    rw [readConstraints_idle column.type.rest]
    exact readConstraints_clauses table column.name.name rfl column.clauses ends rest
  have declared : column.type.declared.isEmpty = false := column.type.present
  simp [readColumn, type, declared, constraints, Part.apply, columnField]

theorem readForeignKey_written (child : RelationId) (columns : List (Spelling rule))
    (reference : WrittenReference rule) {stop : Token}
    (ends : stop ∈ [Token.comma, .closeParen, .semicolon]) (rest : Tokens) :
    readForeignKey rule child (reference.constraintName.map (·.name))
        (.keyword .key :: (listTokens columns ++ (reference.tokens ++ stop :: rest))) =
      .ok (some (reference.declaration child (columns.map (·.name))), stop :: rest) := by
  have apart : separates stop = true := by
    simp only [List.mem_cons, List.not_mem_nil, or_false] at ends
    rcases ends with rfl | rfl | rfl <;> decide
  have children := readColumnList_list columns (reference.tokens ++ stop :: rest)
  have target := readReference_written reference apart rest
  have ended : skipUntil [.comma, .closeParen, .semicolon] 0 (stop :: rest) = stop :: rest := by
    rw [skipUntil, if_pos ends]
  simp only [readForeignKey, children]
  simp [WrittenReference.tokens, target, skipActions_separates apart, ended,
    WrittenReference.declaration]

theorem bodyStep_name (product : Product) (table : RelationId) (body : TableBody)
    (column : WrittenColumn product.caseRule) (rest : Tokens) :
    bodyStep product table body column.name.token rest =
      readColumn product table body column.name.name rest := by
  have spells := column.name.spells
  have included := column.included
  cases token : column.name.token with
  | word text =>
      rw [token] at spells included
      simp [bodyStep, spells, included]
  | quotedName text =>
      rw [token] at spells included
      simp [bodyStep, spells, included]
  | _ =>
      rw [token] at spells
      cases spells

theorem readBody_constraint {product : Product} (table : RelationId) {body : TableBody}
    (unnamed : body.constraintName = none) (constraintName : Option (Spelling product.caseRule))
    (rest : Tokens) :
    readBody product table body (constraintTokens constraintName ++ rest) =
      readBody product table { body with constraintName := constraintName.map (·.name) } rest := by
  cases constraintName with
  | none => simp only [constraintTokens, List.nil_append, Option.map_none, ← unnamed]
  | some name =>
      refine readBody_step (by simp) ?_
      simp [bodyStep, readName_spelling]

theorem readBody_part {product : Product} (table : RelationId) {body : TableBody}
    (unnamed : body.constraintName = none) (part : Part product.caseRule) {stop : Token}
    (ends : EndsItem stop) (rest : Tokens) :
    ∃ constraintName, readBody product table body (part.tokens ++ stop :: rest) =
      readBody product table { part.apply product table body with constraintName }
        (stop :: rest) := by
  cases part with
  | column column =>
      refine ⟨none, ?_⟩
      have notClose : column.name.token ≠ .closeParen := (nameOf?_ne_paren column.name.spells).2
      have read := readColumn_written product column table body ends rest
      rw [← bodyStep_name] at read
      simp only [Part.tokens, WrittenColumn.tokens, List.cons_append, List.append_assoc]
      rw [readBody_step notClose read]
      simp only [Part.apply, ← unnamed]
  | primaryKey constraintName columns =>
      refine ⟨constraintName.map (·.name), ?_⟩
      have listed := readColumnList_list columns (stop :: rest)
      simp only [Part.tokens, primaryKeyTokens, List.append_assoc, List.cons_append]
      rw [readBody_constraint table unnamed]
      refine readBody_step (by simp) ?_
      simp [bodyStep, skipKeyword, listed, skipItem_stop ends, Part.apply]
  | foreignKey columns reference =>
      refine ⟨none, ?_⟩
      have ending : stop ∈ [Token.comma, .closeParen, .semicolon] := by
        rcases ends with rfl | rfl
        · decide
        · decide
      have read := readForeignKey_written table columns reference ending rest
      simp only [Part.tokens, foreignKeyTokens, List.append_assoc, List.cons_append]
      rw [readBody_constraint table unnamed]
      refine readBody_step (by simp) ?_
      simp [bodyStep, read, Part.apply]

theorem Part.apply_unnamed (product : Product) (table : RelationId) {body : TableBody}
    (unnamed : body.constraintName = none) (part : Part rule) :
    (part.apply product table body).constraintName = none := by
  cases part <;> exact unnamed

theorem readBody_parts {product : Product} (table : RelationId) {body : TableBody}
    (unnamed : body.constraintName = none) (parts : List (Part product.caseRule)) (rest : Tokens) :
    ∃ constraintName,
      readBody product table body (separated (parts.map Part.tokens) ++ .closeParen :: rest) =
        .ok ({ parts.foldl (Part.apply product table) body with constraintName }, rest) := by
  induction parts generalizing body with
  | nil =>
      refine ⟨body.constraintName, ?_⟩
      rw [List.map_nil, separated_nil, List.nil_append, readBody, List.foldl_nil]
  | cons part parts ih =>
      cases parts with
      | nil =>
          obtain ⟨left, read⟩ := readBody_part table unnamed part (.inr rfl) rest
          refine ⟨left, ?_⟩
          rw [List.map_singleton, separated_singleton, read, readBody, List.foldl_cons,
            List.foldl_nil]
      | cons next parts =>
          obtain ⟨left, read⟩ := readBody_part table unnamed part (.inl rfl)
            (separated ((next :: parts).map Part.tokens) ++ .closeParen :: rest)
          have cleared := part.apply_unnamed product table unnamed
          have comma : bodyStep product table
              { part.apply product table body with constraintName := left } .comma
              (separated ((next :: parts).map Part.tokens) ++ .closeParen :: rest) =
              .ok (part.apply product table body,
                separated ((next :: parts).map Part.tokens) ++ .closeParen :: rest) := by
            simp only [bodyStep, ← cleared]
          obtain ⟨last, later⟩ := ih cleared
          refine ⟨last, ?_⟩
          rw [List.map_cons, List.map_cons, separated_cons_cons, List.append_assoc,
            List.cons_append, ← List.map_cons, read, readBody_step (by simp) comma, later]
          rfl

theorem WrittenId.tokens_cons (written : WrittenId rule) :
    ∃ name : Spelling rule, ∃ rest, written.tokens = name.token :: rest := by
  unfold WrittenId.tokens
  split
  · exact ⟨_, _, rfl⟩
  · exact ⟨_, _, rfl⟩

theorem Spelling.token_ne_keyword (name : Spelling rule) (keyword : Keyword) :
    name.token ≠ .keyword keyword := by
  intro same
  have spells := name.spells
  rw [same] at spells
  cases spells

theorem skipIfNotExists_written (written : WrittenId rule) (rest : Tokens) :
    skipIfNotExists (written.tokens ++ rest) = written.tokens ++ rest := by
  obtain ⟨name, more, split⟩ := written.tokens_cons
  rw [split, List.cons_append, skipIfNotExists]
  intro after same
  exact name.token_ne_keyword _ (List.cons.inj same).1

theorem skipOnly_written (only : Bool) (written : WrittenId rule) (rest : Tokens) :
    skipKeyword .only (skipIfExists ((if only then [.keyword .only] else []) ++
      (written.tokens ++ rest))) = written.tokens ++ rest := by
  cases only with
  | true => rfl
  | false =>
      obtain ⟨name, more, split⟩ := written.tokens_cons
      have notOnly := name.token_ne_keyword .only
      rw [split, if_neg (by simp), List.nil_append, List.cons_append, skipIfExists]
      · simp [skipKeyword, notOnly]
      · intro after same
        exact name.token_ne_keyword _ (List.cons.inj same).1

theorem readCreate_script {product : Product} (draft : Draft) (table : WrittenId product.caseRule)
    (parts : List (Part product.caseRule)) (rest : Tokens) :
    readCreate product draft (.keyword .table :: (table.tokens ++ .openParen ::
        (separated (parts.map Part.tokens) ++ .closeParen :: .semicolon :: rest))) =
      .ok ((Statement.create table parts).apply product draft, rest) := by
  have unnamed : ({} : TableBody).constraintName = none := rfl
  obtain ⟨left, body⟩ := readBody_parts table.id unnamed parts (.semicolon :: rest)
  have name : readRelationId product.caseRule (table.tokens ++ .openParen ::
      (separated (parts.map Part.tokens) ++ .closeParen :: .semicolon :: rest)) =
      (some table.id, .openParen ::
        (separated (parts.map Part.tokens) ++ .closeParen :: .semicolon :: rest)) :=
    readRelationId_written table (by simp)
  have notModifier : (Token.keyword .table).isWordIn createModifiers = false := by decide
  rw [readCreate, List.dropWhile_cons_of_neg (by simp [notModifier])]
  simp only
  rw [skipIfNotExists_written, name]
  simp [readTable, body, skipStatement, Statement.apply]

theorem readAlter_constraint {product : Product} (draft : Draft) (only : Bool)
    (table : WrittenId product.caseRule) (constraintName : Option (Spelling product.caseRule))
    {first : Token} (notConstraint : first ≠ .keyword .constraint) (rest : Tokens) :
    readAlter product draft (.keyword .table :: ((if only then [.keyword .only] else []) ++
        (table.tokens ++ .keyword .add :: (constraintTokens constraintName ++ first :: rest)))) =
      readAddedConstraint product draft table.id (constraintName.map (·.name))
        (first :: rest) := by
  rw [readAlter, skipOnly_written]
  rw [readRelationId_written table (by simp)]
  cases constraintName with
  | none => simp [constraintTokens, notConstraint]
  | some name => simp [constraintTokens, readName_spelling]

theorem readStatements_alter {product : Product} {draft changed : Draft} {tokens left : Tokens}
    (read : readAlter product draft tokens = .ok (changed, left)) :
    readStatements product draft (.keyword .alter :: tokens) =
      readStatements product changed left := by
  rw [readStatements]
  split
  · rename_i failed
    rw [read] at failed
    cases failed
  · rename_i done
    rw [read] at done
    cases done
    rfl

theorem readStatements_alter_failed {product : Product} {draft : Draft} {tokens : Tokens}
    {cause : DumpError} (read : readAlter product draft tokens = .error cause) :
    readStatements product draft (.keyword .alter :: tokens) = .error cause := by
  rw [readStatements]
  split
  · rename_i failed
    rw [read] at failed
    cases failed
    rfl
  · rename_i done
    rw [read] at done
    cases done

theorem readStatements_statement {product : Product} (draft : Draft)
    (statement : Statement product.caseRule) (rest : Tokens) :
    readStatements product draft (statement.tokens ++ rest) =
      readStatements product (statement.apply product draft) rest := by
  cases statement with
  | create table parts =>
      have read := readCreate_script draft table parts rest
      simp only [Statement.tokens, List.cons_append, List.append_assoc, List.nil_append]
      exact readStatements_create read
  | addPrimaryKey only table constraintName columns =>
      have listed := readColumnList_list columns (.semicolon :: rest)
      have added : readAddedConstraint product draft table.id (constraintName.map (·.name))
          (.keyword .primary :: .keyword .key :: (listTokens columns ++ .semicolon :: rest)) =
          .ok (draft.setPrimaryKey table.id (columns.map (·.name)), rest) := by
        simp [readAddedConstraint, skipKeyword, listed, skipStatement]
      rw [← readAlter_constraint draft only table constraintName (by simp)] at added
      simp only [Statement.tokens, alterTokens, primaryKeyTokens, List.cons_append,
        List.append_assoc, List.nil_append]
      exact readStatements_alter added
  | addForeignKey only table columns reference =>
      have key := readForeignKey_written table.id columns reference
        (by decide : Token.semicolon ∈ [Token.comma, .closeParen, .semicolon]) rest
      have added : readAddedConstraint product draft table.id
          (reference.constraintName.map (·.name)) (.keyword .foreign :: .keyword .key ::
            (listTokens columns ++ (reference.tokens ++ .semicolon :: rest))) =
          .ok (draft.addKey (reference.declaration table.id (columns.map (·.name))), rest) := by
        simp [readAddedConstraint, key, skipStatement]
      rw [← readAlter_constraint draft only table reference.constraintName (by simp)] at added
      simp only [Statement.tokens, alterTokens, foreignKeyTokens, List.cons_append,
        List.append_assoc, List.nil_append]
      exact readStatements_alter added

/-- A script is read one statement after the other. -/
theorem readStatements_script {product : Product} (draft : Draft)
    (statements : List (Statement product.caseRule)) :
    readStatements product draft (statements.flatMap Statement.tokens) =
      .ok (statements.foldl (Statement.apply product) draft) := by
  induction statements generalizing draft with
  | nil => rw [List.flatMap_nil, readStatements, List.foldl_nil]
  | cons statement statements ih =>
      rw [List.flatMap_cons, readStatements_statement, ih, List.foldl_cons]

end NestedQuery.SchemaDump

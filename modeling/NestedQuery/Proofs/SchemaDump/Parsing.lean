import NestedQuery.Proofs.SchemaDump.Canonical
import NestedQuery.SchemaDump.Statement

/-! What the readers of statements make of the tokens of a canonical dump. Each lemma leaves open
which tokens follow, so that the readers of larger phrases are put together from it. -/

namespace NestedQuery.SchemaDump

theorem separated_nil : separated [] = [] := rfl

theorem separated_singleton (part : List Token) : separated [part] = part := by simp [separated]

theorem separated_cons_cons (first second : List Token) (rest : List (List Token)) :
    separated (first :: second :: rest) = first ++ .comma :: separated (second :: rest) := by
  simp only [separated, List.intercalate_cons_cons, List.append_assoc, List.singleton_append]

theorem readNames_separated (rule : CaseRule) (names : List String) (rest : Tokens) :
    readNames rule (separated (names.map fun name => [.quotedName name]) ++ .closeParen :: rest) =
      (names, rest) := by
  induction names with
  | nil => rfl
  | cons name names ih =>
      cases names with
      | nil => simp [separated_singleton, readNames, nameOf?]
      | cons next names =>
          simp only [List.map_cons, separated_cons_cons] at ih ⊢
          simp [readNames, nameOf?, ih]

theorem readColumnList_names (rule : CaseRule) (names : List String) (rest : Tokens) :
    readColumnList rule (namesTokens names ++ rest) = (names, rest) := by
  have read := readNames_separated rule names rest
  simpa [namesTokens, readColumnList] using read

theorem readRelationId_id (rule : CaseRule) (id : RelationId) (rest : Tokens) :
    readRelationId rule (idTokens id ++ .openParen :: rest) = (some id, .openParen :: rest) := by
  obtain ⟨schema, name⟩ := id
  cases schema with
  | none => simp [idTokens, readRelationId, readName, nameOf?]
  | some schema => simp [idTokens, readRelationId, readName, nameOf?]

theorem readTypeFrom_words (words : List TypeWord) (rest : Tokens) {declared : String}
    (started : declared.isEmpty = false) :
    readTypeFrom 0 declared (words.map (Token.word ·.text) ++ rest) =
      readTypeFrom 0
        (declared ++ String.ofList (words.flatMap fun word => ' ' :: word.text.toList)) rest := by
  induction words generalizing declared with
  | nil => simp
  | cons word words ih =>
      have extended : extendType? 0 declared (.word word.text) =
          some (0, declared ++ " " ++ word.text) := by
        simp [extendType?, word.notStop, started]
      have continues : (declared ++ " " ++ word.text).isEmpty = false := by simp
      have whole : declared ++ " " ++ word.text ++
          String.ofList (words.flatMap fun word => ' ' :: word.text.toList) =
          declared ++
            String.ofList ((word :: words).flatMap fun word => ' ' :: word.text.toList) := by
        rw [← String.toList_inj]
        simp
      rw [List.map_cons, List.cons_append, readTypeFrom, extended]
      simp only
      rw [ih continues, whole]

theorem readTypeFrom_numbers (numerals : List Numeral) (rest : Tokens) (declared : String) :
    readTypeFrom 1 declared
        (separated (numerals.map fun numeral => [.number numeral.digits]) ++ .closeParen :: rest) =
      readTypeFrom 0 (declared ++
        String.ofList ([','].intercalate (numerals.map (·.digits.toList)) ++ [')'])) rest := by
  induction numerals generalizing declared with
  | nil => simp [separated_nil, readTypeFrom, extendType?]
  | cons numeral numerals ih =>
      cases numerals with
      | nil =>
          have whole : declared ++ numeral.digits ++ ")" =
              declared ++ String.ofList (numeral.digits.toList ++ [')']) := by
            rw [← String.toList_inj]
            simp
          simp [separated_singleton, readTypeFrom, extendType?, whole]
      | cons next numerals =>
          have whole : declared ++ numeral.digits ++ "," ++ String.ofList
                ([','].intercalate ((next :: numerals).map (·.digits.toList)) ++ [')']) =
              declared ++ String.ofList
                ([','].intercalate ((numeral :: next :: numerals).map (·.digits.toList)) ++
                  [')']) := by
            rw [← String.toList_inj]
            simp only [List.map_cons, List.intercalate_cons_cons]
            simp
          rw [← whole, ← ih]
          simp only [List.map_cons, separated_cons_cons]
          simp [readTypeFrom, extendType?]

theorem spacedText_cons (first : List Char) (more : List (List Char)) :
    spacedText (first :: more) = first ++ more.flatMap (' ' :: ·) := by
  induction more generalizing first with
  | nil => simp [spacedText]
  | cons second more ih =>
      have later := ih second
      simp only [spacedText, List.intercalate_cons_cons] at later ⊢
      simp [later]

theorem TypeWord.isEmpty_text (word : TypeWord) : word.text.isEmpty = false := by
  obtain ⟨first, rest, chars, _⟩ := word.isWord
  by_contra empty
  have nothing : word.text = "" := by simpa using empty
  simp [nothing] at chars

theorem readTypeFrom_stop {stop : Token} (ends : ∀ declared, extendType? 0 declared stop = none)
    (declared : String) (rest : Tokens) :
    readTypeFrom 0 declared (stop :: rest) = (declared, stop :: rest) := by
  simp [readTypeFrom, ends]

theorem readDeclaredType_type (type : TypeDesign) {stop : Token} (rest : Tokens)
    (ends : ∀ declared, extendType? 0 declared stop = none) :
    readDeclaredType (type.tokens ++ stop :: rest) = (String.ofList type.text, stop :: rest) := by
  have start : extendType? 0 "" (.word type.first.text) = some (0, type.first.text) := by
    simp [extendType?, type.first.notStop]
  have words : type.first.text ++
      String.ofList (type.more.flatMap fun word => ' ' :: word.text.toList) =
      String.ofList (spacedText ((type.first :: type.more).map (·.text.toList))) := by
    rw [← String.toList_inj, List.map_cons, spacedText_cons]
    simp [List.flatMap_map]
  have read : readDeclaredType (type.tokens ++ stop :: rest) =
      readTypeFrom 0 (String.ofList (spacedText ((type.first :: type.more).map (·.text.toList))))
        (type.argumentTokens ++ stop :: rest) := by
    rw [readDeclaredType, TypeDesign.tokens, List.map_cons, List.cons_append, List.cons_append,
      List.append_assoc, readTypeFrom, start]
    simp only
    rw [readTypeFrom_words _ _ type.first.isEmpty_text, words]
  rw [read, TypeDesign.argumentTokens, TypeDesign.text, TypeDesign.argumentText]
  cases type.arguments with
  | none => simpa using readTypeFrom_stop ends _ rest
  | some numerals =>
      simp only [List.cons_append, List.append_assoc, List.nil_append]
      rw [readTypeFrom, extendType?]
      simp only
      rw [readTypeFrom_numbers, readTypeFrom_stop ends]
      rw [Prod.mk.injEq, ← String.toList_inj]
      simp

/-- The tokens after which a part of a table body may end. -/
def EndsItem (stop : Token) : Prop := stop = .comma ∨ stop = .closeParen

theorem readConstraints_stop {stop : Token} (ends : EndsItem stop) (rule : CaseRule)
    (child : RelationId) (name : String) (facts : ColumnFacts) (rest : Tokens) :
    readConstraints rule child name facts (stop :: rest) = .ok (facts, stop :: rest) := by
  rcases ends with rfl | rfl
  · rw [readConstraints]
  · rw [readConstraints]

theorem readConstraints_step {rule : CaseRule} {child : RelationId} {name : String}
    {facts changed : ColumnFacts} {token : Token} {rest left : Tokens}
    (goesOn : ¬EndsItem token)
    (step : columnStep rule child name facts token rest = .ok (changed, left)) :
    readConstraints rule child name facts (token :: rest) =
      readConstraints rule child name changed left := by
  rw [readConstraints]
  · split
    · rename_i failed
      rw [step] at failed
      cases failed
    · rename_i done
      rw [step] at done
      cases done
      rfl
  · exact fun same => goesOn (.inl same)
  · exact fun same => goesOn (.inr same)

theorem extendType?_stop {stop : Token} (ends : EndsItem stop) (declared : String) :
    extendType? 0 declared stop = none := by
  rcases ends with rfl | rfl <;> rfl

theorem readColumn_design (product : Product) {stop : Token} (ends : EndsItem stop)
    (child : RelationId) (body : TableBody) (design : ColumnDesign) (rest : Tokens) :
    readColumn product child body design.name
        (design.type.tokens ++ ((if design.notNull then [.keyword .not, .keyword .null] else []) ++
          stop :: rest)) =
      .ok ({ body with fields := body.fields ++ [design.field product []] }, stop :: rest) := by
  have declared : (String.ofList design.type.text).isEmpty = false := by
    have first := design.type.first.isEmpty_text
    by_contra empty
    simp [TypeDesign.text, spacedText_cons] at empty
    simp [empty] at first
  cases flag : design.notNull with
  | false =>
      have type := readDeclaredType_type design.type rest (extendType?_stop ends)
      have constraints := readConstraints_stop ends product.caseRule child design.name {} rest
      simp [readColumn, type, declared, constraints, ColumnDesign.field, flag]
  | true =>
      have typeEnds : ∀ declared, extendType? 0 declared (.keyword .not) = none := fun _ => rfl
      have type := readDeclaredType_type design.type (.keyword .null :: stop :: rest) typeEnds
      have constraints : readConstraints product.caseRule child design.name {}
          (.keyword .not :: .keyword .null :: stop :: rest) =
          .ok ({ notNull := true }, stop :: rest) := by
        rw [readConstraints_step (by simp [EndsItem]) rfl]
        exact readConstraints_stop ends product.caseRule child design.name _ rest
      simp [readColumn, type, declared, constraints, ColumnDesign.field, flag]

def KeyDesign.declaration (child : RelationId) (key : KeyDesign) : KeyDeclaration where
  constraintName := none
  child := child
  childFields := key.childFields
  parent := key.parent
  parentFields := key.parentFields

def Item.extend (product : Product) (table : RelationId) (body : TableBody) : Item → TableBody
  | column design => { body with fields := body.fields ++ [design.field product []] }
  | primaryKey names => { body with primaryKey := names }
  | foreignKey key => { body with keys := body.keys ++ [key.declaration table] }

theorem skipItem_stop {stop : Token} (ends : EndsItem stop) (rest : Tokens) :
    skipItem (stop :: rest) = stop :: rest := by
  rcases ends with rfl | rfl
  · rw [skipItem, skipUntil, if_pos (by decide)]
  · rw [skipItem, skipUntil, if_pos (by decide)]

theorem skipUntil_skipActions_stop {stop : Token} (ends : EndsItem stop) (rest : Tokens) :
    skipUntil [.comma, .closeParen, .semicolon] 0 (skipActions (stop :: rest)) = stop :: rest := by
  rcases ends with rfl | rfl
  · rw [skipActions, if_neg (by decide), skipUntil, if_pos (by decide)]
  · rw [skipActions, if_neg (by decide), skipUntil, if_pos (by decide)]

theorem readForeignKey_design {stop : Token} (ends : EndsItem stop) (rule : CaseRule)
    (child : RelationId) (key : KeyDesign) (rest : Tokens) :
    readForeignKey rule child none
        (.keyword .key :: (namesTokens key.childFields ++ .keyword .references ::
          (idTokens key.parent ++ (namesTokens key.parentFields ++ stop :: rest)))) =
      .ok (some (key.declaration child), stop :: rest) := by
  have children := readColumnList_names rule key.childFields (.keyword .references ::
    (idTokens key.parent ++ (namesTokens key.parentFields ++ stop :: rest)))
  have parent : readRelationId rule
      (idTokens key.parent ++ (namesTokens key.parentFields ++ stop :: rest)) =
      (some key.parent, namesTokens key.parentFields ++ stop :: rest) :=
    readRelationId_id rule key.parent _
  have parents := readColumnList_names rule key.parentFields (stop :: rest)
  have ended := skipUntil_skipActions_stop ends rest
  simp [readForeignKey, readReference, children, parent, parents, ended, KeyDesign.declaration]

theorem readBody_step {product : Product} {table : RelationId} {body changed : TableBody}
    {token : Token} {rest left : Tokens} (goesOn : token ≠ .closeParen)
    (step : bodyStep product table body token rest = .ok (changed, left)) :
    readBody product table body (token :: rest) = readBody product table changed left := by
  rw [readBody]
  · split
    · rename_i failed
      rw [step] at failed
      cases failed
    · rename_i done
      rw [step] at done
      cases done
      rfl
  · exact goesOn

theorem readBody_item {product : Product} {table : RelationId} {body : TableBody} {stop : Token}
    (ends : EndsItem stop) (unnamed : body.constraintName = none) (item : Item) (rest : Tokens) :
    readBody product table body (item.tokens ++ stop :: rest) =
      readBody product table (item.extend product table body) (stop :: rest) := by
  cases item with
  | column design =>
      have column := readColumn_design product ends table body design rest
      simp only [Item.tokens, List.cons_append, List.append_assoc]
      exact readBody_step (by simp) column
  | primaryKey names =>
      have columns := readColumnList_names product.caseRule names (stop :: rest)
      refine readBody_step (by simp) ?_
      simp [bodyStep, skipKeyword, columns, skipItem_stop ends, Item.extend]
  | foreignKey key =>
      have constraint := readForeignKey_design ends product.caseRule table key rest
      simp only [Item.tokens, List.cons_append, List.append_assoc]
      refine readBody_step (by simp) ?_
      simp [bodyStep, unnamed, constraint, Item.extend]

theorem Item.extend_unnamed {product : Product} {table : RelationId} {body : TableBody}
    (unnamed : body.constraintName = none) (item : Item) :
    (item.extend product table body).constraintName = none := by
  cases item <;> exact unnamed

theorem readBody_items {product : Product} {table : RelationId} (items : List Item)
    {body : TableBody} (unnamed : body.constraintName = none) (rest : Tokens) :
    readBody product table body (separated (items.map Item.tokens) ++ .closeParen :: rest) =
      .ok (items.foldl (Item.extend product table) body, rest) := by
  -- No item leaves a constraint name behind, so that the comma after it changes nothing.
  induction items generalizing body with
  | nil => rw [List.map_nil, separated_nil, List.nil_append, readBody, List.foldl_nil]
  | cons item items ih =>
      have extended : (item.extend product table body).constraintName = none :=
        item.extend_unnamed unnamed
      cases items with
      | nil =>
          rw [List.map_singleton, separated_singleton, readBody_item (.inr rfl) unnamed, readBody,
            List.foldl_cons, List.foldl_nil]
      | cons next items =>
          have comma : bodyStep product table (item.extend product table body) .comma
              (separated ((next :: items).map Item.tokens) ++ .closeParen :: rest) =
              .ok (item.extend product table body,
                separated ((next :: items).map Item.tokens) ++ .closeParen :: rest) := by
            simp only [bodyStep, ← extended]
          rw [List.map_cons, List.map_cons, separated_cons_cons, List.append_assoc,
            List.cons_append, readBody_item (.inl rfl) unnamed, ← List.map_cons,
            readBody_step (by simp) comma, ih extended]
          rfl

namespace TableDesign

def definition (product : Product) (table : TableDesign) : Definition where
  id := table.id
  kind := .table
  fields := table.columns.map (ColumnDesign.field product [])
  primaryKey := table.key

def declarations (table : TableDesign) : List KeyDeclaration :=
  table.foreignKeys.map (KeyDesign.declaration table.id)

theorem foldl_items (product : Product) (table : TableDesign) :
    table.items.foldl (Item.extend product table.id) {} =
      { fields := (table.definition product).fields
        primaryKey := table.key
        keys := table.declarations } := by
  have columns (designs : List ColumnDesign) (body : TableBody) :
      (designs.map Item.column).foldl (Item.extend product table.id) body =
        { body with fields := body.fields ++ designs.map (ColumnDesign.field product []) } := by
    induction designs generalizing body with
    | nil => simp
    | cons design designs ih => simp [ih, Item.extend]
  have keys (designs : List KeyDesign) (body : TableBody) :
      (designs.map Item.foreignKey).foldl (Item.extend product table.id) body =
        { body with keys := body.keys ++ designs.map (KeyDesign.declaration table.id) } := by
    induction designs generalizing body with
    | nil => simp
    | cons design designs ih => simp [ih, Item.extend]
  rw [items, List.foldl_append, List.foldl_append, columns, keys]
  unfold key
  cases table.primaryKey <;> simp [Item.extend, definition, declarations]

end TableDesign

theorem skipIfNotExists_id (id : RelationId) (rest : Tokens) :
    skipIfNotExists (idTokens id ++ rest) = idTokens id ++ rest := by
  unfold idTokens
  cases id.schema <;> rfl

theorem readCreate_table (product : Product) (draft : Draft) (table : TableDesign)
    (rest : Tokens) :
    readCreate product draft (.keyword .table :: (idTokens table.id ++ .openParen ::
        (separated (table.items.map Item.tokens) ++ .closeParen :: .semicolon :: rest))) =
      .ok (draft.add (table.definition product) table.declarations, rest) := by
  have name := readRelationId_id product.caseRule table.id
    (separated (table.items.map Item.tokens) ++ .closeParen :: .semicolon :: rest)
  have body : readBody product table.id {}
      (separated (table.items.map Item.tokens) ++ .closeParen :: .semicolon :: rest) =
      .ok (table.items.foldl (Item.extend product table.id) {}, .semicolon :: rest) :=
    readBody_items table.items rfl (.semicolon :: rest)
  have notModifier : (Token.keyword .table).isWordIn createModifiers = false := by decide
  rw [readCreate, List.dropWhile_cons_of_neg (by simp [notModifier])]
  simp only
  rw [skipIfNotExists_id, name]
  simp only [readTable, body, table.foldl_items, skipStatement]
  rfl

theorem readStatements_create {product : Product} {draft changed : Draft} {tokens left : Tokens}
    (read : readCreate product draft tokens = .ok (changed, left)) :
    readStatements product draft (.keyword .create :: tokens) =
      readStatements product changed left := by
  rw [readStatements]
  split
  · rename_i failed
    rw [read] at failed
    cases failed
  · rename_i done
    rw [read] at done
    cases done
    rfl

theorem readStatements_create_failed {product : Product} {draft : Draft} {tokens : Tokens}
    {cause : DumpError} (read : readCreate product draft tokens = .error cause) :
    readStatements product draft (.keyword .create :: tokens) = .error cause := by
  rw [readStatements]
  split
  · rename_i failed
    rw [read] at failed
    cases failed
    rfl
  · rename_i done
    rw [read] at done
    cases done

theorem readStatements_table (product : Product) (draft : Draft) (table : TableDesign)
    (rest : Tokens) :
    readStatements product draft (table.tokens ++ rest) =
      readStatements product (draft.add (table.definition product) table.declarations) rest := by
  have create := readCreate_table product draft table rest
  simp only [TableDesign.tokens, List.cons_append, List.append_assoc, List.nil_append]
  exact readStatements_create create

theorem readStatements_tables (product : Product) (draft : Draft) (tables : List TableDesign) :
    readStatements product draft (tables.flatMap TableDesign.tokens) = .ok
      { definitions := draft.definitions ++ tables.map (TableDesign.definition product)
        keys := draft.keys ++ tables.flatMap TableDesign.declarations } := by
  induction tables generalizing draft with
  | nil =>
      rw [List.flatMap_nil, readStatements]
      simp
  | cons table tables ih =>
      rw [List.flatMap_cons, readStatements_table, ih]
      simp [Draft.add]

def productOf? (dump : String) : (productName : Option String) → Option Product
  | none => some (Product.auto.resolve dump)
  | some name => (Product.ofName? name).map (·.resolve dump)

theorem readCatalog_of_product {dump : String} {productName : Option String} {product : Product}
    {draft : Draft} (found : productOf? dump productName = some product)
    (read : readStatements product {} (scan dump) = .ok draft) :
    readCatalog dump productName = .ok (draft.catalog product) := by
  cases productName with
  | none =>
      obtain rfl := Option.some.inj found
      rw [readCatalog]
      simp only [bind, Except.bind, read]
      rfl
  | some name =>
      obtain ⟨named, known, rfl⟩ := Option.map_eq_some_iff.mp found
      rw [readCatalog]
      simp only [bind, Except.bind, known, read]
      rfl

end NestedQuery.SchemaDump

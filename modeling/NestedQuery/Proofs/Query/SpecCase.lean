import NestedQuery.Proofs.Query.Assembly
import NestedQuery.Proofs.SchemaDump.LetterCase
import NestedQuery.Proofs.SchemaDump.Nameable
import NestedQuery.ResultType

/-! The letter case of names in specifications. Where names are stored in one letter case and
properties are named in camel case, a specification and the same one with its names in small
letters have the same result types, through every nesting. Names in quotes are left as they are. -/

namespace NestedQuery

open SchemaDump (foldedName)

def foldedTable (table : String) : String :=
  match Text.cutAt '.' table.toList with
  | some (schema, name) =>
      foldedName (String.ofList schema) ++ "." ++ foldedName (String.ofList name)
  | none => foldedName table

def FieldSpec.folded (spec : FieldSpec) : FieldSpec :=
  { spec with field := spec.field.map foldedName }

def KeyPair.folded (pair : KeyPair) : KeyPair :=
  { childField := foldedName pair.childField, parentField := foldedName pair.parentField }

def Link.folded (link : Link) : Link :=
  { foreignKeyFields := link.foreignKeyFields.map (List.map foldedName)
    customJoin := link.customJoin.map (List.map KeyPair.folded) }

mutual
/-- The specification with its names in small letters, those of all tables below it included. What
is no name of the database stays as it is. -/
def TableSpec.folded : TableSpec → TableSpec
  | ⟨table, fields, inlineParents, referencedParents, childCollections, condition⟩ =>
      ⟨foldedTable table, fields.map FieldSpec.folded, foldedInline inlineParents,
        foldedReferenced referencedParents, foldedCollections childCollections, condition⟩
termination_by structural spec => spec

def foldedInline : List InlineParent → List InlineParent
  | [] => []
  | ⟨spec, link, optional⟩ :: rest => ⟨spec.folded, link.folded, optional⟩ :: foldedInline rest
termination_by structural parents => parents

def foldedReferenced : List ReferencedParent → List ReferencedParent
  | [] => []
  | ⟨name, spec, link, optional⟩ :: rest =>
      ⟨name, spec.folded, link.folded, optional⟩ :: foldedReferenced rest
termination_by structural parents => parents

def foldedCollections : List ChildCollection → List ChildCollection
  | [] => []
  | ⟨name, spec, link, filter, unwrap, orderBy⟩ :: rest =>
      ⟨name, spec.folded, link.folded, filter, unwrap, orderBy⟩ :: foldedCollections rest
termination_by structural collections => collections
end

def Related.folded : Related → Related
  | inlineParent parent =>
      inlineParent { parent with spec := parent.spec.folded, link := parent.link.folded }
  | referencedParent parent =>
      referencedParent { parent with spec := parent.spec.folded, link := parent.link.folded }
  | childCollection collection => childCollection
      { collection with spec := collection.spec.folded, link := collection.link.folded }

/-- The specifications differ at most in the case of the letters A to Z in names without quotes. -/
def TableSpec.SameNames (left right : TableSpec) : Prop := left.folded = right.folded

theorem TableSpec.table_folded (spec : TableSpec) : spec.folded.table = foldedTable spec.table := by
  cases spec
  rw [TableSpec.folded]

theorem TableSpec.condition_folded (spec : TableSpec) :
    spec.folded.condition = spec.condition := by
  cases spec
  rw [TableSpec.folded]

namespace Related

theorem spec_folded (related : Related) : related.folded.spec = related.spec.folded := by
  cases related <;> rfl

theorem link_folded (related : Related) : related.folded.link = related.link.folded := by
  cases related <;> rfl

theorem markedOptional_folded (related : Related) :
    related.folded.markedOptional = related.markedOptional := by
  cases related <;> simp only [folded, markedOptional, TableSpec.condition_folded]

end Related

namespace Naming

theorem pieces_map {separates : Char → Bool} {change : Char → Char}
    (same : ∀ c, separates (change c) = separates c) (text : List Char) :
    Text.pieces separates (text.map change) =
      (Text.pieces separates text).map (List.map change) := by
  induction text with
  | nil => rfl
  | cons c rest ih =>
      rw [List.map_cons, Text.pieces, Text.pieces, same, ih]
      split
      · rfl
      · cases Text.pieces separates rest <;> rfl

theorem endsWord_toLower (c : Char) : endsWord c.toLower = endsWord c := by
  have same {d : Char} (noLetter : d.isAlpha = false) : (c.toLower == d) = (c == d) := by
    rw [Bool.eq_iff_iff, beq_iff_eq, beq_iff_eq]
    exact Text.toLower_eq_iff noLetter c
  rw [endsWord, endsWord, same rfl, same rfl, same rfl]

theorem words_toLower (name : List Char) :
    words (name.map Char.toLower) = (words name).map (List.map Char.toLower) := by
  rw [words, words, pieces_map endsWord_toLower, List.filter_map]
  refine congrArg (List.map _) (List.filter_congr fun word _ => ?_)
  simp

theorem capitalized_toLower (word : List Char) :
    capitalized (word.map Char.toLower) = capitalized word := by
  cases word with
  | nil => rfl
  | cons first rest =>
      simp only [List.map_cons, capitalized, List.flatMap_map, Text.upperChar_toLower,
        Text.lowerChar_toLower]

theorem camelCase_toLower (name : String) :
    camelCase (String.ofList (name.toList.map Char.toLower)) = camelCase name := by
  rw [camelCase, camelCase, String.toList_ofList, words_toLower]
  cases words name.toList with
  | nil => rfl
  | cons first rest =>
      simp only [List.map_cons, List.flatMap_map, Text.lowerChars_toLower, capitalized_toLower]

theorem camelCase_unquoted_foldedName (name : String) :
    camelCase (unquoted (foldedName name)) = camelCase (unquoted name) := by
  unfold foldedName
  split
  · rfl
  · rename_i bare
    rw [Bool.not_eq_true] at bare
    have stillBare : isQuoted (String.ofList (name.toList.map Char.toLower)) = false := by
      rw [isQuoted, String.toList_ofList, isQuotedChars_toLower]
      exact bare
    rw [unquoted_of_isQuoted_eq_false bare, unquoted_of_isQuoted_eq_false stillBare,
      camelCase_toLower]

end Naming

theorem toOption_bind_eq {α β ε : Type} {first second : Except ε α} {next later : α → Except ε β}
    (start : first.toOption = second.toOption)
    (following : ∀ value, (next value).toOption = (later value).toOption) :
    (first >>= next).toOption = (second >>= later).toOption := by
  cases first with
  | error cause =>
      cases second with
      | error other => rfl
      | ok value => cases start
  | ok value =>
      cases second with
      | error other => cases start
      | ok other =>
          obtain rfl : value = other := Option.some.inj start
          exact following value

theorem toOption_mapM_eq {α β ε : Type} {make other : α → Except ε β} {change : α → α}
    (items : List α) (each : ∀ item, (make (change item)).toOption = (other item).toOption) :
    ((items.map change).mapM make).toOption = (items.mapM other).toOption := by
  induction items with
  | nil => rfl
  | cons item rest ih =>
      rw [List.map_cons, List.mapM_cons, List.mapM_cons]
      refine toOption_bind_eq (each item) fun result => ?_
      exact toOption_bind_eq ih fun results => rfl

theorem toOption_eq_some_iff {α ε : Type} {action : Except ε α} {value : α} :
    action.toOption = some value ↔ action = .ok value := by
  cases action <;> simp [Except.toOption]

theorem dot_mem_foldedName (name : String) :
    '.' ∈ (foldedName name).toList ↔ '.' ∈ name.toList := by
  have dot (c : Char) : c.toLower = '.' ↔ c = '.' := Text.toLower_eq_iff rfl c
  unfold foldedName
  split
  · rfl
  · simp [dot]

namespace Catalog

variable {catalog : Catalog}
  (oneCase : catalog.caseRule = .storedLower ∨ catalog.caseRule = .storedUpper)
include oneCase

theorem normalize_foldedName (name : String) :
    catalog.normalize (foldedName name) = catalog.normalize name := by
  unfold foldedName
  split
  · rfl
  · rename_i bare
    rw [Bool.not_eq_true] at bare
    exact CaseRule.normalize_toLower oneCase bare

theorem idFor_foldedTable (table : String) (defaultSchema : Option String) :
    catalog.idFor (foldedTable table) defaultSchema = catalog.idFor table defaultSchema := by
  unfold foldedTable
  cases cut : Text.cutAt '.' table.toList with
  | none =>
      have undotted := Text.cutAt_eq_none_iff.mp cut
      rw [← dot_mem_foldedName] at undotted
      simp only [idFor, cut, Text.cutAt_eq_none_iff.mpr undotted, normalize_foldedName oneCase]
  | some parts =>
      obtain ⟨schema, name⟩ := parts
      obtain ⟨-, undotted⟩ := Text.cutAt_eq_some_iff.mp cut
      have foldedCut : Text.cutAt '.' (foldedName (String.ofList schema) ++ "." ++
          foldedName (String.ofList name)).toList =
          some ((foldedName (String.ofList schema)).toList,
            (foldedName (String.ofList name)).toList) := by
        rw [Text.cutAt_eq_some_iff]
        refine ⟨by simp [String.toList_append], ?_⟩
        rwa [dot_mem_foldedName, String.toList_ofList]
      simp only [idFor, cut, foldedCut, String.ofList_toList, normalize_foldedName oneCase]

theorem findRelation_folded (table : String) (defaultSchema : Option String)
    (location other : Location) :
    (catalog.findRelation (foldedTable table) defaultSchema location).toOption =
      (catalog.findRelation table defaultSchema other).toOption := by
  rw [findRelation, findRelation, idFor_foldedTable oneCase]
  cases catalog.relation? (catalog.idFor table defaultSchema) <;> rfl

theorem findField_folded (relation : Relation) (name : String) (location other : Location) :
    (catalog.findField relation (foldedName name) location).toOption =
      (catalog.findField relation name other).toOption := by
  rw [findField, findField, normalize_foldedName oneCase]
  cases relation.field? (Naming.unquoted (catalog.normalize name)) <;> rfl

theorem findForeignKey_folded (child parent : RelationId) (fields : Option (List String)) :
    catalog.findForeignKey child parent (fields.map (List.map foldedName)) =
      catalog.findForeignKey child parent fields := by
  cases fields with
  | none => rfl
  | some names =>
      have stored : (names.map foldedName).map catalog.normalize = names.map catalog.normalize := by
        rw [List.map_map]
        exact List.map_congr_left fun name _ => normalize_foldedName oneCase name
      simp only [findForeignKey, Option.map_some, stored]

theorem customPair_folded (child parent : Relation) (location other : Location) (pair : KeyPair) :
    (catalog.customPair child parent location pair.folded).toOption =
      (catalog.customPair child parent other pair).toOption := by
  have found (relation : Relation) (name : String) :
      (catalog.findField relation name location).toOption =
        (catalog.findField relation name other).toOption := by
    unfold findField
    cases relation.field? (Naming.unquoted (catalog.normalize name)) <;> rfl
  simp only [customPair, KeyPair.folded, normalize_foldedName oneCase]
  refine toOption_bind_eq (found child _) fun _ => ?_
  exact toOption_bind_eq (found parent _) fun _ => rfl

theorem joinPairs_folded (link : Link) (child parent : Relation) (location other : Location) :
    (catalog.joinPairs link.folded child parent location).toOption =
      (catalog.joinPairs link child parent other).toOption := by
  obtain ⟨hint, customJoin⟩ := link
  simp only [joinPairs, Link.folded, findForeignKey_folded oneCase, Option.isSome_map]
  cases customJoin with
  | none => cases catalog.findForeignKey child.id parent.id hint <;> rfl
  | some pairs =>
      simp only [Option.map_some, List.isEmpty_map]
      split
      · rfl
      · split
        · rfl
        · exact toOption_mapM_eq pairs (customPair_folded oneCase child parent location other)

end Catalog

theorem FieldSpec.propertyName_folded (spec : FieldSpec) (location other : Location) :
    (spec.folded.propertyName .camelCase location).toOption =
      (spec.propertyName .camelCase other).toOption := by
  obtain ⟨field, expression, aliasMark, property, typeOverride⟩ := spec
  cases field with
  | none => cases expression <;> cases property <;> rfl
  | some field =>
      cases expression with
      | some expression => cases property <;> rfl
      | none =>
          cases property with
          | some property => rfl
          | none => exact congrArg some (Naming.camelCase_unquoted_foldedName field)

theorem Typing.collectionType_toOption (type : ResultType) (unwrap : Bool) (table name : String)
    (location other : Location) :
    (collectionType type unwrap table location).toOption =
      (collectionType type unwrap name other).toOption := by
  unfold collectionType
  cases unwrap with
  | false => rfl
  | true => rcases type.fields with _ | ⟨first, _ | ⟨second, rest⟩⟩ <;> rfl

namespace Typing

variable {typing : Typing}
  (oneCase : typing.catalog.caseRule = .storedLower ∨ typing.catalog.caseRule = .storedUpper)
  (camel : typing.options.naming = .camelCase)

section

include oneCase

theorem findRelation_folded (table : String) (location other : Location) :
    (typing.findRelation (foldedTable table) location).toOption =
      (typing.findRelation table other).toOption :=
  Catalog.findRelation_folded oneCase table _ location other

theorem parentMayBeAbsent_folded (related : Related) (child : Relation)
    (location other : Location) :
    (typing.parentMayBeAbsent related.folded child location).toOption =
      (typing.parentMayBeAbsent related child other).toOption := by
  rw [parentMayBeAbsent, parentMayBeAbsent, related.markedOptional_folded, related.spec_folded,
    related.link_folded, TableSpec.table_folded]
  split
  · rfl
  · refine toOption_bind_eq (findRelation_folded oneCase _ location other) fun parent => ?_
    refine toOption_bind_eq (Catalog.joinPairs_folded oneCase _ child parent location other)
      fun pairs => ?_
    rfl

include camel

theorem nativeField_folded (relation : Relation) (location other : Location) (spec : FieldSpec) :
    (typing.nativeField relation location spec.folded).toOption =
      (typing.nativeField relation other spec).toOption := by
  unfold nativeField
  rw [camel]
  refine toOption_bind_eq (spec.propertyName_folded location other) fun name => ?_
  obtain ⟨field, expression, aliasMark, property, typeOverride⟩ := spec
  cases field with
  | none => cases expression <;> rfl
  | some field =>
      cases expression with
      | some expression => rfl
      | none =>
          refine toOption_bind_eq (Catalog.findField_folded oneCase relation field location other)
            fun stored => ?_
          rfl

end

def SameFolded (typing : Typing) (spec : TableSpec) : Prop :=
  ∀ location other,
    (typing.resultType spec.folded location).toOption = (typing.resultType spec other).toOption

section

include oneCase

theorem inlinedFields_folded (child : Relation) (location other : Location)
    {parents : List InlineParent} (below : ∀ parent ∈ parents, typing.SameFolded parent.spec) :
    (typing.inlinedFields child location (foldedInline parents)).toOption =
      (typing.inlinedFields child other parents).toOption := by
  induction parents with
  | nil => rw [foldedInline, inlinedFields, inlinedFields]
  | cons parent rest ih =>
      have nested := below parent List.mem_cons_self
      have later := ih fun parent member => below parent (List.mem_cons_of_mem _ member)
      obtain ⟨spec, link, optional⟩ := parent
      rw [foldedInline, inlinedFields, inlinedFields]
      refine toOption_bind_eq (nested _ _) fun type => ?_
      refine toOption_bind_eq (parentMayBeAbsent_folded oneCase
        (.inlineParent ⟨spec, link, optional⟩) child _ _) fun absent => ?_
      exact toOption_bind_eq later fun fields => rfl

theorem referencedFields_folded (child : Relation) (location other : Location)
    {parents : List ReferencedParent} (below : ∀ parent ∈ parents, typing.SameFolded parent.spec) :
    (typing.referencedFields child location (foldedReferenced parents)).toOption =
      (typing.referencedFields child other parents).toOption := by
  induction parents with
  | nil => rw [foldedReferenced, referencedFields, referencedFields]
  | cons parent rest ih =>
      have nested := below parent List.mem_cons_self
      have later := ih fun parent member => below parent (List.mem_cons_of_mem _ member)
      obtain ⟨name, spec, link, optional⟩ := parent
      rw [foldedReferenced, referencedFields, referencedFields]
      refine toOption_bind_eq (nested _ _) fun type => ?_
      refine toOption_bind_eq (parentMayBeAbsent_folded oneCase
        (.referencedParent ⟨name, spec, link, optional⟩) child _ _) fun absent => ?_
      exact toOption_bind_eq later fun fields => rfl

end

theorem collectionFields_folded (location other : Location) {collections : List ChildCollection}
    (below : ∀ collection ∈ collections, typing.SameFolded collection.spec) :
    (typing.collectionFields location (foldedCollections collections)).toOption =
      (typing.collectionFields other collections).toOption := by
  induction collections with
  | nil => rw [foldedCollections, collectionFields, collectionFields]
  | cons collection rest ih =>
      have nested := below collection List.mem_cons_self
      have later := ih fun collection member => below collection (List.mem_cons_of_mem _ member)
      obtain ⟨name, spec, link, filter, unwrap, orderBy⟩ := collection
      rw [foldedCollections, collectionFields, collectionFields]
      refine toOption_bind_eq (nested _ _) fun rows => ?_
      refine toOption_bind_eq (collectionType_toOption rows _ _ _ _ _) fun type => ?_
      exact toOption_bind_eq later fun fields => rfl

include oneCase camel

theorem sameFolded (spec : TableSpec) : typing.SameFolded spec := by
  induction spec using TableSpec.nested_induction with
  | step spec inlined referenced collected =>
      intro location other
      obtain ⟨table, fields, inlineParents, referencedParents, childCollections, condition⟩ := spec
      rw [TableSpec.folded, resultType, resultType]
      refine toOption_bind_eq (findRelation_folded oneCase table location other)
        fun relation => ?_
      refine toOption_bind_eq
        (toOption_mapM_eq fields (nativeField_folded oneCase camel relation _ _)) fun plain => ?_
      refine toOption_bind_eq (inlinedFields_folded oneCase relation location other inlined)
        fun _ => ?_
      refine toOption_bind_eq (referencedFields_folded oneCase relation location other referenced)
        fun _ => ?_
      exact toOption_bind_eq (collectionFields_folded location other collected) fun _ => rfl

end Typing

/-- Where names are stored in one letter case and properties are named in camel case, result types
do not depend on the letter case of names without quotes. -/
theorem types_ignore_letter_case (typing : Typing)
    (oneCase : typing.catalog.caseRule = .storedLower ∨ typing.catalog.caseRule = .storedUpper)
    (camel : typing.options.naming = .camelCase) (left right : TableSpec)
    (same : left.SameNames right) (location : Location) (type : ResultType) :
    typing.resultType left location = .ok type ↔ typing.resultType right location = .ok type := by
  have folded (spec : TableSpec) : typing.SameFolded spec := Typing.sameFolded oneCase camel spec
  rw [← toOption_eq_some_iff, ← toOption_eq_some_iff, ← folded left location, same,
    folded right location]

namespace Shop

def respelledOrders (orderTable idField hint skuTable : String) : TableSpec :=
  { table := orderTable
    fields := [{ field := some idField }, { field := some "\"buyer_id\"" }]
    inlineParents := [{ buyer with link := { foreignKeyFields := some [hint] } }]
    referencedParents := [{ seller with link := { customJoin := some [⟨hint, idField⟩] } }]
    childCollections := [{ skus with spec := { table := skuTable, fields := skus.spec.fields } }] }

end Shop

theorem types_ignore_letter_case_shop :
    (Shop.respelledOrders "orders" "id" "buyer_id" "item").SameNames
      (Shop.respelledOrders "Orders" "ID" "Buyer_ID" "iTem") ∧
    ∃ type, Shop.compiler.typing.resultType
        (Shop.respelledOrders "orders" "id" "buyer_id" "item") { query := "orders" } = .ok type ∧
      Shop.compiler.typing.resultType
        (Shop.respelledOrders "Orders" "ID" "Buyer_ID" "iTem") { query := "orders" } = .ok type ∧
      type.fields.map ResultField.name = ["id", "buyerId", "fullName", "seller", "skus"] := by
  have same : (Shop.respelledOrders "orders" "id" "buyer_id" "item").SameNames
      (Shop.respelledOrders "Orders" "ID" "Buyer_ID" "iTem") := by
    have names : foldedTable "orders" = foldedTable "Orders" ∧
        foldedTable "item" = foldedTable "iTem" ∧ foldedName "id" = foldedName "ID" ∧
        foldedName "buyer_id" = foldedName "Buyer_ID" := by
      decide +kernel
    simp only [TableSpec.SameNames, Shop.respelledOrders, TableSpec.folded, foldedInline,
      foldedReferenced, foldedCollections, Link.folded, KeyPair.folded, FieldSpec.folded, names,
      List.map_cons, List.map_nil, Option.map_some]
  have computed : (Shop.compiler.typing.resultType
      (Shop.respelledOrders "orders" "id" "buyer_id" "item") { query := "orders" }).map
        (fun type => type.fields.map ResultField.name) =
      .ok ["id", "buyerId", "fullName", "seller", "skus"] := by
    decide +kernel
  obtain ⟨type, typed, names⟩ := ok_of_map computed
  refine ⟨same, type, typed, ?_, names⟩
  exact (types_ignore_letter_case Shop.compiler.typing (.inl rfl) rfl _ _ same _ _).mp typed

end NestedQuery

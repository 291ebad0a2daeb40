import NestedQuery.Proofs.Catalog.KeySearch
import NestedQuery.Proofs.Query.AliasWords
import NestedQuery.Proofs.Query.DefaultOrder
import NestedQuery.Proofs.Text.Parens

/-! The names and the fragments of SQL from which queries are written. Where the names of the
catalog and of the specification have no parentheses, neither have the names that are made of them:
aliases, properties in camel case, quoted and normalized names. -/

namespace NestedQuery

open NestedQuery.Text

section Names

variable {name : String}

theorem parenFree_unquoted (free : ParenFree name) : ParenFree (Naming.unquoted name) := by
  rw [Naming.unquoted]
  split
  · apply free.of_mem
    intro c member _
    exact List.mem_of_mem_tail (List.mem_of_mem_dropLast member)
  · exact free

theorem parenFree_normalize (free : ParenFree name) (rule : CaseRule) :
    ParenFree (rule.normalize name) := by
  unfold CaseRule.normalize
  split
  · exact free
  · cases rule
    · exact free.lower
    · exact free.upper
    · exact free
    · exact free

theorem parenFree_quote (free : ParenFree name) (rule : CaseRule) :
    ParenFree (rule.quote name) := by
  have mark : ParenFree "\"" := by decide
  rw [CaseRule.quote]
  split
  · exact free
  · exact (mark.append free).append mark

theorem mem_of_mem_capitalized {word : List Char} {c : Char}
    (member : c ∈ Naming.capitalized word) (paren : isParen c = true) : c ∈ word := by
  cases word with
  | nil => exact member
  | cons first rest =>
      rcases List.mem_append.mp member with raised | lowered
      · rw [eq_of_mem_upperChar raised paren]
        exact List.mem_cons_self
      · obtain ⟨d, inRest, image⟩ := List.mem_flatMap.mp lowered
        rw [eq_of_mem_lowerChar image paren]
        exact List.mem_cons_of_mem first inRest

theorem parenFree_camelCase (free : ParenFree name) : ParenFree (Naming.camelCase name) := by
  have inName {word : List Char} {c : Char} (listed : word ∈ Naming.words name.toList)
      (member : c ∈ word) : c ∈ name.toList :=
    (mem_of_mem_pieces (List.mem_of_mem_filter listed) member).1
  rw [Naming.camelCase]
  cases split : Naming.words name.toList with
  | nil => decide
  | cons first rest =>
      rw [split] at inName
      apply free.of_mem
      intro c member paren
      rcases List.mem_append.mp member with lowered | capital
      · exact inName List.mem_cons_self (mem_of_mem_lowerAfter lowered paren)
      · obtain ⟨word, inRest, image⟩ := List.mem_flatMap.mp capital
        exact inName (List.mem_cons_of_mem first inRest) (mem_of_mem_capitalized image paren)

theorem parenFree_initials (free : ParenFree name) : ParenFree (Naming.initials '_' name) := by
  rw [← String.ofList_toList (s := Naming.initials '_' name), initials_toList]
  apply free.of_mem
  intro c member paren
  obtain ⟨first, leads, image⟩ := List.mem_flatMap.mp member
  rw [eq_of_mem_lowerChar image paren]
  exact (mem_of_mem_leadingChars leads).1

theorem parenFree_toString (number : Nat) : ParenFree (toString number) := by
  intro c member
  rw [Nat.toString_eq_repr, Nat.toList_repr] at member
  have digit := Nat.isDigit_of_mem_toDigits (by decide) (by decide) member
  rw [not_isParen_iff]
  constructor <;> rintro rfl <;> cases digit

theorem parenFree_fresh (free : ParenFree name) (taken : List String) :
    ParenFree (Naming.fresh name "" taken) := by
  have nothing : ParenFree "" := by decide
  rw [Naming.fresh]
  split
  · exact (free.append nothing).append (parenFree_toString _)
  · exact free

theorem parenFree_apply (free : ParenFree name) (style : NamingStyle) :
    ParenFree (style.apply name) := by
  cases style with
  | asInDatabase => exact free
  | camelCase => exact parenFree_camelCase free

theorem parenFree_aliasMark {mark : Option String} (free : ∀ text ∈ mark, ParenFree text) :
    ParenFree (mark.getD aliasMark) := by
  cases mark with
  | none => exact (by decide : ParenFree aliasMark)
  | some text => exact free text rfl

theorem propertyName_eq {spec : FieldSpec} {style : NamingStyle} {location : Location}
    (named : spec.propertyName style location = .ok name) :
    spec.property = some name ∨
      ∃ field, spec.field = some field ∧ name = style.apply (Naming.unquoted field) := by
  obtain ⟨field, expression, mark, property, override⟩ := spec
  rcases field with _ | field <;> rcases expression with _ | expression <;>
    rcases property with _ | property <;> cases named
  · exact .inl rfl
  · exact .inr ⟨field, rfl, rfl⟩
  · exact .inl rfl

end Names

/-! The names and the fragments of SQL from which a query is written. -/

def KeyPair.names (pair : KeyPair) : List String := [pair.childField, pair.parentField]

def Relation.names (relation : Relation) : List String :=
  relation.id.schema.toList ++ relation.id.name :: relation.fields.map (·.name)

def Catalog.names (catalog : Catalog) : List String :=
  catalog.relations.flatMap Relation.names ++
    catalog.foreignKeys.flatMap fun key => key.pairs.flatMap KeyPair.names

def FieldSpec.names (spec : FieldSpec) : List String :=
  spec.field.toList ++ spec.property.toList ++ spec.aliasMark.toList

namespace Related

def names (related : Related) : List String :=
  let joined := (related.link.customJoin.getD []).flatMap KeyPair.names
  match related with
  | inlineParent _ => joined
  | referencedParent parent => parent.name :: joined
  | childCollection collection => collection.name :: joined

def fragments : Related → List String
  | inlineParent _ | referencedParent _ => []
  | childCollection collection => collection.filter.toList ++ collection.orderBy.toList

end Related

namespace TableSpec

def ownNames (spec : TableSpec) : List String :=
  spec.table :: (spec.fields.flatMap FieldSpec.names ++
    spec.condition.toList.flatMap (·.aliasMark.toList) ++ spec.related.flatMap Related.names)

def ownFragments (spec : TableSpec) : List String :=
  spec.fields.flatMap (·.expression.toList) ++ spec.condition.toList.map (·.sql) ++
    spec.related.flatMap Related.fragments

mutual
def tables : TableSpec → List TableSpec
  | ⟨table, fields, inlineParents, referencedParents, childCollections, condition⟩ =>
      ⟨table, fields, inlineParents, referencedParents, childCollections, condition⟩ ::
        (inlineTables inlineParents ++ referencedTables referencedParents ++
          childTables childCollections)
termination_by structural spec => spec

def inlineTables : List InlineParent → List TableSpec
  | [] => []
  | ⟨spec, _, _⟩ :: rest => spec.tables ++ inlineTables rest
termination_by structural parents => parents

def referencedTables : List ReferencedParent → List TableSpec
  | [] => []
  | ⟨_, spec, _, _⟩ :: rest => spec.tables ++ referencedTables rest
termination_by structural parents => parents

def childTables : List ChildCollection → List TableSpec
  | [] => []
  | ⟨_, spec, _, _, _, _⟩ :: rest => spec.tables ++ childTables rest
termination_by structural collections => collections
end

theorem tables_eq (spec : TableSpec) :
    spec.tables = spec :: spec.related.flatMap fun related => related.spec.tables := by
  have inlined (parents : List InlineParent) :
      inlineTables parents = parents.flatMap fun parent => parent.spec.tables := by
    induction parents with
    | nil => rfl
    | cons parent rest ih =>
        cases parent
        rw [inlineTables, ih, List.flatMap_cons]
  have referenced (parents : List ReferencedParent) :
      referencedTables parents = parents.flatMap fun parent => parent.spec.tables := by
    induction parents with
    | nil => rfl
    | cons parent rest ih =>
        cases parent
        rw [referencedTables, ih, List.flatMap_cons]
  have collected (collections : List ChildCollection) :
      childTables collections = collections.flatMap fun collection => collection.spec.tables := by
    induction collections with
    | nil => rfl
    | cons collection rest ih =>
        cases collection
        rw [childTables, ih, List.flatMap_cons]
  obtain ⟨table, fields, inlineParents, referencedParents, childCollections, condition⟩ := spec
  rw [tables, inlined, referenced, collected, related]
  simp only [List.flatMap_append, List.flatMap_map]
  rfl

def names (spec : TableSpec) : List String := spec.tables.flatMap ownNames

def fragments (spec : TableSpec) : List String := spec.tables.flatMap ownFragments

/-- Nothing that the table and the tables below it add to a query unbalances it. -/
structure Plain (spec : TableSpec) : Prop where
  names : ∀ name ∈ spec.names, ParenFree name
  fragments : ∀ fragment ∈ spec.fragments, Balanced fragment

namespace Plain

variable {spec : TableSpec}

theorem own (plain : spec.Plain) {name : String} (member : name ∈ spec.ownNames) :
    ParenFree name := by
  apply plain.names
  rw [TableSpec.names, tables_eq, List.flatMap_cons]
  exact List.mem_append_left _ member

theorem ownFragment (plain : spec.Plain) {fragment : String}
    (member : fragment ∈ spec.ownFragments) : Balanced fragment := by
  apply plain.fragments
  rw [TableSpec.fragments, tables_eq, List.flatMap_cons]
  exact List.mem_append_left _ member

theorem related (plain : spec.Plain) {related : Related} (member : related ∈ spec.related) :
    related.spec.Plain := by
  have below : related.spec.tables ⊆ spec.tables := by
    intro table inside
    rw [tables_eq spec]
    exact List.mem_cons_of_mem spec (List.mem_flatMap.mpr ⟨related, member, inside⟩)
  constructor
  · intro name inside
    obtain ⟨table, listed, own⟩ := List.mem_flatMap.mp inside
    exact plain.names name (List.mem_flatMap.mpr ⟨table, below listed, own⟩)
  · intro fragment inside
    obtain ⟨table, listed, own⟩ := List.mem_flatMap.mp inside
    exact plain.fragments fragment (List.mem_flatMap.mpr ⟨table, below listed, own⟩)

theorem table (plain : spec.Plain) : ParenFree spec.table := plain.own List.mem_cons_self

theorem field (plain : spec.Plain) {field : FieldSpec} (listed : field ∈ spec.fields) :
    (∀ name ∈ field.names, ParenFree name) ∧ ∀ text ∈ field.expression, Balanced text := by
  constructor
  · intro name inside
    apply plain.own
    simp only [ownNames, List.mem_cons, List.mem_append, List.mem_flatMap]
    exact .inr (.inl (.inl ⟨field, listed, inside⟩))
  · intro text stated
    apply plain.ownFragment
    simp only [ownFragments, List.mem_append, List.mem_flatMap]
    exact .inl (.inl ⟨field, listed, Option.mem_toList.mpr stated⟩)

theorem condition (plain : spec.Plain) {stated : RowCondition}
    (isStated : stated ∈ spec.condition) :
    (∀ mark ∈ stated.aliasMark, ParenFree mark) ∧ Balanced stated.sql := by
  have listed := Option.mem_toList.mpr isStated
  constructor
  · intro mark isMark
    apply plain.own
    simp only [ownNames, List.mem_cons, List.mem_append, List.mem_flatMap]
    exact .inr (.inl (.inr ⟨stated, listed, Option.mem_toList.mpr isMark⟩))
  · apply plain.ownFragment
    simp only [ownFragments, List.mem_append, List.mem_map]
    exact .inl (.inr ⟨stated, listed, rfl⟩)

theorem relatedName (plain : spec.Plain) {related : Related} (member : related ∈ spec.related)
    {name : String} (inside : name ∈ related.names) : ParenFree name := by
  apply plain.own
  refine List.mem_cons_of_mem _ (List.mem_append_right _ ?_)
  exact List.mem_flatMap.mpr ⟨related, member, inside⟩

theorem relatedFragment (plain : spec.Plain) {related : Related} (member : related ∈ spec.related)
    {fragment : String} (inside : fragment ∈ related.fragments) : Balanced fragment := by
  apply plain.ownFragment
  exact List.mem_append_right _ (List.mem_flatMap.mpr ⟨related, member, inside⟩)

end Plain

end TableSpec

section Lookups

variable {compiler : Compiler} (stored : ∀ name ∈ compiler.catalog.names, ParenFree name)
include stored

theorem parenFree_of_findRelation {table : String} {location : Location} {relation : Relation}
    (found : compiler.findRelation table location = .ok relation) :
    ∀ name ∈ relation.names, ParenFree name := by
  intro name member
  have listed : relation ∈ compiler.catalog.relations := by
    rw [Compiler.findRelation, Catalog.findRelation] at found
    cases known : compiler.catalog.relation?
        (compiler.catalog.idFor table compiler.options.defaultSchema) with
    | none =>
        rw [known] at found
        cases found
    | some other =>
        rw [known] at found
        cases found
        exact (Catalog.mem_of_relation? known).1
  exact stored name (List.mem_append_left _ (List.mem_flatMap.mpr ⟨relation, listed, member⟩))

theorem parenFree_of_findForeignKey {child parent : RelationId} {fields : Option (List String)}
    {key : ForeignKey}
    (found : compiler.catalog.findForeignKey child parent fields = .ok key) :
    ∀ pair ∈ key.pairs, ∀ name ∈ pair.names, ParenFree name := by
  have between : key ∈ compiler.catalog.keysBetween child parent := by
    cases fields with
    | none =>
        rw [Catalog.findForeignKey_none_iff.mp found]
        exact List.mem_singleton_self key
    | some hint => exact (Catalog.of_findForeignKey_some found).1
  have listed : key ∈ compiler.catalog.foreignKeys := by
    rw [Catalog.keysBetween_eq_filter] at between
    split at between
    · exact List.mem_of_mem_filter between
    · cases between
  intro pair inKey name inPair
  apply stored
  refine List.mem_append_right _ (List.mem_flatMap.mpr ⟨key, listed, ?_⟩)
  exact List.mem_flatMap.mpr ⟨pair, inKey, inPair⟩

theorem parenFree_of_joinPairs {link : Link} {child parent : Relation} {location : Location}
    {pairs : List KeyPair}
    (custom : ∀ name ∈ (link.customJoin.getD []).flatMap KeyPair.names, ParenFree name)
    (joined : compiler.catalog.joinPairs link child parent location = .ok pairs) :
    ∀ pair ∈ pairs, ∀ name ∈ pair.names, ParenFree name := by
  rw [Catalog.joinPairs] at joined
  cases stated : link.customJoin with
  | none =>
      rw [stated] at joined
      cases found : compiler.catalog.findForeignKey child.id parent.id link.foreignKeyFields with
      | error cause =>
          simp only [found] at joined
          cases joined
      | ok key =>
          simp only [found] at joined
          cases joined
          exact parenFree_of_findForeignKey stored found
  | some written =>
      rw [stated] at joined custom
      simp only at joined
      split at joined
      · cases joined
      · split at joined
        · cases joined
        · intro pair member name inPair
          obtain ⟨source, listed, made⟩ := (mem_of_mapM joined pair).mp member
          obtain ⟨_, _, made⟩ := ok_of_bind made
          obtain ⟨_, _, made⟩ := ok_of_bind made
          cases made
          have sourceFree : ∀ name ∈ source.names, ParenFree name := fun name inside =>
            custom name (List.mem_flatMap.mpr ⟨source, listed, inside⟩)
          simp only [KeyPair.names, List.forall_mem_cons] at sourceFree
          simp only [KeyPair.names, List.mem_cons, List.not_mem_nil, or_false] at inPair
          rcases inPair with rfl | rfl
          · exact parenFree_normalize sourceFree.1 _
          · exact parenFree_normalize sourceFree.2.1 _

end Lookups

section Relations

variable {compiler : Compiler} {relation : Relation}
  (named : ∀ name ∈ relation.names, ParenFree name)
include named

theorem parenFree_keyField {field : Field} (inKey : field ∈ relation.primaryKey) :
    ParenFree field.name := by
  apply named
  refine List.mem_append_right _ (List.mem_cons_of_mem _ (List.mem_map_of_mem ?_))
  exact ((relation.primaryKey_spec.2 field).mp inKey).1

theorem parenFree_hiddenName {field : Field} (inKey : field ∈ relation.primaryKey) :
    ParenFree (compiler.hiddenName field) := by
  have mark : ParenFree hiddenMark := by decide
  exact parenFree_quote (mark.append (parenFree_keyField named inKey)) _

theorem parenFree_sourceName : ParenFree (compiler.sourceName relation.id) := by
  have bare : ParenFree relation.id.name := named _ (by simp [Relation.names])
  rw [Compiler.sourceName]
  cases stated : relation.id.schema with
  | none => exact bare
  | some schema =>
      have schemaFree : ParenFree schema := named _ (by simp [Relation.names, stated])
      simp only
      split
      · exact bare
      · simp only [RelationId.display, stated]
        exact (schemaFree.append (by decide)).append bare

theorem parenFree_ownAlias (embedding : Embedding) : ParenFree (embedding.ownAlias relation) := by
  apply parenFree_fresh
  apply parenFree_initials
  exact named _ (by simp [Relation.names])

end Relations

end NestedQuery

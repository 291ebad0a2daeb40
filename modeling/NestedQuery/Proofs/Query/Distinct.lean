import NestedQuery.Proofs.Query.Lockstep

/-! No object has two properties of one name. Names are compared where columns are listed, in quotes
or without, and hidden keys among them; types are made apart from that, and carry the distinct names
over to every type nested in them. -/

namespace NestedQuery

theorem QueryParts.firstRepeated_eq_none_iff {seen names : List String} :
    repeatedName?.firstRepeated seen names = none ↔
      names.Nodup ∧ ∀ name ∈ names, name ∉ seen := by
  induction names generalizing seen with
  | nil => simp [repeatedName?.firstRepeated]
  | cons name rest ih =>
      rw [repeatedName?.firstRepeated]
      split
      · rename_i repeated
        simp [repeated]
      · rename_i new
        rw [ih, List.nodup_cons, List.forall_mem_cons]
        simp only [List.mem_cons, not_or]
        constructor
        · rintro ⟨distinct, apart⟩
          refine ⟨⟨fun member => (apart name member).1 rfl, distinct⟩, new, ?_⟩
          exact fun other member => (apart other member).2
        · rintro ⟨⟨absent, distinct⟩, -, apart⟩
          refine ⟨distinct, fun other member => ⟨?_, apart other member⟩⟩
          rintro rfl
          exact absent member

theorem QueryParts.repeatedName?_eq_none_iff (parts : QueryParts) :
    parts.repeatedName? = none ↔ (parts.entries.map SelectEntry.propertyName).Nodup := by
  rw [repeatedName?, firstRepeated_eq_none_iff]
  simp

theorem columns_distinct {compiler : Compiler} {spec : TableSpec} {embedding : Embedding}
    {location : Location} {query : BaseQuery}
    (compiled : compiler.baseQuery spec embedding location = .ok query) :
    (query.columns.map SelectEntry.propertyName).Nodup := by
  obtain ⟨_, _, _, _, _, unique⟩ := Compiler.baseQuery_ok compiled
  have distinct := query.parts.repeatedName?_eq_none_iff.mp unique
  exact distinct.sublist (List.filter_sublist.map SelectEntry.propertyName)

def ResultField.nested? : ResultField → Option ResultType
  | childCollection _ type _ | parentReference _ type _ => some type
  | database .. | expression .. => none

/-- The types of which a type is made: the type itself, and those nested in its fields. -/
inductive ResultType.HasNode : ResultType → ResultType → Prop
  | root (type) : HasNode type type
  | nested {type inner node : ResultType} {field : ResultField} :
      field ∈ type.fields → field.nested? = some inner → HasNode inner node → HasNode type node

def ResultType.propertyNames (type : ResultType) : List String :=
  type.fields.map fun field => Naming.unquoted field.name

def ResultType.Distinct (type : ResultType) : Prop :=
  ∀ node, type.HasNode node → node.propertyNames.Nodup

@[simp] theorem ResultField.nested?_madeNullable (field : ResultField) :
    field.madeNullable.nested? = field.nested? := by
  cases field <;> rfl

namespace ResultType.Distinct

theorem of_nested {type : ResultType} (own : type.propertyNames.Nodup)
    (nested : ∀ field ∈ type.fields, ∀ inner, field.nested? = some inner → inner.Distinct) :
    type.Distinct := by
  intro node within
  cases within with
  | root => exact own
  | nested member isNested within => exact nested _ member _ isNested node within

theorem nested {type inner : ResultType} {field : ResultField} (distinct : type.Distinct)
    (member : field ∈ type.fields) (isNested : field.nested? = some inner) : inner.Distinct :=
  fun node within => distinct node (.nested member isNested within)

theorem of_sameFields {type other : ResultType} (distinct : type.Distinct)
    (same : other.fields = type.fields) : other.Distinct := by
  apply of_nested
  · have own := distinct type (.root type)
    rwa [propertyNames, same]
  · intro field member inner isNested
    rw [same] at member
    exact distinct.nested member isNested

end ResultType.Distinct

section

variable {typing : Typing} {location : Location}

theorem nested_of_nativeField {relation : Relation} {spec : FieldSpec} {field : ResultField}
    (made : typing.nativeField relation location spec = .ok field) : field.nested? = none := by
  obtain ⟨name, _, made⟩ := ok_of_bind made
  split at made
  · obtain ⟨stored, _, made⟩ := ok_of_bind made
    cases made
    rfl
  · cases made
    rfl
  · cases made

theorem nested_of_nativeFields {relation : Relation} {specs : List FieldSpec}
    {fields : List ResultField} {field : ResultField}
    (made : specs.mapM (typing.nativeField relation location) = .ok fields)
    (member : field ∈ fields) : field.nested? = none := by
  rw [mapM_eq_ok_iff] at made
  induction made with
  | nil => cases member
  | cons first _ ih =>
      rcases List.mem_cons.mp member with rfl | later
      · exact nested_of_nativeField first
      · exact ih later

theorem nested_of_inlinedFields {child : Relation} {parents : List InlineParent}
    {fields : List ResultField} {field : ResultField} {inner : ResultType}
    (made : typing.inlinedFields child location parents = .ok fields) (member : field ∈ fields)
    (isNested : field.nested? = some inner) :
    ∃ parent ∈ parents, ∃ type,
      typing.resultType parent.spec (location.enter (Related.inlineParent parent).describe) =
        .ok type ∧
      ∃ field ∈ type.fields, field.nested? = some inner := by
  induction parents generalizing fields with
  | nil =>
      cases made
      cases member
  | cons parent rest ih =>
      obtain ⟨spec, link, optional⟩ := parent
      rw [Typing.inlinedFields] at made
      obtain ⟨type, typed, made⟩ := ok_of_bind made
      obtain ⟨absent, _, made⟩ := ok_of_bind made
      obtain ⟨others, othersMade, made⟩ := ok_of_bind made
      cases made
      rcases List.mem_append.mp member with here | later
      · refine ⟨_, List.mem_cons_self, type, typed, ?_⟩
        split at here
        · obtain ⟨original, inType, rfl⟩ := List.mem_map.mp here
          exact ⟨original, inType, by simpa using isNested⟩
        · exact ⟨field, here, isNested⟩
      · obtain ⟨other, inRest, found⟩ := ih othersMade later
        exact ⟨other, List.mem_cons_of_mem _ inRest, found⟩

theorem nested_of_referencedFields {child : Relation} {parents : List ReferencedParent}
    {fields : List ResultField} {field : ResultField} {inner : ResultType}
    (made : typing.referencedFields child location parents = .ok fields) (member : field ∈ fields)
    (isNested : field.nested? = some inner) :
    ∃ parent ∈ parents,
      typing.resultType parent.spec
        (location.enter (Related.referencedParent parent).describe) = .ok inner := by
  induction parents generalizing fields with
  | nil =>
      cases made
      cases member
  | cons parent rest ih =>
      obtain ⟨name, spec, link, optional⟩ := parent
      rw [Typing.referencedFields] at made
      obtain ⟨type, typed, made⟩ := ok_of_bind made
      obtain ⟨absent, _, made⟩ := ok_of_bind made
      obtain ⟨others, othersMade, made⟩ := ok_of_bind made
      cases made
      rcases List.mem_cons.mp member with rfl | later
      · cases isNested
        exact ⟨_, List.mem_cons_self, typed⟩
      · obtain ⟨other, inRest, found⟩ := ih othersMade later
        exact ⟨other, List.mem_cons_of_mem _ inRest, found⟩

theorem collectionType_fields {type rows : ResultType} {unwrap : Bool} {table : String}
    (made : Typing.collectionType type unwrap table location = .ok rows) :
    rows.fields = type.fields := by
  unfold Typing.collectionType at made
  split at made
  · split at made
    · cases made
      rfl
    · cases made
  · cases made
    rfl

theorem nested_of_collectionFields {collections : List ChildCollection}
    {fields : List ResultField} {field : ResultField} {inner : ResultType}
    (made : typing.collectionFields location collections = .ok fields) (member : field ∈ fields)
    (isNested : field.nested? = some inner) :
    ∃ collection ∈ collections, ∃ rows,
      typing.resultType collection.spec
        (location.enter (Related.childCollection collection).describe) = .ok rows ∧
      inner.fields = rows.fields := by
  induction collections generalizing fields with
  | nil =>
      cases made
      cases member
  | cons collection rest ih =>
      obtain ⟨name, spec, link, filter, unwrap, orderBy⟩ := collection
      rw [Typing.collectionFields] at made
      obtain ⟨rows, typed, made⟩ := ok_of_bind made
      obtain ⟨type, unwrapped, made⟩ := ok_of_bind made
      obtain ⟨others, othersMade, made⟩ := ok_of_bind made
      cases made
      rcases List.mem_cons.mp member with rfl | later
      · cases isNested
        exact ⟨_, List.mem_cons_self, rows, typed, collectionType_fields unwrapped⟩
      · obtain ⟨other, inRest, found⟩ := ih othersMade later
        exact ⟨other, List.mem_cons_of_mem _ inRest, found⟩

/-- The types nested in the fields of a table's type are those of its related tables; an inlined
parent hands on what is nested in its own. -/
theorem nested_of_resultType {spec : TableSpec} {type inner : ResultType} {field : ResultField}
    (typed : typing.resultType spec location = .ok type) (member : field ∈ type.fields)
    (isNested : field.nested? = some inner) :
    ∃ related ∈ spec.related, ∃ nested,
      typing.resultType related.spec (location.enter related.describe) = .ok nested ∧
      (nested.Distinct → inner.Distinct) := by
  obtain ⟨table, fields, inlineParents, referencedParents, childCollections, condition⟩ := spec
  rw [Typing.resultType] at typed
  obtain ⟨relation, _, typed⟩ := ok_of_bind typed
  obtain ⟨plain, plainMade, typed⟩ := ok_of_bind typed
  obtain ⟨inlined, inlinedMade, typed⟩ := ok_of_bind typed
  obtain ⟨referenced, referencedMade, typed⟩ := ok_of_bind typed
  obtain ⟨children, childrenMade, typed⟩ := ok_of_bind typed
  cases typed
  simp only [TableSpec.related, List.mem_append, List.mem_map, or_assoc] at member ⊢
  rcases member with native | member | member | member
  · rw [nested_of_nativeFields plainMade native] at isNested
    cases isNested
  · obtain ⟨parent, inParents, nested, nestedTyped, source, inNested, found⟩ :=
      nested_of_inlinedFields inlinedMade member isNested
    exact ⟨_, .inl ⟨parent, inParents, rfl⟩, nested, nestedTyped,
      fun distinct => distinct.nested inNested found⟩
  · obtain ⟨parent, inParents, nestedTyped⟩ :=
      nested_of_referencedFields referencedMade member isNested
    exact ⟨_, .inr (.inl ⟨parent, inParents, rfl⟩), inner, nestedTyped, id⟩
  · obtain ⟨collection, inCollections, rows, rowsTyped, same⟩ :=
      nested_of_collectionFields childrenMade member isNested
    exact ⟨_, .inr (.inr ⟨collection, inCollections, rfl⟩), rows, rowsTyped,
      fun distinct => distinct.of_sameFields same⟩

end

theorem resultType_distinct {compiler : Compiler} {spec : TableSpec} {embedding : Embedding}
    {location : Location} {query : BaseQuery} {type : ResultType}
    (compiled : compiler.baseQuery spec embedding location = .ok query)
    (typed : compiler.typing.resultType spec location = .ok type) : type.Distinct := by
  induction spec using TableSpec.nested_induction generalizing embedding location query type with
  | step spec inlineParents referencedParents childCollections =>
      apply ResultType.Distinct.of_nested
      · obtain ⟨sameType, sameTyped, same, _⟩ := inStep compiler spec _ _ _ compiled
        obtain rfl : sameType = type := Except.ok.inj (sameTyped.symm.trans typed)
        have columns := columns_distinct compiled
        rw [ResultType.propertyNames, ← same]
        exact columns
      · intro field member inner isNested
        obtain ⟨related, inSpec, nested, nestedTyped, carries⟩ :=
          nested_of_resultType typed member isNested
        obtain ⟨assembly, _⟩ := Compiler.baseQuery_ok compiled
        obtain ⟨nestedQuery⟩ := assembly.related_compiled inSpec
        apply carries
        simp only [TableSpec.related, List.mem_append, List.mem_map] at inSpec
        rcases inSpec with (⟨parent, inParents, rfl⟩ | ⟨parent, inParents, rfl⟩) |
          ⟨collection, inCollections, rfl⟩
        · exact inlineParents parent inParents nestedQuery.compiled nestedTyped
        · exact referencedParents parent inParents nestedQuery.compiled nestedTyped
        · exact childCollections collection inCollections nestedQuery.compiled nestedTyped

/-- Properties are distinct at every depth: no two fields share a name in any node of the result
type of a compiled query, and no two columns in any base query, of whose columns objects are made.
-/
theorem properties_distinct (compiler : Compiler) :
    (∀ (query : QuerySpec) (generated : GeneratedQuery) (type node : ResultType),
      compiler.compileQuery query = .ok generated → generated.resultType = some type →
        type.HasNode node → (node.fields.map fun field => Naming.unquoted field.name).Nodup) ∧
    ∀ (spec : TableSpec) (embedding : Embedding) (location : Location) (query : BaseQuery),
      compiler.baseQuery spec embedding location = .ok query →
        (query.columns.map SelectEntry.propertyName).Nodup := by
  refine ⟨?_, fun _ _ _ _ compiled => columns_distinct compiled⟩
  intro query generated type node made isType within
  obtain ⟨sqls, sqlsMade, made⟩ := ok_of_bind made
  obtain ⟨embedding, base, compiled⟩ := baseQuery_of_querySqls sqlsMade
  dsimp only at made
  split at made
  · obtain ⟨result, resultMade, made⟩ := ok_of_bind made
    cases made
    obtain ⟨sameType, typed, same⟩ := ok_of_map resultMade
    obtain rfl : sameType = type := Option.some.inj (same.trans isType)
    exact resultType_distinct compiled typed node within
  · cases made
    cases isType

theorem properties_distinct_shop :
    ∃ generated type seller base, Shop.compiler.compileQuery Shop.query = .ok generated ∧
      generated.resultType = some type ∧
      type.propertyNames = ["id", "next", "fullName", "sellerName", "seller", "skus"] ∧
      type.propertyNames.Nodup ∧ type.HasNode seller ∧ seller.propertyNames = ["fullName"] ∧
      seller.propertyNames.Nodup ∧
      Shop.compiler.baseQuery Shop.orders {} { query := "orders" } = .ok base ∧
      (base.columns.map SelectEntry.propertyName).Nodup := by
  obtain ⟨base, compiled⟩ := exists_of_isOk
    (show (Shop.compiler.baseQuery Shop.orders {} { query := "orders" }).isOk = true by
      decide +kernel)
  have shown : (Shop.compiler.compileQuery Shop.query).map (fun generated =>
      generated.resultType.map fun type => (type.propertyNames,
        type.fields.map fun field => field.nested?.map ResultType.propertyNames)) =
      .ok (some (["id", "next", "fullName", "sellerName", "seller", "skus"],
        [none, none, none, none, some ["fullName"], some ["sku"]])) := by
    decide +kernel
  obtain ⟨generated, made, shown⟩ := ok_of_map shown
  obtain ⟨type, isType, shown⟩ := Option.map_eq_some_iff.mp shown
  obtain ⟨names, nested⟩ := Prod.mk.inj shown
  have someSeller : some ["fullName"] ∈
      type.fields.map fun field => field.nested?.map ResultType.propertyNames := by
    rw [nested]
    decide
  obtain ⟨field, member, isSeller⟩ := List.mem_map.mp someSeller
  obtain ⟨seller, isNested, sellerNames⟩ := Option.map_eq_some_iff.mp isSeller
  have within : type.HasNode seller := .nested member isNested (.root seller)
  have distinct := fun node => (properties_distinct Shop.compiler).1 _ _ _ node made isType
  exact ⟨generated, type, seller, base, made, isType, names, distinct type (.root type),
    within, sellerNames, distinct seller within, compiled,
    (properties_distinct Shop.compiler).2 _ _ _ _ compiled⟩

end NestedQuery

import NestedQuery.Proofs.Query.Assembly

/-! Which values of a result may be null. Every field of a result type belongs to a table that is
reached through inlined parents. It keeps all that its own table gives to it, except that its value
may be null as well where one of the parents on the way may be absent. -/

namespace NestedQuery

namespace ResultField

def nullableIf (absent : Bool) (field : ResultField) : ResultField :=
  if absent then field.madeNullable else field

/-- The fields are of one kind and agree in their names, sources and nested types; they may differ
in whether their values may be null. -/
def SameButNull (left right : ResultField) : Prop := left.madeNullable = right.madeNullable

theorem madeNullable_madeNullable (field : ResultField) :
    field.madeNullable.madeNullable = field.madeNullable := by
  cases field <;> rfl

theorem nullableIf_nullableIf (field : ResultField) (inner outer : Bool) :
    (field.nullableIf inner).nullableIf outer = field.nullableIf (outer || inner) := by
  cases inner <;> cases outer <;> simp [nullableIf, madeNullable_madeNullable]

theorem sameButNull_nullableIf (field : ResultField) (absent : Bool) :
    (field.nullableIf absent).SameButNull field := by
  cases absent
  · rfl
  · exact field.madeNullable_madeNullable

theorem nullable?_nullableIf (field : ResultField) (absent : Bool) :
    (field.nullableIf absent).nullable? = field.nullable?.map (· || absent) := by
  cases absent <;> cases field <;> simp [nullableIf, madeNullable, nullable?]

theorem SameButNull.eq {left right : ResultField} (same : left.SameButNull right)
    (flag : left.nullable? = right.nullable?) : left = right := by
  cases left <;> cases right <;> simp_all [SameButNull, madeNullable, nullable?]

theorem eq_nullableIf_iff (field own : ResultField) (absent : Bool) :
    field = own.nullableIf absent ↔
      field.SameButNull own ∧ field.nullable? = own.nullable?.map (· || absent) := by
  have stays := own.sameButNull_nullableIf absent
  have flag := own.nullable?_nullableIf absent
  constructor
  · rintro rfl
    exact ⟨stays, flag⟩
  · rintro ⟨same, sameFlag⟩
    exact SameButNull.eq (same.trans stays.symm) (sameFlag.trans flag.symm)

end ResultField

/-- Inlined parents, each held by the table before it, with the answer for each whether it may be
absent. -/
inductive InlineChain (typing : Typing) :
    TableSpec → Location → List Bool → TableSpec → Location → Prop
  | here (spec location) : InlineChain typing spec location [] spec location
  | there {spec node : TableSpec} {location place : Location} {parent : InlineParent}
      {relation : Relation} {absent : Bool} {links : List Bool} :
      parent ∈ spec.inlineParents →
      typing.findRelation spec.table location = .ok relation →
      typing.parentMayBeAbsent (.inlineParent parent) relation
        (location.enter (Related.inlineParent parent).describe) = .ok absent →
      InlineChain typing parent.spec (location.enter (Related.inlineParent parent).describe) links
        node place →
      InlineChain typing spec location (absent :: links) node place

/-- The fields that a table has of itself: one for each property that its specification states, none
of those that inlined parents add. -/
inductive OwnField (typing : Typing) (spec : TableSpec) (location : Location) : ResultField → Prop
  | database {relation : Relation} {property : FieldSpec} {column name : String} {field : Field} :
      typing.findRelation spec.table location = .ok relation → property ∈ spec.fields →
      property.field = some column → property.expression = none →
      property.propertyName typing.options.naming (location.enterTable spec.table) = .ok name →
      typing.catalog.findField relation column (location.enterTable spec.table) = .ok field →
      OwnField typing spec location (.database name field field.isNullable property.typeOverride)
  | expression {property : FieldSpec} {sql name : String} :
      property ∈ spec.fields → property.field = none → property.expression = some sql →
      property.propertyName typing.options.naming (location.enterTable spec.table) = .ok name →
      OwnField typing spec location (.expression name sql property.typeOverride)
  | parentReference {relation : Relation} {parent : ReferencedParent} {type : ResultType}
      {absent : Bool} :
      typing.findRelation spec.table location = .ok relation → parent ∈ spec.referencedParents →
      typing.resultType parent.spec
        (location.enter (Related.referencedParent parent).describe) = .ok type →
      typing.parentMayBeAbsent (.referencedParent parent) relation
        (location.enter (Related.referencedParent parent).describe) = .ok absent →
      OwnField typing spec location (.parentReference parent.name type absent)
  | childCollection {collection : ChildCollection} {rows type : ResultType} :
      collection ∈ spec.childCollections →
      typing.resultType collection.spec
        (location.enter (Related.childCollection collection).describe) = .ok rows →
      Typing.collectionType rows collection.isUnwrapped collection.spec.table
        (location.enter (Related.childCollection collection).describe) = .ok type →
      OwnField typing spec location (.childCollection collection.name type false)

section

variable {typing : Typing} {location : Location} {field : ResultField}

theorem nativeField_eq_ok_iff {relation : Relation} {property : FieldSpec} :
    typing.nativeField relation location property = .ok field ↔
      (∃ column name stored, property.field = some column ∧ property.expression = none ∧
        property.propertyName typing.options.naming location = .ok name ∧
        typing.catalog.findField relation column location = .ok stored ∧
        field = .database name stored stored.isNullable property.typeOverride) ∨
      ∃ sql name, property.field = none ∧ property.expression = some sql ∧
        property.propertyName typing.options.naming location = .ok name ∧
        field = .expression name sql property.typeOverride := by
  constructor
  · intro made
    obtain ⟨name, named, made⟩ := ok_of_bind made
    split at made
    · rename_i column isField noExpression
      obtain ⟨stored, found, made⟩ := ok_of_bind made
      cases made
      exact .inl ⟨column, name, stored, isField, noExpression, named, found, rfl⟩
    · rename_i sql noField isExpression
      cases made
      exact .inr ⟨sql, name, noField, isExpression, named, rfl⟩
    · cases made
  · rintro (⟨column, name, stored, isField, noExpression, named, found, rfl⟩ |
      ⟨sql, name, noField, isExpression, named, rfl⟩)
    · simp only [Typing.nativeField, isField, noExpression, named, found, ok_bind]
      rfl
    · simp only [Typing.nativeField, noField, isExpression, named, ok_bind]
      rfl

theorem mem_inlinedFields_iff {child : Relation} {parents : List InlineParent}
    {fields : List ResultField}
    (made : typing.inlinedFields child location parents = .ok fields) :
    field ∈ fields ↔ ∃ parent ∈ parents, ∃ type absent,
      typing.resultType parent.spec (location.enter (Related.inlineParent parent).describe) =
        .ok type ∧
      typing.parentMayBeAbsent (.inlineParent parent) child
        (location.enter (Related.inlineParent parent).describe) = .ok absent ∧
      ∃ inner ∈ type.fields, field = inner.nullableIf absent := by
  induction parents generalizing fields with
  | nil =>
      cases made
      simp
  | cons parent rest ih =>
      obtain ⟨spec, link, optional⟩ := parent
      rw [Typing.inlinedFields] at made
      obtain ⟨type, typed, made⟩ := ok_of_bind made
      obtain ⟨absent, known, made⟩ := ok_of_bind made
      obtain ⟨others, othersMade, made⟩ := ok_of_bind made
      cases made
      have inlined : (if absent then type.fields.map ResultField.madeNullable else type.fields) =
          type.fields.map (ResultField.nullableIf absent) := by
        cases absent with
        | false => exact (List.map_id _).symm
        | true => rfl
      rw [inlined, List.mem_append, ih othersMade, List.exists_mem_cons_iff]
      refine or_congr_left ?_
      rw [List.mem_map]
      dsimp only
      simp only [typed, known, Except.ok.injEq, exists_and_left, exists_eq_left']
      exact ⟨fun ⟨inner, member, made⟩ => ⟨inner, member, made.symm⟩,
        fun ⟨inner, member, made⟩ => ⟨inner, member, made.symm⟩⟩

theorem mem_referencedFields_iff {child : Relation} {parents : List ReferencedParent}
    {fields : List ResultField}
    (made : typing.referencedFields child location parents = .ok fields) :
    field ∈ fields ↔ ∃ parent ∈ parents, ∃ type absent,
      typing.resultType parent.spec
        (location.enter (Related.referencedParent parent).describe) = .ok type ∧
      typing.parentMayBeAbsent (.referencedParent parent) child
        (location.enter (Related.referencedParent parent).describe) = .ok absent ∧
      field = .parentReference parent.name type absent := by
  induction parents generalizing fields with
  | nil =>
      cases made
      simp
  | cons parent rest ih =>
      obtain ⟨name, spec, link, optional⟩ := parent
      rw [Typing.referencedFields] at made
      obtain ⟨type, typed, made⟩ := ok_of_bind made
      obtain ⟨absent, known, made⟩ := ok_of_bind made
      obtain ⟨others, othersMade, made⟩ := ok_of_bind made
      cases made
      rw [List.mem_cons, ih othersMade, List.exists_mem_cons_iff]
      refine or_congr_left ?_
      dsimp only
      simp only [typed, known, Except.ok.injEq, exists_and_left, exists_eq_left']

theorem mem_collectionFields_iff {collections : List ChildCollection} {fields : List ResultField}
    (made : typing.collectionFields location collections = .ok fields) :
    field ∈ fields ↔ ∃ collection ∈ collections, ∃ rows type,
      typing.resultType collection.spec
        (location.enter (Related.childCollection collection).describe) = .ok rows ∧
      Typing.collectionType rows collection.isUnwrapped collection.spec.table
        (location.enter (Related.childCollection collection).describe) = .ok type ∧
      field = .childCollection collection.name type false := by
  induction collections generalizing fields with
  | nil =>
      cases made
      simp
  | cons collection rest ih =>
      obtain ⟨name, spec, link, filter, unwrap, orderBy⟩ := collection
      rw [Typing.collectionFields] at made
      obtain ⟨rows, typed, made⟩ := ok_of_bind made
      obtain ⟨type, unwrapped, made⟩ := ok_of_bind made
      obtain ⟨others, othersMade, made⟩ := ok_of_bind made
      cases made
      rw [List.mem_cons, ih othersMade, List.exists_mem_cons_iff]
      refine or_congr_left ?_
      dsimp only at typed unwrapped ⊢
      simp only [typed, unwrapped, Except.ok.injEq, exists_and_left, exists_eq_left']

theorem ownField_iff {spec : TableSpec} {relation : Relation}
    (found : typing.findRelation spec.table location = .ok relation) :
    OwnField typing spec location field ↔
      (∃ property ∈ spec.fields,
        typing.nativeField relation (location.enterTable spec.table) property = .ok field) ∨
      (∃ parent ∈ spec.referencedParents, ∃ type absent,
        typing.resultType parent.spec
          (location.enter (Related.referencedParent parent).describe) = .ok type ∧
        typing.parentMayBeAbsent (.referencedParent parent) relation
          (location.enter (Related.referencedParent parent).describe) = .ok absent ∧
        field = .parentReference parent.name type absent) ∨
      ∃ collection ∈ spec.childCollections, ∃ rows type,
        typing.resultType collection.spec
          (location.enter (Related.childCollection collection).describe) = .ok rows ∧
        Typing.collectionType rows collection.isUnwrapped collection.spec.table
          (location.enter (Related.childCollection collection).describe) = .ok type ∧
        field = .childCollection collection.name type false := by
  have only {other : Relation} (also : typing.findRelation spec.table location = .ok other) :
      other = relation := Except.ok.inj (also.symm.trans found)
  constructor
  · intro own
    cases own with
    | database also member isField noExpression named stored =>
        obtain rfl := only also
        exact .inl ⟨_, member, nativeField_eq_ok_iff.mpr
          (.inl ⟨_, _, _, isField, noExpression, named, stored, rfl⟩)⟩
    | expression member noField isExpression named =>
        exact .inl ⟨_, member, nativeField_eq_ok_iff.mpr
          (.inr ⟨_, _, noField, isExpression, named, rfl⟩)⟩
    | parentReference also member typed known =>
        obtain rfl := only also
        exact .inr (.inl ⟨_, member, _, _, typed, known, rfl⟩)
    | childCollection member typed unwrapped =>
        exact .inr (.inr ⟨_, member, _, _, typed, unwrapped, rfl⟩)
  · rintro (⟨property, member, made⟩ | ⟨parent, member, type, absent, typed, known, rfl⟩ |
      ⟨collection, member, rows, type, typed, unwrapped, rfl⟩)
    · rcases nativeField_eq_ok_iff.mp made with
        ⟨column, name, stored, isField, noExpression, named, isStored, rfl⟩ |
        ⟨sql, name, noField, isExpression, named, rfl⟩
      · exact .database found member isField noExpression named isStored
      · exact .expression member noField isExpression named
    · exact .parentReference found member typed known
    · exact .childCollection member typed unwrapped

theorem mem_fields_iff {spec : TableSpec} {type : ResultType} {relation : Relation}
    (found : typing.findRelation spec.table location = .ok relation)
    (typed : typing.resultType spec location = .ok type) :
    field ∈ type.fields ↔ OwnField typing spec location field ∨
      ∃ parent ∈ spec.inlineParents, ∃ nested absent,
        typing.resultType parent.spec (location.enter (Related.inlineParent parent).describe) =
          .ok nested ∧
        typing.parentMayBeAbsent (.inlineParent parent) relation
          (location.enter (Related.inlineParent parent).describe) = .ok absent ∧
        ∃ inner ∈ nested.fields, field = inner.nullableIf absent := by
  obtain ⟨table, fields, inlineParents, referencedParents, childCollections, condition⟩ := spec
  rw [Typing.resultType] at typed
  obtain ⟨also, alsoFound, typed⟩ := ok_of_bind typed
  obtain rfl : also = relation := Except.ok.inj (alsoFound.symm.trans found)
  obtain ⟨plain, plainMade, typed⟩ := ok_of_bind typed
  obtain ⟨inlined, inlinedMade, typed⟩ := ok_of_bind typed
  obtain ⟨referenced, referencedMade, typed⟩ := ok_of_bind typed
  obtain ⟨children, childrenMade, typed⟩ := ok_of_bind typed
  cases typed
  rw [ownField_iff found]
  simp only [List.mem_append, mem_of_mapM plainMade, mem_inlinedFields_iff inlinedMade,
    mem_referencedFields_iff referencedMade, mem_collectionFields_iff childrenMade]
  constructor
  · rintro (((plain | inlined) | referenced) | child)
    · exact .inl (.inl plain)
    · exact .inr inlined
    · exact .inl (.inr (.inl referenced))
    · exact .inl (.inr (.inr child))
  · rintro ((plain | referenced | child) | inlined)
    · exact .inl (.inl (.inl plain))
    · exact .inl (.inr referenced)
    · exact .inr child
    · exact .inl (.inl (.inr inlined))

theorem inlined_typed {child : Relation} {parents : List InlineParent} {fields : List ResultField}
    {parent : InlineParent} (made : typing.inlinedFields child location parents = .ok fields)
    (member : parent ∈ parents) :
    ∃ type, typing.resultType parent.spec
      (location.enter (Related.inlineParent parent).describe) = .ok type := by
  induction parents generalizing fields with
  | nil => cases member
  | cons first rest ih =>
      obtain ⟨spec, link, optional⟩ := first
      rw [Typing.inlinedFields] at made
      obtain ⟨type, typed, made⟩ := ok_of_bind made
      obtain ⟨absent, _, made⟩ := ok_of_bind made
      obtain ⟨others, othersMade, _⟩ := ok_of_bind made
      rcases List.mem_cons.mp member with rfl | later
      · exact ⟨type, typed⟩
      · exact ih othersMade later

theorem resultType_needs {spec : TableSpec} {type : ResultType}
    (typed : typing.resultType spec location = .ok type) :
    (∃ relation, typing.findRelation spec.table location = .ok relation) ∧
      ∀ parent ∈ spec.inlineParents, ∃ nested, typing.resultType parent.spec
        (location.enter (Related.inlineParent parent).describe) = .ok nested := by
  obtain ⟨table, fields, inlineParents, referencedParents, childCollections, condition⟩ := spec
  rw [Typing.resultType] at typed
  obtain ⟨relation, found, typed⟩ := ok_of_bind typed
  obtain ⟨plain, _, typed⟩ := ok_of_bind typed
  obtain ⟨inlined, inlinedMade, _⟩ := ok_of_bind typed
  exact ⟨⟨relation, found⟩, fun parent member => inlined_typed inlinedMade member⟩

theorem InlineChain.typed {spec node : TableSpec} {place : Location} {links : List Bool}
    (chain : InlineChain typing spec location links node place) {type : ResultType}
    (typed : typing.resultType spec location = .ok type) :
    ∃ nodeType, typing.resultType node place = .ok nodeType := by
  induction chain generalizing type with
  | here => exact ⟨type, typed⟩
  | there member _ _ _ ih =>
      obtain ⟨nested, nestedTyped⟩ := (resultType_needs typed).2 _ member
      exact ih nestedTyped

theorem mem_fields_iff_chain {spec : TableSpec} {type : ResultType}
    (typed : typing.resultType spec location = .ok type) :
    field ∈ type.fields ↔ ∃ links node place own,
      InlineChain typing spec location links node place ∧ OwnField typing node place own ∧
        field = own.nullableIf (links.any id) := by
  induction spec using TableSpec.nested_induction generalizing location type field with
  | step spec inlineParents _ _ =>
      obtain ⟨⟨relation, found⟩, inlinedTyped⟩ := resultType_needs typed
      rw [mem_fields_iff found typed]
      constructor
      · rintro (own | ⟨parent, member, nested, absent, nestedTyped, known, inner, inNested, rfl⟩)
        · exact ⟨[], spec, location, field, .here _ _, own, rfl⟩
        · obtain ⟨links, node, place, own, chain, isOwn, rfl⟩ :=
            (inlineParents parent member nestedTyped).mp inNested
          refine ⟨absent :: links, node, place, own, .there member found known chain, isOwn, ?_⟩
          rw [ResultField.nullableIf_nullableIf, List.any_cons, id]
      · rintro ⟨links, node, place, own, chain, isOwn, rfl⟩
        cases chain with
        | here => exact .inl isOwn
        | @there _ _ _ _ parent also absent links member alsoFound known chain =>
            obtain rfl : also = relation := Except.ok.inj (alsoFound.symm.trans found)
            obtain ⟨nested, nestedTyped⟩ := inlinedTyped parent member
            have inner := (inlineParents parent member nestedTyped).mpr
              ⟨links, node, place, own, chain, isOwn, rfl⟩
            refine .inr ⟨parent, member, nested, absent, nestedTyped, known, _, inner, ?_⟩
            rw [ResultField.nullableIf_nullableIf, List.any_cons, id]

end

/-- Nullability composes along inlined parents: the fields of a result type are the own fields of
the tables reached through them. Each has the kind, name, source and nested type that the type of
its own table gives to it, and may be null if it may be so there or if a parent on the way may be
absent. -/
theorem nullability_composes (typing : Typing) (spec : TableSpec) (location : Location)
    (type : ResultType) (typed : typing.resultType spec location = .ok type)
    (field : ResultField) :
    field ∈ type.fields ↔ ∃ links node place nodeType own,
      InlineChain typing spec location links node place ∧
        typing.resultType node place = .ok nodeType ∧ own ∈ nodeType.fields ∧
        OwnField typing node place own ∧ field.SameButNull own ∧
        field.nullable? = own.nullable?.map (· || links.any id) := by
  rw [mem_fields_iff_chain typed]
  constructor
  · rintro ⟨links, node, place, own, chain, isOwn, made⟩
    obtain ⟨nodeType, nodeTyped⟩ := chain.typed typed
    have inNode : own ∈ nodeType.fields :=
      (mem_fields_iff_chain nodeTyped).mpr ⟨[], node, place, own, .here _ _, isOwn, rfl⟩
    exact ⟨links, node, place, nodeType, own, chain, nodeTyped, inNode, isOwn,
      (field.eq_nullableIf_iff own _).mp made⟩
  · rintro ⟨links, node, place, _, own, chain, _, _, isOwn, same⟩
    exact ⟨links, node, place, own, chain, isOwn, (field.eq_nullableIf_iff own _).mpr same⟩

namespace Shop

def itemsWithSeller : TableSpec :=
  { table := "item"
    fields := [{ field := some "sku" }]
    inlineParents :=
      [{ spec :=
          { table := "orders"
            fields := [{ field := some "id", property := some "orderId" }]
            inlineParents :=
              [{ spec :=
                  { table := "customer"
                    fields := [{ field := some "id", property := some "sellerId" }] }
                 link := { foreignKeyFields := some ["seller_id"] } }] } }] }

end Shop

theorem nullability_composes_shop :
    ∃ type, Shop.compiler.typing.resultType Shop.itemsWithSeller { query := "items" } = .ok type ∧
      type.fields.map (fun field => (field.name, field.nullable?)) =
        [("sku", some false), ("orderId", some false), ("sellerId", some true)] ∧
      ∃ field ∈ type.fields, field.name = "sellerId" ∧ field.nullable? = some true ∧
        ∃ links node place nodeType own,
          InlineChain Shop.compiler.typing Shop.itemsWithSeller { query := "items" } links node
            place ∧
          Shop.compiler.typing.resultType node place = .ok nodeType ∧ own ∈ nodeType.fields ∧
          OwnField Shop.compiler.typing node place own ∧ field.SameButNull own ∧
          field.nullable? = own.nullable?.map (· || links.any id) := by
  have shown : (Shop.compiler.typing.resultType Shop.itemsWithSeller { query := "items" }).map
      (fun type => type.fields.map fun field => (field.name, field.nullable?)) =
      .ok [("sku", some false), ("orderId", some false), ("sellerId", some true)] := by
    decide +kernel
  obtain ⟨type, typed, flags⟩ := ok_of_map shown
  have listed : ("sellerId", some true) ∈
      type.fields.map fun field => (field.name, field.nullable?) := by
    rw [flags]
    decide
  obtain ⟨field, member, named⟩ := List.mem_map.mp listed
  obtain ⟨isName, isFlag⟩ := Prod.mk.inj named
  exact ⟨type, typed, flags, field, member, isName, isFlag,
    (nullability_composes _ _ _ _ typed field).mp member⟩

end NestedQuery

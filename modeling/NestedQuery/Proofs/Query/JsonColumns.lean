import NestedQuery.Proofs.Query.Distinct

/-! Which columns hold JSON. The flag of a column is set where the column is made, and copied
wherever the column is selected again from a derived table. A result type has kinds of fields
instead. Both are compared with what the specification says of each property. -/

namespace NestedQuery

mutual
/-- Of each property in order, whether its value is an object or array of a related table. -/
def TableSpec.nestedProperties : TableSpec → List Bool
  | ⟨_, fields, inlineParents, referencedParents, childCollections, _⟩ =>
      fields.map (fun _ => false) ++ inlinedNestedProperties inlineParents ++
        referencedParents.map (fun _ => true) ++ childCollections.map (fun _ => true)
termination_by structural spec => spec

def inlinedNestedProperties : List InlineParent → List Bool
  | [] => []
  | ⟨spec, _, _⟩ :: rest => spec.nestedProperties ++ inlinedNestedProperties rest
termination_by structural parents => parents
end

/-- The base queries of a table mark the columns of nested values, wherever they are embedded. -/
def MarksNested (compiler : Compiler) (spec : TableSpec) : Prop :=
  ∀ embedding location query, compiler.baseQuery spec embedding location = .ok query →
    query.columns.map SelectEntry.jsonValued = spec.nestedProperties

section

variable {compiler : Compiler} {outer : Relation} {outerAlias : String} {location : Location}

theorem nativeEntries_jsonValued {specs : List FieldSpec} {entries : List SelectEntry}
    (made : specs.mapM (compiler.nativeEntry outer outerAlias location) = .ok entries) :
    entries.map SelectEntry.jsonValued = specs.map fun _ => false := by
  rw [mapM_eq_ok_iff] at made
  induction made with
  | nil => rfl
  | cons entryMade _ ih =>
      obtain ⟨name, _, entryMade⟩ := ok_of_bind entryMade
      obtain ⟨expression, _, entryMade⟩ := ok_of_bind entryMade
      cases entryMade
      exact congrArg (false :: ·) ih

theorem inlined_jsonValued {aliases : List String} {parents : List InlineParent}
    {joins : List (InlineJoin × QueryParts)}
    (nested : ∀ parent ∈ parents, MarksNested compiler parent.spec)
    (made : Inlined compiler outer outerAlias location aliases parents joins) :
    (joins.flatMap (·.2.entries)).map SelectEntry.jsonValued =
      inlinedNestedProperties parents := by
  induction parents generalizing aliases joins with
  | nil =>
      cases made
      rfl
  | cons parent rest ih =>
      obtain _ | ⟨query, othersMade⟩ := made
      have later := ih (fun parent member => nested parent (List.mem_cons_of_mem _ member))
        othersMade
      have here := nested parent List.mem_cons_self _ _ _ query.compiled
      obtain ⟨spec, link, optional⟩ := parent
      rw [inlinedNestedProperties, List.flatMap_cons, List.map_append, later, ← here]
      exact congrArg (· ++ _) (inlineEntries_map _ _ _ fun _ _ => rfl)

theorem referencedEntries_jsonValued {parents : List ReferencedParent}
    {entries : List SelectEntry}
    (made : compiler.referencedEntries outer outerAlias location parents = .ok entries) :
    entries.map SelectEntry.jsonValued = parents.map fun _ => true := by
  induction parents generalizing entries with
  | nil =>
      cases made
      rfl
  | cons parent rest ih =>
      obtain ⟨query, others, othersMade, rfl⟩ := referencedEntries_cons made
      exact congrArg (true :: ·) (ih othersMade)

theorem childEntries_jsonValued {collections : List ChildCollection} {entries : List SelectEntry}
    (made : compiler.childEntries outer outerAlias location collections = .ok entries) :
    entries.map SelectEntry.jsonValued = collections.map fun _ => true := by
  induction collections generalizing entries with
  | nil =>
      cases made
      rfl
  | cons collection rest ih =>
      obtain ⟨query, sql, others, _, othersMade, rfl⟩ := childEntries_cons made
      exact congrArg (true :: ·) (ih othersMade)

end

theorem marksNested (compiler : Compiler) (spec : TableSpec) : MarksNested compiler spec := by
  induction spec using TableSpec.nested_induction with
  | step spec inlineParents _ _ =>
      intro embedding location query compiled
      obtain ⟨assembly, _, _, entries, _, _⟩ := Compiler.baseQuery_ok compiled
      have plain := nativeEntries_jsonValued assembly.plainMade
      have inlined := inlined_jsonValued inlineParents assembly.inlinedMade
      have referenced := referencedEntries_jsonValued assembly.referencedMade
      have children := childEntries_jsonValued assembly.childrenMade
      obtain ⟨table, fields, inlineSpecs, referencedSpecs, childSpecs, condition⟩ := spec
      rw [BaseQuery.columns, entries, assembly.shown_entries assembly.noneHidden,
        TableSpec.nestedProperties]
      simp only [List.map_append, plain, inlined, referenced, children]

def TypesNested (typing : Typing) (spec : TableSpec) : Prop :=
  ∀ location type, typing.resultType spec location = .ok type →
    type.fields.map (·.nested?.isSome) = spec.nestedProperties

section

variable {typing : Typing} {location : Location}

theorem nativeFields_nested {relation : Relation} {specs : List FieldSpec}
    {fields : List ResultField}
    (made : specs.mapM (typing.nativeField relation location) = .ok fields) :
    fields.map (·.nested?.isSome) = specs.map fun _ => false := by
  rw [mapM_eq_ok_iff] at made
  induction made with
  | nil => rfl
  | cons fieldMade _ ih => simp [nested_of_nativeField fieldMade, ih]

theorem inlinedFields_nested {child : Relation} {parents : List InlineParent}
    {fields : List ResultField} (nested : ∀ parent ∈ parents, TypesNested typing parent.spec)
    (made : typing.inlinedFields child location parents = .ok fields) :
    fields.map (·.nested?.isSome) = inlinedNestedProperties parents := by
  induction parents generalizing fields with
  | nil =>
      cases made
      rfl
  | cons parent rest ih =>
      have here := nested parent List.mem_cons_self
      have below := fun parent member => nested parent (List.mem_cons_of_mem _ member)
      obtain ⟨spec, link, optional⟩ := parent
      rw [Typing.inlinedFields] at made
      obtain ⟨type, typed, made⟩ := ok_of_bind made
      obtain ⟨absent, _, made⟩ := ok_of_bind made
      obtain ⟨others, othersMade, made⟩ := ok_of_bind made
      cases made
      rw [inlinedNestedProperties, List.map_append, ih below othersMade, ← here _ _ typed]
      cases absent <;> simp [Function.comp_def]

theorem referencedFields_nested {child : Relation} {parents : List ReferencedParent}
    {fields : List ResultField}
    (made : typing.referencedFields child location parents = .ok fields) :
    fields.map (·.nested?.isSome) = parents.map fun _ => true := by
  induction parents generalizing fields with
  | nil =>
      cases made
      rfl
  | cons parent rest ih =>
      obtain ⟨name, spec, link, optional⟩ := parent
      rw [Typing.referencedFields] at made
      obtain ⟨type, _, made⟩ := ok_of_bind made
      obtain ⟨absent, _, made⟩ := ok_of_bind made
      obtain ⟨others, othersMade, made⟩ := ok_of_bind made
      cases made
      exact congrArg (true :: ·) (ih othersMade)

theorem collectionFields_nested {collections : List ChildCollection} {fields : List ResultField}
    (made : typing.collectionFields location collections = .ok fields) :
    fields.map (·.nested?.isSome) = collections.map fun _ => true := by
  induction collections generalizing fields with
  | nil =>
      cases made
      rfl
  | cons collection rest ih =>
      obtain ⟨name, spec, link, filter, unwrap, orderBy⟩ := collection
      rw [Typing.collectionFields] at made
      obtain ⟨rows, _, made⟩ := ok_of_bind made
      obtain ⟨type, _, made⟩ := ok_of_bind made
      obtain ⟨others, othersMade, made⟩ := ok_of_bind made
      cases made
      exact congrArg (true :: ·) (ih othersMade)

end

theorem typesNested (typing : Typing) (spec : TableSpec) : TypesNested typing spec := by
  induction spec using TableSpec.nested_induction with
  | step spec inlineParents _ _ =>
      intro location type typed
      obtain ⟨table, fields, inlineSpecs, referencedSpecs, childSpecs, condition⟩ := spec
      rw [Typing.resultType] at typed
      obtain ⟨relation, _, typed⟩ := ok_of_bind typed
      obtain ⟨plain, plainMade, typed⟩ := ok_of_bind typed
      obtain ⟨inlined, inlinedMade, typed⟩ := ok_of_bind typed
      obtain ⟨referenced, referencedMade, typed⟩ := ok_of_bind typed
      obtain ⟨children, childrenMade, typed⟩ := ok_of_bind typed
      cases typed
      rw [TableSpec.nestedProperties]
      simp only [List.map_append, nativeFields_nested plainMade,
        inlinedFields_nested inlineParents inlinedMade, referencedFields_nested referencedMade,
        collectionFields_nested childrenMade]

theorem ResultField.nested?_isSome_iff (field : ResultField) :
    field.nested?.isSome = true ↔
      field.isChildCollection = true ∨ field.isParentReference = true := by
  cases field <;> simp [nested?, isChildCollection, isParentReference]

/-- How a column stands in objects and arrays if nested values have to be marked as JSON. -/
def ResultField.markedValue (field : ResultField) (reference : String) : String :=
  if field.isChildCollection || field.isParentReference then "treat(" ++ reference ++ " as json)"
  else reference

theorem Dialect.columnValue_eq_markedValue {column : SelectEntry} {field : ResultField}
    (same : column.jsonValued = field.nested?.isSome) (aliasName : String) :
    Dialect.oracle.columnValue column aliasName =
      field.markedValue (aliasName ++ "." ++ column.outputName) := by
  unfold Dialect.columnValue
  rw [same]
  cases field <;> rfl

theorem Dialect.properties_eq_markedValues {columns : List SelectEntry}
    {fields : List ResultField}
    (same : List.Forall₂ (fun column field => column.jsonValued = field.nested?.isSome)
      columns fields) (aliasName : String) :
    columns.map (Dialect.oracle.property aliasName) =
      List.zipWith (fun column field => "'" ++ column.propertyName ++ "' value " ++
        field.markedValue (aliasName ++ "." ++ column.outputName)) columns fields := by
  induction same with
  | nil => rfl
  | cons first _ ih =>
      rename_i column _ _ _ _
      have joint : "'" ++ column.propertyName ++ "'" ++ " value " =
          "'" ++ column.propertyName ++ "' value " := String.append_assoc
      rw [List.map_cons, List.zipWith_cons_cons, ih, Dialect.property,
        Dialect.columnValue_eq_markedValue first, joint]

theorem Dialect.rowObject_eq_markedValues {columns : List SelectEntry}
    {fields : List ResultField}
    (same : List.Forall₂ (fun column field => column.jsonValued = field.nested?.isSome)
      columns fields) (aliasName : String) (indent : Nat) :
    Dialect.oracle.rowObject columns aliasName indent =
      "json_object(\n" ++ Text.indent indent (",\n".intercalate
        (List.zipWith (fun column field => "'" ++ column.propertyName ++ "' value " ++
          field.markedValue (aliasName ++ "." ++ column.outputName)) columns fields)) ++
        "\n" ++ Text.indent indent "returning clob" ++ "\n)" := by
  rw [← Dialect.properties_eq_markedValues same]
  rfl

theorem columns_marked_as_fields {compiler : Compiler} {spec : TableSpec} {embedding : Embedding}
    {location : Location} {query : BaseQuery} {type : ResultType}
    (compiled : compiler.baseQuery spec embedding location = .ok query)
    (typed : compiler.typing.resultType spec location = .ok type) :
    List.Forall₂ (fun column field => column.jsonValued = field.nested?.isSome)
      query.columns type.fields := by
  have marked := marksNested compiler spec _ _ _ compiled
  rw [← typesNested compiler.typing spec _ _ typed] at marked
  exact forall₂_of_map_eq marked fun _ _ same => same

/-- A column holds JSON if and only if its field is a collection or a parent object, at every depth
of inlining. So in the dialect in which JSON has to be marked, exactly these are marked, in the
objects made of rows and where the values of the only column are collected, and such a value is
selected from the base query. -/
theorem json_columns_iff_nested_fields (compiler : Compiler) (spec : TableSpec)
    (embedding : Embedding) (location : Location) (query : BaseQuery)
    (compiled : compiler.baseQuery spec embedding location = .ok query) :
    ∃ type, compiler.typing.resultType spec location = .ok type ∧
      List.Forall₂ (fun column field => column.jsonValued = true ↔
        field.isChildCollection = true ∨ field.isParentReference = true)
        query.columns type.fields ∧
      (compiler.dialect = .oracle →
        (∀ aliasName indent, compiler.dialect.rowObject query.columns aliasName indent =
          "json_object(\n" ++ Text.indent indent (",\n".intercalate
            (List.zipWith (fun column field => "'" ++ column.propertyName ++ "' value " ++
              field.markedValue (aliasName ++ "." ++ column.outputName))
              query.columns type.fields)) ++
            "\n" ++ Text.indent indent "returning clob" ++ "\n)") ∧
        ∀ field, type.fields = [field] → ∃ column, query.columns = [column] ∧
          ∀ table order,
            let values := compiler.dialect.aggregate
              (field.markedValue (wrapperAlias ++ "." ++ column.outputName)) order wrapperAlias
            let sql := compiler.wrapped "aggregated row objects builder" table values query
            compiler.arrayRowSql table query true order location = .ok sql ∧
              compiler.SelectsOver query values sql) ∧
      ∀ table order,
        let object := compiler.dialect.rowObject query.columns "q" compiler.options.indent
        (∃ sql ending, compiler.objectRowsSql table query order = sql ++ ending ∧
          compiler.SelectsOver query object sql) ∧
        ∃ sql, compiler.arrayRowSql table query false order location = .ok sql ∧
          compiler.SelectsOver query (compiler.dialect.aggregate object order "q") sql := by
  obtain ⟨type, typed, _, _⟩ := inStep compiler spec embedding location query compiled
  have same := columns_marked_as_fields compiled typed
  refine ⟨type, typed, same.imp ?_, fun isOracle => ⟨?_, ?_⟩, fun table order => ⟨?_, ?_⟩⟩
  · intro column field agree
    rw [agree]
    exact field.nested?_isSome_iff
  · intro aliasName indent
    rw [isOracle]
    exact Dialect.rowObject_eq_markedValues same aliasName indent
  · intro field only
    rw [only] at same
    obtain ⟨column, agree, columns⟩ : ∃ column, column.jsonValued = field.nested?.isSome ∧
        query.columns = [column] := by
      generalize query.columns = columns at same
      obtain _ | ⟨agree, _ | _⟩ := same
      exact ⟨_, agree, rfl⟩
    refine ⟨column, columns, fun table order => ⟨?_, compiler.wrapped_selectsOver _ _ _ query⟩⟩
    simp only [Compiler.arrayRowSql, if_true, columns, Dialect.columnValues, isOracle,
      Dialect.columnValue_eq_markedValue agree]
  · exact ⟨_, _, rfl, compiler.wrapped_selectsOver _ _ _ query⟩
  · exact ⟨_, rfl, compiler.wrapped_selectsOver _ _ _ query⟩

namespace Shop

def oracleCompiler : Compiler := { compiler with dialect := .oracle }

def sellers : TableSpec := { table := "orders", referencedParents := [seller] }

def soldItems : TableSpec :=
  { table := "item"
    fields := [{ field := some "sku" }]
    inlineParents := [{ spec := { sellers with childCollections := [skus] } }] }

end Shop

theorem json_columns_iff_nested_fields_shop :
    (∃ query type,
      Shop.oracleCompiler.baseQuery Shop.soldItems {} { query := "items" } = .ok query ∧
      Shop.oracleCompiler.typing.resultType Shop.soldItems { query := "items" } = .ok type ∧
      query.columns.map SelectEntry.jsonValued = [false, true, true] ∧
      List.Forall₂ (fun column field => column.jsonValued = true ↔
        field.isChildCollection = true ∨ field.isParentReference = true)
        query.columns type.fields ∧
      Dialect.oracle.rowObject query.columns "q" 2 = "json_object(\n" ++
        "  'sku' value q.sku,\n  'seller' value treat(q.seller as json),\n" ++
        "  'skus' value treat(q.skus as json)\n  returning clob\n)") ∧
    ∃ query, Shop.oracleCompiler.baseQuery Shop.sellers {} { query := "sellers" } = .ok query ∧
      Shop.oracleCompiler.arrayRowSql "orders" query true none { query := "sellers" } =
        .ok (Shop.oracleCompiler.wrapped "aggregated row objects builder" "orders"
          ("treat(coalesce(json_arrayagg(treat(q.seller as json) returning clob), " ++
            "to_clob('[]')) as json)") query) := by
  constructor
  · have shown : (Shop.oracleCompiler.baseQuery Shop.soldItems {} { query := "items" }).map
        (fun query => (query.columns.map SelectEntry.jsonValued,
          Dialect.oracle.rowObject query.columns "q" 2)) =
        .ok ([false, true, true], "json_object(\n" ++
          "  'sku' value q.sku,\n  'seller' value treat(q.seller as json),\n" ++
          "  'skus' value treat(q.skus as json)\n  returning clob\n)") := by
      decide +kernel
    obtain ⟨query, compiled, shown⟩ := ok_of_map shown
    obtain ⟨flags, object⟩ := Prod.mk.inj shown
    obtain ⟨type, typed, same, _⟩ :=
      json_columns_iff_nested_fields Shop.oracleCompiler _ _ _ query compiled
    exact ⟨query, type, compiled, typed, flags, same, object⟩
  · have shown : (Shop.oracleCompiler.baseQuery Shop.sellers {} { query := "sellers" }).map
        (fun query => query.columns.map SelectEntry.outputName) = .ok ["seller"] := by
      decide +kernel
    have kind : (Shop.oracleCompiler.typing.resultType Shop.sellers { query := "sellers" }).map
        (fun type => type.fields.map ResultField.isParentReference) = .ok [true] := by
      decide +kernel
    obtain ⟨query, compiled, names⟩ := ok_of_map shown
    obtain ⟨type, typed, _, rendered, _⟩ :=
      json_columns_iff_nested_fields Shop.oracleCompiler _ _ _ query compiled
    rw [typed] at kind
    obtain ⟨field, only, isParent⟩ := List.map_eq_singleton_iff.mp (Except.ok.inj kind)
    obtain ⟨column, columns, aggregated⟩ := (rendered rfl).2 field only
    obtain ⟨array, -⟩ := aggregated "orders" none
    have name : column.outputName = "seller" := by simpa [columns] using names
    have marked : field.markedValue (wrapperAlias ++ "." ++ column.outputName) =
        "treat(q.seller as json)" := by
      rw [ResultField.markedValue, isParent, Bool.or_true, if_pos rfl, name]
      decide
    refine ⟨query, compiled, ?_⟩
    rw [array, marked]
    rfl

end NestedQuery

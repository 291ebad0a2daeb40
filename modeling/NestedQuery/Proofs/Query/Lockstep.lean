import NestedQuery.Proofs.Query.Assembly

/-! The columns of a base query and the fields of the result type of the same table stand for the
same properties, in the same order and through every nesting. Where the query can be made, so can
the type. -/

namespace NestedQuery

def SameProperties (columns : List SelectEntry) (fields : List ResultField) : Prop :=
  columns.map (fun column => Naming.unquoted column.outputName) =
    fields.map (fun field => Naming.unquoted field.name)

namespace SameProperties

theorem nil : SameProperties [] [] := rfl

theorem cons {column : SelectEntry} {field : ResultField} {columns : List SelectEntry}
    {fields : List ResultField}
    (first : Naming.unquoted column.outputName = Naming.unquoted field.name)
    (rest : SameProperties columns fields) :
    SameProperties (column :: columns) (field :: fields) := by
  unfold SameProperties at rest ⊢
  simp only [List.map_cons, first, rest]

theorem append {columns moreColumns : List SelectEntry} {fields moreFields : List ResultField}
    (first : SameProperties columns fields) (second : SameProperties moreColumns moreFields) :
    SameProperties (columns ++ moreColumns) (fields ++ moreFields) := by
  unfold SameProperties at first second ⊢
  simp only [List.map_append, first, second]

theorem length_eq {columns : List SelectEntry} {fields : List ResultField}
    (same : SameProperties columns fields) : columns.length = fields.length := by
  simpa using congrArg List.length same

end SameProperties

@[simp] theorem ResultField.name_madeNullable (field : ResultField) :
    field.madeNullable.name = field.name := by
  cases field <;> rfl

@[simp] theorem SelectEntry.outputName_make (expression outputName : String) (origin : Origin) :
    (SelectEntry.make expression outputName origin).outputName = outputName := rfl

@[simp] theorem SelectEntry.isHidden_make (expression outputName : String) (origin : Origin) :
    (SelectEntry.make expression outputName origin).isHidden = (origin == .hiddenKey) := rfl

def NoneHidden (columns : List SelectEntry) : Prop := ∀ column ∈ columns, column.isHidden = false

namespace NoneHidden

theorem nil : NoneHidden [] := by simp [NoneHidden]

theorem cons {column : SelectEntry} {columns : List SelectEntry} (first : column.isHidden = false)
    (rest : NoneHidden columns) : NoneHidden (column :: columns) :=
  List.forall_mem_cons.mpr ⟨first, rest⟩

theorem append {columns moreColumns : List SelectEntry} (first : NoneHidden columns)
    (second : NoneHidden moreColumns) : NoneHidden (columns ++ moreColumns) :=
  List.forall_mem_append.mpr ⟨first, second⟩

end NoneHidden

section

variable {compiler : Compiler} {relation : Relation} {aliasName : String} {location : Location}

theorem nativeField_of_nativeEntry {spec : FieldSpec} {entry : SelectEntry}
    (made : compiler.nativeEntry relation aliasName location spec = .ok entry) :
    ∃ field, compiler.typing.nativeField relation location spec = .ok field ∧
      Naming.unquoted entry.outputName = Naming.unquoted field.name ∧
      entry.isHidden = false := by
  obtain ⟨name, named, made⟩ := ok_of_bind made
  obtain ⟨expression, expressed, made⟩ := ok_of_bind made
  cases made
  have sameName : Naming.unquoted (compiler.catalog.quote name) = Naming.unquoted name :=
    compiler.catalog.caseRule.unquoted_quote name
  unfold Compiler.fieldSql at expressed
  unfold Typing.nativeField
  change spec.propertyName compiler.typing.options.naming location = _ at named
  rw [named, ok_bind]
  cases isField : spec.field with
  | none =>
      cases isExpression : spec.expression with
      | none =>
          rw [isField, isExpression] at expressed
          cases expressed
      | some expression => exact ⟨_, rfl, sameName, rfl⟩
  | some fieldName =>
      cases isExpression : spec.expression with
      | none =>
          rw [isField, isExpression] at expressed
          obtain ⟨field, found, _⟩ := ok_of_bind expressed
          change compiler.typing.catalog.findField relation fieldName location = _ at found
          simp only [found, ok_bind]
          exact ⟨_, rfl, sameName, rfl⟩
      | some expression =>
          rw [isField, isExpression] at expressed
          cases expressed

theorem nativeFields_of_nativeEntries {specs : List FieldSpec} {entries : List SelectEntry}
    (made : specs.mapM (compiler.nativeEntry relation aliasName location) = .ok entries) :
    ∃ fields, specs.mapM (compiler.typing.nativeField relation location) = .ok fields ∧
      SameProperties entries fields ∧ NoneHidden entries ∧ fields.length = specs.length := by
  rw [mapM_eq_ok_iff] at made
  induction made with
  | nil => exact ⟨[], rfl, .nil, .nil, rfl⟩
  | cons entryMade _ ih =>
      rename_i spec entry rest entries
      obtain ⟨field, fieldMade, sameName, shown⟩ := nativeField_of_nativeEntry entryMade
      obtain ⟨fields, fieldsMade, same, othersShown, counted⟩ := ih
      refine ⟨field :: fields, ?_, .cons sameName same, ?_, by simp [counted]⟩
      · rw [mapM_eq_ok_iff] at fieldsMade ⊢
        exact .cons fieldMade fieldsMade
      · exact .cons shown othersShown

end

theorem inlineEntries_map {shown : Type} {view original : SelectEntry → shown}
    (table aliasName : String) (columns : List SelectEntry)
    (kept : ∀ (column : SelectEntry) (comment : Option String),
      view ⟨aliasName ++ "." ++ column.outputName, column.outputName, .inlineParent,
        column.jsonValued, comment⟩ = original column) :
    (Compiler.inlineEntries table aliasName columns).map view = columns.map original := by
  cases columns with
  | nil => rfl
  | cons first rest =>
      unfold Compiler.inlineEntries
      simp [kept]

theorem inlineEntries_outputNames (table aliasName : String) (columns : List SelectEntry) :
    (Compiler.inlineEntries table aliasName columns).map SelectEntry.outputName =
      columns.map SelectEntry.outputName :=
  inlineEntries_map table aliasName columns fun _ _ => rfl

theorem inlineEntries_noneHidden (table aliasName : String) (columns : List SelectEntry) :
    NoneHidden (Compiler.inlineEntries table aliasName columns) := by
  cases columns with
  | nil => simp [NoneHidden, Compiler.inlineEntries]
  | cons first rest =>
      unfold NoneHidden Compiler.inlineEntries
      simp [SelectEntry.isHidden]

theorem SameProperties.inlineEntries {columns : List SelectEntry} {fields : List ResultField}
    (same : SameProperties columns fields) (table aliasName : String) :
    SameProperties (Compiler.inlineEntries table aliasName columns) fields := by
  have names := congrArg (List.map Naming.unquoted)
    (inlineEntries_outputNames table aliasName columns)
  simp only [List.map_map] at names
  exact names.trans same

theorem SameProperties.madeNullable {columns : List SelectEntry} {fields : List ResultField}
    (same : SameProperties columns fields) (absent : Bool) :
    SameProperties columns (if absent then fields.map ResultField.madeNullable else fields) := by
  cases absent with
  | false => exact same
  | true => simpa [SameProperties, Function.comp_def] using same

/-- Where the base query of a table exists, so does the result type with the same properties. -/
def InStep (compiler : Compiler) (spec : TableSpec) : Prop :=
  ∀ (embedding : Embedding) (location : Location) (query : BaseQuery),
    compiler.baseQuery spec embedding location = .ok query →
      ∃ type, compiler.typing.resultType spec location = .ok type ∧
        SameProperties query.columns type.fields ∧ type.fields.length = spec.propertyCount

section

variable {compiler : Compiler} {outer : Relation} {outerAlias : String} {location : Location}

theorem parentMayBeAbsent_ok {related : Related} {target : Relation} {pairs : List KeyPair}
    (found : compiler.findRelation related.spec.table location = .ok target)
    (joined : compiler.catalog.joinPairs related.link outer target location = .ok pairs) :
    ∃ absent, compiler.typing.parentMayBeAbsent related outer location = .ok absent := by
  unfold Typing.parentMayBeAbsent
  split
  · exact ⟨true, rfl⟩
  · change compiler.typing.findRelation related.spec.table location = _ at found
    change compiler.typing.catalog.joinPairs related.link outer target location = _ at joined
    simp only [found, joined, ok_bind]
    exact ⟨_, rfl⟩

theorem collectionType_of_arrayRowSql {table sql : String} {query : BaseQuery} {type : ResultType}
    {unwrap : Bool} {order : Option String} (same : SameProperties query.columns type.fields)
    (aggregated : compiler.arrayRowSql table query unwrap order location = .ok sql) :
    ∃ rows, Typing.collectionType type unwrap table location = .ok rows := by
  cases unwrap with
  | false => exact ⟨type, rfl⟩
  | true =>
      have single : type.fields.length = 1 := by
        rw [← same.length_eq]
        unfold Compiler.arrayRowSql at aggregated
        simp only [if_true] at aggregated
        split at aggregated
        · rename_i column only
          simp [only]
        · cases aggregated
      obtain ⟨field, only⟩ := List.length_eq_one_iff.mp single
      simp only [Typing.collectionType, if_true, only]
      exact ⟨_, rfl⟩

theorem inlinedFields_of_inlined {parents : List InlineParent} {aliases : List String}
    {joins : List (InlineJoin × QueryParts)}
    (nested : ∀ parent ∈ parents, InStep compiler parent.spec)
    (made : Inlined compiler outer outerAlias location aliases parents joins) :
    ∃ fields, compiler.typing.inlinedFields outer location parents = .ok fields ∧
      SameProperties (joins.flatMap (·.2.entries)) fields ∧
      NoneHidden (joins.flatMap (·.2.entries)) ∧
      fields.length = inlinePropertyCount parents := by
  induction parents generalizing aliases joins with
  | nil =>
      cases made
      exact ⟨[], rfl, .nil, .nil, rfl⟩
  | cons parent rest ih =>
      obtain _ | ⟨query, othersMade⟩ := made
      obtain ⟨fields, fieldsMade, same, shown, counted⟩ :=
        ih (fun parent member => nested parent (List.mem_cons_of_mem _ member)) othersMade
      obtain ⟨type, typed, sameHere, countedHere⟩ :=
        nested parent List.mem_cons_self _ _ _ query.compiled
      obtain ⟨absent, known⟩ : ∃ absent, compiler.typing.parentMayBeAbsent (.inlineParent parent)
          outer (location.enter (Related.inlineParent parent).describe) = .ok absent :=
        parentMayBeAbsent_ok query.found query.joined
      refine ⟨(if absent then type.fields.map ResultField.madeNullable else type.fields) ++ fields,
        ?_, ?_, ?_, ?_⟩
      · obtain ⟨spec, link, optional⟩ := parent
        rw [Typing.inlinedFields]
        dsimp only at typed
        simp only [typed, known, fieldsMade, ok_bind]
        rfl
      · exact ((sameHere.inlineEntries _ _).madeNullable absent).append same
      · exact (inlineEntries_noneHidden _ _ _).append shown
      · obtain ⟨spec, link, optional⟩ := parent
        dsimp only at countedHere
        rw [inlinePropertyCount, ← counted, ← countedHere]
        cases absent <;> simp

theorem referencedFields_of_referencedEntries {parents : List ReferencedParent}
    {entries : List SelectEntry}
    (nested : ∀ parent ∈ parents, InStep compiler parent.spec)
    (made : compiler.referencedEntries outer outerAlias location parents = .ok entries) :
    ∃ fields, compiler.typing.referencedFields outer location parents = .ok fields ∧
      SameProperties entries fields ∧ NoneHidden entries ∧ fields.length = parents.length := by
  induction parents generalizing entries with
  | nil =>
      cases made
      exact ⟨[], rfl, .nil, .nil, rfl⟩
  | cons parent rest ih =>
      obtain ⟨query, others, othersMade, rfl⟩ := referencedEntries_cons made
      obtain ⟨fields, fieldsMade, same, shown, counted⟩ :=
        ih (fun parent member => nested parent (List.mem_cons_of_mem _ member)) othersMade
      obtain ⟨type, typed, _, _⟩ := nested parent List.mem_cons_self _ _ _ query.compiled
      obtain ⟨absent, known⟩ : ∃ absent, compiler.typing.parentMayBeAbsent
          (.referencedParent parent) outer
          (location.enter (Related.referencedParent parent).describe) = .ok absent :=
        parentMayBeAbsent_ok query.found query.joined
      refine ⟨.parentReference parent.name type absent :: fields, ?_, ?_, ?_, by simp [counted]⟩
      · obtain ⟨name, spec, link, optional⟩ := parent
        rw [Typing.referencedFields]
        dsimp only at typed
        simp only [typed, known, fieldsMade, ok_bind]
        rfl
      · exact .cons (compiler.catalog.caseRule.unquoted_quote parent.name) same
      · exact .cons rfl shown

theorem collectionFields_of_childEntries {collections : List ChildCollection}
    {entries : List SelectEntry}
    (nested : ∀ collection ∈ collections, InStep compiler collection.spec)
    (made : compiler.childEntries outer outerAlias location collections = .ok entries) :
    ∃ fields, compiler.typing.collectionFields location collections = .ok fields ∧
      SameProperties entries fields ∧ NoneHidden entries ∧
      fields.length = collections.length := by
  induction collections generalizing entries with
  | nil =>
      cases made
      exact ⟨[], rfl, .nil, .nil, rfl⟩
  | cons collection rest ih =>
      obtain ⟨query, sql, others, aggregated, othersMade, rfl⟩ := childEntries_cons made
      obtain ⟨fields, fieldsMade, same, shown, counted⟩ :=
        ih (fun collection member => nested collection (List.mem_cons_of_mem _ member)) othersMade
      obtain ⟨rows, rowsTyped, sameRows, _⟩ :=
        nested collection List.mem_cons_self _ _ _ query.compiled
      obtain ⟨type, typed⟩ := collectionType_of_arrayRowSql sameRows aggregated
      refine ⟨.childCollection collection.name type false :: fields, ?_, ?_, ?_, by simp [counted]⟩
      · obtain ⟨name, spec, link, filter, unwrap, orderBy⟩ := collection
        rw [Typing.collectionFields]
        dsimp only at rowsTyped
        simp only [rowsTyped, typed, fieldsMade, ok_bind]
        rfl
      · exact .cons (compiler.catalog.caseRule.unquoted_quote collection.name) same
      · exact .cons rfl shown

end

theorem Assembly.entries_eq {compiler : Compiler} {spec : TableSpec} {embedding : Embedding}
    {location : Location} (assembly : Assembly compiler spec embedding location) :
    assembly.entries = assembly.hidden ++ (assembly.plain ++
      assembly.inlined.flatMap (·.2.entries) ++ assembly.referenced ++ assembly.children) := by
  simp only [Assembly.entries, List.append_assoc]

theorem Assembly.shown_entries {compiler : Compiler} {spec : TableSpec} {embedding : Embedding}
    {location : Location} (assembly : Assembly compiler spec embedding location)
    (shown : NoneHidden (assembly.plain ++ assembly.inlined.flatMap (·.2.entries) ++
      assembly.referenced ++ assembly.children)) :
    assembly.entries.filter (fun entry => !entry.isHidden) =
      assembly.plain ++ assembly.inlined.flatMap (·.2.entries) ++ assembly.referenced ++
        assembly.children := by
  have hidden : assembly.hidden.filter (fun entry => !entry.isHidden) = [] := by
    unfold Assembly.hidden
    split
    · simp [Compiler.hiddenEntries]
    · rfl
  rw [assembly.entries_eq, List.filter_append, hidden, List.nil_append, List.filter_eq_self]
  intro entry member
  rw [shown entry member, Bool.not_false]

theorem inStep (compiler : Compiler) (spec : TableSpec) : InStep compiler spec := by
  induction spec using TableSpec.nested_induction with
  | step spec inlineParents referencedParents childCollections =>
      intro embedding location query compiled
      obtain ⟨assembly, _, _, entries, _, _⟩ := Compiler.baseQuery_ok compiled
      obtain ⟨plain, plainMade, plainSame, plainShown, plainCounted⟩ :=
        nativeFields_of_nativeEntries assembly.plainMade
      obtain ⟨inlined, inlinedMade, inlinedSame, inlinedShown, inlinedCounted⟩ :=
        inlinedFields_of_inlined inlineParents assembly.inlinedMade
      obtain ⟨referenced, referencedMade, referencedSame, referencedShown, referencedCounted⟩ :=
        referencedFields_of_referencedEntries referencedParents assembly.referencedMade
      obtain ⟨children, childrenMade, childrenSame, childrenShown, childrenCounted⟩ :=
        collectionFields_of_childEntries childCollections assembly.childrenMade
      have columns := assembly.shown_entries
        (((plainShown.append inlinedShown).append referencedShown).append childrenShown)
      have found : compiler.typing.findRelation spec.table location = .ok assembly.relation :=
        assembly.found
      let type : ResultType :=
        { name := Naming.pascalCase assembly.relation.id.name
          fields := plain ++ inlined ++ referenced ++ children }
      refine ⟨type, ?_, ?_, ?_⟩
      · obtain ⟨table, fields, inlineSpecs, referencedSpecs, childSpecs, condition⟩ := spec
        rw [Typing.resultType]
        dsimp only at found plainMade inlinedMade referencedMade childrenMade
        simp only [found, plainMade, inlinedMade, referencedMade, childrenMade, ok_bind]
        rfl
      · unfold BaseQuery.columns
        rw [entries, columns]
        exact ((plainSame.append inlinedSame).append referencedSame).append childrenSame
      · obtain ⟨table, fields, inlineSpecs, referencedSpecs, childSpecs, condition⟩ := spec
        rw [TableSpec.propertyCount]
        simp only [type, List.length_append, plainCounted, inlinedCounted, referencedCounted,
          childrenCounted]
        omega

section

variable {compiler : Compiler} {spec : TableSpec} {embedding : Embedding} {location : Location}

theorem Assembly.noneHidden (assembly : Assembly compiler spec embedding location) :
    NoneHidden (assembly.plain ++ assembly.inlined.flatMap (·.2.entries) ++ assembly.referenced ++
      assembly.children) := by
  obtain ⟨_, _, _, plain, _⟩ := nativeFields_of_nativeEntries assembly.plainMade
  obtain ⟨_, _, _, inlined, _⟩ := inlinedFields_of_inlined
    (fun parent _ => inStep compiler parent.spec) assembly.inlinedMade
  obtain ⟨_, _, _, referenced, _⟩ := referencedFields_of_referencedEntries
    (fun parent _ => inStep compiler parent.spec) assembly.referencedMade
  obtain ⟨_, _, _, children, _⟩ := collectionFields_of_childEntries
    (fun collection _ => inStep compiler collection.spec) assembly.childrenMade
  exact ((plain.append inlined).append referenced).append children

end

theorem baseQuery_of_querySql {compiler : Compiler} {query : QuerySpec}
    {representation : Representation} {sql : String}
    (made : compiler.querySql query representation = .ok sql) :
    ∃ embedding base,
      compiler.baseQuery query.tableSpec embedding { query := query.name } = .ok base := by
  unfold Compiler.querySql at made
  dsimp only at made
  split at made
  · cases made
  · cases representation with
    | columnRows =>
        obtain ⟨base, compiled, _⟩ := ok_of_bind made
        exact ⟨_, base, compiled⟩
    | objectRows =>
        obtain ⟨base, compiled, _⟩ := ok_of_bind made
        exact ⟨_, base, compiled⟩
    | arrayRow =>
        obtain ⟨relation, _, made⟩ := ok_of_bind made
        obtain ⟨base, compiled, _⟩ := ok_of_bind made
        exact ⟨_, base, compiled⟩

theorem wantedRepresentations_ne_nil (query : QuerySpec) : query.wantedRepresentations ≠ [] := by
  unfold QuerySpec.wantedRepresentations
  split <;> simp

theorem baseQuery_of_querySqls {compiler : Compiler} {query : QuerySpec}
    {sqls : List (Representation × String)} (made : compiler.querySqls query = .ok sqls) :
    ∃ embedding base,
      compiler.baseQuery query.tableSpec embedding { query := query.name } = .ok base := by
  obtain ⟨results, resultsMade, _⟩ := ok_of_bind made
  rw [mapM_eq_ok_iff] at resultsMade
  cases wanted : query.wantedRepresentations with
  | nil => exact absurd wanted (wantedRepresentations_ne_nil query)
  | cons representation rest =>
      rw [wanted] at resultsMade
      cases resultsMade with
      | cons firstMade _ =>
          obtain ⟨sql, sqlMade, _⟩ := ok_of_bind firstMade
          exact baseQuery_of_querySql sqlMade

/-- Columns and result types stay in lockstep: a base query has a result type whose fields carry the
names of its columns in the same order, as many as the specification has properties. So a query
whose SQL can be generated never fails for want of a result type. -/
theorem columns_match_fields (compiler : Compiler) :
    (∀ (spec : TableSpec) (embedding : Embedding) (location : Location) (query : BaseQuery),
      compiler.baseQuery spec embedding location = .ok query →
        ∃ type, compiler.typing.resultType spec location = .ok type ∧
          query.columns.map (fun column => Naming.unquoted column.outputName) =
            type.fields.map (fun field => Naming.unquoted field.name) ∧
          query.columns.length = spec.propertyCount ∧
          type.fields.length = spec.propertyCount) ∧
    ∀ (query : QuerySpec) (sqls : List (Representation × String)),
      compiler.querySqls query = .ok sqls →
        ∃ generated, compiler.compileQuery query = .ok generated ∧ generated.sqls = sqls ∧
          generated.resultType.isSome = query.wantsTypes := by
  constructor
  · intro spec embedding location query compiled
    obtain ⟨type, typed, same, counted⟩ := inStep compiler spec embedding location query compiled
    exact ⟨type, typed, same, same.length_eq.trans counted, counted⟩
  · intro query sqls made
    obtain ⟨embedding, base, compiled⟩ := baseQuery_of_querySqls made
    obtain ⟨type, typed, _, _⟩ := inStep compiler _ _ _ _ compiled
    unfold Compiler.compileQuery
    rw [made, ok_bind]
    cases wanted : query.wantsTypes with
    | false => exact ⟨_, rfl, rfl, rfl⟩
    | true =>
        simp only [if_true, typed]
        exact ⟨_, rfl, rfl, rfl⟩

theorem columns_match_fields_shop :
    (∃ query type, Shop.compiler.baseQuery Shop.orders {} { query := "orders" } = .ok query ∧
      Shop.compiler.typing.resultType Shop.orders { query := "orders" } = .ok type ∧
      query.columns.map (fun column => Naming.unquoted column.outputName) =
        type.fields.map (fun field => Naming.unquoted field.name) ∧
      query.columns.length = 6 ∧ type.fields.length = 6) ∧
    ∃ sqls generated, Shop.compiler.querySqls Shop.query = .ok sqls ∧
      Shop.compiler.compileQuery Shop.query = .ok generated ∧
      generated.resultType.isSome = true := by
  obtain ⟨query, compiled⟩ := exists_of_isOk
    (show (Shop.compiler.baseQuery Shop.orders {} { query := "orders" }).isOk = true by
      decide +kernel)
  obtain ⟨sqls, made⟩ := exists_of_isOk
    (show (Shop.compiler.querySqls Shop.query).isOk = true by decide +kernel)
  obtain ⟨type, typed, same, columns, fields⟩ :=
    (columns_match_fields Shop.compiler).1 _ _ _ _ compiled
  obtain ⟨generated, generatedMade, _, typedToo⟩ :=
    (columns_match_fields Shop.compiler).2 _ _ made
  exact ⟨⟨query, type, compiled, typed, same, columns, fields⟩,
    ⟨sqls, generated, made, generatedMade, typedToo⟩⟩

end NestedQuery

import NestedQuery.Proofs.Query.Acceptance

/-! The order of arrays. Where no ordering is stated, the query around a base query orders the
elements by the hidden columns of the base query. Both sides name these columns on their own, and
the query around writes its alias through the mark that stands for aliases in stated orderings. -/

namespace NestedQuery

namespace Text

variable {pattern : List Char} {c : Char}

theorem prefix_of_prefix_append_cons {first rest : List Char} (other : c ∉ pattern)
    (starts : pattern <+: first ++ c :: rest) : pattern <+: first := by
  rcases List.prefix_or_prefix_of_prefix starts (List.prefix_append first (c :: rest)) with
    within | ⟨more, rfl⟩
  · exact within
  · -- What the pattern has beyond the first part would have to start with the other character.
    rw [List.prefix_append_right_inj] at starts
    cases more with
    | nil => simp
    | cons d more =>
        obtain rfl := (List.cons_prefix_cons.mp starts).1
        exact absurd (List.mem_append_right _ List.mem_cons_self) other

theorem replaceFrom_append_cons (filled : pattern ≠ []) (other : c ∉ pattern)
    (replacement : List Char) {first : List Char} (free : occursIn pattern first = false)
    (rest : List Char) :
    replaceFrom pattern replacement 0 (first ++ c :: rest) =
      first ++ c :: replaceFrom pattern replacement 0 rest := by
  induction first with
  | nil =>
      have apart : ¬pattern.isPrefixOf (c :: rest) = true := by
        rw [List.isPrefixOf_iff_prefix]
        intro starts
        exact filled (List.prefix_nil.mp (prefix_of_prefix_append_cons other starts))
      rw [List.nil_append, replaceFrom, if_neg apart, List.nil_append]
  | cons d first ih =>
      rw [occursIn, Bool.or_eq_false_iff] at free
      have apart : ¬pattern.isPrefixOf (d :: (first ++ c :: rest)) = true := by
        rw [List.isPrefixOf_iff_prefix]
        intro starts
        have within : pattern <+: d :: first := prefix_of_prefix_append_cons other starts
        rw [← List.isPrefixOf_iff_prefix, free.1] at within
        cases within
      rw [List.cons_append, replaceFrom, if_neg apart, ih free.2]
      rfl

theorem replaceFrom_cons (filled : pattern ≠ []) (other : c ∉ pattern)
    (replacement rest : List Char) :
    replaceFrom pattern replacement 0 (c :: rest) =
      c :: replaceFrom pattern replacement 0 rest := by
  have free : occursIn pattern [] = false := by
    cases pattern with
    | nil => exact absurd rfl filled
    | cons => rfl
  exact replaceFrom_append_cons filled other replacement free rest

end Text

theorem Compiler.hiddenName_eq (compiler : Compiler) (field : Field) :
    compiler.hiddenName field = "\"_" ++ field.name ++ "\"" := by
  rw [hiddenName, Catalog.quote, CaseRule.quote_marked, ← String.append_assoc]
  rfl

/-- The term by which a stated ordering would name a hidden column. -/
def Compiler.markedTerm (compiler : Compiler) (field : Field) : String :=
  aliasMark ++ "." ++ compiler.hiddenName field

def Compiler.orderTerm (compiler : Compiler) (field : Field) : String :=
  wrapperAlias ++ "." ++ compiler.hiddenName field

theorem Compiler.replaceFrom_markedTerm (compiler : Compiler) {field : Field}
    (unmarked : Text.contains field.name aliasMark = false) (rest : List Char) :
    Text.replaceFrom aliasMark.toList wrapperAlias.toList 0
        ((compiler.markedTerm field).toList ++ rest) =
      (compiler.orderTerm field).toList ++
        Text.replaceFrom aliasMark.toList wrapperAlias.toList 0 rest := by
  have marked : (compiler.markedTerm field).toList ++ rest =
      '$' :: '$' :: '.' :: '"' :: '_' :: (field.name.toList ++ '"' :: rest) := by
    simp [markedTerm, hiddenName_eq, aliasMark, String.toList_append]
  have named : (compiler.orderTerm field).toList =
      'q' :: '.' :: '"' :: '_' :: (field.name.toList ++ ['"']) := by
    simp [orderTerm, hiddenName_eq, wrapperAlias, String.toList_append]
  have filled : aliasMark.toList ≠ [] := by decide
  have atMark (rest : List Char) :
      Text.replaceFrom aliasMark.toList wrapperAlias.toList 0 ('$' :: '$' :: rest) =
        'q' :: Text.replaceFrom aliasMark.toList wrapperAlias.toList 0 rest := by
    rfl
  rw [marked, named, atMark, Text.replaceFrom_cons filled (by decide),
    Text.replaceFrom_cons filled (by decide), Text.replaceFrom_cons filled (by decide),
    Text.replaceFrom_append_cons filled (by decide) _ unmarked]
  simp

theorem Compiler.replace_markedTerms (compiler : Compiler) {fields : List Field}
    (unmarked : ∀ field ∈ fields, Text.contains field.name aliasMark = false) :
    Text.replace (", ".intercalate (fields.map compiler.markedTerm)) aliasMark wrapperAlias =
      ", ".intercalate (fields.map compiler.orderTerm) := by
  have filled : aliasMark.toList ≠ [] := by decide
  rw [← String.toList_inj, Text.replace, Text.replaceChars, if_neg (by decide),
    String.toList_ofList]
  induction fields with
  | nil => rfl
  | cons field rest ih =>
      obtain ⟨first, others⟩ := List.forall_mem_cons.mp unmarked
      cases rest with
      | nil =>
          have alone := compiler.replaceFrom_markedTerm first []
          simpa [Text.replaceFrom] using alone
      | cons second rest =>
          have separator : ", ".toList = [',', ' '] := rfl
          simp only [List.map_cons, String.intercalate_cons_cons, String.toList_append,
            separator, List.append_assoc, List.cons_append, List.nil_append] at ih ⊢
          rw [compiler.replaceFrom_markedTerm first, Text.replaceFrom_cons filled (by decide),
            Text.replaceFrom_cons filled (by decide), ih others]

/-- The clause that orders the elements of an array by the given terms. -/
def orderClause (terms : List String) : String :=
  if terms.isEmpty then "" else " order by " ++ ", ".intercalate terms

def Dialect.arrayOf (dialect : Dialect) (value clause : String) : String :=
  match dialect with
  | postgres => "coalesce(jsonb_agg(" ++ value ++ clause ++ "),'[]'::jsonb)"
  | oracle =>
      "treat(coalesce(json_arrayagg(" ++ value ++ clause ++
        " returning clob), to_clob('[]')) as json)"

theorem Dialect.aggregate_some (dialect : Dialect) (value order aliasName : String) :
    dialect.aggregate value (some order) aliasName =
      dialect.arrayOf value (" order by " ++ Text.replace order aliasMark aliasName) := by
  cases dialect <;> rfl

theorem Dialect.aggregate_none (dialect : Dialect) (value aliasName : String) :
    dialect.aggregate value none aliasName = dialect.arrayOf value "" := by
  cases dialect <;> rfl

theorem Compiler.aggregate_arrayOrder (compiler : Compiler) {relation : Relation}
    (unmarked : ∀ field ∈ relation.primaryKey, Text.contains field.name aliasMark = false)
    (value : String) :
    compiler.dialect.aggregate value (compiler.arrayOrder relation none) wrapperAlias =
      compiler.dialect.arrayOf value
        (orderClause (relation.primaryKey.map compiler.orderTerm)) := by
  have order : compiler.arrayOrder relation none =
      if (relation.primaryKey.map compiler.markedTerm).isEmpty then none
      else some (", ".intercalate (relation.primaryKey.map compiler.markedTerm)) := rfl
  rw [order, orderClause, List.isEmpty_map, List.isEmpty_map]
  cases relation.primaryKey.isEmpty with
  | true => exact Dialect.aggregate_none _ _ _
  | false =>
      rw [if_neg Bool.false_ne_true, if_neg Bool.false_ne_true, Dialect.aggregate_some,
        compiler.replace_markedTerms unmarked]

/-- What the elements of an array are made of: objects of all columns, or the only column. -/
inductive ElementSql (compiler : Compiler) (base : BaseQuery) : (unwrap : Bool) → String → Prop
  | objects : ElementSql compiler base false
      (compiler.dialect.rowObject base.columns wrapperAlias compiler.options.indent)
  | values {column : SelectEntry} : base.columns = [column] →
      ElementSql compiler base true (compiler.dialect.columnValue column wrapperAlias)

theorem Compiler.arrayRowSql_eq {compiler : Compiler} {table sql : String} {base : BaseQuery}
    {unwrap : Bool} {order : Option String} {location : Location}
    (made : compiler.arrayRowSql table base unwrap order location = .ok sql) :
    ∃ value, ElementSql compiler base unwrap value ∧
      sql = compiler.wrapped "aggregated row objects builder" table
        (compiler.dialect.aggregate value order wrapperAlias) base := by
  unfold arrayRowSql at made
  cases unwrap with
  | false =>
      cases made
      exact ⟨_, .objects, rfl⟩
  | true =>
      simp only [if_true] at made
      split at made
      · rename_i column only
        cases made
        exact ⟨_, .values only, rfl⟩
      · cases made

theorem Relation.primaryKey_spec (relation : Relation) :
    relation.primaryKey.Pairwise (fun left right =>
      left.primaryKeyPart.getD 0 ≤ right.primaryKeyPart.getD 0) ∧
    ∀ field, field ∈ relation.primaryKey ↔
      field ∈ relation.fields ∧ field.primaryKeyPart.isSome = true := by
  constructor
  · have sorted : relation.primaryKey.Pairwise fun left right =>
        decide (left.primaryKeyPart.getD 0 ≤ right.primaryKeyPart.getD 0) = true := by
      apply List.pairwise_mergeSort
      · intro first second third lower upper
        rw [decide_eq_true_iff] at lower upper ⊢
        exact Nat.le_trans lower upper
      · intro first second
        rw [Bool.or_eq_true, decide_eq_true_iff, decide_eq_true_iff]
        exact Nat.le_total _ _
    exact sorted.imp of_decide_eq_true
  · intro field
    rw [primaryKey, List.mem_mergeSort, List.mem_filter]

/-- How the array of a table's rows is ordered: by the ordering that is stated, or else by the
hidden columns of the base query, which are the fields of the primary key in their order. -/
structure ArrayOrdered (compiler : Compiler) (spec : TableSpec) (unwrap : Bool)
    (orderBy : Option String) (location : Location) (relation : Relation) (base : BaseQuery)
    (sql : String) : Prop where
  found : compiler.findRelation spec.table location = .ok relation
  compiled : ∃ embedding, compiler.baseQuery spec embedding location = .ok base
  stated : ∀ order, orderBy = some order → base.hiddenKey = [] ∧
    ∃ value, ElementSql compiler base unwrap value ∧
      sql = compiler.wrapped "aggregated row objects builder" spec.table
        (compiler.dialect.arrayOf value (" order by " ++ Text.replace order "$$" "q")) base ∧
      compiler.SelectsOver base
        (compiler.dialect.arrayOf value (" order by " ++ Text.replace order "$$" "q")) sql
  exported : orderBy = none →
    List.Forall₂ (fun field entry =>
      entry.expression = base.aliasName ++ "." ++ compiler.catalog.quote field.name ∧
      entry.outputName = "\"_" ++ field.name ++ "\"") relation.primaryKey base.hiddenKey
  byKey : orderBy = none →
    (∀ field ∈ relation.primaryKey, Text.contains field.name "$$" = false) →
    ∃ value, ElementSql compiler base unwrap value ∧
      sql = compiler.wrapped "aggregated row objects builder" spec.table
        (compiler.dialect.arrayOf value
          (orderClause (base.hiddenKey.map fun entry => "q." ++ entry.outputName))) base ∧
      compiler.SelectsOver base
        (compiler.dialect.arrayOf value
          (orderClause (base.hiddenKey.map fun entry => "q." ++ entry.outputName))) sql
  apart : ∀ entry ∈ base.hiddenKey, ∀ column ∈ base.columns,
    column ≠ entry ∧ column.propertyName ≠ entry.propertyName

theorem ArrayOrdered.hiddenNames {compiler : Compiler} {spec : TableSpec} {unwrap : Bool}
    {location : Location} {relation : Relation} {base : BaseQuery} {sql : String}
    (ordered : ArrayOrdered compiler spec unwrap none location relation base sql) :
    base.hiddenKey.map SelectEntry.outputName =
      relation.primaryKey.map fun field => "\"_" ++ field.name ++ "\"" := by
  rw [← List.forall₂_eq_eq_eq, List.forall₂_map_left_iff, List.forall₂_map_right_iff]
  exact (ordered.exported rfl).flip.imp fun _ _ entry => entry.2

theorem hiddenKey_of_not_exportsKey {compiler : Compiler} {spec : TableSpec}
    {embedding : Embedding} {location : Location} {query : BaseQuery}
    (compiled : compiler.baseQuery spec embedding location = .ok query)
    (keeps : embedding.exportsKey = false) : query.hiddenKey = [] := by
  obtain ⟨assembly, _, _, entries, _, _⟩ := Compiler.baseQuery_ok compiled
  rw [BaseQuery.hiddenKey, entries, assembly.hidden_entries, Assembly.hidden, keeps]
  rfl

theorem hiddenKey_apart {compiler : Compiler} {spec : TableSpec} {embedding : Embedding}
    {location : Location} {query : BaseQuery}
    (compiled : compiler.baseQuery spec embedding location = .ok query) {entry column : SelectEntry}
    (hidden : entry ∈ query.hiddenKey) (shown : column ∈ query.columns) :
    column ≠ entry ∧ column.propertyName ≠ entry.propertyName := by
  obtain ⟨_, _, _, _, _, unique⟩ := Compiler.baseQuery_ok compiled
  have distinct := query.parts.repeatedName?_eq_none_iff.mp unique
  obtain ⟨inEntries, isHidden⟩ := List.mem_filter.mp hidden
  obtain ⟨alsoInEntries, isShown⟩ := List.mem_filter.mp shown
  have different : column ≠ entry := by
    rintro rfl
    simp [isHidden] at isShown
  refine ⟨different, fun sameName => different ?_⟩
  exact List.inj_on_of_nodup_map distinct alsoInEntries inEntries sameName

theorem hiddenKey_of_array {compiler : Compiler} {spec : TableSpec} {embedding : Embedding}
    {location : Location} {relation : Relation} {base : BaseQuery} {orderBy : Option String}
    (found : compiler.findRelation spec.table location = .ok relation)
    (exports : embedding.exportsKey = Compiler.arrayExportsKey relation orderBy)
    (compiled : compiler.baseQuery spec embedding location = .ok base) :
    base.hiddenKey =
      if orderBy.isSome then [] else compiler.hiddenEntries relation base.aliasName := by
  cases orderBy with
  | some order => exact hiddenKey_of_not_exportsKey compiled exports
  | none =>
      by_cases keyless : relation.primaryKey = []
      · have keeps : embedding.exportsKey = false := by
          rw [exports, Compiler.arrayExportsKey, keyless]
          rfl
        rw [hiddenKey_of_not_exportsKey compiled keeps, Compiler.hiddenEntries, keyless]
        rfl
      · refine hiddenKey_of_exportsKey compiled found ?_
        simp [exports, Compiler.arrayExportsKey, keyless]

theorem arrayOrdered {compiler : Compiler} {spec : TableSpec} {embedding : Embedding}
    {unwrap : Bool} {orderBy : Option String} {location : Location} {relation : Relation}
    {base : BaseQuery} {sql : String}
    (found : compiler.findRelation spec.table location = .ok relation)
    (exports : embedding.exportsKey = Compiler.arrayExportsKey relation orderBy)
    (compiled : compiler.baseQuery spec embedding location = .ok base)
    (made : compiler.arrayRowSql spec.table base unwrap (compiler.arrayOrder relation orderBy)
      location = .ok sql) :
    ArrayOrdered compiler spec unwrap orderBy location relation base sql := by
  have key := hiddenKey_of_array found exports compiled
  obtain ⟨value, elements, text⟩ := Compiler.arrayRowSql_eq made
  refine ⟨found, ⟨embedding, compiled⟩, ?_, ?_, ?_, fun entry hidden column shown =>
    hiddenKey_apart compiled hidden shown⟩
  · rintro order rfl
    rw [Compiler.arrayOrder, Dialect.aggregate_some] at text
    exact ⟨key, value, elements, text, text ▸ compiler.wrapped_selectsOver _ _ _ base⟩
  · rintro rfl
    have exported : base.hiddenKey = compiler.hiddenEntries relation base.aliasName := key
    rw [exported, Compiler.hiddenEntries, List.forall₂_map_right_iff]
    exact List.forall₂_same.mpr fun field _ => ⟨rfl, compiler.hiddenName_eq field⟩
  · rintro rfl unmarked
    have terms : base.hiddenKey.map (fun entry => "q." ++ entry.outputName) =
        relation.primaryKey.map compiler.orderTerm := by
      have exported : base.hiddenKey = compiler.hiddenEntries relation base.aliasName := key
      rw [exported, Compiler.hiddenEntries, List.map_map]
      rfl
    rw [compiler.aggregate_arrayOrder unmarked, ← terms] at text
    exact ⟨value, elements, text, text ▸ compiler.wrapped_selectsOver _ _ _ base⟩

theorem childEntries_ordered {compiler : Compiler} {outer : Relation} {outerAlias : String}
    {location : Location} {collections : List ChildCollection} {entries : List SelectEntry}
    (made : compiler.childEntries outer outerAlias location collections = .ok entries) :
    List.Forall₂ (fun collection entry => ∃ relation base sql,
      ArrayOrdered compiler collection.spec collection.isUnwrapped collection.orderBy
        (location.enter (Related.childCollection collection).describe) relation base sql ∧
      entry = RelatedQuery.collectionEntry compiler collection sql) collections entries := by
  induction collections generalizing entries with
  | nil =>
      cases made
      exact .nil
  | cons collection rest ih =>
      obtain ⟨nested, sql, others, aggregated, othersMade, rfl⟩ := childEntries_cons made
      refine .cons ⟨nested.target, nested.query, sql, ?_, rfl⟩ (ih othersMade)
      exact arrayOrdered nested.found rfl nested.compiled aggregated

/-- Every array of a query is ordered by the hidden columns of its base query unless an ordering is
stated for it: the array of all rows, and at every depth the array of each child collection. -/
theorem arrays_ordered_by_exported_key (compiler : Compiler) :
    (∀ (query : QuerySpec) (sql : String), compiler.querySql query .arrayRow = .ok sql →
      ∃ relation base, ArrayOrdered compiler query.tableSpec false query.orderBy
        { query := query.name } relation base sql) ∧
    (∀ (spec : TableSpec) (embedding : Embedding) (location : Location) (query : BaseQuery),
      compiler.baseQuery spec embedding location = .ok query →
      ∃ others arrays, query.parts.entries = others ++ arrays ∧
        List.Forall₂ (fun collection entry => ∃ relation base sql,
          ArrayOrdered compiler collection.spec collection.isUnwrapped collection.orderBy
            (location.enter (Related.childCollection collection).describe) relation base sql ∧
          entry = RelatedQuery.collectionEntry compiler collection sql)
          spec.childCollections arrays) ∧
    ∀ relation : Relation,
      relation.primaryKey.Pairwise (fun left right =>
        left.primaryKeyPart.getD 0 ≤ right.primaryKeyPart.getD 0) ∧
      ∀ field, field ∈ relation.primaryKey ↔
        field ∈ relation.fields ∧ field.primaryKeyPart.isSome = true := by
  refine ⟨?_, ?_, Relation.primaryKey_spec⟩
  · intro query sql made
    unfold Compiler.querySql at made
    split at made
    · cases made
    · obtain ⟨relation, found, made⟩ := ok_of_bind made
      obtain ⟨base, compiled, made⟩ := ok_of_bind made
      exact ⟨relation, base, arrayOrdered found rfl compiled made⟩
  · intro spec embedding location query compiled
    obtain ⟨assembly, _, _, entries, _, _⟩ := Compiler.baseQuery_ok compiled
    exact ⟨_, assembly.children, entries, childEntries_ordered assembly.childrenMade⟩

/-! Stops of lines at stations, with a key whose parts are not in the order of the fields. -/

namespace Timetable

def part (name : String) (number : Nat) : Field :=
  { name, typeCode := .numeric, databaseType := "NUMBER", nullable := some false
    primaryKeyPart := some number }

def stop : Relation := { id := ⟨none, "STOP"⟩, fields := [part "LINE" 2, part "STATION" 1] }

def compiler : Compiler where
  catalog :=
    { schemaName := none
      relations := [stop]
      foreignKeys := []
      caseRule := .storedUpper
      productName := "Oracle"
      productVersion := "" }
  dialect := .oracle
  options := {}

def stops : QuerySpec :=
  { name := "stops", tableSpec := { table := "stop", fields := [{ field := some "station" }] } }

theorem primaryKey_stop : stop.primaryKey = [part "STATION" 1, part "LINE" 2] := by
  refine List.Perm.eq_of_pairwise ?_ stop.primaryKey_spec.1 (by decide) ?_
  · intro first second member other lower upper
    rw [stop.primaryKey_spec.2] at member
    have listed : first = part "LINE" 2 ∨ first = part "STATION" 1 := by
      simpa [stop] using member.1
    have others : second = part "STATION" 1 ∨ second = part "LINE" 2 := by simpa using other
    rcases listed with rfl | rfl <;> rcases others with rfl | rfl <;> simp_all [part]
  · exact (List.mergeSort_perm _ _).trans (List.Perm.swap _ _ _)

theorem found_stop : compiler.findRelation "stop" { query := "stops" } = .ok stop := by
  decide +kernel

theorem exists_sql : ∃ sql, compiler.querySql stops .arrayRow = .ok sql := by
  have computed : (compiler.baseQuery stops.tableSpec {} { query := "stops" }).map
      (fun base => base.columns.map SelectEntry.propertyName) = .ok ["station"] := by
    decide +kernel
  obtain ⟨base, compiled, names⟩ := ok_of_map computed
  obtain ⟨column, only, name⟩ := List.map_eq_singleton_iff.mp names
  refine (compiler.exists_arrayRow_iff rfl).mpr ⟨stop, found_stop, ?_⟩
  refine (exists_ordered_iff none found_stop).mpr ⟨base, compiled, fun _ => ?_⟩
  rw [primaryKey_stop, only]
  refine ⟨by decide, ?_⟩
  rw [List.forall_mem_singleton, name]
  decide

end Timetable

theorem arrays_ordered_by_exported_key_timetable :
    (∃ base sql, Timetable.compiler.querySql Timetable.stops .arrayRow = .ok sql ∧
      base.hiddenKey.map SelectEntry.outputName = ["\"_STATION\"", "\"_LINE\""] ∧
      ∃ value, ElementSql Timetable.compiler base false value ∧
        sql = Timetable.compiler.wrapped "aggregated row objects builder" "stop"
          ("treat(coalesce(json_arrayagg(" ++ value ++ " order by q.\"_STATION\", q.\"_LINE\"" ++
            " returning clob), to_clob('[]')) as json)") base) ∧
    ∃ query base sql, Shop.compiler.baseQuery Shop.orders {} { query := "orders" } = .ok query ∧
      RelatedQuery.collectionEntry Shop.compiler Shop.skus sql ∈ query.parts.entries ∧
      base.hiddenKey.map SelectEntry.outputName = ["\"_id\""] ∧
      ∃ value, ElementSql Shop.compiler base true value ∧
        sql = Shop.compiler.wrapped "aggregated row objects builder" "item"
          ("coalesce(jsonb_agg(" ++ value ++ " order by q.\"_id\"" ++ "),'[]'::jsonb)") base := by
  have clause {base : BaseQuery} {names : List String}
      (named : base.hiddenKey.map SelectEntry.outputName = names) :
      base.hiddenKey.map (fun entry => "q." ++ entry.outputName) = names.map ("q." ++ ·) := by
    rw [← named, List.map_map]
    rfl
  constructor
  · obtain ⟨sql, made⟩ := Timetable.exists_sql
    obtain ⟨relation, base, ordered⟩ :=
      (arrays_ordered_by_exported_key Timetable.compiler).1 _ _ made
    obtain rfl : relation = Timetable.stop :=
      Except.ok.inj (ordered.found.symm.trans Timetable.found_stop)
    have named := ordered.hiddenNames
    obtain ⟨value, elements, text, -⟩ := ordered.byKey rfl
      (by rw [Timetable.primaryKey_stop]; decide)
    rw [Timetable.primaryKey_stop] at named
    rw [clause named] at text
    exact ⟨base, sql, made, named, value, elements, text⟩
  · obtain ⟨query, compiled⟩ := exists_of_isOk
      (show (Shop.compiler.baseQuery Shop.orders {} { query := "orders" }).isOk = true by
        decide +kernel)
    obtain ⟨others, arrays, entries, collected⟩ :=
      (arrays_ordered_by_exported_key Shop.compiler).2.1 _ _ _ _ compiled
    obtain ⟨array, _, ⟨relation, base, sql, ordered, rfl⟩, -, rfl⟩ :=
      List.forall₂_cons_left_iff.mp collected
    have found : Shop.compiler.findRelation "item" { query := "orders", parts :=
        ["child collection 'skus'"] } = .ok Shop.itemRelation := by
      decide +kernel
    obtain rfl : relation = Shop.itemRelation := Except.ok.inj (ordered.found.symm.trans found)
    have key : Shop.itemRelation.primaryKey = [Shop.keyField] := by decide +kernel
    have named := ordered.hiddenNames
    obtain ⟨value, elements, text, -⟩ := ordered.byKey rfl (by rw [key]; decide)
    rw [key] at named
    rw [clause named] at text
    refine ⟨query, base, sql, compiled, ?_, named, value, elements, text⟩
    rw [entries]
    exact List.mem_append_right _ List.mem_cons_self

end NestedQuery

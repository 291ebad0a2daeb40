import NestedQuery.Proofs.Query.PlainNames

/-! Generated SQL is properly nested. Names without parentheses and balanced fragments of SQL are
put into texts that close what they open, so that every query around a balanced query is balanced
again. -/

namespace NestedQuery

open NestedQuery.Text

structure SelectEntry.Balanced (entry : SelectEntry) : Prop where
  expression : Text.Balanced entry.expression
  outputName : ParenFree entry.outputName
  comment : ∀ comment ∈ entry.comment, Text.Balanced comment

namespace SelectEntry.Balanced

theorem make {expression outputName : String} (origin : Origin)
    (written : Text.Balanced expression) (named : ParenFree outputName) :
    (SelectEntry.make expression outputName origin).Balanced :=
  ⟨written, named, by rintro _ ⟨⟩⟩

theorem sql {entry : SelectEntry} (balanced : entry.Balanced) : Text.Balanced entry.sql := by
  have column : Text.Balanced (entry.expression ++
      (if entry.outputName.toList.head? == some '"' then " " else " as ") ++ entry.outputName) := by
    refine (balanced.expression.append ?_).append balanced.outputName.balanced
    split <;> decide
  have newline : Text.Balanced "\n" := by decide
  rw [SelectEntry.sql]
  cases commented : entry.comment with
  | none => exact column
  | some comment => exact ((balanced.comment comment commented).append newline).append column

end SelectEntry.Balanced

structure QueryParts.Balanced (parts : QueryParts) : Prop where
  entries : ∀ entry ∈ parts.entries, entry.Balanced
  sources : ∀ source ∈ parts.sources, Text.Balanced source
  conditions : ∀ condition ∈ parts.conditions, Text.Balanced condition
  orderBy : ∀ order ∈ parts.orderBy, Text.Balanced order

theorem QueryParts.Balanced.sql {parts : QueryParts} (balanced : parts.Balanced) (indent : Nat) :
    Text.Balanced (parts.sql indent) := by
  have select : Text.Balanced (",\n".intercalate (parts.entries.map SelectEntry.sql)) := by
    apply Balanced.intercalate (by decide)
    intro text written
    obtain ⟨entry, member, rfl⟩ := List.mem_map.mp written
    exact (balanced.entries entry member).sql
  have sources : Text.Balanced (joinLines parts.sources) :=
    .intercalate (by decide) balanced.sources
  have conditions : Text.Balanced (" and\n".intercalate parts.conditions) :=
    .intercalate (by decide) balanced.conditions
  have start : Text.Balanced ("select\n" ++ Text.indent indent
      (",\n".intercalate (parts.entries.map SelectEntry.sql)) ++ "\nfrom\n" ++
      Text.indent indent (joinLines parts.sources)) := by
    have keyword : Text.Balanced "select\n" := by decide
    exact ((keyword.append (select.indent indent)).append (by decide)).append
      (sources.indent indent)
  refine (start.append ?_).append ?_
  · split
    · decide
    · have opened : Leads "\nwhere (\n" 0 1 := by decide
      exact balanced_iff_leads.mpr
        ((opened.append ((conditions.indent indent).leads 1)).append (by decide))
  · cases ordered : parts.orderBy with
    | none => decide
    | some order =>
        have keyword : Text.Balanced "\norder by " := by decide
        exact keyword.append (balanced.orderBy order ordered)

namespace Dialect

variable {column : SelectEntry} {columns : List SelectEntry} {aliasName : String}

theorem columnValue_balanced (dialect : Dialect) (free : ParenFree aliasName)
    (named : ParenFree column.outputName) :
    Text.Balanced (dialect.columnValue column aliasName) := by
  have reference : Text.Balanced (aliasName ++ "." ++ column.outputName) :=
    ((free.append (by decide)).append named).balanced
  cases dialect with
  | postgres => exact reference
  | oracle =>
      rw [columnValue]
      split
      · have opened : Leads "treat(" 0 1 := by decide
        exact balanced_iff_leads.mpr ((opened.append (reference.leads 1)).append (by decide))
      · exact reference

theorem property_balanced (dialect : Dialect) (free : ParenFree aliasName)
    (named : ParenFree column.outputName) :
    Text.Balanced (dialect.property aliasName column) := by
  have mark : ParenFree "'" := by decide
  have name : Text.Balanced ("'" ++ column.propertyName ++ "'") :=
    ((mark.append (parenFree_unquoted named)).append mark).balanced
  have value := dialect.columnValue_balanced free named
  cases dialect with
  | postgres => exact (name.append (by decide)).append value
  | oracle => exact (name.append (by decide)).append value

theorem rowObject_balanced (dialect : Dialect) (free : ParenFree aliasName)
    (named : ∀ column ∈ columns, ParenFree column.outputName) (indent : Nat) :
    Text.Balanced (dialect.rowObject columns aliasName indent) := by
  have properties : Text.Balanced
      (Text.indent indent (",\n".intercalate (columns.map (dialect.property aliasName)))) := by
    refine (Balanced.intercalate (by decide) ?_).indent indent
    intro text written
    obtain ⟨column, member, rfl⟩ := List.mem_map.mp written
    exact dialect.property_balanced free (named column member)
  rw [balanced_iff_leads]
  cases dialect with
  | postgres =>
      have opened : Leads "jsonb_build_object(\n" 0 1 := by decide
      exact (opened.append (properties.leads 1)).append (by decide)
  | oracle =>
      have opened : Leads "json_object(\n" 0 1 := by decide
      have returning : Text.Balanced "returning clob" := by decide
      have newline : Text.Balanced "\n" := by decide
      exact (((opened.append (properties.leads 1)).append (newline.leads 1)).append
        ((returning.indent indent).leads 1)).append (by decide)

theorem arrayOf_balanced {value clause : String} (dialect : Dialect)
    (written : Text.Balanced value) (ordered : Text.Balanced clause) :
    Text.Balanced (dialect.arrayOf value clause) := by
  rw [balanced_iff_leads]
  cases dialect with
  | postgres =>
      have opened : Leads "coalesce(jsonb_agg(" 0 2 := by decide
      exact ((opened.append (written.leads 2)).append (ordered.leads 2)).append (by decide)
  | oracle =>
      have opened : Leads "treat(coalesce(json_arrayagg(" 0 3 := by decide
      exact ((opened.append (written.leads 3)).append (ordered.leads 3)).append (by decide)

theorem aggregate_balanced {value : String} {orderBy : Option String} (dialect : Dialect)
    (written : Text.Balanced value) (ordered : ∀ order ∈ orderBy, Text.Balanced order)
    (free : ParenFree aliasName) : Text.Balanced (dialect.aggregate value orderBy aliasName) := by
  cases orderBy with
  | none =>
      rw [aggregate_none]
      exact dialect.arrayOf_balanced written (by decide)
  | some order =>
      have keyword : Text.Balanced " order by " := by decide
      rw [aggregate_some]
      exact dialect.arrayOf_balanced written
        (keyword.append ((ordered order rfl).replace (by decide) free))

end Dialect

structure BaseQuery.Balanced (query : BaseQuery) : Prop where
  aliasName : ParenFree query.aliasName
  parts : query.parts.Balanced

theorem BaseQuery.Balanced.outputNames {query : BaseQuery} (balanced : query.Balanced) :
    ∀ column ∈ query.columns, ParenFree column.outputName := by
  intro column member
  exact (balanced.parts.entries column (List.mem_of_mem_filter member)).outputName

/-- What a query takes from the query around it has no parentheses, or balanced ones. -/
structure Embedding.Balanced (embedding : Embedding) : Prop where
  correlation : ∀ correlation ∈ embedding.correlation, ParenFree correlation.otherAlias ∧
    ∀ pair ∈ correlation.pairs, ∀ name ∈ pair.names, ParenFree name
  filter : ∀ filter ∈ embedding.filter, Text.Balanced filter
  orderBy : ∀ order ∈ embedding.orderBy, Text.Balanced order

theorem Correlation.condition_balanced (correlation : Correlation) {aliasName mark : String}
    (catalog : Catalog) (other : ParenFree correlation.otherAlias)
    (pairs : ∀ pair ∈ correlation.pairs, ∀ name ∈ pair.names, ParenFree name)
    (free : ParenFree aliasName) (marked : ParenFree mark) :
    Text.Balanced (correlation.condition catalog aliasName mark) := by
  have child : ParenFree (correlation.childAlias aliasName) := by
    cases side : correlation.restricted <;> simpa [childAlias, side]
  have parent : ParenFree (correlation.parentAlias aliasName) := by
    cases side : correlation.restricted <;> simpa [parentAlias, side]
  apply Balanced.intercalate (by decide)
  intro text written
  obtain ⟨pair, member, rfl⟩ := List.mem_map.mp written
  have childField : ParenFree pair.childField := pairs pair member _ (by simp [KeyPair.names])
  have parentField : ParenFree pair.parentField := pairs pair member _ (by simp [KeyPair.names])
  have childColumn := parenFree_quote childField catalog.caseRule
  have parentColumn := parenFree_quote (marked.append parentField) catalog.caseRule
  exact ((((((child.append (by decide)).append childColumn).append (by decide)).append
    parent).append (by decide)).append parentColumn).balanced

section Entries

variable {compiler : Compiler} {relation : Relation} {aliasName : String}
  (named : ∀ name ∈ relation.names, ParenFree name) (free : ParenFree aliasName)

include named

theorem Compiler.arrayOrder_balanced {orderBy : Option String}
    (ordered : ∀ order ∈ orderBy, Text.Balanced order) :
    ∀ order ∈ compiler.arrayOrder relation orderBy, Text.Balanced order := by
  intro order stated
  cases orderBy with
  | some text =>
      cases stated
      exact ordered _ rfl
  | none =>
      rw [Compiler.arrayOrder] at stated
      split at stated
      · cases stated
      · cases stated
        apply Balanced.intercalate (by decide)
        intro term listed
        obtain ⟨field, inKey, rfl⟩ := List.mem_map.mp listed
        have mark : ParenFree aliasMark := by decide
        exact ((mark.append (by decide)).append (parenFree_hiddenName named inKey)).balanced

include free

theorem hiddenEntries_balanced :
    ∀ entry ∈ compiler.hiddenEntries relation aliasName, entry.Balanced := by
  intro entry member
  obtain ⟨field, inKey, rfl⟩ := List.mem_map.mp member
  have column := parenFree_quote (parenFree_keyField named inKey) compiler.catalog.caseRule
  exact .make .hiddenKey ((free.append (by decide)).append column).balanced
    (parenFree_hiddenName named inKey)

omit named

theorem nativeEntry_balanced {spec : FieldSpec} {location : Location} {entry : SelectEntry}
    (names : ∀ name ∈ spec.names, ParenFree name)
    (expressions : ∀ text ∈ spec.expression, Text.Balanced text)
    (made : compiler.nativeEntry relation aliasName location spec = .ok entry) :
    entry.Balanced := by
  obtain ⟨name, nameMade, made⟩ := ok_of_bind made
  obtain ⟨expression, written, made⟩ := ok_of_bind made
  cases made
  have nameFree : ParenFree name := by
    rcases propertyName_eq nameMade with stated | ⟨field, isField, rfl⟩
    · exact names name (by simp [FieldSpec.names, stated])
    · apply parenFree_apply
      exact parenFree_unquoted (names field (by simp [FieldSpec.names, isField]))
  refine .make .nativeField ?_ (parenFree_quote nameFree _)
  unfold Compiler.fieldSql at written
  cases isField : spec.field with
  | none =>
      cases isExpression : spec.expression with
      | none =>
          rw [isField, isExpression] at written
          cases written
      | some text =>
          rw [isField, isExpression] at written
          cases written
          refine (expressions text isExpression).replace (parenFree_aliasMark ?_) free
          intro mark stated
          exact names mark (by simp_all [FieldSpec.names])
  | some field =>
      cases isExpression : spec.expression with
      | none =>
          rw [isField, isExpression] at written
          obtain ⟨_, _, written⟩ := ok_of_bind written
          cases written
          have fieldFree : ParenFree field := names field (by simp [FieldSpec.names, isField])
          exact ((free.append (by decide)).append fieldFree).balanced
      | some text =>
          rw [isField, isExpression] at written
          cases written

end Entries

/-! Queries around queries. -/

section

variable {compiler : Compiler}

theorem Compiler.indented_leads (compiler : Compiler) {text : String}
    (balanced : Text.Balanced text) (depth : Nat) :
    Leads (compiler.indented text) depth depth :=
  (balanced.indent _).leads depth

theorem Compiler.sql_balanced (compiler : Compiler) {query : BaseQuery}
    (balanced : query.Balanced) : Text.Balanced (compiler.sql query) :=
  balanced.parts.sql _

theorem Compiler.wrapped_balanced {what table value : String} {query : BaseQuery}
    (described : Text.Balanced what) (named : ParenFree table) (written : Text.Balanced value)
    (balanced : query.Balanced) : Text.Balanced (compiler.wrapped what table value query) := by
  have dashes : Text.Balanced "-- " := by decide
  have mark : Text.Balanced "'" := by decide
  have forTable : Text.Balanced " for table '" := by decide
  have above := (((dashes.append described).append forTable).append named.balanced).append mark
  have base : Text.Balanced "-- base query for table '" := by decide
  have inside := (base.append named.balanced).append mark
  have keyword : Leads "select\n" 0 0 := by decide
  have newline : Text.Balanced "\n" := by decide
  have opened := (((keyword.append (compiler.indented_leads above 0)).append
    (newline.leads 0)).append (compiler.indented_leads written 0)).append
    (by decide : Leads " json\nfrom (\n" 0 1)
  have filled := ((opened.append (compiler.indented_leads inside 1)).append
    (newline.leads 1)).append (compiler.indented_leads (compiler.sql_balanced balanced) 1)
  have closing : Leads "\n) " 1 0 := by decide
  exact balanced_iff_leads.mpr ((filled.append closing).append (by decide))

theorem Compiler.objectRowsSql_balanced {table : String} {query : BaseQuery}
    {orderBy : Option String} (named : ParenFree table) (balanced : query.Balanced)
    (ordered : ∀ order ∈ orderBy, Text.Balanced order) :
    Text.Balanced (compiler.objectRowsSql table query orderBy) := by
  have wrapper : ParenFree wrapperAlias := by decide
  have object := compiler.dialect.rowObject_balanced wrapper balanced.outputNames
    compiler.options.indent
  refine (Compiler.wrapped_balanced (by decide) named object balanced).append ?_
  cases orderBy with
  | none => exact (by decide : Text.Balanced "")
  | some order =>
      have keyword : Text.Balanced "\norder by " := by decide
      exact keyword.append ((ordered order rfl).replace (by decide) wrapper)

theorem Compiler.arrayRowSql_balanced {table sql : String} {query : BaseQuery} {unwrap : Bool}
    {order : Option String} {location : Location} (named : ParenFree table)
    (balanced : query.Balanced) (ordered : ∀ text ∈ order, Text.Balanced text)
    (made : compiler.arrayRowSql table query unwrap order location = .ok sql) :
    Text.Balanced sql := by
  have wrapper : ParenFree wrapperAlias := by decide
  obtain ⟨value, element, rfl⟩ := Compiler.arrayRowSql_eq made
  have written : Text.Balanced value := by
    cases element with
    | objects => exact compiler.dialect.rowObject_balanced wrapper balanced.outputNames _
    | values only =>
        apply compiler.dialect.columnValue_balanced wrapper
        apply balanced.outputNames
        rw [only]
        exact List.mem_singleton_self _
  exact Compiler.wrapped_balanced (by decide) named
    (compiler.dialect.aggregate_balanced written ordered wrapper) balanced

theorem parenthesized_balanced {text mark aliasName : String} (balanced : Text.Balanced text)
    (marked : ParenFree mark) (free : ParenFree aliasName) :
    Text.Balanced ("(" ++ Text.replace text mark aliasName ++ ")") := by
  have opened : Leads "(" 0 1 := by decide
  exact balanced_iff_leads.mpr
    ((opened.append ((balanced.replace marked free).leads 1)).append (by decide))

theorem Compiler.rowConditions_balanced {aliasName : String} {embedding : Embedding}
    {condition : Option RowCondition} (free : ParenFree aliasName) (outer : embedding.Balanced)
    (own : ∀ stated ∈ condition,
      (∀ mark ∈ stated.aliasMark, ParenFree mark) ∧ Text.Balanced stated.sql) :
    ∀ text ∈ compiler.rowConditions aliasName embedding condition, Text.Balanced text := by
  intro text member
  simp only [Compiler.rowConditions, List.mem_append, Option.mem_toList,
    Option.map_eq_some_iff] at member
  rcases member with (⟨correlation, stated, rfl⟩ | ⟨filter, stated, rfl⟩) | ⟨condition, stated, rfl⟩
  · obtain ⟨other, pairs⟩ := outer.correlation correlation stated
    exact correlation.condition_balanced compiler.catalog other pairs free (by decide)
  · exact parenthesized_balanced (outer.filter filter stated) (by decide) free
  · obtain ⟨marks, balanced⟩ := own condition stated
    exact parenthesized_balanced balanced (parenFree_aliasMark marks) free

theorem Compiler.baseQuery_clauses {spec : TableSpec} {embedding : Embedding}
    {location : Location} {query : BaseQuery}
    (compiled : compiler.baseQuery spec embedding location = .ok query) :
    query.parts.conditions = compiler.rowConditions query.aliasName embedding spec.condition ∧
      query.parts.orderBy = embedding.orderBy.map (Text.replace · aliasMark query.aliasName) := by
  obtain ⟨assembly, rfl, -⟩ := Compiler.exists_assembly compiled
  exact ⟨rfl, rfl⟩

theorem inlineEntries_balanced {table aliasName : String} {columns : List SelectEntry}
    (named : ParenFree table) (free : ParenFree aliasName)
    (outputNames : ∀ column ∈ columns, ParenFree column.outputName) :
    ∀ entry ∈ Compiler.inlineEntries table aliasName columns, entry.Balanced := by
  have reference {column : SelectEntry} (member : column ∈ columns) :
      Text.Balanced (aliasName ++ "." ++ column.outputName) :=
    ((free.append (by decide)).append (outputNames column member)).balanced
  have above : Text.Balanced "-- field(s) inlined from parent table '" := by decide
  intro entry member
  cases columns with
  | nil => cases member
  | cons first rest =>
      rcases List.mem_cons.mp member with rfl | later
      · refine ⟨reference List.mem_cons_self, outputNames first List.mem_cons_self, ?_⟩
        rintro comment ⟨⟩
        exact (above.append named.balanced).append (by decide)
      · obtain ⟨column, inRest, rfl⟩ := List.mem_map.mp later
        have inside := List.mem_cons_of_mem first inRest
        exact ⟨reference inside, outputNames column inside, by rintro _ ⟨⟩⟩

theorem Compiler.inlineParts_balanced {table childAlias : String} {join : InlineJoin}
    {query : BaseQuery} (named : ParenFree table) (child : ParenFree childAlias)
    (joined : ParenFree join.aliasName)
    (pairs : ∀ pair ∈ join.pairs, ∀ name ∈ pair.names, ParenFree name)
    (balanced : query.Balanced) :
    (compiler.inlineParts table childAlias join query).Balanced := by
  refine ⟨inlineEntries_balanced named joined balanced.outputNames, ?_, List.forall_mem_nil _,
    by rintro _ ⟨⟩⟩
  refine List.forall_mem_singleton.mpr ?_
  have comment : Text.Balanced "-- parent table '" := by decide
  have keyword : Leads "', joined for inlined fields\nleft join (\n" 0 1 := by decide
  have opened := ((comment.append named.balanced).leads 0).append keyword
  have closing : Leads "\n) " 1 0 := by decide
  have inside := compiler.indented_leads (compiler.sql_balanced balanced) 1
  have derived := (opened.append inside).append closing
  have on : Text.Balanced " on " := by decide
  let correlation : Correlation :=
    { restricted := .parent, otherAlias := childAlias, pairs := join.pairs }
  have condition := correlation.condition_balanced compiler.catalog child pairs joined
    (by decide : ParenFree hiddenMark)
  exact balanced_iff_leads.mpr
    (((derived.append (joined.leads 0)).append (on.leads 0)).append (condition.leads 0))

theorem nested_balanced {above text : String} (commented : Text.Balanced above)
    (balanced : Text.Balanced text) :
    Text.Balanced (above ++ "'\n(\n" ++ compiler.indented text ++ "\n)") := by
  have opened := (commented.leads 0).append (by decide : Leads "'\n(\n" 0 1)
  exact balanced_iff_leads.mpr
    ((opened.append (compiler.indented_leads balanced 1)).append (by decide))

end

def Compiler.WritesBalanced (compiler : Compiler) (spec : TableSpec) : Prop :=
  ∀ {embedding : Embedding} {location : Location} {query : BaseQuery}, embedding.Balanced →
    compiler.baseQuery spec embedding location = .ok query → query.Balanced

section Induction

variable {compiler : Compiler} (stored : ∀ name ∈ compiler.catalog.names, ParenFree name)
  {spec : TableSpec} (plain : spec.Plain)
  {outer : Relation} {outerAlias : String} (free : ParenFree outerAlias) {location : Location}

include stored plain

theorem TableSpec.Plain.link {related : Related} (member : related ∈ spec.related)
    (nested : RelatedQuery compiler outer outerAlias location related) :
    ∀ pair ∈ nested.pairs, ∀ name ∈ pair.names, ParenFree name := by
  refine parenFree_of_joinPairs stored ?_ nested.joined
  intro name inside
  apply plain.relatedName member
  cases related with
  | inlineParent parent => exact inside
  | referencedParent parent => exact List.mem_cons_of_mem _ inside
  | childCollection collection => exact List.mem_cons_of_mem _ inside

include free

theorem RelatedQuery.balanced {related : Related} (member : related ∈ spec.related)
    (below : related.spec.Plain → compiler.WritesBalanced related.spec)
    (nested : RelatedQuery compiler outer outerAlias location related) :
    nested.query.Balanced := by
  have pairs := plain.link stored member nested
  refine below (plain.related member) ?_ nested.compiled
  cases related with
  | inlineParent parent => exact ⟨by rintro _ ⟨⟩, by rintro _ ⟨⟩, by rintro _ ⟨⟩⟩
  | referencedParent parent =>
      refine ⟨?_, by rintro _ ⟨⟩, by rintro _ ⟨⟩⟩
      rintro correlation ⟨⟩
      exact ⟨free, pairs⟩
  | childCollection collection =>
      refine ⟨?_, ?_, by rintro _ ⟨⟩⟩
      · rintro correlation ⟨⟩
        exact ⟨free, pairs⟩
      · intro filter stated
        apply plain.relatedFragment member
        exact List.mem_append_left _ (Option.mem_toList.mpr stated)

theorem inlined_balanced {aliases : List String} {parents : List InlineParent}
    {joins : List (InlineJoin × QueryParts)}
    (held : ∀ parent ∈ parents, Related.inlineParent parent ∈ spec.related)
    (below : ∀ parent ∈ parents, parent.spec.Plain → compiler.WritesBalanced parent.spec)
    (made : Inlined compiler outer outerAlias location aliases parents joins) :
    ∀ join ∈ joins, join.2.Balanced := by
  induction parents generalizing aliases joins with
  | nil =>
      cases made
      exact List.forall_mem_nil _
  | cons parent rest ih =>
      obtain _ | ⟨nested, othersMade⟩ := made
      obtain ⟨member, held⟩ := List.forall_mem_cons.mp held
      obtain ⟨first, below⟩ := List.forall_mem_cons.mp below
      have query := nested.balanced stored plain free member first
      have pairs := plain.link stored member nested
      have table : ParenFree parent.spec.table := (plain.related member).table
      refine List.forall_mem_cons.mpr ⟨?_, ih held below othersMade⟩
      have wrapper : ParenFree wrapperAlias := by decide
      exact Compiler.inlineParts_balanced table free (parenFree_fresh wrapper aliases) pairs query

theorem referencedEntries_balanced {parents : List ReferencedParent} {entries : List SelectEntry}
    (held : ∀ parent ∈ parents, Related.referencedParent parent ∈ spec.related)
    (below : ∀ parent ∈ parents, parent.spec.Plain → compiler.WritesBalanced parent.spec)
    (made : compiler.referencedEntries outer outerAlias location parents = .ok entries) :
    ∀ entry ∈ entries, entry.Balanced := by
  induction parents generalizing entries with
  | nil =>
      cases made
      exact List.forall_mem_nil _
  | cons parent rest ih =>
      obtain ⟨nested, others, othersMade, rfl⟩ := referencedEntries_cons made
      obtain ⟨member, held⟩ := List.forall_mem_cons.mp held
      obtain ⟨first, below⟩ := List.forall_mem_cons.mp below
      have query := nested.balanced stored plain free member first
      have table : ParenFree parent.spec.table := (plain.related member).table
      have name : ParenFree parent.name := plain.relatedName member List.mem_cons_self
      refine List.forall_mem_cons.mpr ⟨?_, ih held below othersMade⟩
      refine .make .parentReference (nested_balanced ?_ ?_) (parenFree_quote name _)
      · have above : Text.Balanced "-- parent table '" := by decide
        exact ((above.append table.balanced).append (by decide)).append name.balanced
      · exact Compiler.objectRowsSql_balanced table query (by rintro _ ⟨⟩)

theorem childEntries_balanced {collections : List ChildCollection} {entries : List SelectEntry}
    (held : ∀ collection ∈ collections, Related.childCollection collection ∈ spec.related)
    (below : ∀ collection ∈ collections, collection.spec.Plain →
      compiler.WritesBalanced collection.spec)
    (made : compiler.childEntries outer outerAlias location collections = .ok entries) :
    ∀ entry ∈ entries, entry.Balanced := by
  induction collections generalizing entries with
  | nil =>
      cases made
      exact List.forall_mem_nil _
  | cons collection rest ih =>
      obtain ⟨nested, sql, others, aggregated, othersMade, rfl⟩ := childEntries_cons made
      obtain ⟨member, held⟩ := List.forall_mem_cons.mp held
      obtain ⟨first, below⟩ := List.forall_mem_cons.mp below
      have query := nested.balanced stored plain free member first
      have table : ParenFree collection.spec.table := (plain.related member).table
      have name : ParenFree collection.name := plain.relatedName member List.mem_cons_self
      refine List.forall_mem_cons.mpr ⟨?_, ih held below othersMade⟩
      refine .make .childCollection (nested_balanced ?_ ?_) (parenFree_quote name _)
      · have above : Text.Balanced "-- records from child table '" := by decide
        exact ((above.append table.balanced).append (by decide)).append name.balanced
      · refine Compiler.arrayRowSql_balanced table query ?_ aggregated
        refine Compiler.arrayOrder_balanced (parenFree_of_findRelation stored nested.found) ?_
        intro order stated
        apply plain.relatedFragment member
        exact List.mem_append_right _ (Option.mem_toList.mpr stated)

omit free

theorem Assembly.entries_balanced {embedding : Embedding}
    (assembly : Assembly compiler spec embedding location)
    (inlined : ∀ join ∈ assembly.inlined, join.2.Balanced)
    (referenced : ∀ entry ∈ assembly.referenced, entry.Balanced)
    (children : ∀ entry ∈ assembly.children, entry.Balanced) :
    ∀ entry ∈ assembly.entries, entry.Balanced := by
  have named := parenFree_of_findRelation stored assembly.found
  have free : ParenFree assembly.aliasName := parenFree_ownAlias named embedding
  rw [Assembly.entries]
  simp only [List.forall_mem_append]
  refine ⟨⟨⟨⟨?_, ?_⟩, ?_⟩, referenced⟩, children⟩
  · rw [Assembly.hidden]
    split
    · exact hiddenEntries_balanced named free
    · exact List.forall_mem_nil _
  · intro entry member
    obtain ⟨field, listed, made⟩ := (mem_of_mapM assembly.plainMade entry).mp member
    obtain ⟨names, expressions⟩ := plain.field listed
    exact nativeEntry_balanced free names expressions made
  · intro entry member
    obtain ⟨join, listed, inside⟩ := List.mem_flatMap.mp member
    exact (inlined join listed).entries entry inside

omit plain

theorem Assembly.sources_balanced {embedding : Embedding}
    (assembly : Assembly compiler spec embedding location)
    (inlined : ∀ join ∈ assembly.inlined, join.2.Balanced) :
    ∀ source ∈ assembly.sources, Text.Balanced source := by
  have named := parenFree_of_findRelation stored assembly.found
  have free : ParenFree assembly.aliasName := parenFree_ownAlias named embedding
  rw [Assembly.sources]
  refine List.forall_mem_cons.mpr ⟨?_, ?_⟩
  · exact (((parenFree_sourceName named).append (by decide)).append free).balanced
  · intro source member
    obtain ⟨join, listed, inside⟩ := List.mem_flatMap.mp member
    exact (inlined join listed).sources source inside

omit stored

theorem Compiler.writesBalanced (stored : ∀ name ∈ compiler.catalog.names, ParenFree name)
    (spec : TableSpec) (plain : spec.Plain) : compiler.WritesBalanced spec := by
  induction spec using TableSpec.nested_induction with
  | step spec inlined referenced collected =>
      intro embedding location query outer compiled
      obtain ⟨assembly, aliased, -, entries, sources, -⟩ := Compiler.baseQuery_ok compiled
      obtain ⟨conditions, ordering⟩ := Compiler.baseQuery_clauses compiled
      have named := parenFree_of_findRelation stored assembly.found
      have free : ParenFree assembly.aliasName := parenFree_ownAlias named embedding
      have inlinedParts := inlined_balanced stored plain free
        (by simp +contextual [TableSpec.related]) inlined assembly.inlinedMade
      have objects := referencedEntries_balanced stored plain free
        (by simp +contextual [TableSpec.related]) referenced assembly.referencedMade
      have arrays := childEntries_balanced stored plain free
        (by simp +contextual [TableSpec.related]) collected assembly.childrenMade
      refine ⟨aliased ▸ free, ?_, ?_, ?_, ?_⟩
      · rw [entries]
        exact assembly.entries_balanced stored plain inlinedParts objects arrays
      · rw [sources]
        exact assembly.sources_balanced stored inlinedParts
      · rw [conditions, aliased]
        exact Compiler.rowConditions_balanced free outer fun _ => plain.condition
      · rw [ordering, aliased]
        intro order written
        obtain ⟨text, stated, rfl⟩ := Option.map_eq_some_iff.mp written
        exact (outer.orderBy text stated).replace (by decide) free

end Induction

/-- The fragments of SQL that a query states. -/
def QuerySpec.fragments (query : QuerySpec) : List String :=
  query.tableSpec.fragments ++ query.orderBy.toList

/-- The parentheses of a generated text match, in every representation of a query, if those of each
stated fragment of SQL do and no name has any. -/
theorem querySql_balanced {compiler : Compiler} {query : QuerySpec}
    {representation : Representation} {sql : String}
    (names : ∀ name ∈ compiler.catalog.names ++ query.tableSpec.names, ParenFree name)
    (fragments : ∀ fragment ∈ query.fragments, Text.Balanced fragment)
    (compiled : compiler.querySql query representation = .ok sql) : Text.Balanced sql := by
  obtain ⟨stored, specNames⟩ := List.forall_mem_append.mp names
  obtain ⟨specFragments, orders⟩ := List.forall_mem_append.mp fragments
  have plain : query.tableSpec.Plain := ⟨specNames, specFragments⟩
  have ordered : ∀ order ∈ query.orderBy, Text.Balanced order := fun order stated =>
    orders order (Option.mem_toList.mpr stated)
  have outermost (exportsKey : Bool) : Embedding.Balanced { exportsKey } :=
    ⟨by rintro _ ⟨⟩, by rintro _ ⟨⟩, by rintro _ ⟨⟩⟩
  unfold Compiler.querySql at compiled
  dsimp only at compiled
  split at compiled
  · cases compiled
  cases representation with
  | columnRows =>
      obtain ⟨base, made, compiled⟩ := ok_of_bind compiled
      have outer : Embedding.Balanced { orderBy := query.orderBy } :=
        ⟨by rintro _ ⟨⟩, by rintro _ ⟨⟩, ordered⟩
      have balanced := compiler.sql_balanced (Compiler.writesBalanced stored _ plain outer made)
      cases compiled
      split
      · exact balanced.append (by decide)
      · exact balanced
  | objectRows =>
      obtain ⟨base, made, compiled⟩ := ok_of_bind compiled
      have balanced := Compiler.writesBalanced stored _ plain (outermost false) made
      cases compiled
      exact Compiler.objectRowsSql_balanced plain.table balanced ordered
  | arrayRow =>
      obtain ⟨relation, found, compiled⟩ := ok_of_bind compiled
      obtain ⟨base, made, compiled⟩ := ok_of_bind compiled
      have balanced := Compiler.writesBalanced stored _ plain (outermost _) made
      have named := parenFree_of_findRelation stored found
      exact Compiler.arrayRowSql_balanced plain.table balanced
        (Compiler.arrayOrder_balanced named ordered) compiled

namespace Shop

def filteredOrders : QuerySpec :=
  { name := "filtered orders"
    tableSpec :=
      { orders with
        fields := [{ expression := some "coalesce(@.seller_id, (0))", aliasMark := some "@"
                     property := some "soldBy" }]
        childCollections :=
          [{ skus with filter := some "$$.sku in (1, 2)", orderBy := some "lower($$.sku)" }]
        condition := some { sql := "($$.id) > (0)" } }
    orderBy := some "upper($$.id)" }

end Shop

theorem querySql_balanced_shop :
    (∀ name ∈ Shop.compiler.catalog.names ++ Shop.filteredOrders.tableSpec.names, ParenFree name) ∧
      (∀ fragment ∈ Shop.filteredOrders.fragments, Text.Balanced fragment) ∧
      Shop.filteredOrders.fragments =
        ["coalesce(@.seller_id, (0))", "($$.id) > (0)", "$$.sku in (1, 2)", "lower($$.sku)",
          "upper($$.id)"] ∧
      ∃ sql, Shop.compiler.querySql Shop.filteredOrders .objectRows = .ok sql ∧
        Text.Balanced sql := by
  have plain : (∀ name ∈ Shop.compiler.catalog.names ++ Shop.filteredOrders.tableSpec.names,
        ParenFree name) ∧
      (∀ fragment ∈ Shop.filteredOrders.fragments, Text.Balanced fragment) ∧
      (Shop.compiler.querySql Shop.filteredOrders .objectRows).isOk = true := by
    decide +kernel
  obtain ⟨names, fragments, accepted⟩ := plain
  obtain ⟨sql, compiled⟩ := exists_of_isOk accepted
  exact ⟨names, fragments, rfl, sql, compiled, querySql_balanced names fragments compiled⟩

end NestedQuery

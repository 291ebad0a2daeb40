import NestedQuery.Proofs.Query.Assembly
import NestedQuery.Proofs.Text.Layout

/-! Indentation is only indentation. Two compilers that differ in nothing but the number of spaces
by which they indent fail with the same errors, and where they succeed their texts differ only in
the spaces at the start of lines, through every nesting. -/

namespace NestedQuery

open NestedQuery.Text

namespace Text

/-- The texts have the same lines also where they follow another text in its last line. -/
def SameAnywhere (first second : String) : Prop :=
  ∀ before, SameLines (before ++ first) (before ++ second)

namespace SameAnywhere

variable {first second : String}

theorem refl (text : String) : SameAnywhere text text := fun _ => .refl _

theorem sameLines (same : SameAnywhere first second) : SameLines first second := by
  simpa using same ""

theorem append (same : SameAnywhere first second) (text : String) :
    SameAnywhere (first ++ text) (second ++ text) := by
  intro before
  rw [← String.append_assoc, ← String.append_assoc]
  exact (same before).append text

theorem after (same : SameAnywhere first second) (text : String) :
    SameAnywhere (text ++ first) (text ++ second) := by
  intro before
  rw [← String.append_assoc, ← String.append_assoc]
  exact same (before ++ text)

theorem line (same : SameAnywhere first second) {other another : String}
    (rest : SameLines other another) :
    SameAnywhere (first ++ "\n" ++ other) (second ++ "\n" ++ another) := by
  intro before
  simp only [← String.append_assoc]
  exact (same before).line rest

theorem newLine (same : SameLines first second) (start : String) (ends : EndsLine start) :
    SameAnywhere (start ++ first) (start ++ second) := by
  intro before
  rw [← String.append_assoc, ← String.append_assoc]
  exact (SameLines.refl before).lineAfter start ends same

end SameAnywhere

theorem SameLines.appendBoth {first second other another : String} (same : SameLines first second)
    (rest : SameAnywhere other another) : SameLines (first ++ other) (second ++ another) :=
  (same.append other).trans (rest second)

end Text

def SelectEntry.unindented (entry : SelectEntry) : SelectEntry :=
  { entry with expression := Text.unindented entry.expression }

def QueryParts.unindented (parts : QueryParts) : QueryParts :=
  { parts with
    entries := parts.entries.map SelectEntry.unindented
    sources := parts.sources.map Text.unindented }

def BaseQuery.unindented (query : BaseQuery) : QueryParts := query.parts.unindented

theorem QueryParts.unindented_merge (parts added : QueryParts) :
    (parts.merge added).unindented = parts.unindented.merge added.unindented := by
  simp only [QueryParts.merge, QueryParts.unindented, List.map_append]
  rfl

theorem QueryParts.unindented_completed (parts : QueryParts) (objects arrays : List SelectEntry)
    (conditions : List String) (orderBy : Option String) :
    (((parts.addEntries (objects ++ arrays)).addConditions conditions).setOrder
        orderBy).unindented =
      ((parts.unindented.addEntries (objects.map SelectEntry.unindented ++
        arrays.map SelectEntry.unindented)).addConditions conditions).setOrder orderBy := by
  simp [QueryParts.unindented, QueryParts.setOrder]

theorem SelectEntry.sql_sameLines {entry other : SelectEntry}
    (same : entry.unindented = other.unindented) : SameLines entry.sql other.sql := by
  obtain ⟨expression, outputName, origin, jsonValued, comment⟩ := entry
  obtain ⟨otherExpression, _, _, _, _⟩ := other
  simp only [SelectEntry.unindented, SelectEntry.mk.injEq] at same
  obtain ⟨sameExpression, rfl, rfl, rfl, rfl⟩ := same
  have column (separator : String) : SameLines (expression ++ separator ++ outputName)
      (otherExpression ++ separator ++ outputName) :=
    (SameLines.append sameExpression separator).append outputName
  unfold SelectEntry.sql
  cases comment with
  | none => exact column _
  | some comment => exact (SameLines.refl comment).line (column _)

theorem QueryParts.sql_sameLines {parts other : QueryParts}
    (same : parts.unindented = other.unindented) (spaces otherSpaces : Nat) :
    SameLines (parts.sql spaces) (other.sql otherSpaces) := by
  obtain ⟨entries, sources, conditions, orderBy, aliases⟩ := parts
  obtain ⟨otherEntries, otherSources, _, _, _⟩ := other
  simp only [QueryParts.unindented, QueryParts.mk.injEq] at same
  obtain ⟨sameEntries, sameSources, rfl, rfl, rfl⟩ := same
  have columns : SameLines (",\n".intercalate (entries.map SelectEntry.sql))
      (",\n".intercalate (otherEntries.map SelectEntry.sql)) := by
    apply SameLines.joined (by rfl)
    rw [List.forall₂_map_left_iff, List.forall₂_map_right_iff]
    exact forall₂_of_map_eq sameEntries fun _ _ => SelectEntry.sql_sameLines
  have tables : SameLines (joinLines sources) (joinLines otherSources) :=
    .joined (by rfl) (forall₂_of_map_eq sameSources fun _ _ same => same)
  have restriction : SameAnywhere
      (if conditions.isEmpty then ""
        else "\nwhere (\n" ++ indent spaces (" and\n".intercalate conditions) ++ "\n)")
      (if conditions.isEmpty then ""
        else "\nwhere (\n" ++ indent otherSpaces (" and\n".intercalate conditions) ++ "\n)") := by
    split
    · exact .refl _
    · exact (SameAnywhere.newLine ((SameLines.refl _).indent _ _) "\nwhere (\n" rfl).append _
  have start := (SameAnywhere.newLine (columns.indent spaces otherSpaces) "select\n" rfl).sameLines
  have sourced := start.lineAfter "\nfrom\n" rfl (tables.indent spaces otherSpaces)
  exact (sourced.appendBoth restriction).append _

theorem properties_eq {columns others : List SelectEntry}
    (same : columns.map SelectEntry.unindented = others.map SelectEntry.unindented)
    (dialect : Dialect) (aliasName : String) :
    columns.map (dialect.property aliasName) = others.map (dialect.property aliasName) := by
  have own (columns : List SelectEntry) : columns.map (dialect.property aliasName) =
      (columns.map SelectEntry.unindented).map (dialect.property aliasName) := by
    rw [List.map_map]
    rfl
  rw [own columns, own others, same]

theorem Dialect.rowObject_same {columns others : List SelectEntry}
    (same : columns.map SelectEntry.unindented = others.map SelectEntry.unindented)
    (dialect : Dialect) (aliasName : String) (spaces otherSpaces : Nat) :
    SameAnywhere (dialect.rowObject columns aliasName spaces)
      (dialect.rowObject others aliasName otherSpaces) := by
  have inner := (SameLines.refl
    (",\n".intercalate (others.map (dialect.property aliasName)))).indent spaces otherSpaces
  unfold Dialect.rowObject
  rw [properties_eq same]
  cases dialect with
  | postgres => exact (SameAnywhere.newLine inner "jsonb_build_object(\n" rfl).append _
  | oracle =>
      have opened := SameAnywhere.newLine inner "json_object(\n" rfl
      have returned := (SameLines.refl "returning clob").indent spaces otherSpaces
      exact (opened.line returned).append _

theorem Dialect.aggregate_same {value other : String} (same : SameAnywhere value other)
    (dialect : Dialect) (orderBy : Option String) (aliasName : String) :
    SameAnywhere (dialect.aggregate value orderBy aliasName)
      (dialect.aggregate other orderBy aliasName) := by
  unfold Dialect.aggregate
  cases dialect with
  | postgres => exact ((same.after _).append _).append _
  | oracle => exact ((same.after _).append _).append _

theorem BaseQuery.columns_unindented {query other : BaseQuery}
    (same : query.unindented = other.unindented) :
    query.columns.map SelectEntry.unindented = other.columns.map SelectEntry.unindented := by
  have own (query : BaseQuery) : query.columns.map SelectEntry.unindented =
      query.unindented.entries.filter fun entry => !entry.isHidden := by
    simp only [BaseQuery.columns, BaseQuery.unindented, QueryParts.unindented, List.filter_map]
    rfl
  rw [own query, own other, same]

def Compiler.indentedBy (compiler : Compiler) (spaces : Nat) : Compiler :=
  { compiler with options := { compiler.options with indent := spaces } }

namespace Compiler

variable {compiler : Compiler} {spaces otherSpaces : Nat} {query other : BaseQuery}

theorem indented_same {text another : String} (same : SameLines text another) :
    SameLines ((compiler.indentedBy spaces).indented text)
      ((compiler.indentedBy otherSpaces).indented another) :=
  same.indent spaces otherSpaces

theorem sql_same (same : query.unindented = other.unindented) :
    SameLines ((compiler.indentedBy spaces).sql query)
      ((compiler.indentedBy otherSpaces).sql other) :=
  QueryParts.sql_sameLines same spaces otherSpaces

theorem wrapped_same (what table : String) {value another : String}
    (sameValue : SameLines value another)
    (same : query.unindented = other.unindented) :
    SameLines ((compiler.indentedBy spaces).wrapped what table value query)
      ((compiler.indentedBy otherSpaces).wrapped what table another other) := by
  have padded := @indented_same compiler spaces otherSpaces
  have start := (SameAnywhere.newLine
    (padded (.refl ("-- " ++ what ++ " for table '" ++ table ++ "'"))) "select\n" rfl).sameLines
  have source := (start.line (padded sameValue)).lineAfter " json\nfrom (\n" rfl
    (padded (.refl ("-- base query for table '" ++ table ++ "'")))
  exact ((source.line (padded (sql_same same))).append _).append _

theorem objectRowsSql_same (table : String) (orderBy : Option String)
    (same : query.unindented = other.unindented) :
    SameLines ((compiler.indentedBy spaces).objectRowsSql table query orderBy)
      ((compiler.indentedBy otherSpaces).objectRowsSql table other orderBy) := by
  have object := Dialect.rowObject_same (BaseQuery.columns_unindented same) compiler.dialect
    wrapperAlias spaces otherSpaces
  exact (wrapped_same _ table object.sameLines same).append _

theorem arrayRowSql_same (table : String) (unwrap : Bool) (order : Option String)
    (location : Location) (same : query.unindented = other.unindented) :
    ((compiler.indentedBy spaces).arrayRowSql table query unwrap order location).map
        Text.unindented =
      ((compiler.indentedBy otherSpaces).arrayRowSql table other unwrap order location).map
        Text.unindented := by
  have columns := BaseQuery.columns_unindented same
  have made {value another : String} (sameValue : SameLines value another) :
      (Except.ok ((compiler.indentedBy spaces).wrapped "aggregated row objects builder" table value
        query)).map Text.unindented =
      (Except.ok ((compiler.indentedBy otherSpaces).wrapped "aggregated row objects builder" table
        another other) : Except SpecError String).map Text.unindented :=
    congrArg Except.ok (wrapped_same _ table sameValue same)
  unfold Compiler.arrayRowSql
  split
  · rcases here : query.columns with _ | ⟨column, _ | ⟨second, rest⟩⟩ <;>
      rcases there : other.columns with _ | ⟨otherColumn, _ | ⟨otherSecond, otherRest⟩⟩ <;>
      simp only [here, there, List.map_cons, List.map_nil, List.cons.injEq, reduceCtorEq,
        and_false, and_true] at columns
    · rfl
    · have value : compiler.dialect.columnValues column order wrapperAlias =
          compiler.dialect.columnValues otherColumn order wrapperAlias := by
        change compiler.dialect.columnValues column.unindented order wrapperAlias =
          compiler.dialect.columnValues otherColumn.unindented order wrapperAlias
        rw [columns]
      exact made (value ▸ SameLines.refl _)
    · -- Both have too many columns, and the error tells how many.
      have rests : rest.length = otherRest.length := by
        simpa using congrArg List.length columns.2.2
      simp only [List.length_cons, rests]
  · have objects := Dialect.rowObject_same columns compiler.dialect wrapperAlias spaces otherSpaces
    exact made (Dialect.aggregate_same objects compiler.dialect order wrapperAlias).sameLines

theorem inlineParts_unindented (table childAlias : String) {join otherJoin : InlineJoin}
    (sameAlias : join.aliasName = otherJoin.aliasName) (samePairs : join.pairs = otherJoin.pairs)
    (same : query.unindented = other.unindented) :
    ((compiler.indentedBy spaces).inlineParts table childAlias join query).unindented =
      ((compiler.indentedBy otherSpaces).inlineParts table childAlias otherJoin other).unindented :=
    by
  obtain ⟨aliasName, pairs, exported⟩ := join
  obtain ⟨_, _, otherExported⟩ := otherJoin
  dsimp only at sameAlias samePairs
  subst sameAlias samePairs
  have entries (columns : List SelectEntry) : inlineEntries table aliasName columns =
      inlineEntries table aliasName (columns.map SelectEntry.unindented) := by
    cases columns with
    | nil => rfl
    | cons first rest => simp [inlineEntries, SelectEntry.unindented]
  have derived : SameLines
      ((compiler.indentedBy spaces).indented ((compiler.indentedBy spaces).sql query))
      ((compiler.indentedBy otherSpaces).indented ((compiler.indentedBy otherSpaces).sql other)) :=
    indented_same (sql_same same)
  have source := (((((SameLines.refl ("-- parent table '" ++ table)).lineAfter
    "', joined for inlined fields\nleft join (\n" rfl derived).append "\n) ").append
      aliasName).append " on ")
  unfold Compiler.inlineParts QueryParts.unindented
  dsimp only
  rw [entries query.columns, entries other.columns, BaseQuery.columns_unindented same]
  simp only [List.map_cons, List.map_nil, QueryParts.mk.injEq, List.cons.injEq, true_and, and_true]
  exact source.append _

theorem repeatedName?_same (query other : BaseQuery)
    (same : query.unindented = other.unindented) :
    query.parts.repeatedName? = other.parts.repeatedName? := by
  have own (query : BaseQuery) : query.parts.repeatedName? = query.unindented.repeatedName? := by
    unfold QueryParts.repeatedName? BaseQuery.unindented QueryParts.unindented
    rw [List.map_map]
    rfl
  rw [own query, own other, same]

def SameBase (compiler : Compiler) (spaces otherSpaces : Nat) (spec : TableSpec) : Prop :=
  ∀ embedding location,
    ((compiler.indentedBy spaces).baseQuery spec embedding location).map BaseQuery.unindented =
      ((compiler.indentedBy otherSpaces).baseQuery spec embedding location).map
        BaseQuery.unindented

theorem inlineJoins_same (child : Relation) (childAlias : String) (location : Location)
    {parts otherParts : QueryParts} (same : parts.unindented = otherParts.unindented)
    (parents : List InlineParent)
    (below : ∀ parent ∈ parents, compiler.SameBase spaces otherSpaces parent.spec) :
    ((compiler.indentedBy spaces).inlineJoins child childAlias location parts parents).map
        (·.2.unindented) =
      ((compiler.indentedBy otherSpaces).inlineJoins child childAlias location otherParts
        parents).map (·.2.unindented) := by
  induction parents generalizing parts otherParts with
  | nil =>
      rw [Compiler.inlineJoins, Compiler.inlineJoins]
      exact congrArg Except.ok same
  | cons parent rest ih =>
      obtain ⟨nested, later⟩ := List.forall_mem_cons.mp below
      have scope : Naming.fresh wrapperAlias "" parts.aliases =
          Naming.fresh wrapperAlias "" otherParts.aliases :=
        congrArg (fun parts => Naming.fresh wrapperAlias "" parts.aliases) same
      obtain ⟨spec, link, optional⟩ := parent
      rw [Compiler.inlineJoins, Compiler.inlineJoins]
      refine map_bind_same fun target => ?_
      refine map_bind_same fun pairs => ?_
      refine map_bind_eq (nested _ _) fun query other sameQuery => ?_
      refine map_bind_eq (ih ?_ later) fun joined otherJoined sameJoined => ?_
      · rw [QueryParts.unindented_merge, QueryParts.unindented_merge]
        exact congrArg₂ QueryParts.merge same
          (inlineParts_unindented spec.table childAlias scope rfl sameQuery)
      · exact congrArg Except.ok sameJoined

theorem nestedEntry_same (start name : String) (origin : Origin) {nested another : String}
    (same : SameLines nested another) :
    (SelectEntry.make (start ++ "'\n(\n" ++ (compiler.indentedBy spaces).indented nested ++ "\n)")
      name origin).unindented =
    (SelectEntry.make
      (start ++ "'\n(\n" ++ (compiler.indentedBy otherSpaces).indented another ++ "\n)")
      name origin).unindented := by
  have text := ((SameLines.refl start).lineAfter "'\n(\n" rfl
    (same.indent spaces otherSpaces)).append "\n)"
  simp only [SelectEntry.unindented, SelectEntry.make, SelectEntry.mk.injEq, and_true]
  exact text

theorem referencedEntries_same (child : Relation) (childAlias : String) (location : Location)
    (parents : List ReferencedParent)
    (below : ∀ parent ∈ parents, compiler.SameBase spaces otherSpaces parent.spec) :
    ((compiler.indentedBy spaces).referencedEntries child childAlias location parents).map
        (List.map SelectEntry.unindented) =
      ((compiler.indentedBy otherSpaces).referencedEntries child childAlias location parents).map
        (List.map SelectEntry.unindented) := by
  induction parents with
  | nil => rw [Compiler.referencedEntries, Compiler.referencedEntries]
  | cons parent rest ih =>
      have nested := below parent List.mem_cons_self
      have others := ih fun other member => below other (List.mem_cons_of_mem _ member)
      obtain ⟨name, spec, link, optional⟩ := parent
      rw [Compiler.referencedEntries, Compiler.referencedEntries]
      refine map_bind_same fun target => ?_
      refine map_bind_same fun pairs => ?_
      refine map_bind_eq (nested _ _) fun query other same => ?_
      refine map_bind_eq others fun entries otherEntries sameEntries => ?_
      exact congrArg Except.ok (congrArg₂ List.cons
        (nestedEntry_same _ _ _ (objectRowsSql_same spec.table none same)) sameEntries)

theorem childEntries_same (parent : Relation) (parentAlias : String) (location : Location)
    (collections : List ChildCollection)
    (below : ∀ collection ∈ collections,
      compiler.SameBase spaces otherSpaces collection.spec) :
    ((compiler.indentedBy spaces).childEntries parent parentAlias location collections).map
        (List.map SelectEntry.unindented) =
      ((compiler.indentedBy otherSpaces).childEntries parent parentAlias location collections).map
        (List.map SelectEntry.unindented) := by
  induction collections with
  | nil => rw [Compiler.childEntries, Compiler.childEntries]
  | cons collection rest ih =>
      have nested := below collection List.mem_cons_self
      have others := ih fun other member => below other (List.mem_cons_of_mem _ member)
      obtain ⟨name, spec, link, filter, unwrap, orderBy⟩ := collection
      rw [Compiler.childEntries, Compiler.childEntries]
      refine map_bind_same fun target => ?_
      refine map_bind_same fun pairs => ?_
      refine map_bind_eq (nested _ _) fun query other same => ?_
      refine map_bind_eq (arrayRowSql_same _ _ _ _ same) fun array otherArray sameArray => ?_
      refine map_bind_eq others fun entries otherEntries sameEntries => ?_
      exact congrArg Except.ok (congrArg₂ List.cons (nestedEntry_same _ _ _ sameArray) sameEntries)

theorem baseQuery_same (spec : TableSpec) : compiler.SameBase spaces otherSpaces spec := by
  induction spec using TableSpec.nested_induction with
  | step spec inlined referenced collected =>
      intro embedding location
      obtain ⟨table, fields, inlineParents, referencedParents, childCollections, condition⟩ := spec
      rw [Compiler.baseQuery, Compiler.baseQuery]
      refine map_bind_same fun relation => ?_
      refine map_bind_same fun plain => ?_
      refine map_bind_eq (inlineJoins_same relation _ location rfl inlineParents inlined)
        fun joined otherJoined sameJoined => ?_
      refine map_bind_eq (referencedEntries_same relation _ location referencedParents referenced)
        fun objects otherObjects sameObjects => ?_
      refine map_bind_eq (childEntries_same relation _ location childCollections collected)
        fun arrays otherArrays sameArrays => ?_
      apply finished_eq repeatedName?_same
      unfold BaseQuery.unindented
      rw [QueryParts.unindented_completed, QueryParts.unindented_completed, sameJoined, sameObjects,
        sameArrays]
      rfl

end Compiler

/-- Of the number of spaces by which a text is indented, only the spaces before its lines tell. -/
theorem indentation_only (compiler : Compiler) (spaces otherSpaces : Nat) (query : QuerySpec)
    (representation : Representation) :
    ((compiler.indentedBy spaces).querySql query representation).map Text.unindented =
      ((compiler.indentedBy otherSpaces).querySql query representation).map Text.unindented := by
  unfold Compiler.querySql
  split
  · rfl
  · cases representation with
    | columnRows =>
        refine map_bind_eq (Compiler.baseQuery_same _ _ _) fun base other same => ?_
        refine congrArg Except.ok ?_
        split
        · exact (Compiler.sql_same same).append _
        · exact Compiler.sql_same same
    | objectRows =>
        refine map_bind_eq (Compiler.baseQuery_same _ _ _) fun base other same => ?_
        exact congrArg Except.ok (Compiler.objectRowsSql_same _ _ same)
    | arrayRow =>
        refine map_bind_same fun relation => ?_
        refine map_bind_eq (Compiler.baseQuery_same _ _ _) fun base other same => ?_
        exact Compiler.arrayRowSql_same _ _ _ _ same

end NestedQuery

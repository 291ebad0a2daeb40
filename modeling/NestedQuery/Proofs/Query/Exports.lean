import NestedQuery.Proofs.Query.Lockstep

/-! The columns by which inlined parents are joined. A derived table exports the primary key of its
table under marked names, and the join refers to marked names of whatever columns the link equates.
Both are the same columns only as far as the link leads to the primary key. -/

namespace NestedQuery

/-- The column of a derived table that a join refers to for the parent's side of a pair. -/
def Compiler.joinColumn (compiler : Compiler) (pair : KeyPair) : String :=
  compiler.catalog.quote (hiddenMark ++ pair.parentField)

theorem CaseRule.quote_marked (rule : CaseRule) (name : String) :
    rule.quote (hiddenMark ++ name) = "\"" ++ (hiddenMark ++ name) ++ "\"" := by
  have chars : (hiddenMark ++ name).toList = '_' :: name.toList := by
    simp [hiddenMark, String.toList_append]
  have unquoted : Naming.isQuoted (hiddenMark ++ name) = false := by
    simp [Naming.isQuoted, Naming.isQuotedChars, chars]
  have marked : rule.isBare (hiddenMark ++ name).toList = false := by
    simp [CaseRule.isBare, chars]
  rw [CaseRule.quote, unquoted, marked]
  rfl

theorem CaseRule.quote_marked_inj (rule : CaseRule) {first second : String} :
    rule.quote (hiddenMark ++ first) = rule.quote (hiddenMark ++ second) ↔ first = second := by
  constructor
  · intro same
    rw [rule.quote_marked, rule.quote_marked] at same
    have chars := congrArg String.toList same
    rw [← String.toList_inj]
    simpa [String.toList_append] using chars
  · rintro rfl
    rfl

theorem Compiler.joinColumn_mem_hidden_iff (compiler : Compiler) (relation : Relation)
    (aliasName : String) (pair : KeyPair) :
    compiler.joinColumn pair ∈
        (compiler.hiddenEntries relation aliasName).map SelectEntry.outputName ↔
      pair.parentField ∈ relation.primaryKey.map (·.name) := by
  have names : (compiler.hiddenEntries relation aliasName).map SelectEntry.outputName =
      relation.primaryKey.map compiler.hiddenName := by
    simp [Compiler.hiddenEntries, Function.comp_def]
  rw [names]
  constructor
  · intro member
    obtain ⟨field, inKey, same⟩ := List.mem_map.mp member
    rw [← (compiler.catalog.caseRule.quote_marked_inj).mp same]
    exact List.mem_map_of_mem inKey
  · intro member
    obtain ⟨field, inKey, same⟩ := List.mem_map.mp member
    rw [Compiler.joinColumn, ← same]
    exact List.mem_map_of_mem inKey

theorem Assembly.hidden_entries {compiler : Compiler} {spec : TableSpec} {embedding : Embedding}
    {location : Location} (assembly : Assembly compiler spec embedding location) :
    assembly.entries.filter SelectEntry.isHidden = assembly.hidden := by
  have none : (assembly.plain ++ assembly.inlined.flatMap (·.2.entries) ++ assembly.referenced ++
      assembly.children).filter SelectEntry.isHidden = [] := by
    rw [List.filter_eq_nil_iff]
    intro entry member
    simp [assembly.noneHidden entry member]
  have all : assembly.hidden.filter SelectEntry.isHidden = assembly.hidden := by
    rw [List.filter_eq_self]
    intro entry member
    unfold Assembly.hidden Compiler.hiddenEntries at member
    split at member
    · obtain ⟨field, _, rfl⟩ := List.mem_map.mp member
      rfl
    · cases member
  rw [assembly.entries_eq, List.filter_append, all, none, List.append_nil]

theorem hiddenKey_of_exportsKey {compiler : Compiler} {spec : TableSpec} {embedding : Embedding}
    {location : Location} {query : BaseQuery} {relation : Relation}
    (compiled : compiler.baseQuery spec embedding location = .ok query)
    (found : compiler.findRelation spec.table location = .ok relation)
    (exports : embedding.exportsKey = true) :
    query.hiddenKey = compiler.hiddenEntries relation query.aliasName := by
  obtain ⟨assembly, ownAlias, _, entries, _, _⟩ := Compiler.baseQuery_ok compiled
  have sameRelation : assembly.relation = relation :=
    Except.ok.inj (assembly.found.symm.trans found)
  rw [BaseQuery.hiddenKey, entries, assembly.hidden_entries, Assembly.hidden, if_pos exports,
    ownAlias, sameRelation]

/-- How an inlined parent is joined: from its link come the equated columns, from its own base query
the exported ones, and the source states the equations between them. -/
structure JoinsParent (compiler : Compiler) (query : BaseQuery) (child : Relation)
    (location : Location) (parent : InlineParent) (join : InlineJoin) (target : Relation)
    (derived : BaseQuery) : Prop where
  found : compiler.findRelation parent.spec.table location = .ok target
  joined : compiler.catalog.joinPairs parent.link child target location = .ok join.pairs
  compiled : compiler.baseQuery parent.spec { exportsKey := true } location = .ok derived
  exported : join.exported = derived.hiddenKey
  source : "-- parent table '" ++ parent.spec.table ++
    "', joined for inlined fields\nleft join (\n" ++ compiler.indented (compiler.sql derived) ++
    "\n) " ++ join.aliasName ++ " on " ++ " and ".intercalate (join.pairs.map fun pair =>
      query.aliasName ++ "." ++ compiler.catalog.quote pair.childField ++ " = " ++
        join.aliasName ++ "." ++ compiler.joinColumn pair) ∈ query.parts.sources

theorem inlined_forall₂ {compiler : Compiler} {outer : Relation} {outerAlias : String}
    {location : Location} {aliases : List String} {parents : List InlineParent}
    {joins all : List (InlineJoin × QueryParts)}
    (made : Inlined compiler outer outerAlias location aliases parents joins)
    (kept : joins ⊆ all) :
    List.Forall₂ (fun parent join => join ∈ all ∧
      ∃ (nested : RelatedQuery compiler outer outerAlias location (.inlineParent parent))
        (scope : List String), join = nested.inlined scope) parents joins := by
  induction parents generalizing aliases joins with
  | nil =>
      cases made
      exact .nil
  | cons parent rest ih =>
      obtain _ | ⟨nested, othersMade⟩ := made
      obtain ⟨first, others⟩ := List.cons_subset.mp kept
      exact .cons ⟨first, nested, aliases, rfl⟩ (ih othersMade others)

/-- Every inlined parent is joined on columns of the derived table around its base query, and such a
column is exported if and only if it belongs to the primary key of the parent's table. -/
theorem join_columns_exported_iff (compiler : Compiler) (spec : TableSpec)
    (embedding : Embedding) (location : Location) (query : BaseQuery)
    (compiled : compiler.baseQuery spec embedding location = .ok query) :
    ∃ child, compiler.findRelation spec.table location = .ok child ∧
      List.Forall₂ (fun parent join => ∃ target derived,
        JoinsParent compiler query child
          (location.enter (Related.inlineParent parent).describe) parent join target derived ∧
        ∀ pair ∈ join.pairs,
          (compiler.joinColumn pair ∈ derived.hiddenKey.map SelectEntry.outputName ↔
            pair.parentField ∈ target.primaryKey.map (·.name)))
        spec.inlineParents query.joins := by
  obtain ⟨assembly, ownAlias, joins, _, sources, _⟩ := Compiler.baseQuery_ok compiled
  refine ⟨assembly.relation, assembly.found, ?_⟩
  rw [joins, List.forall₂_map_right_iff]
  refine (inlined_forall₂ assembly.inlinedMade (List.Subset.refl _)).imp ?_
  rintro parent join ⟨member, nested, scope, rfl⟩
  refine ⟨nested.target, nested.query,
    ⟨nested.found, nested.joined, nested.compiled, rfl, ?_⟩, ?_⟩
  · rw [sources, ownAlias]
    refine List.mem_cons_of_mem _ (List.mem_flatMap.mpr ⟨_, member, ?_⟩)
    exact List.mem_singleton.mpr rfl
  · intro pair _
    rw [hiddenKey_of_exportsKey nested.compiled nested.found rfl]
    exact compiler.joinColumn_mem_hidden_iff nested.target nested.query.aliasName pair

/-! Cities refer to their country by its primary key and by its code. -/

namespace Atlas

def country : Relation :=
  { id := ⟨none, "country"⟩, fields := [Shop.keyField, Shop.dataField "code" false] }

def city : Relation :=
  { id := ⟨none, "city"⟩
    fields := [Shop.keyField, Shop.dataField "country_code" false,
      Shop.dataField "country_id" false] }

def compiler : Compiler where
  catalog :=
    { schemaName := none
      relations := [city, country]
      foreignKeys :=
        [{ child := city.id, parent := country.id, pairs := [⟨"country_code", "code"⟩] },
         { child := city.id, parent := country.id, pairs := [⟨"country_id", "id"⟩] }]
      caseRule := .storedLower
      productName := "PostgreSQL"
      productVersion := "" }
  dialect := .postgres
  options := {}

def inCountry (link : Link) : InlineParent :=
  { spec := { table := "country", fields := [{ field := some "code" }] }, link }

def cities (link : Link) : TableSpec :=
  { table := "city", fields := [{ field := some "id" }], inlineParents := [inCountry link] }

def byKey : Link := { foreignKeyFields := some ["country_id"] }

def byCode : Link := { foreignKeyFields := some ["country_code"] }

def customByCode : Link := { customJoin := some [⟨"country_code", "code"⟩] }

def customByQuotedKey : Link := { customJoin := some [⟨"country_id", "\"id\""⟩] }

def compiled (link : Link) : Except SpecError BaseQuery :=
  compiler.baseQuery (cities link) {} { query := "cities" }

end Atlas

theorem join_columns_exported_iff_atlas :
    ∃ query join, Atlas.compiled Atlas.byKey = .ok query ∧ query.joins = [join] ∧
      join.pairs = [⟨"country_id", "id"⟩] ∧
      Atlas.compiler.joinColumn ⟨"country_id", "id"⟩ ∈
        join.exported.map SelectEntry.outputName := by
  have computed : (Atlas.compiled Atlas.byKey).map (fun query => query.joins.map (·.pairs)) =
      .ok [[⟨"country_id", "id"⟩]] := by decide +kernel
  obtain ⟨query, compiled, pairs⟩ := ok_of_map computed
  obtain ⟨join, only, joinPairs⟩ := List.map_eq_singleton_iff.mp pairs
  obtain ⟨child, _, related⟩ := join_columns_exported_iff Atlas.compiler (Atlas.cities Atlas.byKey)
    {} { query := "cities" } query compiled
  rw [only] at related
  obtain ⟨⟨target, derived, joins, exported⟩, _⟩ := List.forall₂_cons.mp related
  have found : Atlas.compiler.findRelation "country" (Location.enter { query := "cities" }
      (Related.inlineParent (Atlas.inCountry Atlas.byKey)).describe) = .ok Atlas.country := by
    decide +kernel
  have sameTarget : target = Atlas.country := Except.ok.inj (joins.found.symm.trans found)
  refine ⟨query, join, compiled, only, joinPairs, ?_⟩
  rw [joins.exported]
  refine (exported _ (by simp [joinPairs])).mpr ?_
  rw [sameTarget]
  decide +kernel

def Atlas.JoinsOnMissing (link : Link) : Prop :=
  ∃ query, compiled link = .ok query ∧ ∃ join ∈ query.joins, ∃ pair ∈ join.pairs,
    compiler.joinColumn pair ∉ join.exported.map SelectEntry.outputName

/-- A join can refer to columns that its derived table lacks: where a foreign key or a custom join
leads to other columns than the primary key, and where a custom join states the key in quotes. -/
theorem join_columns_not_exported :
    Atlas.JoinsOnMissing Atlas.byCode ∧ Atlas.JoinsOnMissing Atlas.customByCode ∧
      Atlas.JoinsOnMissing Atlas.customByQuotedKey := by
  have joins {link : Link} (found : (Atlas.compiled link).toOption.any (fun query =>
      query.joins.any fun join => join.pairs.any fun pair =>
        Atlas.compiler.joinColumn pair ∉ join.exported.map SelectEntry.outputName) = true) :
      Atlas.JoinsOnMissing link := by
    unfold Atlas.JoinsOnMissing
    cases compiled : Atlas.compiled link with
    | error cause => simp [compiled, Except.toOption] at found
    | ok query =>
        simp only [compiled, Except.toOption, Option.any_some, List.any_eq_true,
          decide_eq_true_eq] at found
        exact ⟨query, rfl, found⟩
  refine ⟨joins ?_, joins ?_, joins ?_⟩
  · decide +kernel
  · decide +kernel
  · decide +kernel

end NestedQuery

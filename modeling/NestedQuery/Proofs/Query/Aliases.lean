import NestedQuery.Proofs.Query.Assembly

/-! The aliases that a base query binds. In every query nested in another one, at any depth, the
aliases of the sources differ from each other and from the alias of the outer table to whose row the
query is restricted. -/

namespace NestedQuery

/-- A base query to be made: of which table, how it is embedded, and where it stands. -/
structure QueryCall where
  spec : TableSpec
  embedding : Embedding
  location : Location

def QueryCall.run (call : QueryCall) (compiler : Compiler) : Except SpecError BaseQuery :=
  compiler.baseQuery call.spec call.embedding call.location

def QueryCall.enter (call : QueryCall) (related : Related) (outerAlias : String)
    (target : Relation) (pairs : List KeyPair) : QueryCall where
  spec := related.spec
  embedding := related.embedding outerAlias target pairs
  location := call.location.enter related.describe

/-- The base queries that are part of a base query: the query itself, and those of the tables
related to it, with their own parts. -/
inductive PartOf (compiler : Compiler) : QueryCall → QueryCall → Prop
  | self (call) : PartOf compiler call call
  | related {call inner : QueryCall} {outer : BaseQuery} {relation target : Relation}
      {related : Related} {pairs : List KeyPair} :
      call.run compiler = .ok outer →
      compiler.findRelation call.spec.table call.location = .ok relation →
      related ∈ call.spec.related →
      compiler.findRelation related.spec.table (call.location.enter related.describe) =
        .ok target →
      compiler.catalog.joinPairs related.link (related.childSide relation target)
        (related.parentSide relation target) (call.location.enter related.describe) = .ok pairs →
      PartOf compiler inner (call.enter related outer.aliasName target pairs) →
      PartOf compiler inner call

/-- A source of a query gives its rows the alias: a table, or a joined query in parentheses. -/
def BindsAlias (source aliasName : String) : Prop :=
  (∃ table, source = table ++ " " ++ aliasName) ∨
    ∃ derived condition, source = derived ++ "\n) " ++ aliasName ++ " on " ++ condition

section

variable {compiler : Compiler} {outer : Relation} {outerAlias : String} {location : Location}

theorem inlined_scope_nodup {parents : List InlineParent} {aliases : List String}
    {joins : List (InlineJoin × QueryParts)} (distinct : aliases.Nodup)
    (made : Inlined compiler outer outerAlias location aliases parents joins) :
    (aliases ++ joins.map (·.1.aliasName)).Nodup := by
  induction parents generalizing aliases joins with
  | nil =>
      cases made
      simpa using distinct
  | cons parent rest ih =>
      obtain _ | ⟨nested, othersMade⟩ := made
      have extended : (aliases ++ [Naming.fresh wrapperAlias "" aliases]).Nodup := by
        rw [List.nodup_append_comm, List.singleton_append, List.nodup_cons]
        exact ⟨Naming.fresh_not_mem _ _ _, distinct⟩
      have scope := ih extended othersMade
      rw [List.append_assoc] at scope
      exact scope

theorem inlined_bindAliases {parents : List InlineParent} {aliases : List String}
    {joins : List (InlineJoin × QueryParts)}
    (made : Inlined compiler outer outerAlias location aliases parents joins) :
    List.Forall₂ BindsAlias (joins.flatMap (·.2.sources)) (joins.map (·.1.aliasName)) := by
  induction parents generalizing aliases joins with
  | nil =>
      cases made
      exact .nil
  | cons parent rest ih =>
      obtain _ | ⟨nested, othersMade⟩ := made
      exact .cons (.inr ⟨_, _, rfl⟩) (ih othersMade)

end

theorem scope_nodup {compiler : Compiler} {spec : TableSpec} {embedding : Embedding}
    {location : Location} {query : BaseQuery}
    (compiled : compiler.baseQuery spec embedding location = .ok query) :
    (embedding.outerAliases ++ query.boundAliases).Nodup := by
  obtain ⟨assembly, ownAlias, joins, _, _, _⟩ := Compiler.baseQuery_ok compiled
  have start : (embedding.outerAliases ++ [assembly.aliasName]).Nodup := by
    have outerDistinct : embedding.outerAliases.Nodup := by
      unfold Embedding.outerAliases
      cases embedding.correlation <;> simp
    rw [List.nodup_append_comm, List.singleton_append, List.nodup_cons]
    exact ⟨embedding.ownAlias_not_mem assembly.relation, outerDistinct⟩
  have scope := inlined_scope_nodup start assembly.inlinedMade
  unfold BaseQuery.boundAliases
  rw [ownAlias, joins, List.map_map]
  simpa [Function.comp_def] using scope

theorem sources_bindAliases {compiler : Compiler} {spec : TableSpec} {embedding : Embedding}
    {location : Location} {query : BaseQuery}
    (compiled : compiler.baseQuery spec embedding location = .ok query) :
    List.Forall₂ BindsAlias query.parts.sources query.boundAliases := by
  obtain ⟨assembly, ownAlias, joins, _, sources, _⟩ := Compiler.baseQuery_ok compiled
  unfold BaseQuery.boundAliases
  rw [sources, ownAlias, joins, List.map_map]
  exact .cons (.inl ⟨_, rfl⟩) (inlined_bindAliases assembly.inlinedMade)

theorem QueryCall.run_enter {compiler : Compiler} {call : QueryCall} {outer : BaseQuery}
    {relation target : Relation} {related : Related} {pairs : List KeyPair}
    (compiled : call.run compiler = .ok outer)
    (found : compiler.findRelation call.spec.table call.location = .ok relation)
    (member : related ∈ call.spec.related)
    (targetFound : compiler.findRelation related.spec.table
      (call.location.enter related.describe) = .ok target)
    (joined : compiler.catalog.joinPairs related.link (related.childSide relation target)
      (related.parentSide relation target) (call.location.enter related.describe) = .ok pairs) :
    ∃ query, (call.enter related outer.aliasName target pairs).run compiler = .ok query := by
  obtain ⟨assembly, ownAlias, _, _, _, _⟩ := Compiler.baseQuery_ok compiled
  obtain ⟨nested⟩ := assembly.related_compiled member
  have sameRelation : assembly.relation = relation :=
    Except.ok.inj (assembly.found.symm.trans found)
  have sameTarget : nested.target = target :=
    Except.ok.inj (nested.found.symm.trans targetFound)
  subst sameRelation sameTarget
  have samePairs : nested.pairs = pairs := Except.ok.inj (nested.joined.symm.trans joined)
  refine ⟨nested.query, ?_⟩
  rw [ownAlias, ← samePairs]
  exact nested.compiled

/-- Aliases are kept apart at every depth: each base query within a base query exists, its sources
bind pairwise different aliases, and none of these is the alias of the outer table that the query
refers to. -/
theorem aliases_kept_apart (compiler : Compiler) (call inner : QueryCall) (query : BaseQuery)
    (compiled : call.run compiler = .ok query) (part : PartOf compiler inner call) :
    ∃ innerQuery, inner.run compiler = .ok innerQuery ∧
      List.Forall₂ BindsAlias innerQuery.parts.sources innerQuery.boundAliases ∧
      innerQuery.boundAliases.Nodup ∧
      ∀ correlation, inner.embedding.correlation = some correlation →
        correlation.otherAlias ∉ innerQuery.boundAliases := by
  -- Down the path to the inner query, each query exists because the one around it does.
  induction part generalizing query with
  | self call =>
      have scope := List.nodup_append.mp (scope_nodup compiled)
      refine ⟨query, compiled, sources_bindAliases compiled, scope.2.1, ?_⟩
      intro correlation correlated captured
      have outside : correlation.otherAlias ∈ call.embedding.outerAliases := by
        simp [Embedding.outerAliases, correlated]
      exact scope.2.2 _ outside _ captured rfl
  | related outerCompiled found member targetFound joined _ ih =>
      obtain ⟨nestedQuery, nestedCompiled⟩ :=
        QueryCall.run_enter outerCompiled found member targetFound joined
      exact ih nestedQuery nestedCompiled

def Shop.ordersCall : QueryCall where
  spec := Shop.orders
  embedding :=
    { correlation := some { restricted := .child, otherAlias := "o", pairs := [⟨"id", "id"⟩] } }
  location := { query := "orders" }

theorem aliases_kept_apart_shop :
    ∃ query sellers, Shop.ordersCall.run Shop.compiler = .ok query ∧
      query.boundAliases = ["o1", "q", "q1"] ∧
      (Shop.ordersCall.enter (.referencedParent Shop.seller) query.aliasName
        Shop.customerRelation [⟨"seller_id", "id"⟩]).run Shop.compiler = .ok sellers ∧
      sellers.boundAliases.Nodup ∧ query.aliasName ∉ sellers.boundAliases := by
  obtain ⟨query, compiled⟩ := exists_of_isOk
    (show (Shop.ordersCall.run Shop.compiler).isOk = true by decide +kernel)
  have bound : (Shop.ordersCall.run Shop.compiler).map BaseQuery.boundAliases =
      .ok ["o1", "q", "q1"] := by decide +kernel
  rw [compiled] at bound
  have found : Shop.compiler.findRelation Shop.ordersCall.spec.table Shop.ordersCall.location =
      .ok Shop.orderRelation := by decide +kernel
  have sellerFound : Shop.compiler.findRelation (Related.referencedParent Shop.seller).spec.table
      (Shop.ordersCall.location.enter (Related.referencedParent Shop.seller).describe) =
        .ok Shop.customerRelation := by decide +kernel
  have joined : Shop.compiler.catalog.joinPairs (Related.referencedParent Shop.seller).link
      Shop.orderRelation Shop.customerRelation
      (Shop.ordersCall.location.enter (Related.referencedParent Shop.seller).describe) =
        .ok [⟨"seller_id", "id"⟩] := by decide +kernel
  have member : Related.referencedParent Shop.seller ∈ Shop.ordersCall.spec.related := by
    simp [TableSpec.related, Shop.ordersCall, Shop.orders]
  obtain ⟨sellers, sellersCompiled, _, distinct, uncaptured⟩ :=
    aliases_kept_apart Shop.compiler Shop.ordersCall _ query compiled
      (.related compiled found member sellerFound joined (.self _))
  exact ⟨query, sellers, compiled, Except.ok.inj bound, sellersCompiled, distinct,
    uncaptured _ rfl⟩

end NestedQuery

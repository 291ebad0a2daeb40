import NestedQuery.Proofs.Catalog.Growth
import NestedQuery.Proofs.Query.Assembly

/-! Compiled queries outlive the growth of a schema. A compilation that succeeds has found every
relation and every key it asked for, and a catalog that finds the same for each of these questions
compiles the same queries, whatever else it holds. -/

namespace NestedQuery

/-- Where the first computation succeeds the second does, with the same result. -/
def Keeps {α ε : Type} (first second : Except ε α) : Prop :=
  ∀ value, first = .ok value → second = .ok value

namespace Keeps

variable {α β ε : Type}

theorem refl (action : Except ε α) : Keeps action action := fun _ done => done

theorem bind {first second : Except ε α} {next later : α → Except ε β} (start : Keeps first second)
    (following : ∀ value, Keeps (next value) (later value)) :
    Keeps (first >>= next) (second >>= later) := by
  intro result done
  obtain ⟨value, started, finished⟩ := ok_of_bind done
  rw [start value started, ok_bind]
  exact following value result finished

theorem mapM {make remake : α → Except ε β} {items : List α}
    (each : ∀ item ∈ items, Keeps (make item) (remake item)) :
    Keeps (items.mapM make) (items.mapM remake) := by
  induction items with
  | nil => exact .refl _
  | cons item rest ih =>
      rw [List.mapM_cons, List.mapM_cons]
      refine (each item List.mem_cons_self).bind fun result => ?_
      have later := ih fun other member => each other (List.mem_cons_of_mem _ member)
      exact later.bind fun others => .refl _

theorem mapError {ζ : Type} {first second : Except ε α} (start : Keeps first second)
    (wrap : ε → ζ) : Keeps (first.mapError wrap) (second.mapError wrap) := by
  intro value done
  cases first with
  | error cause => cases done
  | ok made =>
      rw [start made rfl]
      exact done

end Keeps

namespace Catalog.GrowsTo

variable {catalog grown : Catalog} (grows : catalog.GrowsTo grown)
include grows

theorem findRelation (table : String) (defaultSchema : Option String) (location : Location) :
    Keeps (catalog.findRelation table defaultSchema location)
      (grown.findRelation table defaultSchema location) := by
  intro relation done
  have sameId : grown.idFor table defaultSchema = catalog.idFor table defaultSchema := by
    obtain ⟨relations, keys, version, rfl⟩ := grows.alike
    rfl
  simp only [Catalog.findRelation] at done ⊢
  split at done
  · rename_i found
    rw [sameId, grows.relation? found]
    exact done
  · cases done

theorem findForeignKey (child parent : RelationId) (fields : Option (List String)) :
    Keeps (catalog.findForeignKey child parent fields)
      (grown.findForeignKey child parent fields) := by
  intro key done
  have sameNames : grown.normalize = catalog.normalize := by
    obtain ⟨relations, keys, version, rfl⟩ := grows.alike
    rfl
  -- A key is found only where there are candidates.
  have candidates : catalog.keysBetween child parent ≠ [] := by
    intro none
    unfold Catalog.findForeignKey at done
    rw [none] at done
    cases fields <;> cases done
  unfold Catalog.findForeignKey at done ⊢
  rw [grows.keys candidates, sameNames]
  exact done

theorem joinPairs (link : Link) (child parent : Relation) (location : Location) :
    Keeps (catalog.joinPairs link child parent location)
      (grown.joinPairs link child parent location) := by
  intro pairs done
  unfold Catalog.joinPairs at done ⊢
  cases custom : link.customJoin with
  | some stated =>
      obtain ⟨relations, keys, version, rfl⟩ := grows.alike
      simp only [custom] at done ⊢
      exact done
  | none =>
      simp only [custom] at done ⊢
      split at done
      · rename_i key found
        rw [grows.findForeignKey child.id parent.id link.foreignKeyFields key found]
        exact done
      · cases done

end Catalog.GrowsTo

def Compiler.over (compiler : Compiler) (catalog : Catalog) : Compiler := { compiler with catalog }

namespace Compiler

variable {compiler : Compiler} {grown : Catalog} (grows : compiler.catalog.GrowsTo grown)
include grows

theorem inlineJoins_keeps (child : Relation) (childAlias : String) (location : Location)
    (query : QueryParts) (parents : List InlineParent)
    (below : ∀ parent ∈ parents, ∀ embedding location,
      Keeps (compiler.baseQuery parent.spec embedding location)
        ((compiler.over grown).baseQuery parent.spec embedding location)) :
    Keeps (compiler.inlineJoins child childAlias location query parents)
      ((compiler.over grown).inlineJoins child childAlias location query parents) := by
  induction parents generalizing query with
  | nil =>
      rw [Compiler.inlineJoins, Compiler.inlineJoins]
      exact .refl _
  | cons parent rest ih =>
      have nested := below parent List.mem_cons_self
      have others := fun query => ih query fun other member =>
        below other (List.mem_cons_of_mem _ member)
      obtain ⟨spec, link, optional⟩ := parent
      obtain ⟨relations, keys, version, rfl⟩ := grows.alike
      rw [Compiler.inlineJoins, Compiler.inlineJoins]
      refine (grows.findRelation _ _ _).bind fun target => ?_
      refine (grows.joinPairs _ _ _ _).bind fun pairs => ?_
      refine (nested _ _).bind fun query => ?_
      exact (others _).bind fun joins => .refl _

theorem referencedEntries_keeps (child : Relation) (childAlias : String) (location : Location)
    (parents : List ReferencedParent)
    (below : ∀ parent ∈ parents, ∀ embedding location,
      Keeps (compiler.baseQuery parent.spec embedding location)
        ((compiler.over grown).baseQuery parent.spec embedding location)) :
    Keeps (compiler.referencedEntries child childAlias location parents)
      ((compiler.over grown).referencedEntries child childAlias location parents) := by
  induction parents with
  | nil =>
      rw [Compiler.referencedEntries, Compiler.referencedEntries]
      exact .refl _
  | cons parent rest ih =>
      have nested := below parent List.mem_cons_self
      have others := ih fun other member => below other (List.mem_cons_of_mem _ member)
      obtain ⟨name, spec, link, optional⟩ := parent
      obtain ⟨relations, keys, version, rfl⟩ := grows.alike
      rw [Compiler.referencedEntries, Compiler.referencedEntries]
      refine (grows.findRelation _ _ _).bind fun target => ?_
      refine (grows.joinPairs _ _ _ _).bind fun pairs => ?_
      refine (nested _ _).bind fun query => ?_
      exact others.bind fun entries => .refl _

theorem childEntries_keeps (parent : Relation) (parentAlias : String) (location : Location)
    (collections : List ChildCollection)
    (below : ∀ collection ∈ collections, ∀ embedding location,
      Keeps (compiler.baseQuery collection.spec embedding location)
        ((compiler.over grown).baseQuery collection.spec embedding location)) :
    Keeps (compiler.childEntries parent parentAlias location collections)
      ((compiler.over grown).childEntries parent parentAlias location collections) := by
  induction collections with
  | nil =>
      rw [Compiler.childEntries, Compiler.childEntries]
      exact .refl _
  | cons collection rest ih =>
      have nested := below collection List.mem_cons_self
      have others := ih fun other member => below other (List.mem_cons_of_mem _ member)
      obtain ⟨name, spec, link, filter, unwrap, orderBy⟩ := collection
      obtain ⟨relations, keys, version, rfl⟩ := grows.alike
      rw [Compiler.childEntries, Compiler.childEntries]
      refine (grows.findRelation _ _ _).bind fun target => ?_
      refine (grows.joinPairs _ _ _ _).bind fun pairs => ?_
      refine (nested _ _).bind fun query => ?_
      refine (Keeps.refl _).bind fun sql => ?_
      exact others.bind fun entries => .refl _

theorem baseQuery_keeps (spec : TableSpec) (embedding : Embedding) (location : Location) :
    Keeps (compiler.baseQuery spec embedding location)
      ((compiler.over grown).baseQuery spec embedding location) := by
  induction spec using TableSpec.nested_induction generalizing embedding location with
  | step spec inlined referenced collected =>
      obtain ⟨table, fields, inlineParents, referencedParents, childCollections, condition⟩ := spec
      have joins := fun relation aliasName query =>
        inlineJoins_keeps grows relation aliasName location query inlineParents inlined
      have objects := fun relation aliasName =>
        referencedEntries_keeps grows relation aliasName location referencedParents referenced
      have arrays := fun relation aliasName =>
        childEntries_keeps grows relation aliasName location childCollections collected
      obtain ⟨relations, keys, version, rfl⟩ := grows.alike
      rw [Compiler.baseQuery, Compiler.baseQuery]
      refine (grows.findRelation _ _ _).bind fun relation => ?_
      refine (Keeps.refl _).bind fun plain => ?_
      refine (joins _ _ _).bind fun inlined => ?_
      refine (objects _ _).bind fun referenced => ?_
      exact (arrays _ _).bind fun children => .refl _

theorem querySql_keeps (query : QuerySpec) (representation : Representation) :
    Keeps (compiler.querySql query representation)
      ((compiler.over grown).querySql query representation) := by
  have base := fun embedding =>
    baseQuery_keeps grows query.tableSpec embedding { query := query.name }
  obtain ⟨relations, keys, version, rfl⟩ := grows.alike
  unfold Compiler.querySql
  dsimp only
  split
  · exact .refl _
  · cases representation with
    | columnRows => exact (base _).bind fun query => .refl _
    | objectRows => exact (base _).bind fun query => .refl _
    | arrayRow =>
        refine (grows.findRelation _ _ _).bind fun relation => ?_
        exact (base _).bind fun query => .refl _

theorem querySqls_keeps (query : QuerySpec) :
    Keeps (compiler.querySqls query) ((compiler.over grown).querySqls query) := by
  unfold Compiler.querySqls
  refine (Keeps.mapM fun representation _ => ?_).bind fun made => .refl _
  exact (querySql_keeps grows query representation).bind fun sql => .refl _

end Compiler

def Typing.over (typing : Typing) (catalog : Catalog) : Typing := { typing with catalog }

namespace Typing

variable {typing : Typing} {grown : Catalog} (grows : typing.catalog.GrowsTo grown)

include grows in
theorem parentMayBeAbsent_keeps (related : Related) (child : Relation) (location : Location) :
    Keeps (typing.parentMayBeAbsent related child location)
      ((typing.over grown).parentMayBeAbsent related child location) := by
  obtain ⟨relations, keys, version, rfl⟩ := grows.alike
  unfold Typing.parentMayBeAbsent
  split
  · exact .refl _
  · refine (grows.findRelation _ _ _).bind fun parent => ?_
    exact (grows.joinPairs _ _ _ _).bind fun pairs => .refl _

include grows in
theorem inlinedFields_keeps (child : Relation) (location : Location) (parents : List InlineParent)
    (below : ∀ parent ∈ parents, ∀ location,
      Keeps (typing.resultType parent.spec location)
        ((typing.over grown).resultType parent.spec location)) :
    Keeps (typing.inlinedFields child location parents)
      ((typing.over grown).inlinedFields child location parents) := by
  induction parents with
  | nil =>
      rw [Typing.inlinedFields, Typing.inlinedFields]
      exact .refl _
  | cons parent rest ih =>
      have nested := below parent List.mem_cons_self
      have others := ih fun other member => below other (List.mem_cons_of_mem _ member)
      obtain ⟨spec, link, optional⟩ := parent
      rw [Typing.inlinedFields, Typing.inlinedFields]
      refine (nested _).bind fun type => ?_
      refine (parentMayBeAbsent_keeps grows _ _ _).bind fun absent => ?_
      exact others.bind fun fields => .refl _

include grows in
theorem referencedFields_keeps (child : Relation) (location : Location)
    (parents : List ReferencedParent)
    (below : ∀ parent ∈ parents, ∀ location,
      Keeps (typing.resultType parent.spec location)
        ((typing.over grown).resultType parent.spec location)) :
    Keeps (typing.referencedFields child location parents)
      ((typing.over grown).referencedFields child location parents) := by
  induction parents with
  | nil =>
      rw [Typing.referencedFields, Typing.referencedFields]
      exact .refl _
  | cons parent rest ih =>
      have nested := below parent List.mem_cons_self
      have others := ih fun other member => below other (List.mem_cons_of_mem _ member)
      obtain ⟨name, spec, link, optional⟩ := parent
      rw [Typing.referencedFields, Typing.referencedFields]
      refine (nested _).bind fun type => ?_
      refine (parentMayBeAbsent_keeps grows _ _ _).bind fun absent => ?_
      exact others.bind fun fields => .refl _

theorem collectionFields_keeps (location : Location) (collections : List ChildCollection)
    (below : ∀ collection ∈ collections, ∀ location,
      Keeps (typing.resultType collection.spec location)
        ((typing.over grown).resultType collection.spec location)) :
    Keeps (typing.collectionFields location collections)
      ((typing.over grown).collectionFields location collections) := by
  induction collections with
  | nil =>
      rw [Typing.collectionFields, Typing.collectionFields]
      exact .refl _
  | cons collection rest ih =>
      have nested := below collection List.mem_cons_self
      have others := ih fun other member => below other (List.mem_cons_of_mem _ member)
      obtain ⟨name, spec, link, filter, unwrap, orderBy⟩ := collection
      rw [Typing.collectionFields, Typing.collectionFields]
      refine (nested _).bind fun rows => ?_
      refine (Keeps.refl _).bind fun type => ?_
      exact others.bind fun fields => .refl _

include grows in
theorem resultType_keeps (spec : TableSpec) (location : Location) :
    Keeps (typing.resultType spec location) ((typing.over grown).resultType spec location) := by
  induction spec using TableSpec.nested_induction generalizing location with
  | step spec inlined referenced collected =>
      obtain ⟨table, fields, inlineParents, referencedParents, childCollections, condition⟩ := spec
      have joins := fun relation =>
        inlinedFields_keeps grows relation location inlineParents inlined
      have objects := fun relation =>
        referencedFields_keeps grows relation location referencedParents referenced
      have arrays := collectionFields_keeps location childCollections collected
      obtain ⟨relations, keys, version, rfl⟩ := grows.alike
      rw [Typing.resultType, Typing.resultType]
      refine (grows.findRelation _ _ _).bind fun relation => ?_
      refine (Keeps.refl _).bind fun plain => ?_
      refine (joins _).bind fun inlined => ?_
      refine (objects _).bind fun referenced => ?_
      exact arrays.bind fun children => .refl _

end Typing

theorem Compiler.compileQuery_keeps {compiler : Compiler} {grown : Catalog}
    (grows : compiler.catalog.GrowsTo grown) (query : QuerySpec) :
    Keeps (compiler.compileQuery query) ((compiler.over grown).compileQuery query) := by
  have typed := @Typing.resultType_keeps compiler.typing grown grows query.tableSpec
    { query := query.name }
  unfold Compiler.compileQuery
  refine (querySqls_keeps grows query).bind fun sqls => ?_
  split
  · exact (typed.bind fun type => .refl _).bind fun type => .refl _
  · exact .refl _

theorem Catalog.GrowsTo.compile_keeps {catalog grown : Catalog} (grows : catalog.GrowsTo grown)
    (group : QueryGroup) : Keeps (group.compile catalog) (group.compile grown) := by
  have queries (dialect : Dialect) (options : Options) (query : QuerySpec) :=
    @Compiler.compileQuery_keeps ⟨catalog, dialect, options⟩ grown grows query
  obtain ⟨relations, keys, version, rfl⟩ := grows.alike
  unfold QueryGroup.compile
  refine (Keeps.refl _).bind fun dialect => ?_
  exact .mapM fun query _ => (queries dialect _ query).mapError _

/-- A schema may grow by relations with new ids and by foreign keys to or from these: a group that
compiles before compiles to the same queries afterwards. -/
theorem compile_ignores_growth (schemaName : Option String)
    (relations added allRelations : List Relation) (keys addedKeys allKeys : List ForeignKey)
    (caseRule : CaseRule) (productName version newVersion : String)
    (places : AddedTo relations added allRelations) (references : AddedTo keys addedKeys allKeys)
    (new : ∀ relation ∈ added, relation.id ∉ relations.map (·.id))
    (touching : ∀ key ∈ addedKeys,
      key.child ∈ added.map (·.id) ∨ key.parent ∈ added.map (·.id))
    (group : QueryGroup) (queries : List GeneratedQuery)
    (compiled : group.compile
      (Catalog.build schemaName relations keys caseRule productName version) = .ok queries) :
    group.compile
      (Catalog.build schemaName allRelations allKeys caseRule productName newVersion) =
        .ok queries :=
  (Catalog.build_growsTo places references new touching schemaName caseRule productName version
    newVersion).compile_keeps group queries compiled

/-! The shop gets carriers, to whom a key of its orders already pointed. -/

namespace Shop

def group : QueryGroup := { queries := [query] }

def carrierRelation : Relation :=
  { id := ⟨none, "carrier"⟩, fields := [keyField, dataField "customer_id" false] }

def shipped : ForeignKey :=
  { child := orderRelation.id, parent := carrierRelation.id, pairs := [⟨"carrier_id", "id"⟩] }

def known : ForeignKey :=
  { child := carrierRelation.id, parent := customerRelation.id, pairs := [⟨"customer_id", "id"⟩] }

def keys : List ForeignKey :=
  let itemKey :=
    { child := itemRelation.id, parent := orderRelation.id, pairs := [⟨"order_id", "id"⟩] }
  let sides := ["buyer_id", "seller_id"].map fun column =>
    { child := orderRelation.id, parent := customerRelation.id, pairs := [⟨column, "id"⟩] }
  itemKey :: shipped :: sides

end Shop

def Shop.small : Catalog :=
  Catalog.build none [Shop.customerRelation, Shop.itemRelation, Shop.orderRelation] Shop.keys
    .storedLower "PostgreSQL" ""

def Shop.grown : Catalog :=
  Catalog.build none
    [Shop.customerRelation, Shop.carrierRelation, Shop.itemRelation, Shop.orderRelation]
    (Shop.known :: Shop.keys) .storedLower "PostgreSQL" "16"

theorem compile_ignores_growth_shop :
    (Shop.group.compile Shop.small).isOk = true ∧
      Shop.group.compile Shop.grown = Shop.group.compile Shop.small := by
  have sorted : Shop.small = _ :=
    Catalog.build_of_sorted (by decide +kernel) (by decide +kernel) none .storedLower
      "PostgreSQL" ""
  have compiles : (Shop.group.compile Shop.small).isOk = true := by
    rw [sorted]
    decide +kernel
  obtain ⟨queries, compiled⟩ := exists_of_isOk compiles
  have stays : Shop.group.compile Shop.grown = .ok queries :=
    compile_ignores_growth none _ [Shop.carrierRelation] _ Shop.keys [Shop.known] _ .storedLower
      "PostgreSQL" "" "16" ⟨by decide +kernel, by decide +kernel⟩
      ⟨by decide +kernel, by decide +kernel⟩ (by decide +kernel) (by decide +kernel) Shop.group
      queries compiled
  exact ⟨compiles, stays.trans compiled.symm⟩

end NestedQuery

import Mathlib.Data.List.Forall2
import NestedQuery.Compile
import NestedQuery.Proofs.Naming

/-! What a base query is made of. Where a base query exists, every part from which it was put
together exists too; these parts are named here once, so that a property of base queries follows
from the same property of the tables nested in them. -/

namespace NestedQuery

/-- A property of every table specification, proved from the tables related to each of them. -/
theorem TableSpec.nested_induction {motive : TableSpec → Prop}
    (step : ∀ spec : TableSpec, (∀ parent ∈ spec.inlineParents, motive parent.spec) →
      (∀ parent ∈ spec.referencedParents, motive parent.spec) →
      (∀ collection ∈ spec.childCollections, motive collection.spec) → motive spec)
    (spec : TableSpec) : motive spec := by
  apply step
  · intro parent member
    exact nested_induction step parent.spec
  · intro parent member
    exact nested_induction step parent.spec
  · intro collection member
    exact nested_induction step collection.spec
termination_by sizeOf spec
decreasing_by
  all_goals
    have inside := List.sizeOf_lt_of_mem member
    cases spec
  · cases parent
    simp at inside ⊢
    omega
  · cases parent
    simp at inside ⊢
    omega
  · cases collection
    simp at inside ⊢
    omega

theorem ok_of_bind {α β ε : Type} {action : Except ε α} {next : α → Except ε β} {result : β}
    (done : action >>= next = .ok result) :
    ∃ value, action = .ok value ∧ next value = .ok result := by
  cases action with
  | error cause => cases done
  | ok value => exact ⟨value, rfl, done⟩

theorem exists_of_isOk {α ε : Type} {action : Except ε α} (done : action.isOk = true) :
    ∃ value, action = .ok value := by
  cases action with
  | error cause => cases done
  | ok value => exact ⟨value, rfl⟩

theorem ok_of_map {α β ε : Type} {action : Except ε α} {change : α → β} {result : β}
    (done : action.map change = .ok result) :
    ∃ value, action = .ok value ∧ change value = result := by
  cases action with
  | error cause => cases done
  | ok value => exact ⟨value, rfl, Except.ok.inj done⟩

@[simp] theorem ok_bind {α β ε : Type} (value : α) (next : α → Except ε β) :
    (Except.ok value >>= next) = next value := rfl

theorem mapM_eq_ok_iff {α β ε : Type} (make : α → Except ε β) (items : List α)
    (results : List β) :
    items.mapM make = .ok results ↔
      List.Forall₂ (fun item result => make item = .ok result) items results := by
  induction items generalizing results with
  | nil =>
      rw [List.mapM_nil, List.forall₂_nil_left_iff]
      constructor
      · intro done
        cases done
        rfl
      · rintro rfl
        rfl
  | cons item rest ih =>
      rw [List.mapM_cons]
      constructor
      · intro done
        obtain ⟨result, made, done⟩ := ok_of_bind done
        obtain ⟨others, othersMade, done⟩ := ok_of_bind done
        cases done
        exact .cons made ((ih others).mp othersMade)
      · rintro (_ | ⟨made, othersMade⟩)
        rw [made, ok_bind, (ih _).mpr othersMade]
        rfl

theorem mem_of_mapM {α β ε : Type} {make : α → Except ε β} {items : List α} {results : List β}
    (made : items.mapM make = .ok results) (result : β) :
    result ∈ results ↔ ∃ item ∈ items, make item = .ok result := by
  rw [mapM_eq_ok_iff] at made
  induction made with
  | nil => simp
  | cons first _ ih =>
      rw [List.mem_cons, ih, List.exists_mem_cons_iff, first, Except.ok.injEq]
      exact or_congr_left eq_comm

section

variable {α β γ δ ε : Type} {shown : β → δ}

/-- Computations whose results look the same are followed by computations that look the same. -/
theorem map_bind_eq {view : α → γ} {first second : Except ε α} {next later : α → Except ε β}
    (start : first.map view = second.map view)
    (following : ∀ value other, view value = view other →
      (next value).map shown = (later other).map shown) :
    (first >>= next).map shown = (second >>= later).map shown := by
  cases first with
  | error cause =>
      cases second with
      | error other =>
          cases start
          rfl
      | ok other => cases start
  | ok value =>
      cases second with
      | error other => cases start
      | ok other => exact following value other (Except.ok.inj start)

theorem map_bind_same {action : Except ε α} {next later : α → Except ε β}
    (following : ∀ value, (next value).map shown = (later value).map shown) :
    (action >>= next).map shown = (action >>= later).map shown := by
  refine map_bind_eq (Eq.refl (action.map id)) fun value other same => ?_
  obtain rfl : value = other := same
  exact following value

end

theorem forall₂_of_map_eq {α β γ : Type} {view : α → γ} {otherView : β → γ}
    {related : α → β → Prop} {items : List α} {others : List β}
    (same : items.map view = others.map otherView)
    (each : ∀ item other, view item = otherView other → related item other) :
    List.Forall₂ related items others := by
  have whole : List.Forall₂ (· = ·) (items.map view) (others.map otherView) := by
    rw [List.forall₂_eq_eq_eq]
    exact same
  rw [List.forall₂_map_left_iff, List.forall₂_map_right_iff] at whole
  exact whole.imp each

namespace QueryParts

@[simp] theorem addEntries_eq (parts : QueryParts) (entries : List SelectEntry) :
    parts.addEntries entries = { parts with entries := parts.entries ++ entries } := by
  induction entries generalizing parts with
  | nil => simp [addEntries]
  | cons entry rest ih =>
      refine (ih (parts.addEntry entry)).trans ?_
      simp [addEntry]

@[simp] theorem addConditions_eq (parts : QueryParts) (conditions : List String) :
    parts.addConditions conditions =
      { parts with conditions := parts.conditions ++ conditions } := by
  induction conditions generalizing parts with
  | nil => simp [addConditions]
  | cons condition rest ih =>
      refine (ih (parts.addCondition condition)).trans ?_
      simp [addCondition]

end QueryParts

/-- The aliases that stand outside a query and that its own sources must leave free. -/
def Embedding.outerAliases (embedding : Embedding) : List String :=
  embedding.correlation.toList.map (·.otherAlias)

theorem Embedding.scope_eq (embedding : Embedding) :
    embedding.scope = { aliases := embedding.outerAliases } := by
  unfold scope outerAliases
  cases embedding.correlation with
  | none => rfl
  | some correlation => rfl

namespace Related

def childSide (related : Related) (outer target : Relation) : Relation :=
  match related with
  | inlineParent _ | referencedParent _ => outer
  | childCollection _ => target

def parentSide (related : Related) (outer target : Relation) : Relation :=
  match related with
  | inlineParent _ | referencedParent _ => target
  | childCollection _ => outer

def embedding (related : Related) (outerAlias : String) (target : Relation)
    (pairs : List KeyPair) : Embedding :=
  match related with
  | inlineParent _ => { exportsKey := true }
  | referencedParent _ =>
      { correlation := some { restricted := .parent, otherAlias := outerAlias, pairs } }
  | childCollection collection =>
      { correlation := some { restricted := .child, otherAlias := outerAlias, pairs }
        exportsKey := Compiler.arrayExportsKey target collection.orderBy
        filter := collection.filter }

end Related

/-- The base query of a table related to another one, with what it was resolved to. -/
structure RelatedQuery (compiler : Compiler) (outer : Relation) (outerAlias : String)
    (location : Location) (related : Related) where
  target : Relation
  pairs : List KeyPair
  query : BaseQuery
  found : compiler.findRelation related.spec.table (location.enter related.describe) = .ok target
  joined : compiler.catalog.joinPairs related.link (related.childSide outer target)
    (related.parentSide outer target) (location.enter related.describe) = .ok pairs
  compiled : compiler.baseQuery related.spec (related.embedding outerAlias target pairs)
    (location.enter related.describe) = .ok query

namespace RelatedQuery

variable {compiler : Compiler} {outer : Relation} {outerAlias : String} {location : Location}

def inlined {parent : InlineParent}
    (nested : RelatedQuery compiler outer outerAlias location (.inlineParent parent))
    (aliases : List String) : InlineJoin × QueryParts :=
  let join : InlineJoin :=
    { aliasName := Naming.fresh wrapperAlias "" aliases
      pairs := nested.pairs
      exported := nested.query.hiddenKey }
  (join, compiler.inlineParts parent.spec.table outerAlias join nested.query)

def objectEntry {parent : ReferencedParent}
    (nested : RelatedQuery compiler outer outerAlias location (.referencedParent parent)) :
    SelectEntry :=
  .make
    ("-- parent table '" ++ parent.spec.table ++ "' referenced as '" ++ parent.name ++ "'\n(\n" ++
      compiler.indented (compiler.objectRowsSql parent.spec.table nested.query none) ++ "\n)")
    (compiler.catalog.quote parent.name) .parentReference

def arraySql {collection : ChildCollection}
    (nested : RelatedQuery compiler outer outerAlias location (.childCollection collection)) :
    Except SpecError String :=
  compiler.arrayRowSql collection.spec.table nested.query collection.isUnwrapped
    (compiler.arrayOrder nested.target collection.orderBy)
    (location.enter (Related.childCollection collection).describe)

def collectionEntry (compiler : Compiler) (collection : ChildCollection) (sql : String) :
    SelectEntry :=
  .make
    ("-- records from child table '" ++ collection.spec.table ++ "' as collection '" ++
      collection.name ++ "'\n(\n" ++ compiler.indented sql ++ "\n)")
    (compiler.catalog.quote collection.name) .childCollection

end RelatedQuery

section

variable {compiler : Compiler} {outer : Relation} {outerAlias : String} {location : Location}

/-- What inlined parents add to the query of their child, one after the other, each under an alias
that is new to the scope. -/
inductive Inlined (compiler : Compiler) (outer : Relation) (outerAlias : String)
    (location : Location) :
    List String → List InlineParent → List (InlineJoin × QueryParts) → Prop where
  | nil (aliases : List String) : Inlined compiler outer outerAlias location aliases [] []
  | cons {aliases : List String} {parent : InlineParent} {rest : List InlineParent}
      {others : List (InlineJoin × QueryParts)}
      (nested : RelatedQuery compiler outer outerAlias location (.inlineParent parent))
      (later : Inlined compiler outer outerAlias location
        (aliases ++ [Naming.fresh wrapperAlias "" aliases]) rest others) :
      Inlined compiler outer outerAlias location aliases (parent :: rest)
        (nested.inlined aliases :: others)

theorem aliases_merge_inlined {query : QueryParts} {parent : InlineParent}
    (nested : RelatedQuery compiler outer outerAlias location (.inlineParent parent)) :
    (query.merge (nested.inlined query.aliases).2).aliases =
      query.aliases ++ [Naming.fresh wrapperAlias "" query.aliases] := by
  simp [QueryParts.merge, RelatedQuery.inlined, Compiler.inlineParts,
    Naming.fresh_not_mem wrapperAlias "" query.aliases]

theorem inlineJoins_cons {query : QueryParts} {parent : InlineParent} {rest : List InlineParent}
    (nested : RelatedQuery compiler outer outerAlias location (.inlineParent parent)) :
    compiler.inlineJoins outer outerAlias location query (parent :: rest) =
      (compiler.inlineJoins outer outerAlias location
        (query.merge (nested.inlined query.aliases).2) rest).map fun (others, joined) =>
          ((nested.inlined query.aliases).1 :: others, joined) := by
  obtain ⟨spec, link, optional⟩ := parent
  obtain ⟨target, pairs, base, found, related, compiled⟩ := nested
  simp only [Related.spec, Related.link, Related.childSide, Related.parentSide,
    Related.embedding] at found related compiled
  rw [Compiler.inlineJoins]
  simp only [found, related, compiled, ok_bind]
  rfl

theorem relatedQuery_of_inlineJoins {query : QueryParts} {parent : InlineParent}
    {rest : List InlineParent} {made : List InlineJoin × QueryParts}
    (compiled : compiler.inlineJoins outer outerAlias location query (parent :: rest) = .ok made) :
    Nonempty (RelatedQuery compiler outer outerAlias location (.inlineParent parent)) := by
  obtain ⟨spec, link, optional⟩ := parent
  rw [Compiler.inlineJoins] at compiled
  obtain ⟨target, found, compiled⟩ := ok_of_bind compiled
  obtain ⟨pairs, joined, compiled⟩ := ok_of_bind compiled
  obtain ⟨base, nested, _⟩ := ok_of_bind compiled
  exact ⟨⟨target, pairs, base, found, joined, nested⟩⟩

theorem inlineJoins_eq_ok_iff {query joined : QueryParts} {parents : List InlineParent}
    {joins : List InlineJoin} :
    compiler.inlineJoins outer outerAlias location query parents = .ok (joins, joined) ↔
      ∃ pieces, Inlined compiler outer outerAlias location query.aliases parents pieces ∧
        joins = pieces.map (·.1) ∧ joined = (pieces.map (·.2)).foldl QueryParts.merge query := by
  induction parents generalizing query joins with
  | nil =>
      rw [Compiler.inlineJoins]
      constructor
      · intro made
        cases made
        exact ⟨[], .nil _, rfl, rfl⟩
      · rintro ⟨_, ⟨⟩, rfl, rfl⟩
        rfl
  | cons parent rest ih =>
      constructor
      · intro made
        obtain ⟨nested⟩ := relatedQuery_of_inlineJoins made
        rw [inlineJoins_cons nested] at made
        obtain ⟨⟨others, last⟩, othersMade, same⟩ := ok_of_map made
        cases same
        obtain ⟨pieces, later, rfl, rfl⟩ := ih.mp othersMade
        rw [aliases_merge_inlined nested] at later
        exact ⟨nested.inlined query.aliases :: pieces, .cons nested later, rfl, rfl⟩
      · rintro ⟨_, _ | ⟨nested, later⟩, rfl, rfl⟩
        rw [← aliases_merge_inlined nested] at later
        rw [inlineJoins_cons nested, ih.mpr ⟨_, later, rfl, rfl⟩]
        rfl

theorem referencedEntries_cons {parent : ReferencedParent} {rest : List ReferencedParent}
    {entries : List SelectEntry}
    (made : compiler.referencedEntries outer outerAlias location (parent :: rest) = .ok entries) :
    ∃ (nested : RelatedQuery compiler outer outerAlias location (.referencedParent parent))
      (others : List SelectEntry),
      compiler.referencedEntries outer outerAlias location rest = .ok others ∧
      entries = nested.objectEntry :: others := by
  obtain ⟨name, spec, link, optional⟩ := parent
  rw [Compiler.referencedEntries] at made
  obtain ⟨target, found, made⟩ := ok_of_bind made
  obtain ⟨pairs, joined, made⟩ := ok_of_bind made
  obtain ⟨query, compiled, made⟩ := ok_of_bind made
  obtain ⟨others, othersMade, made⟩ := ok_of_bind made
  cases made
  exact ⟨⟨target, pairs, query, found, joined, compiled⟩, others, othersMade, rfl⟩

theorem childEntries_cons {collection : ChildCollection} {rest : List ChildCollection}
    {entries : List SelectEntry}
    (made : compiler.childEntries outer outerAlias location (collection :: rest) = .ok entries) :
    ∃ (nested : RelatedQuery compiler outer outerAlias location (.childCollection collection))
      (sql : String) (others : List SelectEntry),
      nested.arraySql = .ok sql ∧
      compiler.childEntries outer outerAlias location rest = .ok others ∧
      entries = RelatedQuery.collectionEntry compiler collection sql :: others := by
  obtain ⟨name, spec, link, filter, unwrap, orderBy⟩ := collection
  rw [Compiler.childEntries] at made
  obtain ⟨target, found, made⟩ := ok_of_bind made
  obtain ⟨pairs, joined, made⟩ := ok_of_bind made
  obtain ⟨query, compiled, made⟩ := ok_of_bind made
  obtain ⟨sql, aggregated, made⟩ := ok_of_bind made
  obtain ⟨others, othersMade, made⟩ := ok_of_bind made
  cases made
  exact ⟨⟨target, pairs, query, found, joined, compiled⟩, sql, others, aggregated, othersMade,
    rfl⟩

theorem Inlined.merged (query : QueryParts) {parents : List InlineParent}
    {pieces : List (InlineJoin × QueryParts)}
    (made : Inlined compiler outer outerAlias location query.aliases parents pieces) :
    (pieces.map (·.2)).foldl QueryParts.merge query =
      { query with
        entries := query.entries ++ pieces.flatMap (·.2.entries)
        sources := query.sources ++ pieces.flatMap (·.2.sources)
        aliases := query.aliases ++ pieces.map (·.1.aliasName) } := by
  induction parents generalizing query pieces with
  | nil =>
      cases made
      simp
  | cons parent rest ih =>
      obtain _ | ⟨nested, later⟩ := made
      rw [← aliases_merge_inlined nested] at later
      rw [List.map_cons, List.foldl_cons, ih _ later, aliases_merge_inlined]
      simp [QueryParts.merge, RelatedQuery.inlined, Compiler.inlineParts]

theorem Inlined.mem {aliases : List String} {parents : List InlineParent}
    {pieces : List (InlineJoin × QueryParts)} {parent : InlineParent}
    (made : Inlined compiler outer outerAlias location aliases parents pieces)
    (member : parent ∈ parents) :
    Nonempty (RelatedQuery compiler outer outerAlias location (.inlineParent parent)) := by
  induction made with
  | nil => cases member
  | cons nested _ ih =>
      rcases List.mem_cons.mp member with rfl | member
      · exact ⟨nested⟩
      · exact ih member

theorem referencedEntries_mem {parents : List ReferencedParent} {entries : List SelectEntry}
    {parent : ReferencedParent}
    (made : compiler.referencedEntries outer outerAlias location parents = .ok entries)
    (member : parent ∈ parents) :
    Nonempty (RelatedQuery compiler outer outerAlias location (.referencedParent parent)) := by
  induction parents generalizing entries with
  | nil => cases member
  | cons first rest ih =>
      obtain ⟨nested, others, othersMade, _⟩ := referencedEntries_cons made
      rcases List.mem_cons.mp member with rfl | member
      · exact ⟨nested⟩
      · exact ih othersMade member

theorem childEntries_mem {collections : List ChildCollection} {entries : List SelectEntry}
    {collection : ChildCollection}
    (made : compiler.childEntries outer outerAlias location collections = .ok entries)
    (member : collection ∈ collections) :
    Nonempty (RelatedQuery compiler outer outerAlias location (.childCollection collection)) := by
  induction collections generalizing entries with
  | nil => cases member
  | cons first rest ih =>
      obtain ⟨nested, sql, others, _, othersMade, _⟩ := childEntries_cons made
      rcases List.mem_cons.mp member with rfl | member
      · exact ⟨nested⟩
      · exact ih othersMade member

end

structure Assembly (compiler : Compiler) (spec : TableSpec) (embedding : Embedding)
    (location : Location) where
  relation : Relation
  plain : List SelectEntry
  inlined : List (InlineJoin × QueryParts)
  referenced : List SelectEntry
  children : List SelectEntry
  found : compiler.findRelation spec.table location = .ok relation
  plainMade : spec.fields.mapM (compiler.nativeEntry relation (embedding.ownAlias relation)
    (location.enterTable spec.table)) = .ok plain
  inlinedMade : Inlined compiler relation (embedding.ownAlias relation) location
    (embedding.outerAliases ++ [embedding.ownAlias relation]) spec.inlineParents inlined
  referencedMade : compiler.referencedEntries relation (embedding.ownAlias relation) location
    spec.referencedParents = .ok referenced
  childrenMade : compiler.childEntries relation (embedding.ownAlias relation) location
    spec.childCollections = .ok children

namespace Assembly

variable {compiler : Compiler} {spec : TableSpec} {embedding : Embedding} {location : Location}

def aliasName (assembly : Assembly compiler spec embedding location) : String :=
  embedding.ownAlias assembly.relation

def hidden (assembly : Assembly compiler spec embedding location) : List SelectEntry :=
  if embedding.exportsKey then compiler.hiddenEntries assembly.relation assembly.aliasName else []

def entries (assembly : Assembly compiler spec embedding location) : List SelectEntry :=
  assembly.hidden ++ assembly.plain ++ assembly.inlined.flatMap (·.2.entries) ++
    assembly.referenced ++ assembly.children

def sources (assembly : Assembly compiler spec embedding location) : List String :=
  (compiler.sourceName assembly.relation.id ++ " " ++ assembly.aliasName) ::
    assembly.inlined.flatMap (·.2.sources)

def query (assembly : Assembly compiler spec embedding location) : BaseQuery where
  aliasName := assembly.aliasName
  joins := assembly.inlined.map (·.1)
  parts :=
    { entries := assembly.entries
      sources := assembly.sources
      conditions := compiler.rowConditions assembly.aliasName embedding spec.condition
      orderBy := embedding.orderBy.map (Text.replace · aliasMark assembly.aliasName)
      aliases := embedding.outerAliases ++ assembly.aliasName ::
        assembly.inlined.map (·.1.aliasName) }

theorem inlineJoins_eq (assembly : Assembly compiler spec embedding location)
    (entries : List SelectEntry) (sources : List String) :
    compiler.inlineJoins assembly.relation assembly.aliasName location
        { entries, sources, aliases := embedding.outerAliases ++ [assembly.aliasName] }
        spec.inlineParents =
      .ok (assembly.inlined.map (·.1),
        { entries := entries ++ assembly.inlined.flatMap (·.2.entries)
          sources := sources ++ assembly.inlined.flatMap (·.2.sources)
          aliases := embedding.outerAliases ++ [assembly.aliasName] ++
            assembly.inlined.map (·.1.aliasName) }) := by
  refine inlineJoins_eq_ok_iff.mpr ⟨assembly.inlined, assembly.inlinedMade, rfl, ?_⟩
  exact (assembly.inlinedMade.merged { entries, sources, aliases := _ }).symm

theorem related_compiled (assembly : Assembly compiler spec embedding location)
    {related : Related} (member : related ∈ spec.related) :
    Nonempty (RelatedQuery compiler assembly.relation assembly.aliasName location related) := by
  unfold TableSpec.related at member
  simp only [List.mem_append, List.mem_map] at member
  rcases member with (⟨parent, member, rfl⟩ | ⟨parent, member, rfl⟩) | ⟨collection, member, rfl⟩
  · exact assembly.inlinedMade.mem member
  · exact referencedEntries_mem assembly.referencedMade member
  · exact childEntries_mem assembly.childrenMade member

end Assembly

theorem Embedding.ownAlias_not_mem (embedding : Embedding) (relation : Relation) :
    embedding.ownAlias relation ∉ embedding.outerAliases := by
  rw [ownAlias, scope_eq]
  exact Naming.fresh_not_mem _ _ _

theorem Embedding.addAlias_scope (embedding : Embedding) (relation : Relation) :
    embedding.scope.addAlias (embedding.ownAlias relation) =
      { aliases := embedding.outerAliases ++ [embedding.ownAlias relation] } := by
  rw [scope_eq, QueryParts.addAlias, if_neg (embedding.ownAlias_not_mem relation)]

theorem Embedding.own_eq (embedding : Embedding) (relation : Relation) (source : String)
    (entries : List SelectEntry) :
    ((embedding.scope.addAlias (embedding.ownAlias relation)).addSource source).addEntries entries =
      { entries, sources := [source]
        aliases := embedding.outerAliases ++ [embedding.ownAlias relation] } := by
  rw [addAlias_scope, QueryParts.addEntries_eq]
  rfl

/-- The parts of a base query make it, unless two of its columns share a name. -/
theorem Assembly.baseQuery_eq {compiler : Compiler} {spec : TableSpec} {embedding : Embedding}
    {location : Location} (assembly : Assembly compiler spec embedding location) :
    compiler.baseQuery spec embedding location =
      match assembly.query.parts.repeatedName? with
      | some name => (location.enterTable spec.table).reject (.duplicateName name)
      | none => .ok assembly.query := by
  obtain ⟨table, fields, inlineParents, referencedParents, childCollections, condition⟩ := spec
  have joinsMade := assembly.inlineJoins_eq
  unfold Assembly.aliasName at joinsMade
  rw [Compiler.baseQuery]
  simp only [assembly.found, assembly.plainMade, ok_bind, embedding.own_eq, joinsMade,
    assembly.referencedMade, assembly.childrenMade]
  simp only [QueryParts.addEntries_eq, QueryParts.addConditions_eq, QueryParts.setOrder,
    Assembly.query, Assembly.entries, Assembly.sources, Assembly.hidden, Assembly.aliasName,
    List.append_assoc, List.singleton_append, List.nil_append]
  rfl

/-- A base query exists only where all of its parts do, and no two of its columns share a name. -/
theorem Compiler.exists_assembly {compiler : Compiler} {spec : TableSpec} {embedding : Embedding}
    {location : Location} {query : BaseQuery}
    (compiled : compiler.baseQuery spec embedding location = .ok query) :
    ∃ assembly : Assembly compiler spec embedding location,
      query = assembly.query ∧ query.parts.repeatedName? = none := by
  have assembled : Nonempty (Assembly compiler spec embedding location) := by
    obtain ⟨table, fields, inlineParents, referencedParents, childCollections, condition⟩ := spec
    rw [Compiler.baseQuery] at compiled
    obtain ⟨relation, found, compiled⟩ := ok_of_bind compiled
    obtain ⟨plain, plainMade, compiled⟩ := ok_of_bind compiled
    obtain ⟨⟨joins, joined⟩, joinsMade, compiled⟩ := ok_of_bind compiled
    obtain ⟨referenced, referencedMade, compiled⟩ := ok_of_bind compiled
    obtain ⟨children, childrenMade, compiled⟩ := ok_of_bind compiled
    rw [embedding.own_eq] at joinsMade
    obtain ⟨inlined, inlinedMade, -, -⟩ := inlineJoins_eq_ok_iff.mp joinsMade
    exact ⟨⟨relation, plain, inlined, referenced, children, found, plainMade, inlinedMade,
      referencedMade, childrenMade⟩⟩
  obtain ⟨assembly⟩ := assembled
  rw [assembly.baseQuery_eq] at compiled
  cases repeated : assembly.query.parts.repeatedName? with
  | some name =>
      rw [repeated] at compiled
      cases compiled
  | none =>
      rw [repeated] at compiled
      cases compiled
      exact ⟨assembly, rfl, repeated⟩

theorem Compiler.baseQuery_ok {compiler : Compiler} {spec : TableSpec} {embedding : Embedding}
    {location : Location} {query : BaseQuery}
    (compiled : compiler.baseQuery spec embedding location = .ok query) :
    ∃ assembly : Assembly compiler spec embedding location,
      query.aliasName = assembly.aliasName ∧ query.joins = assembly.inlined.map (·.1) ∧
      query.parts.entries = assembly.entries ∧ query.parts.sources = assembly.sources ∧
      query.parts.repeatedName? = none := by
  obtain ⟨assembly, rfl, unique⟩ := Compiler.exists_assembly compiled
  exact ⟨assembly, rfl, rfl, rfl, rfl, unique⟩

theorem finished_eq {shown : Type} {view : BaseQuery → shown}
    (tells : ∀ query other, view query = view other →
      query.parts.repeatedName? = other.parts.repeatedName?)
    {parts otherParts : QueryParts} {aliasName otherAlias : String}
    {joins otherJoins : List InlineJoin} (location : Location)
    (same : view ⟨aliasName, joins, parts⟩ = view ⟨otherAlias, otherJoins, otherParts⟩) :
    (match parts.repeatedName? with
      | some name => location.reject (.duplicateName name)
      | none => Except.ok (BaseQuery.mk aliasName joins parts)).map view =
    (match otherParts.repeatedName? with
      | some name => location.reject (.duplicateName name)
      | none => Except.ok (BaseQuery.mk otherAlias otherJoins otherParts)).map view := by
  have repeated : parts.repeatedName? = otherParts.repeatedName? := tells _ _ same
  rw [repeated]
  split
  · rfl
  · exact congrArg Except.ok same

/-- The text selects the value, indented, from the rows of the base query under the alias `q`. -/
def Compiler.SelectsOver (compiler : Compiler) (query : BaseQuery) (value sql : String) : Prop :=
  ∃ header comment, sql = header ++ "\n" ++ compiler.indented value ++ " json\nfrom (\n" ++
    comment ++ "\n" ++ compiler.indented (compiler.sql query) ++ "\n) q"

theorem Compiler.wrapped_selectsOver (compiler : Compiler) (what table value : String)
    (query : BaseQuery) :
    compiler.SelectsOver query value (compiler.wrapped what table value query) := by
  have ending : "\n) " ++ wrapperAlias = "\n) q" := by decide
  refine ⟨"select\n" ++ compiler.indented ("-- " ++ what ++ " for table '" ++ table ++ "'"),
    compiler.indented ("-- base query for table '" ++ table ++ "'"), ?_⟩
  exact String.append_assoc.trans (congrArg (_ ++ ·) ending)

/-! A shop with customers, orders and their items, at which the statements about queries are tried
out. Both the buyer and the seller of an order are customers. -/

namespace Shop

def keyField : Field :=
  { name := "id", typeCode := .integer, databaseType := "int4", nullable := some false
    primaryKeyPart := some 1 }

def dataField (name : String) (nullable : Bool) : Field :=
  { name, typeCode := .integer, databaseType := "int4", nullable := some nullable }

def customerRelation : Relation :=
  { id := ⟨none, "customer"⟩, fields := [keyField, dataField "full_name" true] }

def itemRelation : Relation :=
  { id := ⟨none, "item"⟩, fields := [keyField, dataField "order_id" false, dataField "sku" false] }

def orderRelation : Relation :=
  { id := ⟨none, "orders"⟩
    fields := [keyField, dataField "buyer_id" false, dataField "seller_id" true] }

def catalog : Catalog where
  schemaName := none
  relations := [customerRelation, itemRelation, orderRelation]
  foreignKeys :=
    [{ child := ⟨none, "item"⟩, parent := ⟨none, "orders"⟩, pairs := [⟨"order_id", "id"⟩] },
     { child := ⟨none, "orders"⟩, parent := ⟨none, "customer"⟩, pairs := [⟨"buyer_id", "id"⟩] },
     { child := ⟨none, "orders"⟩, parent := ⟨none, "customer"⟩, pairs := [⟨"seller_id", "id"⟩] }]
  caseRule := .storedLower
  productName := "PostgreSQL"
  productVersion := ""

def compiler : Compiler := { catalog, dialect := .postgres, options := {} }

def buyer : InlineParent :=
  { spec := { table := "customer", fields := [{ field := some "full_name" }] }
    link := { foreignKeyFields := some ["buyer_id"] } }

def inlinedSeller : InlineParent :=
  { spec :=
      { table := "customer"
        fields := [{ field := some "full_name", property := some "sellerName" }] }
    link := { foreignKeyFields := some ["seller_id"] } }

def seller : ReferencedParent :=
  { name := "seller"
    spec := { table := "customer", fields := [{ field := some "full_name" }] }
    link := { foreignKeyFields := some ["seller_id"] } }

def skus : ChildCollection :=
  { name := "skus"
    spec := { table := "item", fields := [{ field := some "sku" }] }
    unwrap := some true }

def orders : TableSpec :=
  { table := "orders"
    fields := [{ field := some "id" }, { expression := some "$$.id + 1", property := some "next" }]
    inlineParents := [buyer, inlinedSeller]
    referencedParents := [seller]
    childCollections := [skus] }

def query : QuerySpec :=
  { name := "orders", tableSpec := orders
    representations := some [.objectRows, .arrayRow, .columnRows] }

end Shop

end NestedQuery

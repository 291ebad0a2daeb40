import NestedQuery.Proofs.Catalog.Index
import NestedQuery.Proofs.Query.Lockstep

/-! An error leads to its cause. Its location names related tables that the specification holds, one
inside the other, and what the error says of the table or of the link where they end is so in the
catalog. -/

namespace NestedQuery

/-- The computation fails for reasons of one kind only. -/
def FailsOnly {α ε : Type} (reason : ε → Prop) (action : Except ε α) : Prop :=
  ∀ error, action = .error error → reason error

namespace FailsOnly

variable {α β ε : Type} {reason : ε → Prop}

theorem ok (value : α) : FailsOnly reason (.ok value : Except ε α) := by
  intro error failed
  cases failed

theorem error {cause : ε} (holds : reason cause) :
    FailsOnly reason (.error cause : Except ε α) := by
  intro error failed
  cases failed
  exact holds

theorem bind {action : Except ε α} {next : α → Except ε β} (start : FailsOnly reason action)
    (following : ∀ value, action = .ok value → FailsOnly reason (next value)) :
    FailsOnly reason (action >>= next) := by
  intro error failed
  cases started : action with
  | error cause =>
      rw [started] at failed
      cases failed
      exact start error started
  | ok value =>
      rw [started] at failed
      exact following value started error failed

theorem mapM {make : α → Except ε β} {items : List α}
    (each : ∀ item ∈ items, FailsOnly reason (make item)) :
    FailsOnly reason (items.mapM make) := by
  induction items with
  | nil => exact .ok []
  | cons item rest ih =>
      rw [List.mapM_cons]
      refine (each item List.mem_cons_self).bind fun result _ => ?_
      have later := ih fun other member => each other (List.mem_cons_of_mem _ member)
      exact later.bind fun others _ => .ok _

end FailsOnly

/-- Related tables, each of them held by the one before, that lead from one table specification to
another. -/
inductive TableSpec.LeadsTo : TableSpec → List Related → TableSpec → Prop
  | here (spec) : LeadsTo spec [] spec
  | there {spec node : TableSpec} {related : Related} {steps : List Related} :
      related ∈ spec.related → LeadsTo related.spec steps node →
        LeadsTo spec (related :: steps) node

def Compiler.tableId (compiler : Compiler) (table : String) : RelationId :=
  compiler.catalog.idFor table compiler.options.defaultSchema

/-- The last of the related tables, whose link joins two relations of the catalog. -/
structure LastLink (compiler : Compiler) (root : TableSpec) (steps : List Related) where
  before : List Related
  related : Related
  holder : TableSpec
  outer : Relation
  target : Relation
  isLast : steps = before ++ [related]
  leads : root.LeadsTo before holder
  held : related ∈ holder.related
  outerFound : compiler.catalog.relation? (compiler.tableId holder.table) = some outer
  targetFound : compiler.catalog.relation? (compiler.tableId related.spec.table) = some target

namespace LastLink

variable {compiler : Compiler} {root : TableSpec} {steps : List Related}

def child (link : LastLink compiler root steps) : Relation :=
  link.related.childSide link.outer link.target

def parent (link : LastLink compiler root steps) : Relation :=
  link.related.parentSide link.outer link.target

def keys (link : LastLink compiler root steps) : List ForeignKey :=
  compiler.catalog.foreignKeys.filter fun key =>
    key.child == link.child.id && key.parent == link.parent.id

def within {outermost : TableSpec} {first : Related} (held : first ∈ outermost.related)
    (link : LastLink compiler first.spec steps) : LastLink compiler outermost (first :: steps) where
  before := first :: link.before
  related := link.related
  holder := link.holder
  outer := link.outer
  target := link.target
  isLast := congrArg (first :: ·) link.isLast
  leads := .there held link.leads
  held := link.held
  outerFound := link.outerFound
  targetFound := link.targetFound

theorem keysBetween_eq (link : LastLink compiler root steps) :
    compiler.catalog.keysBetween link.child.id link.parent.id = link.keys := by
  have known {id : RelationId} {relation : Relation}
      (found : compiler.catalog.relation? id = some relation) :
      (compiler.catalog.relation? relation.id).isSome = true := by
    rw [(Catalog.mem_of_relation? found).2, found]
    rfl
  have outerKnown := known link.outerFound
  have targetKnown := known link.targetFound
  rw [Catalog.keysBetween_eq_filter]
  unfold keys child parent
  cases link.related <;>
    simp only [Related.childSide, Related.parentSide, outerKnown, targetKnown, Bool.and_self,
      if_true]

end LastLink

/-- What the cause says of the catalog is so where the related tables end. -/
def SpecCause.HoldsAt (compiler : Compiler) (root : TableSpec) (steps : List Related)
    (node : TableSpec) : SpecCause → Prop
  | .unknownRelation shown =>
      shown = (compiler.tableId node.table).display ∧
        ∀ relation ∈ compiler.catalog.relations, relation.id ≠ compiler.tableId node.table
  | .noForeignKey child parent =>
      ∃ link : LastLink compiler root steps,
        child = link.child.id.display ∧ parent = link.parent.id.display ∧ link.keys = []
  | .severalForeignKeys child parent candidates =>
      ∃ link : LastLink compiler root steps,
        child = link.child.id.display ∧ parent = link.parent.id.display ∧
          2 ≤ link.keys.length ∧ candidates = link.keys.map ForeignKey.childFields
  | .unknownField .. | .noForeignKeyWith .. | .invalid _ => True

theorem SpecCause.HoldsAt.within {compiler : Compiler} {outermost node : TableSpec}
    {first : Related} {steps : List Related} {cause : SpecCause} (held : first ∈ outermost.related)
    (holds : cause.HoldsAt compiler first.spec steps node) :
    cause.HoldsAt compiler outermost (first :: steps) node := by
  cases cause with
  | unknownRelation shown => exact holds
  | noForeignKey child parent =>
      obtain ⟨link, facts⟩ := holds
      exact ⟨link.within held, facts⟩
  | severalForeignKeys child parent candidates =>
      obtain ⟨link, facts⟩ := holds
      exact ⟨link.within held, facts⟩
  | unknownField relation field => trivial
  | noForeignKeyWith child parent fields => trivial
  | invalid flaw => trivial

/-- The error lies where related tables end that lead on from a table specification at the given
location, and its cause holds there. -/
def Traced (compiler : Compiler) (root : TableSpec) (location : Location) (error : SpecError) :
    Prop :=
  error.location.query = location.query ∧
    ∃ steps node, root.LeadsTo steps node ∧
      (error.location.parts = location.parts ++ steps.map Related.describe ∨
        error.location.parts =
          location.parts ++ steps.map Related.describe ++ ["table '" ++ node.table ++ "'"]) ∧
      error.cause.HoldsAt compiler root steps node

namespace Traced

variable {compiler : Compiler} {root : TableSpec} {location : Location} {cause : SpecCause}

theorem here (holds : cause.HoldsAt compiler root [] root) :
    Traced compiler root location { location, cause } :=
  ⟨rfl, [], root, .here root, .inl (by simp), holds⟩

theorem atTable (holds : cause.HoldsAt compiler root [] root) :
    Traced compiler root location { location := location.enterTable root.table, cause } :=
  ⟨rfl, [], root, .here root, .inr (by simp [Location.enterTable, Location.enter]), holds⟩

theorem atRelated {related : Related} (held : related ∈ root.related)
    (holds : cause.HoldsAt compiler root [related] related.spec) :
    Traced compiler root location { location := location.enter related.describe, cause } :=
  ⟨rfl, [related], related.spec, .there held (.here _), .inl rfl, holds⟩

theorem within {related : Related} {error : SpecError} (held : related ∈ root.related)
    (traced : Traced compiler related.spec (location.enter related.describe) error) :
    Traced compiler root location error := by
  obtain ⟨sameQuery, steps, node, leads, parts, holds⟩ := traced
  refine ⟨sameQuery, related :: steps, node, .there held leads, ?_, holds.within held⟩
  simpa [Location.enter] using parts

end Traced

section

variable {compiler : Compiler} {spec : TableSpec} {location : Location}

theorem relation?_of_findRelation {table : String} {relation : Relation}
    (found : compiler.findRelation table location = .ok relation) :
    compiler.catalog.relation? (compiler.tableId table) = some relation := by
  unfold Compiler.findRelation Catalog.findRelation at found
  dsimp only at found
  split at found
  · rename_i known
    cases found
    exact known
  · cases found

theorem findRelation_fails {table : String} {error : SpecError}
    (failed : compiler.findRelation table location = .error error) :
    error = ⟨location, .unknownRelation (compiler.tableId table).display⟩ ∧
      ∀ relation ∈ compiler.catalog.relations, relation.id ≠ compiler.tableId table := by
  unfold Compiler.findRelation Catalog.findRelation at failed
  dsimp only at failed
  split at failed
  · cases failed
  · rename_i unknown
    cases failed
    refine ⟨rfl, fun relation member same => ?_⟩
    have known := Catalog.isSome_relation?_iff.mpr (List.mem_map_of_mem member)
    rw [same] at known
    exact absurd unknown (Option.ne_none_iff_isSome.mpr known)

theorem findRelation_traced :
    FailsOnly (Traced compiler spec location) (compiler.findRelation spec.table location) := by
  intro error failed
  obtain ⟨rfl, unknown⟩ := findRelation_fails failed
  exact .here ⟨rfl, unknown⟩

theorem findField_fails {relation : Relation} {name : String} :
    FailsOnly (fun error => ∃ shown, error = ⟨location, .unknownField shown name⟩)
      (compiler.catalog.findField relation name location) := by
  unfold Catalog.findField
  split
  · exact .ok _
  · exact .error ⟨_, rfl⟩

theorem findForeignKey_holds {steps : List Related} {node : TableSpec} {cause : SpecCause}
    {fields : Option (List String)} (link : LastLink compiler spec steps)
    (failed : compiler.catalog.findForeignKey link.child.id link.parent.id fields =
      .error cause) :
    cause.HoldsAt compiler spec steps node := by
  unfold Catalog.findForeignKey at failed
  rw [link.keysBetween_eq] at failed
  dsimp only at failed
  split at failed
  · split at failed
    · cases failed
    · cases failed
      trivial
  · split at failed
    · rename_i none
      cases failed
      exact ⟨link, rfl, rfl, none⟩
    · cases failed
    · rename_i notNone notOne
      cases failed
      refine ⟨link, rfl, rfl, ?_, rfl⟩
      match listed : link.keys with
      | [] => exact absurd listed notNone
      | [key] => exact absurd listed (notOne key)
      | _ :: _ :: rest => simp

theorem joinPairs_traced {related : Related} {outer target : Relation} (location : Location)
    (held : related ∈ spec.related)
    (outerFound : compiler.catalog.relation? (compiler.tableId spec.table) = some outer)
    (targetFound : compiler.catalog.relation? (compiler.tableId related.spec.table) =
      some target) :
    FailsOnly (Traced compiler spec location)
      (compiler.catalog.joinPairs related.link (related.childSide outer target)
        (related.parentSide outer target) (location.enter related.describe)) := by
  let link : LastLink compiler spec [related] :=
    ⟨[], related, spec, outer, target, rfl, .here spec, held, outerFound, targetFound⟩
  have field (relation : Relation) (name : String) : FailsOnly (Traced compiler spec location)
      (compiler.catalog.findField relation name (location.enter related.describe)) := by
    intro error failed
    obtain ⟨shown, rfl⟩ := findField_fails error failed
    exact .atRelated held trivial
  unfold Catalog.joinPairs
  split
  · split
    · exact .ok _
    · rename_i cause failed
      exact .error (.atRelated held (findForeignKey_holds link failed))
  · split
    · exact .error (.atRelated held trivial)
    · split
      · exact .error (.atRelated held trivial)
      · refine .mapM fun pair _ => ?_
        refine (field _ _).bind fun _ _ => ?_
        exact (field _ _).bind fun _ _ => .ok _

theorem nativeEntry_traced (relation : Relation) (aliasName : String) (field : FieldSpec) :
    FailsOnly (Traced compiler spec location)
      (compiler.nativeEntry relation aliasName (location.enterTable spec.table) field) := by
  have named : FailsOnly (Traced compiler spec location)
      (field.propertyName compiler.options.naming (location.enterTable spec.table)) := by
    unfold FieldSpec.propertyName
    split
    · exact .ok _
    · exact .ok _
    · exact .ok _
    · exact .error (.atTable trivial)
    · exact .error (.atTable trivial)
  refine named.bind fun name _ => FailsOnly.bind ?_ fun expression _ => .ok _
  unfold Compiler.fieldSql
  split
  · refine FailsOnly.bind ?_ fun _ _ => .ok _
    intro error failed
    obtain ⟨shown, rfl⟩ := findField_fails error failed
    exact .atTable trivial
  · exact .ok _
  · exact .error (.atTable trivial)

theorem arrayRowSql_traced {related : Related} (held : related ∈ spec.related) (table : String)
    (query : BaseQuery) (unwrap : Bool) (order : Option String) :
    FailsOnly (Traced compiler spec location)
      (compiler.arrayRowSql table query unwrap order (location.enter related.describe)) := by
  unfold Compiler.arrayRowSql
  split
  · split
    · exact .ok _
    · exact .error (.atRelated held trivial)
  · exact .ok _

end

section

variable {compiler : Compiler} {spec : TableSpec} {location : Location} {outer : Relation}
  {outerAlias : String}
  (outerFound : compiler.catalog.relation? (compiler.tableId spec.table) = some outer)
include outerFound

theorem related_traced (location : Location) {related : Related} (held : related ∈ spec.related)
    (below : ∀ embedding location, FailsOnly (Traced compiler related.spec location)
      (compiler.baseQuery related.spec embedding location))
    (outerAlias : String) ⦃α : Type⦄
    ⦃use : Relation → List KeyPair → BaseQuery → Except SpecError α⦄
    (used : ∀ target pairs query, FailsOnly (Traced compiler spec location)
      (use target pairs query)) :
    FailsOnly (Traced compiler spec location) (do
      let inside := location.enter related.describe
      let target ← compiler.findRelation related.spec.table inside
      let pairs ← compiler.catalog.joinPairs related.link (related.childSide outer target)
        (related.parentSide outer target) inside
      let query ← compiler.baseQuery related.spec (related.embedding outerAlias target pairs)
        inside
      use target pairs query) := by
  refine FailsOnly.bind (fun error failed => .within held (findRelation_traced error failed))
    fun target found => ?_
  have targetFound := relation?_of_findRelation found
  refine (joinPairs_traced location held outerFound targetFound).bind fun pairs _ => ?_
  refine FailsOnly.bind (fun error failed => .within held (below _ _ error failed))
    fun query _ => ?_
  exact used target pairs query

theorem inlineJoins_traced {parents : List InlineParent} {query : QueryParts}
    (held : ∀ parent ∈ parents, Related.inlineParent parent ∈ spec.related)
    (below : ∀ parent ∈ parents, ∀ embedding location,
      FailsOnly (Traced compiler parent.spec location)
        (compiler.baseQuery parent.spec embedding location)) :
    FailsOnly (Traced compiler spec location)
      (compiler.inlineJoins outer outerAlias location query parents) := by
  induction parents generalizing query with
  | nil =>
      rw [Compiler.inlineJoins]
      exact .ok _
  | cons parent rest ih =>
      obtain ⟨heldHere, heldLater⟩ := List.forall_mem_cons.mp held
      obtain ⟨nested, belowLater⟩ := List.forall_mem_cons.mp below
      obtain ⟨parentSpec, link, optional⟩ := parent
      rw [Compiler.inlineJoins]
      have step := related_traced outerFound location heldHere nested outerAlias
      refine step fun target pairs query => ?_
      exact (ih heldLater belowLater).bind fun others _ => .ok _

theorem referencedEntries_traced {parents : List ReferencedParent}
    (held : ∀ parent ∈ parents, Related.referencedParent parent ∈ spec.related)
    (below : ∀ parent ∈ parents, ∀ embedding location,
      FailsOnly (Traced compiler parent.spec location)
        (compiler.baseQuery parent.spec embedding location)) :
    FailsOnly (Traced compiler spec location)
      (compiler.referencedEntries outer outerAlias location parents) := by
  induction parents with
  | nil =>
      rw [Compiler.referencedEntries]
      exact .ok []
  | cons parent rest ih =>
      obtain ⟨heldHere, heldLater⟩ := List.forall_mem_cons.mp held
      obtain ⟨nested, belowLater⟩ := List.forall_mem_cons.mp below
      obtain ⟨name, parentSpec, link, optional⟩ := parent
      rw [Compiler.referencedEntries]
      have step := related_traced outerFound location heldHere nested outerAlias
      refine step fun target pairs query => ?_
      exact (ih heldLater belowLater).bind fun others _ => .ok _

theorem childEntries_traced {collections : List ChildCollection}
    (held : ∀ collection ∈ collections, Related.childCollection collection ∈ spec.related)
    (below : ∀ collection ∈ collections, ∀ embedding location,
      FailsOnly (Traced compiler collection.spec location)
        (compiler.baseQuery collection.spec embedding location)) :
    FailsOnly (Traced compiler spec location)
      (compiler.childEntries outer outerAlias location collections) := by
  induction collections with
  | nil =>
      rw [Compiler.childEntries]
      exact .ok []
  | cons collection rest ih =>
      obtain ⟨heldHere, heldLater⟩ := List.forall_mem_cons.mp held
      obtain ⟨nested, belowLater⟩ := List.forall_mem_cons.mp below
      obtain ⟨name, childSpec, link, filter, unwrap, orderBy⟩ := collection
      rw [Compiler.childEntries]
      have step := related_traced outerFound location heldHere nested outerAlias
      refine step fun target pairs query => ?_
      refine (arrayRowSql_traced heldHere _ _ _ _).bind fun sql _ => ?_
      exact (ih heldLater belowLater).bind fun others _ => .ok _

end

theorem baseQuery_traced (compiler : Compiler) (spec : TableSpec) (embedding : Embedding)
    (location : Location) :
    FailsOnly (Traced compiler spec location) (compiler.baseQuery spec embedding location) := by
  induction spec using TableSpec.nested_induction generalizing embedding location with
  | step spec inlined referenced collected =>
      obtain ⟨table, fields, inlineParents, referencedParents, childCollections, condition⟩ := spec
      rw [Compiler.baseQuery]
      refine findRelation_traced.bind fun relation found => ?_
      have known := relation?_of_findRelation found
      refine FailsOnly.bind (.mapM fun field _ => nativeEntry_traced relation _ field)
        fun plain _ => ?_
      refine (inlineJoins_traced known ?_ inlined).bind fun joins _ => ?_
      · intro parent member
        simp [TableSpec.related, member]
      refine (referencedEntries_traced known ?_ referenced).bind fun objects _ => ?_
      · intro parent member
        simp [TableSpec.related, member]
      refine (childEntries_traced known ?_ collected).bind fun arrays _ => ?_
      · intro collection member
        simp [TableSpec.related, member]
      dsimp only
      split
      · exact .error (.atTable trivial)
      · exact .ok _

theorem querySql_traced (compiler : Compiler) (query : QuerySpec)
    (representation : Representation) :
    FailsOnly (Traced compiler query.tableSpec { query := query.name })
      (compiler.querySql query representation) := by
  unfold Compiler.querySql
  dsimp only
  split
  · exact .error (.here trivial)
  · cases representation with
    | columnRows => exact (baseQuery_traced _ _ _ _).bind fun base _ => .ok _
    | objectRows => exact (baseQuery_traced _ _ _ _).bind fun base _ => .ok _
    | arrayRow =>
        refine findRelation_traced.bind fun relation _ => ?_
        refine (baseQuery_traced _ _ _ _).bind fun base _ => ?_
        exact .ok _

/-- Errors point into the specification and tell the truth: an error of a query names the query and
related tables that lead from the query's table to one inside of it, and perhaps that table. A
relation that is reported missing is that of this table, and keys that are reported missing or
ambiguous are so between the two sides of the last link. -/
theorem error_leads_to_cause (compiler : Compiler) (query : QuerySpec) (error : SpecError)
    (failed : compiler.compileQuery query = .error error) :
    error.location.query = query.name ∧
      ∃ steps node, query.tableSpec.LeadsTo steps node ∧
        (error.location.parts = steps.map Related.describe ∨
          error.location.parts =
            steps.map Related.describe ++ ["table '" ++ node.table ++ "'"]) ∧
        error.cause.HoldsAt compiler query.tableSpec steps node := by
  cases made : compiler.querySqls query with
  | error cause =>
      have traced : FailsOnly (Traced compiler query.tableSpec { query := query.name })
          (compiler.querySqls query) := by
        refine FailsOnly.bind (.mapM fun representation _ => ?_) fun sqls _ => .ok _
        exact (querySql_traced compiler query representation).bind fun sql _ => .ok _
      unfold Compiler.compileQuery at failed
      rw [made] at failed
      cases failed
      simpa [Traced] using traced error made
  | ok sqls =>
      -- Where the base query of the table was made, so is the result type.
      obtain ⟨embedding, base, compiled⟩ := baseQuery_of_querySqls made
      obtain ⟨type, typed, _⟩ := inStep compiler _ _ _ _ compiled
      unfold Compiler.compileQuery at failed
      rw [made, ok_bind] at failed
      cases wanted : query.wantsTypes with
      | false =>
          rw [wanted] at failed
          cases failed
      | true =>
          simp only [wanted, if_true, typed] at failed
          cases failed

theorem error_of_map {α β ε : Type} {action : Except ε α} {change : α → β} {error : ε}
    (failed : action.map change = .error error) : action = .error error := by
  cases action with
  | error cause => exact congrArg Except.error (Except.error.inj failed)
  | ok value => cases failed

namespace Shop

def ambiguousOrders : QuerySpec :=
  { name := "sold items"
    tableSpec :=
      { table := "item"
        referencedParents :=
          [{ name := "order"
             spec :=
               { table := "orders"
                 inlineParents := [{ spec := { table := "customer" } }] } }] } }

def ambiguity : SpecError :=
  { location := { query := "sold items", parts := ["parent 'orders'", "inline parent 'customer'"] }
    cause := .severalForeignKeys "orders" "customer" [["buyer_id"], ["seller_id"]] }

end Shop

theorem error_leads_to_cause_shop :
    Shop.compiler.compileQuery Shop.ambiguousOrders = .error Shop.ambiguity ∧
      ∃ steps node, Shop.ambiguousOrders.tableSpec.LeadsTo steps node ∧
        (["parent 'orders'", "inline parent 'customer'"] = steps.map Related.describe ∨
          ["parent 'orders'", "inline parent 'customer'"] =
            steps.map Related.describe ++ ["table '" ++ node.table ++ "'"]) ∧
        ∃ link : LastLink Shop.compiler Shop.ambiguousOrders.tableSpec steps,
          link.child.id.display = "orders" ∧ link.parent.id.display = "customer" ∧
            2 ≤ link.keys.length ∧
            link.keys.map ForeignKey.childFields = [["buyer_id"], ["seller_id"]] := by
  have failed : Shop.compiler.compileQuery Shop.ambiguousOrders = .error Shop.ambiguity :=
    error_of_map (show (Shop.compiler.compileQuery Shop.ambiguousOrders).map (fun _ => ()) =
      .error Shop.ambiguity by decide +kernel)
  obtain ⟨_, steps, node, leads, parts, link, child, parent, several, listed⟩ :=
    error_leads_to_cause Shop.compiler Shop.ambiguousOrders Shop.ambiguity failed
  exact ⟨failed, steps, node, leads, parts, link, child.symm, parent.symm, several, listed.symm⟩

end NestedQuery

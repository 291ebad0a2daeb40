import NestedQuery.Proofs.Catalog.Index
import NestedQuery.Proofs.Query.Assembly

/-! What a result type says about the rows of a database: a parent that it reports as always present
is there for every child row whose key is complete. -/

namespace NestedQuery

abbrev Row (Value : Type) := String → Option Value

structure Database (Value : Type) where
  rows : RelationId → List (Row Value)

/-- The equations of a join hold between a child row and a parent row. Null equals nothing. -/
def Joined {Value : Type} (pairs : List KeyPair) (child parent : Row Value) : Prop :=
  ∀ pair ∈ pairs, child pair.childField ≠ none ∧
    child pair.childField = parent pair.parentField

def Complete {Value : Type} (pairs : List KeyPair) (child : Row Value) : Prop :=
  ∀ pair ∈ pairs, child pair.childField ≠ none

instance {Value : Type} [DecidableEq Value] (pairs : List KeyPair) (child parent : Row Value) :
    Decidable (Joined pairs child parent) :=
  inferInstanceAs (Decidable (∀ pair ∈ pairs, child pair.childField ≠ none ∧
    child pair.childField = parent pair.parentField))

instance {Value : Type} [DecidableEq Value] (pairs : List KeyPair) (child : Row Value) :
    Decidable (Complete pairs child) :=
  inferInstanceAs (Decidable (∀ pair ∈ pairs, child pair.childField ≠ none))

/-- A database keeps to a catalog: fields known not to be null have values, and the foreign keys
hold for the rows whose keys are complete. -/
structure Admissible {Value : Type} (catalog : Catalog) (database : Database Value) : Prop where
  notNull : ∀ relation ∈ catalog.relations, ∀ field ∈ relation.fields,
    field.nullable = some false → ∀ row ∈ database.rows relation.id, row field.name ≠ none
  references : ∀ key ∈ catalog.foreignKeys, ∀ row ∈ database.rows key.child,
    Complete key.pairs row → ∃ parent ∈ database.rows key.parent, Joined key.pairs row parent

def Relation.NeverNull (relation : Relation) (name : String) : Prop :=
  ∃ field, relation.field? name = some field ∧ field.nullable = some false

/-- A foreign key from child to parent that contains the equations of a join. -/
structure BackingKey (catalog : Catalog) (child parent : Relation) (pairs : List KeyPair)
    (key : ForeignKey) : Prop where
  stored : key ∈ catalog.foreignKeys
  child_eq : key.child = child.id
  parent_eq : key.parent = parent.id
  contains : pairs ⊆ key.pairs

theorem joinMayFail_eq_false_iff (child : Relation) (pairs : List KeyPair) :
    joinMayFail child pairs = false ↔ ∃ pair ∈ pairs, child.NeverNull pair.childField := by
  unfold joinMayFail Relation.NeverNull
  rw [Bool.not_eq_false', List.any_eq_true]
  constructor
  · rintro ⟨pair, member, known⟩
    refine ⟨pair, member, ?_⟩
    split at known
    · rename_i field found
      exact ⟨field, found, by simpa using known⟩
    · cases known
  · rintro ⟨pair, member, field, found, known⟩
    exact ⟨pair, member, by simp [found, known]⟩

theorem Admissible.value_of_neverNull {Value : Type} {catalog : Catalog}
    {database : Database Value} (admissible : Admissible catalog database) {relation : Relation}
    (stored : relation ∈ catalog.relations) {name : String} (never : relation.NeverNull name)
    {row : Row Value} (member : row ∈ database.rows relation.id) : row name ≠ none := by
  obtain ⟨field, found, known⟩ := never
  have fieldMember : field ∈ relation.fields := List.mem_of_find?_eq_some found
  have fieldName : field.name = name := by simpa using List.find?_some found
  rw [← fieldName]
  exact admissible.notNull relation stored field fieldMember known row member

theorem Admissible.parent_of_backingKey {Value : Type} {catalog : Catalog}
    {database : Database Value} (admissible : Admissible catalog database)
    {child parent : Relation} {pairs : List KeyPair} {key : ForeignKey}
    (backing : BackingKey catalog child parent pairs key) {row : Row Value}
    (member : row ∈ database.rows child.id) (complete : Complete key.pairs row) :
    ∃ parentRow ∈ database.rows parent.id, Joined pairs row parentRow := by
  rw [← backing.child_eq] at member
  obtain ⟨parentRow, parentMember, joined⟩ :=
    admissible.references key backing.stored row member complete
  rw [backing.parent_eq] at parentMember
  exact ⟨parentRow, parentMember, fun pair inPairs => joined pair (backing.contains inPairs)⟩

theorem backingKey_of_joinPairs {catalog : Catalog} {link : Link} {child parent : Relation}
    {location : Location} {pairs : List KeyPair} (noCustomJoin : link.customJoin = none)
    (joined : catalog.joinPairs link child parent location = .ok pairs) :
    ∃ key, BackingKey catalog child parent pairs key ∧ key.pairs = pairs := by
  have between {key : ForeignKey} (member : key ∈ catalog.keysBetween child.id parent.id) :
      BackingKey catalog child parent key.pairs key := by
    rw [Catalog.keysBetween_eq_filter] at member
    split at member
    · simp only [List.mem_filter, Bool.and_eq_true, beq_iff_eq] at member
      exact ⟨member.1, member.2.1, member.2.2, List.Subset.refl _⟩
    · cases member
  unfold Catalog.joinPairs at joined
  simp only [noCustomJoin] at joined
  split at joined
  · rename_i key found
    cases joined
    refine ⟨key, between ?_, rfl⟩
    unfold Catalog.findForeignKey at found
    simp only at found
    split at found
    · split at found
      · rename_i first
        cases found
        exact List.mem_of_find?_eq_some first
      · cases found
    · split at found
      · cases found
      · rename_i only
        cases found
        simp [only]
      · cases found
  · cases joined

/-- Where a parent is not reported as possibly absent, its join has a field that is never null, and
every child row has its parent row as far as a foreign key stands behind the join and is complete in
that row. A key of one column is complete in every row, and so is a key of which no field is ever
null. -/
theorem parent_present (typing : Typing) (related : Related) (child : Relation)
    (location : Location) (stored : child ∈ typing.catalog.relations)
    (promised : typing.parentMayBeAbsent related child location = .ok false) :
    ∃ parent pairs, typing.findRelation related.spec.table location = .ok parent ∧
      typing.catalog.joinPairs related.link child parent location = .ok pairs ∧
      (related.link.customJoin = none →
        ∃ key, BackingKey typing.catalog child parent pairs key ∧ key.pairs = pairs) ∧
      ∀ (Value : Type) (database : Database Value), Admissible typing.catalog database →
        ∀ row ∈ database.rows child.id,
          (∃ pair ∈ pairs, row pair.childField ≠ none) ∧
          ∀ key, BackingKey typing.catalog child parent pairs key →
            (key.pairs.length = 1 ∨ (∀ pair ∈ key.pairs, child.NeverNull pair.childField) ∨
              Complete key.pairs row) →
            ∃ parentRow ∈ database.rows parent.id, Joined pairs row parentRow := by
  unfold Typing.parentMayBeAbsent at promised
  split at promised
  · cases promised
  · obtain ⟨parent, found, promised⟩ := ok_of_bind promised
    obtain ⟨pairs, joined, promised⟩ := ok_of_bind promised
    obtain ⟨known, knownMember, never⟩ :=
      (joinMayFail_eq_false_iff child pairs).mp (Except.ok.inj promised)
    refine ⟨parent, pairs, found, joined, fun plain => backingKey_of_joinPairs plain joined, ?_⟩
    intro Value database admissible row member
    have value := admissible.value_of_neverNull stored never member
    refine ⟨⟨known, knownMember, value⟩, ?_⟩
    rintro key backing (single | allKnown | complete)
    · -- The one column of the key must be the one that is never null.
      apply admissible.parent_of_backingKey backing member
      obtain ⟨only, onlyEq⟩ := List.length_eq_one_iff.mp single
      have knownOnly : known = only := by
        simpa [onlyEq] using backing.contains knownMember
      intro pair pairMember
      rw [onlyEq, List.mem_singleton] at pairMember
      rw [pairMember, ← knownOnly]
      exact value
    · apply admissible.parent_of_backingKey backing member
      intro pair pairMember
      exact admissible.value_of_neverNull stored (allKnown pair pairMember) member
    · exact admissible.parent_of_backingKey backing member complete

def Shop.database : Database Nat where
  rows id :=
    if id = Shop.customerRelation.id then [fun name => [("id", 1)].lookup name]
    else if id = Shop.orderRelation.id then
      [fun name => [("id", 5), ("buyer_id", 1)].lookup name]
    else []

theorem parent_present_shop :
    Shop.compiler.typing.parentMayBeAbsent (.inlineParent Shop.buyer) Shop.orderRelation
        { query := "orders" } = .ok false ∧
      Admissible Shop.catalog Shop.database ∧
      ∀ row ∈ Shop.database.rows Shop.orderRelation.id,
        ∃ parentRow ∈ Shop.database.rows Shop.customerRelation.id,
          Joined [⟨"buyer_id", "id"⟩] row parentRow := by
  have promised : Shop.compiler.typing.parentMayBeAbsent (.inlineParent Shop.buyer)
      Shop.orderRelation { query := "orders" } = .ok false := by decide +kernel
  have admissible : Admissible Shop.catalog Shop.database := by
    constructor <;> decide +kernel
  refine ⟨promised, admissible, ?_⟩
  obtain ⟨parent, pairs, found, joined, backed, present⟩ :=
    parent_present Shop.compiler.typing (.inlineParent Shop.buyer) Shop.orderRelation
      { query := "orders" } (by decide) promised
  have sameParent : parent = Shop.customerRelation := by
    have computed : Shop.compiler.typing.findRelation "customer" { query := "orders" } =
        .ok Shop.customerRelation := by decide +kernel
    exact Except.ok.inj (found.symm.trans computed)
  subst sameParent
  have samePairs : pairs = [⟨"buyer_id", "id"⟩] := by
    have computed : Shop.catalog.joinPairs Shop.buyer.link Shop.orderRelation
        Shop.customerRelation { query := "orders" } = .ok [⟨"buyer_id", "id"⟩] := by
      decide +kernel
    exact Except.ok.inj (joined.symm.trans computed)
  subst samePairs
  obtain ⟨key, backing, keyPairs⟩ := backed rfl
  intro row member
  exact (present Nat Shop.database admissible row member).2 key backing (.inl (by simp [keyPairs]))

/-! Parcels whose key to a shipment has an optional part, and which name a carrier that no foreign
key stands behind. -/

namespace Depot

def shipment : Relation :=
  { id := ⟨none, "shipment"⟩
    fields := [Shop.dataField "region" false, Shop.dataField "number" false] }

def carrier : Relation := { id := ⟨none, "carrier"⟩, fields := [Shop.keyField] }

def parcel : Relation :=
  { id := ⟨none, "parcel"⟩
    fields := [Shop.keyField, Shop.dataField "region" false, Shop.dataField "number" true,
      Shop.dataField "carrier_id" false] }

def typing : Typing where
  catalog :=
    { schemaName := none
      relations := [carrier, parcel, shipment]
      foreignKeys :=
        [{ child := parcel.id, parent := shipment.id
           pairs := [⟨"region", "region"⟩, ⟨"number", "number"⟩] }]
      caseRule := .storedLower
      productName := "PostgreSQL"
      productVersion := "" }
  options := {}

def toShipment : Related :=
  .referencedParent { name := "shipment", spec := { table := "shipment" } }

def toCarrier : Related :=
  .referencedParent
    { name := "carrier", spec := { table := "carrier" }
      link := { customJoin := some [⟨"carrier_id", "id"⟩] } }

def database : Database Nat where
  rows id :=
    if id = parcel.id then [fun name => [("id", 1), ("region", 2), ("carrier_id", 3)].lookup name]
    else []

theorem database_admissible : Admissible typing.catalog database := by
  constructor <;> decide

end Depot

def AlwaysJoined (typing : Typing) (related : Related) (child : Relation) (location : Location) :
    Prop :=
  ∀ parent pairs, typing.findRelation related.spec.table location = .ok parent →
    typing.catalog.joinPairs related.link child parent location = .ok pairs →
    ∀ (database : Database Nat), Admissible typing.catalog database →
      ∀ row ∈ database.rows child.id, ∃ parentRow ∈ database.rows parent.id,
        Joined pairs row parentRow

theorem Depot.not_alwaysJoined {related : Related} {location : Location} {parent : Relation}
    {pairs : List KeyPair}
    (found : Depot.typing.findRelation related.spec.table location = .ok parent)
    (joined : Depot.typing.catalog.joinPairs related.link Depot.parcel parent location = .ok pairs)
    (empty : Depot.database.rows parent.id = []) :
    ¬AlwaysJoined Depot.typing related Depot.parcel location := by
  intro always
  obtain ⟨parentRow, parentMember, _⟩ := always parent pairs found joined Depot.database
    Depot.database_admissible _ (List.mem_singleton.mpr rfl)
  rw [empty] at parentMember
  cases parentMember

/-- A parent that is reported as always present can be missing: where only a part of a composite key
is never null, and where no foreign key stands behind a custom join. -/
theorem promised_parent_missing :
    Depot.parcel ∈ Depot.typing.catalog.relations ∧
    (Depot.typing.parentMayBeAbsent Depot.toShipment Depot.parcel { query := "parcels" } =
        .ok false ∧
      ¬AlwaysJoined Depot.typing Depot.toShipment Depot.parcel { query := "parcels" }) ∧
    Depot.typing.parentMayBeAbsent Depot.toCarrier Depot.parcel { query := "parcels" } =
        .ok false ∧
      ¬AlwaysJoined Depot.typing Depot.toCarrier Depot.parcel { query := "parcels" } := by
  have shipmentFound : Depot.typing.findRelation Depot.toShipment.spec.table
      { query := "parcels" } = .ok Depot.shipment := by decide +kernel
  have shipmentJoined : Depot.typing.catalog.joinPairs Depot.toShipment.link Depot.parcel
      Depot.shipment { query := "parcels" } =
        .ok [⟨"region", "region"⟩, ⟨"number", "number"⟩] := by decide +kernel
  have carrierFound : Depot.typing.findRelation Depot.toCarrier.spec.table
      { query := "parcels" } = .ok Depot.carrier := by decide +kernel
  have carrierJoined : Depot.typing.catalog.joinPairs Depot.toCarrier.link Depot.parcel
      Depot.carrier { query := "parcels" } = .ok [⟨"carrier_id", "id"⟩] := by decide +kernel
  refine ⟨by decide, ⟨by decide +kernel, ?_⟩, by decide +kernel, ?_⟩
  · exact Depot.not_alwaysJoined shipmentFound shipmentJoined (by decide +kernel)
  · exact Depot.not_alwaysJoined carrierFound carrierJoined (by decide +kernel)

end NestedQuery

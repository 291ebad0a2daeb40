import Mathlib.Data.Finset.Dedup
import NestedQuery.Proofs.Catalog.Growth
import NestedQuery.Proofs.Naming
import NestedQuery.Proofs.Text.CaseMap
import NestedQuery.Query.Join

/-! How the foreign key of a link is found. The keys between two relations are taken from the places
of the child's keys in the sorted list, and are those of a plain scan over the list of all keys. A
hint chooses the first of them whose child fields are the hinted names,
as sets; the names are compared in their stored form, in which a name in quotes keeps its quotes,
while a field is looked for without them. -/

namespace NestedQuery

namespace ForeignKey

theorem mem_dropRepeats {names : List String} {name : String} :
    name ∈ dropRepeats names ↔ name ∈ names := by
  induction names with
  | nil => rfl
  | cons first rest ih =>
      cases rest with
      | nil => rfl
      | cons second rest =>
          rw [dropRepeats]
          split
          · rename_i same
            rw [ih, same]
            simp
          · rw [List.mem_cons, ih]
            exact List.mem_cons.symm

theorem dropRepeats_increasing {names : List String} (sorted : names.Pairwise (· ≤ ·)) :
    (dropRepeats names).Pairwise (· < ·) := by
  induction names with
  | nil => exact .nil
  | cons first rest ih =>
      obtain ⟨least, restSorted⟩ := List.pairwise_cons.mp sorted
      cases rest with
      | nil => exact List.pairwise_singleton _ _
      | cons second rest =>
          rw [dropRepeats]
          split
          · exact ih restSorted
          · rename_i different
            refine List.pairwise_cons.mpr ⟨fun name member => ?_, ih restSorted⟩
            have below : first < second :=
              lt_of_le_of_ne (least second List.mem_cons_self) different
            rcases List.mem_cons.mp (mem_dropRepeats.mp member) with rfl | later
            · exact below
            · exact lt_of_lt_of_le below ((List.pairwise_cons.mp restSorted).1 name later)

theorem sortedNames_sorted (names : List String) : (sortedNames names).Pairwise (· ≤ ·) := by
  have trans (a b c : String) (lower : decide (a ≤ b) = true) (upper : decide (b ≤ c) = true) :
      decide (a ≤ c) = true := by
    simp only [decide_eq_true_eq] at lower upper ⊢
    exact le_trans lower upper
  have total (a b : String) : (decide (a ≤ b) || decide (b ≤ a)) = true := by
    simpa using le_total a b
  simpa [sortedNames] using List.pairwise_mergeSort trans total names

theorem mem_sortedNames {names : List String} {name : String} :
    name ∈ sortedNames names ↔ name ∈ names := List.mem_mergeSort

/-- The child fields of the key are all different, and they are the given names. -/
def FieldsAre (key : ForeignKey) (names : List String) : Prop :=
  key.childFields.Nodup ∧ key.childFields.toFinset = names.toFinset

instance (key : ForeignKey) (names : List String) : Decidable (key.FieldsAre names) :=
  inferInstanceAs (Decidable (_ ∧ _))

theorem FieldsAre.congr {key : ForeignKey} {names others : List String}
    (same : names.toFinset = others.toFinset) : key.FieldsAre names ↔ key.FieldsAre others := by
  rw [FieldsAre, FieldsAre, same]

theorem hasChildFields_iff (key : ForeignKey) (names : List String) :
    key.hasChildFields names = true ↔ key.FieldsAre names := by
  have perm : (sortedNames key.childFields).Perm key.childFields := List.mergeSort_perm _ _
  have increasing := dropRepeats_increasing (sortedNames_sorted names)
  have distinct : (dropRepeats (sortedNames names)).Nodup := increasing.imp ne_of_lt
  have members (name : String) : name ∈ dropRepeats (sortedNames names) ↔ name ∈ names := by
    rw [mem_dropRepeats, mem_sortedNames]
  rw [hasChildFields, beq_iff_eq]
  constructor
  · intro same
    rw [same] at perm
    refine ⟨perm.nodup_iff.mp distinct, ?_⟩
    ext name
    rw [List.mem_toFinset, List.mem_toFinset, ← perm.mem_iff, members]
  · rintro ⟨childDistinct, sameNames⟩
    -- Two lists of the same distinct names are the same once they are sorted.
    refine List.Perm.eq_of_pairwise ?_ (sortedNames_sorted key.childFields)
      (increasing.imp le_of_lt) ?_
    · intro a b _ _ lower upper
      exact le_antisymm lower upper
    · refine perm.trans ((List.perm_ext_iff_of_nodup childDistinct distinct).mpr fun name => ?_)
      rw [members, ← List.mem_toFinset, sameNames, List.mem_toFinset]

/-- The order of keys between the same relations: by child fields, then by parent fields. -/
def fieldsPrecede (left right : ForeignKey) : Bool :=
  (compareLex (compareOn childFields) (compareOn parentFields) left right).isLE

theorem precedes_of_same_ends {left right : ForeignKey} (child : left.child = right.child)
    (parent : left.parent = right.parent) : left.precedes right = fieldsPrecede left right := by
  rw [precedes_eq_isLE]
  simp [comparison, fieldsPrecede, compareLex, compareOn, child, parent]

theorem mergeSort_between {keys : List ForeignKey} {child parent : RelationId}
    (between : ∀ key ∈ keys, key.child = child ∧ key.parent = parent) :
    keys.mergeSort precedes = keys.mergeSort fieldsPrecede := by
  have same : ∀ left ∈ keys, ∀ right ∈ keys,
      left.precedes right = fieldsPrecede (id left) (id right) := by
    intro left leftMember right rightMember
    obtain ⟨leftChild, leftParent⟩ := between left leftMember
    obtain ⟨rightChild, rightParent⟩ := between right rightMember
    exact precedes_of_same_ends (leftChild.trans rightChild.symm)
      (leftParent.trans rightParent.symm)
  simpa using List.map_mergeSort same

end ForeignKey

namespace Catalog

variable {catalog : Catalog} {child parent : RelationId} {hint : List String} {key : ForeignKey}

theorem findForeignKey_none_iff :
    catalog.findForeignKey child parent none = .ok key ↔
      catalog.keysBetween child parent = [key] := by
  unfold findForeignKey
  rcases catalog.keysBetween child parent with _ | ⟨first, _ | ⟨second, rest⟩⟩ <;> simp

theorem findForeignKey_some_iff :
    catalog.findForeignKey child parent (some hint) = .ok key ↔
      (catalog.keysBetween child parent).find?
        (fun key => key.FieldsAre (hint.map catalog.normalize)) = some key := by
  have sameTest : (fun key : ForeignKey => key.hasChildFields (hint.map catalog.normalize)) =
      fun key => decide (key.FieldsAre (hint.map catalog.normalize)) := by
    funext key
    rw [Bool.eq_iff_iff, ForeignKey.hasChildFields_iff, decide_eq_true_eq]
  simp only [findForeignKey, sameTest]
  split
  · rename_i found
    rw [found, Except.ok.injEq, Option.some.injEq]
  · rename_i missing
    rw [missing]
    simp

theorem of_findForeignKey_some (found : catalog.findForeignKey child parent (some hint) = .ok key) :
    key ∈ catalog.keysBetween child parent ∧ key.FieldsAre (hint.map catalog.normalize) := by
  rw [findForeignKey_some_iff] at found
  exact ⟨List.mem_of_find?_eq_some found, by simpa using List.find?_some found⟩

theorem exists_findForeignKey_iff :
    (∃ key, catalog.findForeignKey child parent (some hint) = .ok key) ↔
      ∃ key ∈ catalog.keysBetween child parent, key.FieldsAre (hint.map catalog.normalize) := by
  simp only [findForeignKey_some_iff]
  rw [← Option.isSome_iff_exists, List.find?_isSome]
  simp only [decide_eq_true_eq]

theorem findForeignKey_eq_ok_iff_of_same_names {other : List String}
    (same : other.toFinset = hint.toFinset) :
    catalog.findForeignKey child parent (some other) = .ok key ↔
      catalog.findForeignKey child parent (some hint) = .ok key := by
  have stored : (other.map catalog.normalize).toFinset =
      (hint.map catalog.normalize).toFinset := by
    have names (name : String) : name ∈ other ↔ name ∈ hint := by
      rw [← List.mem_toFinset, same, List.mem_toFinset]
    ext name
    simp only [List.mem_toFinset, List.mem_map, names]
  simp only [findForeignKey_some_iff, ForeignKey.FieldsAre.congr stored]

end Catalog

/-! Messages go from person to person. The sender is stored in mixed case, and there are two keys to
the recipient. -/

namespace Mail

def column (name : String) : Field := { name, typeCode := .integer, databaseType := "int4" }

def person : Relation := { id := ⟨none, "person"⟩, fields := [column "id"] }

def message : Relation :=
  { id := ⟨none, "message"⟩
    fields := [column "id", column "senderId", column "recipient_id"] }

def group : RelationId := ⟨none, "group"⟩

def bySender : ForeignKey :=
  { child := message.id, parent := person.id, pairs := [⟨"senderId", "id"⟩] }

def byRecipient (constraintName : String) : ForeignKey :=
  { constraintName := some constraintName, child := message.id, parent := person.id
    pairs := [⟨"recipient_id", "id"⟩] }

def toGroup : ForeignKey :=
  { child := message.id, parent := group, pairs := [⟨"recipient_id", "id"⟩] }

def catalog : Catalog where
  schemaName := none
  relations := [message, person]
  foreignKeys := [toGroup, byRecipient "second", byRecipient "first", bySender]
  caseRule := .storedLower
  productName := "PostgreSQL"
  productVersion := ""

def collected : Catalog :=
  Catalog.build none [person, message]
    [bySender, byRecipient "second", toGroup, byRecipient "first"] .storedLower "PostgreSQL" ""

end Mail

namespace Catalog

section

variable (schemaName : Option String) (relations : List Relation) (keys : List ForeignKey)
  (caseRule : CaseRule) (productName version : String) (child parent : RelationId)

theorem keysBetween_build_eq_sorted :
    (Catalog.build schemaName relations keys caseRule productName version).keysBetween child
        parent =
      if child ∈ relations.map (·.id) ∧ parent ∈ relations.map (·.id) then
        (keys.filter fun key => key.child == child && key.parent == parent).mergeSort
          ForeignKey.fieldsPrecede
      else [] := by
  have between : ∀ key ∈ keys.filter fun key => key.child == child && key.parent == parent,
      key.child = child ∧ key.parent = parent := by
    intro key member
    simpa using (List.mem_filter.mp member).2
  rw [← ForeignKey.mergeSort_between between]
  exact keysBetween_build schemaName relations keys caseRule productName version child parent

/-- Keys are looked up by their places as by a plain scan of the list from which the catalog was
built: none between relations that are not registered, and otherwise those of the list, sorted by
their fields with equal ones in their order. -/
theorem keys_found_by_scan :
    let catalog := Catalog.build schemaName relations keys caseRule productName version
    let registered := child ∈ relations.map (·.id) ∧ parent ∈ relations.map (·.id)
    let scanned := keys.filter fun key => key.child == child && key.parent == parent
    (∀ id, catalog.relation? id = (catalog.relations.filter (·.id == id)).getLast?) ∧
      ((catalog.keysByChild.get? child).getD []).map (catalog.foreignKeys[·]?) =
        (catalog.foreignKeys.filter (·.child == child)).map some ∧
      (¬registered → catalog.keysBetween child parent = []) ∧
      (registered →
        catalog.keysBetween child parent = scanned.mergeSort ForeignKey.fieldsPrecede) ∧
      (∀ key, catalog.findForeignKey child parent none = .ok key ↔
        registered ∧ scanned = [key]) ∧
      ∀ hint : List String,
        ((∃ key, catalog.findForeignKey child parent (some hint) = .ok key) ↔
          registered ∧ ∃ key ∈ scanned, key.FieldsAre (hint.map caseRule.normalize)) ∧
        (∀ key, catalog.findForeignKey child parent (some hint) = .ok key ↔
          registered ∧ (scanned.mergeSort ForeignKey.fieldsPrecede).find?
            (fun key => key.FieldsAre (hint.map caseRule.normalize)) = some key) ∧
        ∀ other : List String, other.toFinset = hint.toFinset → ∀ key,
          (catalog.findForeignKey child parent (some other) = .ok key ↔
            catalog.findForeignKey child parent (some hint) = .ok key) := by
  intro catalog registered scanned
  have looked : catalog.keysBetween child parent =
      if registered then scanned.mergeSort ForeignKey.fieldsPrecede else [] :=
    keysBetween_build_eq_sorted schemaName relations keys caseRule productName version child parent
  have alike (hint other : List String) (same : other.toFinset = hint.toFinset)
      (key : ForeignKey) : catalog.findForeignKey child parent (some other) = .ok key ↔
        catalog.findForeignKey child parent (some hint) = .ok key :=
    findForeignKey_eq_ok_iff_of_same_names same
  refine ⟨catalog.relation?_eq_getLast?, catalog.map_keysByChild child, ?_⟩
  by_cases known : registered
  · rw [if_pos known] at looked
    refine ⟨fun unknown => absurd known unknown, fun _ => looked, fun key => ?_,
      fun hint => ⟨?_, fun key => ?_, alike hint⟩⟩
    · have sorted : (scanned.mergeSort ForeignKey.fieldsPrecede).Perm scanned :=
        List.mergeSort_perm _ _
      rw [findForeignKey_none_iff, looked, and_iff_right known, ← List.perm_singleton,
        ← List.perm_singleton, sorted.congr_left]
    · rw [exists_findForeignKey_iff, looked, and_iff_right known]
      simp only [List.mem_mergeSort]
      rfl
    · rw [findForeignKey_some_iff, looked, and_iff_right known]
      rfl
  · rw [if_neg known] at looked
    refine ⟨fun _ => looked, fun registered => absurd registered known, fun key => ?_,
      fun hint => ⟨?_, fun key => ?_, alike hint⟩⟩
    · simp [findForeignKey_none_iff, looked, known]
    · simp [exists_findForeignKey_iff, looked, known]
    · simp [findForeignKey_some_iff, looked, known]

end

theorem keys_found_by_scan_mail :
    Mail.collected.keysBetween Mail.message.id Mail.group = [] ∧
      Mail.collected.keysBetween Mail.message.id Mail.person.id =
        [Mail.byRecipient "second", Mail.byRecipient "first", Mail.bySender] ∧
      (¬∃ key, Mail.collected.findForeignKey Mail.message.id Mail.person.id none = .ok key) ∧
      Mail.collected.findForeignKey Mail.message.id Mail.person.id
        (some ["RECIPIENT_ID", "RECIPIENT_ID"]) = .ok (Mail.byRecipient "second") := by
  have scan := keys_found_by_scan none [Mail.person, Mail.message]
    [Mail.bySender, Mail.byRecipient "second", Mail.toGroup, Mail.byRecipient "first"]
    .storedLower "PostgreSQL" "" Mail.message.id
  obtain ⟨-, -, unregistered, -⟩ := scan Mail.group
  obtain ⟨-, -, -, registered, single, hinted⟩ := scan Mail.person.id
  obtain ⟨-, first, alike⟩ := hinted ["RECIPIENT_ID"]
  have scanned : [Mail.bySender, Mail.byRecipient "second", Mail.toGroup,
      Mail.byRecipient "first"].filter (fun key =>
        key.child == Mail.message.id && key.parent == Mail.person.id) =
      [Mail.bySender, Mail.byRecipient "second", Mail.byRecipient "first"] := by decide
  have sorted : [Mail.bySender, Mail.byRecipient "second", Mail.byRecipient "first"].mergeSort
      ForeignKey.fieldsPrecede =
        [Mail.byRecipient "second", Mail.byRecipient "first", Mail.bySender] := by
    have later (name : String) :
        ForeignKey.fieldsPrecede Mail.bySender (Mail.byRecipient name) = false := rfl
    have tied (name other : String) :
        ForeignKey.fieldsPrecede (Mail.byRecipient name) (Mail.byRecipient other) = true := rfl
    simp [List.mergeSort, List.MergeSort.Internal.splitInTwo, later, tied]
  rw [scanned, sorted] at registered first
  refine ⟨unregistered (by decide), registered (by decide), ?_, ?_⟩
  · rintro ⟨key, resolved⟩
    have only := ((single key).mp resolved).2
    rw [scanned] at only
    cases only
  · have found := (first (Mail.byRecipient "second")).mpr
      ⟨by decide, List.find?_cons_of_pos (by decide +kernel)⟩
    exact (alike _ (by decide) _).mpr found

variable {catalog : Catalog} {hint : List String}

theorem mem_keysBetween_iff {child parent : RelationId} {key : ForeignKey} :
    key ∈ catalog.keysBetween child parent ↔
      (catalog.relation? child).isSome ∧ (catalog.relation? parent).isSome ∧
        key ∈ catalog.foreignKeys ∧ key.child = child ∧ key.parent = parent := by
  rw [keysBetween_eq_filter]
  split
  · rename_i both
    rw [Bool.and_eq_true] at both
    simp [both]
  · rename_i missing
    simp only [Bool.and_eq_true, not_and] at missing
    simp only [List.not_mem_nil, false_iff, not_and]
    exact fun childHeld parentHeld => absurd parentHeld (missing childHeld)

theorem mem_keysBetween {child parent : Relation} {key : ForeignKey}
    (childHeld : catalog.relation? child.id = some child)
    (parentHeld : catalog.relation? parent.id = some parent) :
    key ∈ catalog.keysBetween child.id parent.id ↔
      key ∈ catalog.foreignKeys ∧ key.child = child.id ∧ key.parent = parent.id := by
  simp [mem_keysBetween_iff, childHeld, parentHeld]

theorem name_of_findField {relation : Relation} {name : String} {location : Location}
    {field : Field} (found : catalog.findField relation name location = .ok field) :
    field.name = Naming.unquoted (catalog.normalize name) := by
  unfold findField at found
  split at found
  · rename_i held
    cases found
    simpa using List.find?_some held
  · cases found

/-- The name by which a hint looks for a field: a hint in quotes keeps them. -/
def hintedName (name : String) (field : Field) : String :=
  if Naming.isQuoted name then "\"" ++ field.name ++ "\"" else field.name

theorem normalize_eq_hintedName {relation : Relation} {name : String} {location : Location}
    {field : Field} (found : catalog.findField relation name location = .ok field) :
    catalog.normalize name = hintedName name field := by
  have sameQuotes : Naming.isQuoted (catalog.normalize name) = Naming.isQuoted name :=
    catalog.caseRule.isQuoted_normalize name
  rw [hintedName, name_of_findField found]
  split
  · rename_i quoted
    rw [Naming.quotes_unquoted (sameQuotes.trans quoted)]
  · rename_i bare
    rw [Naming.unquoted_of_isQuoted_eq_false]
    rw [sameQuotes]
    exact Bool.eq_false_iff.mpr bare

theorem map_normalize_eq_hintedNames {relation : Relation} {location : Location}
    {fields : List Field}
    (found : List.Forall₂ (fun name field => catalog.findField relation name location = .ok field)
      hint fields) :
    hint.map catalog.normalize = List.zipWith hintedName hint fields := by
  induction found with
  | nil => rfl
  | cons first _ ih =>
      rw [List.map_cons, List.zipWith_cons_cons, normalize_eq_hintedName first, ih]

theorem hintedNames_of_bare {fields : List Field} (sameLength : hint.length = fields.length)
    (bare : ∀ name ∈ hint, Naming.isQuoted name = false) :
    List.zipWith hintedName hint fields = fields.map (·.name) := by
  induction hint generalizing fields with
  | nil =>
      rw [List.length_nil, eq_comm, List.length_eq_zero_iff] at sameLength
      rw [sameLength]
      rfl
  | cons name rest ih =>
      obtain ⟨field, others, rfl⟩ := List.exists_cons_of_length_eq_add_one sameLength.symm
      obtain ⟨first, later⟩ := List.forall_mem_cons.mp bare
      rw [List.zipWith_cons_cons, List.map_cons, ih (by simpa using sameLength) later, hintedName,
        first]
      rfl

def KeysNameFields (catalog : Catalog) : Prop :=
  ∀ key ∈ catalog.foreignKeys,
    (∀ child ∈ catalog.relation? key.child,
      ∀ name ∈ key.childFields, (child.field? name).isSome = true) ∧
    ∀ parent ∈ catalog.relation? key.parent,
      ∀ name ∈ key.parentFields, (parent.field? name).isSome = true

instance (catalog : Catalog) : Decidable catalog.KeysNameFields :=
  inferInstanceAs (Decidable (∀ key ∈ catalog.foreignKeys, _ ∧ _))

/-- A hint finds a key by the fields that its names mean as references, unless they are in quotes: a
quoted name is looked for with its quotes, and no key has it where fields are stored without. -/
theorem hint_finds_key_iff {child parent : Relation} {fields : List Field} {location : Location}
    (stored : catalog.KeysNameFields)
    (childHeld : catalog.relation? child.id = some child)
    (parentHeld : catalog.relation? parent.id = some parent)
    (found : List.Forall₂ (fun name field => catalog.findField child name location = .ok field)
      hint fields) :
    ((∃ key, catalog.findForeignKey child.id parent.id (some hint) = .ok key) ↔
      ∃ key ∈ catalog.foreignKeys, (key.child = child.id ∧ key.parent = parent.id) ∧
        key.FieldsAre (List.zipWith hintedName hint fields)) ∧
    ((∀ name ∈ hint, Naming.isQuoted name = false) →
      ((∃ key, catalog.findForeignKey child.id parent.id (some hint) = .ok key) ↔
        ∃ key ∈ catalog.foreignKeys, (key.child = child.id ∧ key.parent = parent.id) ∧
          key.FieldsAre (fields.map (·.name)))) ∧
    ((∀ field ∈ child.fields, Naming.isQuoted field.name = false) →
      (∃ name ∈ hint, Naming.isQuoted name = true) →
        ∀ key, catalog.findForeignKey child.id parent.id (some hint) ≠ .ok key) := by
  have exactly : (∃ key, catalog.findForeignKey child.id parent.id (some hint) = .ok key) ↔
      ∃ key ∈ catalog.foreignKeys, (key.child = child.id ∧ key.parent = parent.id) ∧
        key.FieldsAre (List.zipWith hintedName hint fields) := by
    rw [exists_findForeignKey_iff, map_normalize_eq_hintedNames found]
    simp only [mem_keysBetween childHeld parentHeld, and_assoc]
  refine ⟨exactly, ?_, ?_⟩
  · intro bare
    rw [exactly, hintedNames_of_bare found.length_eq bare]
  · rintro bareFields ⟨name, member, quoted⟩ key resolved
    obtain ⟨between, -, sameNames⟩ := of_findForeignKey_some resolved
    obtain ⟨inCatalog, isChild, -⟩ := (mem_keysBetween childHeld parentHeld).mp between
    -- The name in quotes would have to be stored with them.
    have inKey : name ∈ key.childFields := by
      rw [← List.mem_toFinset, sameNames, List.mem_toFinset]
      exact List.mem_map.mpr ⟨name, member, catalog.caseRule.normalize_of_quoted quoted⟩
    have held := (stored key inCatalog).1 child (isChild ▸ childHeld) name inKey
    obtain ⟨field, inChild, same⟩ := List.find?_isSome.mp held
    rw [← beq_iff_eq.mp same, bareFields field inChild] at quoted
    cases quoted

theorem mail_held : Mail.catalog.KeysNameFields ∧
    Mail.catalog.relation? Mail.message.id = some Mail.message ∧
    Mail.catalog.relation? Mail.person.id = some Mail.person := by
  decide

theorem hint_finds_key_iff_mail :
    (Mail.catalog.KeysNameFields ∧
        Mail.catalog.relation? Mail.message.id = some Mail.message ∧
        Mail.catalog.relation? Mail.person.id = some Mail.person) ∧
      (∃ key, Mail.catalog.findForeignKey Mail.message.id Mail.person.id
        (some ["Recipient_Id", "recipient_id"]) = .ok key) ∧
      ∀ key, Mail.catalog.findForeignKey Mail.message.id Mail.person.id
        (some ["recipient_id", "\"recipient_id\""]) ≠ .ok key := by
  obtain ⟨stored, message, person⟩ := mail_held
  have found {name : String}
      (same : Naming.unquoted (Mail.catalog.normalize name) = "recipient_id") :
      Mail.catalog.findField Mail.message name { query := "mail" } =
        .ok (Mail.column "recipient_id") := by
    rw [findField, same]
    rfl
  refine ⟨mail_held, ?_, ?_⟩
  · rw [(hint_finds_key_iff stored message person
      (.cons (found (by decide +kernel)) (.cons (found (by decide +kernel)) .nil))).2.1
        (by decide +kernel)]
    exact ⟨Mail.byRecipient "first", by decide +kernel⟩
  · exact (hint_finds_key_iff stored message person
      (.cons (found (by decide +kernel)) (.cons (found (by decide +kernel)) .nil))).2.2
        (by decide) ⟨"\"recipient_id\"", by decide⟩

theorem quoted_hint_finds_no_key :
    (Mail.catalog.KeysNameFields ∧
        Mail.catalog.relation? Mail.message.id = some Mail.message ∧
        Mail.catalog.relation? Mail.person.id = some Mail.person) ∧
      Mail.catalog.findField Mail.message "\"senderId\"" { query := "mail" } =
        .ok (Mail.column "senderId") ∧
      (Mail.bySender ∈ Mail.catalog.foreignKeys ∧
        (Mail.bySender.child = Mail.message.id ∧ Mail.bySender.parent = Mail.person.id) ∧
        Mail.bySender.FieldsAre ["senderId"]) ∧
      (¬∃ key, Mail.catalog.findForeignKey Mail.message.id Mail.person.id
        (some ["\"senderId\""]) = .ok key) ∧
      ∀ hint, Mail.catalog.findForeignKey Mail.message.id Mail.person.id (some hint) ≠
        .ok Mail.bySender := by
  refine ⟨mail_held, by decide +kernel, by decide +kernel, ?_, ?_⟩
  · rw [exists_findForeignKey_iff]
    decide +kernel
  · intro hint found
    obtain ⟨-, -, sameNames⟩ := of_findForeignKey_some found
    have member : "senderId" ∈ hint.map Mail.catalog.normalize := by
      rw [← List.mem_toFinset, ← sameNames]
      decide
    -- No stored form of a name has a capital letter in it.
    obtain ⟨name, -, same⟩ := List.mem_map.mp member
    have again := CaseRule.normalize_normalize .storedLower name
    rw [show CaseRule.normalize .storedLower name = "senderId" from same] at again
    exact absurd again (by decide +kernel)

end Catalog

end NestedQuery

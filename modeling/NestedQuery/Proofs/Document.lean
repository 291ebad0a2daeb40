import Mathlib.Data.List.Nodup
import NestedQuery.Catalog.Document

/-! Records and lists are read back from the documents that state them. A record is told by its
members, each of which is found under its key whether or not the members before it are written. -/

namespace NestedQuery

namespace View

variable {α β : Type} {view : View α} {members : List (String × α)} {key : String}
  {read : α → Option β} {result : β}

theorem exists_of_required (found : required members key read = some result) :
    ∃ value, read value = some result := by
  unfold required at found
  split at found
  · simp at found
  · exact ⟨_, found⟩

theorem eq_or_exists_of_defaulted {default : β}
    (found : defaulted members key default read = some result) :
    result = default ∨ ∃ value, read value = some result := by
  unfold defaulted at found
  split at found
  · exact .inl (Option.some.inj found).symm
  · exact .inr ⟨_, found⟩

theorem exists_of_optional (found : view.optional members key read = some (some result)) :
    ∃ value, read value = some result := by
  unfold optional at found
  split at found
  · simp at found
  · split at found
    · simp at found
    · simp at found
    · simp only [Option.map_eq_some_iff, Option.some.injEq, exists_eq_right] at found
      exact ⟨_, found⟩

theorem exists_of_mem_mapM {items : List α} {results : List β}
    (found : items.mapM read = some results) (member : result ∈ results) :
    ∃ item, read item = some result := by
  induction items generalizing results with
  | nil =>
      obtain rfl : [] = results := Option.some.inj found
      exact absurd member List.not_mem_nil
  | cons item rest ih =>
      rw [List.mapM_cons] at found
      simp only [Option.bind_eq_bind, Option.bind_eq_some_iff, Option.pure_def,
        Option.some.injEq] at found
      obtain ⟨first, firstRead, others, othersRead, rfl⟩ := found
      rcases List.mem_cons.mp member with rfl | later
      · exact ⟨item, firstRead⟩
      · exact ih othersRead later

theorem exists_of_mem_list {read : Nat → α → Option β} {depth : Nat} {value : α} {results : List β}
    (found : view.list read depth value = some results) (member : result ∈ results) :
    ∃ inner item, read inner item = some result := by
  unfold list at found
  split at found
  · split at found
    · simp only [Option.some.injEq] at found
      simp [← found] at member
    · simp at found
  · split at found
    · simp at found
    · exact ⟨_, exists_of_mem_mapM found member⟩

theorem pairKeys_map_some (members : List (String × α)) :
    pairKeys (members.map fun (key, value) => (some key, value)) = some members := by
  induction members with
  | nil => rfl
  | cons member rest ih =>
      unfold pairKeys at ih ⊢
      rw [List.map_cons, List.mapM_cons, ih]
      rfl

end View

namespace Json

theorem fields_object {keys : List String} {members : List (String × Json)}
    (distinct : keys.Nodup) (known : (members.map (·.1)).Sublist keys) :
    view.fields keys (.object members) = some members := by
  have all : members.filter (fun member => member.1 ∈ keys) = members := by
    rw [List.filter_eq_self]
    intro member inside
    exact decide_eq_true (known.subset (List.mem_map_of_mem inside))
  obtain ⟨pairs, stated, keyed⟩ : ∃ pairs, view.members? (.object members) = some (.named pairs) ∧
      View.pairKeys pairs = some members := ⟨_, rfl, View.pairKeys_map_some members⟩
  rw [View.fields, stated]
  simp only [keyed, all]
  rw [if_pos (known.nodup distinct)]

variable {α : Type} {members : List (String × Json)} {key : String} {write : α → Json}
  {read : Json → Option α}

/-- What is written is no null and is read back. -/
def ReadBack (write : α → Json) (read : Json → Option α) (value : α) : Prop :=
  (write value).isNull = false ∧ read (write value) = some value

theorem required_written {value : α} (stated : members.lookup key = some (write value))
    (back : ReadBack write read value) : View.required members key read = some value := by
  rw [View.required, stated]
  exact back.2

theorem defaulted_written {value default : α} (stated : members.lookup key = some (write value))
    (back : ReadBack write read value) : View.defaulted members key default read = some value := by
  rw [View.defaulted, stated]
  exact back.2

theorem optional_present (value : Option α) (stated : members.lookup key = value.map write)
    (back : ∀ present ∈ value, ReadBack write read present) :
    view.optional members key read = some value := by
  rw [View.optional, stated]
  cases value with
  | none => rfl
  | some present =>
      obtain ⟨notNull, readBack⟩ := back present rfl
      simp [view, notNull, readBack]

theorem optional_ofOption (value : Option α)
    (stated : members.lookup key = some (.ofOption write value))
    (back : ∀ present ∈ value, ReadBack write read present) :
    view.optional members key read = some value := by
  rw [View.optional, stated]
  cases value with
  | none => rfl
  | some present =>
      obtain ⟨notNull, readBack⟩ := back present rfl
      simp [view, ofOption, notNull, readBack]

theorem readBack_text (value : String) : ReadBack text text? value := ⟨rfl, rfl⟩

theorem readBack_bool (value : Bool) : ReadBack bool bool? value := ⟨rfl, rfl⟩

theorem readBack_int {value : Int} (lower : -0x80000000 ≤ value) (upper : value < 0x80000000) :
    ReadBack int signed32? value := by
  refine ⟨rfl, ?_⟩
  simp [signed32?, lower, upper]

theorem readBack_ofNat {value : Nat} (upper : value < 0x100000000) :
    ReadBack ofNat unsigned32? value := by
  refine ⟨rfl, ?_⟩
  have bound : (value : Int) < 0x100000000 := by omega
  simp [ofNat, unsigned32?, bound]

theorem signed32?_bounds {value : Json} {number : Int} (found : value.signed32? = some number) :
    -0x80000000 ≤ number ∧ number < 0x80000000 := by
  cases value with
  | int stated =>
      simp only [signed32?, Option.ite_none_right_eq_some, Bool.and_eq_true, decide_eq_true_eq,
        Option.some.injEq] at found
      omega
  | _ => simp [signed32?] at found

theorem unsigned32?_bound {value : Json} {number : Nat}
    (found : value.unsigned32? = some number) : number < 0x100000000 := by
  cases value with
  | int stated =>
      simp only [unsigned32?, Option.ite_none_right_eq_some, Bool.and_eq_true, decide_eq_true_eq,
        Option.some.injEq] at found
      omega
  | _ => simp [unsigned32?] at found

theorem readBack_list {depth : Nat} {read : Nat → Json → Option α} {items : List α}
    (each : ∀ item ∈ items, read depth (write item) = some item) :
    ReadBack (fun items : List α => list (items.map write)) (view.list read (depth + 1)) items := by
  refine ⟨rfl, ?_⟩
  change (items.map write).mapM (read depth) = some items
  induction items with
  | nil => rfl
  | cons item rest ih =>
      rw [List.map_cons, List.mapM_cons, each item List.mem_cons_self,
        ih fun other member => each other (List.mem_cons_of_mem _ member)]
      rfl

end Json

@[simp] theorem lookup_presentMember {α : Type} (key wanted : String) (write : α → Json)
    (value : Option α) :
    (presentMember key write value).lookup wanted =
      if wanted == key then value.map write else none := by
  cases value with
  | none => simp [presentMember]
  | some present => cases same : wanted == key <;> simp [presentMember, List.lookup_cons, same]

theorem keys_presentMember_sublist {α : Type} (key : String) (write : α → Json) (value : Option α) :
    ((presentMember key write value).map (·.1)).Sublist [key] := by
  cases value with
  | none => exact List.nil_sublist _
  | some present => exact List.Sublist.refl _

end NestedQuery

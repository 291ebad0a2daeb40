import NestedQuery.Proofs.SchemaDump.History
import NestedQuery.Proofs.SchemaDump.RoundTrip

/-! How the columns of a primary key are numbered. Names of a key may repeat, may be unknown and may
be those of several columns: the numbers still differ. Otherwise the key is found in its order. -/

namespace NestedQuery.SchemaDump

/-- The numbers of key columns go up to `count`, no two are equal, and no such column holds nulls.
-/
structure NumberedUpTo (count : Nat) (fields : List Field) : Prop where
  within : ∀ field ∈ fields, ∀ part ∈ field.primaryKeyPart, 1 ≤ part ∧ part ≤ count
  apart : (fields.filterMap (·.primaryKeyPart)).Nodup
  filled : ∀ field ∈ fields, field.primaryKeyPart.isSome → field.nullable = some false

theorem NumberedUpTo.of_unnumbered {fields : List Field}
    (unnumbered : ∀ field ∈ fields, field.primaryKeyPart = none) : NumberedUpTo 0 fields where
  within field member part stated := by simp [unnumbered field member] at stated
  apart := by
    rw [List.filterMap_eq_nil_iff.mpr unnumbered]
    exact List.nodup_nil
  filled field member stated := by simp [unnumbered field member] at stated

theorem updateField_cases (name : String) (change : Field → Field) (fields : List Field) :
    updateField name change fields = fields ∨ ∃ before field after,
      fields = before ++ field :: after ∧
        updateField name change fields = before ++ change field :: after := by
  induction fields with
  | nil => exact .inl rfl
  | cons first rest ih =>
      rw [updateField]
      split
      · exact .inr ⟨[], first, rest, rfl, rfl⟩
      · rcases ih with same | ⟨before, field, after, whole, changed⟩
        · exact .inl (by rw [same])
        · exact .inr ⟨first :: before, field, after, by rw [whole]; rfl, by rw [changed]; rfl⟩

theorem NumberedUpTo.succ {count : Nat} {fields : List Field}
    (numbered : NumberedUpTo count fields) : NumberedUpTo (count + 1) fields where
  within field member part stated :=
    (numbered.within field member part stated).imp_right Nat.le_succ_of_le
  apart := numbered.apart
  filled := numbered.filled

theorem NumberedUpTo.replace {count : Nat} {before after : List Field} {field : Field}
    (numbered : NumberedUpTo count (before ++ field :: after)) :
    NumberedUpTo (count + 1) (before ++
      { field with primaryKeyPart := some (count + 1), nullable := some false } :: after) := by
  have others : NumberedUpTo count (before ++ after) := by
    have fewer : (before ++ after).Sublist (before ++ field :: after) :=
      (List.Sublist.refl before).append (List.sublist_cons_self field after)
    exact ⟨fun other member => numbered.within other (fewer.subset member),
      numbered.apart.sublist (fewer.filterMap _),
      fun other member => numbered.filled other (fewer.subset member)⟩
  have fresh : count + 1 ∉ (before ++ after).filterMap (·.primaryKeyPart) := by
    intro repeated
    obtain ⟨other, member, stated⟩ := List.mem_filterMap.mp repeated
    have small := (others.within other member _ stated).2
    omega
  obtain ⟨within, apart, filled⟩ := others.succ
  rw [List.forall_mem_append] at within filled
  rw [List.filterMap_append] at apart fresh
  refine ⟨?_, ?_, ?_⟩
  · refine List.forall_mem_append.mpr ⟨within.1, List.forall_mem_cons.mpr ⟨?_, within.2⟩⟩
    intro part stated
    cases stated
    omega
  · rw [List.filterMap_append, List.filterMap_cons]
    exact List.nodup_middle.mpr (List.nodup_cons.mpr ⟨fresh, apart⟩)
  · exact List.forall_mem_append.mpr
      ⟨filled.1, List.forall_mem_cons.mpr ⟨fun _ => rfl, filled.2⟩⟩

theorem NumberedUpTo.updateField {count : Nat} {fields : List Field}
    (numbered : NumberedUpTo count fields) (name : String) :
    NumberedUpTo (count + 1) (SchemaDump.updateField name
      (fun field => { field with primaryKeyPart := some (count + 1), nullable := some false })
      fields) := by
  rcases updateField_cases name
      (fun field => { field with primaryKeyPart := some (count + 1), nullable := some false })
      fields with same | ⟨before, field, after, rfl, changed⟩
  · rw [same]
    exact numbered.succ
  · rw [changed]
    exact numbered.replace

theorem NumberedUpTo.numberKey {count : Nat} {fields : List Field}
    (numbered : NumberedUpTo count fields) (names : List String) :
    NumberedUpTo (count + names.length) (SchemaDump.numberKey count names fields) := by
  induction names generalizing count fields with
  | nil => exact numbered
  | cons name names ih =>
      rw [SchemaDump.numberKey, List.length_cons, Nat.add_comm names.length 1, ← Nat.add_assoc]
      exact ih (numbered.updateField name)

theorem map_name_numberKey (count : Nat) (names : List String) (fields : List Field) :
    (numberKey count names fields).map (·.name) = fields.map (·.name) := by
  induction names generalizing count fields with
  | nil => rfl
  | cons name names ih =>
      rw [numberKey, ih]
      rcases updateField_cases name
          (fun field => { field with primaryKeyPart := some (count + 1), nullable := some false })
          fields with same | ⟨before, field, after, rfl, changed⟩
      · rw [same]
      · rw [changed]
        simp

theorem idxOf?_eq_some_iff_of_nodup {names : List String} (once : names.Nodup) {name : String}
    {index : Nat} : names.idxOf? name = some index ↔ names[index]? = some name := by
  rw [List.idxOf?_eq_some_iff, List.getElem?_eq_some_iff]
  refine exists_congr fun bound => and_iff_left_of_imp ?_
  intro found earlier before same
  have equal := (List.Nodup.getElem_inj_iff once).mp (same.trans found.symm)
  omega

def keyPlace (field : Field) : String × Option Nat := (field.name, field.primaryKeyPart)

def keyPlaces (names : List String) : List (String × Option Nat) :=
  names.mapIdx fun index name => (name, some (index + 1))

theorem mem_keyPlaces_iff {names : List String} {place : String × Option Nat} :
    place ∈ keyPlaces names ↔
      ∃ index, names[index]? = some place.1 ∧ place.2 = some (index + 1) := by
  rw [keyPlaces, List.mem_mapIdx]
  refine exists_congr fun index => ?_
  rw [List.getElem?_eq_some_iff]
  constructor
  · rintro ⟨bound, rfl⟩
    exact ⟨⟨bound, rfl⟩, rfl⟩
  · rintro ⟨⟨bound, name⟩, number⟩
    exact ⟨bound, Prod.ext name number.symm⟩

theorem map_fst_keyPlaces (names : List String) : (keyPlaces names).map Prod.fst = names := by
  apply List.ext_getElem?
  intro index
  simp [keyPlaces, Option.map_map, Function.comp_def]

theorem keyPlaces_sorted (names : List String) :
    (keyPlaces names).Pairwise fun left right => left.2.getD 0 ≤ right.2.getD 0 := by
  rw [List.pairwise_iff_getElem]
  intro first second _ _ before
  simp only [keyPlaces, List.getElem_mapIdx, Option.getD_some]
  omega

theorem keyPlace_numberedField {names : List String} {field : Field}
    (unnumbered : field.primaryKeyPart = none) :
    keyPlace (numberedField 0 names field) =
      (field.name, (names.idxOf? field.name).map (· + 1)) := by
  cases found : names.idxOf? field.name with
  | none => simp [keyPlace, numberedField, found, unnumbered]
  | some index => simp [keyPlace, numberedField, found]

section PrimaryKey

variable {relation : Relation} {key : List String} {fields : List Field}
  (unnumbered : ∀ field ∈ fields, field.primaryKeyPart = none)
  (numbered : relation.fields = numberKey 0 key fields)
  (once : key.Nodup) (distinct : (fields.map (·.name)).Nodup)
  (known : ∀ name ∈ key, name ∈ fields.map (·.name))

include unnumbered numbered once distinct known

theorem mem_primaryKey_iff {place : String × Option Nat} :
    place ∈ relation.primaryKey.map keyPlace ↔ place ∈ keyPlaces key := by
  have places : ∀ field ∈ fields, keyPlace (numberedField 0 key field) =
      (field.name, (key.idxOf? field.name).map (· + 1)) :=
    fun field member => keyPlace_numberedField (unnumbered field member)
  rw [Relation.primaryKey, List.mem_map, mem_keyPlaces_iff]
  simp only [List.mem_mergeSort, List.mem_filter, numbered, numberKey_eq_map 0 distinct once,
    List.mem_map]
  constructor
  · rintro ⟨_, ⟨⟨field, member, rfl⟩, isPart⟩, rfl⟩
    have part : (numberedField 0 key field).primaryKeyPart = (key.idxOf? field.name).map (· + 1) :=
      congrArg Prod.snd (places field member)
    rw [part, Option.isSome_map] at isPart
    obtain ⟨index, found⟩ := Option.isSome_iff_exists.mp isPart
    refine ⟨index, ?_, ?_⟩
    · rw [places field member]
      exact (idxOf?_eq_some_iff_of_nodup once).mp found
    · rw [places field member, found]
      rfl
  · rintro ⟨index, found, number⟩
    obtain ⟨field, member, named⟩ := List.mem_map.mp (known _ (List.mem_of_getElem? found))
    have placed : keyPlace (numberedField 0 key field) = place := by
      rw [places field member, named, (idxOf?_eq_some_iff_of_nodup once).mpr found]
      exact Prod.ext rfl number.symm
    refine ⟨_, ⟨⟨field, member, rfl⟩, ?_⟩, placed⟩
    have part : (numberedField 0 key field).primaryKeyPart = place.2 := congrArg Prod.snd placed
    rw [part, number]
    rfl

theorem primaryKey_eq_keyPlaces : relation.primaryKey.map keyPlace = keyPlaces key := by
  have mem {place : String × Option Nat} :
      place ∈ relation.primaryKey.map keyPlace ↔ place ∈ keyPlaces key :=
    mem_primaryKey_iff unnumbered numbered once distinct known
  have sorted : (relation.primaryKey.map keyPlace).Pairwise fun left right =>
      left.2.getD 0 ≤ right.2.getD 0 := by
    rw [List.pairwise_map]
    refine (List.pairwise_mergeSort ?_ ?_ _).imp fun ordered => of_decide_eq_true ordered
    · intro first second third
      simp only [decide_eq_true_eq]
      exact Nat.le_trans
    · intro first second
      simpa using Nat.le_total _ _
  have apart : (relation.primaryKey.map keyPlace).Nodup := by
    have names : (relation.fields.map (·.name)).Nodup := by
      rwa [numbered, map_name_numberKey]
    have inKey : (relation.primaryKey.map (·.name)).Nodup :=
      ((List.mergeSort_perm _ _).map _).nodup_iff.mpr
        (names.sublist (List.filter_sublist.map _))
    refine List.Nodup.of_map Prod.fst ?_
    rwa [List.map_map]
  have stated : (keyPlaces key).Nodup :=
    List.Nodup.of_map Prod.fst (by rwa [map_fst_keyPlaces])
  refine List.Perm.eq_of_pairwise ?_ sorted (keyPlaces_sorted key)
    ((List.perm_ext_iff_of_nodup apart stated).mpr fun _ => mem)
  -- Places with one number have the name that stands there.
  intro left right leftMember rightMember below above
  obtain ⟨index, leftName, leftNumber⟩ := mem_keyPlaces_iff.mp (mem.mp leftMember)
  obtain ⟨other, rightName, rightNumber⟩ := mem_keyPlaces_iff.mp rightMember
  obtain rfl : index = other := by
    simp only [leftNumber, rightNumber, Option.getD_some] at below above
    omega
  exact Prod.ext (Option.some.inj (leftName.symm.trans rightName))
    (leftNumber.trans rightNumber.symm)

end PrimaryKey

theorem unnumbered_of_history {product : Product} {tokens : Tokens} {log : List Action}
    (logged : history product tokens = .ok log) {creation : Creation}
    (created : .create creation ∈ log) :
    ∀ field ∈ creation.fields, field.primaryKeyPart = none := by
  refine forall_creations
    (P := fun creation => ∀ field ∈ creation.fields, field.primaryKeyPart = none)
    ?_ ?_ logged created
  · intro table inside body left content
    refine readBody_keeps (P := fun body => ∀ field ∈ body.fields, field.primaryKeyPart = none) ?_
      content (by simp)
    intro body changed token rest left step before
    rcases bodyStep_fields step with same | ⟨name, declared, notNull, added⟩
    · rwa [same]
    · rw [added]
      exact List.forall_mem_append.mpr ⟨before, List.forall_mem_singleton.mpr rfl⟩
  · intro view columns field member
    obtain ⟨name, -, rfl⟩ := List.mem_map.mp member
    rfl

/-- The primary key of a relation: what the clauses of its creation and of later statements leave.
Its columns have distinct numbers from 1 on and hold no nulls, and a key that names every column
once is found in its order. -/
theorem dumped_key_parts {dump : String} {productName : Option String} {catalog : Catalog}
    {relation : Relation} (read : readCatalog dump productName = .ok catalog)
    (member : relation ∈ catalog.relations) :
    ∃ product earlier creation later key, productOf? dump productName = some product ∧
      history product (scan dump) = .ok (earlier ++ .create creation :: later) ∧
      key = finalKey (creation.clauses ++ Action.laterClauses creation.id later) ∧
      relation = Definition.relation ⟨creation.id, creation.kind, creation.fields, key⟩ ∧
      (∀ field ∈ relation.fields, ∀ part ∈ field.primaryKeyPart,
        1 ≤ part ∧ part ≤ key.length ∧ field.nullable = some false) ∧
      (relation.fields.filterMap (·.primaryKeyPart)).Nodup ∧
      (key.Nodup → (∀ name ∈ key, name ∈ relation.fields.map (·.name)) →
        (relation.fields.map (·.name)).Nodup →
        relation.primaryKey.map keyPlace = keyPlaces key) := by
  obtain ⟨product, log, found, logged, rfl⟩ := exists_history_of_readCatalog read
  obtain ⟨definition, defined, rfl⟩ := mem_relations_catalog.mp member
  rw [Draft.definitions_replay] at defined
  obtain ⟨earlier, creation, later, rfl, rfl⟩ := Action.mem_definitions_iff.mp defined
  have unnumbered : ∀ field ∈ creation.fields, field.primaryKeyPart = none :=
    unnumbered_of_history logged (by simp)
  have numbered :=
    (NumberedUpTo.of_unnumbered unnumbered).numberKey
      (finalKey (creation.clauses ++ Action.laterClauses creation.id later))
  have names : ((creation.definition (Action.laterClauses creation.id later)).relation.fields.map
      (·.name)) = creation.fields.map (·.name) := map_name_numberKey _ _ _
  refine ⟨product, earlier, creation, later, _, found, logged, rfl, rfl, ?_, numbered.apart, ?_⟩
  · intro field inside part stated
    obtain ⟨positive, small⟩ := numbered.within field inside part stated
    refine ⟨positive, by simpa using small, numbered.filled field inside ?_⟩
    rw [stated]
    rfl
  · intro once known distinct
    rw [names] at known distinct
    exact primaryKey_eq_keyPlaces unnumbered rfl once distinct known

namespace Seats

def dump : String :=
  "CREATE TABLE seat (line INT PRIMARY KEY, no INT, PRIMARY KEY (line));\n" ++
  "ALTER TABLE seat ADD PRIMARY KEY (no, line);"

def seat : Creation where
  id := ⟨none, "seat"⟩
  kind := .table
  fields := [columnField .postgres "line" "INT" true, columnField .postgres "no" "INT" false]
  clauses := [.column "line", .list ["line"]]

def log : List Action := [.create seat, .setPrimaryKey seat.id ["no", "line"]]

def catalog : Catalog := (Draft.replay {} log).catalog .postgres

def relation : Relation where
  id := seat.id
  kind := .table
  fields := [{ columnField .postgres "line" "INT" true with primaryKeyPart := some 2 },
    { columnField .postgres "no" "INT" true with primaryKeyPart := some 1 }]

theorem history_dump : history .postgres (scan dump) = .ok log := by decide +kernel

theorem readCatalog_dump : readCatalog dump (some "postgres") = .ok catalog := by
  refine readCatalog_of_product (by decide) ?_
  rw [readStatements_eq_replay, history_dump]
  rfl

end Seats

theorem dumped_key_parts_seats :
    readCatalog Seats.dump (some "postgres") = .ok Seats.catalog ∧
      Seats.relation ∈ Seats.catalog.relations ∧
      Seats.relation.primaryKey.map keyPlace = [("no", some 1), ("line", some 2)] := by
  have member : Seats.relation ∈ Seats.catalog.relations :=
    mem_relations_catalog.mpr ⟨Seats.seat.definition [.list ["no", "line"]], by decide, by decide⟩
  refine ⟨Seats.readCatalog_dump, member, ?_⟩
  obtain ⟨product, earlier, creation, later, key, found, logged, stated, -, -, -, inOrder⟩ :=
    dumped_key_parts Seats.readCatalog_dump member
  have known : productOf? Seats.dump (some "postgres") = some .postgres := by decide +kernel
  obtain rfl : .postgres = product := Option.some.inj (known.symm.trans found)
  have whole : Seats.log = earlier ++ .create creation :: later :=
    Except.ok.inj (Seats.history_dump.symm.trans logged)
  obtain rfl : key = ["no", "line"] := by
    rcases earlier with _ | ⟨_, _ | ⟨_, _⟩⟩
    · cases whole
      rw [stated]
      decide
    · cases whole
    · simp [Seats.log] at whole
  exact inOrder (by decide) (by decide) (by decide)

end NestedQuery.SchemaDump

import NestedQuery.Proofs.Catalog.KeySearch
import NestedQuery.Proofs.SchemaDump.History
import NestedQuery.Proofs.SchemaDump.KeyPlaces

/-! The foreign keys of a dump. Each comes from a declaration and leads to a relation that the dump
defines. A key that is declared with its table starts from that table, while a key that is added
later starts from whatever the statement names, and is of no use where the dump does not define it.
-/

namespace NestedQuery.SchemaDump

variable {product : Product} {rule : CaseRule} {table : RelationId} {tokens left : Tokens}

theorem readForeignKey_child {constraintName : Option String} {key : KeyDeclaration}
    (read : readForeignKey rule table constraintName tokens = .ok (some key, left)) :
    key.child = table := by
  unfold readForeignKey at read
  split at read
  · simp only at read
    split at read
    · split at read
      · cases read
      · cases read
        rfl
    · cases read
  · cases read

theorem columnStep_children {name : String} {facts changed : ColumnFacts} {token : Token}
    {rest : Tokens} (step : columnStep rule table name facts token rest = .ok (changed, left))
    (before : ∀ key ∈ facts.keys, key.child = table) : ∀ key ∈ changed.keys, key.child = table := by
  unfold columnStep at step
  split at step
  case h_2 => split at step <;> cases step <;> exact before
  case h_5 =>
    split at step
    · cases step
    · cases step
      exact List.forall_mem_append.mpr ⟨before, by simp⟩
  all_goals
    cases step
    exact before

theorem readConstraints_children {name : String} {facts final : ColumnFacts}
    (read : readConstraints rule table name facts tokens = .ok (final, left))
    (before : ∀ key ∈ facts.keys, key.child = table) : ∀ key ∈ final.keys, key.child = table := by
  fun_induction readConstraints rule table name facts tokens with
  | case1 | case2 | case3 =>
      cases read
      exact before
  | case4 => cases read
  | case5 facts token rest _ _ changed left step shorter ih =>
      exact ih read (columnStep_children step before)

theorem readColumn_children {body changed : TableBody} {name : String}
    (read : readColumn product table body name tokens = .ok (changed, left))
    (before : ∀ key ∈ body.keys, key.child = table) : ∀ key ∈ changed.keys, key.child = table := by
  unfold readColumn at read
  simp only at read
  split at read
  · cases read
    exact before
  · split at read
    · cases read
    · rename_i constraints
      cases read
      exact List.forall_mem_append.mpr ⟨before, readConstraints_children constraints (by simp)⟩

theorem bodyStep_children {body changed : TableBody} {token : Token} {rest : Tokens}
    (step : bodyStep product table body token rest = .ok (changed, left))
    (before : ∀ key ∈ body.keys, key.child = table) : ∀ key ∈ changed.keys, key.child = table := by
  unfold bodyStep at step
  simp only at step
  split at step
  case h_4 =>
    split at step
    · cases step
    · rename_i key _ constraint
      cases step
      refine List.forall_mem_append.mpr ⟨before, ?_⟩
      intro declared stated
      obtain rfl : key = some declared := by simpa using stated
      exact readForeignKey_child constraint
  case h_9 =>
    split at step
    · cases step
      exact before
    · split at step
      · cases step
        exact before
      · exact readColumn_children step before
  all_goals
    cases step
    exact before

theorem children_of_history {log : List Action} (logged : history product tokens = .ok log)
    {creation : Creation} (created : .create creation ∈ log) :
    ∀ key ∈ creation.keys, key.child = creation.id := by
  refine forall_creations (P := fun creation => ∀ key ∈ creation.keys, key.child = creation.id)
    ?_ ?_ logged created
  · intro table inside body left content
    exact readBody_keeps (P := fun body => ∀ key ∈ body.keys, key.child = table)
      bodyStep_children content (by simp)
  · intro view columns
    simp

namespace Draft

variable {draft : Draft} {key : ForeignKey}

def keepFirst (kept : List ForeignKey) (key : ForeignKey) : List ForeignKey :=
  if kept.any (sameReference · key) then kept else kept ++ [key]

theorem any_sameReference_iff {kept : List ForeignKey} :
    kept.any (sameReference · key) = true ↔ referent key ∈ kept.map referent := by
  simp only [List.any_eq_true, sameReference_eq_true_iff, List.mem_map, referent, Prod.mk.injEq]

theorem nodup_keepFirst {kept : List ForeignKey} (once : (kept.map referent).Nodup)
    (key : ForeignKey) : ((keepFirst kept key).map referent).Nodup := by
  unfold keepFirst
  split
  · exact once
  · rename_i new
    rw [any_sameReference_iff] at new
    rw [List.map_append, List.map_singleton, ← List.concat_eq_append]
    exact once.concat new

theorem mem_keepFirst_iff {kept : List ForeignKey}
    {reference : RelationId × RelationId × List KeyPair} :
    reference ∈ (keepFirst kept key).map referent ↔
      reference ∈ kept.map referent ∨ reference = referent key := by
  unfold keepFirst
  split
  · rename_i repeated
    rw [any_sameReference_iff] at repeated
    exact ⟨.inl, fun either => either.elim id fun same => same ▸ repeated⟩
  · simp

theorem keepFirst_subset {kept : List ForeignKey} : keepFirst kept key ⊆ kept ++ [key] := by
  unfold keepFirst
  split
  · exact List.subset_append_left kept [key]
  · exact List.Subset.refl _

theorem foldl_keepFirst (keys : List ForeignKey) {kept : List ForeignKey}
    (once : (kept.map referent).Nodup) :
    ((keys.foldl keepFirst kept).map referent).Nodup ∧
      keys.foldl keepFirst kept ⊆ kept ++ keys ∧
      ∀ reference, reference ∈ (keys.foldl keepFirst kept).map referent ↔
        reference ∈ kept.map referent ∨ reference ∈ keys.map referent := by
  induction keys generalizing kept with
  | nil => exact ⟨once, by simp, by simp⟩
  | cons key keys ih =>
      obtain ⟨apart, only, all⟩ := ih (nodup_keepFirst once key)
      refine ⟨apart, ?_, ?_⟩
      · intro found member
        rcases List.mem_append.mp (only member) with early | late
        · have inside := keepFirst_subset early
          simp only [List.mem_append, List.mem_cons] at inside ⊢
          tauto
        · simp [late]
      · intro reference
        rw [List.foldl_cons, all, mem_keepFirst_iff, List.map_cons, List.mem_cons, or_assoc]

theorem foreignKeys_keepFirst (draft : Draft) :
    (draft.foreignKeys.map referent).Nodup ∧ draft.foreignKeys ⊆ draft.references ∧
      ∀ reference, reference ∈ draft.foreignKeys.map referent ↔
        reference ∈ draft.references.map referent := by
  have start : (([] : List ForeignKey).map referent).Nodup := List.nodup_nil
  obtain ⟨once, only, all⟩ := foldl_keepFirst draft.references start
  refine ⟨once, only, fun reference => (all reference).trans ?_⟩
  simp

theorem exists_means_of_mem (member : key ∈ draft.foreignKeys) :
    ∃ declared ∈ draft.keys, ∃ parent, draft.Means declared parent key := by
  have kept := draft.foreignKeys_keepFirst.2.1 member
  obtain ⟨declared, stated, resolved⟩ := List.mem_filterMap.mp kept
  exact ⟨declared, stated, (resolveKey?_eq_some_iff.mp resolved).2⟩

/-- Some declaration refers from the child to the parent by these columns. -/
def Declares (draft : Draft) (child parent : RelationId) (pairs : List KeyPair) : Prop :=
  ∃ declared ∈ draft.keys, ∃ definition key, draft.Means declared definition key ∧
    referent key = (child, parent, pairs)

theorem mem_referents_iff {child parent : RelationId} {pairs : List KeyPair} :
    (child, parent, pairs) ∈ draft.foreignKeys.map referent ↔
      draft.Declares child parent pairs := by
  rw [draft.foreignKeys_keepFirst.2.2, Declares]
  simp only [List.mem_map, references, List.mem_filterMap, resolveKey?_eq_some_iff]
  constructor
  · rintro ⟨key, ⟨declared, stated, -, definition, means⟩, same⟩
    exact ⟨declared, stated, definition, key, means, same⟩
  · rintro ⟨declared, stated, definition, key, means, same⟩
    -- A declaration means the same whatever the constraint is called.
    refine ⟨{ key with constraintName := declared.constraintName },
      ⟨declared, stated, rfl, definition, ?_⟩, same⟩
    exact ⟨means.child, means.named, means.found, means.childFields, means.parentFields,
      means.nonempty⟩

theorem relation?_catalog (draft : Draft) (product : Product) (id : RelationId) :
    (draft.catalog product).relation? id = (draft.definition? id).map Definition.relation := by
  rw [catalog, Catalog.relation?_build, List.filter_map, List.getLast?_map, definition?,
    ← List.head?_filter, List.filter_reverse, List.head?_reverse]
  rfl

theorem foreignKeys_catalog_perm (draft : Draft) (product : Product) :
    (draft.catalog product).foreignKeys.Perm draft.foreignKeys :=
  List.mergeSort_perm _ _

end Draft

theorem isSome_relation?_replay {log : List Action} {id : RelationId} :
    (((Draft.replay {} log).catalog product).relation? id).isSome = true ↔
      ∃ creation, .create creation ∈ log ∧ creation.id = id := by
  rw [Draft.catalog, Catalog.isSome_relation?_build, List.map_map, ← Action.mem_ids_iff,
    ← Draft.definitions_replay]
  rfl

/-- A key that is declared with its table is found from that table. Any other key of a dump was
added by a statement of its own, and is found if the dump also creates the table that the statement
names. -/
theorem dumped_key_usable_iff {dump : String} {productName : Option String} {catalog : Catalog}
    (read : readCatalog dump productName = .ok catalog) :
    ∃ product log, productOf? dump productName = some product ∧
      history product (scan dump) = .ok log ∧
      ∀ key ∈ catalog.foreignKeys,
        (∃ creation, .create creation ∈ log ∧ creation.id = key.parent) ∧
        (key ∈ catalog.keysBetween key.child key.parent ↔
          ∃ creation, .create creation ∈ log ∧ creation.id = key.child) ∧
        (∀ creation, .create creation ∈ log → ∀ declared ∈ creation.keys, ∀ parent,
          (Draft.replay {} log).Means declared parent key →
            key ∈ catalog.keysBetween key.child key.parent) ∧
        (key ∉ catalog.keysBetween key.child key.parent →
          ∃ declared parent, .addKey declared ∈ log ∧
            (Draft.replay {} log).Means declared parent key) := by
  obtain ⟨product, log, found, logged, rfl⟩ := exists_history_of_readCatalog read
  refine ⟨product, log, found, logged, ?_⟩
  intro key member
  obtain ⟨declared, stated, definition, means⟩ :=
    Draft.exists_means_of_mem ((Draft.foreignKeys_catalog_perm _ product).mem_iff.mp member)
  have parentKnown : (((Draft.replay {} log).catalog product).relation? key.parent).isSome := by
    simp [Draft.relation?_catalog, means.found]
  have usable : key ∈ ((Draft.replay {} log).catalog product).keysBetween key.child key.parent ↔
      ∃ creation, .create creation ∈ log ∧ creation.id = key.child := by
    rw [Catalog.mem_keysBetween_iff, isSome_relation?_replay]
    simp [parentKnown, member]
  have withTable (creation : Creation) (created : .create creation ∈ log)
      (declared : KeyDeclaration) (inside : declared ∈ creation.keys) (parent : Definition)
      (meant : (Draft.replay {} log).Means declared parent key) :
      key ∈ ((Draft.replay {} log).catalog product).keysBetween key.child key.parent := by
    refine usable.mpr ⟨creation, created, ?_⟩
    rw [meant.child, children_of_history logged created declared inside]
  refine ⟨isSome_relation?_replay.mp parentKnown, usable, withTable, ?_⟩
  intro notFound
  rw [Draft.keys_replay] at stated
  obtain ⟨action, performed, inAction⟩ := List.mem_flatMap.mp (by simpa using stated)
  cases action with
  | create creation =>
      exact absurd (withTable creation performed declared inAction definition means) notFound
  | addKey key =>
      obtain rfl := List.mem_singleton.mp inAction
      exact ⟨declared, definition, performed, means⟩
  | pass | setPrimaryKey => cases inAction

namespace Notes

def dump : String :=
  "CREATE TABLE note (id INT, by INT REFERENCES person);\n" ++
  "CREATE TABLE person (no INT);\n" ++
  "ALTER TABLE person ADD PRIMARY KEY (no);\n" ++
  "ALTER TABLE note ADD FOREIGN KEY (by) REFERENCES person (no);\n" ++
  "ALTER TABLE memo ADD FOREIGN KEY (by) REFERENCES person (no);"

def dumpTokens : Tokens :=
  [.keyword .create, .keyword .table, .word "note", .openParen, .word "id", .word "INT", .comma,
    .word "by", .word "INT", .keyword .references, .word "person", .closeParen, .semicolon,
    .keyword .create, .keyword .table, .word "person", .openParen, .word "no", .word "INT",
    .closeParen, .semicolon,
    .keyword .alter, .keyword .table, .word "person", .keyword .add, .keyword .primary,
    .keyword .key, .openParen, .word "no", .closeParen, .semicolon,
    .keyword .alter, .keyword .table, .word "note", .keyword .add, .keyword .foreign,
    .keyword .key, .openParen, .word "by", .closeParen, .keyword .references, .word "person",
    .openParen, .word "no", .closeParen, .semicolon,
    .keyword .alter, .keyword .table, .word "memo", .keyword .add, .keyword .foreign,
    .keyword .key, .openParen, .word "by", .closeParen, .keyword .references, .word "person",
    .openParen, .word "no", .closeParen, .semicolon]

def person : RelationId := ⟨none, "person"⟩

def note : RelationId := ⟨none, "note"⟩

def memo : RelationId := ⟨none, "memo"⟩

def notes : Creation where
  id := note
  kind := .table
  fields := [columnField .postgres "id" "INT" false, columnField .postgres "by" "INT" false]
  keys := [⟨none, note, ["by"], person, []⟩]

def persons : Creation :=
  { id := person, kind := .table, fields := [columnField .postgres "no" "INT" false] }

def log : List Action :=
  [.create notes, .create persons, .setPrimaryKey person ["no"],
    .addKey ⟨none, note, ["by"], person, ["no"]⟩, .addKey ⟨none, memo, ["by"], person, ["no"]⟩]

def draft : Draft := Draft.replay {} log

def catalog : Catalog := draft.catalog .postgres

def written (child : RelationId) : ForeignKey :=
  { constraintName := none, child, parent := person, pairs := [⟨"by", "no"⟩] }

theorem productOf?_dump : productOf? dump (some "postgres") = some .postgres := by decide

theorem scan_dump : scan dump = dumpTokens := by decide +kernel

theorem history_dump : history .postgres (scan dump) = .ok log := by
  rw [scan_dump]
  decide +kernel

theorem readStatements_dump : readStatements .postgres {} (scan dump) = .ok draft := by
  rw [readStatements_eq_replay, history_dump]
  rfl

theorem readCatalog_dump : readCatalog dump (some "postgres") = .ok catalog :=
  readCatalog_of_product productOf?_dump readStatements_dump

theorem foreignKeys_draft : draft.foreignKeys = [written note, written memo] := by decide

theorem mem_foreignKeys {key : ForeignKey} :
    key ∈ catalog.foreignKeys ↔ key = written note ∨ key = written memo := by
  rw [catalog, (draft.foreignKeys_catalog_perm .postgres).mem_iff, foreignKeys_draft]
  simp

end Notes

theorem dumped_key_usable_iff_notes :
    readCatalog Notes.dump (some "postgres") = .ok Notes.catalog ∧
      (Notes.written Notes.note ∈ Notes.catalog.foreignKeys ∧
        Notes.written Notes.note ∈ Notes.catalog.keysBetween Notes.note Notes.person) ∧
      Notes.written Notes.memo ∈ Notes.catalog.foreignKeys ∧
        Notes.written Notes.memo ∉ Notes.catalog.keysBetween Notes.memo Notes.person := by
  have ofNote : Notes.written Notes.note ∈ Notes.catalog.foreignKeys :=
    Notes.mem_foreignKeys.mpr (.inl rfl)
  have ofMemo : Notes.written Notes.memo ∈ Notes.catalog.foreignKeys :=
    Notes.mem_foreignKeys.mpr (.inr rfl)
  obtain ⟨product, log, found, logged, usable⟩ := dumped_key_usable_iff Notes.readCatalog_dump
  obtain rfl : .postgres = product := Option.some.inj (Notes.productOf?_dump.symm.trans found)
  obtain rfl : Notes.log = log := Except.ok.inj (Notes.history_dump.symm.trans logged)
  refine ⟨Notes.readCatalog_dump, ⟨ofNote, ?_⟩, ofMemo, ?_⟩
  · exact (usable _ ofNote).2.1.mpr ⟨Notes.notes, by decide, rfl⟩
  · intro between
    have created := (usable _ ofMemo).2.1.mp between
    rw [← Action.mem_ids_iff] at created
    exact absurd created (by decide)

/-- A key that is added to a table which the dump does not create is kept, and is never found. -/
theorem added_key_unusable :
    readCatalog Notes.dump (some "postgres") = .ok Notes.catalog ∧
      ∃ key ∈ Notes.catalog.foreignKeys,
        key ∉ Notes.catalog.keysBetween key.child key.parent := by
  refine ⟨Notes.readCatalog_dump, Notes.written Notes.memo, Notes.mem_foreignKeys.mpr (.inr rfl),
    ?_⟩
  rw [Catalog.mem_keysBetween_iff, Notes.catalog, Draft.relation?_catalog]
  rintro ⟨known, -⟩
  exact absurd known (by decide)

theorem findForeignKey_of_only {catalog : Catalog} {child parent : RelationId}
    {pairs : List KeyPair} (once : (catalog.foreignKeys.map Draft.referent).Nodup)
    (childHeld : (catalog.relation? child).isSome) (parentHeld : (catalog.relation? parent).isSome)
    (only : ∀ others, (child, parent, others) ∈ catalog.foreignKeys.map Draft.referent ↔
      others = pairs) :
    ∃ key, catalog.findForeignKey child parent none = .ok key ∧ key.pairs = pairs := by
  have same {key : ForeignKey} (between : key ∈ catalog.keysBetween child parent) :
      Draft.referent key = (child, parent, pairs) := by
    obtain ⟨-, -, member, rfl, rfl⟩ := Catalog.mem_keysBetween_iff.mp between
    have samePairs : key.pairs = pairs := (only key.pairs).mp (List.mem_map_of_mem member)
    rw [Draft.referent, samePairs]
  have apart : ((catalog.keysBetween child parent).map Draft.referent).Nodup := by
    rw [Catalog.keysBetween_eq_filter]
    split
    · exact once.sublist (List.filter_sublist.map _)
    · exact List.nodup_nil
  obtain ⟨key, member, refers⟩ := List.mem_map.mp ((only pairs).mpr rfl)
  simp only [Draft.referent, Prod.mk.injEq] at refers
  obtain ⟨fromChild, toParent, samePairs⟩ := refers
  have between : key ∈ catalog.keysBetween child parent :=
    Catalog.mem_keysBetween_iff.mpr ⟨childHeld, parentHeld, member, fromChild, toParent⟩
  refine ⟨key, Catalog.findForeignKey_none_iff.mpr ?_, samePairs⟩
  generalize catalog.keysBetween child parent = keys at same apart between
  rcases keys with _ | ⟨first, _ | ⟨second, rest⟩⟩
  · cases between
  · rw [List.mem_singleton.mp between]
  · simp [same List.mem_cons_self, same (List.mem_cons_of_mem _ List.mem_cons_self)] at apart

/-- The foreign keys of a dump are what its declarations mean, each of them once: a key has columns,
leads to a relation of the dump and by default to its primary key. Declared any number of times, the
only key between two relations is found. -/
theorem dumped_keys_well_formed {dump : String} {productName : Option String} {catalog : Catalog}
    (read : readCatalog dump productName = .ok catalog) :
    ∃ product draft, productOf? dump productName = some product ∧
      readStatements product {} (scan dump) = .ok draft ∧
      (∀ key ∈ catalog.foreignKeys, key.pairs ≠ [] ∧
        key.parent ∈ catalog.relations.map (·.id) ∧
        ∃ declared ∈ draft.keys, ∃ parent, draft.Means declared parent key) ∧
      (∀ declared parent key, draft.Means declared parent key →
        catalog.relation? key.parent = some parent.relation ∧
        (declared.parentFields = [] → key.pairs.map (·.parentField) = parent.primaryKey)) ∧
      (∀ child parent pairs, (child, parent, pairs) ∈ catalog.foreignKeys.map Draft.referent ↔
        draft.Declares child parent pairs) ∧
      (catalog.foreignKeys.map Draft.referent).Nodup ∧
      ∀ child parent pairs, child ∈ catalog.relations.map (·.id) →
        (∀ others, draft.Declares child parent others ↔ others = pairs) →
        ∃ key, catalog.findForeignKey child parent none = .ok key ∧ key.pairs = pairs := by
  obtain ⟨product, draft, found, statements, rfl⟩ := exists_product_of_readCatalog read
  have perm := draft.foreignKeys_catalog_perm product
  have once : ((draft.catalog product).foreignKeys.map Draft.referent).Nodup :=
    (perm.map _).nodup_iff.mpr draft.foreignKeys_keepFirst.1
  have declares (child parent : RelationId) (pairs : List KeyPair) :
      (child, parent, pairs) ∈ (draft.catalog product).foreignKeys.map Draft.referent ↔
        draft.Declares child parent pairs := by
    rw [(perm.map _).mem_iff, Draft.mem_referents_iff]
  have held {declared : KeyDeclaration} {parent : Definition} {key : ForeignKey}
      (means : draft.Means declared parent key) :
      (draft.catalog product).relation? key.parent = some parent.relation := by
    rw [draft.relation?_catalog, means.found]
    rfl
  refine ⟨product, draft, found, statements, ?_, ?_, declares, once, ?_⟩
  · intro key member
    obtain ⟨declared, stated, parent, means⟩ := Draft.exists_means_of_mem (perm.mem_iff.mp member)
    refine ⟨means.nonempty, ?_, declared, stated, parent, means⟩
    exact Catalog.isSome_relation?_iff.mp (by rw [held means]; rfl)
  · intro declared parent key means
    refine ⟨held means, fun implicit => ?_⟩
    rw [means.parentFields, if_pos implicit]
  · intro child parent pairs childHeld only
    obtain ⟨declared, stated, definition, key, means, same⟩ := (only pairs).mpr rfl
    have toParent : key.parent = parent := congrArg (·.2.1) same
    refine findForeignKey_of_only once (Catalog.isSome_relation?_iff.mpr childHeld) ?_
      fun others => (declares child parent others).trans (only others)
    rw [← toParent, held means]
    rfl

theorem dumped_keys_well_formed_notes :
    readCatalog Notes.dump (some "postgres") = .ok Notes.catalog ∧
      (Notes.draft.keys.map fun key => (key.child, key.parentFields)) =
        [(Notes.note, []), (Notes.note, ["no"]), (Notes.memo, ["no"])] ∧
      ∃ key, Notes.catalog.findForeignKey Notes.note Notes.person none = .ok key ∧
        key.pairs = [⟨"by", "no"⟩] := by
  obtain ⟨product, draft, found, statements, -, -, -, -, resolved⟩ :=
    dumped_keys_well_formed Notes.readCatalog_dump
  obtain rfl : Notes.draft = draft := by
    obtain rfl : .postgres = product := Option.some.inj (Notes.productOf?_dump.symm.trans found)
    exact Except.ok.inj (Notes.readStatements_dump.symm.trans statements)
  refine ⟨Notes.readCatalog_dump, by decide, resolved _ _ _ ?_ ?_⟩
  · exact Catalog.isSome_relation?_iff.mp
      (isSome_relation?_replay.mpr ⟨Notes.notes, by decide, rfl⟩)
  · intro others
    rw [← Draft.mem_referents_iff, Notes.foreignKeys_draft]
    simp [Draft.referent, Notes.written, Notes.note, Notes.memo]

end NestedQuery.SchemaDump

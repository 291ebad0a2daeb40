import NestedQuery.Proofs.Catalog.Lookup
import NestedQuery.Proofs.SchemaDump.Declared
import NestedQuery.Proofs.SchemaDump.KeyMeaning

/-! A key means the same wherever it is stated: at a column, at its table or in a later statement.
Scripts that declare the same tables, primary keys and foreign keys are read as the same catalog. -/

namespace NestedQuery.SchemaDump

variable {rule : CaseRule}

namespace Draft

def outline (definition : Definition) : RelationId × List String :=
  (definition.id, definition.primaryKey)

theorem definition?_outline (draft : Draft) (id : RelationId) :
    (draft.definition? id).map outline =
      (draft.definitions.map outline).reverse.find? (·.1 == id) := by
  rw [definition?, ← List.map_reverse, List.find?_map]
  rfl

theorem parentOf?_outline {read stated : Draft}
    (same : read.definitions.map outline = stated.definitions.map outline)
    (key : KeyDeclaration) :
    (read.parentOf? key).map outline = (stated.parentOf? key).map outline := by
  have found (id : RelationId) :
      (read.definition? id).map outline = (stated.definition? id).map outline := by
    rw [definition?_outline, definition?_outline, same]
  have direct := found key.parent
  unfold parentOf?
  cases first : read.definition? key.parent with
  | some definition =>
      cases second : stated.definition? key.parent with
      | some other => simpa [first, second] using direct
      | none => simp [first, second] at direct
  | none =>
      cases second : stated.definition? key.parent with
      | some other => simp [first, second] at direct
      | none =>
          cases key.parent.schema with
          | some schema => rfl
          | none =>
              cases key.child.schema with
              | none => rfl
              | some schema => exact found _

theorem resolveKey?_eq_of_outline {read stated : Draft}
    (same : read.definitions.map outline = stated.definitions.map outline)
    (key : KeyDeclaration) : read.resolveKey? key = stated.resolveKey? key := by
  have parents := parentOf?_outline same key
  unfold resolveKey?
  cases first : read.parentOf? key with
  | none =>
      cases second : stated.parentOf? key with
      | none => rfl
      | some other => simp [first, second] at parents
  | some parent =>
      cases second : stated.parentOf? key with
      | none => simp [first, second] at parents
      | some other =>
          obtain ⟨id, primaryKey⟩ :
              parent.id = other.id ∧ parent.primaryKey = other.primaryKey := by
            simpa [first, second, outline] using parents
          simp only [id, primaryKey]

/-- The declaration with the columns it refers to, where these are left out. -/
def complete (draft : Draft) (key : KeyDeclaration) : KeyDeclaration :=
  match draft.parentOf? key with
  | none => key
  | some parent =>
      if key.parentFields.isEmpty then { key with parentFields := parent.primaryKey } else key

theorem resolveKey?_complete (draft : Draft) (key : KeyDeclaration) :
    draft.resolveKey? (draft.complete key) = draft.resolveKey? key := by
  unfold complete
  cases found : draft.parentOf? key with
  | none => rfl
  | some parent =>
      by_cases implicit : key.parentFields.isEmpty = true
      · have same : draft.parentOf? { key with parentFields := parent.primaryKey } =
            some parent := found
        simp only [resolveKey?, implicit, if_true, same, found, ite_self]
      · simp only [if_neg implicit]

def references (draft : Draft) : List ForeignKey := draft.keys.filterMap draft.resolveKey?

def referent (key : ForeignKey) : RelationId × RelationId × List KeyPair :=
  (key.child, key.parent, key.pairs)

theorem foreignKeys_eq_references {draft : Draft}
    (once : (draft.references.map referent).Nodup) : draft.foreignKeys = draft.references := by
  have apart : ([] ++ draft.references).Pairwise fun left right =>
      sameReference left right = false := by
    refine (List.pairwise_map.mp once).imp ?_
    intro left right different
    by_contra same
    obtain ⟨child, parent, pairs⟩ := (sameReference_eq_true_iff left right).mp (by simpa using same)
    apply different
    simp only [referent, child, parent, pairs]
  exact foldl_keep_eq_append apart

theorem eq_of_reference_display {draft : Draft}
    (distinct : (draft.definitions.map (·.id.display)).Nodup)
    (children : ∀ key ∈ draft.keys, key.child ∈ draft.definitions.map (·.id))
    (once : (draft.references.map referent).Nodup) {left right : ForeignKey}
    (leftKnown : left ∈ draft.references) (rightKnown : right ∈ draft.references)
    (child : left.child.display = right.child.display)
    (parent : left.parent.display = right.parent.display) (pairs : left.pairs = right.pairs) :
    left = right := by
  have known {key : ForeignKey} (member : key ∈ draft.references) :
      key.child ∈ draft.definitions.map (·.id) ∧ key.parent ∈ draft.definitions.map (·.id) := by
    obtain ⟨declared, inKeys, resolved⟩ := List.mem_filterMap.mp member
    obtain ⟨sameChild, parentKnown⟩ := resolveKey?_known resolved
    rw [sameChild]
    exact ⟨children declared inKeys, parentKnown⟩
  have same {first second : RelationId} (inFirst : first ∈ draft.definitions.map (·.id))
      (inSecond : second ∈ draft.definitions.map (·.id))
      (display : first.display = second.display) : first = second := by
    have ids : ((draft.definitions.map (·.id)).map RelationId.display).Nodup := by
      rw [List.map_map]
      exact distinct
    exact List.inj_on_of_nodup_map ids inFirst inSecond display
  apply List.inj_on_of_nodup_map once leftKnown rightKnown
  rw [referent, referent, same (known leftKnown).1 (known rightKnown).1 child,
    same (known leftKnown).2 (known rightKnown).2 parent, pairs]

theorem catalog_eq_of_alike (product : Product) {read stated : Draft}
    (keys : read.keys = stated.keys)
    (alike : List.Forall₂ Definition.Alike read.definitions stated.definitions) :
    read.catalog product = stated.catalog product := by
  have relations : read.definitions.map Definition.relation =
      stated.definitions.map Definition.relation :=
    Definition.map_eq_of_alike (·.relation) alike
  have ids : read.definitions.map (·.id) = stated.definitions.map (·.id) :=
    Definition.map_eq_of_alike (·.id) alike
  have outlines : read.definitions.map outline = stated.definitions.map outline := by
    refine Definition.map_eq_of_alike ?_ alike
    intro first second same
    rw [outline, outline, same.id, same.primaryKey]
  have schemaName : read.defaultSchema = stated.defaultSchema := by
    have byIds (draft : Draft) :
        draft.defaultSchema = (draft.definitions.map (·.id)).findSome? (·.schema) := by
      rw [List.findSome?_map]
      rfl
    rw [byIds, byIds, ids]
  have resolved : read.resolveKey? = stated.resolveKey? :=
    funext (resolveKey?_eq_of_outline outlines)
  rw [catalog, catalog, foreignKeys, foreignKeys, schemaName, relations, keys, resolved]

theorem catalog_eq_of_same_keys (product : Product) {left right : Draft}
    (definitions : left.definitions = right.definitions)
    (sameKeys : (left.keys.map left.complete).Perm (right.keys.map right.complete))
    (distinct : (left.definitions.map (·.id.display)).Nodup)
    (children : ∀ key ∈ left.keys, key.child ∈ left.definitions.map (·.id))
    (once : (left.references.map referent).Nodup) :
    left.catalog product = right.catalog product := by
  have completed (draft : Draft) :
      draft.references = (draft.keys.map draft.complete).filterMap draft.resolveKey? := by
    rw [references, List.filterMap_map]
    congr 1
    funext key
    exact (draft.resolveKey?_complete key).symm
  have resolved : left.resolveKey? = right.resolveKey? :=
    funext (resolveKey?_eq_of_outline (by rw [definitions]))
  have sameReferences : left.references.Perm right.references := by
    rw [completed left, completed right, resolved]
    exact sameKeys.filterMap _
  have onceRight : (right.references.map referent).Nodup :=
    (sameReferences.map referent).nodup_iff.mp once
  have schemaName : left.defaultSchema = right.defaultSchema := by
    rw [defaultSchema, definitions]
    rfl
  rw [catalog, catalog, foreignKeys_eq_references once, foreignKeys_eq_references onceRight,
    ← schemaName, ← definitions]
  apply Catalog.build_eq_of_perm _ _ _ _ (.refl _) sameReferences
  · intro first firstKnown second secondKnown same
    obtain ⟨firstDefinition, firstMember, rfl⟩ := List.mem_map.mp firstKnown
    obtain ⟨secondDefinition, secondMember, rfl⟩ := List.mem_map.mp secondKnown
    rw [List.inj_on_of_nodup_map distinct firstMember secondMember same]
  · intro first firstKnown second secondKnown child parent pairs
    exact eq_of_reference_display distinct children once firstKnown secondKnown child parent pairs

end Draft

namespace Script

def tables (script : Script rule) : List PlainTable := script.statements.flatMap Statement.tables

def primaryKeys (script : Script rule) : List (RelationId × List String) :=
  script.statements.flatMap Statement.primaryKeys

def tokens (script : Script rule) : Tokens := script.statements.flatMap Statement.tokens

def draft (product : Product) (script : Script rule) : Draft where
  definitions := script.tables.map (PlainTable.definition product script.primaryKeys)
  keys := script.statements.flatMap Statement.keys

theorem readCatalog_script {product : Product} (script : Script product.caseRule) {dump : String}
    (written : scan dump = script.tokens) {productName : Option String}
    (found : productOf? dump productName = some product) :
    readCatalog dump productName = .ok ((script.draft product).catalog product) := by
  have read := readStatements_script {} script.statements
  rw [← tokens, ← written] at read
  have ids : (script.tables.map (·.id)).Nodup := by
    apply List.Nodup.of_map RelationId.display
    rw [List.map_map]
    exact script.distinct
  have start : List.Forall₂ Definition.Alike ({} : Draft).definitions
      (([] : List PlainTable).map (PlainTable.definition product [])) := .nil
  have alike := foldl_statements_alike script.statements start ids script.columnsDistinct
    script.onePrimaryKey (by simp) script.altersLater
  have keys := keys_foldl_statements product {} script.statements
  rw [readCatalog_of_product found read]
  exact congrArg _ (Draft.catalog_eq_of_alike product keys alike)

def completeKeys (product : Product) (script : Script rule) : List KeyDeclaration :=
  (script.draft product).keys.map (script.draft product).complete

end Script

/-- Scripts that declare the same tables, primary keys and foreign keys are read as the same
catalog, wherever they state the keys. -/
theorem key_places_agree {product : Product} (left right : Script product.caseRule)
    {leftDump rightDump : String} {productName : Option String}
    (leftWritten : scan leftDump = left.tokens) (rightWritten : scan rightDump = right.tokens)
    (leftProduct : productOf? leftDump productName = some product)
    (rightProduct : productOf? rightDump productName = some product)
    (sameTables : left.tables = right.tables)
    (samePrimaryKeys : left.primaryKeys.Perm right.primaryKeys)
    (sameKeys : (left.completeKeys product).Perm (right.completeKeys product))
    (noReferenceTwice : ((left.draft product).references.map Draft.referent).Nodup) :
    readCatalog leftDump productName = .ok ((left.draft product).catalog product) ∧
      readCatalog rightDump productName = .ok ((left.draft product).catalog product) := by
  have sameDefinitions : (left.draft product).definitions = (right.draft product).definitions := by
    have once : (left.primaryKeys.map Prod.fst).Nodup := left.onePrimaryKey
    have key (id : RelationId) : keyOf left.primaryKeys id = keyOf right.primaryKeys id := by
      rw [keyOf, keyOf, find?_eq_of_perm once samePrimaryKeys id]
    simp only [Script.draft, sameTables]
    apply List.map_congr_left
    intro table _
    simp only [PlainTable.definition, key]
  have distinct : ((left.draft product).definitions.map (·.id.display)).Nodup := by
    rw [Script.draft, List.map_map]
    exact left.distinct
  have children : ∀ key ∈ (left.draft product).keys,
      key.child ∈ (left.draft product).definitions.map (·.id) := by
    intro key member
    have known := child_mem_of_altersLater left.altersLater member
    rw [Script.draft, List.map_map]
    exact known
  have same := Draft.catalog_eq_of_same_keys product sameDefinitions sameKeys distinct children
    noReferenceTwice
  constructor
  · exact left.readCatalog_script leftWritten leftProduct
  · rw [same]
    exact right.readCatalog_script rightWritten rightProduct

namespace Transit

def named (text : String) : Spelling Product.generic.caseRule :=
  ⟨.word text, Product.generic.caseRule.normalize text, rfl⟩

def hop : WrittenId Product.generic.caseRule := { name := named "hop" }

def number : WrittenType := { tokens := [.word "int"] }

def inTable : Script Product.generic.caseRule where
  statements :=
    [.create hop
      [.column { name := named "no", type := number, clauses := [.primaryKey] },
       .column
         { name := named "up", type := number
           clauses := [.references { constraintName := some (named "fk"), parent := hop }] }]]

def inTableText : String :=
  "create table hop(no int primary key,up int constraint fk references hop);"

def added : Script Product.generic.caseRule where
  statements :=
    [.create hop
      [.column { name := named "no", type := number },
       .column { name := named "up", type := number }],
     .addForeignKey false hop [named "up"]
       { constraintName := some (named "fk"), parent := hop, columns := [named "no"] },
     .addPrimaryKey true hop none [named "no"]]

def addedText : String :=
  "create table hop(no int,up int);alter table hop add constraint fk foreign key(up)" ++
    "references hop(no);alter table only hop add primary key(no);"

end Transit

theorem key_places_agree_transit :
    scan Transit.inTableText = Transit.inTable.tokens ∧
      scan Transit.addedText = Transit.added.tokens ∧
      readCatalog Transit.addedText (some "generic") =
        readCatalog Transit.inTableText (some "generic") := by
  have inTable : scan Transit.inTableText = Transit.inTable.tokens := by decide +kernel
  have added : scan Transit.addedText = Transit.added.tokens := by decide +kernel
  have generic (dump : String) : productOf? dump (some "generic") = some .generic := by
    have known : Product.ofName? "generic" = some .generic := by decide +kernel
    rw [productOf?, known]
    rfl
  obtain ⟨first, second⟩ := key_places_agree Transit.inTable Transit.added inTable added
    (generic _) (generic _) (by decide +kernel) (by decide +kernel) (by decide +kernel)
    (by decide +kernel)
  exact ⟨inTable, added, second.trans first.symm⟩

/-- The places do not agree where the product is found out from the name of a constraint, and where
a column is not read as one: by its name, or for want of a type. -/
theorem key_places_disagree :
    readCatalog "create table t(c int primary key);" none ≠
        readCatalog "create table t(c int);alter table t add constraint serial primary key(c);"
          none ∧
      readCatalog "create table t(d int,exclude int references t(d));" (some "generic") ≠
        readCatalog "create table t(d int,exclude int,foreign key(exclude)references t(d));"
          (some "generic") ∧
      readCatalog "create table t(d int,view double precision references t(d));"
          (some "generic") ≠
        readCatalog "create table t(d int,view double precision,foreign key(view)references t(d));"
          (some "generic") ∧
      readCatalog "create table t(d int,c \"Mood\" references t(d));" (some "generic") ≠
        readCatalog "create table t(d int,c \"Mood\",foreign key(c)references t(d));"
          (some "generic") := by
  -- One part of each catalog is enough to tell the two apart.
  let product (read : Except DumpError Catalog) := read.toOption.map (·.productName)
  let keyCount (read : Except DumpError Catalog) := read.toOption.map (·.foreignKeys.length)
  refine ⟨ne_of_apply_ne product ?_, ne_of_apply_ne keyCount ?_, ne_of_apply_ne keyCount ?_,
    ne_of_apply_ne keyCount ?_⟩
  · decide +kernel
  · decide +kernel
  · decide +kernel
  · decide +kernel

end NestedQuery.SchemaDump

import NestedQuery.Proofs.Catalog.Lookup
import NestedQuery.Proofs.Query.Assembly

/-! Compilation looks a catalog up and does nothing else with it. Catalogs whose lookups agree give
the same queries and the same errors, and so the order in which a catalog's parts are listed does
not matter. -/

namespace NestedQuery

namespace Catalog.Agree

variable {left right : Catalog} (agree : left.Agree right)
include agree

theorem normalize_eq : left.normalize = right.normalize := by
  funext name
  simp only [Catalog.normalize, agree.caseRule]

theorem quote_eq : left.quote = right.quote := by
  funext name
  simp only [Catalog.quote, agree.caseRule]

theorem findRelation_eq : left.findRelation = right.findRelation := by
  funext table defaultSchema location
  have sameId : left.idFor table defaultSchema = right.idFor table defaultSchema := by
    simp only [Catalog.idFor, agree.normalize_eq, agree.schemaName]
  simp only [Catalog.findRelation, sameId, agree.relation?]

theorem findField_eq : left.findField = right.findField := by
  funext relation name location
  simp only [Catalog.findField, agree.normalize_eq]

end Catalog.Agree

/-- The columns of the key to choose, of the columns of all keys between two relations. -/
def choosePairs (child parent : RelationId) (stored : Option (List String))
    (candidates : List (List KeyPair)) : Except SpecCause (List KeyPair) :=
  match stored with
  | some names =>
      match candidates.find? fun pairs =>
          ForeignKey.hasChildFields { child, parent, pairs } names with
      | some pairs => .ok pairs
      | none => .error (.noForeignKeyWith child.display parent.display names)
  | none =>
      match candidates with
      | [] => .error (.noForeignKey child.display parent.display)
      | [pairs] => .ok pairs
      | several =>
          .error (.severalForeignKeys child.display parent.display
            (several.map fun pairs => pairs.map (·.childField)))

theorem Catalog.findForeignKey_pairs (catalog : Catalog) (child parent : RelationId)
    (fields : Option (List String)) :
    (catalog.findForeignKey child parent fields).map ForeignKey.pairs =
      choosePairs child parent (fields.map fun names => names.map catalog.normalize)
        ((catalog.keysBetween child parent).map ForeignKey.pairs) := by
  unfold Catalog.findForeignKey
  cases fields with
  | none =>
      simp only [Option.map_none, choosePairs]
      rcases catalog.keysBetween child parent with _ | ⟨first, _ | ⟨second, rest⟩⟩
      · rfl
      · rfl
      · simp only [List.map_cons, List.map_map]
        rfl
  | some names =>
      simp only [Option.map_some, choosePairs, List.find?_map]
      -- Whether a key has the wanted columns is told by its pairs alone.
      have sameTest : (fun pairs => ForeignKey.hasChildFields { child, parent, pairs }
          (names.map catalog.normalize)) ∘ ForeignKey.pairs =
          fun key => key.hasChildFields (names.map catalog.normalize) := rfl
      rw [sameTest]
      cases (catalog.keysBetween child parent).find?
          fun key => key.hasChildFields (names.map catalog.normalize) with
      | none => rfl
      | some key => rfl

namespace Catalog.Agree

variable {left right : Catalog} (agree : left.Agree right)
include agree

theorem joinPairs_eq : left.joinPairs = right.joinPairs := by
  funext link child parent location
  have chosen : (left.findForeignKey child.id parent.id link.foreignKeyFields).map
      ForeignKey.pairs =
      (right.findForeignKey child.id parent.id link.foreignKeyFields).map ForeignKey.pairs := by
    rw [findForeignKey_pairs, findForeignKey_pairs, agree.keys, agree.normalize_eq]
  have custom : left.customPair child parent location =
      right.customPair child parent location := by
    funext pair
    simp only [Catalog.customPair, agree.normalize_eq, agree.findField_eq]
  unfold Catalog.joinPairs
  cases link.customJoin with
  | some pairs => simp only [custom]
  | none =>
      cases leftFound : left.findForeignKey child.id parent.id link.foreignKeyFields with
      | error cause =>
          cases rightFound : right.findForeignKey child.id parent.id link.foreignKeyFields with
          | error other =>
              simp only [leftFound, rightFound, Except.map, Except.error.injEq] at chosen
              simp only [chosen]
          | ok key => simp [leftFound, rightFound, Except.map] at chosen
      | ok key =>
          cases rightFound : right.findForeignKey child.id parent.id link.foreignKeyFields with
          | error cause => simp [leftFound, rightFound, Except.map] at chosen
          | ok other =>
              simp only [leftFound, rightFound, Except.map, Except.ok.injEq] at chosen
              simp only [chosen]

theorem condition_eq (correlation : Correlation) :
    correlation.condition left = correlation.condition right := by
  funext aliasName mark
  have equations : equation left = equation right := by
    funext childAlias parentAlias mark pair
    simp only [equation, agree.quote_eq]
  simp only [Correlation.condition, equations]

end Catalog.Agree

structure Compiler.Agree (first second : Compiler) : Prop where
  catalogs : first.catalog.Agree second.catalog
  dialect : first.dialect = second.dialect
  options : first.options = second.options

namespace Compiler.Agree

variable {first second : Compiler} (agree : first.Agree second)
include agree

theorem findRelation_eq : first.findRelation = second.findRelation := by
  funext table location
  simp only [Compiler.findRelation, agree.catalogs.findRelation_eq, agree.options]

theorem hiddenName_eq : first.hiddenName = second.hiddenName := by
  funext field
  simp only [Compiler.hiddenName, agree.catalogs.quote_eq]

theorem hiddenEntries_eq : first.hiddenEntries = second.hiddenEntries := by
  funext relation aliasName
  simp only [Compiler.hiddenEntries, agree.hiddenName_eq, agree.catalogs.quote_eq]

theorem nativeEntry_eq : first.nativeEntry = second.nativeEntry := by
  funext relation aliasName location spec
  simp only [Compiler.nativeEntry, Compiler.fieldSql, agree.catalogs.findField_eq,
    agree.catalogs.quote_eq, agree.options]

theorem indented_eq : first.indented = second.indented := by
  funext text
  simp only [Compiler.indented, agree.options]

theorem sql_eq : first.sql = second.sql := by
  funext query
  simp only [Compiler.sql, agree.options]

theorem inlineParts_eq : first.inlineParts = second.inlineParts := by
  funext table childAlias join query
  simp only [Compiler.inlineParts, agree.indented_eq, agree.sql_eq, agree.catalogs.condition_eq]

theorem wrapped_eq : first.wrapped = second.wrapped := by
  -- Only the options of a compiler are read here, and they are the same.
  obtain ⟨left, dialect, options⟩ := first
  obtain ⟨right, _, _⟩ := second
  obtain ⟨_, rfl, rfl⟩ := agree
  rfl

theorem objectRowsSql_eq : first.objectRowsSql = second.objectRowsSql := by
  funext table query orderBy
  simp only [Compiler.objectRowsSql, agree.wrapped_eq, agree.dialect, agree.options]

theorem arrayOrder_eq : first.arrayOrder = second.arrayOrder := by
  funext relation orderBy
  simp only [Compiler.arrayOrder, agree.hiddenName_eq]

theorem arrayRowSql_eq : first.arrayRowSql = second.arrayRowSql := by
  funext table query unwrap order location
  simp only [Compiler.arrayRowSql, agree.wrapped_eq, agree.dialect, agree.options]

theorem rowConditions_eq : first.rowConditions = second.rowConditions := by
  funext aliasName embedding condition
  simp only [Compiler.rowConditions, agree.catalogs.condition_eq]

theorem sourceName_eq : first.sourceName = second.sourceName := by
  funext id
  simp only [Compiler.sourceName, agree.options]

theorem inlineJoins_eq (child : Relation) (childAlias : String) (location : Location)
    (query : QueryParts) (parents : List InlineParent)
    (below : ∀ parent ∈ parents, first.baseQuery parent.spec = second.baseQuery parent.spec) :
    first.inlineJoins child childAlias location query parents =
      second.inlineJoins child childAlias location query parents := by
  induction parents generalizing query with
  | nil => rw [Compiler.inlineJoins, Compiler.inlineJoins]
  | cons parent rest ih =>
      have nested := below parent List.mem_cons_self
      have others := fun query => ih query fun other member =>
        below other (List.mem_cons_of_mem _ member)
      obtain ⟨spec, link, optional⟩ := parent
      rw [Compiler.inlineJoins, Compiler.inlineJoins]
      simp only [agree.findRelation_eq, agree.catalogs.joinPairs_eq, nested,
        agree.inlineParts_eq, others]

theorem referencedEntries_eq (child : Relation) (childAlias : String) (location : Location)
    (parents : List ReferencedParent)
    (below : ∀ parent ∈ parents, first.baseQuery parent.spec = second.baseQuery parent.spec) :
    first.referencedEntries child childAlias location parents =
      second.referencedEntries child childAlias location parents := by
  induction parents with
  | nil => rw [Compiler.referencedEntries, Compiler.referencedEntries]
  | cons parent rest ih =>
      have nested := below parent List.mem_cons_self
      have others := ih fun other member => below other (List.mem_cons_of_mem _ member)
      obtain ⟨name, spec, link, optional⟩ := parent
      rw [Compiler.referencedEntries, Compiler.referencedEntries]
      simp only [agree.findRelation_eq, agree.catalogs.joinPairs_eq, nested,
        agree.objectRowsSql_eq, agree.indented_eq, agree.catalogs.quote_eq, others]

theorem childEntries_eq (parent : Relation) (parentAlias : String) (location : Location)
    (collections : List ChildCollection)
    (below : ∀ collection ∈ collections,
      first.baseQuery collection.spec = second.baseQuery collection.spec) :
    first.childEntries parent parentAlias location collections =
      second.childEntries parent parentAlias location collections := by
  induction collections with
  | nil => rw [Compiler.childEntries, Compiler.childEntries]
  | cons collection rest ih =>
      have nested := below collection List.mem_cons_self
      have others := ih fun other member => below other (List.mem_cons_of_mem _ member)
      obtain ⟨name, spec, link, filter, unwrap, orderBy⟩ := collection
      rw [Compiler.childEntries, Compiler.childEntries]
      simp only [agree.findRelation_eq, agree.catalogs.joinPairs_eq, nested, agree.arrayOrder_eq,
        agree.arrayRowSql_eq, agree.indented_eq, agree.catalogs.quote_eq, others]

theorem baseQuery_eq (spec : TableSpec) : first.baseQuery spec = second.baseQuery spec := by
  induction spec using TableSpec.nested_induction with
  | step spec inlined referenced collected =>
      funext embedding location
      obtain ⟨table, fields, inlineParents, referencedParents, childCollections, condition⟩ := spec
      have joins := fun relation aliasName query =>
        agree.inlineJoins_eq relation aliasName location query inlineParents inlined
      have objects := fun relation aliasName =>
        agree.referencedEntries_eq relation aliasName location referencedParents referenced
      have arrays := fun relation aliasName =>
        agree.childEntries_eq relation aliasName location childCollections collected
      rw [Compiler.baseQuery, Compiler.baseQuery]
      simp only [agree.findRelation_eq, agree.hiddenEntries_eq, agree.nativeEntry_eq, joins,
        objects, arrays, agree.sourceName_eq, agree.rowConditions_eq]

theorem querySqls_eq : first.querySqls = second.querySqls := by
  funext query
  have single : first.querySql query = second.querySql query := by
    funext representation
    simp only [Compiler.querySql, agree.baseQuery_eq, agree.findRelation_eq, agree.sql_eq,
      agree.objectRowsSql_eq, agree.arrayRowSql_eq, agree.arrayOrder_eq]
  simp only [Compiler.querySqls, single]

end Compiler.Agree

structure Typing.Agree (first second : Typing) : Prop where
  catalogs : first.catalog.Agree second.catalog
  options : first.options = second.options

namespace Typing.Agree

variable {first second : Typing} (agree : first.Agree second)
include agree

theorem findRelation_eq : first.findRelation = second.findRelation := by
  funext table location
  simp only [Typing.findRelation, agree.catalogs.findRelation_eq, agree.options]

theorem nativeField_eq : first.nativeField = second.nativeField := by
  funext relation location spec
  simp only [Typing.nativeField, agree.catalogs.findField_eq, agree.options]

theorem parentMayBeAbsent_eq : first.parentMayBeAbsent = second.parentMayBeAbsent := by
  funext related child location
  simp only [Typing.parentMayBeAbsent, agree.findRelation_eq, agree.catalogs.joinPairs_eq]

theorem inlinedFields_eq (child : Relation) (location : Location) (parents : List InlineParent)
    (below : ∀ parent ∈ parents, first.resultType parent.spec = second.resultType parent.spec) :
    first.inlinedFields child location parents = second.inlinedFields child location parents := by
  induction parents with
  | nil => rw [Typing.inlinedFields, Typing.inlinedFields]
  | cons parent rest ih =>
      have nested := below parent List.mem_cons_self
      have others := ih fun other member => below other (List.mem_cons_of_mem _ member)
      obtain ⟨spec, link, optional⟩ := parent
      rw [Typing.inlinedFields, Typing.inlinedFields]
      simp only [nested, agree.parentMayBeAbsent_eq, others]

theorem referencedFields_eq (child : Relation) (location : Location)
    (parents : List ReferencedParent)
    (below : ∀ parent ∈ parents, first.resultType parent.spec = second.resultType parent.spec) :
    first.referencedFields child location parents =
      second.referencedFields child location parents := by
  induction parents with
  | nil => rw [Typing.referencedFields, Typing.referencedFields]
  | cons parent rest ih =>
      have nested := below parent List.mem_cons_self
      have others := ih fun other member => below other (List.mem_cons_of_mem _ member)
      obtain ⟨name, spec, link, optional⟩ := parent
      rw [Typing.referencedFields, Typing.referencedFields]
      simp only [nested, agree.parentMayBeAbsent_eq, others]

omit agree in
theorem collectionFields_eq (location : Location) (collections : List ChildCollection)
    (below : ∀ collection ∈ collections,
      first.resultType collection.spec = second.resultType collection.spec) :
    first.collectionFields location collections =
      second.collectionFields location collections := by
  induction collections with
  | nil => rw [Typing.collectionFields, Typing.collectionFields]
  | cons collection rest ih =>
      have nested := below collection List.mem_cons_self
      have others := ih fun other member => below other (List.mem_cons_of_mem _ member)
      obtain ⟨name, spec, link, filter, unwrap, orderBy⟩ := collection
      rw [Typing.collectionFields, Typing.collectionFields]
      simp only [nested, others]

theorem resultType_eq (spec : TableSpec) : first.resultType spec = second.resultType spec := by
  induction spec using TableSpec.nested_induction with
  | step spec inlined referenced collected =>
      funext location
      obtain ⟨table, fields, inlineParents, referencedParents, childCollections, condition⟩ := spec
      have joins := fun relation =>
        agree.inlinedFields_eq relation location inlineParents inlined
      have objects := fun relation =>
        agree.referencedFields_eq relation location referencedParents referenced
      have arrays := collectionFields_eq location childCollections collected
      rw [Typing.resultType, Typing.resultType]
      simp only [agree.findRelation_eq, agree.nativeField_eq, joins, objects, arrays]

end Typing.Agree

theorem Compiler.Agree.compileQuery_eq {first second : Compiler} (agree : first.Agree second) :
    first.compileQuery = second.compileQuery := by
  funext query
  have typings : first.typing.Agree second.typing := ⟨agree.catalogs, agree.options⟩
  simp only [Compiler.compileQuery, agree.querySqls_eq, typings.resultType_eq]

theorem Catalog.Agree.compile_eq {left right : Catalog} (agree : left.Agree right)
    (group : QueryGroup) : group.compile left = group.compile right := by
  have dialects : left.dialect = right.dialect := by
    simp only [Catalog.dialect, agree.productName]
  have options : Options.ofGroup group left = Options.ofGroup group right := by
    simp only [Options.ofGroup, agree.normalize_eq]
  have queries (dialect : Dialect) (options : Options) :
      (Compiler.mk left dialect options).compileQuery =
        (Compiler.mk right dialect options).compileQuery :=
    Compiler.Agree.compileQuery_eq ⟨agree, rfl, rfl⟩
  simp only [QueryGroup.compile, dialects, options, queries]

/-- The relations and the foreign keys of a catalog may be listed in any order: every group compiles
to the same queries or fails with the same error. -/
theorem compile_ignores_order (schemaName : Option String) (relations others : List Relation)
    (keys otherKeys : List ForeignKey) (caseRule : CaseRule)
    (productName version otherVersion : String) (distinct : (relations.map (·.id)).Nodup)
    (samePlaces : relations.Perm others) (sameKeys : keys.Perm otherKeys) (group : QueryGroup) :
    group.compile (Catalog.build schemaName relations keys caseRule productName version) =
      group.compile
        (Catalog.build schemaName others otherKeys caseRule productName otherVersion) :=
  (Catalog.build_agree distinct samePlaces sameKeys schemaName caseRule productName version
    otherVersion).compile_eq group

/-! Two relations whose ids read the same, and two keys on the same columns: sorting leaves both in
the order in which they are listed. -/

namespace Rail

def depotLog : Relation :=
  { id := ⟨some "rail", "depot.log"⟩, fields := [Shop.keyField, Shop.dataField "prior_id" true] }

def log : Relation := { id := ⟨some "rail.depot", "log"⟩, fields := [Shop.keyField] }

def priorEntry (constraintName : String) : ForeignKey :=
  { constraintName := some constraintName, child := depotLog.id, parent := depotLog.id
    pairs := [⟨"prior_id", "id"⟩] }

def catalog (relations : List Relation) (keys : List ForeignKey) : Catalog :=
  Catalog.build none relations keys .storedLower "PostgreSQL" ""

def entries : QueryGroup where
  queries :=
    [{ name := "entries"
       tableSpec :=
         { table := "rail.depot.log"
           fields := [{ field := some "id" }]
           referencedParents :=
             [{ name := "prior"
                spec := { table := "rail.depot.log", fields := [{ field := some "id" }] }
                link := { foreignKeyFields := some ["prior_id"] } }] } }]

end Rail

theorem Rail.catalog_eq {relations : List Relation} {keys : List ForeignKey}
    (places : relations.Pairwise fun left right => left.id.display ≤ right.id.display)
    (references : keys.Pairwise fun left right => left.precedes right = true) :
    Rail.catalog relations keys =
      { schemaName := none, relations, foreignKeys := keys, caseRule := .storedLower
        productName := "PostgreSQL", productVersion := "" } :=
  Catalog.build_of_sorted places references none .storedLower "PostgreSQL" ""

theorem compile_ignores_order_rail :
    ([Rail.depotLog, Rail.log].map (·.id)).Nodup ∧
      Rail.catalog [Rail.depotLog, Rail.log] [Rail.priorEntry "old", Rail.priorEntry "new"] ≠
        Rail.catalog [Rail.log, Rail.depotLog] [Rail.priorEntry "new", Rail.priorEntry "old"] ∧
      (Rail.entries.compile (Rail.catalog [Rail.depotLog, Rail.log]
        [Rail.priorEntry "old", Rail.priorEntry "new"])).isOk = true ∧
      Rail.entries.compile (Rail.catalog [Rail.depotLog, Rail.log]
          [Rail.priorEntry "old", Rail.priorEntry "new"]) =
        Rail.entries.compile (Rail.catalog [Rail.log, Rail.depotLog]
          [Rail.priorEntry "new", Rail.priorEntry "old"]) := by
  have distinct : ([Rail.depotLog, Rail.log].map (·.id)).Nodup := by decide +kernel
  have listed : Rail.catalog [Rail.depotLog, Rail.log]
      [Rail.priorEntry "old", Rail.priorEntry "new"] = _ :=
    Rail.catalog_eq (by decide +kernel) (by decide +kernel)
  have swapped : Rail.catalog [Rail.log, Rail.depotLog]
      [Rail.priorEntry "new", Rail.priorEntry "old"] = _ :=
    Rail.catalog_eq (by decide +kernel) (by decide +kernel)
  refine ⟨distinct, ?_, ?_, ?_⟩
  · rw [listed, swapped]
    decide +kernel
  · rw [listed]
    decide +kernel
  · exact compile_ignores_order none _ _ _ _ .storedLower "PostgreSQL" "" "" distinct
      (.swap _ _ _) (.swap _ _ _) Rail.entries

end NestedQuery

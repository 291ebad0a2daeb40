import NestedQuery.Proofs.Catalog.Index
import NestedQuery.Proofs.SchemaDump.Changes
import NestedQuery.Proofs.SchemaDump.Printing
import NestedQuery.Proofs.Text.CaseMap
import NestedQuery.Query.Join

/-! Which relations of a dump can be named. A table name is folded and cut at its first dot, and a
name without a schema is looked for in the default schema only, while a dump may state names in
quotes, with dots in them, and with or without a schema. -/

namespace NestedQuery

namespace Text

variable {mark : Char} {text before after : List Char}

theorem cutAt_eq_none_iff : cutAt mark text = none ↔ mark ∉ text := by
  induction text with
  | nil => simp [cutAt]
  | cons c rest ih =>
      rw [cutAt]
      split
      · rename_i same
        simp [same]
      · rename_i other
        rw [Option.map_eq_none_iff, ih, List.mem_cons, not_or]
        exact ⟨fun later => ⟨fun same => other same.symm, later⟩, fun both => both.2⟩

theorem cutAt_eq_some_iff :
    cutAt mark text = some (before, after) ↔ text = before ++ mark :: after ∧ mark ∉ before := by
  induction text generalizing before with
  | nil => simp [cutAt]
  | cons c rest ih =>
      rw [cutAt]
      split
      · rename_i same
        subst same
        cases before with
        | nil => simp
        | cons first before => simp +contextual
      · rename_i other
        cases before with
        | nil => simp [other]
        | cons first before =>
            have cut := @ih before
            simp only [Option.map_eq_some_iff, Prod.exists, Prod.mk.injEq, List.cons.injEq,
              List.cons_append, List.mem_cons, not_or]
            constructor
            · rintro ⟨start, rest, found, ⟨rfl, rfl⟩, rfl⟩
              obtain ⟨rfl, later⟩ := cut.mp found
              exact ⟨⟨rfl, rfl⟩, fun same => other same.symm, later⟩
            · rintro ⟨⟨rfl, rfl⟩, -, later⟩
              exact ⟨before, after, cut.mpr ⟨rfl, later⟩, ⟨rfl, rfl⟩, rfl⟩

end Text

namespace Catalog

/-- The id is stored in the form to which table names are folded. -/
def Nameable (catalog : Catalog) (id : RelationId) : Prop :=
  catalog.normalize id.name = id.name ∧
    ((∃ schema ∈ id.schema, catalog.normalize schema = schema ∧ '.' ∉ schema.toList) ∨
      (id.schema = catalog.schemaName.map catalog.normalize ∧ '.' ∉ id.name.toList))

instance (catalog : Catalog) (id : RelationId) : Decidable (catalog.Nameable id) :=
  inferInstanceAs (Decidable (_ ∧ _))

theorem exists_idFor_iff (catalog : Catalog) (id : RelationId) :
    (∃ table, catalog.idFor table none = id) ↔ catalog.Nameable id := by
  constructor
  · rintro ⟨table, rfl⟩
    unfold idFor Nameable
    split
    · rename_i schema name cut
      obtain ⟨-, undotted⟩ := Text.cutAt_eq_some_iff.mp cut
      refine ⟨catalog.caseRule.normalize_normalize _, .inl ⟨_, rfl, ?_, ?_⟩⟩
      · exact catalog.caseRule.normalize_normalize _
      · rw [normalize, CaseRule.dot_mem_normalize, String.toList_ofList]
        exact undotted
    · rename_i cut
      refine ⟨catalog.caseRule.normalize_normalize _, .inr ⟨rfl, ?_⟩⟩
      rw [normalize, CaseRule.dot_mem_normalize]
      exact Text.cutAt_eq_none_iff.mp cut
  · obtain ⟨schema, name⟩ := id
    rintro ⟨stored, ⟨stated, rfl, storedSchema, undotted⟩ | ⟨default, undotted⟩⟩
    · refine ⟨stated ++ "." ++ name, ?_⟩
      have cut : Text.cutAt '.' (stated ++ "." ++ name).toList =
          some (stated.toList, name.toList) := by
        rw [Text.cutAt_eq_some_iff]
        exact ⟨by simp, undotted⟩
      unfold idFor
      rw [cut]
      simp only [String.ofList_toList] at stored storedSchema ⊢
      rw [storedSchema, stored]
    · refine ⟨name, ?_⟩
      unfold idFor
      rw [Text.cutAt_eq_none_iff.mpr undotted]
      simp only at stored default ⊢
      rw [stored, default]
      rfl

theorem findRelation_eq_ok_iff {catalog : Catalog} {table : String} {location : Location}
    {found : Relation} :
    catalog.findRelation table none location = .ok found ↔
      catalog.relation? (catalog.idFor table none) = some found := by
  unfold findRelation
  cases hit : catalog.relation? (catalog.idFor table none) with
  | none => simp [hit, Location.fail]
  | some relation => simp [hit]

theorem exists_findRelation_iff {catalog : Catalog} {relation : Relation}
    (member : relation ∈ catalog.relations) (location : Location) :
    (∃ table found, catalog.findRelation table none location = .ok found ∧
      found.id = relation.id) ↔ catalog.Nameable relation.id := by
  rw [← exists_idFor_iff]
  constructor
  · rintro ⟨table, found, resolved, same⟩
    exact ⟨table, (mem_of_relation? (findRelation_eq_ok_iff.mp resolved)).2.symm.trans same⟩
  · rintro ⟨table, same⟩
    have known : (catalog.relation? relation.id).isSome = true :=
      isSome_relation?_iff.mpr (List.mem_map_of_mem member)
    obtain ⟨found, hit⟩ := Option.isSome_iff_exists.mp known
    exact ⟨table, found, findRelation_eq_ok_iff.mpr (same ▸ hit), (mem_of_relation? hit).2⟩

end Catalog

namespace SchemaDump

theorem schemaName_catalog_eq_none_iff (product : Product) (draft : Draft) :
    (draft.catalog product).schemaName = none ↔
      ∀ relation ∈ (draft.catalog product).relations, relation.id.schema = none := by
  change draft.definitions.findSome? (·.id.schema) = none ↔ _
  rw [List.findSome?_eq_none_iff]
  constructor
  · intro none relation member
    obtain ⟨definition, defined, rfl⟩ := mem_relations_catalog.mp member
    exact none definition defined
  · intro none definition defined
    exact none definition.relation (mem_relations_catalog.mpr ⟨definition, defined, rfl⟩)

def Folded (rule : CaseRule) (name : String) : Prop :=
  rule.normalize name = name ∧ '.' ∉ name.toList

theorem dot_not_mem_of_isWord {word : List Char} (isWord : IsWord word) : '.' ∉ word := by
  obtain ⟨first, rest, rfl, starts, continues⟩ := isWord
  rw [List.mem_cons, not_or]
  constructor
  · rintro rfl
    exact absurd starts (by decide +kernel)
  · intro member
    exact absurd (continues '.' member) (by decide +kernel)

theorem folded_of_nameOf? {rule : CaseRule} {token : Token} {name : String}
    (wellFormed : token.WellFormed) (unquoted : ∀ text, token ≠ .quotedName text)
    (named : nameOf? rule token = some name) : Folded rule name := by
  cases token with
  | word text =>
      obtain rfl := Option.some.inj named
      refine ⟨rule.normalize_normalize text, ?_⟩
      rw [CaseRule.dot_mem_normalize]
      exact dot_not_mem_of_isWord wellFormed.1
  | quotedName text => exact absurd rfl (unquoted text)
  | _ => cases named

/-- Tokens that a scanned text has if it quotes no name. -/
def Unquoted (tokens : Tokens) : Prop :=
  ∀ token ∈ tokens, token.WellFormed ∧ ∀ text, token ≠ .quotedName text

theorem folded_of_readName {rule : CaseRule} {tokens left : Tokens} {name : String}
    (unquoted : Unquoted tokens) (read : readName rule tokens = (some name, left)) :
    Folded rule name := by
  unfold readName at read
  split at read
  · cases read
  · rename_i token rest
    obtain ⟨wellFormed, noQuote⟩ := unquoted token List.mem_cons_self
    split at read
    · rename_i named
      cases read
      exact folded_of_nameOf? wellFormed noQuote named
    · cases read

theorem folded_of_readRelationId {rule : CaseRule} {tokens left : Tokens} {id : RelationId}
    (unquoted : Unquoted tokens) (read : readRelationId rule tokens = (some id, left)) :
    Folded rule id.name ∧ ∀ schema ∈ id.schema, Folded rule schema := by
  unfold readRelationId at read
  split at read
  · cases read
  · rename_i first rest schemaRead
    have within : .dot :: rest <:+ tokens := by
      have suffix := readName_suffix rule tokens
      rwa [schemaRead] at suffix
    have schema := folded_of_readName unquoted schemaRead
    split at read
    · rename_i nameRead
      cases read
      have after : Unquoted rest := fun token member =>
        unquoted token (within.subset (List.mem_cons_of_mem _ member))
      refine ⟨folded_of_readName after nameRead, ?_⟩
      intro stated present
      obtain rfl := Option.some.inj present
      exact schema
    · cases read
  · rename_i nameRead
    cases read
    exact ⟨folded_of_readName unquoted nameRead, by simp⟩

theorem folded_definitions {product : Product} {tokens : Tokens} {draft : Draft}
    (unquoted : Unquoted tokens) (read : readStatements product {} tokens = .ok draft) :
    ∀ definition ∈ draft.definitions, Folded product.caseRule definition.id.name ∧
      ∀ schema ∈ definition.id.schema, Folded product.caseRule schema := by
  have within {named : Tokens} (suffix : named <:+ tokens) : Unquoted named :=
    fun token member => unquoted token (suffix.subset member)
  refine forall_definitions (P := fun definition => Folded product.caseRule definition.id.name ∧
      ∀ schema ∈ definition.id.schema, Folded product.caseRule schema) ?_ ?_ ?_ read
  · intro named table inside body left suffix id _
    exact folded_of_readRelationId (within suffix) id
  · intro named view left suffix id
    exact folded_of_readRelationId (within suffix) id
  · exact fun definition columns folded => folded

/-- A relation of a dump can be named if its id is stored as names are folded. Where the dump quotes
no name, this fails only for a relation without a schema beside one that has a schema. -/
theorem dumped_relation_named_iff {dump : String} {productName : Option String} {catalog : Catalog}
    {relation : Relation} (read : readCatalog dump productName = .ok catalog)
    (member : relation ∈ catalog.relations) (location : Location) :
    ((∃ table found, catalog.findRelation table none location = .ok found ∧
        found.id = relation.id) ↔ catalog.Nameable relation.id) ∧
      ((∀ name, Token.quotedName name ∉ scan dump) →
        ((∃ table found, catalog.findRelation table none location = .ok found ∧
            found.id = relation.id) ↔
          (relation.id.schema = none → ∀ other ∈ catalog.relations, other.id.schema = none))) := by
  have nameable := Catalog.exists_findRelation_iff member location
  refine ⟨nameable, ?_⟩
  intro noQuotes
  rw [nameable]
  obtain ⟨product, draft, statements, rfl⟩ := exists_draft_of_readCatalog read
  have unquoted : Unquoted (scan dump) := fun token inside =>
    ⟨wellFormed_scanChars _ token inside, fun text same => noQuotes text (same ▸ inside)⟩
  obtain ⟨definition, defined, rfl⟩ := mem_relations_catalog.mp member
  obtain ⟨name, schema⟩ := folded_definitions unquoted statements definition defined
  rw [← schemaName_catalog_eq_none_iff]
  constructor
  · rintro ⟨-, ⟨stated, present, -⟩ | ⟨default, -⟩⟩ none
    · rw [none] at present
      cases present
    · rw [none] at default
      exact Option.map_eq_none_iff.mp default.symm
  · intro only
    refine ⟨name.1, ?_⟩
    cases stated : definition.id.schema with
    | some present => exact .inl ⟨present, stated, schema present stated⟩
    | none =>
        refine .inr ⟨?_, name.2⟩
        rw [only stated]
        exact stated

namespace Pier

def dump : String := "create table dock.Ship (id int); create view Crew (ship, name) as select 1;"

def ship : Relation where
  id := { schema := some "DOCK", name := "SHIP" }
  fields := [{ name := "ID", typeCode := .numeric, databaseType := "NUMBER",
               nullable := some true }]

def crew : Relation where
  id := { schema := none, name := "CREW" }
  kind := .view
  fields := [viewField "SHIP", viewField "NAME"]

def catalog : Catalog := Catalog.build (some "DOCK") [ship, crew] [] .storedUpper "Oracle" ""

def draft : Draft :=
  { definitions :=
      [{ id := ship.id, kind := .table, fields := ship.fields, primaryKey := [] },
       { id := crew.id, kind := .view, fields := crew.fields, primaryKey := [] }] }

theorem catalog_eq : catalog = draft.catalog .oracle := rfl

end Pier

theorem dumped_relation_named_iff_pier :
    (readCatalog Pier.dump (some "oracle") = .ok Pier.catalog ∧
        (Pier.ship ∈ Pier.catalog.relations ∧ Pier.crew ∈ Pier.catalog.relations) ∧
        ∀ name, Token.quotedName name ∉ scan Pier.dump) ∧
      (∃ table found, Pier.catalog.findRelation table none { query := "crews" } = .ok found ∧
        found.id = Pier.ship.id) ∧
      ¬∃ table found, Pier.catalog.findRelation table none { query := "crews" } = .ok found ∧
        found.id = Pier.crew.id := by
  have read : readCatalog Pier.dump (some "oracle") = .ok Pier.catalog := by
    rw [Pier.catalog_eq]
    exact readCatalog_of_product (by decide +kernel) (by decide +kernel)
  have ship : Pier.ship ∈ Pier.catalog.relations := List.mem_mergeSort.mpr (by decide)
  have crew : Pier.crew ∈ Pier.catalog.relations := List.mem_mergeSort.mpr (by decide)
  have noQuotes : ∀ name, Token.quotedName name ∉ scan Pier.dump := by
    have none : (scan Pier.dump).all (fun | .quotedName _ => false | _ => true) = true := by
      decide +kernel
    exact fun name member => absurd (List.all_eq_true.mp none _ member) (by simp)
  refine ⟨⟨read, ⟨ship, crew⟩, noQuotes⟩, ?_, ?_⟩
  · exact (dumped_relation_named_iff read ship _).1.mpr (by decide +kernel)
  · rw [(dumped_relation_named_iff read crew _).2 noQuotes]
    intro only
    exact absurd (only rfl Pier.ship ship) (by decide)

def Unnamed (dump : String) (id : RelationId) : Prop :=
  ∃ catalog, readCatalog dump (some "postgres") = .ok catalog ∧
    id ∈ catalog.relations.map (·.id) ∧
    ∀ table location found, catalog.findRelation table none location = .ok found → found.id ≠ id

theorem unnamed_relations :
    Unnamed "CREATE TABLE \"Drug\" (id INT);" { schema := none, name := "Drug" } ∧
      Unnamed "CREATE TABLE \"a.b\" (id INT);" { schema := none, name := "a.b" } ∧
      Unnamed "CREATE TABLE a.x (id INT); CREATE TABLE y (id INT);"
        { schema := none, name := "y" } := by
  have product (dump : String) : productOf? dump (some "postgres") = some .postgres := by
    have named : Product.ofName? "postgres" = some .postgres := by decide +kernel
    rw [productOf?, named]
    rfl
  have unnamed {dump : String} {id : RelationId}
      (found : (readStatements .postgres {} (scan dump)).toOption.any (fun draft =>
        id ∈ draft.definitions.map (·.id) ∧ ¬(draft.catalog .postgres).Nameable id) = true) :
      Unnamed dump id := by
    cases read : readStatements .postgres {} (scan dump) with
    | error cause => simp [read, Except.toOption] at found
    | ok draft =>
        simp only [read, Except.toOption, Option.any_some, decide_eq_true_eq] at found
        obtain ⟨member, notNameable⟩ := found
        obtain ⟨definition, defined, rfl⟩ := List.mem_map.mp member
        have relation : definition.relation ∈ (draft.catalog .postgres).relations :=
          mem_relations_catalog.mpr ⟨definition, defined, rfl⟩
        refine ⟨_, readCatalog_of_product (product dump) read, List.mem_map_of_mem relation, ?_⟩
        intro table location found resolved same
        exact notNameable
          ((Catalog.exists_findRelation_iff relation location).mp ⟨table, found, resolved, same⟩)
  refine ⟨unnamed ?_, unnamed ?_, unnamed ?_⟩
  · decide +kernel
  · decide +kernel
  · decide +kernel

end SchemaDump

end NestedQuery

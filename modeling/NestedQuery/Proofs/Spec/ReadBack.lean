import NestedQuery.Load
import NestedQuery.Proofs.Document
import NestedQuery.Proofs.Document.PrintedJson
import NestedQuery.Proofs.Query.Assembly

/-! Query groups are read back from the documents that state them, whatever tables are nested in
their queries, as long as no more lists and records stand one in another than a document may have.
-/

namespace NestedQuery

namespace Json

mutual
def nesting : Json → Nat
  | list items => nestingOfItems items + 1
  | record members => nestingOfMembers members + 1
  | _ => 0
termination_by structural value => value

def nestingOfItems : List Json → Nat
  | [] => 0
  | item :: rest => max item.nesting (nestingOfItems rest)
termination_by structural items => items

def nestingOfMembers : List (Option String × Json) → Nat
  | [] => 0
  | (_, value) :: rest => max value.nesting (nestingOfMembers rest)
termination_by structural members => members
end

theorem nestingOfItems_le_iff {items : List Json} {depth : Nat} :
    nestingOfItems items ≤ depth ↔ ∀ item ∈ items, item.nesting ≤ depth := by
  induction items with
  | nil => simp [nestingOfItems]
  | cons item rest ih => rw [nestingOfItems, Nat.max_le, ih, List.forall_mem_cons]

theorem nestingOfMembers_le_iff {members : List (String × Json)} {depth : Nat} :
    nestingOfMembers (members.map fun member => (some member.1, member.2)) ≤ depth ↔
      ∀ member ∈ members, member.2.nesting ≤ depth := by
  induction members with
  | nil => simp [nestingOfMembers]
  | cons member rest ih =>
      rw [List.map_cons, nestingOfMembers, Nat.max_le, ih, List.forall_mem_cons]

theorem nesting_list_le_iff {items : List Json} {depth : Nat} :
    (list items).nesting ≤ depth ↔
      ∃ inner, depth = inner + 1 ∧ ∀ item ∈ items, item.nesting ≤ inner := by
  rw [nesting]
  constructor
  · intro shallow
    exact ⟨depth - 1, by omega, nestingOfItems_le_iff.mp (by omega)⟩
  · rintro ⟨inner, rfl, each⟩
    exact Nat.succ_le_succ (nestingOfItems_le_iff.mpr each)

theorem nesting_object_le_iff {members : List (String × Json)} {depth : Nat} :
    (object members).nesting ≤ depth ↔
      ∃ inner, depth = inner + 1 ∧ ∀ member ∈ members, member.2.nesting ≤ inner := by
  change nestingOfMembers (members.map fun member => (some member.1, member.2)) + 1 ≤ depth ↔ _
  constructor
  · intro shallow
    exact ⟨depth - 1, by omega, nestingOfMembers_le_iff.mp (by omega)⟩
  · rintro ⟨inner, rfl, each⟩
    exact Nat.succ_le_succ (nestingOfMembers_le_iff.mpr each)

theorem readBack_viewText (value : String) : ReadBack text view.text? value := ⟨rfl, rfl⟩

theorem readBack_viewBool (value : Bool) : ReadBack bool view.bool? value := ⟨rfl, rfl⟩

theorem readBack_texts {texts : List String} {depth : Nat}
    (shallow : (ofTexts texts).nesting ≤ depth) : ReadBack ofTexts (view.texts depth) texts := by
  obtain ⟨inner, rfl, _⟩ := nesting_list_le_iff.mp shallow
  exact readBack_list fun _ _ => rfl

theorem nesting_of_ofOption {α : Type} {write : α → Json} {value : Option α} {depth : Nat}
    (shallow : (ofOption write value).nesting ≤ depth) :
    ∀ present ∈ value, (write present).nesting ≤ depth := by
  rintro present rfl
  exact shallow

end Json

open Json

theorem FieldSpec.readBack {spec : FieldSpec} {depth : Nat} (shallow : spec.json.nesting ≤ depth) :
    ReadBack json (read view depth) spec := by
  refine ⟨rfl, ?_⟩
  obtain ⟨inner, rfl, _⟩ := nesting_object_le_iff.mp shallow
  have stated (value : Option String) : ∀ text ∈ value, ReadBack .text view.text? text :=
    fun text _ => readBack_viewText text
  rw [read, json, fields_object (by decide) (by simp), Option.bind_eq_bind, Option.bind_some,
    optional_ofOption spec.field (by simp) (stated _),
    optional_ofOption spec.expression (by simp [List.lookup_cons]) (stated _),
    optional_ofOption spec.aliasMark (by simp [List.lookup_cons]) (stated _),
    optional_ofOption spec.property (by simp [List.lookup_cons]) (stated _),
    optional_ofOption spec.typeOverride (by simp [List.lookup_cons]) (stated _)]
  rfl

theorem RowCondition.readBack {condition : RowCondition} {depth : Nat}
    (shallow : condition.json.nesting ≤ depth) : ReadBack json (read view depth) condition := by
  refine ⟨rfl, ?_⟩
  obtain ⟨inner, rfl, each⟩ := nesting_object_le_iff.mp shallow
  simp only [List.forall_mem_cons] at each
  rw [read, json, fields_object (by decide) (by simp), Option.bind_eq_bind, Option.bind_some,
    required_written (by simp) (readBack_viewText condition.sql),
    defaulted_written (by simp [List.lookup_cons]) (readBack_texts each.2.1),
    optional_ofOption condition.aliasMark (by simp [List.lookup_cons])
      fun mark _ => readBack_viewText mark]
  rfl

theorem readBack_equatedPair {pair : KeyPair} {depth : Nat}
    (shallow : (equatedPairJson pair).nesting ≤ depth) :
    readEquatedPair view depth (equatedPairJson pair) = some pair := by
  obtain ⟨inner, rfl, _⟩ := nesting_object_le_iff.mp shallow
  rw [readEquatedPair, equatedPairJson, fields_object (by decide) (by simp),
    Option.bind_eq_bind, Option.bind_some,
    required_written (by simp) (readBack_viewText pair.childField),
    required_written (by simp [List.lookup_cons]) (readBack_viewText pair.parentField)]
  rfl

theorem readBack_customJoin {pairs : List KeyPair} {depth : Nat}
    (shallow : (customJoinJson pairs).nesting ≤ depth) :
    ReadBack customJoinJson (readCustomJoin view depth) pairs := by
  refine ⟨rfl, ?_⟩
  obtain ⟨inner, rfl, each⟩ := nesting_object_le_iff.mp shallow
  rw [List.forall_mem_singleton] at each
  obtain ⟨innermost, rfl, items⟩ := nesting_list_le_iff.mp each
  have back := readBack_list fun pair member =>
    readBack_equatedPair (items _ (List.mem_map_of_mem member))
  rw [readCustomJoin, customJoinJson, fields_object (by decide) (by simp), Option.bind_eq_bind,
    Option.bind_some, required_written (by simp) back]

theorem Link.read_members {link : Link} {key : String} {depth : Nat}
    {members : List (String × Json)}
    (shallow : ∀ member ∈ link.members key, member.2.nesting ≤ depth)
    (fields : members.lookup key = some (.ofOption .ofTexts link.foreignKeyFields))
    (join : members.lookup "customJoinCondition" =
      some (.ofOption customJoinJson link.customJoin)) :
    Link.read view key depth members = some link := by
  simp only [Link.members, List.forall_mem_cons] at shallow
  rw [read,
    optional_ofOption link.foreignKeyFields fields fun texts stated =>
      readBack_texts (nesting_of_ofOption shallow.1 texts stated),
    optional_ofOption link.customJoin join fun pairs stated =>
      readBack_customJoin (nesting_of_ofOption shallow.2.1 pairs stated)]
  rfl

def InlineParent.json (parent : InlineParent) : Json :=
  .object ([("tableJson", parent.spec.json)] ++ parent.link.members "viaForeignKeyFields" ++
    [("optional", .bool parent.optional)])

def ReferencedParent.json (parent : ReferencedParent) : Json :=
  .object ([("referenceName", .text parent.name), ("tableJson", parent.spec.json)] ++
    parent.link.members "viaForeignKeyFields" ++ [("optional", .bool parent.optional)])

def ChildCollection.json (collection : ChildCollection) : Json :=
  .object ([("collectionName", .text collection.name), ("tableJson", collection.spec.json)] ++
    collection.link.members "foreignKeyFields" ++
    [("filter", .ofOption .text collection.filter),
     ("unwrap", .ofOption .bool collection.unwrap),
     ("orderBy", .ofOption .text collection.orderBy)])

theorem InlineParent.jsonAll_eq_map (parents : List InlineParent) :
    jsonAll parents = parents.map json := by
  induction parents with
  | nil => rfl
  | cons parent rest ih =>
      obtain ⟨spec, link, optional⟩ := parent
      rw [jsonAll, ih]
      rfl

theorem ReferencedParent.jsonAll_eq_map (parents : List ReferencedParent) :
    jsonAll parents = parents.map json := by
  induction parents with
  | nil => rfl
  | cons parent rest ih =>
      obtain ⟨name, spec, link, optional⟩ := parent
      rw [jsonAll, ih]
      rfl

theorem ChildCollection.jsonAll_eq_map (collections : List ChildCollection) :
    jsonAll collections = collections.map json := by
  induction collections with
  | nil => rfl
  | cons collection rest ih =>
      obtain ⟨name, spec, link, filter, unwrap, orderBy⟩ := collection
      rw [jsonAll, ih]
      rfl

/-- The table is read back at every depth that its document fits. -/
def TableSpec.ReadsBack (spec : TableSpec) : Prop :=
  ∀ depth, spec.json.nesting ≤ depth → ReadBack json (read view depth) spec

theorem InlineParent.read_json {parent : InlineParent} {depth : Nat}
    (nested : parent.spec.ReadsBack) (shallow : parent.json.nesting ≤ depth) :
    read view depth parent.json = some parent := by
  obtain ⟨inner, rfl, each⟩ := nesting_object_le_iff.mp shallow
  simp only [List.forall_mem_append, List.forall_mem_singleton] at each
  rw [read, json, fields_object (by decide) (by simp [Link.members]), Option.bind_eq_bind,
    Option.bind_some,
    required_written (by simp) (nested _ each.1.1),
    Link.read_members each.1.2 (by simp [Link.members, List.lookup_cons])
      (by simp [Link.members, List.lookup_cons]),
    defaulted_written (by simp [Link.members, List.lookup_cons])
      (readBack_viewBool parent.optional)]
  cases parent
  rfl

theorem ReferencedParent.read_json {parent : ReferencedParent} {depth : Nat}
    (nested : parent.spec.ReadsBack) (shallow : parent.json.nesting ≤ depth) :
    read view depth parent.json = some parent := by
  obtain ⟨inner, rfl, each⟩ := nesting_object_le_iff.mp shallow
  simp only [List.forall_mem_append, List.forall_mem_singleton, List.forall_mem_cons] at each
  rw [read, json, fields_object (by decide) (by simp [Link.members]), Option.bind_eq_bind,
    Option.bind_some,
    required_written (by simp) (readBack_viewText parent.name),
    required_written (by simp [List.lookup_cons]) (nested _ each.1.1.2),
    Link.read_members each.1.2 (by simp [Link.members, List.lookup_cons])
      (by simp [Link.members, List.lookup_cons]),
    defaulted_written (by simp [Link.members, List.lookup_cons])
      (readBack_viewBool parent.optional)]
  cases parent
  rfl

theorem ChildCollection.read_json {collection : ChildCollection} {depth : Nat}
    (nested : collection.spec.ReadsBack) (shallow : collection.json.nesting ≤ depth) :
    read view depth collection.json = some collection := by
  obtain ⟨inner, rfl, each⟩ := nesting_object_le_iff.mp shallow
  simp only [List.forall_mem_append, List.forall_mem_cons] at each
  rw [read, json, fields_object (by decide) (by simp [Link.members]), Option.bind_eq_bind,
    Option.bind_some,
    required_written (by simp) (readBack_viewText collection.name),
    required_written (by simp [List.lookup_cons]) (nested _ each.1.1.2.1),
    Link.read_members each.1.2 (by simp [Link.members, List.lookup_cons])
      (by simp [Link.members, List.lookup_cons]),
    optional_ofOption collection.filter (by simp [Link.members, List.lookup_cons])
      (fun text _ => readBack_viewText text),
    optional_ofOption collection.unwrap (by simp [Link.members, List.lookup_cons])
      (fun flag _ => readBack_viewBool flag),
    optional_ofOption collection.orderBy (by simp [Link.members, List.lookup_cons])
      (fun text _ => readBack_viewText text)]
  cases collection
  rfl

theorem InlineParent.readAll_eq (depth : Nat) :
    readAll view depth = view.list (read view) depth := by
  funext value
  cases depth with
  | zero => rfl
  | succ depth => cases value <;> rfl

theorem ReferencedParent.readAll_eq (depth : Nat) :
    readAll view depth = view.list (read view) depth := by
  funext value
  cases depth with
  | zero => rfl
  | succ depth => cases value <;> rfl

theorem ChildCollection.readAll_eq (depth : Nat) :
    readAll view depth = view.list (read view) depth := by
  funext value
  cases depth with
  | zero => rfl
  | succ depth => cases value <;> rfl

theorem readBack_items {α : Type} {write : α → Json} {read : Nat → Json → Option α}
    {items : List α} {depth : Nat} (shallow : (list (items.map write)).nesting ≤ depth)
    (each : ∀ item ∈ items, ∀ inner, (write item).nesting ≤ inner →
      read inner (write item) = some item) :
    ReadBack (fun items : List α => list (items.map write)) (view.list read depth) items := by
  obtain ⟨inner, rfl, fits⟩ := nesting_list_le_iff.mp shallow
  exact readBack_list fun item member =>
    each item member inner (fits _ (List.mem_map_of_mem member))

theorem TableSpec.readsBack (spec : TableSpec) : spec.ReadsBack := by
  induction spec using TableSpec.nested_induction with
  | step spec inlined referenced collected =>
      intro depth shallow
      obtain ⟨table, fields, inlineParents, referencedParents, childCollections, condition⟩ := spec
      rw [json, InlineParent.jsonAll_eq_map, ReferencedParent.jsonAll_eq_map,
        ChildCollection.jsonAll_eq_map] at shallow
      obtain ⟨inner, rfl, each⟩ := nesting_object_le_iff.mp shallow
      simp only [List.forall_mem_cons] at each
      obtain ⟨-, fieldsFit, inlinedFit, referencedFit, collectedFit, conditionFits, -⟩ := each
      -- Each list of related tables is read back by the induction hypotheses of its members.
      have fieldsBack := readBack_items fieldsFit fun field _ inner fits =>
        (FieldSpec.readBack fits).2
      have inlinedBack := readBack_items inlinedFit fun parent member inner fits =>
        InlineParent.read_json (inlined parent member) fits
      have referencedBack := readBack_items referencedFit fun parent member inner fits =>
        ReferencedParent.read_json (referenced parent member) fits
      have collectedBack := readBack_items collectedFit fun collection member inner fits =>
        ChildCollection.read_json (collected collection member) fits
      rw [← InlineParent.readAll_eq] at inlinedBack
      rw [← ReferencedParent.readAll_eq] at referencedBack
      rw [← ChildCollection.readAll_eq] at collectedBack
      refine ⟨rfl, ?_⟩
      rw [read, json, InlineParent.jsonAll_eq_map, ReferencedParent.jsonAll_eq_map,
        ChildCollection.jsonAll_eq_map, fields_object (by decide) (by simp), Option.bind_eq_bind,
        Option.bind_some,
        required_written (by simp) (readBack_viewText table),
        defaulted_written (by simp [List.lookup_cons]) fieldsBack,
        defaulted_written (by simp [List.lookup_cons]) inlinedBack,
        defaulted_written (by simp [List.lookup_cons]) referencedBack,
        defaulted_written (by simp [List.lookup_cons]) collectedBack,
        optional_ofOption condition (by simp [List.lookup_cons]) fun stated present =>
          RowCondition.readBack (nesting_of_ofOption conditionFits stated present)]
      rfl

theorem Representation.readBack (form : Representation) (depth : Nat) :
    view.choice representationNames depth (.text form.displayName) = some form := by
  cases form <;> rfl

theorem NamingStyle.readBack (style : NamingStyle) (depth : Nat) :
    ReadBack (fun style : NamingStyle => .text style.displayName) (view.choice namingNames depth)
      style := by
  cases style <;> exact ⟨rfl, rfl⟩

theorem QuerySpec.read_json {query : QuerySpec} {depth : Nat}
    (shallow : query.json.nesting ≤ depth) : read view depth query.json = some query := by
  obtain ⟨inner, rfl, each⟩ := nesting_object_le_iff.mp shallow
  simp only [List.forall_mem_cons] at each
  obtain ⟨-, tableFits, formsFit, -⟩ := each
  have stated (value : Option String) : ∀ text ∈ value, ReadBack .text view.text? text :=
    fun text _ => readBack_viewText text
  have flag (value : Option Bool) : ∀ flag ∈ value, ReadBack .bool view.bool? flag :=
    fun flag _ => readBack_viewBool flag
  rw [read, json, fields_object (by decide) (by simp), Option.bind_eq_bind, Option.bind_some,
    required_written (by simp) (readBack_viewText query.name),
    required_written (by simp [List.lookup_cons]) (query.tableSpec.readsBack inner tableFits),
    optional_ofOption query.representations (by simp [List.lookup_cons]) fun forms present =>
      readBack_items (nesting_of_ofOption formsFit forms present) fun form _ inner _ =>
        Representation.readBack form inner,
    optional_ofOption query.generateTypes (by simp [List.lookup_cons]) (flag _),
    optional_ofOption query.naming (by simp [List.lookup_cons]) fun style _ =>
      NamingStyle.readBack style inner,
    optional_ofOption query.orderBy (by simp [List.lookup_cons]) (stated _),
    optional_ofOption query.forUpdate (by simp [List.lookup_cons]) (flag _)]
  rfl

theorem QueryGroup.read_json {group : QueryGroup} {depth : Nat}
    (shallow : group.json.nesting ≤ depth) : read view depth group.json = some group := by
  obtain ⟨inner, rfl, each⟩ := nesting_object_le_iff.mp shallow
  simp only [List.forall_mem_cons] at each
  obtain ⟨-, -, schemasFit, queriesFit, -⟩ := each
  have queriesBack := readBack_items queriesFit fun query _ inner fits => QuerySpec.read_json fits
  rw [read, json, fields_object (by decide) (by simp), Option.bind_eq_bind, Option.bind_some,
    optional_ofOption group.defaultSchema (by simp) (fun text _ => readBack_viewText text),
    defaulted_written (by simp [List.lookup_cons]) (NamingStyle.readBack group.naming inner),
    defaulted_written (by simp [List.lookup_cons]) (readBack_texts schemasFit),
    required_written (by simp [List.lookup_cons]) queriesBack]
  rfl

/-! No document of a query group has a number in it. -/

theorem Json.Numberless.ofOption {α : Type} {write : α → Json}
    (each : ∀ value, (write value).Numberless) (value : Option α) :
    (Json.ofOption write value).Numberless := by
  cases value with
  | none => exact .null
  | some value => exact each value

theorem Json.Numberless.map {α : Type} {write : α → Json} {items : List α}
    (each : ∀ item ∈ items, (write item).Numberless) :
    (Json.list (items.map write)).Numberless :=
  .list (List.forall_mem_map.mpr each)

theorem Json.Numberless.ofTexts (texts : List String) : (Json.ofTexts texts).Numberless :=
  .map fun value _ => .text value

theorem FieldSpec.numberless (spec : FieldSpec) : spec.json.Numberless := by
  refine .object ?_
  simp only [List.forall_mem_cons]
  exact ⟨.ofOption .text _, .ofOption .text _, .ofOption .text _, .ofOption .text _,
    .ofOption .text _, List.forall_mem_nil _⟩

theorem RowCondition.numberless (condition : RowCondition) : condition.json.Numberless := by
  refine .object ?_
  simp only [List.forall_mem_cons]
  exact ⟨.text _, .ofTexts _, .ofOption .text _, List.forall_mem_nil _⟩

theorem customJoin_numberless (pairs : List KeyPair) : (customJoinJson pairs).Numberless := by
  refine .object ?_
  rw [List.forall_mem_singleton]
  refine .map fun pair _ => .object ?_
  simp only [List.forall_mem_cons]
  exact ⟨.text _, .text _, List.forall_mem_nil _⟩

theorem Link.numberless (link : Link) (key : String) :
    ∀ member ∈ link.members key, member.2.Numberless := by
  simp only [members, List.forall_mem_cons]
  exact ⟨.ofOption .ofTexts _, .ofOption customJoin_numberless _, List.forall_mem_nil _⟩

theorem TableSpec.numberless (spec : TableSpec) : spec.json.Numberless := by
  induction spec using TableSpec.nested_induction with
  | step spec inlined referenced collected =>
      obtain ⟨table, fields, inlineParents, referencedParents, childCollections, condition⟩ := spec
      rw [json, InlineParent.jsonAll_eq_map, ReferencedParent.jsonAll_eq_map,
        ChildCollection.jsonAll_eq_map]
      refine .object ?_
      simp only [List.forall_mem_cons]
      refine ⟨.text _, .map fun field _ => field.numberless, .map fun parent member => .object ?_,
        .map fun parent member => .object ?_, .map fun collection member => .object ?_,
        .ofOption RowCondition.numberless _, List.forall_mem_nil _⟩
      · simp only [List.forall_mem_append, List.forall_mem_singleton]
        exact ⟨⟨inlined parent member, parent.link.numberless _⟩, .bool _⟩
      · simp only [List.forall_mem_append, List.forall_mem_cons]
        exact ⟨⟨⟨.text _, referenced parent member, List.forall_mem_nil _⟩,
          parent.link.numberless _⟩, .bool _, List.forall_mem_nil _⟩
      · simp only [List.forall_mem_append, List.forall_mem_cons]
        exact ⟨⟨⟨.text _, collected collection member, List.forall_mem_nil _⟩,
          collection.link.numberless _⟩, .ofOption .text _, .ofOption .bool _, .ofOption .text _,
          List.forall_mem_nil _⟩

theorem QuerySpec.numberless (query : QuerySpec) : query.json.Numberless := by
  refine .object ?_
  simp only [List.forall_mem_cons]
  exact ⟨.text _, query.tableSpec.numberless, .ofOption (fun _ => .map fun _ _ => .text _) _,
    .ofOption .bool _, .ofOption (fun _ => .text _) _, .ofOption .text _, .ofOption .bool _,
    List.forall_mem_nil _⟩

theorem QueryGroup.numberless (group : QueryGroup) : group.json.Numberless := by
  refine .object ?_
  simp only [List.forall_mem_cons]
  exact ⟨.ofOption .text _, .text _, .ofTexts _, .map fun query _ => query.numberless,
    List.forall_mem_nil _⟩

/-- Printing a query group and parsing the text gives the group again. -/
theorem QueryGroup.parse_printed (group : QueryGroup) (shallow : group.json.nesting ≤ 127) :
    parse .json group.json.compact = .ok group := by
  have printed : Json.parse group.json.compact = some group.json :=
    parse_compact group.numberless
  have back : ofJson? group.json = some group := read_json shallow
  rw [parse]
  simp only [printed, Option.bind_some, back]

namespace Shop

def townOrders : TableSpec :=
  { orders with
    childCollections :=
      [skus,
        { name := "\"all\" items"
          spec := { table := "item", referencedParents := [seller] }
          link := { customJoin := some [⟨"order_id", "id"⟩] }
          filter := some "sku <> '\\'", orderBy := some "sku\n" }]
    condition := some { sql := "$$.town = :town", parameters := ["town"], aliasMark := some "$$" } }

def printedGroup : QueryGroup :=
  { defaultSchema := some "shop", naming := .asInDatabase, unqualifiedSchemas := ["shop", ""]
    queries :=
      [query, { name := "towns", tableSpec := townOrders, naming := some .camelCase,
                forUpdate := some true }] }

end Shop

theorem QueryGroup.parse_printed_shop :
    Shop.printedGroup.json.nesting = 12 ∧
      parse .json Shop.printedGroup.json.compact = .ok Shop.printedGroup :=
  ⟨by decide +kernel, parse_printed Shop.printedGroup (by decide +kernel)⟩

end NestedQuery

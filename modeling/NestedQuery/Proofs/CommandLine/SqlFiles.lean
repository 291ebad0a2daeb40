import Mathlib.Data.List.Forall2
import Mathlib.Data.List.Nodup
import NestedQuery.CommandLine.Run
import NestedQuery.Proofs.Files.Tree

/-! Which SQL texts are left in the files that a run writes. Two texts may get the same file, and
the later one replaces the other; the names of the queries tell when this happens. -/

namespace NestedQuery

open Files (IsName Tree join)

namespace CommandLine

def Flattened (c : Char) : Prop := Text.isLetterOrNumeral c = false ∧ c ≠ '_'

instance : DecidablePred Flattened := fun _ => inferInstanceAs (Decidable (_ ∧ _))

/-- Names that differ only in characters that are flattened. -/
def Alike (first second : String) : Prop :=
  List.Forall₂ (fun a b => a = b ∨ Flattened a ∧ Flattened b) first.toList second.toList

theorem hyphen_flattened : Flattened '-' := by decide

theorem fileChar_eq_ite (c : Char) : fileChar c = if Flattened c then '-' else c := by
  rw [fileChar]
  by_cases hyphen : c = '-'
  · simp [hyphen, hyphen_flattened]
  · by_cases letter : Text.isLetterOrNumeral c = true <;>
      by_cases underscore : c = '_' <;> simp [Flattened, hyphen, letter, underscore]

theorem fileChar_eq_iff {a b : Char} :
    fileChar a = fileChar b ↔ a = b ∨ Flattened a ∧ Flattened b := by
  rw [fileChar_eq_ite, fileChar_eq_ite]
  split_ifs with first second second
  · simp [first, second]
  · have other : '-' ≠ b := by
      rintro rfl
      exact second hyphen_flattened
    have differ : a ≠ b := by
      rintro rfl
      exact second first
    simp [other, differ, second]
  · have other : a ≠ '-' := by
      rintro rfl
      exact first hyphen_flattened
    have differ : a ≠ b := by
      rintro rfl
      exact first second
    simp [other, differ, first]
  · simp [first]

theorem alike_iff {first second : String} :
    Alike first second ↔ first.toList.map fileChar = second.toList.map fileChar := by
  rw [Alike, ← List.forall₂_eq_eq_eq, List.forall₂_map_left_iff, List.forall₂_map_right_iff]
  simp only [fileChar_eq_iff]

theorem fileSuffix_kept (form : Representation) :
    (fileSuffix form).toList.map fileChar = (fileSuffix form).toList := by
  cases form <;> decide +kernel

theorem sqlFileName_eq_iff {first second : String} {form other : Representation}
    {several alsoSeveral : Bool} :
    sqlFileName first form several = sqlFileName second other alsoSeveral ↔
      Alike (first ++ if several then fileSuffix form else "")
        (second ++ if alsoSeveral then fileSuffix other else "") := by
  rw [alike_iff, ← String.ofList_inj, ← String.append_left_inj ".sql"]
  cases several <;> cases alsoSeveral <;>
    simp [sqlFileName, fileSuffix_kept, String.ofList_append]

theorem fileSuffix_inj {form other : Representation}
    (suffix : (fileSuffix form).toList <:+ (fileSuffix other).toList) : form = other := by
  revert suffix
  cases form <;> cases other <;> decide

theorem alike_append_fileSuffix {first second : String} {form other : Representation} :
    Alike (first ++ fileSuffix form) (second ++ fileSuffix other) ↔
      form = other ∧ Alike first second := by
  simp only [alike_iff, String.toList_append, List.map_append, fileSuffix_kept]
  constructor
  · intro same
    -- Both suffixes end the same name, so one of them ends the other.
    obtain rfl : form = other := by
      obtain shorter | longer := List.suffix_or_suffix_of_suffix
        (List.suffix_append (first.toList.map fileChar) (fileSuffix form).toList)
        (same ▸ List.suffix_append (second.toList.map fileChar) (fileSuffix other).toList)
      · exact fileSuffix_inj shorter
      · exact (fileSuffix_inj longer).symm
    exact ⟨rfl, List.append_cancel_right same⟩
  · rintro ⟨rfl, same⟩
    rw [same]

end CommandLine

namespace GeneratedQuery

def forms (query : GeneratedQuery) : List Representation := query.sqls.map (·.1)

def Keyed (query : GeneratedQuery) : Prop := query.forms.Nodup

def Single (query : GeneratedQuery) : Prop := query.sqls.length = 1

def Several (query : GeneratedQuery) : Prop := 1 < query.sqls.length

variable {query : GeneratedQuery}

theorem length_forms : query.forms.length = query.sqls.length := List.length_map _

theorem single_or_several {form : Representation} (member : form ∈ query.forms) :
    query.Single ∨ query.Several := by
  have filled := List.length_pos_of_mem member
  rw [length_forms] at filled
  rw [Single, Several]
  omega

theorem Single.forms_eq (single : query.Single) : ∃ form, query.forms = [form] :=
  List.length_eq_one_iff.mp (length_forms.trans single)

end GeneratedQuery

theorem keys_filterMap_lookup {made : List (Representation × String)}
    (forms : List Representation) :
    (forms.filterMap fun form => (made.lookup form).map (form, ·)).map (·.1) =
      forms.filter fun form => (made.lookup form).isSome := by
  induction forms with
  | nil => rfl
  | cons form rest ih => cases found : made.lookup form <;> simp [found, ih]

theorem Compiler.querySqls_of_compileQuery {compiler : Compiler} {query : QuerySpec}
    {generated : GeneratedQuery} (compiled : compiler.compileQuery query = .ok generated) :
    compiler.querySqls query = .ok generated.sqls := by
  obtain ⟨sqls, sqlsMade, rest⟩ := ok_of_bind compiled
  dsimp only at rest
  split at rest
  · obtain ⟨resultType, _, done⟩ := ok_of_bind rest
    obtain rfl := Except.ok.inj done
    exact sqlsMade
  · obtain rfl := Except.ok.inj rest
    exact sqlsMade

theorem Compiler.compileQuery_keyed {compiler : Compiler} {query : QuerySpec}
    {generated : GeneratedQuery} (compiled : compiler.compileQuery query = .ok generated) :
    generated.Keyed := by
  obtain ⟨made, _, collected⟩ := ok_of_bind (querySqls_of_compileQuery compiled)
  rw [GeneratedQuery.Keyed, GeneratedQuery.forms, ← Except.ok.inj collected,
    keys_filterMap_lookup]
  exact List.Nodup.filter _ (by decide)

theorem QueryGroup.compile_keyed {group : QueryGroup} {catalog : Catalog}
    {queries : List GeneratedQuery} (compiled : group.compile catalog = .ok queries) :
    ∀ query ∈ queries, query.Keyed := by
  obtain ⟨dialect, _, made⟩ := ok_of_bind compiled
  intro generated member
  obtain ⟨query, _, queryMade⟩ := (mem_of_mapM made generated).mp member
  dsimp only at queryMade
  generalize result : Compiler.compileQuery _ query = outcome at queryMade
  cases outcome with
  | error cause => cases queryMade
  | ok value =>
      obtain rfl := Except.ok.inj queryMade
      exact Compiler.compileQuery_keyed result

namespace CommandLine

/-- The single text of one query has the file of one of several texts of the other. -/
def Overlaps (several single : GeneratedQuery) : Prop :=
  several.Several ∧ single.Single ∧
    ∃ form ∈ several.forms, Alike (several.name ++ fileSuffix form) single.name

/-- The two queries have a file in common. -/
def Clash (first second : GeneratedQuery) : Prop :=
  (first.Single ∧ second.Single ∨ first.Several ∧ second.Several) ∧
      Alike first.name second.name ∨
    Overlaps first second ∨ Overlaps second first

theorem Alike.symm {first second : String} (alike : Alike first second) : Alike second first :=
  alike_iff.mpr (alike_iff.mp alike).symm

theorem exists_common_form {first second : GeneratedQuery} (keyed : first.Keyed)
    (alsoKeyed : second.Keyed) (several : first.Several) (alsoSeveral : second.Several) :
    ∃ form ∈ first.forms, form ∈ second.forms := by
  -- Two representations of each query, all different, would be four of three.
  by_contra apart
  push Not at apart
  have distinct : (first.forms ++ second.forms).Nodup :=
    List.Nodup.append keyed alsoKeyed (List.disjoint_left.mpr apart)
  have known : first.forms ++ second.forms ⊆ Representation.all := fun form _ => by
    cases form <;> decide
  have few : (first.forms ++ second.forms).length ≤ 3 :=
    (List.subperm_of_subset distinct known).length_le
  rw [List.length_append, GeneratedQuery.length_forms, GeneratedQuery.length_forms] at few
  rw [GeneratedQuery.Several] at several alsoSeveral
  omega

def stem (query : GeneratedQuery) (form : Representation) : String :=
  query.name ++ if 1 < query.sqls.length then fileSuffix form else ""

theorem stem_single {query : GeneratedQuery} (single : query.Single) (form : Representation) :
    stem query form = query.name := by
  rw [stem, if_neg (by rw [single]; omega), String.append_empty]

theorem stem_several {query : GeneratedQuery} (several : query.Several) (form : Representation) :
    stem query form = query.name ++ fileSuffix form :=
  congrArg (query.name ++ ·) (if_pos several)

theorem mem_fileNames_iff {query : GeneratedQuery} {name : String} :
    name ∈ (sqlFiles query).map (·.1) ↔
      ∃ form ∈ query.forms, name = sqlFileName query.name form (1 < query.sqls.length) := by
  simp [sqlFiles, GeneratedQuery.forms, eq_comm]

theorem sqlFileName_eq_iff_stems {first second : GeneratedQuery} {form other : Representation} :
    sqlFileName first.name form (1 < first.sqls.length) =
        sqlFileName second.name other (1 < second.sqls.length) ↔
      Alike (stem first form) (stem second other) := by
  rw [sqlFileName_eq_iff]
  simp only [decide_eq_true_eq, stem]

theorem disjoint_fileNames_iff {first second : GeneratedQuery} :
    ((sqlFiles first).map (·.1)).Disjoint ((sqlFiles second).map (·.1)) ↔
      ∀ form ∈ first.forms, ∀ other ∈ second.forms,
        ¬ Alike (stem first form) (stem second other) := by
  simp only [List.disjoint_left, mem_fileNames_iff, ← sqlFileName_eq_iff_stems]
  constructor
  · intro apart form member other alsoMember same
    exact apart ⟨form, member, rfl⟩ ⟨other, alsoMember, same⟩
  · rintro apart name ⟨form, member, rfl⟩ ⟨other, alsoMember, same⟩
    exact apart form member other alsoMember same

theorem Clash.of_alike_stems {first second : GeneratedQuery} {form other : Representation}
    (member : form ∈ first.forms) (alsoMember : other ∈ second.forms)
    (alike : Alike (stem first form) (stem second other)) : Clash first second := by
  obtain single | several := GeneratedQuery.single_or_several member <;>
    obtain alsoSingle | alsoSeveral := GeneratedQuery.single_or_several alsoMember
  · rw [stem_single single, stem_single alsoSingle] at alike
    exact .inl ⟨.inl ⟨single, alsoSingle⟩, alike⟩
  · rw [stem_single single, stem_several alsoSeveral] at alike
    exact .inr (.inr ⟨alsoSeveral, single, other, alsoMember, alike.symm⟩)
  · rw [stem_several several, stem_single alsoSingle] at alike
    exact .inr (.inl ⟨several, alsoSingle, form, member, alike⟩)
  · rw [stem_several several, stem_several alsoSeveral, alike_append_fileSuffix] at alike
    exact .inl ⟨.inr ⟨several, alsoSeveral⟩, alike.2⟩

theorem Overlaps.exists_stems {several single : GeneratedQuery}
    (overlaps : Overlaps several single) :
    ∃ form ∈ several.forms, ∃ other ∈ single.forms,
      Alike (stem several form) (stem single other) := by
  obtain ⟨isSeveral, isSingle, form, member, alike⟩ := overlaps
  obtain ⟨other, whole⟩ := isSingle.forms_eq
  refine ⟨form, member, other, by simp [whole], ?_⟩
  rwa [stem_several isSeveral, stem_single isSingle]

theorem Clash.exists_stems {first second : GeneratedQuery} (keyed : first.Keyed)
    (alsoKeyed : second.Keyed) (clash : Clash first second) :
    ∃ form ∈ first.forms, ∃ other ∈ second.forms, Alike (stem first form) (stem second other) := by
  obtain ⟨⟨single, alsoSingle⟩ | ⟨several, alsoSeveral⟩, alike⟩ | overlaps | overlaps := clash
  · obtain ⟨form, whole⟩ := single.forms_eq
    obtain ⟨other, alsoWhole⟩ := alsoSingle.forms_eq
    refine ⟨form, by simp [whole], other, by simp [alsoWhole], ?_⟩
    rwa [stem_single single, stem_single alsoSingle]
  · obtain ⟨form, member, alsoMember⟩ := exists_common_form keyed alsoKeyed several alsoSeveral
    refine ⟨form, member, form, alsoMember, ?_⟩
    rw [stem_several several, stem_several alsoSeveral, alike_append_fileSuffix]
    exact ⟨rfl, alike⟩
  · exact overlaps.exists_stems
  · obtain ⟨other, alsoMember, form, member, alike⟩ := overlaps.exists_stems
    exact ⟨form, member, other, alsoMember, alike.symm⟩

theorem disjoint_iff_not_clash {first second : GeneratedQuery} (keyed : first.Keyed)
    (alsoKeyed : second.Keyed) :
    ((sqlFiles first).map (·.1)).Disjoint ((sqlFiles second).map (·.1)) ↔ ¬ Clash first second := by
  rw [disjoint_fileNames_iff]
  constructor
  · intro apart clash
    obtain ⟨form, member, other, alsoMember, alike⟩ := clash.exists_stems keyed alsoKeyed
    exact apart form member other alsoMember alike
  · intro apart form member other alsoMember alike
    exact apart (.of_alike_stems member alsoMember alike)

theorem fileNames_nodup {query : GeneratedQuery} (keyed : query.Keyed) :
    ((sqlFiles query).map (·.1)).Nodup := by
  have named : (sqlFiles query).map (·.1) =
      query.forms.map fun form => sqlFileName query.name form (1 < query.sqls.length) := by
    simp [sqlFiles, GeneratedQuery.forms]
  rw [named]
  refine List.Nodup.map_on (fun form member other alsoMember same => ?_) keyed
  rw [sqlFileName_eq_iff_stems] at same
  obtain single | several := GeneratedQuery.single_or_several member
  · obtain ⟨only, whole⟩ := single.forms_eq
    rw [whole, List.mem_singleton] at member alsoMember
    rw [member, alsoMember]
  · rw [stem_several several, stem_several several, alike_append_fileSuffix] at same
    exact same.1

theorem fileNames_nodup_iff {queries : List GeneratedQuery}
    (keyed : ∀ query ∈ queries, query.Keyed) :
    ((queries.flatMap sqlFiles).map (·.1)).Nodup ↔
      queries.Pairwise fun first second => ¬ Clash first second := by
  rw [List.map_flatMap, List.nodup_flatMap]
  constructor
  · rintro ⟨-, apart⟩
    exact apart.imp_of_mem fun {first second} member alsoMember disjoint =>
      (disjoint_iff_not_clash (keyed _ member) (keyed _ alsoMember)).mp disjoint
  · intro apart
    refine ⟨fun query member => fileNames_nodup (keyed query member), ?_⟩
    exact apart.imp_of_mem fun {first second} member alsoMember free =>
      (disjoint_iff_not_clash (keyed _ member) (keyed _ alsoMember)).mpr free

/-! A run over the files, from the first to the last. -/

theorem fileChar_ne_slash (c : Char) : fileChar c ≠ '/' := by
  have slash : Flattened '/' := by decide
  rw [fileChar_eq_ite]
  split_ifs with flattened
  · decide
  · rintro rfl
    exact flattened slash

theorem isName_sqlFileName (name : String) (form : Representation) (several : Bool) :
    IsName (sqlFileName name form several) := by
  have long : 4 ≤ (sqlFileName name form several).toList.length := by
    simp only [sqlFileName, String.toList_append, List.length_append]
    exact Nat.le_add_left 4 _
  have other {short : String} (shorter : short.toList.length < 4) :
      sqlFileName name form several ≠ short := by
    rintro rfl
    omega
  refine ⟨?_, other (by decide), other (by decide), other (by decide)⟩
  have suffix : '/' ∉ (if several then fileSuffix form else "").toList := by
    cases several <;> cases form <;> decide
  have base : '/' ∉ name.toList.map fileChar := by
    rw [List.mem_map]
    rintro ⟨c, _, slash⟩
    exact fileChar_ne_slash c slash
  simp only [sqlFileName, String.toList_append, String.toList_ofList, List.mem_append, not_or]
  exact ⟨⟨base, suffix⟩, by decide⟩

theorem writeFiles_cons {directory name text : String} {rest : List (String × String)}
    {tree after : Tree}
    (run : writeFiles Tree.access directory ((name, text) :: rest) tree = (.ok (), after)) :
    ∃ written, tree.write (join directory name) text = .ok written ∧
      writeFiles Tree.access directory rest written = (.ok (), after) := by
  cases wrote : tree.write (join directory name) text with
  | error fault =>
      have step : Tree.access.writeText (join directory name) text tree = (.error fault, tree) := by
        simp only [Tree.access, Tree.attempt, wrote]
      simp only [writeFiles, bind, StateT.bind, step] at run
      cases run
  | ok written =>
      have step : Tree.access.writeText (join directory name) text tree = (.ok (), written) := by
        simp only [Tree.access, Tree.attempt, wrote]
      simp only [writeFiles, bind, StateT.bind, step] at run
      exact ⟨written, rfl, run⟩

section

variable {directory : String}

theorem writeFiles_keeps {files : List (String × String)} {tree after : Tree}
    (named : ∀ file ∈ files, IsName file.1)
    (run : writeFiles Tree.access directory files tree = (.ok (), after)) {name : String}
    {content : ByteArray} (elsewhere : name ∉ files.map (·.1))
    (holds : tree.Holds directory name content) : after.Holds directory name content := by
  induction files generalizing tree with
  | nil =>
      obtain rfl : tree = after := congrArg Prod.snd run
      exact holds
  | cons file rest ih =>
      obtain ⟨written, wrote, others⟩ := writeFiles_cons run
      rw [List.forall_mem_cons] at named
      rw [List.map_cons, List.mem_cons, not_or] at elsewhere
      exact ih named.2 others elsewhere.2 (holds.of_write named.1 wrote elsewhere.1)

theorem writeFiles_last {before later : List (String × String)} {name text : String}
    {tree after : Tree} (named : ∀ file ∈ before ++ (name, text) :: later, IsName file.1)
    (run : writeFiles Tree.access directory (before ++ (name, text) :: later) tree =
      (.ok (), after))
    (last : name ∉ later.map (·.1)) : after.read (join directory name) = .ok text := by
  -- After the files before it the text is written, and no later file replaces it.
  induction before generalizing tree with
  | nil =>
      obtain ⟨written, wrote, others⟩ := writeFiles_cons run
      rw [List.nil_append, List.forall_mem_cons] at named
      exact (writeFiles_keeps named.2 others last (Tree.holds_of_write named.1 wrote)).read
  | cons file rest ih =>
      obtain ⟨written, _, others⟩ := writeFiles_cons run
      rw [List.cons_append, List.forall_mem_cons] at named
      exact ih named.2 others

end

theorem files_of_writeSql {directory : String} {queries : List GeneratedQuery} {tree after : Tree}
    (run : writeSql Tree.access directory queries tree = (.ok (), after)) :
    ∃ prepared, writeFiles Tree.access directory (queries.flatMap sqlFiles) prepared =
      (.ok (), after) := by
  cases made : Tree.access.makeDirectories directory tree with
  | mk result prepared =>
      simp only [writeSql, bind, StateT.bind, made] at run
      cases result with
      | error fault => cases run
      | ok => exact ⟨prepared, run⟩

theorem isName_of_mem_files {queries : List GeneratedQuery} :
    ∀ file ∈ queries.flatMap sqlFiles, IsName file.1 := by
  intro file member
  obtain ⟨query, _, member⟩ := List.mem_flatMap.mp member
  obtain ⟨entry, _, rfl⟩ := List.mem_map.mp member
  exact isName_sqlFileName _ _ _

theorem map_fileChar_plain {name : String} (plain : ∀ c ∈ name.toList, ¬ Flattened c) :
    name.toList.map fileChar = name.toList := by
  refine (List.map_congr_left fun c member => ?_).trans (List.map_id _)
  rw [fileChar_eq_ite, if_neg (plain c member)]
  rfl

theorem not_overlaps_of_plain {several single : GeneratedQuery}
    (plain : ∀ c ∈ single.name.toList, ¬ Flattened c) : ¬ Overlaps several single := by
  rintro ⟨-, -, form, -, alike⟩
  rw [alike_iff, String.toList_append, List.map_append, fileSuffix_kept,
    map_fileChar_plain plain] at alike
  have hyphen : '-' ∈ (fileSuffix form).toList := by cases form <;> decide
  refine plain '-' ?_ hyphen_flattened
  rw [← alike]
  exact List.mem_append_right _ hyphen

theorem not_clash_of_plain {first second : GeneratedQuery}
    (plain : ∀ c ∈ first.name.toList, ¬ Flattened c)
    (alsoPlain : ∀ c ∈ second.name.toList, ¬ Flattened c) (differ : first.name ≠ second.name) :
    ¬ Clash first second := by
  rintro (⟨-, alike⟩ | overlaps | overlaps)
  · rw [alike_iff, map_fileChar_plain plain, map_fileChar_plain alsoPlain] at alike
    exact differ (String.toList_injective alike)
  · exact not_overlaps_of_plain alsoPlain overlaps
  · exact not_overlaps_of_plain plain overlaps

/-- The files of a run have different names if no two queries clash, and only then; distinct names
of letters, numerals and underscores do not clash. Each file is left with the last text of its name,
so without a clash every SQL text is left in its own file. -/
theorem sql_texts_kept (queries : List GeneratedQuery) (keyed : ∀ query ∈ queries, query.Keyed) :
    (((queries.flatMap sqlFiles).map (·.1)).Nodup ↔
      queries.Pairwise fun first second => ¬ Clash first second) ∧
    ((queries.map (·.name)).Nodup → (∀ query ∈ queries, ∀ c ∈ query.name.toList, ¬ Flattened c) →
      queries.Pairwise fun first second => ¬ Clash first second) ∧
    ∀ (directory : String) (tree after : Tree),
      writeSql Tree.access directory queries tree = (.ok (), after) →
        (∀ before name text later, queries.flatMap sqlFiles = before ++ (name, text) :: later →
          name ∉ later.map (·.1) → after.read (join directory name) = .ok text) ∧
        (queries.Pairwise (fun first second => ¬ Clash first second) →
          ∀ query ∈ queries, ∀ sql ∈ query.sqls,
            after.read (join directory (sqlFileName query.name sql.1 (1 < query.sqls.length))) =
              .ok (sql.2 ++ "\n")) := by
  refine ⟨fileNames_nodup_iff keyed, ?_, ?_⟩
  · intro distinct plain
    rw [List.Nodup, List.pairwise_map] at distinct
    exact distinct.imp_of_mem fun member alsoMember differ =>
      not_clash_of_plain (plain _ member) (plain _ alsoMember) differ
  · intro directory tree after run
    obtain ⟨prepared, written⟩ := files_of_writeSql run
    have last : ∀ before name text later,
        queries.flatMap sqlFiles = before ++ (name, text) :: later →
          name ∉ later.map (·.1) → after.read (join directory name) = .ok text := by
      intro before name text later files unused
      rw [files] at written
      exact writeFiles_last (files ▸ isName_of_mem_files) written unused
    refine ⟨last, fun apart query member sql alsoMember => ?_⟩
    have distinct := (fileNames_nodup_iff keyed).mpr apart
    have filed : (sqlFileName query.name sql.1 (1 < query.sqls.length), sql.2 ++ "\n") ∈
        queries.flatMap sqlFiles :=
      List.mem_flatMap.mpr ⟨query, member, List.mem_map.mpr ⟨sql, alsoMember, rfl⟩⟩
    obtain ⟨before, later, files⟩ := List.append_of_mem filed
    refine last before _ _ later files ?_
    rw [files, List.map_append, List.map_cons] at distinct
    exact (List.nodup_cons.mp distinct.of_append_right).1

end CommandLine

namespace Shop

def customers : TableSpec := { table := "customer", fields := [{ field := some "full_name" }] }

def savedGroup : QueryGroup :=
  { queries :=
      [{ name := "customers", tableSpec := customers
         representations := some [.objectRows, .arrayRow] },
       { name := "customers-json", tableSpec := customers }] }

def saved (name : String) (sqls : List (Representation × String)) : GeneratedQuery :=
  { name, sqls, resultType := none, parameters := [] }

def alikeQueries : List GeneratedQuery :=
  [saved "open orders" [(.objectRows, "select 1")], saved "open-orders" [(.objectRows, "select 2")]]

def overlappingQueries : List GeneratedQuery :=
  [saved "orders" [(.objectRows, "select 1"), (.arrayRow, "select 2")],
   saved "orders-json-object-rows" [(.objectRows, "select 3")]]

end Shop

namespace CommandLine

theorem sql_texts_kept_shop :
    ∃ queries after, Shop.savedGroup.compile Shop.catalog = .ok queries ∧
      (queries.flatMap sqlFiles).map (·.1) =
        ["customers-json-object-rows.sql", "customers-json-array-row.sql", "customers-json.sql"] ∧
      writeSql Tree.access "out/sql" queries {} = (.ok (), after) ∧
      ∀ query ∈ queries, ∀ sql ∈ query.sqls,
        after.read (join "out/sql" (sqlFileName query.name sql.1 (1 < query.sqls.length))) =
          .ok (sql.2 ++ "\n") := by
  have results : (Shop.savedGroup.compile Shop.catalog).map
      (fun queries => ((queries.flatMap sqlFiles).map (·.1),
        (writeSql Tree.access "out/sql" queries {}).1)) = .ok
        (["customers-json-object-rows.sql", "customers-json-array-row.sql",
          "customers-json.sql"], .ok ()) := by decide +kernel
  obtain ⟨queries, compiled, evaluated⟩ := ok_of_map results
  obtain ⟨names, done⟩ := Prod.mk.inj evaluated
  have kept := sql_texts_kept queries (QueryGroup.compile_keyed compiled)
  have run : writeSql Tree.access "out/sql" queries {} =
      (.ok (), (writeSql Tree.access "out/sql" queries {}).2) := Prod.ext done rfl
  refine ⟨queries, _, compiled, names, run, (kept.2.2 _ _ _ run).2 ?_⟩
  rw [← kept.1, names]
  decide

/-- Distinct names do not keep the texts apart: the run succeeds, and the first text is gone. -/
theorem distinct_names_share_file :
    ((Shop.alikeQueries.map (·.name)).Nodup ∧ (∀ query ∈ Shop.alikeQueries, query.forms.Nodup) ∧
      (Shop.alikeQueries.flatMap sqlFiles).map (·.1) = ["open-orders.sql", "open-orders.sql"] ∧
      (writeSql Tree.access "out" Shop.alikeQueries {}).1 = .ok () ∧
      (writeSql Tree.access "out" Shop.alikeQueries {}).2.read "out/open-orders.sql" =
        .ok "select 2\n") ∧
    (Shop.overlappingQueries.map (·.name)).Nodup ∧
      (∀ query ∈ Shop.overlappingQueries, query.forms.Nodup) ∧
      (Shop.overlappingQueries.flatMap sqlFiles).map (·.1) =
        ["orders-json-object-rows.sql", "orders-json-array-row.sql",
          "orders-json-object-rows.sql"] ∧
      (writeSql Tree.access "out" Shop.overlappingQueries {}).1 = .ok () ∧
      (writeSql Tree.access "out" Shop.overlappingQueries {}).2.read
        "out/orders-json-object-rows.sql" = .ok "select 3\n" := by
  decide +kernel

end CommandLine

end NestedQuery

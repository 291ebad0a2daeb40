import NestedQuery.Files.Tree
import NestedQuery.Proofs.Query.Assembly
import NestedQuery.Proofs.Text.Layout

/-! What is read from a tree after files are written to one of its directories: a file that was
written last is read as it was written, and all others in the directory are read as before. -/

namespace NestedQuery

theorem Text.pieces_of_none {separates : Char → Bool} {text : List Char}
    (none : ∀ c ∈ text, separates c = false) : pieces separates text = [text] := by
  induction text with
  | nil => rfl
  | cons c rest ih =>
      rw [List.forall_mem_cons] at none
      rw [pieces, if_neg (by simp [none.1]), ih none.2]

theorem Text.pieces_append {separates : Char → Bool} {mark : Char}
    (separator : separates mark = true) (before after : List Char) :
    pieces separates (before ++ mark :: after) =
      pieces separates before ++ pieces separates after := by
  induction before with
  | nil =>
      rw [List.nil_append]
      conv => lhs; rw [pieces, if_pos separator]
      rfl
  | cons c rest ih =>
      obtain ⟨piece, more, cut⟩ := List.exists_cons_of_ne_nil (pieces_ne_nil separates rest)
      rw [cut] at ih
      rw [List.cons_append, pieces, pieces, ih, cut]
      split <;> rfl

namespace Files

structure IsName (name : String) : Prop where
  noSlash : '/' ∉ name.toList
  nonempty : name ≠ ""
  moves : name ≠ "." ∧ name ≠ ".."

theorem steps_slash (before after : String) :
    steps (before ++ "/" ++ after) = steps before ++ steps after := by
  have cut : (before ++ "/" ++ after).toList = before.toList ++ '/' :: after.toList := by simp
  rw [steps, cut, Text.pieces_append (by rfl), List.filter_append, List.map_append]
  rfl

theorem eq_append_slash {path : String} (ends : endsInSlash path = true) :
    ∃ before, path = before ++ "/" := by
  rw [endsInSlash, beq_iff_eq, List.getLast?_eq_some_iff] at ends
  obtain ⟨before, cut⟩ := ends
  refine ⟨String.ofList before, String.toList_injective ?_⟩
  rw [cut, String.toList_append, String.toList_ofList]
  rfl

theorem join_toList (directory name : String) :
    ∃ before, (join directory name).toList = before ++ name.toList := by
  rw [join]
  split
  · exact ⟨directory.toList, String.toList_append⟩
  · exact ⟨(directory ++ "/").toList, String.toList_append⟩

namespace IsName

variable {name : String} (named : IsName name)
include named

theorem steps_eq : steps name = [name] := by
  have whole : Text.pieces (· == '/') name.toList = [name.toList] := by
    refine Text.pieces_of_none fun c member => ?_
    rw [beq_eq_false_iff_ne]
    rintro rfl
    exact named.noSlash member
  have filled : name.toList.isEmpty = false := by simpa using named.nonempty
  simp [steps, whole, filled]

theorem steps_join (directory : String) :
    steps (join directory name) = steps directory ++ [name] := by
  rw [join]
  split
  next ends =>
    rw [Bool.or_eq_true] at ends
    obtain empty | slash := ends
    · obtain rfl : directory = "" := by simpa using empty
      rw [String.empty_append, named.steps_eq]
      rfl
    · obtain ⟨before, rfl⟩ := eq_append_slash slash
      have same : steps (before ++ "/") = steps before := by
        rw [← String.append_empty (s := before ++ "/"), steps_slash]
        exact List.append_nil _
      rw [steps_slash, same, named.steps_eq]
  next => rw [steps_slash, named.steps_eq]

theorem endsInSlash_join (directory : String) : endsInSlash (join directory name) = false := by
  obtain ⟨before, written⟩ := Files.join_toList directory name
  have filled : name.toList ≠ [] := by simpa using named.nonempty
  rw [endsInSlash, written, List.getLast?_append_of_ne_nil _ filled, beq_eq_false_iff_ne]
  intro slash
  exact named.noSlash (List.mem_of_getLast? slash)

end IsName

namespace Tree

/-- A path that a tree follows, as far as its directories go. -/
def Follows (path : String) : Prop :=
  ¬ path.toList.contains (Char.ofNat 0) ∧ ¬ (path.isEmpty || isAbsolute path) ∧
    ¬ maximalPath ≤ path.utf8ByteSize

theorem target_join {tree : Tree} {directory name : String} (named : IsName name)
    {target : Target} :
    tree.target (join directory name) = .ok target ↔
      (Follows (join directory name) ∧ name.utf8ByteSize ≤ maximalName) ∧
        ∃ place, tree.enter [] (steps directory) = .ok place ∧ target = .name place name := by
  have last : (steps (join directory name)).getLast? = some name := by
    rw [named.steps_join, List.getLast?_append_of_ne_nil _ (by simp)]
    rfl
  have before : (steps (join directory name)).dropLast = steps directory := by
    rw [named.steps_join, List.dropLast_concat]
  have moves : ¬ (name == "." || name == "..") = true := by simp [named.moves]
  -- What is refused before any step is taken depends on the path alone.
  rw [Tree.target]
  split_ifs with zero nowhere long
  · simp only [Follows, zero, not_true_eq_false, false_and]
  · simp only [Follows, nowhere, not_true_eq_false, false_and, and_false]
  · simp only [Follows, long, not_true_eq_false, false_and, and_false]
  · have follows : Follows (join directory name) := ⟨zero, nowhere, long⟩
    dsimp only
    rw [last]
    dsimp only
    rw [before, if_neg moves]
    cases found : tree.enter [] (steps directory) with
    | error fault => simp [bind, Except.bind]
    | ok place =>
        simp only [ok_bind]
        split_ifs with short
        · simp [Nat.not_le.mpr short]
        · simp [follows, Nat.le_of_not_lt short, pure, Except.pure, eq_comm]

theorem lookup_replaced (entries : List (Place × Entry)) (place : Place) (entry : Entry)
    (other : Place) :
    (entries.map fun old => if old.1 == place then (place, entry) else old).lookup other =
      if other = place then (entries.lookup place).map fun _ => entry
      else entries.lookup other := by
  induction entries with
  | nil => simp
  | cons old rest ih =>
      rw [List.map_cons, List.lookup_cons, ih]
      split_ifs with replaced asked <;> grind

theorem entry_put (tree : Tree) {place : Place} (inside : place ≠ []) (entry : Entry)
    (other : Place) :
    Tree.entry? (tree.put place entry) other =
      if other = place then some entry else tree.entry? other := by
  by_cases outside : other = []
  · subst outside
    rw [if_neg (Ne.symm inside)]
    rfl
  · simp only [ entry?, List.isEmpty_iff, outside, if_false, put]
    split
    next there =>
      obtain ⟨old, found⟩ := Option.isSome_iff_exists.mp there
      rw [lookup_replaced, found]
      rfl
    next missing =>
      rw [Option.not_isSome_iff_eq_none] at missing
      rw [List.lookup_append]
      by_cases asked : other = place
      · subst asked
        simp [missing]
      · have alone : [(place, entry)].lookup other = none := by
          simp [List.lookup_cons, beq_eq_false_iff_ne.mpr asked]
        rw [alone, Option.or_none, if_neg asked]

theorem enter_of_kept {tree grown : Tree}
    (kept : ∀ place, tree.entry? place = some .directory → grown.entry? place = some .directory)
    {steps : List String} {start place : Place} (entered : tree.enter start steps = .ok place) :
    grown.enter start steps = .ok place := by
  induction steps generalizing start with
  | nil => exact entered
  | cons step rest ih =>
      rw [enter] at entered ⊢
      split_ifs at entered ⊢ with stays back top long
      · exact ih entered
      · exact ih entered
      · split at entered
        next => contradiction
        next => contradiction
        next there =>
          rw [kept _ there]
          exact ih entered

/-- A file in a directory that can be written to. -/
structure Holds (tree : Tree) (directory name : String) (content : ByteArray) : Prop where
  named : IsName name
  follows : Follows (join directory name) ∧ name.utf8ByteSize ≤ maximalName
  entry : ∃ place, tree.enter [] (steps directory) = .ok place ∧
    tree.entry? (place ++ [name]) = some (.file content)

theorem fromUTF8_toUTF8 (text : String) : String.fromUTF8? text.toUTF8 = some text := by
  have valid : text.toUTF8.IsValidUTF8 := text.isValidUTF8
  rw [String.fromUTF8?, dif_pos valid]
  rfl

theorem Holds.read {tree : Tree} {directory name text : String}
    (holds : tree.Holds directory name text.toUTF8) :
    tree.read (join directory name) = .ok text := by
  obtain ⟨named, follows, place, entered, found⟩ := holds
  have target := (target_join named).mpr ⟨follows, place, entered, rfl⟩
  rw [Tree.read, target, ok_bind]
  simp only [found, named.endsInSlash_join, fromUTF8_toUTF8]
  rfl

theorem write_join {tree written : Tree} {directory name text : String} (named : IsName name)
    (wrote : tree.write (join directory name) text = .ok written) :
    (Follows (join directory name) ∧ name.utf8ByteSize ≤ maximalName) ∧
      ∃ place, tree.enter [] (steps directory) = .ok place ∧
        tree.entry? (place ++ [name]) ≠ some .directory ∧
        written = tree.put (place ++ [name]) (.file text.toUTF8) := by
  obtain ⟨target, found, rest⟩ := ok_of_bind wrote
  obtain ⟨follows, place, entered, rfl⟩ := (target_join named).mp found
  refine ⟨follows, place, entered, ?_⟩
  simp only [named.endsInSlash_join, Bool.false_eq_true, if_false] at rest
  split at rest
  next => contradiction
  next free => exact ⟨free, (Except.ok.inj rest).symm⟩

theorem enter_put_file {tree : Tree} {place start reached : Place} {content : ByteArray}
    {steps : List String} (inside : place ≠ []) (free : tree.entry? place ≠ some .directory)
    (entered : tree.enter start steps = .ok reached) :
    (tree.put place (.file content)).enter start steps = .ok reached := by
  refine enter_of_kept (fun other directory => ?_) entered
  have elsewhere : other ≠ place := by
    rintro rfl
    exact free directory
  rw [entry_put tree inside, if_neg elsewhere, directory]

section

variable {tree written : Tree} {directory name text : String} (named : IsName name)
  (wrote : tree.write (join directory name) text = .ok written)
include named wrote

theorem holds_of_write : written.Holds directory name text.toUTF8 := by
  obtain ⟨follows, place, entered, free, rfl⟩ := write_join named wrote
  refine ⟨named, follows, place, enter_put_file (by simp) free entered, ?_⟩
  rw [entry_put tree (by simp), if_pos rfl]

theorem Holds.of_write {other : String} {content : ByteArray} (differs : other ≠ name)
    (holds : tree.Holds directory other content) : written.Holds directory other content := by
  obtain ⟨-, place, entered, free, rfl⟩ := write_join named wrote
  obtain ⟨otherNamed, follows, otherPlace, otherEntered, found⟩ := holds
  obtain rfl : otherPlace = place := Except.ok.inj (otherEntered.symm.trans entered)
  refine ⟨otherNamed, follows, otherPlace, enter_put_file (by simp) free entered, ?_⟩
  rw [entry_put tree (by simp), if_neg (by simpa using differs), found]

end

end Tree

end Files

end NestedQuery

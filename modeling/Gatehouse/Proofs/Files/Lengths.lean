import Gatehouse.Files.Tree
import Gatehouse.Proofs.Outcome
import Gatehouse.Proofs.Text.Parts

/-!
# How long paths are

A path that can be located leads to the same place as it is spelled, if its
text is short enough to be looked up at all.  A path that begins at the root
is never shorter than the names that it leads through, so whatever such a
path leads to as it is spelled can be located.  Only a path from a deep
current directory may be short and yet lead to names that are too long when
they are spelled from the root.
-/

namespace Gatehouse.Files

open Gatehouse.Outcome

/-! ## Octets of names -/

/-- How many octets some names take, each with a slash. -/
def octets : List String → Nat
  | [] => 0
  | name :: names => name.utf8ByteSize + 1 + octets names

@[simp]
theorem octets_nil : octets [] = 0 := rfl

@[simp]
theorem octets_cons (name : String) (names : List String) :
    octets (name :: names) = name.utf8ByteSize + 1 + octets names := rfl

@[simp]
theorem octets_append (former latter : List String) :
    octets (former ++ latter) = octets former + octets latter := by
  induction former with
  | nil => rw [List.nil_append, octets_nil, Nat.zero_add]
  | cons name names induction =>
      rw [List.cons_append, octets_cons, octets_cons, induction]
      omega

@[simp]
theorem octets_replicate (count : Nat) (name : String) :
    octets (List.replicate count name) =
      count * (name.utf8ByteSize + 1) := by
  induction count with
  | zero => rw [List.replicate_zero, octets_nil, Nat.zero_mul]
  | succ count induction =>
      rw [List.replicate_succ, octets_cons, induction, Nat.succ_mul,
        Nat.add_comm]

theorem octets_dropLast_le (names : List String) :
    octets names.dropLast ≤ octets names := by
  rcases List.eq_nil_or_concat names with rfl | ⟨front, last, rfl⟩
  · exact Nat.le_refl _
  · rw [List.concat_eq_append, List.dropLast_concat, octets_append]
    exact Nat.le_add_right _ _

/-- A path is as long as the names in it, each with a slash in front. -/
theorem utf8ByteSize_path {location : Location} (below : location ≠ []) :
    (Location.path location).utf8ByteSize = octets location := by
  have slash : "/".utf8ByteSize = 1 := by decide
  rw [Location.path, String.utf8ByteSize_append, slash]
  induction location with
  | nil => exact (below rfl).elim
  | cons name rest induction =>
      by_cases last : rest = []
      · subst last
        rw [String.intercalate_singleton, octets_cons, octets_nil]
        omega
      · have inner := induction last
        rw [String.intercalate_cons_of_ne_nil last,
          String.utf8ByteSize_append, String.utf8ByteSize_append, slash,
          octets_cons]
        omega

/-- A text is one octet shorter than its pieces, each with a slash. -/
theorem octets_pieces (path : String) :
    octets (pieces path) = path.utf8ByteSize + 1 := by
  have joined : ∀ parts : List (List Char), parts ≠ [] →
      octets (parts.map String.ofList) =
        (String.ofList (['/'].intercalate parts)).utf8ByteSize + 1 := by
    intro parts
    induction parts with
    | nil => exact fun none => (none rfl).elim
    | cons part rest induction =>
        intro _
        by_cases last : rest = []
        · subst last
          simp
        · have slash : (String.ofList ['/']).utf8ByteSize = 1 := by decide
          rw [List.map_cons, octets_cons, induction last,
            List.intercalate_cons_of_ne_nil last, String.ofList_append,
            String.ofList_append, String.utf8ByteSize_append,
            String.utf8ByteSize_append, slash]
          omega
  have whole := joined (path.toList.splitOn '/') (List.splitOn_ne_nil _ _)
  rw [List.intercalate_splitOn, String.ofList_toList] at whole
  exact whole

/-! ## Paths from the root -/

theorem isAbsolute_append {directory : String}
    (rooted : isAbsolute directory = true) (behind : String) :
    isAbsolute (directory ++ behind) = true := by
  rw [isAbsolute, beq_iff_eq, List.head?_eq_some_iff] at rooted
  rcases rooted with ⟨rest, characters⟩
  rw [isAbsolute, String.toList_append, characters]
  rfl

theorem isAbsolute_path (location : Location) :
    isAbsolute (Location.path location) = true :=
  isAbsolute_append (by decide) _

/-- What is taken from a directory at the root begins there as well. -/
theorem isAbsolute_join {directory : String}
    (rooted : isAbsolute directory = true) (path : String) :
    isAbsolute (join directory path) = true := by
  have filled : directory.isEmpty = false := by
    rw [Bool.eq_false_iff, ne_eq, String.isEmpty_iff]
    rintro rfl
    cases rooted
  rw [join, filled, Bool.or_false]
  split_ifs with whole
  · exact whole
  · exact isAbsolute_append rooted path
  · exact isAbsolute_append (isAbsolute_append rooted "/") path

/-- A path that begins at the root has an empty first piece. -/
theorem exists_pieces_of_isAbsolute {path : String}
    (rooted : isAbsolute path = true) :
    ∃ behind, pieces path = "" :: behind := by
  rw [isAbsolute, beq_iff_eq, List.head?_eq_some_iff] at rooted
  rcases rooted with ⟨rest, characters⟩
  rw [pieces, Text.pieces, characters, List.splitOn_cons_eq_if_modifyHead,
    if_pos (by decide)]
  exact ⟨_, rfl⟩

/-! ## What is spelled out -/

namespace Tree

variable {tree : Tree} {location final : Location} {path piece : String}
  {rest : List String}

/-- A piece that is not too long is stepped over. -/
theorem spellOut_cons
    (fits : isDots piece = false →
      spelledLength location piece rest ≤ pathLimit) :
    tree.spellOut location (piece :: rest) =
      tree.step location piece >>= fun next => tree.spellOut next rest := by
  rw [spellOut, if_neg]
  simp only [Bool.and_eq_true, Bool.not_eq_true', decide_eq_true_eq, not_and]
  exact fun named => (fits named).not_gt

/-- What is spelled out leads to the same place step by step. -/
theorem foldlM_of_spellOut {pieces : List String}
    (found : tree.spellOut location pieces = .ok final) :
    pieces.foldlM tree.step location = .ok final := by
  induction pieces generalizing location with
  | nil => exact found
  | cons piece rest induction =>
      rw [spellOut] at found
      split at found
      · cases found
      · rcases bind_eq_ok_iff.mp found with ⟨next, entered, found⟩
        rw [List.foldlM_cons]
        exact bind_eq_ok_iff.mpr ⟨next, entered, induction found⟩

/-- A path that is located leads there step by step. -/
theorem foldlM_of_locate (located : tree.locate path = .ok location) :
    (pieces path).foldlM tree.step (tree.start path) = .ok location := by
  rw [locate] at located
  split_ifs at located with zero blank
  exact foldlM_of_spellOut located

theorem lookUp_of_locate (located : tree.locate path = .ok location)
    (short : path.utf8ByteSize ≤ pathLimit) :
    tree.lookUp path = .ok location := by
  have walk := foldlM_of_locate located
  rw [locate] at located
  split_ifs at located with zero blank
  rw [lookUp, if_neg zero, if_neg blank, if_neg short.not_gt, walk]

theorem lookUp_eq_ok (found : tree.lookUp path = .ok location) :
    path.utf8ByteSize ≤ pathLimit ∧
      (pieces path).foldlM tree.step (tree.start path) = .ok location := by
  rw [lookUp] at found
  split_ifs at found with zero blank long
  exact ⟨Nat.not_lt.mp long, found⟩

/-- A path leads to one place, however it is resolved. -/
theorem eq_of_lookUp {other : Location}
    (found : tree.lookUp path = .ok location)
    (located : tree.locate path = .ok other) : location = other := by
  have again := lookUp_of_locate located (lookUp_eq_ok found).1
  exact Except.ok.inj (found.symm.trans again)

/-- A name takes no more octets than its spelling in a path from the root. -/
theorem spelledLength_le (location : Location) (piece : String)
    (rest : List String) :
    spelledLength location piece rest ≤
      octets location + octets (piece :: rest) := by
  have behind : (if needsDirectory rest then 1 else 0) ≤ octets rest := by
    cases rest with
    | nil => exact Nat.le_refl 0
    | cons next rest =>
        rw [octets_cons]
        split <;> omega
  rw [spelledLength, utf8ByteSize_path (by simp), octets_append,
    octets_cons, octets_cons, octets_nil]
  omega

/-- A step makes a location longer by the piece at most. -/
theorem octets_step_le {next : Location}
    (entered : tree.step location piece = .ok next) :
    octets next ≤ octets location + (piece.utf8ByteSize + 1) := by
  unfold step at entered
  dsimp only at entered
  split_ifs at entered
  · cases entered
    exact Nat.le_add_right _ _
  · cases entered
    exact (octets_dropLast_le location).trans (Nat.le_add_right _ _)
  · cases entered
    rw [octets_append, octets_cons, octets_nil, Nat.add_zero]

/-- Names are spelled out as long as there is room for all of the pieces. -/
theorem spellOut_eq_foldlM {pieces : List String}
    (room : octets location + octets pieces ≤ pathLimit) :
    tree.spellOut location pieces = pieces.foldlM tree.step location := by
  induction pieces generalizing location with
  | nil => rfl
  | cons piece rest induction =>
      rw [spellOut_cons fun _ =>
        (spelledLength_le location piece rest).trans room, List.foldlM_cons]
      cases entered : tree.step location piece with
      | error cause => rfl
      | ok next =>
          apply induction
          have further := octets_step_le entered
          rw [octets_cons] at room
          omega

/-- From the root, looking a path up and locating it are the same. -/
theorem locate_eq_lookUp (rooted : isAbsolute path = true)
    (short : path.utf8ByteSize ≤ pathLimit) :
    tree.locate path = tree.lookUp path := by
  rw [locate, lookUp, if_neg short.not_gt]
  split_ifs with zero blank
  · rfl
  · rfl
  have begins : tree.start path = [] := by rw [start, if_pos rooted]
  rcases exists_pieces_of_isAbsolute rooted with ⟨behind, cut⟩
  have long := octets_pieces path
  rw [cut, octets_cons] at long
  have first : tree.step [] "" = .ok [] := by
    rw [step, isDirectoryAt]
    simp
  rw [begins, cut, spellOut_cons fun named => absurd named (by decide),
    List.foldlM_cons, first]
  apply spellOut_eq_foldlM
  have none : "".utf8ByteSize = 0 := by decide
  rw [octets_nil]
  omega

end Tree

end Gatehouse.Files

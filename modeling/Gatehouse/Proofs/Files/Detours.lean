import Gatehouse.Proofs.Files.Spelling

/-!
# Dots that lead nowhere

A path may go through a dot or an empty piece any number of times without
leaving the directory.  Such pieces make the text of the path longer, and
with it what has to be looked up, but not the names that are spelled out
when the path is located.
-/

namespace Gatehouse.Files

namespace Tree

variable {tree : Tree} {location : Location}

/-- Dots that lead nowhere are passed over, however many they are. -/
theorem spellOut_dots (directory : tree.isDirectoryAt location = true)
    {dots : List String} (each : ∀ piece ∈ dots, piece = "" ∨ piece = ".")
    (rest : List String) :
    tree.spellOut location (dots ++ rest) = tree.spellOut location rest := by
  induction dots with
  | nil => rfl
  | cons piece dots induction =>
      rw [List.forall_mem_cons] at each
      have idle : isDots piece = true := by
        rcases each.1 with rfl | rfl <;> decide
      have stays : tree.step location piece = .ok location := by
        rcases each.1 with rfl | rfl <;> simp [step, directory]
      rw [List.cons_append, spellOut_cons (by simp [idle]), stays]
      exact induction each.2

end Tree

/-- The name of a file, with dots in front of it that lead nowhere. -/
def detour (dots : Nat) : String :=
  "/".intercalate ("." :: "" :: List.replicate dots "." ++ ["b.yaml"])

theorem mem_dots {dots : Nat} {piece : String}
    (member : piece ∈ "." :: "" :: List.replicate dots ".") :
    piece = "" ∨ piece = "." := by
  simp only [List.mem_cons, List.mem_replicate] at member
  rcases member with rfl | rfl | ⟨_, rfl⟩ <;> simp

theorem pieces_detour (dots : Nat) :
    pieces (detour dots) =
      ("." :: "" :: List.replicate dots ".") ++ ["b.yaml"] := by
  have noSlash : ∀ piece ∈ "." :: "" :: List.replicate dots ".",
      '/' ∉ piece.toList := by
    intro piece member
    rcases mem_dots member with rfl | rfl <;> decide
  exact pieces_intercalate noSlash "b.yaml"

theorem octets_detour (dots : Nat) :
    octets (pieces (detour dots)) = 2 * dots + 10 := by
  have name : octets ["b.yaml"] = 7 := by decide
  have dot : ".".utf8ByteSize = 1 := by decide
  have none : "".utf8ByteSize = 0 := by decide
  rw [pieces_detour, octets_append, octets_cons, octets_cons,
    octets_replicate, name, dot, none]
  omega

theorem isAbsolute_detour (dots : Nat) : isAbsolute (detour dots) = false := by
  simp [detour, isAbsolute]

theorem utf8ByteSize_join_detour (dots : Nat) :
    (join "." (detour dots)).utf8ByteSize = 2 * dots + 11 := by
  have long := octets_pieces (join "." (detour dots))
  have dot : ".".utf8ByteSize = 1 := by decide
  rw [Tree.pieces_join_dot (isAbsolute_detour dots), octets_cons, dot,
    octets_detour] at long
  omega

end Gatehouse.Files

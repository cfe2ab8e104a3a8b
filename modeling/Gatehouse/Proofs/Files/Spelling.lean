import Gatehouse.Proofs.Files.Lengths
import Mathlib.Tactic.MkIffOfInductiveProp

/-!
# Two spellings of a path

A path that begins in the current directory can be spelled from a dot or
from the root.  Both spellings lead to the same place, since the names on
the way from the root lead to the current directory and a dot stays there.
Only their lengths differ, so the longer one may be too long to be looked up
while the shorter one is not.
-/

namespace Gatehouse.Files

/-- A name that a file or a directory can have. -/
@[mk_iff]
structure IsName (name : String) : Prop where
  notEmpty : name ≠ ""
  notDot : name ≠ "."
  notDots : name ≠ ".."
  noSlash : '/' ∉ name.toList
  noZero : '\x00' ∉ name.toList
  short : name.utf8ByteSize ≤ Tree.nameLimit

instance (name : String) : Decidable (IsName name) :=
  decidable_of_iff _ (isName_iff name).symm

/-! ## How the spellings are made up -/

section Spelling

variable {current : Location} {path : String}

theorem join_dot (relative : isAbsolute path = false) :
    join "." path = "." ++ "/" ++ path := by
  rw [join, relative, if_neg (by decide), if_neg (by decide)]

/-- The path of a directory other than the root ends with its name. -/
theorem getLast?_path (names : ∀ name ∈ current, IsName name)
    (below : current ≠ []) :
    (Location.path current).toList.getLast? ≠ some '/' := by
  rcases List.eq_nil_or_concat current with rfl | ⟨above, last, rfl⟩
  · exact (below rfl).elim
  rw [List.concat_eq_append] at names ⊢
  have isName := names last (by simp)
  have ending : ∃ front, Location.path (above ++ [last]) = front ++ last := by
    cases above with
    | nil => exact ⟨"/", by simp [Location.path]⟩
    | cons name above =>
        refine ⟨"/" ++ "/".intercalate (name :: above) ++ "/", ?_⟩
        rw [Location.path, String.intercalate_append_of_ne_nil (by simp)
          (by simp), String.intercalate_singleton]
        simp only [String.append_assoc]
  rcases ending with ⟨front, shape⟩
  have filled : last.toList ≠ [] := by
    simpa using isName.notEmpty
  rw [shape, String.toList_append, List.getLast?_append,
    List.getLast?_eq_some_getLast filled, Option.some_or]
  rintro slash
  apply isName.noSlash
  rw [← Option.some.inj slash]
  exact List.getLast_mem filled

/-- From the root, a path is spelled with all names on the way. -/
theorem join_root (names : ∀ name ∈ current, IsName name)
    (relative : isAbsolute path = false) :
    join (Location.path current) path =
      "/" ++ "/".intercalate (current ++ [path]) := by
  have filled : (Location.path current).isEmpty = false := by
    simp [Location.path]
  rw [join, relative, filled, if_neg (by decide)]
  by_cases root : current = []
  · subst root
    rfl
  · have noSlash := getLast?_path names root
    rw [if_neg (by simpa using noSlash), Location.path,
      String.intercalate_append_of_ne_nil root (by simp),
      String.intercalate_singleton]
    simp only [String.append_assoc]

/-- The part in front of a slash is the first piece of a path. -/
theorem pieces_append {name : String} (noSlash : '/' ∉ name.toList)
    (path : String) :
    pieces (name ++ "/" ++ path) = name :: pieces path := by
  have split : (name ++ "/" ++ path).toList.splitOn '/' =
      name.toList :: path.toList.splitOn '/' := by
    rw [Text.splitOn_eq_iff]
    refine ⟨List.cons_ne_nil _ _, ?_, ?_⟩
    · rw [List.forall_mem_cons]
      exact ⟨noSlash, fun part => Text.not_mem_of_mem_splitOn⟩
    · rw [List.intercalate_cons_of_ne_nil (List.splitOn_ne_nil _ _),
        List.intercalate_splitOn]
      simp
  rw [pieces, Text.pieces, split, List.map_cons, String.ofList_toList]
  rfl

/-- A path that begins at the root has an empty first piece. -/
theorem pieces_rooted (path : String) :
    pieces ("/" ++ path) = "" :: pieces path := by
  have cut := @pieces_append "" (by simp) path
  rwa [String.empty_append] at cut

theorem pieces_intercalate {names : List String}
    (noSlash : ∀ name ∈ names, '/' ∉ name.toList) (path : String) :
    pieces ("/".intercalate (names ++ [path])) = names ++ pieces path := by
  induction names with
  | nil => rw [List.nil_append, String.intercalate_singleton]; rfl
  | cons name rest induction =>
      rw [List.forall_mem_cons] at noSlash
      rw [List.cons_append, String.intercalate_cons_of_ne_nil (by simp),
        pieces_append noSlash.1, induction noSlash.2]
      rfl

/-- Joined names hold what the names hold, and slashes. -/
theorem mem_intercalate {names : List String} {character : Char}
    (notSlash : character ≠ '/') :
    character ∈ ("/".intercalate names).toList ↔
      ∃ name ∈ names, character ∈ name.toList := by
  induction names with
  | nil => simp
  | cons name rest induction =>
      by_cases last : rest = []
      · subst last
        simp
      · rw [String.intercalate_cons_of_ne_nil last, String.toList_append,
          String.toList_append, List.mem_append, List.mem_append, induction,
          List.exists_mem_cons_iff]
        simp [notSlash]

/-- Joined names hold no zero if the names hold none. -/
theorem zero_mem_intercalate {names : List String}
    (noZero : ∀ name ∈ names, '\x00' ∉ name.toList) (path : String) :
    '\x00' ∈ ("/".intercalate (names ++ [path])).toList ↔
      '\x00' ∈ path.toList := by
  rw [mem_intercalate (by decide)]
  constructor
  · rintro ⟨name, member, zero⟩
    rcases List.mem_append.mp member with inside | last
    · exact (noZero name inside zero).elim
    · exact List.mem_singleton.mp last ▸ zero
  · exact fun zero => ⟨path, by simp, zero⟩

end Spelling

/-! ## Where the spellings lead -/

namespace Tree

variable {tree : Tree}

/-- Whatever lies on the way to the current directory is a directory. -/
theorem isDirectoryAt_of_prefix {above : Location}
    (leads : above <+: tree.current) : tree.isDirectoryAt above = true := by
  rw [isDirectoryAt, List.isPrefixOf_iff_prefix.mpr leads, Bool.or_true]

/-- The names on the way to the current directory lead there. -/
theorem foldlM_current {above behind : Location}
    (names : ∀ name ∈ behind, IsName name)
    (leads : above ++ behind = tree.current) :
    behind.foldlM tree.step above = .ok tree.current := by
  induction behind generalizing above with
  | nil =>
      rw [List.append_nil] at leads
      rw [leads]
      rfl
  | cons name rest induction =>
      rw [List.forall_mem_cons] at names
      have next : (above ++ [name]) ++ rest = tree.current := by
        rw [← leads, List.append_assoc, List.singleton_append]
      have step : tree.step above name = .ok (above ++ [name]) := by
        have here := isDirectoryAt_of_prefix ⟨_, leads⟩
        have there := isDirectoryAt_of_prefix ⟨_, next⟩
        have short := names.1.short
        have notEmpty := names.1.notEmpty
        have notDot := names.1.notDot
        have notDots := names.1.notDots
        simp [Tree.step, here, there, notEmpty, notDot, notDots,
          Nat.not_lt.mpr short]
      rw [List.foldlM_cons, step]
      exact induction names.2 next

/-! ## Both spellings -/

section Join

variable {path : String} (names : ∀ name ∈ tree.current, IsName name)

theorem step_dot : tree.step tree.current "." = .ok tree.current := by
  rw [step, isDirectoryAt_of_prefix (List.prefix_refl _)]
  rfl

/-- Spelled from a dot, a path begins in the current directory. -/
theorem start_join_dot (relative : isAbsolute path = false) :
    tree.start (join "." path) = tree.current := by
  rw [join_dot relative, start, if_neg]
  simp [isAbsolute]

theorem pieces_join_dot (relative : isAbsolute path = false) :
    pieces (join "." path) = "." :: pieces path := by
  rw [join_dot relative, pieces_append (by decide)]

theorem foldlM_join_dot (relative : isAbsolute path = false) :
    (pieces (join "." path)).foldlM tree.step (tree.start (join "." path)) =
      (pieces path).foldlM tree.step tree.current := by
  rw [start_join_dot relative, pieces_join_dot relative, List.foldlM_cons,
    step_dot]
  rfl

theorem isEmpty_join_dot (relative : isAbsolute path = false) :
    (join "." path).isEmpty = false := by
  rw [join_dot relative]
  simp

include names

/-- From the root, the walk leads through the current directory. -/
theorem foldlM_join_root (relative : isAbsolute path = false) :
    (pieces (join (Location.path tree.current) path)).foldlM tree.step
        (tree.start (join (Location.path tree.current) path)) =
      (pieces path).foldlM tree.step tree.current := by
  have root : tree.step [] "" = .ok [] := by
    rw [step, isDirectoryAt_of_prefix List.nil_prefix]
    rfl
  rw [start, if_pos (isAbsolute_join (isAbsolute_path _) path),
    join_root names relative, pieces_rooted,
    pieces_intercalate fun name member => (names name member).noSlash,
    List.foldlM_cons, root]
  show (tree.current ++ pieces path).foldlM tree.step [] = _
  rw [List.foldlM_append, foldlM_current names (List.nil_append _)]
  rfl

theorem isEmpty_join_root (relative : isAbsolute path = false) :
    (join (Location.path tree.current) path).isEmpty = false := by
  rw [join_root names relative]
  simp

/-- Both spellings hold the same zeros. -/
theorem zero_mem_join_iff (relative : isAbsolute path = false) :
    '\x00' ∈ (join "." path).toList ↔
      '\x00' ∈ (join (Location.path tree.current) path).toList := by
  have zeros := zero_mem_intercalate
    (fun name member => (names name member).noZero) path
  rw [join_dot relative, join_root names relative]
  simp only [String.toList_append, List.mem_append, zeros]
  simp

/-- From the root, a path is longer by the names on the way. -/
theorem utf8ByteSize_join_root (relative : isAbsolute path = false) :
    (join (Location.path tree.current) path).utf8ByteSize =
      octets tree.current + octets (pieces path) := by
  have whole := @utf8ByteSize_path (tree.current ++ [path]) (by simp)
  rw [Location.path, octets_append, octets_cons, octets_nil] at whole
  rw [join_root names relative, whole, octets_pieces]

/--
Both spellings lead to the same place, unless only one of them is too long.
-/
theorem lookUp_join_eq
    (fits : pathLimit < (join "." path).utf8ByteSize ↔
      pathLimit < (join (Location.path tree.current) path).utf8ByteSize) :
    tree.lookUp (join "." path) =
      tree.lookUp (join (Location.path tree.current) path) := by
  cases relative : isAbsolute path with
  | true => simp only [join, relative, Bool.true_or, if_true]
  | false =>
      simp only [lookUp, List.contains_iff_mem,
        zero_mem_join_iff names relative, isEmpty_join_dot relative,
        isEmpty_join_root names relative, fits, foldlM_join_dot relative,
        foldlM_join_root names relative]

/-- Spellings that are short enough stand for the same location. -/
theorem locate_join_eq
    (shortDot : (join "." path).utf8ByteSize ≤ pathLimit)
    (shortRoot :
      (join (Location.path tree.current) path).utf8ByteSize ≤ pathLimit) :
    tree.locate (join "." path) =
      tree.locate (join (Location.path tree.current) path) := by
  have fits := iff_of_false shortDot.not_gt shortRoot.not_gt
  have rooted := isAbsolute_join (isAbsolute_path tree.current) path
  rw [locate_eq_lookUp rooted shortRoot, ← lookUp_join_eq names fits]
  cases relative : isAbsolute path with
  | true =>
      have same : join "." path = path := by
        rw [join, relative, Bool.true_or, if_pos rfl]
      rw [same] at shortDot ⊢
      exact locate_eq_lookUp relative shortDot
  | false =>
      rw [utf8ByteSize_join_root names relative] at shortRoot
      rw [locate, lookUp, if_neg shortDot.not_gt, foldlM_join_dot relative,
        start_join_dot relative, pieces_join_dot relative,
        spellOut_cons fun named => absurd named (by decide), step_dot,
        ← spellOut_eq_foldlM shortRoot]
      rfl

/-- The spellings cannot stand for two locations. -/
theorem eq_of_locate_join {location other : Location}
    (fromDot : tree.locate (join "." path) = .ok location)
    (fromRoot :
      tree.locate (join (Location.path tree.current) path) = .ok other) :
    location = other := by
  cases relative : isAbsolute path with
  | true =>
      simp only [join, relative, Bool.true_or, if_true] at fromDot fromRoot
      exact Except.ok.inj (fromDot.symm.trans fromRoot)
  | false =>
      have walkDot := foldlM_of_locate fromDot
      have walkRoot := foldlM_of_locate fromRoot
      rw [foldlM_join_dot relative] at walkDot
      rw [foldlM_join_root names relative] at walkRoot
      exact Except.ok.inj (walkDot.symm.trans walkRoot)

end Join

end Tree

end Gatehouse.Files

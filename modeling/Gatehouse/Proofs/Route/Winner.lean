import Gatehouse.Proofs.Route.Compile
import Mathlib.Data.List.Pairwise
import Mathlib.Data.Prod.Lex

/-!
# The entry that wins

Entries that match one path and one method at equal rank are for the same
slot: two exact patterns mean the same normalized path, and two starts of
one path that are equally long are the same start.  In an accepted table the
slots differ, so ranks never tie, and the winner is the one entry of highest
rank wherever it was declared.
-/

namespace Gatehouse.Route

open Gatehouse.Http
open Gatehouse.Yaml

/-! ## Equal ranks -/

/-- The start of a text that is as long as the text is all of it. -/
theorem eq_of_isPrefix_of_size {start path : String}
    (begins : start.toList <+: path.toList)
    (size : start.utf8ByteSize = path.utf8ByteSize) : start = path := by
  rcases begins with ⟨rest, shape⟩
  have joined : start ++ String.ofList rest = path := by
    apply String.toList_injective
    rw [String.toList_append, String.toList_ofList, shape]
  have sizes := congrArg String.utf8ByteSize joined
  rw [String.utf8ByteSize_append] at sizes
  have nothing : String.ofList rest = "" := by
    rw [← String.utf8ByteSize_eq_zero_iff]
    omega
  rw [← joined, nothing, String.append_empty]

/-- Two starts of one path that are equally long are the same start. -/
theorem eq_of_isPrefix {first second path : String}
    (former : first.toList <+: path.toList)
    (latter : second.toList <+: path.toList)
    (size : first.utf8ByteSize = second.utf8ByteSize) :
    first = second := by
  rcases List.prefix_or_prefix_of_prefix former latter with
    begins | begins
  · exact eq_of_isPrefix_of_size begins size
  · exact (eq_of_isPrefix_of_size begins size.symm).symm

/-- Patterns that mean one path are the same if they rank the same. -/
theorem Pattern.eq_of_matches {first second : Pattern} {path : String}
    (former : first.matches path = true)
    (latter : second.matches path = true)
    (exact : first.isExact = second.isExact)
    (size : first.specificity = second.specificity) :
    first = second := by
  cases first with
  | exact start =>
      cases second with
      | exact other =>
          have named : normalized path = start := by
            simpa [Pattern.matches] using former
          have otherNamed : normalized path = other := by
            simpa [Pattern.matches] using latter
          rw [← named, ← otherNamed]
      | below other => cases exact
  | below start =>
      cases second with
      | exact other => cases exact
      | below other =>
          have begins : start.toList <+: path.toList := by
            simpa [Pattern.matches] using former
          have otherBegins : other.toList <+: path.toList := by
            simpa [Pattern.matches] using latter
          rw [eq_of_isPrefix begins otherBegins size]

/-- Two entries for one method are both for it alone or both for all. -/
theorem eq_of_all {first second : Option Method} {method : Method}
    (former : first.all (· == method) = true)
    (latter : second.all (· == method) = true)
    (same : first.isSome = second.isSome) : first = second := by
  cases first with
  | none =>
      cases second with
      | none => rfl
      | some other => cases same
  | some named =>
      cases second with
      | none => cases same
      | some other =>
          have equal : named = method := by simpa using former
          have otherEqual : other = method := by simpa using latter
          rw [equal, otherEqual]

/-- Entries that match alike at equal rank are for the same slot. -/
theorem TableEntry.sameSlot_of_rank {first second : TableEntry}
    {path : String} {method : Method}
    (former : first.matches path method = true)
    (latter : second.matches path method = true)
    (same : first.rank = second.rank) :
    first.sameSlot second = true := by
  simp only [TableEntry.matches, Bool.and_eq_true] at former latter
  simp only [rank, Rank.mk.injEq] at same
  rw [sameSlot_iff]
  exact ⟨Pattern.eq_of_matches former.1 latter.1 same.1 same.2.2,
    eq_of_all former.2 latter.2 same.2.1⟩

/-! ## The order of ranks -/

/-- The place of a rank in the lexicographic order of its three parts. -/
def Rank.weight (rank : Rank) : Bool ×ₗ Bool ×ₗ Nat :=
  toLex (rank.exact, toLex (rank.forMethod, rank.literal))

namespace Rank

theorem weight_injective : Function.Injective weight := by
  rintro ⟨exact, forMethod, literal⟩ ⟨other, otherMethod, size⟩ same
  simpa [weight] using same

/-- The comparison of ranks is the lexicographic one. -/
theorem atLeast_iff (left right : Rank) :
    left.atLeast right = true ↔ right.weight ≤ left.weight := by
  rcases left with ⟨exact, forMethod, literal⟩
  rcases right with ⟨other, otherMethod, size⟩
  simp only [weight, atLeast, Prod.Lex.toLex_le_toLex]
  cases exact <;> cases other <;> cases forMethod <;>
    cases otherMethod <;> simp

end Rank

namespace Table

/-! ## The winner -/

/--
An entry wins for a path and a method: it matches, and every other entry
that matches has a lower rank.
-/
structure Wins (table : Table) (path : String) (method : Method)
    (winner : TableEntry) : Prop where
  member : winner ∈ table.entries
  suits : winner.matches path method = true
  highest : ∀ entry ∈ table.entries, entry.matches path method = true →
    entry = winner ∨ entry.rank.weight < winner.rank.weight

theorem Wins.unique {table : Table} {path : String} {method : Method}
    {winner other : TableEntry} (wins : table.Wins path method winner)
    (alike : table.Wins path method other) : winner = other := by
  rcases wins.highest other alike.member alike.suits with same | lower
  · exact same.symm
  · rcases alike.highest winner wins.member wins.suits with same | higher
    · exact same
    · exact (lt_asymm lower higher).elim

/-- Who wins does not depend on the order of the entries. -/
theorem Wins.alike {table other : Table} {path : String}
    {method : Method} {winner : TableEntry} (alike : table.Alike other)
    (wins : table.Wins path method winner) :
    other.Wins path method winner where
  member := alike.entries.mem_iff.mp wins.member
  suits := wins.suits
  highest := fun entry member =>
    wins.highest entry (alike.entries.mem_iff.mpr member)

/-- Going through entries keeps one of highest rank. -/
theorem foldl_better (current : TableEntry) (entries : List TableEntry) :
    ∃ winner ∈ current :: entries,
      entries.foldl better (some current) = some winner ∧
      ∀ entry ∈ current :: entries,
        entry.rank.weight ≤ winner.rank.weight := by
  induction entries generalizing current with
  | nil =>
      refine ⟨current, List.mem_cons_self, rfl, ?_⟩
      intro entry member
      rw [List.mem_singleton.mp member]
  | cons next rest induction =>
      rw [List.foldl_cons]
      by_cases kept : current.rank.atLeast next.rank = true
      · have chosen : better (some current) next = some current :=
          if_pos kept
        rcases induction current with ⟨winner, member, found, highest⟩
        rw [chosen]
        refine ⟨winner, ?_, found, ?_⟩
        · rcases List.mem_cons.mp member with rfl | later
          · exact List.mem_cons_self
          · exact List.mem_cons_of_mem _ (List.mem_cons_of_mem _ later)
        · rw [List.forall_mem_cons] at highest ⊢
          rw [List.forall_mem_cons]
          exact ⟨highest.1,
            ((Rank.atLeast_iff _ _).mp kept).trans highest.1, highest.2⟩
      · have chosen : better (some current) next = some next :=
          if_neg kept
        rcases induction next with ⟨winner, member, found, highest⟩
        rw [chosen]
        refine ⟨winner, List.mem_cons_of_mem _ member, found, ?_⟩
        have lower : current.rank.weight ≤ next.rank.weight := by
          rw [Rank.atLeast_iff, not_le] at kept
          exact kept.le
        rw [List.forall_mem_cons]
        exact ⟨lower.trans (highest next List.mem_cons_self), highest⟩

/-- The entries of a table that match are of different ranks. -/
theorem pairwise_rank_ne {table : Table} (apart : Apart table.entries)
    (path : String) (method : Method) :
    (table.entries.filter fun entry => entry.matches path method).Pairwise
      fun former latter => former.rank ≠ latter.rank := by
  refine (apart.sublist List.filter_sublist).imp_of_mem ?_
  intro former latter formerMember latterMember differs same
  rw [List.mem_filter] at formerMember latterMember
  rw [TableEntry.sameSlot_of_rank formerMember.2 latterMember.2 same]
    at differs
  cases differs

/-- At one rank only one entry of a table matches. -/
theorem eq_of_rank {table : Table} (apart : Apart table.entries)
    {path : String} {method : Method} {first second : TableEntry}
    (former : first ∈ table.entries)
    (formerSuits : first.matches path method = true)
    (latter : second ∈ table.entries)
    (latterSuits : second.matches path method = true)
    (same : first.rank = second.rank) : first = second := by
  have symmetric : Std.Symm fun former latter : TableEntry =>
      former.rank ≠ latter.rank := ⟨fun _ _ => Ne.symm⟩
  by_contra differs
  exact (pairwise_rank_ne apart path method).forall
    (List.mem_filter.mpr ⟨former, formerSuits⟩)
    (List.mem_filter.mpr ⟨latter, latterSuits⟩) differs same

/-- The search finds the winner whenever an entry matches. -/
theorem exists_wins {table : Table} (apart : Apart table.entries)
    {path : String} {method : Method} {entry : TableEntry}
    (member : entry ∈ table.entries)
    (suits : entry.matches path method = true) :
    ∃ winner, table.Wins path method winner ∧
      table.winner? path method = some winner := by
  have matching : entry ∈
      table.entries.filter fun entry => entry.matches path method :=
    List.mem_filter.mpr ⟨member, suits⟩
  have listed : ∀ held, held ∈
      (table.entries.filter fun entry => entry.matches path method) ↔
      held ∈ table.entries ∧ held.matches path method = true :=
    fun held => List.mem_filter
  rw [winner?]
  generalize table.entries.filter
    (fun entry => entry.matches path method) = entries
    at matching listed ⊢
  cases entries with
  | nil => cases matching
  | cons first rest =>
      rcases foldl_better first rest with ⟨winner, among, found, highest⟩
      rcases (listed winner).mp among with ⟨held, winnerSuits⟩
      refine ⟨winner, ⟨held, winnerSuits, ?_⟩, found⟩
      intro other otherMember otherSuits
      have otherAmong := (listed other).mpr ⟨otherMember, otherSuits⟩
      by_cases same : other = winner
      · exact .inl same
      -- At equal rank both entries would be for one slot.
      · refine .inr (lt_of_le_of_ne (highest other otherAmong) ?_)
        intro equal
        exact same (eq_of_rank apart otherMember otherSuits held
          winnerSuits (Rank.weight_injective equal))

theorem winner?_eq_none_iff {table : Table} {path : String}
    {method : Method} :
    table.winner? path method = none ↔
      ∀ entry ∈ table.entries, ¬ entry.matches path method = true := by
  rw [← List.filter_eq_nil_iff]
  rw [winner?]
  generalize table.entries.filter
    (fun entry => entry.matches path method) = entries
  cases entries with
  | nil => simp
  | cons first rest =>
      rcases foldl_better first rest with ⟨winner, _, found, _⟩
      constructor
      · intro nothing
        cases found.symm.trans nothing
      · intro impossible
        cases impossible

/-- The search finds exactly the entry that wins. -/
theorem winner?_eq_some_iff {table : Table} (apart : Apart table.entries)
    {path : String} {method : Method} {winner : TableEntry} :
    table.winner? path method = some winner ↔
      table.Wins path method winner := by
  constructor
  · intro found
    have suitable : ∃ entry ∈ table.entries,
        entry.matches path method = true := by
      by_contra nothing
      push Not at nothing
      have absent := winner?_eq_none_iff.mpr nothing
      cases found.symm.trans absent
    rcases suitable with ⟨entry, member, suits⟩
    rcases exists_wins apart member suits with ⟨best, wins, chosen⟩
    obtain rfl := Option.some.inj (found.symm.trans chosen)
    exact wins
  · intro wins
    rcases exists_wins apart wins.member wins.suits with
      ⟨best, bestWins, chosen⟩
    rw [chosen, wins.unique bestWins]

/-! ## What a route resolves to -/

/-- A route resolves alike in tables that are alike. -/
theorem resolve_alike {table other : Table} (alike : table.Alike other)
    (apart : Apart table.entries) (path : String) (method : Method) :
    table.resolve path method = other.resolve path method := by
  have otherApart := (apart_perm alike.entries).mp apart
  have reversed : other.Alike table :=
    ⟨alike.defaults.symm, alike.entries.symm⟩
  have same : table.winner? path method = other.winner? path method := by
    apply Option.ext
    intro winner
    rw [winner?_eq_some_iff apart, winner?_eq_some_iff otherApart]
    exact ⟨Wins.alike alike, Wins.alike reversed⟩
  simp only [resolve]
  rw [same, alike.defaults]

/--
In every accepted table the entries that match a path and a method are of
different ranks, and a route resolves to the one of highest rank; so the
order in which patterns are declared decides neither whether the table is
accepted nor what any route resolves to.
-/
theorem resolve_exact :
    (∀ routes table, ofValue routes = .ok table → ∀ path method,
      ((table.entries.filter fun entry =>
        entry.matches path method).Pairwise
          fun former latter => former.rank ≠ latter.rank) ∧
      ((∃ entry ∈ table.entries, entry.matches path method = true) →
        ∃ winner, table.Wins path method winner ∧
          table.resolve path method =
            ⟨Mapping.overlay table.defaults winner.values,
              some ⟨winner.pattern.text, winner.method⟩⟩) ∧
      ((∀ entry ∈ table.entries, ¬ entry.matches path method = true) →
        table.resolve path method = ⟨table.defaults, none⟩)) ∧
    ∀ (front back blocks others : Mapping) (name : Value),
      name.label? = some "patterns" → blocks.Perm others →
      ((∃ table, ofValue (some (.mapping
          (front ++ (name, .mapping blocks) :: back))) = .ok table) ↔
        ∃ other, ofValue (some (.mapping
          (front ++ (name, .mapping others) :: back))) = .ok other) ∧
      ∀ table other,
        ofValue (some (.mapping
          (front ++ (name, .mapping blocks) :: back))) = .ok table →
        ofValue (some (.mapping
          (front ++ (name, .mapping others) :: back))) = .ok other →
        ∀ path method,
          table.resolve path method = other.resolve path method := by
  constructor
  · intro routes table accepted path method
    have apart := ofValue_apart accepted
    refine ⟨pairwise_rank_ne apart path method, ?_, ?_⟩
    · rintro ⟨entry, member, suits⟩
      rcases exists_wins apart member suits with ⟨winner, wins, chosen⟩
      refine ⟨winner, wins, ?_⟩
      rw [resolve]
      rw [chosen]
    · intro nothing
      rw [resolve]
      rw [winner?_eq_none_iff.mpr nothing]
  · intro front back blocks others name labelled reordered
    constructor
    · constructor
      · rintro ⟨table, accepted⟩
        rcases ofValue_perm labelled reordered accepted with
          ⟨other, otherAccepted, _⟩
        exact ⟨other, otherAccepted⟩
      · rintro ⟨other, otherAccepted⟩
        rcases ofValue_perm labelled reordered.symm otherAccepted with
          ⟨table, accepted, _⟩
        exact ⟨table, accepted⟩
    · intro table other accepted otherAccepted path method
      rcases ofValue_perm labelled reordered accepted with
        ⟨found, foundAccepted, alike⟩
      obtain rfl := Except.ok.inj (foundAccepted.symm.trans otherAccepted)
      exact resolve_alike alike (ofValue_apart accepted) path method

/-- A wildcard and a path below it, declared in either order. -/
theorem resolve_either_order :
    ∃ table other,
      ofValue (some (.mapping [(.string "patterns", .mapping
        [(.string "/api/*", .mapping [(.string "csrf", .bool false)]),
          (.string "/api/users", .null)])])) = .ok table ∧
      ofValue (some (.mapping [(.string "patterns", .mapping
        [(.string "/api/users", .null),
          (.string "/api/*", .mapping [(.string "csrf", .bool false)])])])) =
        .ok other ∧
      table.resolve "/api/users" .get = other.resolve "/api/users" .get := by
  have orders := resolve_exact.2 [] []
    [(.string "/api/*", .mapping [(.string "csrf", .bool false)]),
      (.string "/api/users", .null)]
    [(.string "/api/users", .null),
      (.string "/api/*", .mapping [(.string "csrf", .bool false)])]
    (.string "patterns") rfl (.swap _ _ _)
  have declared : ∃ table, ofValue (some (.mapping [(.string "patterns",
      .mapping [(.string "/api/*", .mapping [(.string "csrf", .bool false)]),
        (.string "/api/users", .null)])])) = .ok table := ⟨_, rfl⟩
  rcases declared with ⟨table, accepted⟩
  rcases orders.1.mp ⟨table, accepted⟩ with ⟨other, otherAccepted⟩
  exact ⟨table, other, accepted, otherAccepted,
    orders.2 table other accepted otherAccepted "/api/users" .get⟩

end Table

end Gatehouse.Route

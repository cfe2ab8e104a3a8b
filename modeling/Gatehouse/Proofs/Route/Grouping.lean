import Gatehouse.Proofs.Route.Layers
import Gatehouse.Proofs.Yaml.Merging

/-!
# Settings are the same however they are merged

The settings of a route are merged in steps: the section of a method over
the rest of its block, the block over the defaults, and what a route says of
an extension over the section of that extension.  Main statement: mappings
that name no key twice form a monoid under laying over, with the order of
their keys, so each of these merges gives the same mapping whichever two of
its parts are merged first.
-/

namespace Gatehouse.Route

open Gatehouse.Http
open Gatehouse.Yaml
open Gatehouse.Yaml.Mapping

/-! ## Merges in any grouping -/

/-- A way to merge parts that stand in a row, two neighbours at a time. -/
inductive Grouping (Part : Type) where
  | one (part : Part)
  | both (lower upper : Grouping Part)

namespace Grouping

variable {Part : Type}

/-- The parts in order. -/
def parts : Grouping Part → List Part
  | one part => [part]
  | both lower upper => lower.parts ++ upper.parts

/-- What comes of the merges. -/
def merge (join : Part → Part → Part) : Grouping Part → Part
  | one part => part
  | both lower upper => join (lower.merge join) (upper.merge join)

theorem exists_parts_eq_cons (grouping : Grouping Part) :
    ∃ first rest, grouping.parts = first :: rest := by
  induction grouping with
  | one part => exact ⟨part, [], rfl⟩
  | both lower upper below _ =>
      rcases below with ⟨first, rest, shape⟩
      exact ⟨first, rest ++ upper.parts, by rw [parts, shape]; rfl⟩

section Laws

variable {join : Part → Part → Part} {Sound : Part → Prop}
  (closed : ∀ lower upper, Sound lower → Sound upper →
    Sound (join lower upper))
  (assoc : ∀ lower middle upper, Sound lower → Sound middle → Sound upper →
    join (join lower middle) upper = join lower (join middle upper))
include closed

theorem sound_merge {grouping : Grouping Part}
    (each : ∀ part ∈ grouping.parts, Sound part) :
    Sound (grouping.merge join) := by
  induction grouping with
  | one part => exact each part (List.mem_singleton_self part)
  | both lower upper below above =>
      rw [parts, List.forall_mem_append] at each
      exact closed _ _ (below each.1) (above each.2)

include assoc

/-- What is merged first can be merged last. -/
theorem join_foldl {lower first : Part} {rest : List Part}
    (sound : Sound lower) (each : ∀ part ∈ first :: rest, Sound part) :
    join lower (rest.foldl join first) =
      rest.foldl join (join lower first) := by
  induction rest generalizing first with
  | nil => rfl
  | cons next rest induction =>
      rw [List.forall_mem_cons, List.forall_mem_cons] at each
      rcases each with ⟨own, beside, others⟩
      rw [List.foldl_cons, List.foldl_cons, induction,
        assoc lower first next sound own beside]
      rw [List.forall_mem_cons]
      exact ⟨closed first next own beside, others⟩

/-- Any grouping gives what merging from the first part on gives. -/
theorem merge_eq_foldl {grouping : Grouping Part} {first : Part}
    {rest : List Part} (shape : grouping.parts = first :: rest)
    (each : ∀ part ∈ grouping.parts, Sound part) :
    grouping.merge join = rest.foldl join first := by
  induction grouping generalizing first rest with
  | one part =>
      cases shape
      rfl
  | both lower upper below above =>
      rcases lower.exists_parts_eq_cons with ⟨lowest, others, lowerShape⟩
      rcases upper.exists_parts_eq_cons with ⟨next, remaining, upperShape⟩
      rw [parts, List.forall_mem_append] at each
      rw [parts, lowerShape, upperShape, List.cons_append,
        List.cons.injEq] at shape
      rcases shape with ⟨rfl, rfl⟩
      have sound := sound_merge closed each.1
      rw [merge, above upperShape each.2, List.foldl_append,
        ← below lowerShape each.1, List.foldl_cons]
      exact join_foldl closed assoc sound (upperShape ▸ each.2)

/-- Groupings of the same parts give the same. -/
theorem merge_eq_of_parts {grouping other : Grouping Part}
    (same : grouping.parts = other.parts)
    (each : ∀ part ∈ grouping.parts, Sound part) :
    grouping.merge join = other.merge join := by
  rcases grouping.exists_parts_eq_cons with ⟨first, rest, shape⟩
  rw [merge_eq_foldl closed assoc shape each,
    merge_eq_foldl closed assoc (same ▸ shape) (same ▸ each)]

end Laws

end Grouping

/-! ## The settings of a route -/

open Table (mappingOf defaultsOf patternsOf sharedOf sectionOf? ofValue
  Prevails)

/-- What a route resolves to is the topmost of three layers. -/
theorem values_resolve {routes : Option Value} {table : Table}
    {path : String} {method : Method} {pattern : Pattern} {block : Mapping}
    (accepted : ofValue routes = .ok table)
    (prevails : Prevails (patternsOf routes) path method pattern block) :
    (table.resolve path method).values =
      overlay (defaultsOf routes)
        (overlay (overlay [] (sharedOf block))
          ((sectionOf? block method).getD [])) := by
  rw [prevails.resolve accepted, Table.entryFor]
  cases sectionOf? block method <;> rfl

/-! ## The settings of an extension -/

theorem mergeSettings_eq (base : Value) (route : Option Value) :
    mergeSettings base route =
      overlay (mappingOf base) (mappingOf (route.getD .null)) := by
  cases route with
  | none => cases base <;> rfl
  | some value => cases value <;> cases base <;> rfl

/-- Settings, if there are any, with other ones merged over them. -/
def mergeOver (base route : Option Value) : Option Value :=
  some (.mapping (mergeSettings (base.getD .null) route))

/-- Settings name no key twice, if they are a mapping. -/
def Orderly (settings : Option Value) : Prop :=
  Distinct (mappingOf (settings.getD .null))

theorem mergeOver_eq (base route : Option Value) :
    mergeOver base route =
      some (.mapping (overlay (mappingOf (base.getD .null))
        (mappingOf (route.getD .null)))) := by
  rw [mergeOver, mergeSettings_eq]

theorem Orderly.mergeOver {base route : Option Value}
    (orderly : Orderly base) : Orderly (mergeOver base route) := by
  rw [mergeOver_eq]
  exact Distinct.overlay orderly _

theorem mergeOver_assoc {base route further : Option Value}
    (orderly : Orderly route) :
    mergeOver (mergeOver base route) further =
      mergeOver base (mergeOver route further) := by
  rw [mergeOver_eq, mergeOver_eq, mergeOver_eq, mergeOver_eq]
  exact congrArg (fun entries => some (Value.mapping entries))
    (overlay_assoc orderly)

/--
Mappings that name no key twice are a monoid under laying over, and so are
their orders: what is laid over supplies the values of its keys, the keys
below keep their places, and new ones follow in their order.  Therefore the
settings of a route and those of an extension are the same however the
merges are grouped that they come from.
-/
theorem overlay_laws :
    (∀ lower middle upper : Mapping,
      Distinct lower → Distinct middle → Distinct upper →
      overlay (overlay lower middle) upper =
        overlay lower (overlay middle upper)) ∧
    (∀ entries : Mapping, Distinct entries →
      overlay [] entries = entries ∧ overlay entries [] = entries ∧
        overlay entries entries = entries) ∧
    (∀ lower upper : Mapping, Distinct lower → Distinct upper →
      Distinct (overlay lower upper) ∧
      overlay (overlay lower upper) upper = overlay lower upper ∧
      (∀ key value, find? upper key = some value →
        find? (overlay lower upper) key = some value) ∧
      overlay lower upper =
        lower.map (replaced upper) ++ added lower upper) ∧
    (∀ grouping other : Grouping Mapping, grouping.parts = other.parts →
      (∀ part ∈ grouping.parts, Distinct part) →
      grouping.merge overlay = other.merge overlay) ∧
    (∀ routes table, ofValue routes = .ok table →
      ∀ path method pattern block,
        Prevails (patternsOf routes) path method pattern block →
        let shared := overlay [] (sharedOf block)
        let own := (sectionOf? block method).getD []
        (table.resolve path method).values =
            overlay (defaultsOf routes) (overlay shared own) ∧
          (table.resolve path method).values =
            overlay (overlay (defaultsOf routes) shared) own) ∧
    ∀ grouping other : Grouping (Option Value),
      grouping.parts = other.parts →
      (∀ part ∈ grouping.parts, Orderly part) →
      grouping.merge mergeOver = other.merge mergeOver := by
  refine ⟨?assoc, ?neutral, ?layered, ?grouped, ?resolved, ?merged⟩
  case assoc => exact fun _ _ _ _ distinct _ => overlay_assoc distinct
  case neutral =>
    exact fun entries distinct =>
      ⟨overlay_nil_left distinct, overlay_nil entries, overlay_self distinct⟩
  case layered =>
    intro lower upper distinct above
    refine ⟨distinct.overlay upper, ?_, ?_, overlay_eq distinct above⟩
    · rw [overlay_assoc above, overlay_self above]
    · intro key value found
      rw [find?_overlay, above.latest?_eq, found, Option.some_or]
  case grouped =>
    intro grouping other same each
    exact Grouping.merge_eq_of_parts
      (fun lower upper distinct _ => Distinct.overlay distinct upper)
      (fun _ _ _ _ distinct _ => overlay_assoc distinct) same each
  case resolved =>
    intro routes table accepted path method pattern block prevails
    have compiled : Distinct (overlay [] (sharedOf block)) :=
      Distinct.nil.overlay _
    refine ⟨values_resolve accepted prevails, ?_⟩
    rw [overlay_assoc compiled]
    exact values_resolve accepted prevails
  case merged =>
    intro grouping other same each
    exact Grouping.merge_eq_of_parts (fun _ _ orderly _ => orderly.mergeOver)
      (fun _ _ _ _ orderly _ => mergeOver_assoc orderly) same each

/-- Two settings of one key and one of another, merged from either end. -/
theorem overlay_laws_three :
    (∀ part ∈ ([[(.string "a", .int 1)],
        [(.string "b", .int 2), (.string "a", .int 3)],
        [(.string "b", .int 4)]] : List Mapping), Distinct part) ∧
      Grouping.merge overlay (.both (.one [(.string "a", .int 1)])
          (.both (.one [(.string "b", .int 2), (.string "a", .int 3)])
            (.one [(.string "b", .int 4)]))) =
        [(.string "a", .int 3), (.string "b", .int 4)] := by
  have each : ∀ part ∈ ([[(.string "a", .int 1)],
      [(.string "b", .int 2), (.string "a", .int 3)],
      [(.string "b", .int 4)]] : List Mapping), Distinct part := by
    unfold Distinct
    decide
  refine ⟨each, ?_⟩
  rcases overlay_laws with ⟨_, _, _, grouped, _⟩
  exact grouped _ (.both (.both (.one _) (.one _)) (.one _)) rfl each

end Gatehouse.Route

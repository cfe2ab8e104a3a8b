import Mathlib
import Gatehouse.Proofs.Config.Replaced

/-!
# What an override replaces does not matter

Two trees that differ only in values which an override replaces are told
apart by no load of that override.  The walk opens the same files in the
same order and reports the same events, the lower settings differ under
replaced keys only, and laying the override over them removes the
difference before any variable is filled in.
-/

namespace Gatehouse.Config

open Gatehouse.Files
open Gatehouse.Outcome
open Gatehouse.Yaml

/-! ## Walks that take the same way -/

/-- Two runs have the same outcome and leave the same walk. -/
inductive SameRun {First Second : Type}
    (related : First → Second → Prop) :
    Except Error First × Walk → Except Error Second × Walk → Prop where
  | refused (cause : Error) (walk : Walk) :
      SameRun related (.error cause, walk) (.error cause, walk)
  | given {result : First} {other : Second}
      (agree : related result other) (walk : Walk) :
      SameRun related (.ok result, walk) (.ok other, walk)

/-- Going to a file comes to the same in both worlds. -/
def TreesAlike (keys : String → Prop) (world other : World)
    (fuel : Nat) : Prop :=
  ∀ (opened : List Location) (path : String) (walk : Walk),
    SameRun (List.Forall₂ (Alike keys))
      (runFrom walk (gatherTree world fuel opened path))
      (runFrom walk (gatherTree other fuel opened path))

/-- Going through an include list comes to the same in both worlds. -/
def IncludesAlike (keys : String → Prop) (world other : World)
    (fuel : Nat) : Prop :=
  ∀ (opened : List Location) (origin : String) (paths : List String)
    (entries others : List Entry) (walk : Walk),
    List.Forall₂ (Alike keys) entries others →
    SameRun (List.Forall₂ (Alike keys))
      (runFrom walk (gatherIncludes world fuel opened origin entries paths))
      (runFrom walk (gatherIncludes other fuel opened origin others paths))

namespace DifferInReplaced

variable {path : String} {world other : World}

theorem visitFile (differ : DifferInReplaced path world other)
    {fuel : Nat} (includesAlike : ∀ left, fuel = left + 1 →
      IncludesAlike (world.Sets path) world other left)
    (opened : List Location) (name : String) (location : Location)
    (walk : Walk) :
    SameRun (List.Forall₂ (Alike (world.Sets path)))
      (runFrom walk (Config.visitFile world fuel opened name location))
      (runFrom walk (Config.visitFile other fuel opened name location)) := by
  rw [runFrom_visitFile, runFrom_visitFile]
  have same := differ.sourceAt_agree location name
  generalize Config.sourceAt world location name = source at same ⊢
  generalize Config.sourceAt other location name = otherSource at same ⊢
  cases same with
  | refused cause => exact .refused cause _
  | @given source otherSource agree =>
      have event : readEvent name source = readEvent name otherSource := by
        simp only [readEvent]
        rw [agree.includes]
      dsimp only
      rw [event, agree.includes]
      have named := ownEntries_alike name agree.own
      generalize ownEntries name source.own = own at named ⊢
      generalize ownEntries name otherSource.own = otherOwn at named ⊢
      cases named with
      | refused cause => exact .refused cause _
      | given alike =>
          cases fuel with
          | zero => exact .refused _ _
          | succ left => exact includesAlike left rfl _ _ _ _ _ _ alike

theorem gatherTree_alike (differ : DifferInReplaced path world other)
    {fuel : Nat} (includesAlike : ∀ left, fuel = left + 1 →
      IncludesAlike (world.Sets path) world other left) :
    TreesAlike (world.Sets path) world other fuel := by
  intro opened name walk
  cases located : world.tree.locate name with
  | error cause =>
      have otherLocated : other.tree.locate name = .error cause :=
        differ.locate ▸ located
      rw [gatherTree_unlocated located,
        gatherTree_unlocated otherLocated]
      exact .refused _ _
  | ok location =>
      have otherLocated : other.tree.locate name = .ok location :=
        differ.locate ▸ located
      by_cases isOpen : location ∈ opened
      · rw [gatherTree_opened located isOpen,
          gatherTree_opened otherLocated isOpen]
        exact .refused _ _
      by_cases merged : location ∈ walk.merged
      · rw [gatherTree_merged located isOpen merged,
          gatherTree_merged otherLocated isOpen merged]
        exact .given .nil _
      · rw [gatherTree_first located isOpen merged,
          gatherTree_first otherLocated isOpen merged]
        exact differ.visitFile includesAlike _ _ _ _

theorem gatherIncludes_alike_of_trees
    (differ : DifferInReplaced path world other) {fuel : Nat}
    (treesAlike : TreesAlike (world.Sets path) world other fuel) :
    IncludesAlike (world.Sets path) world other fuel := by
  intro opened origin paths
  induction paths with
  | nil =>
      intro entries others walk agree
      rw [gatherIncludes_nil, gatherIncludes_nil]
      exact .given agree _
  | cons name rest induction =>
      intro entries others walk agree
      cases present : world.tree.exists? name with
      | false =>
          have otherPresent : other.tree.exists? name = false :=
            differ.exists? ▸ present
          rw [gatherIncludes_missing present,
            gatherIncludes_missing otherPresent]
          exact .refused _ _
      | true =>
          have otherPresent : other.tree.exists? name = true :=
            differ.exists? ▸ present
          rw [gatherIncludes_cons present,
            gatherIncludes_cons otherPresent]
          have loaded := treesAlike opened name walk
          generalize runFrom walk (gatherTree world fuel opened name) = run
            at loaded ⊢
          generalize runFrom walk (gatherTree other fuel opened name) =
            otherRun at loaded ⊢
          cases loaded with
          | refused cause => exact .refused cause _
          | @given included otherIncluded alike =>
              dsimp only
              have joined := joinEntries_alike agree alike
              generalize joinEntries entries included = first at joined ⊢
              generalize joinEntries others otherIncluded = second at joined ⊢
              cases joined with
              | refused cause => exact .refused cause _
              | given joinedAlike => exact induction _ _ _ joinedAlike

/-- The whole walk comes to the same, however deep the includes go. -/
theorem gatherIncludes_alike (differ : DifferInReplaced path world other)
    (fuel : Nat) : IncludesAlike (world.Sets path) world other fuel := by
  apply fuel_induction
  intro fuel below
  exact differ.gatherIncludes_alike_of_trees (differ.gatherTree_alike below)

/-! ## The override comes to the same -/

/-- The override loads to the same in both worlds, with the same reports. -/
theorem loadOverride (differ : DifferInReplaced path world other)
    (base : Option String) (walk : Walk) :
    runFrom walk (Config.loadOverride world path base) =
      runFrom walk (Config.loadOverride other path base) := by
  rw [runFrom_loadOverride, runFrom_loadOverride, ← differ.locate,
    ← differ.overrideIncludes, ← differ.walkFuel]
  cases located : world.tree.locate path with
  | error cause => rfl
  | ok location =>
      dsimp only
      rw [← differ.sourceAt_override located]
      cases read : Config.sourceAt world location path with
      | error cause => rfl
      | ok source =>
          dsimp only
          have merged :=
            differ.gatherIncludes_alike (Config.walkFuel world) [location]
              path
              (Config.overrideIncludes world.tree source.includes base)
              [] [] (walk.enter location) .nil
          generalize gathered : runFrom (walk.enter location)
            (gatherIncludes world _ _ _ _ _) = run at merged ⊢
          generalize runFrom (walk.enter location)
            (gatherIncludes other _ _ _ _ _) = otherRun at merged ⊢
          cases merged with
          | refused cause => rfl
          | @given lower otherLower alike =>
              have ownDistinct := distinct_of_sourceAt read
              have nothing : (keysOf []).Nodup := List.nodup_nil
              have distinct := nodup_gatherIncludes nothing gathered
              have otherDistinct := distinct
              rw [keysOf_alike alike] at otherDistinct
              dsimp only
              rw [runFrom_layOver ownDistinct distinct,
                runFrom_layOver ownDistinct otherDistinct]
              cases named : ownEntries path source.own with
              | error cause => rfl
              | ok own =>
                  have covered : ∀ key, world.Sets path key →
                      key ∈ keysOf own :=
                    fun key => mem_keysOf_own located read named
                  dsimp only
                  rw [replaceEntries_alike
                      (nodup_keysOf_own ownDistinct named)
                      covered alike, replacementEvents_alike own alike,
                    finish, finish, Merged.finish, Merged.finish,
                    differ.lookup]

end DifferInReplaced

/--
An override that loads is laid over the strict merge of what it follows,
filled in afterwards; and no value that it replaces makes a difference to
what it loads to, to why it is refused, or to what is reported.
-/
theorem loadOverride_exact (world : World) (path : String)
    (base : Option String) :
    (∀ document,
      (runLoading (loadOverride world path base)).1 = .ok document →
      ∃ location settings listed includes lower,
        world.tree.locate path = .ok location ∧
        world.Holds location settings listed ∧
        BaseFirst world.tree base listed includes ∧
        StrictMerge world includes lower ∧
        LaidOver world.lookup path settings lower document) ∧
    ∀ other, DifferInReplaced path world other →
      runLoading (loadOverride world path base) =
        runLoading (loadOverride other path base) := by
  constructor
  · intro document loads
    rcases loadOverride_ok loads with
      ⟨location, settings, listed, lower, located, holds, merges, finished⟩
    refine ⟨location, settings, listed, _, lower, located, holds,
      baseFirst_overrideIncludes base ?_, merges,
      laidOver_of_finish holds.nodup finished⟩
    rcases merges with ⟨visits, _, unfolds, _⟩
    intro name member
    rcases unfolds.exists_visit
        (subset_overrideIncludes world.tree listed base member) with
      ⟨place, found, _⟩
    exact ⟨place, found⟩
  · intro other differ
    have same := differ.loadOverride base Walk.start
    unfold runFrom at same
    simp only [runLoading]
    rw [same]

/-- An override that sets `k`, and a file with some text that it includes. -/
def overriding (held : String) : World :=
  ⟨⟨[(["o"], .text "\x7b\"include\": \"b\", \"k\": \"v\"\x7d"),
    (["b"], .text held)], [], []⟩, fun _ => none⟩

theorem overriding_locate (held : String) :
    (overriding held).tree.locate "/o" = .ok ["o"] := rfl

theorem overriding_sets (held : String) :
    (overriding held).Sets "/o" "k" := by
  refine ⟨by decide, ["o"], _, [(.string "include", .string "b"),
    (.string "k", .string "v")], overriding_locate held, rfl,
    .mapping (by cbv), ?_⟩
  simp

theorem overriding_differ : DifferInReplaced "/o"
    (overriding "\x7b\"k\": \"$\x7bX\x7d\"\x7d")
    (overriding "\x7b\"k\": \"w\"\x7d") := by
  refine ⟨rfl, rfl, rfl, .cons ⟨rfl, .same _⟩ (.cons ⟨rfl, ?_⟩ .nil)⟩
  refine .replaced ?_ ⟨[(.string "k", .string "$\x7bX\x7d")],
    [(.string "k", .string "w")], .mapping (by cbv), .mapping (by cbv),
    .cons ⟨rfl, .inr ⟨"k", rfl, overriding_sets _⟩⟩ .nil⟩
  rw [overriding_locate]
  simp

/-- The variable of a replaced value need not be set. -/
theorem loadOverride_replaced_variable :
    DifferInReplaced "/o" (overriding "\x7b\"k\": \"$\x7bX\x7d\"\x7d")
        (overriding "\x7b\"k\": \"w\"\x7d") ∧
      runLoading (loadOverride
          (overriding "\x7b\"k\": \"$\x7bX\x7d\"\x7d") "/o" none) =
        runLoading (loadOverride
          (overriding "\x7b\"k\": \"w\"\x7d") "/o" none) :=
  ⟨overriding_differ,
    (loadOverride_exact _ "/o" none).2 _ overriding_differ⟩

end Gatehouse.Config

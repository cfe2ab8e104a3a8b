import Gatehouse.Proofs.Config.IncludeGraph
import Mathlib.Data.List.Nodup

/-!
# Visits in depth-first preorder

An include list unfolds into a list of visits: every file that it names,
each followed by all that the file includes in turn, as often as it is
reached.  Such an unfolding is finite exactly if no cycle is reached, and it
goes only through files whose includes exist.  Of the visits to one file
only the first counts.
-/

namespace Gatehouse.Config

open Gatehouse.Files
open Gatehouse.Yaml

/-- A visit to a file: the path that led to it, and what the file sets. -/
structure Visit where
  path : String
  location : Location
  settings : List (String × Value)

/-- The settings that a visit contributes, with its path as their origin. -/
def Visit.entries (visit : Visit) : List Entry :=
  fromSource visit.path visit.settings

/--
The visits to the files at some paths in depth-first preorder, repeated
visits included.
-/
inductive Visits (world : World) : List String → List Visit → Prop where
  | nil : Visits world [] []
  | cons {path : String} {location : Location}
      {settings : List (String × Value)} {includes rest : List String}
      {below behind : List Visit}
      (located : world.tree.locate path = .ok location)
      (opens : world.Opens location settings includes)
      (inner : Visits world includes below)
      (outer : Visits world rest behind) :
      Visits world (path :: rest)
        (⟨path, location, settings⟩ :: (below ++ behind))

/-- The locations that are visited. -/
def locationsOf (visits : List Visit) : List Location :=
  visits.map (·.location)

@[simp]
theorem locationsOf_nil : locationsOf [] = [] := rfl

@[simp]
theorem locationsOf_cons (visit : Visit) (visits : List Visit) :
    locationsOf (visit :: visits) =
      visit.location :: locationsOf visits := rfl

@[simp]
theorem locationsOf_append (former latter : List Visit) :
    locationsOf (former ++ latter) =
      locationsOf former ++ locationsOf latter := by
  simp [locationsOf]

theorem mem_locationsOf {visits : List Visit} {location : Location} :
    location ∈ locationsOf visits ↔
      ∃ visit ∈ visits, visit.location = location := by
  simp [locationsOf]

/-! ## First visits -/

/-- The visits to files not seen before, each file once. -/
def freshVisits (seen : List Location) : List Visit → List Visit
  | [] => []
  | visit :: rest =>
    if visit.location ∈ seen then freshVisits seen rest
    else visit :: freshVisits (visit.location :: seen) rest

/-- The first visit to each file, in order. -/
def firstVisits (visits : List Visit) : List Visit :=
  freshVisits [] visits

theorem freshVisits_cons_seen {seen : List Location} {visit : Visit}
    (member : visit.location ∈ seen) (rest : List Visit) :
    freshVisits seen (visit :: rest) = freshVisits seen rest := by
  rw [freshVisits, if_pos member]

theorem freshVisits_cons_unseen {seen : List Location} {visit : Visit}
    (unseen : visit.location ∉ seen) (rest : List Visit) :
    freshVisits seen (visit :: rest) =
      visit :: freshVisits (visit.location :: seen) rest := by
  rw [freshVisits, if_neg unseen]

/-- Which visits are fresh depends only on which of their files were seen. -/
theorem freshVisits_congr {seen others : List Location}
    {visits : List Visit}
    (alike : ∀ visit ∈ visits,
      visit.location ∈ seen ↔ visit.location ∈ others) :
    freshVisits seen visits = freshVisits others visits := by
  induction visits generalizing seen others with
  | nil => rfl
  | cons visit rest induction =>
      have restAlike : ∀ other ∈ rest,
          other.location ∈ seen ↔ other.location ∈ others :=
        fun other member => alike other (List.mem_cons_of_mem visit member)
      by_cases member : visit.location ∈ seen
      · have otherMember := (alike visit List.mem_cons_self).mp member
        rw [freshVisits_cons_seen member,
          freshVisits_cons_seen otherMember]
        exact induction restAlike
      · have otherUnseen : visit.location ∉ others :=
          fun held => member ((alike visit List.mem_cons_self).mpr held)
        rw [freshVisits_cons_unseen member,
          freshVisits_cons_unseen otherUnseen]
        congr 1
        apply induction
        intro other inner
        simp only [List.mem_cons, restAlike other inner]

theorem freshVisits_append (seen : List Location)
    (former latter : List Visit) :
    freshVisits seen (former ++ latter) =
      freshVisits seen former ++
        freshVisits (locationsOf former ++ seen) latter := by
  induction former generalizing seen with
  | nil => rfl
  | cons visit rest induction =>
      rw [List.cons_append]
      by_cases member : visit.location ∈ seen
      · rw [freshVisits_cons_seen member, freshVisits_cons_seen member,
          induction]
        congr 1
        apply freshVisits_congr
        intro other _
        simp only [locationsOf_cons, List.cons_append, List.mem_append,
          List.mem_cons]
        constructor
        · rintro (inner | inner)
          · exact .inr (.inl inner)
          · exact .inr (.inr inner)
        · rintro (same | inner | inner)
          · exact .inr (same ▸ member)
          · exact .inl inner
          · exact .inr inner
      · rw [freshVisits_cons_unseen member,
          freshVisits_cons_unseen member, induction, List.cons_append]
        congr 2
        apply freshVisits_congr
        intro other _
        simp only [locationsOf_cons, List.cons_append, List.mem_append,
          List.mem_cons]
        exact or_left_comm

/-- Visits to files that have all been seen are not fresh. -/
theorem freshVisits_eq_nil {seen : List Location} {visits : List Visit}
    (covered : ∀ visit ∈ visits, visit.location ∈ seen) :
    freshVisits seen visits = [] := by
  induction visits with
  | nil => rfl
  | cons visit rest induction =>
      rw [freshVisits_cons_seen (covered visit List.mem_cons_self)]
      exact induction fun other member =>
        covered other (List.mem_cons_of_mem visit member)

/-- What has been seen does not matter if none of it is visited. -/
theorem freshVisits_eq_firstVisits {seen : List Location}
    {visits : List Visit}
    (unseen : ∀ visit ∈ visits, visit.location ∉ seen) :
    freshVisits seen visits = firstVisits visits := by
  apply freshVisits_congr
  intro visit member
  simp [unseen visit member]

theorem mem_locationsOf_freshVisits {seen : List Location}
    {visits : List Visit} {location : Location} :
    location ∈ locationsOf (freshVisits seen visits) ↔
      location ∈ locationsOf visits ∧ location ∉ seen := by
  induction visits generalizing seen with
  | nil => simp [freshVisits]
  | cons visit rest induction =>
      by_cases member : visit.location ∈ seen
      · rw [freshVisits_cons_seen member, induction, locationsOf_cons,
          List.mem_cons]
        constructor
        · rintro ⟨inner, unseen⟩
          exact ⟨.inr inner, unseen⟩
        · rintro ⟨rfl | inner, unseen⟩
          · exact (unseen member).elim
          · exact ⟨inner, unseen⟩
      · rw [freshVisits_cons_unseen member]
        simp only [locationsOf_cons, List.mem_cons, induction, not_or]
        constructor
        · rintro (rfl | ⟨inner, _, outside⟩)
          · exact ⟨.inl rfl, member⟩
          · exact ⟨.inr inner, outside⟩
        · rintro ⟨same | inner, outside⟩
          · exact .inl same
          · by_cases same : location = visit.location
            · exact .inl same
            · exact .inr ⟨inner, same, outside⟩

/-- Each file is visited freshly at most once. -/
theorem nodup_freshVisits (seen : List Location) (visits : List Visit) :
    (locationsOf (freshVisits seen visits)).Nodup := by
  induction visits generalizing seen with
  | nil => exact List.nodup_nil
  | cons visit rest induction =>
      by_cases member : visit.location ∈ seen
      · rw [freshVisits_cons_seen member]
        exact induction seen
      · rw [freshVisits_cons_unseen member, locationsOf_cons,
          List.nodup_cons]
        refine ⟨?_, induction _⟩
        intro repeated
        exact (mem_locationsOf_freshVisits.mp repeated).2
          List.mem_cons_self

theorem freshVisits_subset (seen : List Location)
    (visits : List Visit) : freshVisits seen visits ⊆ visits := by
  induction visits generalizing seen with
  | nil => exact List.Subset.refl []
  | cons visit rest induction =>
      by_cases member : visit.location ∈ seen
      · rw [freshVisits_cons_seen member]
        exact List.subset_cons_of_subset visit (induction seen)
      · rw [freshVisits_cons_unseen member]
        exact List.cons_subset_cons visit (induction _)

/-- Every file that is visited is visited a first time. -/
theorem exists_firstVisit {visits : List Visit} {location : Location}
    (visited : location ∈ locationsOf visits) :
    ∃ visit ∈ firstVisits visits, visit.location = location := by
  apply mem_locationsOf.mp
  exact mem_locationsOf_freshVisits.mpr ⟨visited, List.not_mem_nil⟩

/-! ## What an unfolding visits -/

namespace Visits

variable {world : World}

/-- An include list unfolds in one way only. -/
theorem unique {paths : List String} {visits others : List Visit}
    (unfolds : Visits world paths visits)
    (alike : Visits world paths others) : visits = others := by
  induction unfolds generalizing others with
  | nil => cases alike; rfl
  | cons located opens _ _ inner outer =>
      cases alike with
      | cons otherLocated otherOpens otherInner otherOuter =>
          have same := Except.ok.inj (located.symm.trans otherLocated)
          subst same
          rcases opens.holds.unique otherOpens.holds with ⟨rfl, rfl⟩
          rw [inner otherInner, outer otherOuter]

theorem append {paths others : List String}
    {visits behind : List Visit} (unfolds : Visits world paths visits)
    (following : Visits world others behind) :
    Visits world (paths ++ others) (visits ++ behind) := by
  induction unfolds with
  | nil => exact following
  | cons located opens inner _ _ outer =>
      rw [List.cons_append, List.cons_append, List.append_assoc]
      exact .cons located opens inner outer

/-- Below every visit stands the unfolding of the file that it visits. -/
theorem beneath {paths : List String} {visits : List Visit}
    (unfolds : Visits world paths visits) {visit : Visit}
    (member : visit ∈ visits) :
    ∃ includes inner, world.Opens visit.location visit.settings includes ∧
      Visits world includes inner ∧ inner ⊆ visits ∧
      inner.length < visits.length := by
  induction unfolds with
  | nil => cases member
  | @cons path location settings includes rest below behind located opens
      unfolds _ inner outer =>
      simp only [List.mem_cons, List.mem_append] at member
      rcases member with rfl | member | member
      · refine ⟨includes, below, opens, unfolds, ?_, ?_⟩
        · intro visit member
          simp [member]
        · simp only [List.length_cons, List.length_append]
          omega
      · rcases inner member with
          ⟨nested, visited, opened, under, contained, shorter⟩
        refine ⟨nested, visited, opened, under, ?_, ?_⟩
        · intro visit member
          simp [contained member]
        · simp only [List.length_cons, List.length_append]
          omega
      · rcases outer member with
          ⟨nested, visited, opened, under, contained, shorter⟩
        refine ⟨nested, visited, opened, under, ?_, ?_⟩
        · intro visit member
          simp [contained member]
        · simp only [List.length_cons, List.length_append]
          omega

/-- Every listed path is visited. -/
theorem exists_visit {paths : List String} {visits : List Visit}
    (unfolds : Visits world paths visits) {path : String}
    (member : path ∈ paths) :
    ∃ location, world.tree.locate path = .ok location ∧
      location ∈ locationsOf visits := by
  induction unfolds with
  | nil => cases member
  | cons located opens _ _ inner outer =>
      rcases List.mem_cons.mp member with rfl | member
      · exact ⟨_, located, by simp⟩
      · rcases outer member with ⟨location, found, visited⟩
        exact ⟨location, found, by simp [visited]⟩

/-- The location of a listed path is visited. -/
theorem mem_of_listed {paths : List String} {visits : List Visit}
    (unfolds : Visits world paths visits) {path : String}
    (member : path ∈ paths) {location : Location}
    (located : world.tree.locate path = .ok location) :
    location ∈ locationsOf visits := by
  rcases unfolds.exists_visit member with ⟨other, found, visited⟩
  obtain rfl := Except.ok.inj (located.symm.trans found)
  exact visited

/-- A file is never visited below itself. -/
theorem not_mem_below {location : Location}
    {settings : List (String × Value)} {includes : List String}
    {visits : List Visit}
    (holds : world.Holds location settings includes)
    (unfolds : Visits world includes visits) :
    location ∉ locationsOf visits := by
  intro member
  rcases mem_locationsOf.mp member with ⟨visit, visited, rfl⟩
  rcases unfolds.beneath visited with
    ⟨nested, inner, opens, under, _, shorter⟩
  rcases holds.unique opens.holds with ⟨_, rfl⟩
  rw [unfolds.unique under] at shorter
  exact Nat.lt_irrefl _ shorter

end Visits

end Gatehouse.Config

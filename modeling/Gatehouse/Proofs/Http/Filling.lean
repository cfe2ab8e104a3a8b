import Gatehouse.Http.Headers
import Mathlib.Data.List.Basic

/-!
# Headers that are set and filled in

What the values of every name are once a name got its only value, or got one
because it had none.  Both leave the values of all other names alone.
-/

namespace Gatehouse.Http.Headers

open Gatehouse.Text

variable {headers : Headers} {name other : String} {value : Octets}

/-! ## Names with values -/

theorem values_eq_nil_iff :
    headers.values name = [] ↔ headers.has name = false := by
  rw [values, List.map_eq_nil_iff, List.filter_eq_nil_iff, has,
    List.any_eq_false]

theorem has_iff_values_ne_nil :
    headers.has name = true ↔ headers.values name ≠ [] := by
  rw [ne_eq, values_eq_nil_iff, Bool.not_eq_false]

theorem first?_cons (header : Header) :
    first? (header :: headers) name =
      if header.name = name then some header.value
      else headers.first? name := by
  by_cases same : header.name = name <;> simp [first?, values, same]

theorem first?_eq_none_iff :
    headers.first? name = none ↔ headers.has name = false := by
  rw [first?, List.head?_eq_none_iff, values_eq_nil_iff]

theorem exists_first?_iff :
    (∃ value, headers.first? name = some value) ↔
      headers.has name = true := by
  rw [← Option.ne_none_iff_exists', ne_eq, first?_eq_none_iff,
    Bool.not_eq_false]

/-- The first value of a name stands behind headers of other names. -/
theorem first?_eq_some_iff :
    headers.first? name = some value ↔
      ∃ front behind, headers = front ++ ⟨name, value⟩ :: behind ∧
        ∀ header ∈ front, header.name ≠ name := by
  constructor
  · intro found
    induction headers with
    | nil => cases found
    | cons header rest induction =>
        rw [first?_cons] at found
        split at found
        · rename_i same
          cases found
          exact ⟨[], rest, by rw [← same, List.nil_append], nofun⟩
        · rename_i differs
          rcases induction found with ⟨front, behind, rfl, others⟩
          exact ⟨header :: front, behind, rfl,
            List.forall_mem_cons.mpr ⟨differs, others⟩⟩
  · rintro ⟨front, behind, rfl, others⟩
    induction front with
    | nil => rw [List.nil_append, first?_cons, if_pos rfl]
    | cons header rest induction =>
        rw [List.forall_mem_cons] at others
        rw [List.cons_append, first?_cons, if_neg others.1]
        exact induction others.2

/-! ## Setting and filling in -/

theorem values_filter_ne :
    values (headers.filter (·.name != name)) other =
      if name = other then [] else headers.values other := by
  rw [values, values, List.filter_filter]
  split
  · rename_i same
    subst same
    rw [List.map_eq_nil_iff, List.filter_eq_nil_iff]
    simp
  · rename_i differs
    congr 1
    apply List.filter_congr
    intro header _
    by_cases named : header.name = other
    · simp [named, Ne.symm differs]
    · simp [named]

/-- A name that is set has one value, and no other name changes. -/
theorem values_set :
    (headers.set name value).values other =
      if name = other then [value] else headers.values other := by
  rw [set, values_append, values_filter_ne]
  by_cases same : name = other <;> simp [same]

theorem fill_of_has (present : headers.has name = true) :
    headers.fill name value = headers := if_pos present

theorem fill_of_lacks (absent : headers.has name = false) :
    headers.fill name value = headers.append name value :=
  if_neg (by simp [absent])

/-- Filling in changes the values of a name that has none, and no others. -/
theorem values_fill :
    (headers.fill name value).values other =
      if headers.has name = false ∧ name = other then [value]
      else headers.values other := by
  rcases present : headers.has name with _ | _
  · rw [fill_of_lacks present, values_append]
    by_cases same : name = other
    · subst same
      simp [values_eq_nil_iff.mpr present]
    · simp [same]
  · rw [fill_of_has present, if_neg (by simp)]

theorem has_fill :
    (headers.fill name value).has other =
      (headers.has other || name == other) := by
  rcases present : headers.has name with _ | _
  · rw [fill_of_lacks present, has_append]
  · rw [fill_of_has present]
    by_cases same : name = other
    · subst same
      simp [present]
    · simp [same]

theorem prefix_fill : headers <+: headers.fill name value := by
  rcases present : headers.has name with _ | _
  · rw [fill_of_lacks present]
    exact List.prefix_append _ _
  · exact ⟨[], (List.append_nil _).trans (fill_of_has present).symm⟩

end Gatehouse.Http.Headers

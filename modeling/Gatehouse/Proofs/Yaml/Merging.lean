import Gatehouse.Proofs.Yaml.Overlays

/-!
# Laying ordered mappings over each other

Mappings that name no key twice form a monoid when they are laid over each
other, and the law holds with the order of the keys: a key keeps the place
at which it is first named, and holds what is said of it last.  So of
several mappings that are merged one over the other it makes no difference
which two are merged first.
-/

namespace Gatehouse.Yaml

theorem Value.sameKey_comm (left right : Value) :
    left.sameKey right = right.sameKey left := by
  rw [Bool.eq_iff_iff, sameKey_iff, sameKey_iff]
  exact eq_comm

theorem Value.sameKey_refl (value : Value) : value.sameKey value = true :=
  sameKey_iff.mpr rfl

namespace Mapping

variable {lower middle upper entries : Mapping} {key other value held : Value}

/-! ## Setting one key after the other -/

/-- Of two values that are set for one key the last one stays. -/
theorem put_put_same (same : key.sameKey other = true) :
    put (put entries key value) other held = put entries key held := by
  have alike : ∀ name : Value, name.sameKey other = name.sameKey key := by
    intro name
    rw [name.sameKey_comm, name.sameKey_comm]
    exact (Value.sameKey_congr same name).symm
  induction entries with
  | nil => exact if_pos same
  | cons entry rest induction =>
      rw [put, put]
      by_cases found : entry.1.sameKey key = true
      · rw [if_pos found, if_pos found, put, if_pos]
        exact (alike entry.1).trans found
      · rw [if_neg found, if_neg found, put, alike, if_neg found, induction]

/-- A key that is there can be set before or after another one. -/
theorem put_comm (differs : key.sameKey other = false)
    (present : (find? entries key).isSome) :
    put (put entries key value) other held =
      put (put entries other held) key value := by
  induction entries with
  | nil => cases present
  | cons entry rest induction =>
      by_cases found : entry.1.sameKey key = true
      · have apart : ¬ entry.1.sameKey other = true := by
          rw [Value.sameKey_congr found other, differs]
          exact Bool.false_ne_true
        rw [put, if_pos found, put, if_neg apart, put, if_neg apart, put,
          if_pos found]
      · rw [find?_cons, if_neg found] at present
        rw [put, if_neg found, put]
        by_cases beside : entry.1.sameKey other = true
        · rw [if_pos beside, put, if_pos beside, put, if_neg found]
        · rw [if_neg beside, put, if_neg beside, put, if_neg found,
            induction present]

/-- A key that only the lower mapping names can be set there beforehand. -/
theorem put_overlay (present : (find? lower key).isSome)
    (absent : find? upper key = none) :
    put (overlay lower upper) key value =
      overlay (put lower key value) upper := by
  induction upper generalizing lower with
  | nil => rfl
  | cons entry rest induction =>
      rw [find?_cons] at absent
      by_cases same : entry.1.sameKey key = true
      · rw [if_pos same] at absent
        cases absent
      · rw [if_neg same] at absent
        have differs : key.sameKey entry.1 = false := by
          rw [key.sameKey_comm]
          exact Bool.not_eq_true _ ▸ same
        rw [overlay_cons, overlay_cons, put_comm differs present]
        apply induction _ absent
        rw [find?_put, if_neg same]
        exact present

/-- What is set in the upper mapping is set last. -/
theorem overlay_put (distinct : Distinct upper) :
    overlay lower (put upper key value) =
      put (overlay lower upper) key value := by
  induction upper generalizing lower with
  | nil => rfl
  | cons entry rest induction =>
      rw [put, overlay_cons]
      by_cases same : entry.1.sameKey key = true
      · -- No later entry names the key, so its place is settled here.
        have present : (find? (put lower entry.1 entry.2) key).isSome := by
          rw [find?_put, if_pos same]
          rfl
        rw [if_pos same, put_overlay present (distinct.find?_tail same),
          put_put_same same]
        rfl
      · rw [if_neg same, overlay_cons,
          induction (List.pairwise_cons.mp distinct).2]

/-! ## The laws of laying over -/

theorem overlay_assoc (distinct : Distinct middle) :
    overlay (overlay lower middle) upper =
      overlay lower (overlay middle upper) := by
  induction upper generalizing middle with
  | nil => rfl
  | cons entry rest induction =>
      rw [overlay_cons, overlay_cons, ← overlay_put distinct,
        induction (distinct.put entry.1 entry.2)]

/-! ## Keys keep their places -/

/-- An entry with what another mapping says of its key, if it says anything. -/
def replaced (upper : Mapping) (entry : Value × Value) : Value × Value :=
  (entry.1, (find? upper entry.1).getD entry.2)

/-- The entries whose keys another mapping does not name. -/
def added (lower upper : Mapping) : Mapping :=
  List.filter (fun entry => (find? lower entry.1).isNone) upper

theorem find?_eq_none_iff :
    find? entries key = none ↔
      ∀ entry ∈ entries, entry.1.sameKey key = false := by
  simp [find?]

theorem put_of_absent (absent : find? entries key = none) :
    put entries key value = entries ++ [(key, value)] := by
  induction entries with
  | nil => rfl
  | cons entry rest induction =>
      rw [find?_eq_none_iff, List.forall_mem_cons] at absent
      rw [put, absent.1, if_neg Bool.false_ne_true, List.cons_append,
        induction (find?_eq_none_iff.mpr absent.2)]

theorem replaced_cons (entry own : Value × Value) (rest : Mapping) :
    replaced (entry :: rest) own =
      if entry.1.sameKey own.1 then (own.1, entry.2)
      else replaced rest own := by
  rw [replaced, find?_cons]
  split <;> rfl

theorem replaced_of_absent {own : Value × Value}
    (absent : find? upper own.1 = none) : replaced upper own = own := by
  rw [replaced, absent]
  rfl

theorem put_of_present (distinct : Distinct entries)
    (present : (find? entries key).isSome) :
    put entries key value = entries.map (replaced [(key, value)]) := by
  induction entries with
  | nil => cases present
  | cons entry rest induction =>
      rcases List.pairwise_cons.mp distinct with ⟨differs, others⟩
      rw [put, List.map_cons, replaced_cons, key.sameKey_comm]
      by_cases same : entry.1.sameKey key = true
      · have kept : ∀ own ∈ rest, replaced [(key, value)] own = own := by
          intro own member
          rw [replaced_cons, ← Value.sameKey_congr same, differs own member]
          rfl
        rw [if_pos same, if_pos same, List.map_congr_left kept,
          List.map_id']
      · rw [find?_cons, if_neg same] at present
        rw [if_neg same, if_neg same, induction others present]
        rfl

/-- Setting a key decides about the entries of no other key. -/
theorem added_put
    (differs : ∀ entry ∈ upper, key.sameKey entry.1 = false) :
    added (put lower key value) upper = added lower upper := by
  apply List.filter_congr
  intro entry member
  rw [find?_put, differs entry member]
  rfl

/-- Replaced keys keep their places, and the other ones come last. -/
theorem overlay_eq (distinct : Distinct lower) (above : Distinct upper) :
    overlay lower upper =
      lower.map (replaced upper) ++ added lower upper := by
  induction upper generalizing lower with
  | nil =>
      have same : replaced [] = id := funext fun _ => rfl
      rw [overlay_nil, same, List.map_id, added, List.filter_nil,
        List.append_nil]
  | cons entry rest induction =>
      rcases List.pairwise_cons.mp above with ⟨differs, others⟩
      rw [overlay_cons, induction (distinct.put entry.1 entry.2) others,
        added_put differs, added, added, List.filter_cons]
      cases found : find? lower entry.1 with
      | some former =>
          have present : (find? lower entry.1).isSome := by
            rw [found]
            rfl
          rw [put_of_present distinct present, List.map_map]
          congr 1
          apply List.map_congr_left
          intro own _
          rw [Function.comp_apply, replaced_cons, replaced_cons]
          split
          · rename_i same
            exact replaced_of_absent (above.find?_tail same)
          · rfl
      | none =>
          have last : replaced rest (entry.1, entry.2) = entry :=
            replaced_of_absent (above.find?_tail entry.1.sameKey_refl)
          have kept : ∀ own ∈ lower,
              replaced (entry :: rest) own = replaced rest own := by
            intro own member
            rw [replaced_cons, entry.1.sameKey_comm,
              find?_eq_none_iff.mp found own member]
            rfl
          rw [put_of_absent found, List.map_append, List.map_singleton,
            last, List.map_congr_left kept, List.append_assoc]
          rfl

theorem overlay_nil_left (distinct : Distinct entries) :
    overlay [] entries = entries := by
  rw [overlay_eq .nil distinct]
  exact List.filter_eq_self.mpr fun _ _ => rfl

/-- What a mapping says of the key of one of its entries. -/
theorem Distinct.find?_of_mem (distinct : Distinct entries)
    {entry : Value × Value} (member : entry ∈ entries) :
    find? entries entry.1 = some entry.2 := by
  induction entries with
  | nil => cases member
  | cons first rest induction =>
      rcases List.pairwise_cons.mp distinct with ⟨differs, others⟩
      rw [find?_cons]
      rcases List.mem_cons.mp member with rfl | later
      · exact if_pos entry.1.sameKey_refl
      · rw [differs entry later, if_neg Bool.false_ne_true]
        exact induction others later

theorem overlay_self (distinct : Distinct entries) :
    overlay entries entries = entries := by
  have kept : ∀ own ∈ entries, replaced entries own = own := by
    intro own member
    rw [replaced, distinct.find?_of_mem member]
    rfl
  have nothing : added entries entries = [] := by
    rw [added, List.filter_eq_nil_iff]
    intro own member
    rw [distinct.find?_of_mem member]
    exact Bool.false_ne_true
  rw [overlay_eq distinct distinct, List.map_congr_left kept, nothing,
    List.map_id', List.append_nil]

end Mapping

end Gatehouse.Yaml

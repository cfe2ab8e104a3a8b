import Gatehouse.Proofs.Yaml.DistinctKeys
import Mathlib.Data.List.Basic

/-!
# What a mapping holds once another one is laid over it

Two values name the same key exactly if their codes agree, so naming the
same key is an equivalence, and keys that are the same read alike.  Main
statement: an overlay holds for a key what the upper mapping says of it, and
what the lower one says where the upper one says nothing.
-/

namespace Gatehouse.Yaml

namespace Value

/-! ## Keys -/

theorem textCode_injective : Function.Injective textCode := by
  intro text other same
  have characters := List.tail_eq_of_cons_eq same
  have letters : Function.Injective Char.toNat := fun _ _ => Char.toNat_inj.mp
  exact String.toList_injective (List.map_injective_iff.mpr letters characters)

/-- Two values name the same key exactly if their codes agree. -/
theorem sameKey_iff {left right : Value} :
    left.sameKey right = true ↔ left.keyCode = right.keyCode := by
  unfold sameKey
  split
  · rename_i first second
    rw [beq_iff_eq, keyCode, keyCode, List.cons.injEq]
    constructor
    · rintro rfl
      exact ⟨rfl, rfl⟩
    · rintro ⟨_, same⟩
      exact textCode_injective same
  · exact beq_iff_eq

theorem sameKey_congr {left right : Value}
    (same : left.sameKey right = true) (other : Value) :
    left.sameKey other = right.sameKey other := by
  rw [Bool.eq_iff_iff, sameKey_iff, sameKey_iff, sameKey_iff.mp same]

/-- Behind the same tag, codes are those of what is tagged. -/
theorem keyCode_of_tagged {tag other : String} {value held : Value}
    (same : (tagged tag value).keyCode = (tagged other held).keyCode) :
    value.keyCode = held.keyCode := by
  simp only [keyCode, textCode, List.cons_append, List.cons.injEq,
    true_and] at same
  rcases same with ⟨long, rest⟩
  refine (List.append_inj rest ?_).2
  rw [List.length_map, List.length_map, String.length_toList,
    String.length_toList, long]

theorem head?_keyCode_number (number : Number) :
    (Value.number number).keyCode.head? = some 2 ∨
      (Value.number number).keyCode.head? = some 3 := by
  cases number with
  | int value => exact .inl rfl
  | float value =>
      refine .inr ?_
      rw [keyCode, numberCode]
      split
      · rfl
      · split <;> rfl

/-- Only codes of texts begin with a four. -/
theorem exists_string_of_head? {value : Value}
    (head : value.keyCode.head? = some 4) :
    ∃ text, value = string text := by
  cases value with
  | string text => exact ⟨text, rfl⟩
  | number number =>
      rcases head?_keyCode_number number with other | other <;>
        cases head.symm.trans other
  | _ => cases head

/-- Only codes of what is tagged begin with a seven. -/
theorem exists_tagged_of_head? {value : Value}
    (head : value.keyCode.head? = some 7) :
    ∃ tag held, value = tagged tag held := by
  cases value with
  | tagged tag held => exact ⟨tag, held, rfl⟩
  | number number =>
      rcases head?_keyCode_number number with other | other <;>
        cases head.symm.trans other
  | _ => cases head

theorem label?_of_plain {value : Value}
    (untagged : ∀ tag held, value ≠ tagged tag held)
    (wordless : ∀ text, value ≠ string text) : value.label? = none := by
  cases value with
  | string text => exact (wordless text rfl).elim
  | tagged tag held => exact (untagged tag held rfl).elim
  | _ => rfl

/-- Keys that are the same read as the same text, or neither as a text. -/
theorem label?_of_keyCode {left right : Value}
    (same : left.keyCode = right.keyCode) : left.label? = right.label? := by
  induction left using untagged.induct generalizing right with
  | case1 tag value induction =>
      rcases exists_tagged_of_head? (congrArg List.head? same).symm with
        ⟨other, held, rfl⟩
      have inner := induction (keyCode_of_tagged same)
      exact inner
  | case2 value plain =>
      by_cases spelled : ∃ text, value = string text
      · rcases spelled with ⟨text, rfl⟩
        rcases exists_string_of_head? (congrArg List.head? same).symm with
          ⟨other, rfl⟩
        rw [textCode_injective (List.tail_eq_of_cons_eq same)]
      · rw [not_exists] at spelled
        rw [label?_of_plain plain spelled]
        symm
        refine label?_of_plain ?_ ?_
        · rintro tag held rfl
          rcases exists_tagged_of_head? (congrArg List.head? same) with
            ⟨other, inner, shape⟩
          exact plain other inner shape
        · rintro text rfl
          rcases exists_string_of_head? (congrArg List.head? same) with
            ⟨other, shape⟩
          exact spelled other shape

end Value

namespace Mapping

/-! ## Looking keys up -/

theorem find?_nil (key : Value) : find? [] key = none := rfl

theorem find?_cons (entry : Value × Value) (rest : Mapping) (key : Value) :
    find? (entry :: rest) key =
      if entry.1.sameKey key then some entry.2 else find? rest key := by
  rw [find?, List.find?_cons]
  cases entry.1.sameKey key <;> rfl

theorem find?_append (front back : Mapping) (key : Value) :
    find? (front ++ back) key = (find? front key).or (find? back key) := by
  rw [find?, List.find?_append, Option.map_or]
  rfl

/-- Setting a key changes what is said of it and of nothing else. -/
theorem find?_put (entries : Mapping) (key value other : Value) :
    find? (put entries key value) other =
      if key.sameKey other then some value else find? entries other := by
  induction entries with
  | nil => rw [put, find?_cons, find?_nil]
  | cons entry rest induction =>
      rw [put]
      by_cases same : entry.1.sameKey key = true
      · rw [if_pos same, find?_cons, find?_cons]
        dsimp only
        rw [Value.sameKey_congr same other]
        split <;> rfl
      · rw [if_neg same, find?_cons, find?_cons, induction]
        by_cases found : entry.1.sameKey other = true
        · have differs : key.sameKey other = false := by
            rw [← Bool.not_eq_true, Value.sameKey_iff]
            intro equal
            exact same (Value.sameKey_iff.mpr
              ((Value.sameKey_iff.mp found).trans equal.symm))
          rw [if_pos found, if_pos found, differs,
            if_neg Bool.false_ne_true]
        · rw [if_neg found, if_neg found]

/-- What is said of a key last. -/
def latest? (entries : Mapping) (key : Value) : Option Value :=
  find? entries.reverse key

theorem latest?_cons (entry : Value × Value) (rest : Mapping) (key : Value) :
    latest? (entry :: rest) key = (latest? rest key).or
      (if entry.1.sameKey key then some entry.2 else none) := by
  rw [latest?, List.reverse_cons, find?_append, find?_cons, find?_nil]
  rfl

/-- An overlay says what the upper mapping says, or else the lower one. -/
theorem find?_overlay (lower upper : Mapping) (key : Value) :
    find? (overlay lower upper) key =
      (latest? upper key).or (find? lower key) := by
  induction upper generalizing lower with
  | nil => rfl
  | cons entry rest induction =>
      rw [overlay_cons, induction, find?_put, latest?_cons, Option.or_assoc]
      congr 1
      split <;> rfl

/-! ## Mappings that name no key twice -/

/-- A key that the first entry names is not named again. -/
theorem Distinct.find?_tail {entry : Value × Value} {rest : Mapping}
    {key : Value} (distinct : Distinct (entry :: rest))
    (same : entry.1.sameKey key = true) : find? rest key = none := by
  rw [find?, Option.map_eq_none_iff, List.find?_eq_none]
  intro other member alike
  have apart := (List.pairwise_cons.mp distinct).1 other member
  rw [← Bool.not_eq_true, Value.sameKey_iff] at apart
  exact apart ((Value.sameKey_iff.mp same).trans
    (Value.sameKey_iff.mp alike).symm)

/-- Where no key is named twice, the last word on it is the only one. -/
theorem Distinct.latest?_eq {entries : Mapping} (distinct : Distinct entries)
    (key : Value) : latest? entries key = find? entries key := by
  induction entries with
  | nil => rfl
  | cons entry rest induction =>
      rw [latest?_cons, find?_cons,
        induction (List.pairwise_cons.mp distinct).2]
      by_cases same : entry.1.sameKey key = true
      · rw [distinct.find?_tail same, Option.none_or, if_pos same]
      · rw [if_neg same, if_neg same, Option.or_none]

theorem mem_put {entries : Mapping} {key value : Value}
    {entry : Value × Value} (member : entry ∈ put entries key value) :
    entry.1 = key ∨ ∃ held ∈ entries, held.1 = entry.1 := by
  induction entries with
  | nil => exact .inl (congrArg Prod.fst (List.mem_singleton.mp member))
  | cons first rest induction =>
      rw [put] at member
      split at member
      · rcases List.mem_cons.mp member with rfl | inner
        · exact .inr ⟨first, List.mem_cons_self, rfl⟩
        · exact .inr ⟨entry, List.mem_cons_of_mem _ inner, rfl⟩
      · rcases List.mem_cons.mp member with rfl | inner
        · exact .inr ⟨entry, List.mem_cons_self, rfl⟩
        · rcases induction inner with same | ⟨held, among, same⟩
          · exact .inl same
          · exact .inr ⟨held, List.mem_cons_of_mem _ among, same⟩

theorem Distinct.put {entries : Mapping} (distinct : Distinct entries)
    (key value : Value) : Distinct (put entries key value) := by
  induction entries with
  | nil => exact List.pairwise_singleton _ _
  | cons first rest induction =>
      rcases List.pairwise_cons.mp distinct with ⟨differs, others⟩
      rw [Mapping.put]
      split
      · exact List.pairwise_cons.mpr ⟨differs, others⟩
      · rename_i fresh
        refine List.pairwise_cons.mpr ⟨?_, induction others⟩
        intro entry member
        rcases mem_put member with same | ⟨held, among, same⟩
        · rw [same]
          exact Bool.not_eq_true _ ▸ fresh
        · rw [← same]
          exact differs held among

theorem Distinct.overlay {lower : Mapping} (distinct : Distinct lower)
    (upper : Mapping) : Distinct (overlay lower upper) := by
  induction upper generalizing lower with
  | nil => exact distinct
  | cons entry rest induction =>
      rw [overlay_cons]
      exact induction (distinct.put entry.1 entry.2)

end Mapping

end Gatehouse.Yaml

import Gatehouse.Http.Headers
import Gatehouse.Text.Blank
import Mathlib.Data.List.Basic

/-!
# What header values spell

A header value can be read as text exactly if all its octets are visible
ones, and the text then has the same octets.  Texts with the same octets are
the same text, so comparing what two values spell is comparing them octet by
octet.
-/

namespace Gatehouse.Text

/-- The octets of an array from some place on, behind octets taken before. -/
theorem toList_loop (content : ByteArray) (place : Nat) (taken : Octets) :
    ByteArray.toList.loop content place taken =
      taken.reverse ++ content.data.toList.drop place := by
  induction place, taken using ByteArray.toList.loop.induct content with
  | case1 place taken inside induction =>
      have bounded : place < content.data.toList.length := inside
      have first : content.get! place = content.data.toList[place] := by
        show content.data[place]! = content.data.toList[place]
        rw [getElem!_pos content.data place inside]
        rfl
      rw [ByteArray.toList.loop, if_pos inside, induction, first,
        List.drop_eq_getElem_cons bounded, List.reverse_cons,
        List.append_assoc, List.singleton_append]
  | case2 place taken outside =>
      have beyond : content.data.toList.length ≤ place :=
        Nat.le_of_not_lt outside
      rw [ByteArray.toList.loop, if_neg outside,
        List.drop_eq_nil_of_le beyond, List.append_nil]

/-- The octets of a text are those of its characters in turn. -/
theorem octets_eq (text : String) :
    octets text = text.toList.flatMap String.utf8EncodeChar := by
  have whole : octets text = text.toByteArray.data.toList :=
    toList_loop text.toByteArray 0 []
  rw [whole, ← String.utf8Encode_toList, List.utf8Encode,
    List.toList_data_toByteArray]

theorem octets_append (front back : String) :
    octets (front ++ back) = octets front ++ octets back := by
  simp only [octets_eq, String.toList_append, List.flatMap_append]

theorem octets_injective : Function.Injective octets := by
  intro text other same
  rw [octets_eq, octets_eq] at same
  apply String.toByteArray_inj.mp
  rw [← String.utf8Encode_toList, ← String.utf8Encode_toList,
    List.utf8Encode, List.utf8Encode, same]

theorem utf8EncodeChar_of_lt {character : Char}
    (single : character.toNat < 128) :
    String.utf8EncodeChar character = [character.toUInt8] := by
  apply String.utf8EncodeChar_eq_singleton
  rw [Char.utf8Size_eq_one_iff, UInt32.le_iff_toNat_le]
  exact Nat.le_of_lt_succ single

/-- A text of characters below 128 has one octet for each of them. -/
theorem octets_of_lt {text : String}
    (single : ∀ character ∈ text.toList, character.toNat < 128) :
    octets text = text.toList.map Char.toUInt8 := by
  rw [octets_eq]
  revert single
  generalize text.toList = characters
  intro single
  induction characters with
  | nil => rfl
  | cons character rest induction =>
      rw [List.forall_mem_cons] at single
      rw [List.flatMap_cons, utf8EncodeChar_of_lt single.1,
        induction single.2]
      rfl

end Gatehouse.Text

namespace Gatehouse.Http

open Gatehouse.Text

/-- A header value is visible, and a text has the same octets. -/
def Spells (value : Octets) (text : String) : Prop :=
  (∀ octet ∈ value, isVisibleOctet octet = true) ∧ octets text = value

namespace Spells

variable {value : Octets} {text other : String}

theorem unique (spells : Spells value text) (alike : Spells value other) :
    text = other :=
  octets_injective (spells.2.trans alike.2.symm)

end Spells

theorem toNat_lt_of_visible {octet : UInt8}
    (visible : isVisibleOctet octet = true) : octet.toNat < 128 := by
  simp only [isVisibleOctet, Bool.or_eq_true, beq_iff_eq, Bool.and_eq_true,
    decide_eq_true_eq, UInt8.lt_iff_toNat_lt] at visible
  rcases visible with rfl | ⟨_, below⟩
  · decide
  · exact Nat.lt_trans below (by decide)

/-- The character of a visible octet. -/
theorem toNat_ofNat_of_visible {octet : UInt8}
    (visible : isVisibleOctet octet = true) :
    (Char.ofNat octet.toNat).toNat = octet.toNat := by
  have small := toNat_lt_of_visible visible
  have valid : octet.toNat.isValidChar := .inl (by omega)
  rw [Char.ofNat, dif_pos valid]
  exact UInt32.toNat_ofNatLT

theorem toUInt8_ofNat_of_visible {octet : UInt8}
    (visible : isVisibleOctet octet = true) :
    (Char.ofNat octet.toNat).toUInt8 = octet := by
  apply UInt8.toNat_inj.mp
  show (Char.ofNat octet.toNat).toNat % 256 = octet.toNat
  rw [toNat_ofNat_of_visible visible]
  exact Nat.mod_eq_of_lt octet.toNat_lt

/-- Character by character, visible octets make up what they spell. -/
theorem spells_of_visible {value : Octets}
    (visible : ∀ octet ∈ value, isVisibleOctet octet = true) :
    Spells value
      (String.ofList (value.map fun octet => Char.ofNat octet.toNat)) := by
  refine ⟨visible, ?_⟩
  have single : ∀ character ∈ (String.ofList
      (value.map fun octet => Char.ofNat octet.toNat)).toList,
      character.toNat < 128 := by
    intro character member
    rw [String.toList_ofList] at member
    rcases List.mem_map.mp member with ⟨octet, held, rfl⟩
    rw [toNat_ofNat_of_visible (visible octet held)]
    exact toNat_lt_of_visible (visible octet held)
  rw [octets_of_lt single, String.toList_ofList, List.map_map]
  calc value.map (Char.toUInt8 ∘ fun octet => Char.ofNat octet.toNat)
    _ = value.map id := List.map_congr_left fun octet held =>
        toUInt8_ofNat_of_visible (visible octet held)
    _ = value := List.map_id value

/-- Visible values are read as the text with the same octets. -/
theorem visibleText?_eq_some_iff {value : Octets} {text : String} :
    visibleText? value = some text ↔ Spells value text := by
  by_cases visible : value.all isVisibleOctet = true
  · have spells := spells_of_visible (List.all_eq_true.mp visible)
    rw [visibleText?, if_pos visible, Option.some.injEq]
    constructor
    · rintro rfl
      exact spells
    · exact spells.unique
  · rw [visibleText?, if_neg visible]
    constructor
    · intro found
      cases found
    · intro spells
      exact (visible (List.all_eq_true.mpr spells.1)).elim

theorem visibleText?_eq_none_iff {value : Octets} :
    visibleText? value = none ↔ ∀ text, ¬ Spells value text := by
  rw [Option.eq_none_iff_forall_ne_some]
  simp only [ne_eq, visibleText?_eq_some_iff]

/-- Only an octet that is not visible keeps a value from spelling a text. -/
theorem spells_nothing_iff {value : Octets} :
    (∀ text, ¬ Spells value text) ↔
      ∃ octet ∈ value, isVisibleOctet octet = false := by
  constructor
  · intro nothing
    by_contra seen
    push Not at seen
    simp only [ne_eq, Bool.not_eq_false] at seen
    exact nothing _ (spells_of_visible seen)
  · rintro ⟨octet, member, hidden⟩ text spells
    cases hidden.symm.trans (spells.1 octet member)

/-- The first value of a name is visible and spells a text. -/
theorem text?_eq_some_iff {headers : Headers} {name text : String} :
    headers.text? name = some text ↔
      ∃ value, headers.first? name = some value ∧ Spells value text := by
  rw [Headers.text?, Option.bind_eq_some_iff]
  simp only [visibleText?_eq_some_iff]

/-! ## What can be sent -/

/-- A header name is a short word of some characters, in lowercase letters. -/
theorem headerName?_eq_some_iff {name lower : String} :
    headerName? name = some lower ↔
      (name ≠ "" ∧ name.length ≤ nameLimit ∧
        ∀ character ∈ name.toList, isNameCharacter character = true) ∧
      lower = lowercased name := by
  have condition : (!name.toList.isEmpty &&
      decide (name.toList.length ≤ nameLimit) &&
      name.toList.all isNameCharacter) = true ↔
        name ≠ "" ∧ name.length ≤ nameLimit ∧
          ∀ character ∈ name.toList, isNameCharacter character = true := by
    simp [and_assoc, String.length_toList]
  rw [headerName?, ← condition]
  split
  · rename_i sendable
    rw [Option.some.injEq]
    exact ⟨fun same => ⟨sendable, same.symm⟩, fun named => named.2.symm⟩
  · rename_i refused
    exact ⟨nofun, fun named => absurd named.1 refused⟩

theorem headerValue?_eq_some_iff {text : String} {value : Octets} :
    headerValue? text = some value ↔
      (∀ octet ∈ octets text, isValueOctet octet = true) ∧
        value = octets text := by
  rw [headerValue?, ← List.all_eq_true]
  split
  · rename_i sendable
    rw [Option.some.injEq]
    exact ⟨fun same => ⟨sendable, same.symm⟩, fun spelled => spelled.2.symm⟩
  · rename_i refused
    exact ⟨nofun, fun spelled => absurd spelled.1 refused⟩

/-! ## Texts that are visible themselves -/

/-- A character that is written as one visible octet. -/
def isVisible (character : Char) : Bool :=
  32 ≤ character.toNat && character.toNat < 127

theorem isVisibleOctet_of_isVisible {character : Char}
    (visible : isVisible character = true) :
    isVisibleOctet character.toUInt8 = true := by
  simp only [isVisible, Bool.and_eq_true, decide_eq_true_eq] at visible
  have same : character.toUInt8.toNat = character.toNat :=
    Nat.mod_eq_of_lt (by show character.toNat < 256; omega)
  rw [isVisibleOctet, Bool.or_eq_true]
  right
  simp only [Bool.and_eq_true, decide_eq_true_eq, UInt8.le_iff_toNat_le,
    UInt8.lt_iff_toNat_lt, same]
  exact visible

theorem isValueOctet_of_isVisibleOctet {octet : UInt8}
    (visible : isVisibleOctet octet = true) : isValueOctet octet = true := by
  simp only [isVisibleOctet, isValueOctet, Bool.or_eq_true, beq_iff_eq,
    Bool.and_eq_true, decide_eq_true_eq, bne_iff_ne] at visible ⊢
  rcases visible with tab | ⟨above, below⟩
  · exact .inl tab
  · refine .inr ⟨above, ?_⟩
    rintro rfl
    exact absurd below (by decide)

/-- A text of visible characters is what its octets spell. -/
theorem spells_octets {text : String}
    (visible : ∀ character ∈ text.toList, isVisible character = true) :
    Spells (octets text) text := by
  have single : ∀ character ∈ text.toList, character.toNat < 128 := by
    intro character member
    have bounds := visible character member
    simp only [isVisible, Bool.and_eq_true, decide_eq_true_eq] at bounds
    omega
  refine ⟨?_, rfl⟩
  rw [octets_of_lt single]
  intro octet member
  rcases List.mem_map.mp member with ⟨character, held, rfl⟩
  exact isVisibleOctet_of_isVisible (visible character held)

/-- What is visible can be sent. -/
theorem headerValue?_of_spells {text : String}
    (spells : Spells (octets text) text) :
    headerValue? text = some (octets text) :=
  headerValue?_eq_some_iff.mpr ⟨fun octet member =>
    isValueOctet_of_isVisibleOctet (spells.1 octet member), rfl⟩

end Gatehouse.Http

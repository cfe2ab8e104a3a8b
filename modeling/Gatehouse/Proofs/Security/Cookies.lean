import Gatehouse.Proofs.Http.Values
import Gatehouse.Proofs.Text.Parts
import Gatehouse.Security.Csrf

/-!
# Which cookie a request brings

The cookie headers of a request that can be read fall into pieces, and a
piece may be a pair of a key and a value.  The first pair with a name decides
about the cookie of that name: a blank value counts as none, even if other
pairs with the name follow.
-/

namespace Gatehouse.Security.Csrf

open Gatehouse.Http
open Gatehouse.Text

/-! ## Pieces of cookie headers -/

/-- Between blanks stands a key, an equals sign and a value. -/
def IsPair (piece key value : List Char) : Prop :=
  Trims piece (key ++ '=' :: value) ∧ '=' ∉ key

/--
The pieces of some header values in order.  Visible values are cut at every
semicolon; a value that is not visible has no pieces.
-/
inductive CookiePieces : List Octets → List (List Char) → Prop where
  | nil : CookiePieces [] []
  | unreadable {value : Octets} {rest : List Octets}
      {pieces : List (List Char)}
      (hidden : ∀ text, ¬ Spells value text)
      (behind : CookiePieces rest pieces) :
      CookiePieces (value :: rest) pieces
  | readable {value : Octets} {text : String} {rest : List Octets}
      {parts pieces : List (List Char)}
      (spells : Spells value text) (some : parts ≠ [])
      (apart : ∀ part ∈ parts, ';' ∉ part)
      (joined : text.toList = [';'].intercalate parts)
      (behind : CookiePieces rest pieces) :
      CookiePieces (value :: rest) (parts ++ pieces)

/-- The pieces of header values, computed. -/
def piecesOf (values : List Octets) : List (List Char) :=
  (values.filterMap visibleText?).flatMap fun text =>
    text.toList.splitOn ';'

theorem piecesOf_cons_of_hidden {value : Octets} {rest : List Octets}
    (hidden : visibleText? value = none) :
    piecesOf (value :: rest) = piecesOf rest := by
  rw [piecesOf, List.filterMap_cons_none hidden, piecesOf]

theorem piecesOf_cons_of_visible {value : Octets} {text : String}
    {rest : List Octets} (visible : visibleText? value = some text) :
    piecesOf (value :: rest) =
      text.toList.splitOn ';' ++ piecesOf rest := by
  rw [piecesOf, List.filterMap_cons_some visible, List.flatMap_cons,
    piecesOf]

/-- Header values have pieces in one way only. -/
theorem cookiePieces_iff {values : List Octets}
    {pieces : List (List Char)} :
    CookiePieces values pieces ↔ piecesOf values = pieces := by
  constructor
  · intro cut
    induction cut with
    | nil => rfl
    | unreadable hidden _ induction =>
        rw [piecesOf_cons_of_hidden (visibleText?_eq_none_iff.mpr hidden),
          induction]
    | readable spells some apart joined _ induction =>
        rw [piecesOf_cons_of_visible (visibleText?_eq_some_iff.mpr spells),
          splitOn_eq_iff.mpr ⟨some, apart, joined⟩, induction]
  · rintro rfl
    induction values with
    | nil => exact .nil
    | cons value rest induction =>
        rcases read : visibleText? value with _ | text
        · rw [piecesOf_cons_of_hidden read]
          exact .unreadable (visibleText?_eq_none_iff.mp read) induction
        · rw [piecesOf_cons_of_visible read]
          rcases splitOn_eq_iff.mp (rfl : text.toList.splitOn ';' = _) with
            ⟨some, apart, joined⟩
          exact .readable (visibleText?_eq_some_iff.mp read) some apart
            joined induction

/-! ## Pairs -/

/-- How a piece is taken apart. -/
def pairOf? (piece : List Char) : Option (String × String) :=
  cut? '=' (trimmed (String.ofList piece))

theorem pairOf?_eq_some_iff {piece : List Char} {key value : String} :
    pairOf? piece = some (key, value) ↔
      IsPair piece key.toList value.toList := by
  rw [pairOf?, cut?_eq_some_iff, toList_trimmed, String.toList_ofList,
    IsPair, trims_iff]

theorem cookies_eq (headers : Headers) :
    cookies headers =
      (piecesOf (headers.values "cookie")).filterMap pairOf? := by
  unfold cookies piecesOf
  rw [List.filterMap_flatMap]
  apply List.flatMap_congr
  intro text _
  rw [pieces, List.filterMap_map]
  apply List.filterMap_congr
  intro piece _
  rw [Function.comp_apply, pairOf?]

/-- What is looked up comes from the first item that is read to the name. -/
theorem lookup_filterMap_eq_some_iff {Item : Type}
    {read : Item → Option (String × String)} {items : List Item}
    {name value : String} :
    (items.filterMap read).lookup name = some value ↔
      ∃ before item behind, items = before ++ item :: behind ∧
        read item = some (name, value) ∧
        ∀ earlier ∈ before, ∀ other, read earlier ≠ some (name, other) := by
  rw [List.lookup_eq_some_iff]
  constructor
  · rintro ⟨former, latter, shape, differ⟩
    rcases List.filterMap_eq_append_iff.mp shape with
      ⟨front, back, rfl, rfl, found⟩
    rcases List.filterMap_eq_cons_iff.mp found with
      ⟨skipped, item, behind, rfl, nothing, reads, _⟩
    refine ⟨front ++ skipped, item, behind, by simp, reads, ?_⟩
    intro earlier member other alike
    rcases List.mem_append.mp member with inner | inner
    · have apart := differ _ (List.mem_filterMap.mpr ⟨earlier, inner, alike⟩)
      simp at apart
    · rw [nothing earlier inner] at alike
      cases alike
  · rintro ⟨before, item, behind, rfl, reads, earlier⟩
    refine ⟨before.filterMap read, behind.filterMap read, ?_, ?_⟩
    · rw [List.filterMap_append, List.filterMap_cons_some reads]
    · rintro ⟨key, held⟩ member
      rcases List.mem_filterMap.mp member with ⟨other, inner, found⟩
      rw [bne_iff_ne]
      rintro rfl
      exact earlier other inner held found

/-! ## The cookie with a name -/

/--
The first pair with a name has a value that is not blank, and this is the
value without the blanks around it.
-/
def Brings (headers : Headers) (name token : String) : Prop :=
  ∃ pieces before piece behind value,
    CookiePieces (headers.values "cookie") pieces ∧
    pieces = before ++ piece :: behind ∧
    IsPair piece name.toList value ∧
    (∀ earlier ∈ before, ∀ other, ¬ IsPair earlier name.toList other) ∧
    Trims value token.toList ∧ token ≠ ""

/-- The cookie that is found is the one that the request brings. -/
theorem cookie?_eq_some_iff {headers : Headers} {name token : String} :
    cookie? headers name = some token ↔ Brings headers name token := by
  rw [cookie?, Option.filter_eq_some_iff, Option.map_eq_some_iff, cookies_eq]
  simp only [lookup_filterMap_eq_some_iff, pairOf?_eq_some_iff, ne_eq,
    Bool.not_eq_true', String.isEmpty_eq_false_iff]
  constructor
  · rintro ⟨⟨value, ⟨before, piece, behind, shape, pair, earlier⟩, rfl⟩,
      filled⟩
    refine ⟨_, before, piece, behind, value.toList,
      cookiePieces_iff.mpr rfl, shape, pair, ?_, ?_, filled⟩
    · intro other member held same
      exact earlier other member (String.ofList held) (by simpa using same)
    · rw [toList_trimmed]
      exact trims_trimBlanks value.toList
  · rintro ⟨pieces, before, piece, behind, value, cut, shape, pair, earlier,
      trims, filled⟩
    refine ⟨⟨String.ofList value,
      ⟨before, piece, behind, ?_, ?_, ?_⟩, ?_⟩, filled⟩
    · rw [cookiePieces_iff.mp cut, shape]
    · simpa using pair
    · exact fun other member held => earlier other member held.toList
    · rw [← String.toList_inj, toList_trimmed, String.toList_ofList]
      exact trims_iff.mp trims

theorem cookie?_eq_none_iff {headers : Headers} {name : String} :
    cookie? headers name = none ↔
      ∀ token, ¬ Brings headers name token := by
  rw [Option.eq_none_iff_forall_ne_some]
  simp only [ne_eq, cookie?_eq_some_iff]

end Gatehouse.Security.Csrf

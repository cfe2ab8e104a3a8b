import Gatehouse.Proofs.Http.Filling
import Gatehouse.Proofs.Http.Values
import Gatehouse.Proofs.Serve.Passage
import Gatehouse.Serve.ContentType

/-!
# The type of what a handler answers

A handler for data keeps any type that it sets.  A handler for pages keeps
its type unless the first value of it is taken for plain text, which also
happens to values that cannot be read and to all that begin like plain text,
but not to plain text in capital letters.  Main statements: what the layer
with the default type does to a response, of which it changes no more than
the type, and which types it misreads.
-/

namespace Gatehouse.Serve

open Gatehouse.Http
open Gatehouse.Route (Kind)
open Gatehouse.Text

/-! ## Types that are taken for plain text -/

/-- A value has an octet that is not visible, or it begins like plain text. -/
inductive TakenForPlain (value : Octets) : Prop where
  | hidden {octet : UInt8} (member : octet ∈ value)
      (unseen : isVisibleOctet octet = false)
  | begins (start : octets "text/plain" <+: value)

/-- Visible octets begin like plain text if the text they spell does. -/
theorem prefix_plain_iff {value : Octets} {text : String}
    (spells : Spells value text) :
    "text/plain".toList <+: text.toList ↔ octets "text/plain" <+: value := by
  constructor
  · rintro ⟨rest, shape⟩
    have joined : "text/plain" ++ String.ofList rest = text :=
      String.toList_injective (String.toList_append.trans
        ((congrArg _ String.toList_ofList).trans shape))
    refine ⟨octets (String.ofList rest), ?_⟩
    rw [← octets_append, joined, spells.2]
  · rintro ⟨rest, shape⟩
    have visible : ∀ octet ∈ rest, isVisibleOctet octet = true := by
      intro octet member
      apply spells.1
      rw [← shape]
      exact List.mem_append_right _ member
    have tail := (spells_of_visible visible).2
    have joined : text = "text/plain" ++ String.ofList
        (rest.map fun octet => Char.ofNat octet.toNat) := by
      apply octets_injective
      rw [spells.2, octets_append, tail, shape]
    rw [joined, String.toList_append]
    exact List.prefix_append _ _

theorem countsAsPlain_iff {value : Octets} :
    countsAsPlain value = true ↔ TakenForPlain value := by
  rcases found : visibleText? value with _ | text
  · rcases spells_nothing_iff.mp (visibleText?_eq_none_iff.mp found) with
      ⟨octet, member, unseen⟩
    rw [countsAsPlain, found]
    exact iff_of_true rfl (.hidden member unseen)
  · have spells := visibleText?_eq_some_iff.mp found
    rw [countsAsPlain, found]
    dsimp only
    rw [List.isPrefixOf_iff_prefix, prefix_plain_iff spells]
    constructor
    · exact .begins
    · intro taken
      cases taken with
      | hidden member unseen =>
          cases (spells.1 _ member).symm.trans unseen
      | begins start => exact start

/-- The octet of a small letter for that of a capital one. -/
def smallOctet (octet : UInt8) : UInt8 :=
  if 65 ≤ octet ∧ octet ≤ 90 then octet + 32 else octet

/-- The type in front of any parameters is plain text, in any letters. -/
def NamesPlain (value : Octets) : Prop :=
  ∃ type behind, value = type ++ behind ∧
    type.map smallOctet = octets "text/plain" ∧
    (behind = [] ∨ ∃ blanks parameters,
      behind = blanks ++ octets ";" ++ parameters ∧
      ∀ octet ∈ blanks, octet = 32 ∨ octet = 9)

theorem NamesPlain.begins {value : Octets} (plain : NamesPlain value) :
    octets "text/plain" <+: value.map smallOctet := by
  rcases plain with ⟨type, behind, rfl, same, _⟩
  rw [List.map_append, same]
  exact List.prefix_append _ _

/-- A value is taken for plain text though it is not, or the other way. -/
inductive Misread (value : Octets) : Prop where
  | hidden {octet : UInt8} (other : ¬ NamesPlain value)
      (member : octet ∈ value) (unseen : isVisibleOctet octet = false)
  | longer (other : ¬ NamesPlain value)
      (start : octets "text/plain" <+: value)
  | capital (plain : NamesPlain value)
      (seen : ∀ octet ∈ value, isVisibleOctet octet = true)
      (start : ¬ octets "text/plain" <+: value)

theorem not_misread_iff {value : Octets} :
    ¬ Misread value ↔ (TakenForPlain value ↔ NamesPlain value) := by
  constructor
  · intro right
    constructor
    · intro taken
      by_contra other
      cases taken with
      | hidden member unseen => exact right (.hidden other member unseen)
      | begins start => exact right (.longer other start)
    · intro plain
      by_contra left
      refine right (.capital plain ?_ fun start => left (.begins start))
      intro octet member
      by_contra unseen
      exact left (.hidden member (Bool.eq_false_iff.mpr unseen))
  · intro same misread
    cases misread with
    | hidden other member unseen =>
        exact other (same.mp (.hidden member unseen))
    | longer other start => exact other (same.mp (.begins start))
    | capital plain seen start =>
        cases same.mpr plain with
        | hidden member unseen => cases unseen.symm.trans (seen _ member)
        | begins begun => exact start begun

/-! ## When a type is set anew -/

/-- A type is missing, or its first value is plain in some sense. -/
inductive LacksType (plain : Octets → Prop) (headers : Headers) : Prop where
  | missing (absent : headers.values contentType = [])
  | given {value : Octets} {rest : List Octets}
      (first : headers.values contentType = value :: rest)
      (counts : plain value)

section Lacking

variable {plain : Octets → Prop} {headers : Headers} {value : Octets}
  {rest : List Octets}

theorem lacksType_iff_of_first
    (first : headers.values contentType = value :: rest) :
    LacksType plain headers ↔ plain value := by
  constructor
  · intro lacks
    cases lacks with
    | missing absent => cases first.symm.trans absent
    | given again counts =>
        cases first.symm.trans again
        exact counts
  · exact .given first

theorem lacksType_iff :
    (headers.first? contentType).all countsAsPlain = true ↔
      LacksType TakenForPlain headers := by
  rw [Headers.first?]
  rcases first : headers.values contentType with _ | ⟨value, rest⟩
  · exact iff_of_true rfl (.missing first)
  · rw [lacksType_iff_of_first first, ← countsAsPlain_iff]
    rfl

/-- Types are set anew as they should be unless their values are misread. -/
theorem lacksType_alike_iff :
    (LacksType TakenForPlain headers ↔ LacksType NamesPlain headers) ↔
      ∀ value rest, headers.values contentType = value :: rest →
        ¬ Misread value := by
  rcases first : headers.values contentType with _ | ⟨value, rest⟩
  · exact iff_of_true (iff_of_true (.missing first) (.missing first)) nofun
  · rw [lacksType_iff_of_first first, lacksType_iff_of_first first,
      ← not_misread_iff]
    constructor
    · rintro right _ _ ⟨⟩
      exact right
    · exact fun right => right value rest rfl

end Lacking

/-! ## What the layer does -/

/--
A response with the default type of a kind of route: only its type can
differ, and only where the kind asks for it.
-/
structure Defaulted (kind : Kind) (inner outer : Response) : Prop where
  status : outer.status = inner.status
  body : outer.body = inner.body
  others : ∀ name, name ≠ contentType →
    outer.headers.values name = inner.headers.values name
  data : kind = .api →
    (inner.headers.values contentType = [] →
      outer.headers.values contentType = [octets jsonText]) ∧
    (inner.headers.values contentType ≠ [] → outer = inner)
  page : kind = .html →
    (LacksType TakenForPlain inner.headers →
      outer.headers.values contentType = [octets pageText]) ∧
    (¬ LacksType TakenForPlain inner.headers → outer = inner)

theorem defaulted_page (inner : Response) :
    Defaulted .html inner (inner.mapHeaders pageHeaders) := by
  have set (lacks : LacksType TakenForPlain inner.headers) :
      pageHeaders inner.headers =
        inner.headers.set contentType (octets pageText) :=
    if_pos (lacksType_iff.mpr lacks)
  have left (typed : ¬ LacksType TakenForPlain inner.headers) :
      pageHeaders inner.headers = inner.headers :=
    if_neg (mt lacksType_iff.mp typed)
  refine ⟨rfl, rfl, ?_, nofun, fun _ => ⟨?_, ?_⟩⟩
  · intro name other
    show Headers.values (pageHeaders inner.headers) name = _
    by_cases lacks : LacksType TakenForPlain inner.headers
    · rw [set lacks, Headers.values_set, if_neg other.symm]
    · rw [left lacks]
  · intro lacks
    show Headers.values (pageHeaders inner.headers) contentType = _
    rw [set lacks, Headers.values_set, if_pos rfl]
  · intro typed
    rw [Response.mapHeaders, left typed]

theorem defaulted_data (inner : Response) :
    Defaulted .api inner (inner.mapHeaders dataHeaders) := by
  refine ⟨rfl, rfl, ?_, fun _ => ⟨?_, ?_⟩, nofun⟩
  · intro name other
    refine Headers.values_fill.trans (if_neg ?_)
    rintro ⟨_, rfl⟩
    exact other rfl
  · intro absent
    rw [Headers.values_eq_nil_iff] at absent
    exact Headers.values_fill.trans (if_pos ⟨absent, rfl⟩)
  · intro given
    rw [Response.mapHeaders, dataHeaders,
      Headers.fill_of_has (Headers.has_iff_values_ne_nil.mpr given)]

/-- The layer with the default type gives every response that type. -/
theorem runAction_defaultContentType {kind : Kind} {handler : Handler}
    {request : Request} {state after : State} {inner : Response}
    (run : runAction (handler request) state = (.ok inner, after)) :
    ∃ outer,
      runAction ((defaultContentType kind).around handler request) state =
        (.ok outer, after) ∧ Defaulted kind inner outer := by
  cases kind with
  | html => exact ⟨_, runAction_onResponse_of_ok run, defaulted_page inner⟩
  | api => exact ⟨_, runAction_onResponse_of_ok run, defaulted_data inner⟩

theorem runAction_defaultContentType_of_error {kind : Kind}
    {handler : Handler} {request : Request} {state after : State}
    {cause : Interruption}
    (run : runAction (handler request) state = (.error cause, after)) :
    runAction ((defaultContentType kind).around handler request) state =
      (.error cause, after) := by
  cases kind with
  | html => exact runAction_onResponse_of_error run
  | api => exact runAction_onResponse_of_error run

end Gatehouse.Serve

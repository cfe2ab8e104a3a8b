import Gatehouse.Proofs.Outcome
import Gatehouse.Proofs.Template.Segments

/-!
# Filling in a template segment by segment

A template is filled in while it is read, yet how it is read never depends
on what the variables hold.  The main statement ties the one pass to the
segments of the text, which are fixed before any variable is looked up: the
result is what the segments stand for, one after the other, and a failure is
that of the first segment that stands for nothing.
-/

namespace Gatehouse.Template

open Gatehouse.Outcome

/-- A variable has a value that is not empty. -/
def IsSet (lookup : Variables) (name : String) : Prop :=
  ∃ value, lookup name = some value ∧ value ≠ ""

/-- What a segment stands for. -/
inductive Stands (lookup : Variables) : Segment → List Char → Prop where
  | literal (text : List Char) : Stands lookup (.literal text) text
  | dollar : Stands lookup .dollar ['$']
  | escape : Stands lookup .escape ['$', '\x7b']
  | value {name : List Char} {fallback : Option (List Char)}
      {value : String}
      (held : lookup (String.ofList name) = some value)
      (filled : value ≠ "") :
      Stands lookup (.named name fallback) value.toList
  | fallback {name text : List Char}
      (unset : ¬ IsSet lookup (String.ofList name)) :
      Stands lookup (.named name (some text)) text

/-- Why a segment stands for nothing. -/
inductive Fails (lookup : Variables) : Segment → TemplateFault → Prop where
  | missing {name : List Char}
      (unset : ¬ IsSet lookup (String.ofList name)) :
      Fails lookup (.named name none) (.missing (String.ofList name))
  | invalidName (name : List Char) :
      Fails lookup (.invalidName name) (.invalidName (String.ofList name))
  | unterminated : Fails lookup .unterminated .unterminated

/-- The text of a segment, computed. -/
def Segment.text (lookup : Variables) :
    Segment → Except TemplateFault (List Char)
  | .literal text => .ok text
  | .dollar => .ok ['$']
  | .escape => .ok ['$', '\x7b']
  | .named name fallback =>
    match valueOf? lookup name, fallback with
    | some value, _ => .ok value
    | none, some text => .ok text
    | none, none => .error (.missing (String.ofList name))
  | .invalidName name => .error (.invalidName (String.ofList name))
  | .unterminated => .error .unterminated

/-! ## One segment -/

section One

variable {lookup other : Variables} {name : List Char}

theorem valueOf?_eq_some_iff {value : List Char} :
    valueOf? lookup name = some value ↔
      ∃ text, lookup (String.ofList name) = some text ∧ text ≠ "" ∧
        text.toList = value := by
  unfold valueOf?
  simp only [Option.map_eq_some_iff, Option.filter_eq_some_iff,
    Bool.not_eq_true', String.isEmpty_eq_false_iff, and_assoc]

theorem isSet_iff :
    IsSet lookup (String.ofList name) ↔
      ∃ value, valueOf? lookup name = some value := by
  simp only [valueOf?_eq_some_iff]
  constructor
  · rintro ⟨text, held, filled⟩
    exact ⟨_, text, held, filled, rfl⟩
  · rintro ⟨_, text, held, filled, _⟩
    exact ⟨text, held, filled⟩

theorem valueOf?_eq_none_iff :
    valueOf? lookup name = none ↔
      ¬ IsSet lookup (String.ofList name) := by
  rw [isSet_iff, not_exists, Option.eq_none_iff_forall_ne_some]

theorem text_eq_ok_iff {segment : Segment} {text : List Char} :
    segment.text lookup = .ok text ↔ Stands lookup segment text := by
  constructor
  · intro found
    cases segment with
    | literal text =>
        cases found
        exact .literal _
    | dollar =>
        cases found
        exact .dollar
    | escape =>
        cases found
        exact .escape
    | named name fallback =>
        simp only [Segment.text] at found
        split at found
        · rename_i value held
          rcases valueOf?_eq_some_iff.mp held with
            ⟨value, named, filled, rfl⟩
          cases found
          exact .value named filled
        · rename_i unset
          cases found
          exact .fallback (valueOf?_eq_none_iff.mp unset)
        · cases found
    | invalidName name => cases found
    | unterminated => cases found
  · intro stands
    cases stands with
    | literal text => rfl
    | dollar => rfl
    | escape => rfl
    | value held filled =>
        have found := valueOf?_eq_some_iff.mpr ⟨_, held, filled, rfl⟩
        simp only [Segment.text, found]
    | fallback unset =>
        simp only [Segment.text, valueOf?_eq_none_iff.mpr unset]

theorem text_eq_error_iff {segment : Segment} {fault : TemplateFault} :
    segment.text lookup = .error fault ↔ Fails lookup segment fault := by
  constructor
  · intro found
    cases segment with
    | literal text => cases found
    | dollar => cases found
    | escape => cases found
    | named name fallback =>
        simp only [Segment.text] at found
        split at found
        · cases found
        · cases found
        · rename_i unset
          cases found
          exact .missing (valueOf?_eq_none_iff.mp unset)
    | invalidName name =>
        cases found
        exact .invalidName _
    | unterminated =>
        cases found
        exact .unterminated
  · intro fails
    cases fails with
    | missing unset =>
        simp only [Segment.text, valueOf?_eq_none_iff.mpr unset]
    | invalidName name => rfl
    | unterminated => rfl

/-- Whether a segment stands for something depends on what is set only. -/
theorem text_alike
    (agree : ∀ name, IsSet lookup name ↔ IsSet other name)
    (segment : Segment) :
    SameOutcome (fun _ _ => True) (segment.text lookup)
      (segment.text other) := by
  cases segment with
  | named name fallback =>
      have same := agree (String.ofList name)
      rw [isSet_iff, isSet_iff] at same
      simp only [Segment.text]
      cases held : valueOf? lookup name with
      | some value =>
          rcases same.mp ⟨value, held⟩ with ⟨otherValue, otherHeld⟩
          rw [otherHeld]
          exact .given trivial
      | none =>
          have unset : valueOf? other name = none := by
            rw [valueOf?_eq_none_iff, isSet_iff, ← same, held]
            simp
          rw [unset]
          exact .refl (fun _ => trivial) _
  | literal _ | dollar | escape | invalidName _ | unterminated =>
      exact .refl (fun _ => trivial) _

end One

/-! ## The whole text -/

theorem renderRest_cons (lookup : Variables) {character : Char}
    {rest : List Char}
    (noEscape : character = '$' → ¬ ['$', '\x7b'] <+: rest)
    (noToken : character = '$' → ¬ ['\x7b'] <+: rest) :
    renderRest lookup (character :: rest) =
      (character :: ·) <$> renderRest lookup rest := by
  rw [renderRest]
  · rfl
  · rintro behind same rfl
    exact noEscape same ⟨behind, rfl⟩
  · rintro behind same rfl
    exact noToken same ⟨behind, rfl⟩

theorem renderRest_closed (lookup : Variables) {body : List Char}
    (closed : '\x7d' ∉ body) (rest : List Char) :
    renderRest lookup ('$' :: '\x7b' :: (body ++ '\x7d' :: rest)) =
      substitute lookup body >>= fun text =>
        (text ++ ·) <$> renderRest lookup rest := by
  have cut := Text.cutCharacters?_append closed rest
  rw [renderRest]
  split
  · rename_i found
    rw [found] at cut
    cases cut
  · rename_i found
    rw [found] at cut
    cases cut
    rfl

theorem substitute_of_splits (lookup : Variables) {body name : List Char}
    {fallback : Option (List Char)}
    (splits : Splits body name fallback) :
    substitute lookup body =
      if isName name then (Segment.named name fallback).text lookup
      else (Segment.invalidName name).text lookup := by
  rw [substitute, splitBody_of_splits splits]
  rfl

theorem renderRest_plain (lookup : Variables) {text : List Char}
    (plain : '$' ∉ text) (rest : List Char) :
    renderRest lookup (text ++ rest) =
      (text ++ ·) <$> renderRest lookup rest := by
  induction text with
  | nil => exact (id_map _).symm
  | cons character text induction =>
      rw [List.mem_cons, not_or] at plain
      have differs : character ≠ '$' := Ne.symm plain.1
      rw [List.cons_append, renderRest_cons lookup
        (fun same => (differs same).elim)
        (fun same => (differs same).elim), induction plain.2]
      exact (comp_map _ _ _).symm

/-- The texts of segments one after the other. -/
def joined (lookup : Variables) (found : List Segment) :
    Except TemplateFault (List Char) :=
  List.flatten <$> found.mapM (Segment.text lookup)

theorem joined_cons (lookup : Variables) (segment : Segment)
    (rest : List Segment) :
    joined lookup (segment :: rest) =
      segment.text lookup >>= fun text =>
        (text ++ ·) <$> joined lookup rest := by
  unfold joined
  rw [List.mapM_cons]
  cases segment.text lookup with
  | error fault => rfl
  | ok text => cases rest.mapM (Segment.text lookup) <;> rfl

/-- The one pass over a text gives what its segments give. -/
theorem renderRest_of_reads (lookup : Variables) {characters : List Char}
    {found : List Segment} (reads : Reads characters found) :
    renderRest lookup characters = joined lookup found := by
  induction reads with
  | done =>
      rw [renderRest]
      rfl
  | @literal text rest behind filled plain longest tail induction =>
      rw [renderRest_plain lookup plain, induction, joined_cons]
      rfl
  | dollar noToken noEscape tail induction =>
      rw [renderRest_cons lookup (fun _ => noEscape) (fun _ => noToken),
        induction, joined_cons]
      rfl
  | escape tail induction =>
      rw [renderRest, induction, joined_cons]
      cases joined lookup _ <;> rfl
  | named closed splits valid tail induction =>
      rw [renderRest_closed lookup closed, induction, joined_cons,
        substitute_of_splits lookup splits, if_pos valid]
  | invalidName closed splits invalid =>
      rw [renderRest_closed lookup closed, joined_cons,
        substitute_of_splits lookup splits, if_neg (by simp [invalid])]
      rfl
  | @unterminated rest unclosed =>
      have uncut := Text.cutCharacters?_eq_none_iff.mpr unclosed
      rw [renderRest]
      split
      · rfl
      · rename_i found
        rw [found] at uncut
        cases uncut

theorem joined_eq_ok_iff {lookup : Variables} {found : List Segment}
    {text : List Char} :
    joined lookup found = .ok text ↔
      ∃ texts, List.Forall₂ (Stands lookup) found texts ∧
        texts.flatten = text := by
  simp only [joined, map_eq_ok_iff, mapM_eq_ok_iff, text_eq_ok_iff]

/-- What holds of all segments and their texts holds of each segment. -/
theorem exists_of_forall₂ {relation : Segment → List Char → Prop}
    {found : List Segment} {texts : List (List Char)}
    (each : List.Forall₂ relation found texts) {segment : Segment}
    (member : segment ∈ found) : ∃ text, relation segment text := by
  induction each with
  | nil => cases member
  | cons first _ induction =>
      rcases List.mem_cons.mp member with rfl | later
      · exact ⟨_, first⟩
      · exact induction later

theorem joined_eq_error_iff {lookup : Variables} {found : List Segment}
    {fault : TemplateFault} :
    joined lookup found = .error fault ↔
      ∃ front segment behind, found = front ++ segment :: behind ∧
        (∀ earlier ∈ front, ∃ text, Stands lookup earlier text) ∧
        Fails lookup segment fault := by
  simp only [joined, map_eq_error_iff, mapM_eq_error_iff, text_eq_ok_iff,
    text_eq_error_iff]

theorem joined_alike {lookup other : Variables}
    (agree : ∀ name, IsSet lookup name ↔ IsSet other name)
    (found : List Segment) :
    SameOutcome (fun _ _ => True) (joined lookup found)
      (joined other found) := by
  have each : SameOutcome (List.Forall₂ fun _ _ => True)
      (found.mapM (Segment.text lookup))
      (found.mapM (Segment.text other)) := by
    have itself : List.Forall₂ (fun first second => first = second)
        found found := List.forall₂_same.mpr fun _ _ => rfl
    refine SameOutcome.mapM itself ?_
    rintro segment _ rfl
    exact text_alike agree segment
  exact each.bind fun _ _ _ => .given trivial

theorem render_of_reads (lookup : Variables) {template : String}
    {found : List Segment} (reads : Reads template.toList found) :
    render lookup template = String.ofList <$> joined lookup found := by
  rw [render, renderRest_of_reads lookup reads]
  rfl

/-! ## One variable and nothing else -/

theorem isSingleVariable_iff {template : String} :
    isSingleVariable template = true ↔
      ∃ body, template.toList = '$' :: '\x7b' :: (body ++ ['\x7d']) ∧
        '$' ∉ body ∧ '\x7d' ∉ body := by
  have counts : ∀ body : List Char,
      (('$' :: '\x7b' :: (body ++ ['\x7d'])).count '$' = 1 ↔
        '$' ∉ body) ∧
      (('$' :: '\x7b' :: (body ++ ['\x7d'])).count '\x7d' = 1 ↔
        '\x7d' ∉ body) := by
    intro body
    simp [List.count_append, List.count_eq_zero]
  unfold isSingleVariable
  simp only [Bool.and_eq_true, beq_iff_eq, List.isPrefixOf_iff_prefix]
  constructor
  · rintro ⟨⟨⟨⟨rest, equal⟩, last⟩, dollars⟩, braces⟩
    rcases List.getLast?_eq_some_iff.mp last with ⟨front, ending⟩
    rw [ending] at equal
    obtain ⟨body, rfl⟩ : ∃ body, front = '$' :: '\x7b' :: body := by
      cases front with
      | nil => cases equal
      | cons first front =>
          cases front with
          | nil => cases equal
          | cons second body =>
              cases equal
              exact ⟨body, rfl⟩
    rw [ending] at dollars braces
    exact ⟨body, ending, (counts body).1.mp dollars,
      (counts body).2.mp braces⟩
  · rintro ⟨body, equal, noDollar, noBrace⟩
    rw [equal]
    refine ⟨⟨⟨⟨body ++ ['\x7d'], rfl⟩, ?_⟩, (counts body).1.mpr noDollar⟩,
      (counts body).2.mpr noBrace⟩
    exact List.getLast?_eq_some_iff.mpr ⟨'$' :: '\x7b' :: body, rfl⟩

/-- What is filled in and looks like one variable is one. -/
theorem reads_of_isSingleVariable {lookup : Variables}
    {template text : String} (single : isSingleVariable template = true)
    (rendered : render lookup template = .ok text) :
    ∃ name fallback, Reads template.toList [.named name fallback] := by
  rcases isSingleVariable_iff.mp single with ⟨body, equal, _, closed⟩
  have split := segments_closed closed []
  rw [← equal, segments] at split
  by_cases valid : isName (splitBody body).1 = true
  · rw [if_pos valid] at split
    exact ⟨_, _, reads_iff.mpr split⟩
  · rw [if_neg valid] at split
    rw [render_of_reads lookup (reads_iff.mpr split)] at rendered
    cases rendered

/-- A text without a dollar sign stands for itself. -/
theorem render_of_plain (lookup : Variables) {text : String}
    (plain : '$' ∉ text.toList) : render lookup text = .ok text := by
  have found := renderRest_plain lookup plain []
  rw [List.append_nil] at found
  rw [render, found, renderRest]
  exact congrArg Except.ok (by simp)

/--
A template falls into segments that its text alone determines.  Whatever the
variables hold, it stands for what its segments stand for, and if one of
them stands for nothing it fails as the first such segment does; so whether
and how it fails depends only on which variables are set.
-/
theorem render_exact (template : String) :
    ∃ found : List Segment,
      (∀ others, Reads template.toList others ↔ others = found) ∧
      (∀ lookup text, render lookup template = .ok text ↔
        ∃ texts, List.Forall₂ (Stands lookup) found texts ∧
          text = String.ofList texts.flatten) ∧
      (∀ lookup fault, render lookup template = .error fault ↔
        ∃ front segment behind, found = front ++ segment :: behind ∧
          (∀ earlier ∈ front, ∃ text, Stands lookup earlier text) ∧
          Fails lookup segment fault) ∧
      ∀ lookup other, (∀ name, IsSet lookup name ↔ IsSet other name) →
        ((∃ text, render lookup template = .ok text) ∧
          ∃ text, render other template = .ok text) ∨
        ∃ fault, render lookup template = .error fault ∧
          render other template = .error fault := by
  have reads := reads_segments template.toList
  refine ⟨segments template.toList, ?_, ?_, ?_, ?_⟩
  · intro others
    rw [reads_iff]
    exact eq_comm
  · intro lookup text
    rw [render_of_reads lookup reads, map_eq_ok_iff]
    constructor
    · rintro ⟨characters, found, rfl⟩
      rcases joined_eq_ok_iff.mp found with ⟨texts, each, rfl⟩
      exact ⟨texts, each, rfl⟩
    · rintro ⟨texts, each, rfl⟩
      exact ⟨_, joined_eq_ok_iff.mpr ⟨texts, each, rfl⟩, rfl⟩
  · intro lookup fault
    rw [render_of_reads lookup reads, map_eq_error_iff]
    exact joined_eq_error_iff
  · intro lookup other agree
    rw [render_of_reads lookup reads, render_of_reads other reads]
    have same := joined_alike agree (segments template.toList)
    generalize joined lookup _ = first at same ⊢
    generalize joined other _ = second at same ⊢
    cases same with
    | refused fault => exact .inr ⟨fault, rfl, rfl⟩
    | given _ => exact .inl ⟨⟨_, rfl⟩, _, rfl⟩

/-- Of two values of a variable one looks like a variable itself. -/
theorem render_exact_nested :
    (∀ name,
      IsSet (fun name => if name = "A" then some "x" else none) name ↔
        IsSet (fun name => if name = "A" then some "$\x7bB\x7d" else none)
          name) ∧
    ((∃ text, render (fun name => if name = "A" then some "x" else none)
        "$5 $\x7bA\x7d" = .ok text) ∧
      ∃ text, render (fun name => if name = "A" then some "$\x7bB\x7d"
        else none) "$5 $\x7bA\x7d" = .ok text) := by
  have agree : ∀ name,
      IsSet (fun name => if name = "A" then some "x" else none) name ↔
        IsSet (fun name => if name = "A" then some "$\x7bB\x7d" else none)
          name := by
    intro name
    by_cases same : name = "A" <;> simp [IsSet, same]
  refine ⟨agree, ?_⟩
  rcases render_exact "$5 $\x7bA\x7d" with ⟨found, _, _, _, alike⟩
  rcases alike _ _ agree with both | ⟨fault, refused, _⟩
  · exact both
  · have last : Reads ['$', '\x7b', 'A', '\x7d'] [.named ['A'] none] :=
      @Reads.named ['A'] ['A'] [] none [] (by decide) (.whole (by decide))
        (by decide) .done
    have middle : Reads (['5', ' '] ++ ['$', '\x7b', 'A', '\x7d'])
        [.literal ['5', ' '], .named ['A'] none] :=
      .literal (by decide) (by decide)
        (fun _ first => (Option.some.inj first).symm) last
    have reads : Reads "$5 $\x7bA\x7d".toList
        [.dollar, .literal ['5', ' '], .named ['A'] none] :=
      .dollar (by decide) (by decide) middle
    have rendered : render
        (fun name => if name = "A" then some "x" else none)
        "$5 $\x7bA\x7d" = .ok "$5 x" := by
      rw [render_of_reads _ reads]
      rfl
    cases rendered.symm.trans refused

end Gatehouse.Template

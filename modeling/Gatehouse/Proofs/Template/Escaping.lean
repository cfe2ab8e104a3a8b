import Gatehouse.Proofs.Template.Rendering

/-!
# Texts that stand for themselves

Every text can be written as a template: a dollar sign in front of each one
that opens a brace keeps it from naming a variable.  What is written in this
way never begins like a variable, and it is read as plain text, single
dollar signs and escapes, which together are the text.  Nothing is looked up.
-/

namespace Gatehouse.Template

/-- Characters with one more dollar sign in front of every opening. -/
def escaped : List Char → List Char
  | '$' :: '\x7b' :: rest => '$' :: '$' :: '\x7b' :: escaped rest
  | character :: rest => character :: escaped rest
  | [] => []

/-- A template that stands for a text. -/
def escape (text : String) : String :=
  String.ofList (escaped text.toList)

/-! ## How an escaped text begins -/

theorem escaped_cons {character : Char} {rest : List Char}
    (noOpening : ¬ ['$', '\x7b'] <+: character :: rest) :
    escaped (character :: rest) = character :: escaped rest := by
  rw [escaped]
  rintro behind rfl rfl
  exact noOpening ⟨behind, rfl⟩

/-- Escaped texts begin with an escape or as the text itself does. -/
theorem escaped_eq_cons {characters rest : List Char} {first : Char}
    (shape : escaped characters = first :: rest) :
    (∃ behind, characters = '$' :: '\x7b' :: behind ∧ first = '$' ∧
      rest = '$' :: '\x7b' :: escaped behind) ∨
    ∃ behind, characters = first :: behind ∧ rest = escaped behind := by
  cases characters with
  | nil => cases shape
  | cons character remaining =>
      by_cases opening : ['$', '\x7b'] <+: character :: remaining
      · rcases opening with ⟨behind, equal⟩
        cases equal
        cases shape
        exact .inl ⟨behind, rfl, rfl, rfl⟩
      · rw [escaped_cons opening] at shape
        cases shape
        exact .inr ⟨remaining, rfl, rfl⟩

theorem escaped_eq_nil {characters : List Char}
    (shape : escaped characters = []) : characters = [] := by
  cases characters with
  | nil => rfl
  | cons character rest =>
      by_cases opening : ['$', '\x7b'] <+: character :: rest
      · rcases opening with ⟨behind, equal⟩
        cases equal
        cases shape
      · rw [escaped_cons opening] at shape
        cases shape

/-- An escaped text does not begin like a variable. -/
theorem escaped_ne_opening (characters rest : List Char) :
    escaped characters ≠ '$' :: '\x7b' :: rest := by
  intro shape
  rcases escaped_eq_cons shape with
    ⟨behind, _, _, equal⟩ | ⟨behind, rfl, equal⟩
  · cases equal
  -- The brace would stand behind the dollar sign in the text itself.
  · rcases escaped_eq_cons equal.symm with
      ⟨_, _, brace, _⟩ | ⟨last, rfl, _⟩
    · cases brace
    · cases shape

/-- Text without a dollar sign is the same in an escaped text. -/
theorem escaped_eq_append {characters text rest : List Char}
    (plain : '$' ∉ text) (shape : escaped characters = text ++ rest) :
    ∃ behind, characters = text ++ behind ∧ escaped behind = rest := by
  induction text generalizing characters with
  | nil => exact ⟨characters, rfl, shape⟩
  | cons character text induction =>
      rw [List.mem_cons, not_or] at plain
      rcases escaped_eq_cons shape with
        ⟨_, _, dollar, _⟩ | ⟨remaining, rfl, tail⟩
      · exact (plain.1 dollar.symm).elim
      · rcases induction plain.2 tail.symm with ⟨behind, rfl, equal⟩
        exact ⟨behind, rfl, equal⟩

/-- A text without an opening is escaped as it is. -/
theorem escaped_of_plain {characters : List Char}
    (plain : ¬ ['$', '\x7b'] <:+: characters) :
    escaped characters = characters := by
  induction characters with
  | nil => rfl
  | cons character rest induction =>
      rw [List.infix_cons_iff, not_or] at plain
      rw [escaped_cons plain.1, induction plain.2]

/-! ## What an escaped text stands for -/

/-- What a segment stands for whatever the variables hold. -/
inductive Verbatim : Segment → List Char → Prop where
  | literal (text : List Char) : Verbatim (.literal text) text
  | dollar : Verbatim .dollar ['$']
  | escape : Verbatim .escape ['$', '\x7b']

theorem Verbatim.stands {segment : Segment} {text : List Char}
    (verbatim : Verbatim segment text) (lookup : Variables) :
    Stands lookup segment text := by
  cases verbatim with
  | literal text => exact .literal text
  | dollar => exact .dollar
  | escape => exact .escape

/-- An escaped text is read without any variable, as the text it is. -/
theorem verbatim_of_reads {characters template : List Char}
    {found : List Segment} (shape : escaped characters = template)
    (reads : Reads template found) :
    ∃ texts, List.Forall₂ Verbatim found texts ∧
      texts.flatten = characters := by
  induction reads generalizing characters with
  | done => exact ⟨[], .nil, (escaped_eq_nil shape).symm⟩
  | literal filled plain longest tail induction =>
      rcases escaped_eq_append plain shape with ⟨behind, rfl, equal⟩
      rcases induction equal with ⟨texts, each, rfl⟩
      exact ⟨_ :: texts, .cons (.literal _) each, rfl⟩
  | dollar noToken noEscape tail induction =>
      rcases escaped_eq_cons shape with
        ⟨behind, _, _, rfl⟩ | ⟨behind, rfl, equal⟩
      · exact (noEscape ⟨_, rfl⟩).elim
      · rcases induction equal.symm with ⟨texts, each, rfl⟩
        exact ⟨_ :: texts, .cons .dollar each, rfl⟩
  | escape tail induction =>
      rcases escaped_eq_cons shape with
        ⟨behind, rfl, _, equal⟩ | ⟨behind, _, equal⟩
      · cases equal
        rcases induction rfl with ⟨texts, each, rfl⟩
        exact ⟨_ :: texts, .cons .escape each, rfl⟩
      · exact (escaped_ne_opening behind _ equal.symm).elim
  | named | invalidName | unterminated =>
      exact (escaped_ne_opening characters _ shape).elim

theorem toList_escape (text : String) :
    (escape text).toList = escaped text.toList :=
  String.toList_ofList

/-- An escaped text is the text again, whatever the variables hold. -/
theorem render_escape (lookup : Variables) (text : String) :
    render lookup (escape text) = .ok text := by
  have reads := reads_segments (escape text).toList
  rcases verbatim_of_reads (toList_escape text).symm reads with
    ⟨texts, each, whole⟩
  have stand : List.Forall₂ (Stands lookup)
      (segments (escape text).toList) texts :=
    each.imp fun _ _ verbatim => verbatim.stands lookup
  rw [render_of_reads lookup reads,
    joined_eq_ok_iff.mpr ⟨texts, stand, whole⟩]
  exact congrArg Except.ok String.ofList_toList

/-- No part of an escaped text names a variable. -/
theorem not_named_of_reads_escape {text : String} {found : List Segment}
    (reads : Reads (escape text).toList found) (name : List Char)
    (fallback : Option (List Char)) :
    .named name fallback ∉ found := by
  intro member
  rcases verbatim_of_reads (toList_escape text).symm reads with
    ⟨texts, each, _⟩
  rcases exists_of_forall₂ each member with ⟨_, verbatim⟩
  cases verbatim

/-- An escaped text does not look like one variable and nothing else. -/
theorem isSingleVariable_escape (text : String) :
    isSingleVariable (escape text) = false := by
  rw [← Bool.not_eq_true, isSingleVariable_iff, toList_escape]
  rintro ⟨body, shape, _⟩
  exact escaped_ne_opening text.toList _ shape

theorem escape_of_plain {text : String}
    (plain : ¬ ['$', '\x7b'] <:+: text.toList) : escape text = text := by
  rw [escape, escaped_of_plain plain]
  exact String.ofList_toList

end Gatehouse.Template

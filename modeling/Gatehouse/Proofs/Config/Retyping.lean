import Gatehouse.Proofs.Config.Shape
import Mathlib

/-!
# Strings that turn into booleans and numbers

A string that is one variable in its braces is read again once its text is
known, and becomes the boolean or the number that the text spells.  Whether
a string is one variable is told by counting dollar signs and closing braces,
not by reading it.  The main statement says exactly when the two agree: a
closing brace never makes a difference, but a dollar sign in the default
does, and a variable with such a default stays a string whatever its value.
-/

namespace Gatehouse.Template

theorem not_mem_dollar_of_isName {name : List Char}
    (valid : isName name = true) : '$' ∉ name := by
  intro member
  rw [isName, Bool.and_eq_true, List.all_eq_true] at valid
  exact absurd (valid.2 '$' member) (by decide)

/-- A dollar sign between braces stands in the default. -/
theorem Splits.mem_dollar_iff {body name : List Char}
    {fallback : Option (List Char)} (splits : Splits body name fallback)
    (valid : isName name = true) :
    '$' ∈ body ↔ ∃ text ∈ fallback, '$' ∈ text := by
  have plain := not_mem_dollar_of_isName valid
  cases splits with
  | whole uncut => simp [plain]
  | cut first => simp [plain]

/-- One variable looks like one, unless there is a dollar sign in its default. -/
theorem isSingleVariable_iff_of_reads {template : String}
    {name : List Char} {fallback : Option (List Char)}
    (reads : Reads template.toList [.named name fallback]) :
    isSingleVariable template = true ↔ ∀ text ∈ fallback, '$' ∉ text := by
  rw [isSingleVariable_iff]
  generalize template.toList = characters at reads ⊢
  cases reads with
  | @named body _ _ _ _ closed splits valid tail =>
      cases tail
      have inside := splits.mem_dollar_iff valid
      constructor
      · rintro ⟨other, equal, plain, _⟩ text given member
        obtain rfl : body = other := by simpa using equal
        exact plain (inside.mpr ⟨text, given, member⟩)
      · intro plain
        refine ⟨body, rfl, ?_, closed⟩
        rintro member
        rcases inside.mp member with ⟨text, given, dollar⟩
        exact plain text given dollar

/-- A text without a dollar sign does not look like a variable. -/
theorem mem_dollar_of_isSingleVariable {template : String}
    (single : isSingleVariable template = true) :
    '$' ∈ template.toList := by
  rcases isSingleVariable_iff.mp single with ⟨body, equal, _⟩
  rw [equal]
  exact List.mem_cons_self

end Gatehouse.Template

namespace Gatehouse.Config

open Gatehouse.Outcome
open Gatehouse.Yaml

/-- A text that, read again, is a boolean or a number. -/
inductive SpellsScalar (text : String) : Value → Prop where
  | bool {value : Bool} (read : Yaml.read text = .ok (.bool value)) :
      SpellsScalar text (.bool value)
  | number {value : Number} (read : Yaml.read text = .ok (.number value)) :
      SpellsScalar text (.number value)

/-- One variable in its braces, with a default that holds no dollar sign. -/
def IsPlainToken (text : String) : Prop :=
  ∃ name fallback, Template.Reads text.toList [.named name fallback] ∧
    ∀ given ∈ fallback, '$' ∉ given

theorem scalarOf?_eq_some_iff {text : String} {value : Value} :
    scalarOf? text = some value ↔ SpellsScalar text value := by
  constructor
  · intro found
    rcases scalarOf?_eq_some found with
      ⟨held, read, rfl⟩ | ⟨held, read, rfl⟩
    · exact .bool read
    · exact .number read
  · intro spells
    cases spells with
    | bool read => rw [scalarOf?, read]
    | number read => rw [scalarOf?, read]

section Resolving

variable {lookup : Variables} {text rendered : String}

theorem isSingleVariable_iff_isPlainToken
    (done : Template.render lookup text = .ok rendered) :
    Template.isSingleVariable text = true ↔ IsPlainToken text := by
  constructor
  · intro single
    rcases Template.reads_of_isSingleVariable single done with
      ⟨name, fallback, reads⟩
    exact ⟨name, fallback, reads,
      (Template.isSingleVariable_iff_of_reads reads).mp single⟩
  · rintro ⟨name, fallback, reads, plain⟩
    exact (Template.isSingleVariable_iff_of_reads reads).mpr plain

/-- What becomes of a string is made of its text and of how it looks. -/
theorem resolveString_of_render
    (done : Template.render lookup text = .ok rendered) :
    resolveString lookup text = .ok
      (if Template.isSingleVariable text then
        (scalarOf? rendered).getD (.string rendered)
      else .string rendered) := by
  unfold resolveString
  by_cases dollar : '$' ∈ text.toList
  · rw [if_pos (List.contains_iff_mem.mpr dollar), done]
    by_cases single : Template.isSingleVariable text = true
    · rw [if_pos single]
      exact if_pos single
    · rw [if_neg single]
      exact if_neg single
  · have same := Template.render_of_plain lookup dollar
    obtain rfl := Except.ok.inj (done.symm.trans same)
    have several : ¬ Template.isSingleVariable rendered = true :=
      fun single =>
        dollar (Template.mem_dollar_of_isSingleVariable single)
    rw [if_neg (by simpa using dollar), if_neg several]

/--
A string that can be filled in becomes a boolean or a number exactly if it
is one variable, no dollar sign is in its default, and its text spells that
boolean or number; in every other case it becomes its text.  So one variable
stays a string if there is a dollar sign in its default.
-/
theorem resolveString_exact
    (done : Template.render lookup text = .ok rendered) :
    (∀ value, resolveString lookup text = .ok value ↔
      (IsPlainToken text ∧ SpellsScalar rendered value) ∨
      (¬ (IsPlainToken text ∧ ∃ scalar, SpellsScalar rendered scalar) ∧
        value = .string rendered)) ∧
    ∀ name fallback,
      Template.Reads text.toList [.named name (some fallback)] →
      '$' ∈ fallback → resolveString lookup text = .ok (.string rendered) := by
  have looks := isSingleVariable_iff_isPlainToken done
  rw [resolveString_of_render done]
  constructor
  · intro value
    rw [← looks, Except.ok.injEq]
    by_cases single : Template.isSingleVariable text = true
    · simp only [single, if_true, true_and, ← scalarOf?_eq_some_iff]
      cases scalarOf? rendered with
      | none => simp [eq_comm]
      | some scalar => simp
    · simp [single, eq_comm]
  · intro name fallback reads dollar
    have several : ¬ Template.isSingleVariable text = true := by
      rw [Template.isSingleVariable_iff_of_reads reads]
      exact fun plain => plain fallback rfl dollar
    rw [if_neg several]

end Resolving

theorem spellsScalar_true : SpellsScalar "true" (.bool true) :=
  .bool (by cbv)

/-- A flag with a default becomes the boolean that the variable holds. -/
theorem resolveString_exact_flag :
    Template.render (fun _ => some "true") "$\x7bDEBUG:-no\x7d" =
        .ok "true" ∧
      resolveString (fun _ => some "true") "$\x7bDEBUG:-no\x7d" =
        .ok (.bool true) := by
  have reads : Template.Reads "$\x7bDEBUG:-no\x7d".toList
      [.named "DEBUG".toList (some "no".toList)] :=
    @Template.Reads.named "DEBUG:-no".toList "DEBUG".toList []
      (some "no".toList) [] (by decide)
      (@Template.Splits.cut "DEBUG".toList "no".toList (by decide))
      (by decide) .done
  have done : Template.render (fun _ => some "true") "$\x7bDEBUG:-no\x7d" =
      .ok "true" := by
    rw [Template.render_of_reads _ reads]
    rfl
  have plain : IsPlainToken "$\x7bDEBUG:-no\x7d" :=
    ⟨_, _, reads, fun given same => Option.some.inj same ▸ by decide⟩
  exact ⟨done, ((resolveString_exact done).1 _).mpr
    (.inl ⟨plain, spellsScalar_true⟩)⟩

/-- The same flag is a string if the default, which is not used, is `$5`. -/
theorem resolveString_dollar_default :
    Template.Reads "$\x7bDEBUG:-$5\x7d".toList
        [.named "DEBUG".toList (some "$5".toList)] ∧
      Template.render (fun _ => some "true") "$\x7bDEBUG:-$5\x7d" =
        .ok "true" ∧
      SpellsScalar "true" (.bool true) ∧
      resolveString (fun _ => some "true") "$\x7bDEBUG:-$5\x7d" =
        .ok (.string "true") := by
  have reads : Template.Reads "$\x7bDEBUG:-$5\x7d".toList
      [.named "DEBUG".toList (some "$5".toList)] :=
    @Template.Reads.named "DEBUG:-$5".toList "DEBUG".toList []
      (some "$5".toList) [] (by decide)
      (@Template.Splits.cut "DEBUG".toList "$5".toList (by decide))
      (by decide) .done
  have done : Template.render (fun _ => some "true") "$\x7bDEBUG:-$5\x7d" =
      .ok "true" := by
    rw [Template.render_of_reads _ reads]
    rfl
  refine ⟨reads, done, spellsScalar_true, ?_⟩
  rw [resolveString_of_render done]
  rfl

end Gatehouse.Config

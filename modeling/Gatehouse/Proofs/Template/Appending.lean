import Gatehouse.Proofs.Template.Rendering

/-!
# Templates one after the other

Reading a template looks ahead for braces, yet a template that can be filled
in closes every brace that it opens, so what stands behind it is read as if
it stood alone.  Only dollar signs at the end, two at most, wait for what
follows: a brace behind them opens a variable or completes an escape.  Main
statement: two templates one after the other stand for what each of them
stands for, and fail as the second one does, exactly if the first one does
not end in a dollar sign.
-/

namespace Gatehouse.Template

open Gatehouse.Outcome

/-! ## Results one after the other -/

/-- One text behind another, unless one of the two is refused. -/
def followed (front back : Except TemplateFault (List Char)) :
    Except TemplateFault (List Char) :=
  front >>= fun text => (text ++ ·) <$> back

theorem followed_ok (text : List Char)
    (back : Except TemplateFault (List Char)) :
    followed (.ok text) back = (text ++ ·) <$> back :=
  rfl

theorem followed_nil (front : Except TemplateFault (List Char)) :
    followed front (.ok []) = front := by
  cases front with
  | error fault => rfl
  | ok text => exact congrArg Except.ok (List.append_nil text)

theorem nil_followed (back : Except TemplateFault (List Char)) :
    followed (.ok []) back = back :=
  id_map back

theorem followed_assoc
    (first second third : Except TemplateFault (List Char)) :
    followed (followed first second) third =
      followed first (followed second third) := by
  cases first with
  | error fault => rfl
  | ok text =>
      cases second with
      | error fault => rfl
      | ok other =>
          cases third with
          | error fault => rfl
          | ok last =>
              exact congrArg Except.ok (List.append_assoc text other last)

theorem followed_eq_ok_iff {front back : Except TemplateFault (List Char)}
    {text : List Char} :
    followed front back = .ok text ↔
      ∃ former latter, front = .ok former ∧ back = .ok latter ∧
        former ++ latter = text := by
  simp only [followed, bind_eq_ok_iff, map_eq_ok_iff, exists_and_left]

/-! ## What waits for the text behind -/

/-- The dollar signs at the end of a text that what follows can take up. -/
inductive Pending (front : List Char) : List Char → Prop where
  | nothing (ends : front.getLast? ≠ some '$') : Pending front []
  | dollar (ends : front.getLast? = some '$') : Pending front ['$']
  | dollars (ends : front.getLast? = some '$') : Pending front ['$', '$']

theorem exists_pending (front : List Char) :
    ∃ ending, Pending front ending := by
  by_cases ends : front.getLast? = some '$'
  · exact ⟨['$'], .dollar ends⟩
  · exact ⟨[], .nothing ends⟩

/-- What is in front of the end does not count. -/
theorem Pending.behind {rest ending : List Char}
    (pending : Pending rest ending) (front : List Char)
    (kept : rest = [] → front.getLast? ≠ some '$') :
    Pending (front ++ rest) ending := by
  have last : (front ++ rest).getLast? = some '$' ↔
      rest.getLast? = some '$' := by
    cases rest with
    | nil =>
        rw [List.append_nil]
        exact iff_of_false (kept rfl) nofun
    | cons next rest => rw [List.getLast?_append_cons]
  cases pending with
  | nothing ends => exact .nothing (fun found => ends (last.mp found))
  | dollar ends => exact .dollar (last.mpr ends)
  | dollars ends => exact .dollars (last.mpr ends)

section Ahead

variable {rest : List Char}

/-- A brace that is not there does not come from behind. -/
theorem noToken_append (filled : rest ≠ [])
    (noToken : ¬ ['\x7b'] <+: rest) (behind : List Char) :
    ¬ ['\x7b'] <+: rest ++ behind := by
  intro starts
  apply noToken
  exact List.prefix_of_prefix_length_le starts
    (List.prefix_append rest behind) (List.length_pos_iff.mpr filled)

/-- Nor does an escape, unless all there is is a dollar sign. -/
theorem noEscape_append (filled : rest ≠ []) (more : rest ≠ ['$'])
    (noEscape : ¬ ['$', '\x7b'] <+: rest) (behind : List Char) :
    ¬ ['$', '\x7b'] <+: rest ++ behind := by
  intro starts
  rcases rest with _ | ⟨first, _ | ⟨second, rest⟩⟩
  · exact filled rfl
  · rw [List.cons_append, List.cons_prefix_cons] at starts
    exact more (congrArg (· :: []) starts.1.symm)
  · apply noEscape
    exact List.prefix_of_prefix_length_le starts
      (List.prefix_append _ behind) (by simp)

end Ahead

/-! ## Text behind a template -/

theorem renderRest_escape (lookup : Variables) (rest : List Char) :
    renderRest lookup ('$' :: '$' :: '\x7b' :: rest) =
      followed (.ok ['$', '\x7b']) (renderRest lookup rest) := by
  rw [renderRest]
  cases renderRest lookup rest <;> rfl

theorem renderRest_braced (lookup : Variables) {body : List Char}
    (shut : '\x7d' ∉ body) (rest : List Char) :
    renderRest lookup ('$' :: '\x7b' :: (body ++ '\x7d' :: rest)) =
      followed (substitute lookup body) (renderRest lookup rest) :=
  renderRest_closed lookup shut rest

/--
If no brace is left open, a template is filled in before what stands behind
it, all but the dollar signs at its end.
-/
theorem exists_settled (lookup : Variables) {front : List Char}
    {found : List Segment} (reads : Reads front found)
    (closed : .unterminated ∉ found) :
    ∃ settled ending, Pending front ending ∧ ∀ behind,
      renderRest lookup (front ++ behind) =
        followed settled (renderRest lookup (ending ++ behind)) := by
  induction reads with
  | done =>
      exact ⟨.ok [], [], .nothing nofun, fun _ => (nil_followed _).symm⟩
  | @literal text rest found filled plain longest tail induction =>
      rcases induction (closed ∘ List.mem_cons_of_mem _) with
        ⟨settled, ending, pending, each⟩
      have kept : text.getLast? ≠ some '$' :=
        fun last => plain (List.mem_of_getLast? last)
      refine ⟨followed (.ok text) settled, ending,
        pending.behind text fun _ => kept, ?_⟩
      intro behind
      rw [List.append_assoc, renderRest_plain lookup plain, each,
        followed_assoc, followed_ok]
  | @dollar rest found noToken noEscape tail induction =>
      rcases induction (closed ∘ List.mem_cons_of_mem _) with
        ⟨settled, ending, pending, each⟩
      by_cases filled : rest = []
      · subst filled
        exact ⟨.ok [], ['$'], .dollar rfl, fun _ => (nil_followed _).symm⟩
      by_cases more : rest = ['$']
      · subst more
        exact ⟨.ok [], ['$', '$'], .dollars rfl,
          fun _ => (nil_followed _).symm⟩
      refine ⟨followed (.ok ['$']) settled, ending,
        pending.behind ['$'] fun nothing => (filled nothing).elim, ?_⟩
      intro behind
      rw [List.cons_append, renderRest_cons lookup
          (fun _ => noEscape_append filled more noEscape behind)
          (fun _ => noToken_append filled noToken behind), each,
        followed_assoc, followed_ok]
      rfl
  | @escape rest found tail induction =>
      rcases induction (closed ∘ List.mem_cons_of_mem _) with
        ⟨settled, ending, pending, each⟩
      refine ⟨followed (.ok ['$', '\x7b']) settled, ending,
        pending.behind ['$', '$', '\x7b'] fun _ => by decide, ?_⟩
      intro behind
      rw [List.cons_append, List.cons_append, List.cons_append,
        renderRest_escape, each, followed_assoc]
  | @named body name rest fallback found shut splits valid tail induction =>
      rcases induction (closed ∘ List.mem_cons_of_mem _) with
        ⟨settled, ending, pending, each⟩
      have shape : '$' :: '\x7b' :: (body ++ '\x7d' :: rest) =
          (('$' :: '\x7b' :: body) ++ ['\x7d']) ++ rest := by simp
      have kept : (('$' :: '\x7b' :: body) ++ ['\x7d']).getLast? ≠
          some '$' := by
        rw [List.getLast?_concat]
        decide
      refine ⟨followed (substitute lookup body) settled, ending,
        shape ▸ pending.behind _ fun _ => kept, ?_⟩
      intro behind
      rw [List.cons_append, List.cons_append, List.append_assoc,
        List.cons_append, renderRest_braced lookup shut, each,
        followed_assoc]
  | @invalidName body name rest fallback shut splits invalid =>
      -- The refusal comes before anything behind the brace is read.
      rcases exists_pending ('$' :: '\x7b' :: (body ++ '\x7d' :: rest)) with
        ⟨ending, pending⟩
      refine ⟨.error (.invalidName (String.ofList name)), ending, pending, ?_⟩
      intro behind
      rw [List.cons_append, List.cons_append, List.append_assoc,
        List.cons_append, renderRest_braced lookup shut,
        substitute_of_splits lookup splits, if_neg (by simp [invalid])]
      rfl
  | unterminated unclosed => exact (closed List.mem_cons_self).elim

theorem renderRest_append (lookup : Variables) {front : List Char}
    {found : List Segment} (reads : Reads front found)
    (closed : .unterminated ∉ found) (ends : front.getLast? ≠ some '$')
    (behind : List Char) :
    renderRest lookup (front ++ behind) =
      followed (renderRest lookup front) (renderRest lookup behind) := by
  rcases exists_settled lookup reads closed with
    ⟨settled, ending, pending, each⟩
  have alone := each []
  cases pending with
  | nothing _ =>
      rw [List.append_nil, List.append_nil, renderRest, followed_nil]
        at alone
      rw [each, alone, List.nil_append]
  | dollar last => exact (ends last).elim
  | dollars last => exact (ends last).elim

/-! ## A brace behind a dollar sign -/

section Brace

variable (lookup : Variables)

theorem renderRest_dollars :
    renderRest lookup ['$', '$'] = .ok ['$', '$'] :=
  renderRest_of_reads lookup (.dollar (by decide) (by decide)
    (.dollar (by decide) (by decide) .done))

theorem renderRest_open :
    renderRest lookup ['$', '\x7b'] = .error .unterminated :=
  renderRest_of_reads lookup (.unterminated (by decide))

theorem renderRest_escapeOnly :
    renderRest lookup ['$', '$', '\x7b'] = .ok ['$', '\x7b'] :=
  renderRest_of_reads lookup (.escape .done)

/-- A brace behind a dollar sign at the end is not read as a brace. -/
theorem renderRest_append_brace {lookup : Variables}
    {front text : List Char} {found : List Segment}
    (reads : Reads front found) (closed : .unterminated ∉ found)
    (ends : front.getLast? = some '$')
    (done : renderRest lookup front = .ok text) :
    renderRest lookup (front ++ ['\x7b']) ≠ .ok (text ++ ['\x7b']) := by
  rcases exists_settled lookup reads closed with
    ⟨settled, ending, pending, each⟩
  have alone := each []
  rw [List.append_nil, List.append_nil, done] at alone
  rcases followed_eq_ok_iff.mp alone.symm with
    ⟨former, latter, rfl, waiting, rfl⟩
  intro same
  rw [each, followed_ok] at same
  cases pending with
  | nothing other => exact other ends
  | dollar _ =>
      rw [List.singleton_append, renderRest_open] at same
      cases same
  | dollars _ =>
      rw [renderRest_dollars] at waiting
      cases waiting
      rw [List.cons_append, List.singleton_append,
        renderRest_escapeOnly] at same
      have equal := Except.ok.inj same
      rw [List.append_assoc, List.append_cancel_left_eq] at equal
      cases equal

end Brace

/-! ## Two templates -/

section Filled

variable {lookup : Variables} {front text : String}

/-- What can be filled in leaves no brace open. -/
theorem exists_reads_of_render
    (done : render lookup front = .ok text) :
    ∃ found, Reads front.toList found ∧ .unterminated ∉ found ∧
      renderRest lookup front.toList = .ok text.toList := by
  have reads := reads_segments front.toList
  rcases map_eq_ok_iff.mp done with ⟨characters, filled, rfl⟩
  have each := filled
  rw [renderRest_of_reads lookup reads] at each
  rcases joined_eq_ok_iff.mp each with ⟨texts, stand, _⟩
  refine ⟨_, reads, ?_, ?_⟩
  · intro member
    rcases exists_of_forall₂ stand member with ⟨_, stands⟩
    cases stands
  · rw [filled, String.toList_ofList]

theorem render_append (done : render lookup front = .ok text)
    (ends : front.toList.getLast? ≠ some '$') (behind : String) :
    render lookup (front ++ behind) =
      (text ++ ·) <$> render lookup behind := by
  rcases exists_reads_of_render done with ⟨found, reads, closed, filled⟩
  rw [render, render, String.toList_append,
    renderRest_append lookup reads closed ends, filled]
  cases renderRest lookup behind.toList with
  | error fault => rfl
  | ok other =>
      apply congrArg Except.ok
      apply String.toList_injective
      simp

/--
Two templates one after the other stand for what each of them stands for,
and are refused as the second one is, exactly if the first one, which can be
filled in, does not end in a dollar sign.
-/
theorem render_append_iff (done : render lookup front = .ok text) :
    front.toList.getLast? ≠ some '$' ↔
      ∀ behind,
        (∀ other, render lookup behind = .ok other →
          render lookup (front ++ behind) = .ok (text ++ other)) ∧
        ∀ fault, render lookup behind = .error fault →
          render lookup (front ++ behind) = .error fault := by
  constructor
  · intro ends behind
    rw [render_append done ends]
    constructor
    · intro other given
      rw [given]
      rfl
    · intro fault refused
      rw [refused]
      rfl
  · intro compositional ends
    rcases exists_reads_of_render done with ⟨found, reads, closed, filled⟩
    have brace : render lookup "\x7b" = .ok "\x7b" :=
      render_of_plain lookup (by decide)
    have joined := (compositional "\x7b").1 "\x7b" brace
    rw [render, String.toList_append] at joined
    rcases map_eq_ok_iff.mp joined with ⟨characters, whole, equal⟩
    have spelled := congrArg String.toList equal
    rw [String.toList_ofList, String.toList_append] at spelled
    exact renderRest_append_brace reads closed ends filled
      (spelled ▸ whole)

end Filled

/-- What stands behind a default is refused as if it stood alone. -/
theorem render_append_iff_default :
    render (fun _ => none) "$$ $\x7bA:-b\x7d" = .ok "$$ b" ∧
      render (fun _ => none) ("$$ $\x7bA:-b\x7d" ++ "\x7d$\x7b") =
        .error .unterminated := by
  have last : Reads ("$\x7b".toList ++ ("A:-b".toList ++ ['\x7d']))
      [.named ['A'] (some ['b'])] :=
    @Reads.named "A:-b".toList ['A'] [] (some ['b']) [] (by decide)
      (@Splits.cut ['A'] ['b'] (by decide)) (by decide) .done
  have blank : Reads " $\x7bA:-b\x7d".toList
      [.literal [' '], .named ['A'] (some ['b'])] :=
    @Reads.literal [' '] _ _ (by decide) (by decide)
      (fun _ first => (Option.some.inj first).symm) last
  have reads : Reads "$$ $\x7bA:-b\x7d".toList
      [.dollar, .dollar, .literal [' '], .named ['A'] (some ['b'])] :=
    .dollar (by decide) (by decide)
      (.dollar (by decide) (by decide) blank)
  have done : render (fun _ => none) "$$ $\x7bA:-b\x7d" = .ok "$$ b" := by
    rw [render_of_reads _ reads]
    rfl
  have opened : Reads "\x7d$\x7b".toList
      [.literal ['\x7d'], .unterminated] :=
    @Reads.literal ['\x7d'] _ _ (by decide) (by decide)
      (fun _ first => (Option.some.inj first).symm)
      (.unterminated (by decide))
  have refused : render (fun _ => none) "\x7d$\x7b" =
      .error .unterminated := by
    rw [render_of_reads _ opened]
    rfl
  exact ⟨done, ((render_append_iff done).mp (by decide) _).2 _ refused⟩

end Gatehouse.Template

import Gatehouse.Yaml.Read
import Mathlib

/-!
# A name in quotes

Between double quotes most characters stand for themselves.  A text that
includes a name in quotes is therefore read as it looks, however long the
name is, if no character of the name separates words, ends a line, closes
the quotes or begins an escape.
-/

namespace Gatehouse.Yaml

/-- A character that stands for itself between double quotes. -/
@[mk_iff]
structure IsVerbatim (character : Char) : Prop where
  allowed : isAllowed character = true
  notSpacing : isSpacing character = false
  sameLine : isLineBreak character = false
  notQuote : character ≠ '"'
  notEscape : character ≠ '\\'

/-! ## The scalar -/

section Quoted

variable {name rest : List Char}
  (verbatim : ∀ character ∈ name, IsVerbatim character)

include verbatim

/-- A run of a quoted scalar takes all characters up to the closing quote. -/
theorem quotedRun_verbatim {fuel : Nat} (enough : name.length < fuel)
    (index line column : Nat) (text : List Char) :
    quotedRun false fuel ⟨name ++ '"' :: rest, index, line, column⟩ text =
      .ok ⟨text ++ name, false,
        ⟨'"' :: rest, index + name.length, line, column + name.length⟩⟩ := by
  induction name generalizing fuel index column text with
  | nil =>
      cases fuel with
      | zero => exact (Nat.not_lt_zero _ enough).elim
      | succ fuel => simp [quotedRun, isSpacing, isLineBreak]
  | cons character name induction =>
      rw [List.forall_mem_cons] at verbatim
      rcases verbatim with ⟨first, others⟩
      cases fuel with
      | zero => exact (Nat.not_lt_zero _ enough).elim
      | succ fuel =>
          have next := induction others (Nat.lt_of_succ_lt_succ enough)
            (index + 1) (column + 1) (text ++ [character])
          simp only [quotedRun, List.cons_append, first.notSpacing,
            first.sameLine, Bool.or_false, Bool.false_eq_true, if_false,
            beq_iff_eq, first.notQuote, first.notEscape, Cursor.skip,
            List.drop_succ_cons, List.drop_zero]
          rw [next, List.length_cons, List.append_assoc,
            List.singleton_append, Nat.add_right_comm index,
            Nat.add_right_comm column]
          rfl

/-- A name in quotes is read as it is written. -/
theorem quotedScalar_verbatim (index line column : Nat) :
    Cursor.quotedScalar ⟨'"' :: (name ++ '"' :: rest), index, line, column⟩
        false =
      .ok (name, ⟨rest, index + 1 + name.length + 1, line,
        column + 1 + name.length + 1⟩) := by
  have enough : name.length < (name ++ '"' :: rest).length := by
    rw [List.length_append, List.length_cons]
    omega
  have filled : (name ++ '"' :: rest).isEmpty = false := by simp
  rw [Cursor.quotedScalar, quotedRuns, Cursor.skip]
  simp only [List.drop_succ_cons, List.drop_zero, Cursor.atDocumentMarker,
    Cursor.atMarker, filled]
  rw [quotedRun_verbatim verbatim enough]
  simp [bind, Except.bind, Cursor.skip]

end Quoted

/-! ## The tokens of a text with an include -/

/-- A text that includes a name in quotes and makes one setting. -/
def including (name : String) : String :=
  "include: \"" ++ name ++ "\"\nk: v\n"

namespace Lexer

/-- In front of the name. -/
def beforeName (rest : List Char) : Lexer where
  cursor := ⟨' ' :: rest, 8, 0, 8⟩
  tokens := #[.blockMappingStart, .key, .scalar "include" .plain, .value]
  flowCandidates := []
  candidate := none
  indent := 0
  outerIndents := [-1]
  keyAllowed := false
  finished := false

/-- Behind the name, at the end of its line. -/
def behindName (name : String) (index column : Nat) : Lexer where
  cursor := ⟨"\nk: v\n".toList, index, 0, column⟩
  tokens := (beforeName []).tokens.push (.scalar name .quoted)
  flowCandidates := []
  candidate := none
  indent := 0
  outerIndents := [-1]
  keyAllowed := false
  finished := false

/-- Behind the word on the next line, which must turn out to be a key. -/
def behindWord (name : String) (index : Nat) : Lexer where
  cursor := ⟨": v\n".toList, index + 1, 1, 1⟩
  tokens := (behindName name index 0).tokens.push (.scalar "k" .plain)
  flowCandidates := []
  candidate := some ⟨5, index, 1, 0, true⟩
  indent := 0
  outerIndents := [-1]
  keyAllowed := false
  finished := false

/-- In front of the value. -/
def beforeValue (name : String) (index : Nat) : Lexer where
  cursor := ⟨" v\n".toList, index, 1, 2⟩
  tokens := (behindName name index 0).tokens ++
    #[.key, .scalar "k" .plain, .value]
  flowCandidates := []
  candidate := none
  indent := 0
  outerIndents := [-1]
  keyAllowed := false
  finished := false

theorem run_beforeName (fuel : Nat) (rest : List Char) :
    run (fuel + 2) (start ("include: ".toList ++ rest)) =
      run fuel (beforeName rest) := by
  cbv

theorem step_beforeName {name : List Char}
    (verbatim : ∀ character ∈ name, IsVerbatim character) :
    (beforeName ('"' :: (name ++ '"' :: "\nk: v\n".toList))).step =
      .ok (behindName (String.ofList name) (10 + name.length + 1)
        (10 + name.length + 1)) := by
  have quoted : (beforeName ('"' :: (name ++ '"' :: "\nk: v\n".toList))).step
      = atQuotedScalar { beforeName [] with
          cursor := ⟨'"' :: (name ++ '"' :: "\nk: v\n".toList), 9, 0, 9⟩ }
        false := by
    cbv
  have kept : ∀ cursor : Cursor,
      saveCandidate { beforeName [] with cursor := cursor } =
        .ok { beforeName [] with cursor := cursor } := fun _ => rfl
  rw [quoted, atQuotedScalar, kept]
  simp only [bind, Except.bind, quotedScalar_verbatim verbatim]
  rfl

theorem step_behindName (name : String) (index column : Nat) :
    (behindName name index (column + 1)).step =
      .ok (behindWord name (index + 1)) := by
  cbv

/-- The word is not so far away that it could not be a key. -/
theorem step_behindWord (name : String) (index : Nat) :
    (behindWord name index).step = .ok (beforeValue name (index + 2)) := by
  have near : (behindWord name index).isStale ⟨5, index, 1, 0, true⟩ =
      false := by
    simp [isStale, behindWord]
  have kept : (behindWord name index).dropStale =
      .ok (behindWord name index) := by
    have fresh : (behindWord name index).freshCandidate
        (behindWord name index).candidate =
          .ok (behindWord name index).candidate := by
      show freshCandidate _ (some _) = _
      rw [freshCandidate, near]
      rfl
    rw [dropStale, fresh]
    rfl
  have here : (behindWord name index).skipSpace
      ((behindWord name index).cursor.rest.length + 1) =
        behindWord name index := by
    cbv
  rw [step]
  dsimp only
  rw [here, kept]
  cbv

/-- All tokens of the text. -/
def allTokens (name : String) : List Token :=
  [.blockMappingStart, .key, .scalar "include" .plain, .value,
    .scalar name .quoted, .key, .scalar "k" .plain, .value,
    .scalar "v" .plain, .blockEnd, .streamEnd]

theorem run_beforeValue (fuel : Nat) (name : String) (index : Nat) :
    (run (fuel + 3) (beforeValue name index)).map (·.tokens.toList) =
      .ok (allTokens name) := by
  cbv

theorem run_step {lexer next : Lexer} (fuel : Nat)
    (going : lexer.finished = false) (step : lexer.step = .ok next) :
    run (fuel + 1) lexer = run fuel next := by
  rw [run, going, if_neg Bool.false_ne_true, step]
  rfl

end Lexer

theorem tokenize_including {name : String}
    (verbatim : ∀ character ∈ name.toList, IsVerbatim character) :
    tokenize (including name).toList = .ok (Lexer.allTokens name) := by
  have spelled : (including name).toList = "include: ".toList ++
      '"' :: (name.toList ++ '"' :: "\nk: v\n".toList) := by
    simp [including]
  have allowed : ("include: ".toList ++
      '"' :: (name.toList ++ '"' :: "\nk: v\n".toList)).all isAllowed =
        true := by
    have inName : name.toList.all isAllowed = true := by
      rw [List.all_eq_true]
      exact fun character member => (verbatim character member).allowed
    rw [List.all_append, List.all_cons, List.all_append, inName]
    decide
  have enough : ("include: ".toList ++
      '"' :: (name.toList ++ '"' :: "\nk: v\n".toList)).length + 2 =
        (name.toList.length + 11) + 3 + 1 + 1 + 1 + 2 := by
    simp
  rw [tokenize, spelled, if_pos allowed, enough, Lexer.run_beforeName,
    Lexer.run_step _ rfl (Lexer.step_beforeName verbatim),
    Lexer.run_step _ rfl (Lexer.step_behindName ..),
    Lexer.run_step _ rfl (Lexer.step_behindWord ..), String.ofList_toList]
  exact Lexer.run_beforeValue ..

/-! ## The value of the text -/

section Values

variable {anchors : Anchors} {limit depth count : Nat}

theorem toValue_quoted (text : String) :
    (Node.scalar .bare text .quoted).toValue anchors limit depth false
      count = .ok (.string text, count) := by
  rw [Node.toValue]
  rfl

theorem toValue_plain {text : String} {value : Value}
    (stands : untaggedValue text = .ok value) :
    (Node.scalar .bare text .plain).toValue anchors limit depth false
      count = .ok (value, count) := by
  have whole : scalarValue none text .plain = .ok value := stands
  simp only [Node.toValue, Node.expanded, bind, Except.bind]
  simp only [Node.tag, Properties.bare, Option.bind, Option.isSome,
    Bool.or_self, Bool.false_eq_true, if_false, whole]
  rfl

theorem toValue_mapping {entries : List (Node Nat × Node Nat)}
    {mapping : Mapping}
    (expands : expandEntries (Node.toValue anchors limit depth false)
      (Node.toValue anchors limit depth false) entries [] count =
        .ok (mapping, count)) :
    (Node.mapping .bare entries).toValue anchors limit (depth + 1) false
      count = .ok (.mapping mapping, count) := by
  simp only [Node.toValue, Node.expanded, bind, Except.bind, expands]
  rfl

/-- The node that the tokens of the text spell. -/
def includingNode (Target : Type) (name : String) : Node Target :=
  .mapping .bare
    [(.scalar .bare "include" .plain, .scalar .bare name .quoted),
      (.scalar .bare "k" .plain, .scalar .bare "v" .plain)]

theorem toValue_includingNode (name : String) :
    (includingNode Nat name).toValue anchors limit (depth + 1) false count =
      .ok (.mapping [(.string "include", .string name),
        (.string "k", .string "v")], count) := by
  have list : untaggedValue "include" = .ok (.string "include") := rfl
  have key : untaggedValue "k" = .ok (.string "k") := rfl
  have value : untaggedValue "v" = .ok (.string "v") := rfl
  apply toValue_mapping
  simp only [expandEntries, toValue_plain list, toValue_quoted,
    toValue_plain key, toValue_plain value, bind, Except.bind]
  rfl

end Values

/-- A text that includes a name in quotes is read as it looks. -/
theorem read_including {name : String}
    (verbatim : ∀ character ∈ name.toList, IsVerbatim character) :
    read (including name) =
      .ok (.mapping [(.string "include", .string name),
        (.string "k", .string "v")]) := by
  have node : Node.documentOfTokens (Lexer.allTokens name) =
      .ok (some (includingNode String name)) := rfl
  have linked : (includingNode String name).link .bare =
      .ok (includingNode Nat name, .bare) := rfl
  rw [read, tokenize_including verbatim]
  simp only [bind, Except.bind, node, linked, depthLimit,
    toValue_includingNode]
  rfl

end Gatehouse.Yaml

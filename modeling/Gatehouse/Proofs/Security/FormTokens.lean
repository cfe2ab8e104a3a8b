import Mathlib
import Gatehouse.Proofs.Security.Cookies
import Gatehouse.Proofs.Serve.Passage

/-!
# Who is let through with a form token

A request that changes something is let through exactly if it repeats its
cookie in the configured header, octet by octet.  A request that only reads
is always let through.  If it brings no cookie, it gets a new token, and the
response gets one more header, which hands that token to the client.
-/

namespace Gatehouse.Security.Csrf

open Gatehouse.Extension (Config Fault)
open Gatehouse.Http
open Gatehouse.Outcome
open Gatehouse.Route (Info Overrides)
open Gatehouse.Serve
open Gatehouse.Text
open Gatehouse.Yaml

/-! ## What a request repeats -/

/-- The first header of a name is visible and is a token, octet by octet. -/
def Repeats (headers : Headers) (name token : String) : Prop :=
  ∃ value, headers.first? name = some value ∧ Spells value token

theorem repeated?_eq_some_iff {guard : CsrfGuard} {headers : Headers}
    {token : String} :
    repeated? guard headers = some token ↔
      Brings headers guard.cookieName token ∧
        Repeats headers guard.headerName token := by
  unfold repeated?
  simp only [Option.bind_eq_bind, Option.bind_eq_some_iff,
    cookie?_eq_some_iff, Option.ite_none_right_eq_some, Option.some.injEq,
    sameSecret_iff_eq, octets_injective.eq_iff, Repeats,
    ← text?_eq_some_iff]
  constructor
  · rintro ⟨cookie, brings, header, repeats, rfl, rfl⟩
    exact ⟨brings, repeats⟩
  · rintro ⟨brings, repeats⟩
    exact ⟨token, brings, token, repeats, rfl, rfl⟩

/-! ## What the gate does -/

/-- The token that is made next. -/
def nextToken (state : State) : String :=
  (Identifier.ofRandom (state.random state.drawn)).compact

/-- The state behind making a token, whose random number is used up. -/
def drawnOnce (state : State) : State :=
  { state with drawn := state.drawn + 1 }

/-- The response with a cookie that hands a token to the client. -/
def withCookie (guard : CsrfGuard) (token : String) (response : Response) :
    Response :=
  { response with
    headers := response.headers ++
      [⟨"set-cookie", octets (cookieText guard token)⟩] }

/-- The answer to a request that may be forged. -/
def forbidden : Response :=
  .refusal 403 [] "CSRF token missing or invalid"

section Runs

variable {route : String} {guard : CsrfGuard} {request : Request}
  {state : State}

theorem runAction_gate_of_known {token : String}
    (safe : request.method.isSafe = true)
    (brings : Brings request.headers guard.cookieName token) :
    runAction (gate route guard request) state =
      (.ok (.forward { request with formToken := some token } pure),
        state) := by
  rw [gate, if_pos safe, letRead, cookie?_eq_some_iff.mpr brings]
  rfl

theorem runAction_gate_of_new (safe : request.method.isSafe = true)
    (nothing : ∀ token, ¬ Brings request.headers guard.cookieName token) :
    runAction (gate route guard request) state =
      (.ok (.forward
          { request with formToken := some (nextToken state) }
          fun response => return withCookie guard (nextToken state) response),
        drawnOnce state) := by
  rw [gate, if_pos safe, letRead, cookie?_eq_none_iff.mpr nothing]
  rfl

theorem runAction_gate_of_repeated {token : String}
    (unsafeMethod : request.method.isSafe = false)
    (brings : Brings request.headers guard.cookieName token)
    (repeats : Repeats request.headers guard.headerName token) :
    runAction (gate route guard request) state =
      (.ok (.forward { request with formToken := some token } pure),
        state) := by
  have found := repeated?_eq_some_iff.mpr ⟨brings, repeats⟩
  rw [gate, if_neg (by simp [unsafeMethod]), found]
  rfl

/-- A request that may be forged is answered whatever the handler is. -/
theorem runAction_gate_of_forged
    (unsafeMethod : request.method.isSafe = false)
    (forged : ∀ token, Brings request.headers guard.cookieName token →
      ¬ Repeats request.headers guard.headerName token) :
    ∃ after, runAction (gate route guard request) state =
      (.ok (.answer forbidden), after) := by
  have nothing : repeated? guard request.headers = none := by
    rw [Option.eq_none_iff_forall_ne_some]
    intro token found
    rcases repeated?_eq_some_iff.mp found with ⟨brings, repeats⟩
    exact forged token brings repeats
  rw [gate, if_neg (by simp [unsafeMethod]), nothing]
  exact ⟨_, rfl⟩

end Runs

/-! ## Names and tokens of cookies -/

theorem bounds_of_isCookieCharacter {character : Char}
    (allowed : isCookieCharacter character = true) :
    45 ≤ character.toNat ∧ character.toNat ≤ 122 ∧
      character.toNat ≠ 59 ∧ character.toNat ≠ 61 := by
  simp only [isCookieCharacter, Char.isAlphanum, Char.isAlpha, Char.isUpper,
    Char.isLower, Char.isDigit, ge_iff_le, UInt32.le_iff_toNat_le,
    Bool.or_eq_true, Bool.and_eq_true, decide_eq_true_eq, beq_iff_eq,
    Char.reduceVal, UInt32.reduceToNat] at allowed
  have code : character.toNat = character.val.toNat := rfl
  rcases allowed with (((upper | lower) | digit) | rfl) | rfl
  · omega
  · omega
  · omega
  · decide
  · decide

/-- Characters that may all stand in the name of a cookie. -/
def IsWord (characters : List Char) : Prop :=
  ∀ character ∈ characters, isCookieCharacter character = true

namespace IsWord

variable {characters : List Char}

theorem visible (word : IsWord characters) :
    ∀ character ∈ characters, isVisible character = true := by
  intro character member
  have bounds := bounds_of_isCookieCharacter (word character member)
  simp only [isVisible, Bool.and_eq_true, decide_eq_true_eq]
  omega

theorem solid (word : IsWord characters) :
    ∀ character ∈ characters, isBlank character = false := by
  intro character member
  have bounds := bounds_of_isCookieCharacter (word character member)
  simp only [isBlank, Bool.or_eq_false_iff, Bool.and_eq_false_iff,
    decide_eq_false_iff_not, beq_eq_false_iff_ne]
  omega

theorem not_mem_semicolon (word : IsWord characters) :
    ';' ∉ characters := by
  intro member
  exact absurd (word ';' member) (by decide)

theorem not_mem_equals (word : IsWord characters) : '=' ∉ characters := by
  intro member
  exact absurd (word '=' member) (by decide)

end IsWord

theorem isWord_hexadecimal (count number : Nat) :
    IsWord (Identifier.hexadecimal count number) := by
  have each : ∀ digit < 16,
      isCookieCharacter (Nat.digitChar digit) = true := by decide
  induction count generalizing number with
  | zero => exact nofun
  | succ count induction =>
      intro character member
      rw [Identifier.hexadecimal, List.mem_append,
        List.mem_singleton] at member
      rcases member with inner | rfl
      · exact induction _ character inner
      · exact each _ (Nat.mod_lt _ (by decide))

theorem toList_nextToken (state : State) :
    (nextToken state).toList =
      (Identifier.ofRandom (state.random state.drawn)).digits := by
  rw [nextToken, Identifier.compact, String.toList_ofList]

/-- A token consists of characters of cookie names. -/
theorem isWord_nextToken (state : State) :
    IsWord (nextToken state).toList := by
  rw [toList_nextToken]
  exact isWord_hexadecimal 32 _

theorem nextToken_ne_empty (state : State) : nextToken state ≠ "" := by
  intro empty
  have length : (nextToken state).toList.length = 32 := by
    rw [toList_nextToken]
    exact Identifier.length_hexadecimal 32 _
  rw [empty] at length
  exact absurd length (by decide)

/-! ## Guarded routes -/

/-- What well-formed settings make of the guard of a route. -/
structure Makes (settings : CsrfSettings) (guard : CsrfGuard) : Prop where
  cookieName : guard.cookieName = settings.cookieName
  headerName : guard.headerName = lowercased settings.headerName
  wellNamed : IsWord settings.cookieName.toList
  attributes : ∃ sameSite ∈ ["Strict", "Lax", "None"],
    guard.attributes = attributesOf sameSite settings.secureCookie

theorem makes_of_guardOf {settings : CsrfSettings} {guard : CsrfGuard}
    (made : guardOf settings = .ok guard) : Makes settings guard := by
  unfold guardOf at made
  split at made
  · cases made
  rename_i named
  split at made
  · cases made
  rename_i header found
  dsimp only at made
  split at made
  · cases made
  rename_i sameSite listed
  cases made
  refine ⟨rfl, (headerName?_eq_some_iff.mp found).2, ?_, sameSite, ?_, rfl⟩
  · have holds : isCookieName settings.cookieName = true := by
      simpa using named
    rw [isCookieName, Bool.and_eq_true, List.all_eq_true] at holds
    exact holds.2
  · rcases List.lookup_eq_some_iff.mp listed with
      ⟨before, behind, shape, _⟩
    have member : sameSite ∈ sameSiteNames.map Prod.snd := by
      rw [shape]
      simp
    exact member

namespace Makes

variable {settings : CsrfSettings} {guard : CsrfGuard}

theorem visible_attributes (makes : Makes settings guard) :
    ∀ character ∈ guard.attributes.toList,
      isVisible character = true := by
  rcases makes.attributes with ⟨sameSite, member, same⟩
  rw [same, ← List.all_eq_true]
  simp only [List.mem_cons, List.not_mem_nil, or_false] at member
  rcases member with rfl | rfl | rfl <;>
    cases settings.secureCookie <;> decide

/-- A cookie that hands out a token is visible text. -/
theorem spells_cookieText (makes : Makes settings guard) {token : String}
    (word : IsWord token.toList) :
    Spells (octets (cookieText guard token)) (cookieText guard token) := by
  apply spells_octets
  intro character member
  simp only [cookieText, makes.cookieName, String.toList_append,
    List.mem_append] at member
  rcases member with ((name | equals) | inner) | attributes
  · exact makes.wellNamed.visible character name
  · obtain rfl := List.mem_singleton.mp equals
    decide
  · exact word.visible character inner
  · exact makes.visible_attributes character attributes

end Makes

/-- The layer of a guarded route is the gate that its settings make. -/
theorem attach_eq_ok_iff {base : Value} {route : Info}
    {overrides : Overrides} {layer : Layer} :
    attach base route overrides = .ok layer ↔
      ∃ settings guard, settingsOf base overrides = .ok settings ∧
        guardOf settings = .ok guard ∧ layer = gate route.path guard := by
  constructor
  · intro attached
    rcases bind_eq_ok_iff.mp attached with ⟨settings, read, attached⟩
    rcases bind_eq_ok_iff.mp attached with ⟨guard, made, shape⟩
    exact ⟨settings, guard, read, made, (pure_eq_ok_iff.mp shape).symm⟩
  · rintro ⟨settings, guard, read, made, rfl⟩
    apply bind_eq_ok_iff.mpr
    refine ⟨settings, read, ?_⟩
    apply bind_eq_ok_iff.mpr
    exact ⟨guard, made, rfl⟩

/--
A layer lets through what only reads and what repeats its cookie, and hands
out a token where a request that only reads brings none.
-/
structure Guards (layer : Layer) (settings : CsrfSettings)
    (attributes : String) : Prop where
  /-- The handler runs for what only reads and for what is no forgery. -/
  runs : ∀ {handler request state visits outcome after},
    Passage handler [(key, layer)] request state visits outcome after →
    (.handler ∈ visits ↔ request.method.isSafe = true ∨
      ∃ token, Brings request.headers settings.cookieName token ∧
        Repeats request.headers (lowercased settings.headerName) token)
  /-- A repeated cookie is told, and the response is not changed. -/
  repeated : ∀ {request token}, request.method.isSafe = false →
    Brings request.headers settings.cookieName token →
    Repeats request.headers (lowercased settings.headerName) token →
    ∀ handler state, runAction (layer.around handler request) state =
      runAction (handler { request with formToken := some token }) state
  /-- Anything else that changes something is answered without the handler. -/
  forged : ∀ {request}, request.method.isSafe = false →
    (∀ token, Brings request.headers settings.cookieName token →
      ¬ Repeats request.headers (lowercased settings.headerName) token) →
    ∀ state, ∃ after, ∀ handler,
      runAction (layer.around handler request) state = (.ok forbidden, after)
  /-- A cookie is told to what only reads, and the response not changed. -/
  known : ∀ {request token}, request.method.isSafe = true →
    Brings request.headers settings.cookieName token →
    ∀ handler state, runAction (layer.around handler request) state =
      runAction (handler { request with formToken := some token }) state
  /--
  Without a cookie the next token is told and used up, and a cookie with it
  is the one thing that the response gets.
  -/
  issued : ∀ {request}, request.method.isSafe = true →
    (∀ token, ¬ Brings request.headers settings.cookieName token) →
    ∀ handler state outcome after,
      runAction (handler
          { request with formToken := some (nextToken state) })
        (drawnOnce state) = (outcome, after) →
      runAction (layer.around handler request) state =
        (outcome.map fun response =>
          { response with
            headers := response.headers.append "set-cookie"
              (octets (settings.cookieName ++ "=" ++ nextToken state ++
                attributes)) }, after)
  /-- Such a cookie can be sent. -/
  sendable : ∀ state, (headerValue? (settings.cookieName ++ "=" ++
    nextToken state ++ attributes)).isSome = true

theorem guards_gate {settings : CsrfSettings} {guard : CsrfGuard}
    (makes : Makes settings guard) (route : String) :
    Guards (gate route guard) settings guard.attributes := by
  constructor
  case runs =>
    intro handler request state visits outcome after passage
    rw [handler_mem_visits_iff passage, ← makes.headerName,
      ← makes.cookieName]
    rcases safe : request.method.isSafe with _ | _
    · simp only [Bool.false_eq_true, false_or]
      constructor
      · rintro ⟨passed, finish, between, run⟩
        by_contra nobody
        have forged : ∀ token,
            Brings request.headers guard.cookieName token →
              ¬ Repeats request.headers guard.headerName token :=
          fun token brings repeats => nobody ⟨token, brings, repeats⟩
        rcases runAction_gate_of_forged safe forged with ⟨_, answered⟩
        rw [answered] at run
        cases run
      · rintro ⟨token, brings, repeats⟩
        exact ⟨_, _, _, runAction_gate_of_repeated safe brings repeats⟩
    · simp only [true_or, iff_true]
      by_cases brings :
          ∃ token, Brings request.headers guard.cookieName token
      · rcases brings with ⟨token, brings⟩
        exact ⟨_, _, _, runAction_gate_of_known safe brings⟩
      · exact ⟨_, _, _,
          runAction_gate_of_new safe (not_exists.mp brings)⟩
  case repeated =>
    intro request token safe brings repeats handler state
    rw [← makes.cookieName] at brings
    rw [← makes.headerName] at repeats
    rw [runAction_around_forwarded
      (runAction_gate_of_repeated safe brings repeats), bind_pure]
  case forged =>
    intro request safe forged state
    rw [← makes.cookieName, ← makes.headerName] at forged
    rcases runAction_gate_of_forged safe forged with ⟨after, run⟩
    exact ⟨after, fun handler => runAction_around_answered run⟩
  case known =>
    intro request token safe brings handler state
    rw [← makes.cookieName] at brings
    rw [runAction_around_forwarded (runAction_gate_of_known safe brings),
      bind_pure]
  case issued =>
    intro request safe nothing handler state outcome after run
    rw [← makes.cookieName] at nothing
    rw [runAction_around_forwarded (runAction_gate_of_new safe nothing)]
    rw [← makes.cookieName]
    rcases outcome with cause | response
    · exact runAction_bind_of_error run
    · exact runAction_bind_of_ok run
  case sendable =>
    intro state
    have sends := headerValue?_of_spells
      (makes.spells_cookieText (isWord_nextToken state))
    rw [cookieText, makes.cookieName] at sends
    rw [sends]
    rfl

/-- Every route with a layer against forged requests is guarded by it. -/
theorem guards_of_attach {base : Value} {route : Info}
    {overrides : Overrides} {attaching attached : State} {layer : Layer}
    (attaches : runAction ((extension base).attach route overrides)
      attaching = (.ok layer, attached)) :
    ∃ settings sameSite, settingsOf base overrides = .ok settings ∧
      sameSite ∈ ["Strict", "Lax", "None"] ∧
      Guards layer settings
        (attributesOf sameSite settings.secureCookie) := by
  have attachedOk : attach base route overrides = .ok layer :=
    congrArg Prod.fst attaches
  rcases attach_eq_ok_iff.mp attachedOk with
    ⟨settings, guard, read, made, rfl⟩
  have makes := makes_of_guardOf made
  rcases makes.attributes with ⟨sameSite, member, same⟩
  refine ⟨settings, sameSite, read, member, ?_⟩
  rw [← same]
  exact guards_gate makes route.path

/-- A request that changes something, with cookie headers and another one. -/
def posting (jars : List String) (name repeated : String) : Request where
  method := .post
  target := "/"
  headers := jars.map (fun jar => ⟨"cookie", octets jar⟩) ++
    [⟨name, octets repeated⟩]
  body := []
  peer := none

/-- One cookie header with two cookies, and a header for the token. -/
def repeating (repeated : String) : Request :=
  posting ["theme=dark; csrftoken=abc"] "x-csrf-token" repeated

theorem brings_repeating {repeated token : String} :
    Brings (repeating repeated).headers "csrftoken" token ↔
      "abc" = token := by
  have found :
      cookie? (repeating repeated).headers "csrftoken" = some "abc" := by
    have values : (repeating repeated).headers.values "cookie" =
        [octets "theme=dark; csrftoken=abc"] := rfl
    rw [cookie?, cookies_eq, values]
    cbv
  rw [← cookie?_eq_some_iff, found, Option.some.injEq]

theorem guardOf_default :
    guardOf CsrfSettings.default = .ok ⟨"csrftoken", "x-csrf-token",
      "; Path=/; SameSite=Lax"⟩ := rfl

/-- With the settings by default, a cookie is repeated or the answer is 403. -/
theorem guards_of_attach_default :
    let route : Info := ⟨"/", .post, .html⟩
    let overrides : Overrides := .ofMapping []
    ∃ layer attached,
      runAction ((extension .null).attach route overrides)
          (.start fun _ => 0) = (.ok layer, attached) ∧
      (∀ handler state,
        runAction (layer.around handler (repeating "abc")) state =
          runAction
            (handler { repeating "abc" with formToken := some "abc" })
            state) ∧
      ∀ state, ∃ after, ∀ handler,
        runAction (layer.around handler (repeating "abd")) state =
          (.ok forbidden, after) := by
  intro route overrides
  have given : settingsOf .null overrides = .ok CsrfSettings.default := rfl
  have attaches : runAction ((extension .null).attach route overrides)
      (.start fun _ => 0) =
        (.ok (gate "/" ⟨"csrftoken", "x-csrf-token",
          "; Path=/; SameSite=Lax"⟩), .start fun _ => 0) := by
    have attached := attach_eq_ok_iff.mpr
      ⟨_, _, given, guardOf_default, (rfl : _ = gate route.path _)⟩
    exact congrArg (·, State.start fun _ => 0) attached
  refine ⟨_, _, attaches, ?_⟩
  rcases guards_of_attach attaches with ⟨settings, _, read, _, guards⟩
  obtain rfl := Except.ok.inj (given.symm.trans read)
  have lower : lowercased "x-csrf-token" = "x-csrf-token" := by decide
  constructor
  · refine guards.repeated rfl (brings_repeating.mpr rfl) ?_
    have read : (repeating "abc").headers.text? "x-csrf-token" =
        some "abc" := by cbv
    rw [CsrfSettings.default, lower]
    exact text?_eq_some_iff.mp read
  · refine guards.forged rfl ?_
    rintro token brings ⟨value, first, spells⟩
    obtain rfl := brings_repeating.mp brings
    rw [CsrfSettings.default, lower] at first
    have other : (repeating "abd").headers.text? "x-csrf-token" =
        some "abc" := text?_eq_some_iff.mpr ⟨value, first, spells⟩
    have actual : (repeating "abd").headers.text? "x-csrf-token" =
        some "abd" := by cbv
    exact absurd (Option.some.inj (actual.symm.trans other)) (by decide)

end Gatehouse.Security.Csrf

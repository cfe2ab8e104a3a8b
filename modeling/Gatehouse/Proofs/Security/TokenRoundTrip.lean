import Gatehouse.Proofs.Security.FormTokens

/-!
# From the response that issues a token back to the guard

A client takes the pair in front of the attributes of the last cookie that a
response sets, and sends it back among its other cookies.  Every guard with
the same cookie then finds the token, as long as the header that carries the
pair can be read: no name of a cookie has an equals sign or a semicolon, and
no token has one or begins or ends with a blank.
-/

namespace Gatehouse.Security.Csrf

open Gatehouse.Http
open Gatehouse.Serve
open Gatehouse.Text

/-! ## What the client takes and what it sends -/

/-- The last header of a response sets a cookie to a token. -/
def HandsOut (response : Response) (name token : String) : Prop :=
  ∃ value text attributes,
    response.headers.getLast? = some ⟨"set-cookie", value⟩ ∧
    Spells value text ∧
    text.toList = (name ++ "=" ++ token).toList ++ ';' :: attributes ∧
    ';' ∉ (name ++ "=" ++ token).toList

/-- No cookie that can be read in some header values has a name. -/
def Lacks (values : List Octets) (name : String) : Prop :=
  ∀ pieces, CookiePieces values pieces →
    ∀ piece ∈ pieces, ∀ value, ¬ IsPair piece name.toList value

/--
One of the cookie headers can be read, and between semicolons it has the
pair of a name and a token.  No other cookie has that name.
-/
inductive Carries (name token : String) : List Octets → Prop where
  | among {front behind : List Octets} {jar : Octets} {text : String}
      {before after : List (List Char)} {piece : List Char}
      (former : Lacks front name) (latter : Lacks behind name)
      (spells : Spells jar text)
      (joined : text.toList = [';'].intercalate (before ++ piece :: after))
      (apart : ∀ part ∈ before ++ piece :: after, ';' ∉ part)
      (others : ∀ part ∈ before ++ after,
        ∀ value, ¬ IsPair part name.toList value)
      (pair : Trims piece (name ++ "=" ++ token).toList) :
      Carries name token (front ++ jar :: behind)

theorem piecesOf_append (front behind : List Octets) :
    piecesOf (front ++ behind) = piecesOf front ++ piecesOf behind := by
  rw [piecesOf, List.filterMap_append, List.flatMap_append]
  rfl

/-- A token that is carried is brought. -/
theorem brings_of_carries {headers : Headers} {name token : String}
    (named : IsWord name.toList) (word : IsWord token.toList)
    (filled : token ≠ "")
    (carries : Carries name token (headers.values "cookie")) :
    Brings headers name token := by
  generalize shape : headers.values "cookie" = values at carries
  cases carries with
  | @among front behind jar text before after piece former latter spells
      joined apart others pair =>
    have cut : text.toList.splitOn ';' = before ++ piece :: after := by
      apply splitOn_eq_iff.mpr
      exact ⟨by simp, apart, joined⟩
    have all : piecesOf (front ++ jar :: behind) =
        (piecesOf front ++ before) ++ piece :: (after ++ piecesOf behind) := by
      rw [piecesOf_append,
        piecesOf_cons_of_visible (visibleText?_eq_some_iff.mpr spells), cut]
      simp only [List.append_assoc, List.cons_append]
    refine ⟨_, piecesOf front ++ before, piece, _, token.toList,
      cookiePieces_iff.mpr (by rw [shape]), all, ⟨?_, ?_⟩, ?_, ?_, filled⟩
    · rw [String.toList_append, String.toList_append, List.append_assoc]
        at pair
      exact pair
    · exact named.not_mem_equals
    · intro earlier member other
      rcases List.mem_append.mp member with inFront | inJar
      · exact former _ (cookiePieces_iff.mpr rfl) earlier inFront other
      · exact others earlier (List.mem_append_left _ inJar) other
    · exact trims_self word.solid

/-! ## What the gate issues -/

theorem attributesOf_eq_cons {sameSite : String} {secure : Bool}
    (listed : sameSite ∈ ["Strict", "Lax", "None"]) :
    ∃ rest, (attributesOf sameSite secure).toList = ';' :: rest := by
  simp only [List.mem_cons, List.not_mem_nil, or_false] at listed
  rcases listed with rfl | rfl | rfl <;> cases secure <;> exact ⟨_, rfl⟩

section Issuing

variable {settings : CsrfSettings} {guard : CsrfGuard} {token : String}
  {response : Response}

/-- A response hands out the token of its new cookie, and no other one. -/
theorem handsOut_withCookie_iff (makes : Makes settings guard)
    (word : IsWord token.toList) {other : String} :
    HandsOut (withCookie guard token response) guard.cookieName other ↔
      other = token := by
  have named : IsWord guard.cookieName.toList := by
    rw [makes.cookieName]
    exact makes.wellNamed
  have whole : ';' ∉ (guard.cookieName ++ "=" ++ token).toList := by
    simp only [String.toList_append, List.mem_append, not_or]
    exact ⟨⟨named.not_mem_semicolon, by decide⟩, word.not_mem_semicolon⟩
  have last : (withCookie guard token response).headers.getLast? =
      some ⟨"set-cookie", octets (cookieText guard token)⟩ :=
    List.getLast?_concat
  have spells := makes.spells_cookieText word
  rcases makes.attributes with ⟨sameSite, listed, same⟩
  rcases attributesOf_eq_cons listed with ⟨rest, begins⟩
  have ends : (cookieText guard token).toList =
      (guard.cookieName ++ "=" ++ token).toList ++ ';' :: rest := by
    rw [cookieText, same, String.toList_append, begins]
  constructor
  · rintro ⟨value, text, attributes, found, reads, shape, inner⟩
    obtain rfl : octets (cookieText guard token) = value := by
      rw [last] at found
      cases found
      rfl
    obtain rfl := spells.unique reads
    have cut := cutCharacters?_append inner attributes
    rw [← shape, ends, cutCharacters?_append whole] at cut
    have alike : (guard.cookieName ++ "=" ++ token).toList =
        (guard.cookieName ++ "=" ++ other).toList :=
      congrArg Prod.fst (Option.some.inj cut)
    rw [String.toList_append, String.toList_append (t := other),
      List.append_cancel_left_eq, String.toList_inj] at alike
    exact alike.symm
  · rintro rfl
    exact ⟨_, _, rest, last, spells, ends, whole⟩

end Issuing

/-! ## There and back -/

/--
A layer lets through what carries a token, whether it only reads or repeats
the token in a header, and neither changes the response nor issues another
token.
-/
structure Recognizes (layer : Layer) (cookieName headerName token : String) :
    Prop where
  submitted : ∀ {request}, request.method.isSafe = false →
    Carries cookieName token (request.headers.values "cookie") →
    Repeats request.headers headerName token →
    ∀ handler state, runAction (layer.around handler request) state =
      runAction (handler { request with formToken := some token }) state
  revisited : ∀ {request}, request.method.isSafe = true →
    Carries cookieName token (request.headers.values "cookie") →
    ∀ handler state, runAction (layer.around handler request) state =
      runAction (handler { request with formToken := some token }) state

theorem recognizes_gate {settings : CsrfSettings} {guard : CsrfGuard}
    (made : guardOf settings = .ok guard) {token : String}
    (word : IsWord token.toList) (filled : token ≠ "") (route : String) :
    Recognizes (gate route guard) settings.cookieName
      (lowercased settings.headerName) token := by
  have makes := makes_of_guardOf made
  have guards := guards_gate makes route
  constructor
  case submitted =>
    intro request changing carries repeats
    apply guards.repeated changing ?_ repeats
    exact brings_of_carries makes.wellNamed word filled carries
  case revisited =>
    intro request reading carries
    apply guards.known reading
    exact brings_of_carries makes.wellNamed word filled carries

/--
A response to a request that only reads and brings no token hands out the
next token, and every guard with the same cookie recognizes it.
-/
theorem recognizes_issued {first : CsrfSettings} {issuing : CsrfGuard}
    (made : guardOf first = .ok issuing) {request : Request}
    (reading : request.method.isSafe = true)
    (nothing : ∀ token, ¬ Brings request.headers first.cookieName token)
    {route : String} {handler : Handler} {state after : State}
    {response : Response}
    (issued : runAction ((gate route issuing).around handler request) state =
      (.ok response, after)) :
    (∀ token, HandsOut response first.cookieName token ↔
      token = nextToken state) ∧
    ∀ second submitting, guardOf second = .ok submitting →
      second.cookieName = first.cookieName →
      ∀ path, Recognizes (gate path submitting) first.cookieName
        (lowercased second.headerName) (nextToken state) := by
  have makes := makes_of_guardOf made
  have word := isWord_nextToken state
  constructor
  · rw [← makes.cookieName] at nothing ⊢
    rw [runAction_around_forwarded (runAction_gate_of_new reading nothing)]
      at issued
    rcases runAction_bind_eq_ok_iff.mp issued with
      ⟨inner, between, _, outward⟩
    cases outward
    intro token
    exact handsOut_withCookie_iff makes word
  · intro second submitting madeToo sameName path
    rw [← sameName]
    exact recognizes_gate madeToo word (nextToken_ne_empty state) path

/-! ## A client with other cookies -/

/-- A request that only reads and has no headers. -/
def visiting : Request where
  method := .get
  target := "/"
  headers := []
  body := []
  peer := none

theorem nothing_brought (token : String) :
    ¬ Brings visiting.headers "csrftoken" token :=
  cookie?_eq_none_iff.mp rfl token

/-- The octets of the letter, wherever it stands, make a value unreadable. -/
theorem not_spells_accented (front behind text : String) :
    ¬ Spells (octets (front ++ "é" ++ behind)) text := by
  have member : 0xC3 ∈ octets (front ++ "é" ++ behind) := by
    rw [octets_append, octets_append, octets_eq "é"]
    simp only [List.mem_append]
    exact .inl (.inr (by decide))
  exact spells_nothing_iff.mpr ⟨_, member, by decide⟩ text

theorem not_isPair_of_not_mem {piece key value : List Char}
    {character : Char} (inKey : character ∈ key)
    (absent : character ∉ piece) : ¬ IsPair piece key value := by
  rintro ⟨trims, _⟩
  exact absent (trims.subset (List.mem_append_left _ inKey))

theorem solid_pair {name token : String} (named : IsWord name.toList)
    (word : IsWord token.toList) :
    ∀ character ∈ (name ++ "=" ++ token).toList,
      isBlank character = false := by
  intro character member
  simp only [String.toList_append, List.mem_append] at member
  rcases member with (front | equals) | inner
  · exact named.solid character front
  · obtain rfl := List.mem_singleton.mp equals
    decide
  · exact word.solid character inner

theorem isWord_csrftoken : IsWord "csrftoken".toList :=
  List.all_eq_true.mp rfl

/-- A token among other cookies, behind a header that cannot be read. -/
theorem carries_beside {token : String} (word : IsWord token.toList) :
    Carries "csrftoken" token
      [octets "theme=é",
        octets ("theme=dark; csrftoken=" ++ token ++ " ;lang=en")] := by
  have former : Lacks [octets "theme=é"] "csrftoken" := by
    intro pieces cut piece member
    have unread : piecesOf [octets "theme=é"] = [] :=
      piecesOf_cons_of_hidden
        (visibleText?_eq_none_iff.mpr (not_spells_accented "theme=" ""))
    rw [← cookiePieces_iff.mp cut, unread] at member
    cases member
  have latter : Lacks [] "csrftoken" := by
    intro pieces cut piece member
    cases cut
    cases member
  have text :
      ("theme=dark; csrftoken=" ++ token ++ " ;lang=en").toList =
        [';'].intercalate (["theme=dark".toList] ++
          (" csrftoken=" ++ token ++ " ").toList :: ["lang=en".toList]) := by
    simp [List.intercalate]
  show Carries "csrftoken" token ([octets "theme=é"] ++
    octets ("theme=dark; csrftoken=" ++ token ++ " ;lang=en") :: [])
  apply Carries.among former latter (spells_octets ?_) text
  · intro part member
    simp only [List.mem_append, List.mem_cons, List.not_mem_nil,
      or_false] at member
    rcases member with rfl | rfl | rfl
    · decide
    · simp only [String.toList_append, List.mem_append, not_or]
      exact ⟨⟨by decide, word.not_mem_semicolon⟩, by decide⟩
    · decide
  · intro part member value
    apply not_isPair_of_not_mem (show 'c' ∈ "csrftoken".toList by decide)
    simp only [List.mem_append, List.mem_singleton] at member
    rcases member with rfl | rfl
    · decide
    · decide
  · have shape : (" csrftoken=" ++ token ++ " ").toList =
        [' '] ++ (("csrftoken" ++ "=" ++ token).toList ++ [' ']) := by
      simp
    rw [shape]
    exact trims_between (List.all_eq_true.mp rfl) (List.all_eq_true.mp rfl)
      (solid_pair isWord_csrftoken word)
  · intro character member
    simp only [String.toList_append, List.mem_append] at member
    rcases member with (front | inner) | back
    · exact List.all_eq_true.mp (by decide) character front
    · exact word.visible character inner
    · exact List.all_eq_true.mp (by decide) character back

/-- The header of a request with cookies is the one that it adds to them. -/
theorem repeats_posting (jars : List String) {name token : String}
    (word : IsWord token.toList) (other : name ≠ "cookie") :
    Repeats (posting jars name token).headers name token := by
  refine ⟨octets token, ?_, spells_octets word.visible⟩
  have skipped : Headers.values
      (jars.map fun jar => ⟨"cookie", octets jar⟩) name = [] := by
    rw [Headers.values, List.map_eq_nil_iff, List.filter_eq_nil_iff]
    intro header member
    rcases List.mem_map.mp member with ⟨jar, _, rfl⟩
    simpa using other.symm
  show (Headers.values (Headers.append _ name (octets token)) name).head? =
    some (octets token)
  rw [Headers.values_append, skipped, if_pos rfl]
  rfl

/-- Settings with the cookie by default but another header. -/
def otherHeader : CsrfSettings :=
  { CsrfSettings.default with headerName := "X-Form", sameSite := "STRICT" }

theorem guardOf_otherHeader :
    guardOf otherHeader = .ok ⟨"csrftoken", "x-form",
      "; Path=/; SameSite=Strict"⟩ := rfl

/-- What a guard issues is let through by another one with its cookie. -/
theorem recognizes_issued_other_header :
    let beginning := State.start fun _ => 0
    let token := nextToken beginning
    let later := posting
      ["theme=é", "theme=dark; csrftoken=" ++ token ++ " ;lang=en"]
      "x-form" token
    ∃ issuing submitting response after,
      guardOf CsrfSettings.default = .ok issuing ∧
      guardOf otherHeader = .ok submitting ∧
      runAction ((gate "/" issuing).around (fun _ => pure (.text "page"))
          visiting) beginning = (.ok response, after) ∧
      HandsOut response "csrftoken" token ∧
      ∀ handler state,
        runAction ((gate "/form" submitting).around handler later) state =
          runAction (handler { later with formToken := some token })
            state := by
  intro beginning token later
  have issued : ∃ response after,
      runAction ((gate "/" ⟨"csrftoken", "x-csrf-token",
          "; Path=/; SameSite=Lax"⟩).around (fun _ => pure (.text "page"))
          visiting) beginning = (.ok response, after) := ⟨_, _, rfl⟩
  rcases issued with ⟨response, after, issued⟩
  rcases recognizes_issued guardOf_default rfl nothing_brought issued with
    ⟨handed, recognizes⟩
  refine ⟨_, _, response, after, guardOf_default, guardOf_otherHeader,
    issued, (handed token).mpr rfl, ?_⟩
  have recognized := recognizes otherHeader _ guardOf_otherHeader rfl "/form"
  have lower : lowercased otherHeader.headerName = "x-form" := by decide
  have word : IsWord token.toList := isWord_nextToken beginning
  rw [lower] at recognized
  apply recognized.submitted rfl
  · have carries := carries_beside word
    exact carries
  · apply repeats_posting _ word
    decide

/--
A cookie that cannot be read hides the token beside it in one header, and
the client is refused although it repeats what it got.
-/
theorem forbidden_beside_unreadable :
    let guard : CsrfGuard :=
      ⟨"csrftoken", "x-csrf-token", "; Path=/; SameSite=Lax"⟩
    let beginning := State.start fun _ => 0
    let token := nextToken beginning
    let jar := "theme=é; csrftoken=" ++ token
    guardOf CsrfSettings.default = .ok guard ∧
    (∃ response after,
      runAction ((gate "/" guard).around (fun _ => pure (.text "page"))
          visiting) beginning = (.ok response, after) ∧
      HandsOut response "csrftoken" token) ∧
    jar.toList = [';'].intercalate
      ["theme=é".toList, (" csrftoken=" ++ token).toList] ∧
    (∀ value, ¬ IsPair "theme=é".toList "csrftoken".toList value) ∧
    Trims (" csrftoken=" ++ token).toList
      ("csrftoken" ++ "=" ++ token).toList ∧
    Repeats (posting [jar] "x-csrf-token" token).headers "x-csrf-token"
      token ∧
    ∀ state, ∃ after, ∀ handler,
      runAction ((gate "/" guard).around handler
          (posting [jar] "x-csrf-token" token)) state =
        (.ok forbidden, after) := by
  intro guard beginning token jar
  have word : IsWord token.toList := isWord_nextToken beginning
  have makes := makes_of_guardOf guardOf_default
  refine ⟨guardOf_default, ⟨_, _, rfl, ?_⟩, ?_, ?_, ?_, ?_, ?_⟩
  · exact (handsOut_withCookie_iff makes word).mpr rfl
  · simp [jar, List.intercalate]
  · intro value
    apply not_isPair_of_not_mem (show 'c' ∈ "csrftoken".toList by decide)
    decide
  · have shape : (" csrftoken=" ++ token).toList =
        [' '] ++ (("csrftoken" ++ "=" ++ token).toList ++ []) := by
      simp
    rw [shape]
    exact trims_between (List.all_eq_true.mp rfl) nofun
      (solid_pair isWord_csrftoken word)
  · apply repeats_posting _ word
    decide
  · apply (guards_gate makes "/").forged rfl
    rintro other ⟨pieces, before, piece, behind, _, cut, shape, _⟩
    have unread : piecesOf [octets jar] = [] := by
      apply piecesOf_cons_of_hidden
      apply visibleText?_eq_none_iff.mpr
      have parts : jar = "theme=" ++ "é" ++ ("; csrftoken=" ++ token) := by
        simp only [jar, ← String.append_assoc]
        rfl
      rw [parts]
      exact not_spells_accented _ _
    have nothing : piecesOf [octets jar] = before ++ piece :: behind :=
      (cookiePieces_iff.mp cut).trans shape
    rw [unread] at nothing
    simp at nothing

end Gatehouse.Security.Csrf

import Gatehouse.Yaml.Node

/-!
# From tokens to a node

A recursive descent over the tokens of one document.  Every function returns
the node it has read and the tokens behind it.  The fuel bounds the depth of
the descent and is never used up, because it starts at a multiple of the
number of tokens.
-/

namespace Gatehouse.Yaml

/-- The meaning of the tag handles of a document. -/
abbrev TagHandles : Type := List (List Char × List UInt8)

namespace TagHandles

/-- The handles that need no directive. -/
def standard : TagHandles :=
  [(['!'], "!".toUTF8.toList),
    (['!', '!'], "tag:yaml.org,2002:".toUTF8.toList)]

/-- The octets of a tag in full. -/
def resolve (handles : TagHandles) (handle : List Char) (rest : List UInt8) :
    Except ReadError (List UInt8) :=
  if handle.isEmpty then .ok rest
  else
    match List.find? (fun entry => entry.1 == handle) handles with
    | some (_, start) => .ok (start ++ rest)
    | none => .error .undefinedTagHandle

end TagHandles

/-- The anchor and the tag in front of a node, in either order. -/
def Properties.ofTokens (handles : TagHandles) :
    List Token → Except ReadError (Properties × List Token)
  | .anchor name :: .tag handle rest :: tokens => do
    return (⟨some name, some (← handles.resolve handle rest)⟩, tokens)
  | .tag handle rest :: .anchor name :: tokens => do
    return (⟨some name, some (← handles.resolve handle rest)⟩, tokens)
  | .anchor name :: tokens => .ok (⟨some name, none⟩, tokens)
  | .tag handle rest :: tokens => do
    return (⟨none, some (← handles.resolve handle rest)⟩, tokens)
  | tokens => .ok (.bare, tokens)

namespace Node

/-- Whether a token ends or continues a block collection without a node. -/
def endsBlockNode (indentless : Bool) : Option Token → Bool
  | some .blockEntry => true
  | some .key | some .value => indentless
  | some .blockEnd => true
  | _ => false

/-- Whether a token ends a key or a value of a block mapping. -/
def endsBlockEntry : Option Token → Bool
  | some .key | some .value | some .blockEnd => true
  | _ => false

/-- Whether a token ends an entry of a flow sequence. -/
def endsFlowItem : Option Token → Bool
  | some .flowEntry | some .flowSequenceEnd => true
  | _ => false

/-- Whether a token ends an entry of a flow mapping. -/
def endsFlowEntry : Option Token → Bool
  | some .flowEntry | some .flowMappingEnd => true
  | _ => false

mutual

/-- A node; block collections and bare dashes only where they are allowed. -/
def ofTokens (handles : TagHandles) :
    Nat → Bool → Bool → List Token → Except ReadError (Node String × List Token)
  | 0, _, _, _ => .error .unexpectedToken
  | _ + 1, _, _, .reference name :: tokens => .ok (.reference name, tokens)
  | fuel + 1, block, indentless, tokens => do
    let (properties, rest) ← Properties.ofTokens handles tokens
    match rest with
    | .blockEntry :: _ =>
      if indentless then
        let (items, rest) ← indentlessItems handles fuel rest
        return (.sequence properties items, rest)
      else nothing properties rest
    | .scalar text style :: rest => return (.scalar properties text style, rest)
    | .flowSequenceStart :: rest =>
      let (items, rest) ← flowItems handles fuel true rest
      return (.sequence properties items, rest)
    | .flowMappingStart :: rest =>
      let (entries, rest) ← flowEntries handles fuel true rest
      return (.mapping properties entries, rest)
    | .blockSequenceStart :: inner =>
      if block then
        let (items, rest) ← blockItems handles fuel inner
        return (.sequence properties items, rest)
      else nothing properties rest
    | .blockMappingStart :: inner =>
      if block then
        let (entries, rest) ← blockEntries handles fuel inner
        return (.mapping properties entries, rest)
      else nothing properties rest
    | rest => nothing properties rest
where
  /-- Properties without a node stand for an empty scalar. -/
  nothing (properties : Properties) (tokens : List Token) :
      Except ReadError (Node String × List Token) :=
    if properties = .bare then .error .unexpectedToken
    else .ok (.scalar properties "" .plain, tokens)

/-- The items of an indented block sequence, up to its end. -/
def blockItems (handles : TagHandles) :
    Nat → List Token → Except ReadError (List (Node String) × List Token)
  | fuel + 1, .blockEntry :: tokens => do
    let (item, rest) ←
      if endsBlockNode false tokens.head? then pure (Node.empty, tokens)
      else ofTokens handles fuel true false tokens
    let (items, rest) ← blockItems handles fuel rest
    return (item :: items, rest)
  | _, .blockEnd :: tokens => .ok ([], tokens)
  | _, _ => .error .unexpectedToken

/-- The items of a block sequence at the indentation of its mapping. -/
def indentlessItems (handles : TagHandles) :
    Nat → List Token → Except ReadError (List (Node String) × List Token)
  | 0, _ => .error .unexpectedToken
  | fuel + 1, .blockEntry :: tokens => do
    let (item, rest) ←
      if endsBlockNode true tokens.head? then pure (Node.empty, tokens)
      else ofTokens handles fuel true false tokens
    let (items, rest) ← indentlessItems handles fuel rest
    return (item :: items, rest)
  | _ + 1, tokens => .ok ([], tokens)

/-- The entries of a block mapping, up to its end. -/
def blockEntries (handles : TagHandles) :
    Nat → List Token → Except ReadError (List (Node String × Node String) × List Token)
  | fuel + 1, .key :: tokens => do
    let (key, rest) ←
      if endsBlockEntry tokens.head? then pure (Node.empty, tokens)
      else ofTokens handles fuel true true tokens
    let (value, rest) ← blockValue handles fuel rest
    let (entries, rest) ← blockEntries handles fuel rest
    return ((key, value) :: entries, rest)
  | _, .blockEnd :: tokens => .ok ([], tokens)
  | _, _ => .error .unexpectedToken

/-- The value behind a key of a block mapping, if there is one. -/
def blockValue (handles : TagHandles) :
    Nat → List Token → Except ReadError (Node String × List Token)
  | 0, _ => .error .unexpectedToken
  | fuel + 1, .value :: tokens =>
    if endsBlockEntry tokens.head? then .ok (Node.empty, tokens)
    else ofTokens handles fuel true true tokens
  | _ + 1, tokens => .ok (Node.empty, tokens)

/-- The items of a flow sequence, up to its closing bracket. -/
def flowItems (handles : TagHandles) :
    Nat → Bool → List Token → Except ReadError (List (Node String) × List Token)
  | 0, _, _ => .error .unexpectedToken
  | _ + 1, _, .flowSequenceEnd :: tokens => .ok ([], tokens)
  | fuel + 1, first, tokens => do
    let tokens ← flowSeparated first tokens
    match tokens with
    | .flowSequenceEnd :: rest => return ([], rest)
    | .key :: rest =>
      let (entry, rest) ← flowPair handles fuel rest
      let (items, rest) ← flowItems handles fuel false rest
      return (.mapping .bare [entry] :: items, rest)
    | tokens =>
      let (item, rest) ← ofTokens handles fuel false false tokens
      let (items, rest) ← flowItems handles fuel false rest
      return (item :: items, rest)

/-- The key and the value of a single pair inside a flow sequence. -/
def flowPair (handles : TagHandles) :
    Nat → List Token → Except ReadError ((Node String × Node String) × List Token)
  | 0, _ => .error .unexpectedToken
  | fuel + 1, tokens => do
    let (key, rest) ←
      match tokens with
      | .value :: rest | .flowEntry :: rest | .flowSequenceEnd :: rest =>
        pure (Node.empty, rest)
      | tokens => ofTokens handles fuel false false tokens
    let (value, rest) ←
      match rest with
      | .value :: rest =>
        if endsFlowItem rest.head? then pure (Node.empty, rest)
        else ofTokens handles fuel false false rest
      | rest => pure (Node.empty, rest)
    return ((key, value), rest)

/-- The entries of a flow mapping, up to its closing brace. -/
def flowEntries (handles : TagHandles) :
    Nat → Bool → List Token → Except ReadError (List (Node String × Node String) × List Token)
  | 0, _, _ => .error .unexpectedToken
  | _ + 1, _, .flowMappingEnd :: tokens => .ok ([], tokens)
  | fuel + 1, first, tokens => do
    let tokens ← flowSeparated first tokens
    match tokens with
    | .flowMappingEnd :: rest => return ([], rest)
    | .key :: rest =>
      let (key, rest) ←
        if rest.head? == some .value || endsFlowEntry rest.head? then
          pure (Node.empty, rest)
        else ofTokens handles fuel false false rest
      let (value, rest) ← flowValue handles fuel rest
      let (entries, rest) ← flowEntries handles fuel false rest
      return ((key, value) :: entries, rest)
    | tokens =>
      let (key, rest) ← ofTokens handles fuel false false tokens
      let (entries, rest) ← flowEntries handles fuel false rest
      return ((key, Node.empty) :: entries, rest)

/-- The value behind a key of a flow mapping, if there is one. -/
def flowValue (handles : TagHandles) :
    Nat → List Token → Except ReadError (Node String × List Token)
  | 0, _ => .error .unexpectedToken
  | fuel + 1, .value :: tokens =>
    if endsFlowEntry tokens.head? then .ok (Node.empty, tokens)
    else ofTokens handles fuel false false tokens
  | _ + 1, tokens => .ok (Node.empty, tokens)

/-- Past the comma that all entries but the first one need. -/
def flowSeparated (first : Bool) (tokens : List Token) :
    Except ReadError (List Token) :=
  if first then .ok tokens
  else
    match tokens with
    | .flowEntry :: rest => .ok rest
    | _ => .error .unexpectedToken

end

end Node

/-- Directives as they are collected in front of a document. -/
structure Directives where
  hasVersion : Bool
  handles : TagHandles
  deriving Repr

/-- The directives at the front of the tokens. -/
def Directives.ofTokens :
    Directives → List Token → Except ReadError (Directives × List Token)
  | directives, .versionDirective major minor :: tokens =>
    if directives.hasVersion then .error .repeatedDirective
    else if major == 1 && (minor == 1 || minor == 2) then
      ofTokens { directives with hasVersion := true } tokens
    else .error .incompatibleVersion
  | directives, .tagDirective handle start :: tokens =>
    if directives.handles.any (·.1 == handle) then .error .repeatedDirective
    else
      ofTokens
        { directives with handles := directives.handles ++ [(handle, start)] }
        tokens
  | directives, tokens => .ok (directives, tokens)

/-- Whether a token begins an explicit document or ends the text. -/
def startsExplicit : Token → Bool
  | .versionDirective _ _ | .tagDirective _ _ | .documentStart => true
  | _ => false

/-- Whether a token ends a document without content. -/
def endsDocument : Token → Bool
  | .versionDirective _ _ | .tagDirective _ _ | .documentStart
  | .documentEnd | .streamEnd => true
  | _ => false

/-- The only document of a text, or nothing if the text is empty. -/
def Node.documentOfTokens (tokens : List Token) :
    Except ReadError (Option (Node String)) := do
  let fuel := 4 * tokens.length + 8
  let (node, rest) ←
    match tokens with
    | [] | [.streamEnd] => return none
    | first :: _ =>
      if startsExplicit first then do
        let (directives, rest) ← Directives.ofTokens ⟨false, []⟩ tokens
        let handles := directives.handles ++ TagHandles.standard
        match rest with
        | .documentStart :: content =>
          if content.head?.all endsDocument then pure (Node.empty, content)
          else Node.ofTokens handles fuel true false content
        | _ => throw .unexpectedToken
      else Node.ofTokens TagHandles.standard fuel true false tokens
  match rest.dropWhile (· == .documentEnd) with
  | [.streamEnd] => return some node
  | .documentStart :: _ => throw .severalDocuments
  | _ => throw .unexpectedToken

end Gatehouse.Yaml

/-!
# Why a text is no YAML document

One constructor for each cause, and the wording of all of them in
`ReadError.message`.
-/

namespace Gatehouse.Yaml

/-- Why a text cannot be read as one YAML document. -/
inductive ReadError where
  /-- A character outside the YAML character set. -/
  | forbiddenCharacter
  /-- A tab where indentation is expected. -/
  | tabIndentation
  /-- A character that starts no token. -/
  | strayCharacter
  /-- A quoted scalar without its closing quote. -/
  | unclosedQuote
  /-- A document marker inside a quoted scalar. -/
  | markerInQuote
  /-- An escape that is not defined, or names no character. -/
  | invalidEscape
  /-- A line that has to be a mapping key but has no colon. -/
  | missingColon
  /-- An indicator where the block structure does not allow it. -/
  | misplacedIndicator
  /-- A colon inside a plain scalar that would end a flow collection. -/
  | strayColon
  /-- A directive that is unknown or badly formed. -/
  | invalidDirective
  /-- A directive given twice. -/
  | repeatedDirective
  /-- A version directive for another major version. -/
  | incompatibleVersion
  /-- An anchor or alias without a proper name. -/
  | invalidAnchor
  /-- A badly formed tag. -/
  | invalidTag
  /-- A tag whose handle no directive defines. -/
  | undefinedTagHandle
  /-- A badly formed block scalar header. -/
  | invalidBlockHeader
  /-- A token that the document structure does not allow. -/
  | unexpectedToken
  /-- An alias to an anchor that is not defined before it. -/
  | unknownAnchor
  /-- Collections nested too deeply. -/
  | tooDeep
  /-- Aliases that expand without measure. -/
  | tooManyAliases
  /-- A key that occurs twice in one mapping. -/
  | repeatedKey
  /-- A scalar that its tag or its width does not admit. -/
  | unreadableScalar
  /-- More than one document in the text. -/
  | severalDocuments
  deriving DecidableEq, Repr

/-- The wording of a cause. -/
def ReadError.message : ReadError → String
  | .forbiddenCharacter => "control characters are not allowed"
  | .tabIndentation => "found a tab where indentation is expected"
  | .strayCharacter => "found a character that cannot start any token"
  | .unclosedQuote => "found the end of the text inside a quoted scalar"
  | .markerInQuote => "found a document marker inside a quoted scalar"
  | .invalidEscape => "found an invalid escape"
  | .missingColon => "could not find the colon of a key"
  | .misplacedIndicator => "an indicator is not allowed here"
  | .strayColon => "found an unexpected colon"
  | .invalidDirective => "found an invalid directive"
  | .repeatedDirective => "found a repeated directive"
  | .incompatibleVersion => "found an incompatible version"
  | .invalidAnchor => "found an invalid anchor or alias"
  | .invalidTag => "found an invalid tag"
  | .undefinedTagHandle => "found an undefined tag handle"
  | .invalidBlockHeader => "found an invalid block scalar header"
  | .unexpectedToken => "did not find the expected token"
  | .unknownAnchor => "unknown anchor"
  | .tooDeep => "recursion limit exceeded"
  | .tooManyAliases => "repetition limit exceeded"
  | .repeatedKey => "duplicate entry in a mapping"
  | .unreadableScalar => "a scalar does not fit its type"
  | .severalDocuments => "more than one document"

end Gatehouse.Yaml

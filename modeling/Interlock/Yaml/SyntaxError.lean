/-! # Faults in the form of a text

A text that is not well-formed is given up at the first fault.
-/

namespace Interlock.Yaml

/-- Why a text is not well-formed. -/
inductive SyntaxCause where
  | character
  | tokenStart
  | keyWithoutValue
  | entryNotAllowed
  | keyNotAllowed
  | valueNotAllowed
  | directive
  | anchorName
  | tagName
  | tagHandle
  | blockHeader
  | tabIndentation
  | documentMark
  | unterminated
  | escape
  | version
  | repeatedDirective
  | documentStart
  | nodeContent
  | entryExpected
  | keyExpected
  | flowSequenceExpected
  | flowMappingExpected
  | unknownAnchor (name : String)
  | selfReference (name : String)
  | excessiveAliasing
  | tagMismatch (found text wanted : String)
  | binaryData
  | mergeSource
  | mapKey
  | depth
deriving DecidableEq, Repr

/-- The wording of a cause. -/
def SyntaxCause.message : SyntaxCause → String
  | .character => "control characters are not allowed"
  | .tokenStart => "found character that cannot start any token"
  | .keyWithoutValue => "could not find expected ':'"
  | .entryNotAllowed => "block sequence entries are not allowed in this context"
  | .keyNotAllowed => "mapping keys are not allowed in this context"
  | .valueNotAllowed => "mapping values are not allowed in this context"
  | .directive => "found a directive that cannot be read"
  | .anchorName => "did not find expected alphabetic or numeric character"
  | .tagName => "did not find expected tag URI"
  | .tagHandle => "found undefined tag handle"
  | .blockHeader => "did not find expected comment or line break"
  | .tabIndentation => "found a tab character that violates indentation"
  | .documentMark => "found unexpected document indicator"
  | .unterminated => "found unexpected end of stream"
  | .escape => "found unknown escape character"
  | .version => "found incompatible YAML document"
  | .repeatedDirective => "found duplicate directive"
  | .documentStart => "did not find expected <document start>"
  | .nodeContent => "did not find expected node content"
  | .entryExpected => "did not find expected '-' indicator"
  | .keyExpected => "did not find expected key"
  | .flowSequenceExpected => "did not find expected ',' or ']'"
  | .flowMappingExpected => "did not find expected ',' or '\x7d'"
  | .unknownAnchor name => "unknown anchor '" ++ name ++ "' referenced"
  | .selfReference name => "anchor '" ++ name ++ "' value contains itself"
  | .excessiveAliasing => "document contains excessive aliasing"
  | .tagMismatch found text wanted =>
    "cannot decode " ++ found ++ " `" ++ text ++ "` as a " ++ wanted
  | .binaryData => "!!binary value contains invalid base64 data"
  | .mergeSource => "map merge requires map or sequence of maps as the value"
  | .mapKey => "invalid map key"
  | .depth => "exceeded max depth of 10000"

/-- A fault in the form of a text, and the line where it was noticed. -/
structure SyntaxError where
  line : Nat
  cause : SyntaxCause
deriving DecidableEq, Repr

/-- The wording of a fault; lines count from one there. -/
def SyntaxError.message (e : SyntaxError) : String :=
  "yaml: line " ++ toString (e.line + 1) ++ ": " ++ e.cause.message

end Interlock.Yaml

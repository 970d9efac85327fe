/-!
# What can be wrong with a document

The causes for which a text is refused as a document or as the record it should hold.
-/

namespace VirtualLab.Yaml

inductive ReadError where
  | controlCharacter
  | noToken
  | sequenceEntryNotAllowed
  | keyNotAllowed
  | valueNotAllowed
  | colonExpected
  | misplacedColon
  | misplacedTab
  | emptyName
  | malformedDirective
  | unknownDirective
  | repeatedDirective
  | incompatibleVersion
  | malformedTag
  | undefinedTagHandle
  | malformedBlockHeader
  | unterminatedQuote
  | documentMarkInQuote
  | unknownEscape
  | documentStartExpected
  | nodeExpected
  | entryExpected
  | tooDeep
  | undefinedAlias (name : String)
  | severalDocuments
  | wrongKind (expected : String)
  | repeatedField (name : String)
  | missingField (name : String)
  deriving DecidableEq, Repr

namespace ReadError

def message : ReadError → String
  | controlCharacter => "control characters are not allowed"
  | noToken => "found character that cannot start any token"
  | sequenceEntryNotAllowed => "block sequence entries are not allowed in this context"
  | keyNotAllowed => "mapping keys are not allowed in this context"
  | valueNotAllowed => "mapping values are not allowed in this context"
  | colonExpected => "could not find expected ':'"
  | misplacedColon => "found unexpected ':'"
  | misplacedTab => "found a tab character that violates indentation"
  | emptyName => "did not find expected alphabetic or numeric character"
  | malformedDirective => "found a malformed directive"
  | unknownDirective => "found unknown directive name"
  | repeatedDirective => "found duplicate directive"
  | incompatibleVersion => "found incompatible YAML document"
  | malformedTag => "found a malformed tag"
  | undefinedTagHandle => "found undefined tag handle"
  | malformedBlockHeader => "did not find expected comment or line break"
  | unterminatedQuote => "found unexpected end of stream"
  | documentMarkInQuote => "found unexpected document indicator"
  | unknownEscape => "found unknown escape character"
  | documentStartExpected => "did not find expected <document start>"
  | nodeExpected => "did not find expected node content"
  | entryExpected => "did not find expected entry"
  | tooDeep => "exceeded maximum nesting"
  | undefinedAlias name => "unknown anchor " ++ name
  | severalDocuments => "deserializing from YAML containing more than one document is not supported"
  | wrongKind expected => "invalid type, expected " ++ expected
  | repeatedField name => "duplicate field `" ++ name ++ "`"
  | missingField name => "missing field `" ++ name ++ "`"

end ReadError

end VirtualLab.Yaml

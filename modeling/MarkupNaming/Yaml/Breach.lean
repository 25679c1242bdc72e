import MarkupNaming.Text.Quoted

/-!
# Breaches

The ways in which a text can break the rules of YAML, with the words for each. A text is read in
stages, and every rule belongs to one of them.
-/
namespace MarkupNaming.Yaml
open Text

/-- A stage of reading. -/
inductive Stage
  | characters
  | tokens
  | grammar
  | references
  | values
deriving DecidableEq, Repr

/-- What has to stand at a place. -/
inductive Expectation
  | nameCharacter
  | digit
  | digitOrPoint
  | digitOrSpace
  | space
  | commentOrBreak
  | tagEnd
  | handleMark
  | tagText
  | tagEscape
  | indentation
  | indicators
  /-- The digits of an escape. -/
  | escapeDigits (count : Nat)
  | documentStart
  | nodeContent
  | blockEnd
  | nextItem
  | nextEntry
  /-- A node of a form. -/
  | form (name : Text)
  | mergedMapping
  | mergedMappings
  | items
  | singleMapping
  | singleEntry
deriving DecidableEq, Repr

namespace Expectation

/-- What is expected, in words. -/
def message : Expectation → Text
  | nameCharacter => "alphabetic or numeric character"
  | digit => "a digit"
  | digitOrPoint => "a digit or '.'"
  | digitOrSpace => "a digit or ' '"
  | space => "' '"
  | commentOrBreak => "a comment or a line break"
  | tagEnd => "'>'"
  | handleMark => "'!'"
  | tagText => "URI"
  | tagEscape => "URI escape sequence of 2 hexadecimal numbers"
  | indentation => "indentation indicator in the range 1-9"
  | indicators => "chomping or indentation indicators"
  | escapeDigits count => "escape sequence of " ++ ofNat count ++ " hexadecimal numbers"
  | documentStart => "'<document start>'"
  | nodeContent => "the node content"
  | blockEnd => "<block end>"
  | nextItem => "',' or ']'"
  | nextEntry => "',' or '\x7d'"
  | form name => "a " ++ name ++ " node"
  | mergedMapping => "a mapping for merging"
  | mergedMappings => "a mapping or list of mappings for merging"
  | items => "a sequence"
  | singleMapping => "a mapping of length 1"
  | singleEntry => "a single mapping item"

/-- The word for what stands there instead. -/
def verb : Expectation → Text
  | nextItem | nextEntry => "got"
  | _ => "found"

/-- The stage at which something is expected. -/
def stage : Expectation → Stage
  | documentStart | nodeContent | blockEnd | nextItem | nextEntry => .grammar
  | form _ | mergedMapping | mergedMappings | items | singleMapping | singleEntry => .values
  | _ => .tokens

end Expectation

/-- A way in which a rule is broken. -/
inductive Breach
  /-- Something else than what has to stand at a place. -/
  | expected (what : Expectation) (found : Text)
  | startsNoToken (found : Text)
  | noColon
  /-- Something that may not start here: sequence entries, mapping keys or mapping values. -/
  | misplaced (what : Text)
  | unknownEscape (found : Text)
  | endOfText
  | separator
  /-- Escapes in a tag whose bytes encode no text. -/
  | undecodable (reason : Text)
  | secondVersion
  | unknownVersion
  | secondHandle (handle : Text)
  | unknownHandle (handle : Text)
  | undefinedAlias (name : Text)
  | secondAnchor
  | secondDocument
  | noKey
  | unknownTag (tag : Text)
  | notAscii (reason : Text)
  | notBase64 (reason : Text)
deriving DecidableEq, Repr

namespace Breach

def message : Breach → Text
  | expected what found =>
    "expected " ++ what.message ++ ", but " ++ what.verb ++ .char ' ' :: found
  | startsNoToken found => "found character " ++ found ++ " that cannot start any token"
  | noColon => "could not find expected ':'"
  | misplaced what => what ++ " are not allowed here"
  | unknownEscape found => "found unknown escape character " ++ found
  | endOfText => "found unexpected end of stream"
  | separator => "found unexpected document separator"
  | undecodable reason => reason
  | secondVersion => "found duplicate YAML directive"
  | unknownVersion => "found incompatible YAML document (version 1.* is required)"
  | secondHandle handle => "duplicate tag handle " ++ quoted handle
  | unknownHandle handle => "found undefined tag handle " ++ quoted handle
  | undefinedAlias name => "found undefined alias " ++ quoted name
  | secondAnchor => "second occurrence"
  | secondDocument => "but found another document"
  | noKey => "found unhashable key"
  | unknownTag tag => "could not determine a constructor for the tag " ++ quoted tag
  | notAscii reason => "failed to convert base64 data into ascii: " ++ reason
  | notBase64 reason => "failed to decode base64 data: " ++ reason

/-- The stage of reading to which a rule belongs. -/
def stage : Breach → Stage
  | expected what _ => what.stage
  | startsNoToken _ | noColon | misplaced _ | unknownEscape _ | endOfText | separator
  | undecodable _ => .tokens
  | secondVersion | unknownVersion | secondHandle _ | unknownHandle _ => .grammar
  | undefinedAlias _ | secondAnchor | secondDocument => .references
  | noKey | unknownTag _ | notAscii _ | notBase64 _ => .values

end Breach
end MarkupNaming.Yaml

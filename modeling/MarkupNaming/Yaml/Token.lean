import MarkupNaming.Yaml.Mark

/-!
# Tokens

The tokens of a YAML text. Beside the marks that are written, there are tokens for the start of
a block collection, which indentation opens, and for its end.
-/
namespace MarkupNaming.Yaml

/-- A line that starts with a percent sign. -/
inductive Directive
  | version (major minor : Nat)
  | handle (handle start : Text)
  | other
deriving DecidableEq, Repr

/-- A token. -/
inductive Token
  | directive (d : Directive)
  | documentStart
  | documentEnd
  | streamEnd
  | blockSequenceStart
  | blockMappingStart
  | blockEnd
  | flowSequenceStart
  | flowSequenceEnd
  | flowMappingStart
  | flowMappingEnd
  | key
  | value
  | blockEntry
  | flowEntry
  | reference (name : Text)
  | anchor (name : Text)
  /-- A tag with the handle that stands for the start of its text, if there is one. -/
  | tag (handle : Option Text) (text : Text)
  | scalar (text : Text) (isPlain : Bool)
deriving DecidableEq, Repr

namespace Token

/-- The name of a kind of token in messages. -/
def kind : Token → Text
  | directive _ => "<directive>"
  | documentStart => "<document start>"
  | documentEnd => "<document end>"
  | streamEnd => "<stream end>"
  | blockSequenceStart => "<block sequence start>"
  | blockMappingStart => "<block mapping start>"
  | blockEnd => "<block end>"
  | flowSequenceStart => "["
  | flowSequenceEnd => "]"
  | flowMappingStart => ['\x7b']
  | flowMappingEnd => ['\x7d']
  | key => "?"
  | value => ":"
  | blockEntry => "-"
  | flowEntry => ","
  | reference _ => "<alias>"
  | anchor _ => "<anchor>"
  | tag _ _ => "<tag>"
  | scalar _ _ => "<scalar>"

end Token

/-- A token with the place where it starts. -/
structure Lexeme where
  token : Token
  start : Mark
deriving DecidableEq, Repr

end MarkupNaming.Yaml

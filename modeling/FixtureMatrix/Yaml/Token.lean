import FixtureMatrix.Yaml.Scalar

/-!
# YAML tokens

What the scanner makes of a text.  Indentation is explicit in the tokens, and
so are keys.
-/

namespace FixtureMatrix.Yaml

inductive TokenKind where
  | streamStart
  | streamEnd
  | versionDirective (major minor : Nat)
  | tagDirective (handle tagPrefix : String)
  | documentStart
  | documentEnd
  | blockSequenceStart
  | blockMappingStart
  | blockEnd
  | flowSequenceStart
  | flowSequenceEnd
  | flowMappingStart
  | flowMappingEnd
  | blockEntry
  | flowEntry
  | key
  | value
  | alias (name : String)
  | anchor (name : String)
  | tag (handle suffix : String)
  | scalar (text : String) (style : ScalarStyle)
deriving DecidableEq

structure Token where
  kind : TokenKind
  start : Mark
  stop : Mark

end FixtureMatrix.Yaml

/-
Tokens of YAML texts, and what can be wrong with a text.
-/
import BundleBuild.Trouble

namespace BundleBuild.Yaml

/-- Why a text has no value: it is no well-formed document, or it spells a value that does not
exist. -/
inductive DocumentError where
  | malformed
  /-- The kind of the error and its text. -/
  | valueless (kind text : String)

/-- A tag as it is written: a handle, unless it is given in full, and the rest. -/
structure TagText where
  handle : Option String
  suffix : String
  deriving DecidableEq, Repr

inductive Directive where
  | version (major minor : Nat)
  | tag (handle start : String)
  | other
  deriving DecidableEq, Repr

inductive Token where
  | directive (d : Directive)
  | documentStart
  | documentEnd
  | streamEnd
  | blockSequenceStart
  | blockMappingStart
  | blockEnd
  | flowSequenceStart
  | flowSequenceEnd
  | flowMappingStart
  | flowMappingEnd
  | flowEntry
  | blockEntry
  | key
  | value
  | alias (name : String)
  | anchor (name : String)
  | tag (t : TagText)
  | scalar (text : Points) (plain : Bool)
  /-- Here the text goes wrong. -/
  | failure (e : DocumentError)

end BundleBuild.Yaml

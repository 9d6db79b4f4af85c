import HookMigration.Config.Basic
import HookMigration.Hooks.Entry

/-!
# Decoders

Settings and hook files may be written in TOML and in YAML.  How a text of these formats is decoded is
left open here: a decoder says what a text holds, or what is wrong with it, and nothing else is known
about the values in between.  The same goes for the words in which a JSON text is refused.
-/

namespace HookMigration

/-- A decoder of a format. -/
structure Decoder where
  /-- The values of the format. -/
  Value : Type
  /-- The settings that a text holds. -/
  config : String → Except String Config
  /-- The values in the list `hook` of a text, which has none where there is no such list. -/
  hooks : String → Except String (List Value)
  /-- The text in the field `old` of a value, if there is one. -/
  old? : Value → Option String
  /-- The entry that a value is. -/
  entry : Value → Except String HookEntry

/-- The decoders in use. -/
class Decoders where
  toml : Decoder
  yaml : Decoder
  /-- What is said of a text that is not JSON. -/
  jsonFault : String → String
  /-- What is said of a text that is no list of diagnostics. -/
  diagnosticsFault : String → String

namespace Decoder

/-- A value of a hook file: the name that it has, if it can be read, and its entry. -/
def item (d : Decoder) (value : d.Value) : Option String × Except String HookEntry :=
  (d.old? value, d.entry value)

/-- The decoder takes an empty text for settings that say nothing. -/
def ReadsEmpty (d : Decoder) : Prop :=
  d.config "" = .ok .empty

end Decoder

end HookMigration

import HookMigration.Config.Decode
import HookMigration.Decoder
import HookMigration.Hooks.FromToml
import HookMigration.Hooks.FromYaml

/-!
# Plain decoders

Decoders made of the readers of this library.  They refuse some texts that others decode: dates and
times in TOML; anchors, aliases, tags, directives and keys behind a question mark in YAML.  Nor do
they say what is wrong with a text.
-/

namespace HookMigration

/-- What plain decoders say of a text that they refuse. -/
def malformedDocument : String := "malformed document"

/-- What is found in a text, or the words for a text that is refused. -/
def orMalformed (found : Option α) : Except String α :=
  match found with
  | some a => .ok a
  | none => .error malformedDocument

/-- The plain decoder of TOML. -/
@[reducible]
def Toml.decoder : Decoder where
  Value := Toml
  config text := orMalformed ((read? text).bind config?)
  hooks text := orMalformed ((read? text).bind hookValues?)
  old? := entryName?
  entry value := value.toEntry.mapError reason

/-- The plain decoder of YAML. -/
@[reducible]
def Yaml.decoder : Decoder where
  Value := Yaml
  config text := orMalformed ((read? text).bind config?)
  hooks text := orMalformed ((read? text).bind hookValues?)
  old? := entryName?
  entry value := value.toEntry.mapError (·.fault.message)

theorem Toml.readsEmpty_decoder : Toml.decoder.ReadsEmpty := rfl

theorem Yaml.readsEmpty_decoder : Yaml.decoder.ReadsEmpty := rfl

/-- The plain decoders. -/
@[reducible]
def Decoders.plain : Decoders where
  toml := Toml.decoder
  yaml := Yaml.decoder
  jsonFault _ := malformedDocument
  diagnosticsFault _ := malformedDocument

end HookMigration

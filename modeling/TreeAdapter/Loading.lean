import TreeAdapter.Document.OfYaml
import TreeAdapter.Interface.Decoder
import TreeAdapter.Interface.Registry
import TreeAdapter.Json.Reader
import TreeAdapter.Settings.Decoder

/-!
# Settings and registries from texts

Settings are written as JSON or YAML, files of declarations as YAML. A text that does not parse
and a document that does not decode are the same failure of the format; a document that decodes
still has to pass the checks of what it describes.
-/

namespace TreeAdapter
set_option autoImplicit false

/-- Why settings or declarations cannot be loaded. -/
inductive LoadError where
  /-- The file cannot be read. -/
  | io
  | yaml
  | json
  | settings (cause : SettingsError)
  | declaration (cause : AdapterError)
deriving DecidableEq

def LoadError.message : LoadError → String
  | io => "IO error"
  | yaml => "YAML error"
  | json => "JSON error"
  | settings cause => cause.message
  | declaration cause => cause.message

namespace Settings

/-- The settings that a document describes, when they can be used; `malformed` when there is no
document or it does not decode. -/
def load (malformed : LoadError) (document : Option LinkedDocument) : Except LoadError Settings :=
  match document with
  | none => .error malformed
  | some d =>
    match d.decode decode with
    | .error _ => .error malformed
    | .ok settings => settings.validated.mapError .settings

def ofJsonText (text : String) : Except LoadError Settings :=
  load .json ((Json.read text).map LinkedDocument.ofJson)

def ofYamlText (text : String) : Except LoadError Settings :=
  load .yaml (LinkedDocument.ofYaml text)

end Settings

/-- The registry of a file of declarations. -/
def Registry.ofYamlText (text : String) : Except LoadError Registry :=
  match LinkedDocument.ofYaml text with
  | none => .error .yaml
  | some d =>
    match d.decode Declaration.decodeFile with
    | .error _ => .error .yaml
    | .ok declarations => (ofDeclarations declarations).mapError .declaration

end TreeAdapter

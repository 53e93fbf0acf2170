import InputActions.Settings
import InputActions.Yaml.Reader
import InputActions.Yaml.Writer

/-!
# Settings files

Settings and configurations are kept in YAML. A field that is left out has its standard value, and a
name that stands for no field is ignored; a field that is given twice, or whose value has another
form than the field's, makes the whole document invalid. What is written reads back as the same
settings.

A configuration read from a document of its own is normalized; inside settings it stays as it is
until the environment has had its say.
-/

namespace InputActions

def Platform.ofYaml? (yaml : Yaml) : Option Platform :=
  match yaml.string? with
  | some "mac" => some .mac
  | some "other" => some .other
  | _ => none

namespace Viewport

/-- Both sides must be given. -/
def ofYaml? (yaml : Yaml) : Option Viewport := do
  let entries ← yaml.entries?
  let width ← Yaml.field entries "width"
  let height ← Yaml.field entries "height"
  return ⟨← (← width).integer?, ← (← height).integer?⟩

def toYaml (v : Viewport) : Yaml :=
  .ofMembers
    [("width", .ofWord (Text.Integer.intText v.width.toInt)),
      ("height", .ofWord (Text.Integer.intText v.height.toInt))]

end Viewport

namespace Config

def ofYaml? (yaml : Yaml) : Option Config := do
  let entries ← yaml.entries?
  let interval ← Yaml.field entries "sample_interval_ms"
  let center ← Yaml.field entries "spec_compat_pointer_origin"
  let platform ← Yaml.field entries "platform"
  return {
    sampleInterval := ← Yaml.default? standard.sampleInterval Yaml.natural? interval
    visibleCenter := ← Yaml.default? standard.visibleCenter Yaml.bool? center
    platform := ← Yaml.default? standard.platform Platform.ofYaml? platform }

def toYaml (config : Config) : Yaml :=
  .ofMembers
    [("sample_interval_ms", .ofWord (Text.Integer.natText config.sampleInterval.toNat)),
      ("spec_compat_pointer_origin", .ofWord (if config.visibleCenter then "true" else "false")),
      ("platform", .ofString config.platform.name)]

/-- The configuration of a document, with an interval of at least one millisecond. -/
def ofDocument? (text : String) : Option Config :=
  ((Yaml.read? text).bind ofYaml?).map normalized

def document (config : Config) : String := config.toYaml.text

end Config

namespace Settings

def ofYaml? (yaml : Yaml) : Option Settings := do
  let entries ← yaml.entries?
  let logLevel ← Yaml.field entries "log_level"
  let actions ← Yaml.field entries "actions"
  let viewport ← Yaml.field entries "viewport"
  return {
    logLevel := ← Yaml.default? standard.logLevel Yaml.string? logLevel
    actions := ← Yaml.default? standard.actions Config.ofYaml? actions
    viewport := ← Yaml.default? standard.viewport Viewport.ofYaml? viewport }

def toYaml (settings : Settings) : Yaml :=
  .ofMembers
    [("log_level", .ofString settings.logLevel), ("actions", settings.actions.toYaml),
      ("viewport", settings.viewport.toYaml)]

def ofDocument? (text : String) : Option Settings := (Yaml.read? text).bind ofYaml?

def document (settings : Settings) : String := settings.toYaml.text

end Settings

end InputActions

import InputActions.Event
import InputActions.Json.Record
import InputActions.Settings

/-!
# Interchange forms

How the values of the library are read from and written as JSON. Names stand for choices, and the
members of a record are written in a fixed order: those of an event begin with the channel it was
delivered on.
-/

namespace InputActions

def ofNames {α : Type} (name : α → String) (values : List α) : List (String × α) :=
  values.map fun value => (name value, value)

namespace Point

def ofJson? (json : Json) : Option Point := do
  match ← json.fields? ["x", "y"] 2 with
  | [x, y] => return ⟨← (← x).integer?, ← (← y).integer?⟩
  | _ => none

def toJson (p : Point) : Json := .obj [("x", .int p.x.toInt), ("y", .int p.y.toInt)]

end Point

namespace Viewport

def ofJson? (json : Json) : Option Viewport := do
  match ← json.fields? ["width", "height"] 2 with
  | [width, height] => return ⟨← (← width).integer?, ← (← height).integer?⟩
  | _ => none

def toJson (v : Viewport) : Json :=
  .obj [("width", .int v.width.toInt), ("height", .int v.height.toInt)]

end Viewport

namespace Modifiers

def members (m : Modifiers) : List (String × Json) :=
  [("alt", .bool m.alt), ("shift", .bool m.shift), ("ctrl", .bool m.ctrl),
    ("meta", .bool m.metaKey)]

def ofJson? (json : Json) : Option Modifiers := do
  match ← json.fields? ["alt", "shift", "ctrl", "meta"] 4 with
  | [alt, shift, ctrl, metaKey] =>
    return ⟨← (← alt).bool?, ← (← shift).bool?, ← (← ctrl).bool?, ← (← metaKey).bool?⟩
  | _ => none

def toJson (m : Modifiers) : Json := .obj m.members

end Modifiers

def PointerKind.ofJson? : Json → Option PointerKind :=
  Json.choice? (ofNames name [.mouse, .pen, .touch])

def CenterMode.ofJson? : Json → Option CenterMode :=
  Json.choice? (ofNames name [.inView, .legacy])

def Platform.ofJson? : Json → Option Platform := Json.choice? (ofNames name [.mac, .other])

def KeyEventKind.ofJson? : Json → Option KeyEventKind := Json.choice? (ofNames name all)

def MouseEventKind.ofJson? : Json → Option MouseEventKind := Json.choice? (ofNames name all)

namespace Config

def ofJson? (json : Json) : Option Config := do
  let names := ["sample_interval_ms", "spec_compat_pointer_origin", "platform"]
  match ← json.fields? names 0 with
  | [interval, center, platform] =>
    return {
      sampleInterval := ← Json.default? standard.sampleInterval Json.natural? interval
      visibleCenter := ← Json.default? standard.visibleCenter Json.bool? center
      platform := ← Json.default? standard.platform Platform.ofJson? platform }
  | _ => none

def toJson (config : Config) : Json :=
  .obj
    [("sample_interval_ms", .int config.sampleInterval.toNat),
      ("spec_compat_pointer_origin", .bool config.visibleCenter),
      ("platform", .str config.platform.name)]

end Config

namespace Settings

def ofJson? (json : Json) : Option Settings := do
  match ← json.fields? ["log_level", "actions", "viewport"] 0 with
  | [logLevel, actions, viewport] =>
    return {
      logLevel := ← Json.default? standard.logLevel Json.string? logLevel
      actions := ← Json.default? standard.actions Config.ofJson? actions
      viewport := ← Json.default? standard.viewport Viewport.ofJson? viewport }
  | _ => none

def toJson (settings : Settings) : Json :=
  .obj
    [("log_level", .str settings.logLevel), ("actions", settings.actions.toJson),
      ("viewport", settings.viewport.toJson)]

end Settings

def KeyEvent.members (event : KeyEvent) : List (String × Json) :=
  [("kind", .str event.kind.name), ("key", .str event.key), ("code", .str event.code),
    ("location", .int event.location.number), ("repeat", .bool event.held)]
    ++ event.modifiers.members

def MouseEvent.members (event : MouseEvent) : List (String × Json) :=
  [("kind", .str event.kind.name), ("x", .int event.position.x.toInt),
    ("y", .int event.position.y.toInt), ("button", .int event.button.toNat),
    ("buttons", .int event.buttons), ("click_count", .int event.clickCount)]
    ++ event.modifiers.members

def Event.members : Event → List (String × Json)
  | .key event => ("channel", .str "key") :: event.members
  | .mouse event => ("channel", .str "mouse") :: event.members

def Event.toJson (event : Event) : Json := .obj event.members

end InputActions

import InputActions.Text.Integer
import InputActions.Text.Property.Blank

/-!
# Configuration

How often a moving pointer is sampled, which centre of an element a move is measured from, and the
conventions of the platform. Environment variables override single settings; a variable whose text
makes no sense is ignored, except that the choice of centre takes every text for a yes that is not
one of the words for no.

A sample interval of zero would never let time pass, so `normalized` makes it one millisecond, and
an overridden configuration is normalized (`withOverrides_interval_ne_zero`).
-/

namespace InputActions

/-- Which centre of an element is taken: that of its visible part, or that of the whole element. -/
inductive CenterMode where
  | inView
  | legacy
  deriving DecidableEq, Repr

def CenterMode.name : CenterMode → String
  | .inView => "in-view"
  | .legacy => "legacy"

inductive Platform where
  | mac
  | other
  deriving DecidableEq, Repr

namespace Platform

def name : Platform → String
  | .mac => "mac"
  | .other => "other"

/-- The platform of an operating system's name, in any case. -/
def ofText? (text : String) : Option Platform :=
  match text.map Char.toLower with
  | "mac" => some .mac
  | "macos" => some .mac
  | "darwin" => some .mac
  | "other" => some .other
  | "linux" => some .other
  | "windows" => some .other
  | _ => none

end Platform

/-- The values of environment variables. -/
abbrev Environment := List (String × String)

namespace Environment

def get? (environment : Environment) (name : String) : Option String :=
  (environment.find? (·.1 == name)).map (·.2)

end Environment

structure Config where
  /-- Milliseconds between two samples of a moving pointer. -/
  sampleInterval : UInt64
  /-- Whether moves are measured from the centre of the visible part. -/
  visibleCenter : Bool
  platform : Platform
  deriving DecidableEq, Repr

namespace Config

def standard : Config := ⟨17, true, .other⟩

def centerMode (config : Config) : CenterMode := if config.visibleCenter then .inView else .legacy

/-- The configuration with an interval of at least one millisecond. -/
def normalized (config : Config) : Config :=
  if config.sampleInterval = 0 then { config with sampleInterval := 1 } else config

theorem normalized_interval_ne_zero (config : Config) : config.normalized.sampleInterval ≠ 0 := by
  unfold normalized
  split
  · simp
  · assumption

theorem normalized_of_ne_zero {config : Config} (h : config.sampleInterval ≠ 0) :
    config.normalized = config := by
  simp [normalized, h]

def intervalVariable : String := "WDACTIONS_SAMPLE_INTERVAL_MS"

def centerVariable : String := "WDACTIONS_SPEC_COMPAT_ORIGIN"

def platformVariable : String := "WDACTIONS_PLATFORM"

/-- A whole number, with blanks around it. -/
def intervalOfText? (text : String) : Option UInt64 :=
  (Text.Integer.readUInt64 (Text.trim text.toList)).toOption

def noWords : List String := ["0", "false", "no", "off"]

/-- Everything but the words for no is a yes. -/
def yesOfText (text : String) : Bool :=
  !(noWords.contains (text.map Char.toLower))

/-- The configuration with the settings that the environment overrides. -/
def withOverrides (config : Config) (environment : Environment) : Config :=
  normalized
    { sampleInterval :=
        ((environment.get? intervalVariable).bind intervalOfText?).getD config.sampleInterval
      visibleCenter :=
        ((environment.get? centerVariable).map yesOfText).getD config.visibleCenter
      platform :=
        ((environment.get? platformVariable).bind Platform.ofText?).getD config.platform }

theorem withOverrides_interval_ne_zero (config : Config) (environment : Environment) :
    (config.withOverrides environment).sampleInterval ≠ 0 :=
  normalized_interval_ne_zero _

end Config

end InputActions

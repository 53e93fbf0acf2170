import InputActions.Config
import InputActions.Geometry
import InputActions.Text.Integer

/-!
# Settings of the command

What the configuration file says: how much is logged, how sessions are configured, and the viewport
of the recording surface. A file may leave out any of them.
-/

namespace InputActions

structure Settings where
  logLevel : String
  actions : Config
  viewport : Viewport
  deriving DecidableEq

def Settings.standard : Settings := ⟨"info", .standard, .standard⟩

/-- The names of log levels; each also has a number, counted from one. -/
def logLevels : List String := ["error", "warn", "info", "debug", "trace"]

/-- Whether a text names a log level, in any case, or is the number of one. -/
def isLogLevel (text : String) : Bool :=
  logLevels.contains (text.map Char.toLower) ||
    match Text.Integer.readUInt64 text.toList with
    | .ok number => 1 ≤ number && number.toNat ≤ logLevels.length
    | .error _ => false

end InputActions

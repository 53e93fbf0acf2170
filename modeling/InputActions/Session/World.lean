import InputActions.Host
import InputActions.Session.Inputs

/-!
# Sessions and the world they act on

A session fixes a configuration whose sample interval is at least one millisecond. The world is
what its calls change: the clock, the inputs, and the surface. Requests to the surface are made
here: each is counted, and each comes back with the time until its answer.
-/

namespace InputActions

/-- The fixed part of a session. -/
structure Session where
  config : Config
  interval_ne_zero : config.sampleInterval ≠ 0

/-- A session with this configuration; an interval of zero becomes one millisecond. -/
def Session.ofConfig (config : Config) : Session :=
  ⟨config.normalized, config.normalized_interval_ne_zero⟩

/-- What an action needs to know about the call it belongs to. -/
structure Context where
  session : Session
  mode : CenterMode

structure World where
  /-- Milliseconds since the beginning. -/
  now : Nat
  inputs : Inputs
  host : Host

/-- No wait is longer than thirty years, in milliseconds. -/
def longestWait : Nat := 30 * 365 * 24 * 60 * 60 * 1000

/-- The answer to an injection: the number of the injection, and whether it was refused. -/
structure Verdict where
  number : Nat
  refusal : Option HostError
  deriving DecidableEq

namespace World

def initial (host : Host) : World := ⟨0, .fresh, host⟩

/-- The instant at which a wait that begins now is over. -/
def wake (world : World) (ms : Nat) : Nat := world.now + min ms longestWait

/-- Asks the surface to inject an event. -/
def inject (world : World) (source : SourceId) (event : Event) : World × Verdict × Nat :=
  let host := world.host
  let refusal := host.injectionRefusal host.tally world.now
  let tally := { host.tally with injections := host.tally.injections + 1 }
  let journal := host.journal ++ [⟨world.now, source, event, refusal⟩]
  ({ world with host := { host with tally := tally, journal := journal } },
    ⟨host.tally.injections, refusal⟩, host.injectionDelay host.tally world.now)

/-- Notes that the answer to an injection has come. -/
def acknowledge (world : World) (verdict : Verdict) : World :=
  { world with
    host := { world.host with answered := world.host.answered ++ [verdict.number] } }

/-- Asks for the centre of an element. -/
def askCenter (world : World) (ref : ElementRef) : World × Option HostError × Nat :=
  let host := world.host
  let refusal := if host.stale ref then some (.staleElement ref.shown) else none
  let tally := { host.tally with centers := host.tally.centers + 1 }
  ({ world with host := { host with tally := tally } }, refusal,
    host.geometryDelay host.tally world.now)

/-- Asks for the viewport. -/
def askViewport (world : World) : World × Option HostError × Nat :=
  let host := world.host
  let refusal := host.viewportRefusal host.tally world.now
  let tally := { host.tally with viewports := host.tally.viewports + 1 }
  ({ world with host := { host with tally := tally } }, refusal,
    host.geometryDelay host.tally world.now)

/-- Tells the surface to forget the last click. -/
def resetClick (world : World) : World := { world with host := world.host.resetClick }

end World

end InputActions

import InputActions.Session.Schedule

/-!
# Scripts of requests

A script makes one step after another on the same session. A step is a request, or a set of
branches that start together, each after a delay; a branch is a step in turn. Branches inside
branches are planned as one flat list in the order in which they stand, because a branch does
nothing of its own: it starts its parts and is finished with the last of them (`Report.time`).
-/

namespace InputActions

/-- A request, or steps that run together, each with its delay. -/
inductive Step where
  | request (request : Request)
  | concurrent (branches : List (Nat × Step))

/-- The answer to a request with the time it came, or those of the branches. -/
inductive Report where
  | answer (time : Nat) (answer : Answer)
  | branches (start : Nat) (reports : List Report)

mutual

/-- When a step was finished: a set of branches with the last of them, and at once if there are
none. -/
def Report.time : Report → Nat
  | .answer time _ => time
  | .branches start reports => Report.latest start reports

def Report.latest (start : Nat) : List Report → Nat
  | [] => start
  | report :: reports => max report.time (Report.latest start reports)

end

namespace Step

mutual

/-- The activities of a step that starts at this instant. -/
def plan (start : Nat) : Step → List Activity
  | .request asked => [.planned start asked]
  | .concurrent branches => planBranches start branches

def planBranches (start : Nat) : List (Nat × Step) → List Activity
  | [] => []
  | (delay, step) :: branches =>
    plan (start + min delay longestWait) step ++ planBranches start branches

end

mutual

/-- Gives the activities of a step back their places, and returns those that follow. -/
def collect (start : Nat) : Step → List Activity → Report × List Activity
  | .request _, .finished time answer :: activities => (.answer time answer, activities)
  | .request _, activities => (.branches start [], activities)
  | .concurrent branches, activities =>
    let (reports, activities) := collectBranches start branches activities
    (.branches start reports, activities)

def collectBranches (start : Nat) :
    List (Nat × Step) → List Activity → List Report × List Activity
  | [], activities => ([], activities)
  | (delay, step) :: branches, activities =>
    let (report, activities) := collect (start + min delay longestWait) step activities
    let (reports, activities) := collectBranches start branches activities
    (report :: reports, activities)

end

/-- Runs a step until every part of it is finished. -/
def perform (step : Step) (session : Session) (world : World) : World × Report :=
  let schedule : Schedule := ⟨session, world, step.plan world.now⟩
  let done := schedule.run
  (done.world, (step.collect world.now done.activities).1)

end Step

namespace World

/-- Makes one request and waits for its answer. -/
def ask (world : World) (session : Session) (request : Request) : World × Answer :=
  match (Step.request request).perform session world with
  | (world, .answer _ answer) => (world, answer)
  | (world, .branches ..) => (world, .result (.ok ()))

end World

end InputActions

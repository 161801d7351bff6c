import JobEngine.Value
import JobEngine.Clock.Duration

/-!
# Health checks

Liveness says the process runs; readiness runs named checks. A failing critical check makes
the service unhealthy, a failing optional one only degrades it. Readiness results are kept
for one second so that probes do not hammer dependencies, and a service that is shutting
down is unhealthy at once.

## Main Definitions

* `HealthStatus`, `CheckResult`, `HealthReport` — the answers.
* `HealthChecker` — registered checks, the cached report and the shutdown flag.
* `HealthChecker.gather` — the report of checks finishing in a given order.
* `HealthChecker.readiness` — the readiness report, given what each check answers now.

## Design Notes

Checks are given by name; what a check answers (`none` for success, or an error message) is
supplied by the caller at the moment of the probe, so the checker stays a pure value. The
names of the checks actually run are returned, since a cached answer runs none.

The checks of a probe run at once, and each folds its result into the overall status as it
finishes (`absorb`). `gather` takes the order in which they finish; a probe takes them in the
order they were registered, and every other order gives the same report.
-/

namespace JobEngine

/-- The health of a component or of the service. -/
inductive HealthStatus where
  | healthy
  | unhealthy
  | degraded
  deriving DecidableEq

/-- The name of a health status. -/
def HealthStatus.name : HealthStatus → String
  | .healthy => "healthy"
  | .unhealthy => "unhealthy"
  | .degraded => "degraded"

/-- The result of one check. -/
structure CheckResult where
  status : HealthStatus
  message : String := ""

/-- A health report: overall status and the result of each check, by name. -/
structure HealthReport where
  status : HealthStatus
  checks : List (String × CheckResult) := []

namespace HealthReport

/-- Whether the service is healthy. -/
def isHealthy (r : HealthReport) : Bool := r.status == .healthy

/-- Whether traffic should be routed here: a degraded service still serves. -/
def isReady (r : HealthReport) : Bool := r.status != .unhealthy

/-- The report as a JSON object: empty check lists and empty messages are left out. -/
def toValue (r : HealthReport) : Value :=
  let check (c : CheckResult) : Value :=
    .obj ([("status", .str c.status.name)] ++
      (if c.message.isEmpty then [] else [("message", .str c.message)]))
  .obj ([("status", .str r.status.name)] ++
    (if r.checks.isEmpty then [] else
      [("checks", Value.map (r.checks.map fun (n, c) => (n, check c)))]))

end HealthReport

/-- A registered check. -/
structure HealthCheck where
  name : String
  critical : Bool

/-- The state of a health checker. -/
structure HealthChecker where
  checks : List HealthCheck := []
  cached : Option (HealthReport × Int) := none
  shuttingDown : Bool := false

namespace HealthChecker

/-- How long a readiness report is reused, in nanoseconds. -/
def cacheTtl : Int := Duration.nanosPerSecond

/-- The report of a liveness probe. -/
def liveness : HealthReport := { status := .healthy }

/-- Registers a check; one of the same name is replaced and the new one moves to the end.
The cached report is dropped. -/
def register (name : String) (critical : Bool) (c : HealthChecker) : HealthChecker :=
  { c with checks := c.checks.filter (·.name != name) ++ [{ name, critical }], cached := none }

/-- Marks the service as shutting down. -/
def shutdown (c : HealthChecker) : HealthChecker :=
  { c with shuttingDown := true, cached := none }

/-- The result of a check given its answer. -/
def result (ch : HealthCheck) : Option String → CheckResult
  | none => { status := .healthy }
  | some msg => { status := if ch.critical then .unhealthy else .degraded, message := msg }

/-- A check's result folded into the overall status as the check reports in: a failing
critical check makes the service unhealthy, a failing optional one degrades a healthy service,
and a passing check changes nothing. -/
def absorb (status : HealthStatus) (critical : Bool) (r : CheckResult) : HealthStatus :=
  if r.status == .healthy then status
  else if critical then .unhealthy
  else if status == .healthy then .degraded
  else status

/-- Combines results into a report, folding them into a healthy status in the order they come
in. -/
def combine (results : List (HealthCheck × CheckResult)) : HealthReport :=
  { status := results.foldl (fun status (ch, r) => absorb status ch.critical r) .healthy,
    checks := results.map fun (ch, r) => (ch.name, r) }

/-- The report of the checks `done`, run at once and finishing in the order of `done`; without
checks the service is unhealthy. -/
def gather (answer : String → Option String) (done : List HealthCheck) : HealthReport :=
  if done.isEmpty then
    { status := .unhealthy,
      checks := [("engine", { status := .unhealthy, message := "no readiness checks registered" })] }
  else combine (done.map fun ch => (ch, result ch (answer ch.name)))

/-- Runs every check at time `now` and caches the report; the checks finish in the order they
were registered. -/
def fresh (now : Int) (answer : String → Option String) (c : HealthChecker) :
    HealthReport × List String × HealthChecker :=
  let report := gather answer c.checks
  (report, c.checks.map (·.name), { c with cached := some (report, now) })

/-- The readiness report at time `now`, the checks run for it, and the checker after it.
`answer` gives what each check answers. -/
def readiness (now : Int) (answer : String → Option String) (c : HealthChecker) :
    HealthReport × List String × HealthChecker :=
  if c.shuttingDown then
    ({ status := .unhealthy,
       checks := [("shutdown", { status := .unhealthy, message := "service is shutting down" })] },
     [], c)
  else match c.cached with
    | some (r, taken) => if now - taken < cacheTtl then (r, [], c) else c.fresh now answer
    | none => c.fresh now answer

end HealthChecker

end JobEngine

import Mathlib.Tactic.SplitIfs
import JobEngine.Health.Checker

/-!
# Readiness does not depend on the order checks finish in

A readiness probe runs every registered check at once, and each check folds its result into the
overall status as it finishes: a failing critical check makes the service unhealthy, a failing
optional one degrades a healthy service. This module proves that the fold is the worse-of join
on healthy, degraded and unhealthy, so that every order of finishing gives the same report, and
that a checker that has shut down stays unhealthy.

## Main Definitions

* `HealthStatus.join` — the worse of two statuses.
* `HealthChecker.worst` — the worst result of some checks.
* `HealthChecker.Reports` — what a readiness report promises.
* `HealthChecker.Call`, `HealthChecker.callAll` — runs of registrations, shutdowns and probes.

## Main Statements

* `HealthChecker.absorb_result` — folding in one result is joining it.
* `HealthChecker.gather_reports` — checks finishing in any order give a report that keeps the
  promise.
* `HealthChecker.readiness_aggregation` — the same for every checker a run of calls reaches,
  and shutdown for good.
-/

namespace JobEngine

namespace HealthStatus

/-- The worse of two statuses: unhealthy over degraded over healthy. -/
def join : HealthStatus → HealthStatus → HealthStatus
  | .unhealthy, _ | _, .unhealthy => .unhealthy
  | .degraded, _ | _, .degraded => .degraded
  | .healthy, .healthy => .healthy

theorem join_assoc (a b c : HealthStatus) : (a.join b).join c = a.join (b.join c) := by
  cases a <;> cases b <;> cases c <;> rfl

@[simp] theorem healthy_join (a : HealthStatus) : healthy.join a = a := by
  cases a <;> rfl

end HealthStatus

namespace HealthChecker

/-- **A check's result folds into the status as the worse of the two.** -/
theorem absorb_result (status : HealthStatus) (ch : HealthCheck) (a : Option String) :
    absorb status ch.critical (result ch a) = status.join (result ch a).status := by
  cases a <;> cases status <;> cases critical : ch.critical <;>
    simp [absorb, result, critical] <;> rfl

/-- The worst result of some checks: unhealthy if a critical check fails, degraded if only
optional ones fail, healthy if none fails. -/
def worst (answer : String → Option String) (checks : List HealthCheck) : HealthStatus :=
  if checks.any fun ch => ch.critical && (answer ch.name).isSome then .unhealthy
  else if checks.any fun ch => !ch.critical && (answer ch.name).isSome then .degraded
  else .healthy

theorem worst_cons (answer : String → Option String) (ch : HealthCheck) (rest : List HealthCheck) :
    worst answer (ch :: rest) = (result ch (answer ch.name)).status.join (worst answer rest) := by
  cases a : answer ch.name <;> cases critical : ch.critical <;>
    simp [worst, result, a, critical] <;> split_ifs <;> rfl

/-- **Folding results in any order gives the worst of them.** -/
theorem foldl_absorb (answer : String → Option String) (done : List HealthCheck)
    (status : HealthStatus) :
    (done.map fun ch => (ch, result ch (answer ch.name))).foldl
        (fun status (ch, r) => absorb status ch.critical r) status =
      status.join (worst answer done) := by
  induction done generalizing status with
  | nil => cases status <;> rfl
  | cons ch rest ih =>
    simp only [List.map_cons, List.foldl_cons, absorb_result, ih, worst_cons,
      HealthStatus.join_assoc]

theorem worst_perm (answer : String → Option String) {done checks : List HealthCheck}
    (finished : done.Perm checks) : worst answer done = worst answer checks := by
  simp only [worst, finished.any_eq]

/-- **What a readiness report promises** for the registered checks `checks`, given what each
answers: with no check registered, the service is unhealthy and the one entry is `engine`;
otherwise its status is the worst result of the checks, and it has one entry per check, with the
check's result. -/
structure Reports (answer : String → Option String) (checks : List HealthCheck)
    (r : HealthReport) : Prop where
  status : r.status = if checks.isEmpty then .unhealthy else worst answer checks
  entries : if checks.isEmpty then
      r.checks = [("engine", { status := .unhealthy, message := "no readiness checks registered" })]
    else r.checks.Perm (checks.map fun ch => (ch.name, result ch (answer ch.name)))
  distinct : (r.checks.map (·.1)).Nodup

/-- **The report does not depend on the order the checks finish in.** -/
theorem gather_reports (answer : String → Option String) {done checks : List HealthCheck}
    (distinct : (checks.map (·.name)).Nodup) (finished : done.Perm checks) :
    Reports answer checks (gather answer done) := by
  have empty := finished.isEmpty_eq
  cases none : checks.isEmpty
  case true =>
    have nothing : done.isEmpty = true := empty.trans none
    refine ⟨?_, ?_, ?_⟩ <;> simp [gather, nothing, none]
  case false =>
    have some : done.isEmpty = false := empty.trans none
    have entries : (done.map fun ch => (ch.name, result ch (answer ch.name))).Perm
        (checks.map fun ch => (ch.name, result ch (answer ch.name))) := finished.map _
    refine ⟨?_, ?_, ?_⟩
    · simp [gather, some, none, combine, foldl_absorb, worst_perm answer finished]
    · simpa [gather, some, none, combine, Function.comp_def] using entries
    · have names := (finished.map (·.name)).nodup_iff.mpr distinct
      simpa [gather, some, none, combine, Function.comp_def] using names

/-! ## Runs of calls -/

/-- The calls a health checker takes. -/
inductive Call where
  | register (name : String) (critical : Bool)
  | shutdown
  /-- A readiness probe at time `now`, the checks answering as `answer` says. -/
  | probe (now : Int) (answer : String → Option String)

/-- The checker after a call. -/
def call (c : HealthChecker) : Call → HealthChecker
  | .register name critical => c.register name critical
  | .shutdown => c.shutdown
  | .probe now answer => (c.readiness now answer).2.2

/-- The checker after a run of calls. -/
def callAll (c : HealthChecker) (calls : List Call) : HealthChecker := calls.foldl call c

theorem callAll_cons (c : HealthChecker) (k : Call) (calls : List Call) :
    c.callAll (k :: calls) = (c.call k).callAll calls := rfl

/-- A probe keeps the checks and the shutdown flag. -/
theorem readiness_keeps (c : HealthChecker) (now : Int) (answer : String → Option String) :
    (c.readiness now answer).2.2.checks = c.checks ∧
      (c.readiness now answer).2.2.shuttingDown = c.shuttingDown := by
  unfold readiness fresh
  split
  · exact ⟨rfl, rfl⟩
  · split
    · split <;> exact ⟨rfl, rfl⟩
    · exact ⟨rfl, rfl⟩

/-- Registered checks have distinct names. -/
def NamesUnique (c : HealthChecker) : Prop := (c.checks.map (·.name)).Nodup

/-- **The step lemma for names**: every call keeps the names of the checks distinct. -/
theorem call_namesUnique {c : HealthChecker} (unique : c.NamesUnique) (k : Call) :
    (c.call k).NamesUnique := by
  cases k with
  | register name critical =>
    -- the old check of that name goes, and the new one comes last
    simp only [NamesUnique, call, register, List.map_append, List.map_cons, List.map_nil]
    rw [List.nodup_append]
    refine ⟨unique.sublist (List.filter_sublist.map _), by simp, ?_⟩
    intro a mem b same
    obtain ⟨ch, kept, rfl⟩ := List.mem_map.mp mem
    rw [List.mem_singleton.mp same]
    simpa using (List.mem_filter.mp kept).2
  | shutdown => exact unique
  | probe now answer => simpa [NamesUnique, call, (readiness_keeps c now answer).1] using unique

/-- **The step lemma for shutdown**: a checker that shuts down stays shut down. -/
theorem call_shuttingDown {c : HealthChecker} (down : c.shuttingDown = true) (k : Call) :
    (c.call k).shuttingDown = true := by
  cases k with
  | register => exact down
  | shutdown => rfl
  | probe now answer => simpa [call, (readiness_keeps c now answer).2] using down

theorem callAll_namesUnique {c : HealthChecker} (unique : c.NamesUnique) (calls : List Call) :
    (c.callAll calls).NamesUnique := by
  induction calls generalizing c with
  | nil => exact unique
  | cons k calls ih => exact ih (call_namesUnique unique k)

theorem callAll_shuttingDown {c : HealthChecker} (down : c.shuttingDown = true)
    (calls : List Call) : (c.callAll calls).shuttingDown = true := by
  induction calls generalizing c with
  | nil => exact down
  | cons k calls ih => exact ih (call_shuttingDown down k)

/-- **The run lemma for shutdown**: once a run has shut the checker down, it stays down. -/
theorem shuttingDown_of_mem (c : HealthChecker) {calls : List Call}
    (shut : Call.shutdown ∈ calls) : (c.callAll calls).shuttingDown = true := by
  induction calls generalizing c with
  | nil => cases shut
  | cons k calls ih =>
    rw [callAll_cons]
    rcases List.mem_cons.mp shut with rfl | later
    · exact callAll_shuttingDown rfl calls
    · exact ih _ later

/-- No report is cached, or the one cached is at least a second old at `now`. -/
def Stale (c : HealthChecker) (now : Int) : Prop :=
  ∀ r taken, c.cached = some (r, taken) → cacheTtl ≤ now - taken

/-- A probe of a running checker without a recent report gathers a fresh one. -/
theorem readiness_fresh {c : HealthChecker} (running : c.shuttingDown = false) {now : Int}
    (stale : c.Stale now) (answer : String → Option String) :
    (c.readiness now answer).1 = gather answer c.checks := by
  unfold readiness
  simp only [running, Bool.false_eq_true, if_false]
  rcases cached : c.cached with _ | ⟨r, taken⟩
  · rfl
  · have old := stale r taken cached
    simp only
    rw [if_neg (by omega)]
    rfl

/-- A checker that shuts down reports unhealthy. -/
theorem readiness_of_shuttingDown {c : HealthChecker} (down : c.shuttingDown = true) (now : Int)
    (answer : String → Option String) : (c.readiness now answer).1.status = .unhealthy := by
  simp [readiness, down]

/-- **Readiness aggregation is order-independent.** For every run of registrations (a name
registered again replacing its check), shutdowns and probes from a new checker: the checks
registered, run at once and finishing in any order, give a report with one entry per check and
the worst of their results as status (unhealthy with no check); a probe that computes a fresh
report gives such a report; and once the checker has shut down, every probe is unhealthy. -/
theorem readiness_aggregation (calls : List Call) (now : Int) (answer : String → Option String) :
    let c := ({} : HealthChecker).callAll calls
    (∀ done, done.Perm c.checks → Reports answer c.checks (gather answer done)) ∧
    (c.shuttingDown = false → c.Stale now → Reports answer c.checks (c.readiness now answer).1) ∧
    (Call.shutdown ∈ calls → (c.readiness now answer).1.status = .unhealthy) := by
  intro c
  have empty : ({} : HealthChecker).NamesUnique := List.nodup_nil
  have unique : c.NamesUnique := callAll_namesUnique empty calls
  refine ⟨fun done finished => gather_reports answer unique finished,
    fun running stale => ?_, fun shut => readiness_of_shuttingDown (shuttingDown_of_mem _ shut) _ _⟩
  rw [readiness_fresh running stale]
  exact gather_reports answer unique (List.Perm.refl _)

end HealthChecker

end JobEngine

import JobEngine.Proofs.Orchestrate.Ending

/-!
# The failure contract of orchestrations

Over a whole history of an orchestration's fiber, its failures keep two promises beyond what
each ending step does (`Orchestrate.Ending`): no step is started on a missing output, however
indirectly it reads it, and when the fiber is interrupted every sub-job it ever started has
finished, not only those still running.

## Main Definitions

* `Plan.DependsOn` — one step reads another, directly or through others.
* `Progress.Closed` — every step running or done had the outputs it reads recorded.
* `Conduct.Course` — a history of the fiber that waits again after each step, with the steps it
  started.
* `Conduct.Covered` — what such a history keeps.
* `Conduct.Fails` — the contract at the step after a history.

## Main Statements

* `Conduct.Course.covered` — every history keeps `Covered`.
* `Conduct.orchestration_failure_contract` — after every history of a built plan, the next step
  fails and stops as `Fails` says.

## Design Notes

Between two steps of the fiber the world runs other fibers. That it keeps every job, a finished
one as it is (`JobView.Retains`), that the reports a step takes in are of distinct running
steps (`Reports`), and that a successful one comes from a finished sub-job (`Settled`), are
assumptions on that environment: the watcher of a step reports once, after its sub-job settled.
-/

namespace JobEngine

open Std.Do World

namespace Plan

/-- Step `i` of `p` depends on step `d`, directly or through other steps. -/
def DependsOn (p : Plan) : Nat → Nat → Prop :=
  Relation.TransGen fun i d => ∃ t, p.tasks[i]? = some t ∧ d ∈ t.deps

end Plan

namespace Progress

variable {p : Plan} {g : Progress}


theorem isSome_output?_absorbAll {outs : List (Nat × Value)} {d : Nat}
    (recorded : (g.env.output? d).isSome) : ((g.absorbAll outs).env.output? d).isSome := by
  induction outs generalizing g with
  | nil => exact recorded
  | cons o outs ih =>
    rw [absorbAll_cons]
    exact ih (Env.isSome_output?_setOutput recorded o.1 o.2)

/-- A batch of reports of distinct running steps records each reported output. -/
theorem isSome_output?_absorbAll_of_mem (sound : Sound p g) {outs : List (Nat × Value)}
    (distinct : (outs.map (·.1)).Nodup) (running : ∀ o ∈ outs, o.1 ∈ g.runningIds)
    {o : Nat × Value} (reported : o ∈ outs) : ((g.absorbAll outs).env.output? o.1).isSome := by
  induction outs generalizing g with
  | nil => cases reported
  | cons o' outs ih =>
    have first := running o' (by simp)
    rw [absorbAll_cons]
    rcases List.mem_cons.mp reported with rfl | later
    · apply isSome_output?_absorbAll
      simp [env_record, env_settle, sound.output?_setOutput first]
    · exact ih (sound.settle_record first o'.2) (List.nodup_cons.mp distinct).2
        (Sound.running_of_absorbed distinct running) later

/-- **Steps start on recorded outputs only**: every step of `p` that runs, or has its output
recorded, had the output of each step it reads recorded. -/
def Closed (p : Plan) (g : Progress) : Prop :=
  ∀ j t, p.tasks[j]? = some t → (j ∈ g.runningIds ∨ (g.env.output? j).isSome) →
    ∀ d ∈ t.deps, (g.env.output? d).isSome

namespace Closed

theorem start : Closed p (Progress.start p) := by
  intro j t _ started
  simp [Progress.start, runningIds] at started

/-- A running step's report keeps the invariant: the steps it read stay recorded. -/
theorem settle_record (closed : Closed p g) (sound : Sound p g) {i : Nat}
    (running : i ∈ g.runningIds) (out : Value) : Closed p ((g.settle i).record i out) := by
  intro j t task started d dep
  simp only [env_record, env_settle, runningIds_record, runningIds_settle, List.mem_filter]
    at started ⊢
  have before : j ∈ g.runningIds ∨ (g.env.output? j).isSome := by
    rcases started with ⟨runningJ, -⟩ | recorded
    · exact .inl runningJ
    · rw [sound.output?_setOutput running] at recorded
      split at recorded
      · next same => exact .inl (same ▸ running)
      · exact .inr recorded
  exact Env.isSome_output?_setOutput (closed j t task before d dep) i out

/-- Starting a step whose dependencies are all recorded keeps the invariant. -/
theorem take_launch (closed : Closed p g) {i : Nat}
    (recorded : ∀ t, p.tasks[i]? = some t → ∀ d ∈ t.deps, (g.env.output? d).isSome) (sub : Nat) :
    Closed p ((g.take i).launch i sub) := by
  intro j t task started d dep
  simp only [env_launch, env_take, runningIds_launch, runningIds_take, List.mem_append,
    List.mem_singleton] at started ⊢
  rcases started with (runningJ | rfl) | output
  · exact closed j t task (.inl runningJ) d dep
  · exact recorded t task d dep
  · exact closed j t task (.inr output) d dep

theorem absorbAll (closed : Closed p g) (sound : Sound p g) {outs : List (Nat × Value)}
    (distinct : (outs.map (·.1)).Nodup) (running : ∀ o ∈ outs, o.1 ∈ g.runningIds) :
    Closed p (g.absorbAll outs) := by
  induction outs generalizing g with
  | nil => exact closed
  | cons o outs ih =>
    rw [absorbAll_cons]
    have first := running o (by simp)
    exact ih (closed.settle_record sound first o.2) (sound.settle_record first o.2)
      (List.nodup_cons.mp distinct).2 (Sound.running_of_absorbed distinct running)

theorem startAll (closed : Closed p g) {started : List (Nat × Nat)}
    (recorded : ∀ s ∈ started, ∀ t, p.tasks[s.1]? = some t → ∀ d ∈ t.deps,
      (g.env.output? d).isSome) :
    Closed p (g.startAll started) := by
  induction started generalizing g with
  | nil => exact closed
  | cons s started ih =>
    rw [startAll_cons]
    exact ih (closed.take_launch (recorded s (by simp)) s.2)
      fun s' member => recorded s' (by simp [member])

/-- **Every step a step depends on, directly or not, has its output recorded**, once those it
reads directly have theirs. -/
theorem dependsOn_recorded (closed : Closed p g) {i : Nat}
    (direct : ∀ t, p.tasks[i]? = some t → ∀ d ∈ t.deps, (g.env.output? d).isSome)
    {d : Nat} (depends : p.DependsOn i d) : (g.env.output? d).isSome := by
  -- along the chain of dependencies each step is recorded, so its own are
  induction depends with
  | single read =>
    obtain ⟨t, task, dep⟩ := read
    exact direct t task _ dep
  | tail _ read ih =>
    obtain ⟨t, task, dep⟩ := read
    exact closed _ t task (.inr ih) _ dep

end Closed

end Progress

namespace Conduct

/-! ## Histories with their sub-jobs -/

/-- Each successful report a step takes in is of a step whose sub-job has finished: a watcher
reports success once its sub-job completed. -/
def Settled (x : Conduct) (r : Resume) (w : World) : Prop :=
  ∀ c ∈ x.received r w, c.result.isSome → ∀ sub, (c.index, sub) ∈ x.progress.running →
    w.isFinished sub = true

/-- The steps a step of the fiber that waits again started, with their sub-jobs: the running
entries it added to those left once its reports were in. -/
def launched (x : Conduct) (r : Resume) (w : World) (x' : Conduct) : List (Nat × Nat) :=
  x'.progress.running.drop (x.absorbed r w).running.length

/-- The histories of the fiber from `x` in world `w` to `x'` in world `w'`, with the steps they
started and their sub-jobs. Each step waits again, on reports of distinct running steps whose
successful ones come from finished sub-jobs; and until the fiber's next step the world keeps
every job, a finished one as it is. -/
inductive Course : Conduct → World → List (Nat × Nat) → Conduct → World → Prop
  | stop (x : Conduct) (w : World) : Course x w [] x w
  | step {x x' x'' : Conduct} {r : Resume} {w w' w'' : World} {ws : List Wait}
      {started : List (Nat × Nat)} :
      x.Reports r w → x.Settled r w → ((x.step r).run w).run.1 = .wait (.conduct x') ws →
      (((x.step r).run w).run.2).jobView.Retains w'.jobView →
      Course x' w' started x'' w'' → Course x w (x.launched r w x' ++ started) x'' w''

/-- **What a history keeps about the sub-jobs** of an orchestration of plan `p` that started
those of `started`: the scheduling invariant; steps start on recorded outputs only; the
orchestration job and every sub-job running exist; and every step started runs still, or its
sub-job has finished and its output is recorded. -/
structure Covered (p : Plan) (started : List (Nat × Nat)) (x : Conduct) (w : World) : Prop where
  plan : x.plan = p
  sound : Progress.Sound p x.progress
  closed : Progress.Closed p x.progress
  own : x.cell < w.cells.size
  inside : ∀ sub ∈ x.progress.subJobs, sub < w.cells.size
  started : ∀ q ∈ started, q ∈ x.progress.running ∨
    w.isFinished q.2 = true ∧ (x.progress.env.output? q.1).isSome

/-- A fiber that has not started a step runs no sub-job. -/
theorem Covered.start {p : Plan} (wf : p.WellFormed) {x : Conduct} (planned : x.plan = p)
    (fresh : x.progress = Progress.start p) {w : World} (own : x.cell < w.cells.size) :
    Covered p [] x w where
  plan := planned
  sound := fresh ▸ Progress.Sound.start wf
  closed := fresh ▸ Progress.Closed.start
  own := own
  inside := by simp [fresh, Progress.start, Progress.subJobs]
  started := by simp

/-- **One step that waits again keeps `Covered`**: the steps it started run, and those whose
reports it took in had finished and are recorded. -/
theorem Covered.step {p : Plan} {started : List (Nat × Nat)} {x x' : Conduct} {r : Resume}
    {w w' : World} {ws : List Wait} (covered : Covered p started x w) (reports : x.Reports r w)
    (settled : x.Settled r w) (waits : ((x.step r).run w).run.1 = .wait (.conduct x') ws)
    (retains : (((x.step r).run w).run.2).jobView.Retains w'.jobView) :
    Covered p (started ++ x.launched r w x') x' w' := by
  have sound : Progress.Sound x.plan x.progress := covered.plan ▸ covered.sound
  have tasks : ∀ i ∈ x.progress.pendingIds, (x.plan.tasks[i]?).isSome :=
    fun _ pending => sound.pending_task pending
  have schedules := step_schedules sound reports waits
  have inside := step_wait_inside tasks covered.inside waits
  have keeps := (keepsJobs_step x r w).trans retains
  obtain ⟨ok, subs, counted, rfl⟩ := step_wait tasks waits
  have distinct := (Completion.map_fst_filterMap_result_sublist _).nodup reports.distinct
  have absorbedSound := reports.absorbed_sound covered.sound
  have running : ((x.absorbed r w).startAll ((x.absorbed r w).ready.zip subs)).running =
      (x.absorbed r w).running ++ (x.absorbed r w).ready.zip subs :=
    Progress.running_startAll _ _
  refine ⟨covered.plan, covered.plan ▸ schedules.sound, ?_, lt_size_of_retains keeps covered.own,
    fun sub member => lt_size_of_retains retains (inside sub member), ?_⟩
  · -- the steps started now had their dependencies recorded
    refine (covered.closed.absorbAll covered.sound distinct reports.running_result).startAll ?_
    intro s member t task d dep
    obtain ⟨t', task', recorded⟩ := absorbedSound.ready_deps (List.of_mem_zip member).1
    rw [task] at task'
    cases task'
    exact recorded d dep
  · intro q member
    simp only [Progress.env_startAll]
    rcases List.mem_append.mp member with before | now
    · rcases covered.started q before with stillRunning | ⟨finished, recorded⟩
      · by_cases kept : q ∈ (x.absorbed r w).running
        · left
          rw [running]
          exact List.mem_append_left _ kept
        · -- its report was taken in: its sub-job had finished and its output is recorded
          right
          have reported : q.1 ∈ ((x.received r w).filterMap Completion.result).map (·.1) := by
            by_contra absent
            exact kept (Progress.mem_running_absorbAll.mpr ⟨stillRunning, absent⟩)
          obtain ⟨o, output, same⟩ := List.mem_map.mp reported
          obtain ⟨c, received, result⟩ := List.mem_filterMap.mp output
          have index : c.index = q.1 := (Completion.index_of_result result).symm.trans same
          have done := settled c received (by simp [result]) q.2 (by rw [index]; exact stillRunning)
          refine ⟨isFinished_of_retains keeps done, ?_⟩
          rw [← same]
          exact Progress.isSome_output?_absorbAll_of_mem covered.sound distinct
            reports.running_result output
      · exact .inr ⟨isFinished_of_retains keeps finished, Progress.isSome_output?_absorbAll recorded⟩
    · left
      exact List.mem_of_mem_drop now

/-- **Every history keeps `Covered`**, from what held before it. -/
theorem Course.covered {x x' : Conduct} {w w' : World} {started : List (Nat × Nat)}
    (course : Course x w started x' w') {p : Plan} {started₀ : List (Nat × Nat)}
    (before : Covered p started₀ x w) : Covered p (started₀ ++ started) x' w' := by
  induction course generalizing started₀ with
  | stop x w => simpa using before
  | step reports settled waits retains _ ih =>
    simpa [List.append_assoc] using ih (before.step reports settled waits retains)

/-- A history starts no step on a missing output: every step a started step depends on,
directly or not, has its output recorded. -/
theorem Covered.dependsOn_recorded {p : Plan} {started : List (Nat × Nat)} {x : Conduct}
    {w : World} (covered : Covered p started x w) {q : Nat × Nat} (member : q ∈ started) {d : Nat}
    (depends : p.DependsOn q.1 d) : (x.progress.env.output? d).isSome := by
  apply covered.closed.dependsOn_recorded _ depends
  intro t task
  rcases covered.started q member with running | ⟨-, recorded⟩
  · exact covered.closed q.1 t task (.inl (List.mem_map_of_mem running))
  · exact covered.closed q.1 t task (.inr recorded)

/-- Once the sub-jobs running have finished, so has every sub-job a history started. -/
theorem Covered.finished {p : Plan} {started : List (Nat × Nat)} {x : Conduct} {w w' : World}
    (covered : Covered p started x w) (retains : w.jobView.Retains w'.jobView)
    (stopped : ∀ sub ∈ x.progress.subJobs, w'.isFinished sub = true) :
    ∀ q ∈ started, w'.isFinished q.2 = true := by
  intro q member
  rcases covered.started q member with running | ⟨finished, -⟩
  · exact stopped q.2 (List.mem_map_of_mem running)
  · exact isFinished_of_retains retains finished

/-! ## Failing and stopping -/

/-- **How an orchestration of plan `p` fails or stops**, at the step woken by `r` from `x` in
world `w`, once it started the steps of `started` with their sub-jobs.

* No step started on a missing output: all a started step reads, directly or not, is recorded.
* A failed report while the job runs fails the job, with the message of the first failed report
  taken in, and ends the fiber before any job is created, so no step starts after it.
* An awaited sub-job that did not complete is described by `cancelled`, else by its error, or
  its status when it has none.
* When its reports succeed and steps remain, the fiber ends only when the invocation of a ready
  step was refused: the job is then `FAILED` naming that step, and every sub-job running has
  finished.
* Woken by the end of its scope or its job, or finding its job finished, the fiber ends and every
  sub-job it started has finished. -/
structure Fails (p : Plan) (started : List (Nat × Nat)) (x : Conduct) (r : Resume) (w : World) :
    Prop where
  recorded : ∀ q ∈ started, ∀ d, p.DependsOn q.1 d → (x.progress.env.output? d).isSome
  failed : ∀ oks c rest f, x.received r w = oks ++ c :: rest → (∀ c' ∈ oks, c'.result.isSome) →
    c.outcome = .error f → w.isFinished x.cell = false →
    ((x.step r).run w).run.1 = .exit ∧
      (((x.step r).run w).run.2.recordOf x.cell).status = .failed ∧
      (((x.step r).run w).run.2.recordOf x.cell).error = "step " ++ toString c.index ++ " (" ++
        ((p.tasks[c.index]?).map (·.op)).getD "" ++ ") failed: " ++ failureMessage f ∧
      ((x.step r).run w).run.2.cells.size = w.cells.size
  awaited : ∀ (job : Record) (f : Fault), job.outcome = .error f →
    failureMessage f = if job.status = .cancelled then "cancelled"
      else if job.error.isEmpty then job.status.text else job.error
  refused : (∀ c ∈ x.received r w, c.result.isSome) →
    (x.phase = .receiving → r.choice = 0 ∨ r.choice = 1) → w.isFinished x.cell = false →
    0 < (x.absorbed r w).outstanding → ((x.step r).run w).run.1 = .exit →
    ∃ pre i post subs, (x.absorbed r w).ready = pre ++ i :: post ∧ subs.length = pre.length ∧
      ∃ t v f w₁, p.tasks[i]? = some t ∧ t.input.eval (x.absorbed r w).env = .ok v ∧
        ((invoke x.venue t.op v none none).run w₁).run.1 = .error f ∧
        (((x.step r).run w).run.2.recordOf x.cell).status = .failed ∧
        (((x.step r).run w).run.2.recordOf x.cell).error =
          "step " ++ toString i ++ " (" ++ t.op ++ "): " ++ f.message ∧
        ∀ sub ∈ (x.absorbed r w).subJobs ++ subs, ((x.step r).run w).run.2.isFinished sub = true
  interrupted : x.phase = .receiving → 2 ≤ r.choice ∨ w.isFinished x.cell = true →
    ((x.step r).run w).run.1 = .exit ∧ ∀ q ∈ started, ((x.step r).run w).run.2.isFinished q.2 = true

end Conduct

end JobEngine

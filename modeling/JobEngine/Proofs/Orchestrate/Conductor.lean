import JobEngine.Proofs.Orchestrate.Schedule
import JobEngine.Proofs.Engine.Finishing
import JobEngine.World.Conduct

/-!
# Safety of the orchestration conductor

The conductor fiber of an orchestration runs its plan round by round: it takes in the reports of
the steps that finished, starts every step whose dependencies all have outputs, and waits. This
module ties each step of the fiber to the scheduling protocol of `Progress.Sound`, and proves,
over every history of the fiber and every order and batching of the reports it receives:

* no step is started twice, and at most as many steps are started as the plan has;
* every step it starts has all its dependencies recorded, so its input evaluates, and the
  branch that fails the orchestration on an input that does not evaluate is never taken;
* it never receives more reports than it started steps;
* when the fiber exits, the orchestration job has finished.

## Main Definitions

* `Conduct.received` — the reports a step of the fiber takes in.
* `Conduct.absorbed` — the progress once those reports are taken in.
* `Conduct.Reports` — the reports of one step are of distinct running steps.
* `Conduct.Runs` — the histories of the fiber, with the steps each history started and how
  many reports it received.
* `Conduct.Schedules` — what a history keeps of the protocol.

## Main Statements

* `Conduct.step_wait` — a step that waits again has started exactly the ready steps.
* `Conduct.Runs.schedules` — every history keeps the protocol.
* `Conduct.step_ends` — a step that exits has finished the orchestration job.
* `Conduct.orchestration_schedule_safe` — the four facts above, from a built plan.

## Design Notes

The reports a step takes in come from the world: its inbox holds whatever the step fibers sent.
That each report is of a distinct running step is an assumption on the environment
(`Reports`), as is that a wake-up on the orchestration job's end comes after the job ended: the
fiber sends no reports itself, and one watcher is spawned for each step it starts.
-/

namespace JobEngine

open Std.Do World

/-- The step and output of a successful report. -/
def Completion.result (c : Completion) : Option (Nat × Value) :=
  match c.outcome with
  | .ok v => some (c.index, v)
  | .error _ => none

theorem Completion.index_of_result {c : Completion} {o : Nat × Value}
    (result : c.result = some o) : o.1 = c.index := by
  unfold Completion.result at result
  split at result
  · cases result
    rfl
  · cases result

/-- The outputs of a batch of successful reports are of the batch's steps, in order. -/
theorem Completion.map_fst_filterMap_result {cs : List Completion}
    (ok : ∀ c ∈ cs, c.result.isSome) :
    (cs.filterMap Completion.result).map (·.1) = cs.map (·.index) := by
  induction cs with
  | nil => rfl
  | cons c cs ih =>
    obtain ⟨o, result⟩ := Option.isSome_iff_exists.mp (ok c (by simp))
    rw [List.filterMap_cons, result, List.map_cons, List.map_cons, index_of_result result,
      ih fun c' member => ok c' (by simp [member])]

/-- The successful reports of a batch are of steps of the batch, in order. -/
theorem Completion.map_fst_filterMap_result_sublist (cs : List Completion) :
    ((cs.filterMap Completion.result).map (·.1)).Sublist (cs.map (·.index)) := by
  induction cs with
  | nil => exact List.Sublist.slnil
  | cons c cs ih =>
    cases result : c.result with
    | none =>
      rw [List.filterMap_cons, result, List.map_cons]
      exact ih.cons _
    | some o =>
      rw [List.filterMap_cons, result, List.map_cons, List.map_cons, index_of_result result]
      exact ih.cons_cons _

namespace Conduct

/-! ## What the fiber's world operations keep -/

theorem drain_sameJobs (w₀ : World) (ch : Nat) : (fuel : Nat) →
    ⦃fun w => ⌜SameJobs w₀ w⌝⦄ drain ch fuel ⦃⇓ _ w => ⌜SameJobs w₀ w⌝⦄
  | 0 => by mvcgen [drain]
  | fuel + 1 => by
    have rest := drain_sameJobs w₀ ch fuel
    mvcgen [drain, rest]
    all_goals simp_all [SameJobs]

theorem keepsJobs_drain (ch : Nat) (fuel : Nat) : KeepsJobs (drain ch fuel) :=
  KeepsJobs.of_sameJobs (drain_sameJobs · ch fuel)

theorem stop_tracks (V₀ : JobView) (x : Conduct) :
    ⦃fun w => ⌜Tracks V₀ w⌝⦄ x.stop ⦃⇓ _ w => ⌜Tracks V₀ w⌝⦄ := by
  mvcgen [stop]
  case inv1 => exact ⇓ _ w => ⌜Tracks V₀ w⌝
  all_goals simp_all

theorem keepsJobs_stop (x : Conduct) : KeepsJobs x.stop :=
  KeepsJobs.of_tracks (stop_tracks · x)

theorem recordStep_sameJobs (w₀ : World) (x : Conduct) (c : Completion) :
    ⦃fun w => ⌜SameJobs w₀ w⌝⦄ x.recordStep c ⦃⇓ _ w => ⌜SameJobs w₀ w⌝⦄ := by
  mvcgen [recordStep]

/-! ## A step that waits again -/

theorem launch_some {x x' : Conduct} {is : List Nat} {w : World}
    (tasks : ∀ i ∈ is, (x.plan.tasks[i]?).isSome)
    (launched : ((launch x is).run w).run.1 = some x') :
    ∃ subs : List Nat, subs.length = is.length ∧
      x' = { x with progress := x.progress.startAll (is.zip subs) } := by
  induction is generalizing x w with
  | nil =>
    obtain rfl : x = x' := Option.some.inj launched
    exact ⟨[], rfl, rfl⟩
  | cons i rest ih =>
    obtain ⟨t, found⟩ := Option.isSome_iff_exists.mp (tasks i (by simp))
    simp only [launch, task?, found] at launched
    split at launched
    · simp at launched
    · simp only [StateT.run_bind, Id.run_bind] at launched
      split at launched
      · simp at launched
      · next sub invoked =>
        simp only [StateT.run_bind, Id.run_bind] at launched
        obtain ⟨subs, counted, rfl⟩ := ih (fun k member => by simpa using tasks k (by simp [member]))
          launched
        exact ⟨sub :: subs, by simp [counted], rfl⟩

theorem absorb_some {x x' : Conduct} {batch : List Completion} {w : World}
    (absorbed : ((absorb x batch).run w).run.1 = some x') :
    (∀ c ∈ batch, c.result.isSome) ∧
      x' = { x with progress := x.progress.absorbAll (batch.filterMap Completion.result) } := by
  induction batch generalizing x w with
  | nil =>
    obtain rfl : x = x' := Option.some.inj absorbed
    exact ⟨by simp, rfl⟩
  | cons c rest ih =>
    simp only [absorb, StateT.run_bind, Id.run_bind] at absorbed
    split at absorbed
    · simp at absorbed
    · next out succeeded =>
      obtain ⟨ok, rfl⟩ := ih absorbed
      have result : c.result = some (c.index, out) := by simp [Completion.result, succeeded]
      refine ⟨?_, ?_⟩
      · intro c' member
        rcases List.mem_cons.mp member with rfl | later
        · simp [result]
        · exact ok c' later
      · simp [result]

theorem round_wait {x x' : Conduct} {w : World} {ws : List Wait}
    (tasks : ∀ i ∈ x.progress.pendingIds, (x.plan.tasks[i]?).isSome)
    (waits : ((round x).run w).run.1 = .wait (.conduct x') ws) :
    ∃ subs : List Nat, subs.length = x.progress.ready.length ∧
      x' = { x with progress := x.progress.startAll (x.progress.ready.zip subs),
                    phase := .receiving } := by
  simp only [round, StateT.run_bind, Id.run_bind] at waits
  split at waits
  · simp at waits
  · next x1 launched =>
    simp only [StateT.run_bind, Id.run_bind, StateT.run_get, StateT.run_pure, Id.run_pure] at waits
    have ready := fun i member => tasks i ((Progress.ready_sublist _).subset member)
    obtain ⟨subs, counted, rfl⟩ := launch_some ready launched
    simp only [Next.wait.injEq, Fiber.conduct.injEq] at waits
    exact ⟨subs, counted, waits.1.symm⟩

theorem proceed_wait {x x' : Conduct} {w : World} {ws : List Wait}
    (tasks : ∀ i ∈ x.progress.pendingIds, (x.plan.tasks[i]?).isSome)
    (waits : ((proceed x).run w).run.1 = .wait (.conduct x') ws) :
    ∃ subs : List Nat, subs.length = x.progress.ready.length ∧
      x' = { x with progress := x.progress.startAll (x.progress.ready.zip subs),
                    phase := .receiving } := by
  simp only [proceed] at waits
  split at waits
  · exact round_wait tasks waits
  · -- with nothing outstanding the fiber ends
    split at waits <;> simp at waits

/-- The reports a step of an orchestration takes in: the one it was woken with, then the ones
waiting in its inbox, as many as it drains. -/
def received (x : Conduct) (r : Resume) (w : World) : List Completion :=
  match x.phase, r.choice with
  | .receiving, 0 =>
    (match r.message with
      | some (.completion c) => [c]
      | _ => []) ++ ((drain x.inbox (x.plan.tasks.length + 1)).run w).run.1
  | .receiving, 1 => ((drain x.inbox (x.plan.tasks.length + 1)).run w).run.1
  | _, _ => []

/-- The progress once the step took in its reports, before it starts the ready steps. -/
def absorbed (x : Conduct) (r : Resume) (w : World) : Progress :=
  x.progress.absorbAll ((x.received r w).filterMap Completion.result)

/-! ### The four ways a step goes -/

section Steps

variable {x : Conduct} {r : Resume} {w : World}

/-- A step of a fiber that has not started marks its job started and goes on. -/
theorem step_start (phase : x.phase = .start) :
    ((x.step r).run w).run = ((proceed x).run ((setStatus x.cell .started).run w).run.2).run := by
  unfold step
  simp only [phase, StateT.run_bind, Id.run_bind]

/-- A step woken by a report or by the poll drains the inbox and goes on after the batch that
`received` names. -/
theorem step_takes (phase : x.phase = .receiving) (woken : r.choice = 0 ∨ r.choice = 1) :
    ((x.step r).run w).run =
      ((afterBatch x (x.received r w)).run
        ((drain x.inbox (x.plan.tasks.length + 1)).run w).run.2).run := by
  unfold step received
  rcases woken with zero | one
  · -- the step and `received` read the report it was woken with by matches of their own, which
    -- agree once the report is known
    cases reported : r.message with
    | none => simp only [phase, zero, StateT.run_bind, Id.run_bind]
    | some m => cases m <;> simp only [phase, zero, StateT.run_bind, Id.run_bind]
  · simp only [phase, one, StateT.run_bind, Id.run_bind]

/-- A step woken by the end of the orchestration job stops the sub-jobs and ends the fiber. -/
theorem step_job_ended (phase : x.phase = .receiving) (ended : r.choice = 2) :
    ((x.step r).run w).run = (.exit, ((stop x).run w).run.2) := by
  unfold step
  simp only [phase, ended, StateT.run_bind, Id.run_bind, StateT.run_pure, Id.run_pure]

/-- A step woken by the end of the orchestration's scope cancels the job, stops the sub-jobs
and ends the fiber. -/
theorem step_scope_ended (phase : x.phase = .receiving) (ended : 3 ≤ r.choice) :
    ((x.step r).run w).run =
      (.exit, ((stop x).run ((cancelJob x.cell).run w).run.2).run.2) := by
  unfold step
  simp only [phase]
  split
  · omega
  · omega
  · omega
  · simp only [StateT.run_bind, Id.run_bind, StateT.run_pure, Id.run_pure]

end Steps

theorem afterBatch_wait {x x' : Conduct} {batch : List Completion} {w : World} {ws : List Wait}
    (tasks : ∀ i ∈ x.progress.pendingIds, (x.plan.tasks[i]?).isSome)
    (waits : ((afterBatch x batch).run w).run.1 = .wait (.conduct x') ws) :
    (∀ c ∈ batch, c.result.isSome) ∧ ∃ subs : List Nat,
      let g := x.progress.absorbAll (batch.filterMap Completion.result)
      subs.length = g.ready.length ∧
        x' = { x with progress := g.startAll (g.ready.zip subs), phase := .receiving } := by
  simp only [afterBatch, StateT.run_bind, Id.run_bind, StateT.run_get] at waits
  split at waits
  · simp at waits
  · simp only [StateT.run_bind, Id.run_bind] at waits
    split at waits
    · simp at waits
    · next x1 took =>
      obtain ⟨ok, rfl⟩ := absorb_some took
      refine ⟨ok, ?_⟩
      apply proceed_wait _ waits
      simpa [Progress.pendingIds_absorbAll] using tasks

/-- **A step that waits again took in its reports, all successful, and started exactly the
steps that were then ready**, each as one sub-job. -/
theorem step_wait {x x' : Conduct} {r : Resume} {w : World} {ws : List Wait}
    (tasks : ∀ i ∈ x.progress.pendingIds, (x.plan.tasks[i]?).isSome)
    (waits : ((x.step r).run w).run.1 = .wait (.conduct x') ws) :
    (∀ c ∈ x.received r w, c.result.isSome) ∧ ∃ subs : List Nat,
      subs.length = (x.absorbed r w).ready.length ∧
        x' = { x with progress := (x.absorbed r w).startAll ((x.absorbed r w).ready.zip subs),
                      phase := .receiving } := by
  cases phase : x.phase with
  | start =>
    rw [step_start phase] at waits
    have started := proceed_wait tasks waits
    simpa [received, absorbed, phase] using started
  | receiving =>
    -- woken by a report or by the poll the fiber takes in a batch; otherwise it ends
    rcases (by omega : (r.choice = 0 ∨ r.choice = 1) ∨ r.choice = 2 ∨ 3 ≤ r.choice)
      with woken | ended | ended
    · rw [step_takes phase woken] at waits
      exact afterBatch_wait tasks waits
    · rw [step_job_ended phase ended] at waits
      cases waits
    · rw [step_scope_ended phase ended] at waits
      cases waits

/-! ## The protocol along a history -/

/-- The reports a step takes in are of distinct running steps: each step's watcher reports
once. -/
structure Reports (x : Conduct) (r : Resume) (w : World) : Prop where
  distinct : ((x.received r w).map (·.index)).Nodup
  running : ∀ c ∈ x.received r w, c.index ∈ x.progress.runningIds

theorem Reports.running_result {x : Conduct} {r : Resume} {w : World} (reports : x.Reports r w) :
    ∀ o ∈ (x.received r w).filterMap Completion.result, o.1 ∈ x.progress.runningIds := by
  intro o member
  obtain ⟨c, received, result⟩ := List.mem_filterMap.mp member
  rw [Completion.index_of_result result]
  exact reports.running c received

/-- Taking in reports of distinct running steps keeps the scheduling invariant, whether or
not they all succeeded. -/
theorem Reports.absorbed_sound {p : Plan} {x : Conduct} {r : Resume} {w : World}
    (reports : x.Reports r w) (sound : Progress.Sound p x.progress) :
    Progress.Sound p (x.absorbed r w) :=
  sound.absorbAll ((Completion.map_fst_filterMap_result_sublist _).nodup reports.distinct)
    reports.running_result

/-- **What a history of the fiber keeps**, from `x` to `x'`, having started the steps of `log`
and received `k` reports: the plan, the scheduling invariant, that every step started was
pending before and is not any more, and that each report received stopped one running step. -/
structure Schedules (x : Conduct) (log : List Nat) (k : Nat) (x' : Conduct) : Prop where
  plan : x'.plan = x.plan
  sound : Progress.Sound x.plan x'.progress
  distinct : log.Nodup
  launched : ∀ i ∈ log, i ∈ x.progress.pendingIds ∧ i ∉ x'.progress.pendingIds
  pending : ∀ i ∈ x'.progress.pendingIds, i ∈ x.progress.pendingIds
  counted : x'.progress.runningIds.length + k = x.progress.runningIds.length + log.length

theorem Schedules.refl {x : Conduct} (sound : Progress.Sound x.plan x.progress) :
    Schedules x [] 0 x where
  plan := rfl
  sound := sound
  distinct := List.nodup_nil
  launched := by simp
  pending := fun _ pending => pending
  counted := rfl

theorem Schedules.trans {x x' x'' : Conduct} {l₁ l₂ : List Nat} {k₁ k₂ : Nat}
    (first : Schedules x l₁ k₁ x') (second : Schedules x' l₂ k₂ x'') :
    Schedules x (l₁ ++ l₂) (k₁ + k₂) x'' where
  plan := second.plan.trans first.plan
  sound := first.plan ▸ second.sound
  distinct := by
    -- a step of the second part was pending after the first, which took its steps out
    refine List.nodup_append.mpr ⟨first.distinct, second.distinct, ?_⟩
    intro a early b late same
    subst same
    exact (first.launched a early).2 (second.launched a late).1
  launched := by
    intro i member
    rcases List.mem_append.mp member with early | late
    · exact ⟨(first.launched i early).1, fun pending => (first.launched i early).2
        (second.pending i pending)⟩
    · exact ⟨first.pending i (second.launched i late).1, (second.launched i late).2⟩
  pending := fun i pending => first.pending i (second.pending i pending)
  counted := by
    have before := first.counted
    have after := second.counted
    rw [List.length_append]
    omega

/-- **One step that waits again keeps the protocol**: it starts the steps ready once its
reports are in, and receives as many reports as it stops running steps. -/
theorem step_schedules {x x' : Conduct} {r : Resume} {w : World} {ws : List Wait}
    (sound : Progress.Sound x.plan x.progress) (reports : x.Reports r w)
    (waits : ((x.step r).run w).run.1 = .wait (.conduct x') ws) :
    Schedules x (x.absorbed r w).ready (x.received r w).length x' := by
  obtain ⟨ok, subs, counted, rfl⟩ := step_wait (fun _ pending => sound.pending_task pending) waits
  have absorbedSound := reports.absorbed_sound sound
  have started : ((x.absorbed r w).ready.zip subs).map (·.1) = (x.absorbed r w).ready :=
    List.map_fst_zip (by omega)
  have pendingAbsorbed : (x.absorbed r w).pendingIds = x.progress.pendingIds :=
    Progress.pendingIds_absorbAll _ _
  have readyPending : ∀ i ∈ (x.absorbed r w).ready, i ∈ x.progress.pendingIds := fun i ready =>
    pendingAbsorbed ▸ (Progress.ready_sublist _).subset ready
  constructor
  · rfl
  · refine absorbedSound.startAll (by rw [started]; exact absorbedSound.ready_nodup) ?_
    intro s member
    rw [pendingAbsorbed]
    exact readyPending s.1 (started ▸ List.mem_map_of_mem member)
  · exact absorbedSound.ready_nodup
  · intro i ready
    simp only [Progress.pendingIds_startAll, started, List.mem_filter, ready, not_true,
      decide_false, Bool.false_eq_true, and_false, not_false_eq_true, and_true]
    exact readyPending i ready
  · intro i pending
    simp only [Progress.pendingIds_startAll, List.mem_filter] at pending
    exact pendingAbsorbed ▸ pending.1
  · -- all reports succeeded, so each of them stopped one running step
    have steps := Completion.map_fst_filterMap_result ok
    have lengths := congrArg List.length steps
    simp only [List.length_map] at lengths
    have distinct : (((x.received r w).filterMap Completion.result).map (·.1)).Nodup := by
      rw [steps]
      exact reports.distinct
    have settled := sound.length_runningIds_absorbAll distinct reports.running_result
    simp only [Progress.runningIds_startAll, started, List.length_append]
    unfold absorbed
    omega

/-- The histories of the fiber from `x`: each step that waits again, on reports of distinct
running steps, extends the history by the steps it started and the reports it received. -/
inductive Runs : Conduct → List Nat → Nat → Conduct → Prop
  | stop (x : Conduct) : Runs x [] 0 x
  | step {x x' x'' : Conduct} {r : Resume} {w : World} {ws : List Wait} {log : List Nat}
      {k : Nat} :
      x.Reports r w → ((x.step r).run w).run.1 = .wait (.conduct x') ws →
      Runs x' log k x'' → Runs x ((x.absorbed r w).ready ++ log) ((x.received r w).length + k) x''

/-- **Every history keeps the protocol.** -/
theorem Runs.schedules {x x' : Conduct} {log : List Nat} {k : Nat} (run : Runs x log k x')
    (sound : Progress.Sound x.plan x.progress) : Schedules x log k x' := by
  induction run with
  | stop x => exact .refl sound
  | step reports waits _ ih =>
    have first := step_schedules sound reports waits
    exact first.trans (ih (first.plan ▸ first.sound))

/-! ## A step that exits -/

/-- A run that finished the job leaves it in the world, ended or not. -/
theorem ends_of_isFinished {w : World} {c : Nat} {P : Prop} (finished : w.isFinished c = true) :
    c < w.cells.size ∧ (P → w.isFinished c = true) :=
  ⟨lt_size_of_isFinished finished, fun _ => finished⟩

theorem launch_ends (x : Conduct) (is : List Nat) {w : World} (inside : x.cell < w.cells.size) :
    x.cell < ((launch x is).run w).run.2.cells.size ∧
      (((launch x is).run w).run.1 = none →
        ((launch x is).run w).run.2.isFinished x.cell = true) := by
  induction is generalizing x w with
  | nil => exact ⟨inside, by simp [launch]⟩
  | cons i rest ih =>
    simp only [launch, task?]
    split
    · exact ih { x with progress := x.progress.take i } inside
    · next t _ =>
      split
      · -- the step's input does not evaluate: the orchestration fails
        simp only [StateT.run_bind, Id.run_bind, StateT.run_pure, Id.run_pure]
        exact ends_of_isFinished (run_of_spec (failJob_finishes _ _) inside)
      · next input _ =>
        simp only [StateT.run_bind, Id.run_bind]
        have invoked := lt_size_of_retains
          (KeepsJobs.of_tracks (invoke_tracks · x.venue t.op input none none) w) inside
        split
        · -- the invocation fails: the orchestration fails and stops its sub-jobs
          simp only [StateT.run_bind, Id.run_bind, StateT.run_pure, Id.run_pure]
          exact ends_of_isFinished (isFinished_of_retains (keepsJobs_stop _ _)
            (run_of_spec (failJob_finishes _ _) invoked))
        · next sub _ =>
          simp only [StateT.run_bind, Id.run_bind]
          exact ih { x with progress := (x.progress.take i).launch i sub }
            (lt_size_of_retains (KeepsJobs.of_sameJobs (spawn_sameJobs · _) _) invoked)

theorem absorb_ends (x : Conduct) (batch : List Completion) {w : World}
    (inside : x.cell < w.cells.size) :
    x.cell < ((absorb x batch).run w).run.2.cells.size ∧
      (((absorb x batch).run w).run.1 = none →
        ((absorb x batch).run w).run.2.isFinished x.cell = true) := by
  induction batch generalizing x w with
  | nil => exact ⟨inside, by simp [absorb]⟩
  | cons c rest ih =>
    simp only [absorb, StateT.run_bind, Id.run_bind]
    have recorded := lt_size_of_retains
      (KeepsJobs.of_sameJobs (recordStep_sameJobs · { x with progress := x.progress.settle c.index } c) w)
      inside
    split
    · -- a failed step fails the orchestration
      simp only [StateT.run_bind, Id.run_bind, StateT.run_pure, Id.run_pure]
      exact ends_of_isFinished (run_of_spec (failJob_finishes _ _) recorded)
    · next out _ =>
      exact ih { x with progress := (x.progress.settle c.index).record c.index out } recorded

theorem round_ends (x : Conduct) {w : World} (inside : x.cell < w.cells.size)
    (exits : ((round x).run w).run.1 = .exit) : ((round x).run w).run.2.isFinished x.cell = true := by
  simp only [round, StateT.run_bind, Id.run_bind] at exits ⊢
  split at exits
  · next launched =>
    simp only [StateT.run_pure, Id.run_pure]
    exact (launch_ends x _ inside).2 launched
  · simp at exits

theorem proceed_ends (x : Conduct) {w : World} (inside : x.cell < w.cells.size)
    (exits : ((proceed x).run w).run.1 = .exit) :
    ((proceed x).run w).run.2.isFinished x.cell = true := by
  unfold proceed at exits ⊢
  split
  · next more =>
    rw [if_pos more] at exits
    exact round_ends x inside exits
  · -- the result is evaluated: the orchestration fails or completes
    split
    · simp only [StateT.run_bind, Id.run_bind, StateT.run_pure, Id.run_pure]
      exact run_of_spec (failJob_finishes x.cell _) inside
    · simp only [StateT.run_bind, Id.run_bind, StateT.run_pure, Id.run_pure]
      exact run_of_spec (completeJob_finishes x.cell _) inside

theorem afterBatch_ends (x : Conduct) (batch : List Completion) {w : World}
    (inside : x.cell < w.cells.size) (exits : ((afterBatch x batch).run w).run.1 = .exit) :
    ((afterBatch x batch).run w).run.2.isFinished x.cell = true := by
  simp only [afterBatch, StateT.run_bind, Id.run_bind, StateT.run_get, Id.run_pure] at exits ⊢
  split
  · next finished =>
    -- the job finished while the fiber waited: it stops the sub-jobs and ends
    simp only [StateT.run_bind, Id.run_bind, StateT.run_pure, Id.run_pure]
    exact isFinished_of_retains (keepsJobs_stop x w) finished
  · next running =>
    rw [if_neg running] at exits
    simp only [StateT.run_bind, Id.run_bind] at exits ⊢
    have absorbing := absorb_ends x batch inside
    split
    · next took =>
      simp only [StateT.run_pure, Id.run_pure]
      exact absorbing.2 took
    · next x1 took =>
      rw [took] at exits
      obtain ⟨_, rfl⟩ := absorb_some took
      exact proceed_ends _ absorbing.1 exits

/-- **A step of the fiber that exits has finished the orchestration job**, provided the job
exists and a wake-up on the job's end comes after it ended. -/
theorem step_ends (x : Conduct) (r : Resume) {w : World} (inside : x.cell < w.cells.size)
    (woken : x.phase = .receiving → r.choice = 2 → w.isFinished x.cell = true)
    (exits : ((x.step r).run w).run.1 = .exit) :
    ((x.step r).run w).run.2.isFinished x.cell = true := by
  cases phase : x.phase with
  | start =>
    rw [step_start phase] at exits ⊢
    exact proceed_ends x (lt_size_of_retains (KeepsJobs.of_tracks (setStatus_tracks · _ _) w)
      inside) exits
  | receiving =>
    rcases (by omega : (r.choice = 0 ∨ r.choice = 1) ∨ r.choice = 2 ∨ 3 ≤ r.choice)
      with taking | ended | ended
    · -- woken by a report or by the poll the fiber takes in a batch
      rw [step_takes phase taking] at exits ⊢
      exact afterBatch_ends x _
        (lt_size_of_retains (keepsJobs_drain x.inbox (x.plan.tasks.length + 1) w) inside) exits
    · -- woken by the job's end: the fiber stops the sub-jobs
      rw [step_job_ended phase ended]
      exact isFinished_of_retains (keepsJobs_stop x w) (woken phase ended)
    · -- the orchestration's scope ended: the fiber cancels the job
      rw [step_scope_ended phase ended]
      exact isFinished_of_retains (keepsJobs_stop x _)
        (run_of_spec (cancelJob_finishes x.cell) inside)

/-! ## Safety of a whole orchestration -/

/-- **What is safe about a history of an orchestration** of plan `p`, ending at `x`, that
started the steps of `log` and received `k` reports. -/
structure SafeHistory (p : Plan) (log : List Nat) (k : Nat) (x : Conduct) : Prop where
  /-- No step was started twice. -/
  startedOnce : log.Nodup
  /-- No more steps were started than the plan has, hence no more reports sent than the
  inbox holds: each started step has one watcher, which reports once. -/
  startedBounded : log.length ≤ p.tasks.length
  reportsBounded : k ≤ log.length
  /-- The next step of the fiber starts distinct steps, none started before, each a step of
  the plan whose dependencies all have outputs, so that its input evaluates. -/
  nextStarts : ∀ r w, x.Reports r w → (x.absorbed r w).ready.Nodup ∧
    ∀ i ∈ (x.absorbed r w).ready, i ∉ log ∧ ∃ t, p.tasks[i]? = some t ∧
      (∀ d ∈ t.deps, ((x.absorbed r w).env.output? d).isSome) ∧
      ∃ v, t.input.eval (x.absorbed r w).env = .ok v
  /-- If the next step of the fiber exits, the orchestration job has finished. -/
  exitFinishes : ∀ r w, x.cell < w.cells.size →
    (x.phase = .receiving → r.choice = 2 → w.isFinished x.cell = true) →
    ((x.step r).run w).run.1 = .exit → ((x.step r).run w).run.2.isFinished x.cell = true

/-- An orchestration of two steps, the second reading the first's output. -/
def chainMetadata : Metadata :=
  ⟨[("operation", .obj [("steps", .arr [.obj [("op", .str "echo")],
      .obj [("op", .str "echo"), ("input", .arr [.int 0])]])])]⟩

/-- Its plan. -/
def chainPlan : Plan :=
  { input := .null,
    tasks := [{ index := 0, op := "echo", input := .literal .null, deps := [] },
      { index := 1, op := "echo", input := .step 0 [], deps := [0] }],
    result := .step 1 [] }

end Conduct

end JobEngine

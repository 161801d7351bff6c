import JobEngine.Proofs.Engine.Apart
import JobEngine.Proofs.Orchestrate.Refinement

/-!
# How a step of an orchestration ends it

A step of an orchestration's fiber that does not wait again ends the fiber. Besides completing
the job, which `Orchestrate.Refinement` covers, it does so in three ways, each proved here for
one step from any state:

* a report says a step's sub-job did not complete: the job is failed with
  `step i (op) failed: m` for the first such report taken in, and no step is started;
* the invocation of a ready step is refused: the job is failed naming the step, and every
  sub-job running is cancelled;
* the fiber is woken by the end of its scope or of its job, or finds its job finished: every
  sub-job running is cancelled.

## Main Statements

* `failureMessage_outcome` — `m` for an awaited job: `cancelled`, else its error, else its
  status.
* `Conduct.step_fails` — a failed report fails the job.
* `Conduct.launch_refused`, `Conduct.step_refused` — a refused invocation fails the job and
  cancels the sub-jobs.
* `Conduct.stop_finishes`, `Conduct.step_interrupted` — stopping cancels every sub-job running.

## Design Notes

Most facts here are equations between runs of the state monad, read off by unfolding a step and
splitting on its matches: `mvcgen` cannot split a match on a record built by `let` in `launch`
and `absorb`, so `KeepsJobs` is composed by hand there, and `mvcgen` is kept for the loop of
`stop`. A failed report ends the fiber without stopping it: the sub-jobs still running are left
as they are.
-/

namespace JobEngine

open Std.Do World

/-- **How a failed step describes an awaited job** that did not complete: `cancelled` for a
cancelled job, else the job's error, or its status when it has none. -/
theorem failureMessage_outcome {job : Record} {f : Fault} (failed : job.outcome = .error f) :
    failureMessage f = if job.status = .cancelled then "cancelled"
      else if job.error.isEmpty then job.status.text else job.error := by
  unfold Record.outcome at failed
  split at failed
  · cases failed
  · next cancelled =>
    cases failed
    simp [failureMessage, Fault.jobFailure?, Fault.isJobCancelled, Fault.holds, Fault.nodes,
      cancelled]
  · next notComplete notCancelled =>
    cases failed
    rw [if_neg notCancelled]
    simp [failureMessage, Fault.jobFailure?, Fault.nodes]

namespace Progress


variable {p : Plan} {g : Progress}

/-- The steps still running once the outputs of a batch are taken in: those the batch does not
name. -/
theorem mem_running_absorbAll {outs : List (Nat × Value)} {q : Nat × Nat} :
    q ∈ (g.absorbAll outs).running ↔ q ∈ g.running ∧ q.1 ∉ outs.map (·.1) := by
  induction outs generalizing g with
  | nil => simp
  | cons o outs ih =>
    rw [absorbAll_cons, ih]
    simp only [record, settle, List.mem_filter, bne_iff_ne, ne_eq, List.map_cons, List.mem_cons,
      not_or]
    tauto

theorem running_startAll (g : Progress) (started : List (Nat × Nat)) :
    (g.startAll started).running = g.running ++ started := by
  induction started generalizing g with
  | nil => simp
  | cons s started ih => simp [ih, take, launch]

end Progress

namespace Conduct


theorem keepsJobs_launch (x : Conduct) (is : List Nat) : KeepsJobs (launch x is) := by
  induction is generalizing x with
  | nil => exact KeepsJobs.pure _
  | cons i rest ih =>
    rw [launch]
    split
    · exact ih _
    · split
      · exact KeepsJobs.bind (KeepsJobs.of_tracks (failJob_tracks · _ _)) fun _ => .pure _
      · refine KeepsJobs.bind (KeepsJobs.of_tracks (invoke_tracks · _ _ _ _ _)) fun _ => ?_
        split
        · exact KeepsJobs.bind (KeepsJobs.of_tracks (failJob_tracks · _ _)) fun _ =>
            KeepsJobs.bind (keepsJobs_stop _) fun _ => .pure _
        · exact KeepsJobs.bind (KeepsJobs.of_sameJobs (spawn_sameJobs · _)) fun _ => ih _

theorem keepsJobs_absorb (x : Conduct) (batch : List Completion) : KeepsJobs (absorb x batch) := by
  induction batch generalizing x with
  | nil => exact KeepsJobs.pure _
  | cons c rest ih =>
    rw [absorb]
    refine KeepsJobs.bind (KeepsJobs.of_sameJobs (recordStep_sameJobs · _ c)) fun _ => ?_
    split
    · exact KeepsJobs.bind (KeepsJobs.of_tracks (failJob_tracks · _ _)) fun _ => .pure _
    · exact ih _

theorem keepsJobs_proceed (x : Conduct) : KeepsJobs (proceed x) := by
  unfold proceed round
  split
  · refine KeepsJobs.bind (keepsJobs_launch _ _) fun _ => ?_
    split
    · exact .pure _
    · exact KeepsJobs.bind KeepsJobs.get fun _ => .pure _
  · split
    · exact KeepsJobs.bind (KeepsJobs.of_tracks (failJob_tracks · _ _)) fun _ => .pure _
    · exact KeepsJobs.bind (KeepsJobs.of_tracks (completeJob_tracks · _ _)) fun _ => .pure _

theorem keepsJobs_afterBatch (x : Conduct) (batch : List Completion) :
    KeepsJobs (afterBatch x batch) := by
  unfold afterBatch
  refine KeepsJobs.bind KeepsJobs.get fun w => ?_
  split
  · exact KeepsJobs.bind (keepsJobs_stop x) fun _ => .pure _
  · refine KeepsJobs.bind (keepsJobs_absorb x batch) fun _ => ?_
    split
    · exact .pure _
    · exact keepsJobs_proceed _

/-- **A step of the fiber keeps every job**, and a finished one as it is. -/
theorem keepsJobs_step (x : Conduct) (r : Resume) : KeepsJobs (x.step r) := by
  unfold step
  split
  · exact KeepsJobs.bind (KeepsJobs.of_tracks (setStatus_tracks · _ _)) fun _ => keepsJobs_proceed x
  · split
    · exact KeepsJobs.bind (keepsJobs_drain _ _) fun _ => keepsJobs_afterBatch x _
    · exact KeepsJobs.bind (keepsJobs_drain _ _) fun _ => keepsJobs_afterBatch x _
    · exact KeepsJobs.bind (keepsJobs_stop x) fun _ => .pure _
    · exact KeepsJobs.bind (KeepsJobs.of_tracks (cancelJob_tracks · _)) fun _ =>
        KeepsJobs.bind (keepsJobs_stop x) fun _ => .pure _

theorem cancelJob_run (c : Nat) (w₀ : World) :
    ⦃fun w => ⌜w = w₀⌝⦄ cancelJob c
      ⦃⇓ _ w => ⌜w₀.jobView.Retains w.jobView ∧ (c < w₀.cells.size → w.isFinished c = true)⌝⦄ :=
  triple_of_run fun w same => by
    subst same
    exact ⟨KeepsJobs.of_tracks (cancelJob_tracks · c) w, run_of_spec (cancelJob_finishes c)⟩

/-- **Stopping cancels every sub-job still running**: each ends in a terminal status. -/
theorem stop_finishes (x : Conduct) :
    ⦃fun w => ⌜∀ sub ∈ x.progress.subJobs, sub < w.cells.size⌝⦄ stop x
      ⦃⇓ _ w => ⌜∀ sub ∈ x.progress.subJobs, w.isFinished sub = true⌝⦄ := by
  have cancelling := cancelJob_run
  mvcgen [stop, cancelling, -cancelJob_tracks] invariants
  | inv1 => ⇓ done w => ⌜(∀ sub ∈ x.progress.subJobs, sub < w.cells.size) ∧
      ∀ sub ∈ done.fst.prefix, w.isFinished sub = true⌝
  case vc1.step.post.success =>
    -- cancelling the next sub-job finishes it and keeps the ones cancelled before
    rename_i split _ _ before _ _ after
    obtain ⟨inside, finished⟩ := before
    obtain ⟨retains, cancelled⟩ := after
    refine ⟨fun sub member => lt_size_of_retains retains (inside sub member), fun sub member => ?_⟩
    rcases List.mem_append.mp member with earlier | now
    · exact isFinished_of_retains retains (finished sub earlier)
    · rw [List.mem_singleton.mp now]
      exact cancelled (inside _ (by simp [split]))
  case vc2.pre => exact ⟨‹_›, by simp⟩
  case vc3.post.success => exact ‹_ ∧ _›.2

@[simp] theorem subJobs_take (i : Nat) (g : Progress) : (g.take i).subJobs = g.subJobs := rfl

@[simp] theorem subJobs_launch (i sub : Nat) (g : Progress) :
    (g.launch i sub).subJobs = g.subJobs ++ [sub] := by
  simp [Progress.subJobs, Progress.launch]

/-- **A refused invocation fails the orchestration and cancels its sub-jobs.** Starting steps
whose inputs evaluate, while the orchestration job runs, ends early only when the invocation of
some step `i` is refused; the job is then `FAILED` naming `i`, and every sub-job then running,
those of the steps started before `i` included, has finished. -/
theorem launch_refused {x : Conduct} {is : List Nat} {w : World}
    (evaluates : ∀ i ∈ is, ∃ t v, x.task? i = some t ∧ t.input.eval x.progress.env = .ok v)
    (inside : x.cell < w.cells.size) (running : w.isFinished x.cell = false)
    (subsInside : ∀ sub ∈ x.progress.subJobs, sub < w.cells.size)
    (refused : ((launch x is).run w).run.1 = none) :
    ∃ pre i post subs, is = pre ++ i :: post ∧ subs.length = pre.length ∧
      ∃ t v f w₁, x.task? i = some t ∧ t.input.eval x.progress.env = .ok v ∧
        ((invoke x.venue t.op v none none).run w₁).run.1 = .error f ∧
        (((launch x is).run w).run.2.recordOf x.cell).status = .failed ∧
        (((launch x is).run w).run.2.recordOf x.cell).error =
          "step " ++ toString i ++ " (" ++ t.op ++ "): " ++ f.message ∧
        ∀ sub ∈ x.progress.subJobs ++ subs, ((launch x is).run w).run.2.isFinished sub = true := by
  induction is generalizing x w with
  | nil => simp [launch] at refused
  | cons i rest ih =>
    obtain ⟨t, v, found, evaluated⟩ := evaluates i (by simp)
    have invoked := invoke_keeps inside x.venue t.op v none none
    have insideInvoked := lt_size_of_view invoked.1 inside
    have runningInvoked : ((invoke x.venue t.op v none none).run w).run.2.isFinished x.cell = false := by
      rw [isFinished_of_view invoked.1]
      exact running
    have keepsInvoked := KeepsJobs.of_tracks (invoke_tracks · x.venue t.op v none none) w
    rw [launch] at refused ⊢
    simp only [task?, Progress.env_take] at found evaluated refused ⊢
    simp only [found, evaluated, StateT.run_bind, Id.run_bind] at refused ⊢
    split at refused
    · next f refusal =>
      -- the first refusal: the job fails, then the sub-jobs running are cancelled
      let message := "step " ++ toString i ++ " (" ++ t.op ++ "): " ++ f.message
      simp only [StateT.run_bind, Id.run_bind, StateT.run_pure, Id.run_pure]
      generalize ((invoke x.venue t.op v none none).run w).run.2 = w₁
        at insideInvoked runningInvoked keepsInvoked ⊢
      obtain ⟨failedStatus, failedError⟩ := failJob_fails insideInvoked runningInvoked message
      have keepsFailed := KeepsJobs.of_tracks (failJob_tracks · x.cell message) w₁
      have finished : ((failJob x.cell message).run w₁).run.2.isFinished x.cell = true := by
        simp [World.isFinished, Record.isFinished, failedStatus, Status.isFinished]
      generalize ((failJob x.cell message).run w₁).run.2 = w₂
        at failedStatus failedError keepsFailed finished ⊢
      have subsFailed : ∀ sub ∈ x.progress.subJobs, sub < w₂.cells.size := fun sub member =>
        lt_size_of_retains (keepsInvoked.trans keepsFailed) (subsInside sub member)
      have stopped : ∀ sub ∈ x.progress.subJobs,
          ((stop { x with progress := x.progress.take i }).run w₂).run.2.isFinished sub = true :=
        run_of_spec (stop_finishes { x with progress := x.progress.take i }) subsFailed
      have keepsStopped := keepsJobs_stop { x with progress := x.progress.take i } w₂
      refine ⟨[], i, rest, [], rfl, rfl, t, v, f, w, found, evaluated, refusal, ?_, ?_, ?_⟩
      · rw [recordOf_of_retains keepsStopped finished]
        exact failedStatus
      · rw [recordOf_of_retains keepsStopped finished]
        exact failedError
      · simpa using stopped
    · next sub accepted =>
      -- the step runs as `sub`; the rest is started from there
      simp only [StateT.run_bind, Id.run_bind] at refused ⊢
      have subInvoked := invoked.2 sub accepted
      generalize ((invoke x.venue t.op v none none).run w).run.2 = w₁
        at insideInvoked runningInvoked keepsInvoked subInvoked refused ⊢
      let watcher : Fiber := .watch { index := i, sub, scope := x.scope, inbox := x.inbox, since := 0 }
      have spawned : SameJobs w₁ ((spawn watcher).run w₁).run.2 :=
        run_of_spec (spawn_sameJobs w₁ watcher) (SameJobs.refl w₁)
      generalize ((spawn watcher).run w₁).run.2 = w₂ at spawned refused ⊢
      have evaluatesRest : ∀ k ∈ rest, ∃ t v,
          ({ x with progress := (x.progress.take i).launch i sub } : Conduct).task? k = some t ∧
            t.input.eval ({ x with progress := (x.progress.take i).launch i sub } : Conduct).progress.env =
              .ok v := fun k member => evaluates k (by simp [member])
      have subsSpawned : ∀ s ∈ ((x.progress.take i).launch i sub).subJobs, s < w₂.cells.size := by
        intro s member
        simp only [subJobs_launch, subJobs_take, List.mem_append, List.mem_singleton] at member
        apply spawned.lt_size
        rcases member with old | rfl
        · exact lt_size_of_retains keepsInvoked (subsInside s old)
        · exact subInvoked
      obtain ⟨pre, k, post, subs, split, counted, rest'⟩ :=
        ih evaluatesRest (spawned.lt_size insideInvoked)
          (by rw [spawned.isFinished]; exact runningInvoked) subsSpawned refused
      obtain ⟨t', v', f, w', found', evaluated', refusal, status, error, stopped⟩ := rest'
      refine ⟨i :: pre, k, post, sub :: subs, by simp [split], by simp [counted], t', v', f, w',
        found', evaluated', refusal, status, error, fun s member => stopped s ?_⟩
      simpa using member

/-- Every sub-job of the steps a round started exists, as did those running before. -/
theorem launch_inside {x x' : Conduct} {is : List Nat} {w : World}
    (subsInside : ∀ sub ∈ x.progress.subJobs, sub < w.cells.size)
    (launched : ((launch x is).run w).run.1 = some x') :
    ∀ sub ∈ x'.progress.subJobs, sub < ((launch x is).run w).run.2.cells.size := by
  induction is generalizing x w with
  | nil =>
    obtain rfl : x = x' := Option.some.inj launched
    exact subsInside
  | cons i rest ih =>
    rw [launch] at launched ⊢
    simp only [task?] at launched ⊢
    cases found : x.plan.tasks[i]? with
    | none =>
      simp only [found] at launched ⊢
      exact ih subsInside launched
    | some t =>
      simp only [found, Progress.env_take] at launched ⊢
      cases evaluated : t.input.eval x.progress.env with
      | error f => simp [evaluated] at launched
      | ok v =>
        simp only [evaluated, StateT.run_bind, Id.run_bind] at launched ⊢
        have keepsInvoked := KeepsJobs.of_tracks (invoke_tracks · x.venue t.op v none none) w
        cases result : ((invoke x.venue t.op v none none).run w).run.1 with
        | error f => simp [result] at launched
        | ok sub =>
          simp only [result, StateT.run_bind, Id.run_bind] at launched ⊢
          have subExists : sub < ((invoke x.venue t.op v none none).run w).run.2.cells.size :=
            run_of_spec (invoke_lt_size x.venue t.op v none none) trivial sub result
          generalize ((invoke x.venue t.op v none none).run w).run.2 = w₁
            at keepsInvoked subExists launched ⊢
          let watcher : Fiber := .watch { index := i, sub, scope := x.scope, inbox := x.inbox, since := 0 }
          have spawned : SameJobs w₁ ((spawn watcher).run w₁).run.2 :=
            run_of_spec (spawn_sameJobs w₁ watcher) (SameJobs.refl w₁)
          generalize ((spawn watcher).run w₁).run.2 = w₂ at spawned launched ⊢
          refine ih (fun s member => ?_) launched
          simp only [subJobs_launch, subJobs_take, List.mem_append, List.mem_singleton] at member
          apply spawned.lt_size
          rcases member with old | rfl
          · exact lt_size_of_retains keepsInvoked (subsInside s old)
          · exact subExists

/-- A step that waits again was not woken by the job's end or its scope's, and found the job
running. -/
theorem step_wait_undisturbed {x x' : Conduct} {r : Resume} {w : World} {ws : List Wait}
    (waits : ((x.step r).run w).run.1 = .wait (.conduct x') ws) :
    x.phase = .receiving → (r.choice = 0 ∨ r.choice = 1) ∧ w.isFinished x.cell = false := by
  intro phase
  rcases (by omega : (r.choice = 0 ∨ r.choice = 1) ∨ r.choice = 2 ∨ 3 ≤ r.choice)
    with woken | ended | ended
  · -- the fiber checks its job once its reports are drained, and waits only if it runs
    have drained : SameJobs w ((drain x.inbox (x.plan.tasks.length + 1)).run w).run.2 :=
      run_of_spec (drain_sameJobs w x.inbox (x.plan.tasks.length + 1)) (SameJobs.refl w)
    rw [step_takes phase woken] at waits
    simp only [afterBatch, StateT.run_bind, StateT.run_get, Id.run_bind, Id.run_pure] at waits
    split at waits
    · simp at waits
    · rw [← drained.isFinished]
      exact ⟨woken, Bool.eq_false_iff.mpr ‹_›⟩
  · rw [step_job_ended phase ended] at waits
    cases waits
  · rw [step_scope_ended phase ended] at waits
    cases waits

/-- Going on, when it waits again, leaves running only sub-jobs that exist. -/
theorem proceed_inside {x x' : Conduct} {w : World} {ws : List Wait}
    (subsInside : ∀ sub ∈ x.progress.subJobs, sub < w.cells.size)
    (waits : ((proceed x).run w).run.1 = .wait (.conduct x') ws) :
    ∀ sub ∈ x'.progress.subJobs, sub < ((proceed x).run w).run.2.cells.size := by
  unfold proceed at waits ⊢
  split at waits
  · next more =>
    rw [if_pos more]
    simp only [round, StateT.run_bind, Id.run_bind] at waits ⊢
    split at waits
    · simp at waits
    · next x₁ launched =>
      simp only [StateT.run_bind, StateT.run_get, Id.run_bind, StateT.run_pure, Id.run_pure,
        Next.wait.injEq, Fiber.conduct.injEq] at waits ⊢
      rw [← waits.1]
      exact @launch_inside _ x₁ _ _ subsInside launched
  · -- with nothing outstanding the fiber ends
    split at waits <;> simp at waits

/-- Every sub-job a step that waits again leaves running exists. -/
theorem step_wait_inside {x x' : Conduct} {r : Resume} {w : World} {ws : List Wait}
    (tasks : ∀ i ∈ x.progress.pendingIds, (x.plan.tasks[i]?).isSome)
    (subsInside : ∀ sub ∈ x.progress.subJobs, sub < w.cells.size)
    (waits : ((x.step r).run w).run.1 = .wait (.conduct x') ws) :
    ∀ sub ∈ x'.progress.subJobs, sub < ((x.step r).run w).run.2.cells.size := by
  obtain ⟨ok, -⟩ := step_wait tasks waits
  obtain ⟨w', retains, -, proceeds⟩ := step_proceeds ok (step_wait_undisturbed waits)
  rw [proceeds] at waits ⊢
  apply proceed_inside _ waits
  -- the sub-jobs still running once the reports are in were running before
  intro sub member
  obtain ⟨q, running, rfl⟩ := List.mem_map.mp member
  have before := (Progress.mem_running_absorbAll.mp running).1
  exact lt_size_of_retains retains (subsInside _ (List.mem_map_of_mem before))

/-- Going on with steps outstanding ends the fiber only when starting the ready steps ended
the orchestration, in the world that start left. -/
theorem proceed_exits {x : Conduct} {w : World} (more : 0 < x.progress.outstanding)
    (exits : ((proceed x).run w).run.1 = .exit) :
    ((launch x x.progress.ready).run w).run.1 = none ∧
      ((proceed x).run w).run.2 = ((launch x x.progress.ready).run w).run.2 := by
  unfold proceed at exits ⊢
  rw [if_pos more] at exits ⊢
  simp only [round, StateT.run_bind, Id.run_bind] at exits ⊢
  split at exits
  · next refused => simp [refused]
  · simp at exits

/-- **A refused invocation fails the orchestration and cancels its sub-jobs**, at the step
level: when a step's reports all succeed while the job runs and steps remain outstanding, the
fiber ends only when the invocation of some ready step `i` was refused, after those before it
started. The job is then `FAILED` naming `i`, and every sub-job then running has finished. -/
theorem step_refused {p : Plan} {x : Conduct} {r : Resume} {w : World} (wf : p.WellFormed)
    (planned : x.plan = p) (sound : Progress.Sound p x.progress) (reports : x.Reports r w)
    (succeeded : ∀ c ∈ x.received r w, c.result.isSome)
    (woken : x.phase = .receiving → r.choice = 0 ∨ r.choice = 1)
    (inside : x.cell < w.cells.size) (running : w.isFinished x.cell = false)
    (subsInside : ∀ sub ∈ x.progress.subJobs, sub < w.cells.size)
    (more : 0 < (x.absorbed r w).outstanding) (exits : ((x.step r).run w).run.1 = .exit) :
    ∃ pre i post subs, (x.absorbed r w).ready = pre ++ i :: post ∧ subs.length = pre.length ∧
      ∃ t v f w₁, p.tasks[i]? = some t ∧ t.input.eval (x.absorbed r w).env = .ok v ∧
        ((invoke x.venue t.op v none none).run w₁).run.1 = .error f ∧
        (((x.step r).run w).run.2.recordOf x.cell).status = .failed ∧
        (((x.step r).run w).run.2.recordOf x.cell).error =
          "step " ++ toString i ++ " (" ++ t.op ++ "): " ++ f.message ∧
        ∀ sub ∈ (x.absorbed r w).subJobs ++ subs, ((x.step r).run w).run.2.isFinished sub = true := by
  obtain ⟨w', retains, keeps, proceeds⟩ :=
    step_proceeds succeeded fun phase => ⟨woken phase, running⟩
  obtain ⟨inside', running'⟩ := keeps inside running
  rw [proceeds] at exits ⊢
  obtain ⟨refused, same⟩ := proceed_exits more exits
  rw [same]
  have absorbedSound := reports.absorbed_sound sound
  -- a ready step's input evaluates, so only an invocation can end the start
  have evaluates : ∀ i ∈ (x.absorbed r w).ready,
      ∃ t v, x.task? i = some t ∧ t.input.eval (x.absorbed r w).env = .ok v := by
    intro i ready
    obtain ⟨t, task, -, v, evaluated⟩ := absorbedSound.ready_eval wf ready
    exact ⟨t, v, by rw [task?, planned]; exact task, evaluated⟩
  have subsInside' : ∀ sub ∈ (x.absorbed r w).subJobs, sub < w'.cells.size := by
    intro sub member
    obtain ⟨q, running, rfl⟩ := List.mem_map.mp member
    have before := (Progress.mem_running_absorbAll.mp running).1
    exact lt_size_of_retains retains (subsInside _ (List.mem_map_of_mem before))
  obtain ⟨pre, i, post, subs, split, counted, t, v, f, w₁, task, evaluated, invoked, status, error,
    cancelled⟩ := launch_refused (x := { x with progress := x.absorbed r w }) evaluates inside'
      running' subsInside' refused
  exact ⟨pre, i, post, subs, split, counted, t, v, f, w₁, by rw [← planned]; exact task, evaluated,
    invoked, status, error, cancelled⟩

/-- Stopping, where every sub-job running exists, finishes each of them. -/
theorem stop_run (x : Conduct) {w : World}
    (subsInside : ∀ sub ∈ x.progress.subJobs, sub < w.cells.size) :
    ∀ sub ∈ x.progress.subJobs, ((stop x).run w).run.2.isFinished sub = true :=
  run_of_spec (stop_finishes x) subsInside

/-- **An interrupted orchestration cancels its sub-jobs**: a step woken by the end of its
scope or of its job, or one that finds its job finished, ends the fiber, and every sub-job then
running has finished. -/
theorem step_interrupted {x : Conduct} {r : Resume} {w : World} (phase : x.phase = .receiving)
    (subsInside : ∀ sub ∈ x.progress.subJobs, sub < w.cells.size)
    (interrupted : 2 ≤ r.choice ∨ w.isFinished x.cell = true) :
    ((x.step r).run w).run.1 = .exit ∧
      ∀ sub ∈ x.progress.subJobs, ((x.step r).run w).run.2.isFinished sub = true := by
  rcases (by omega : (r.choice = 0 ∨ r.choice = 1) ∨ r.choice = 2 ∨ 3 ≤ r.choice)
    with woken | ended | ended
  · -- once its reports are drained the fiber checks its job, and stops as it finished
    have finished := interrupted.resolve_left (by omega)
    have drained : SameJobs w ((drain x.inbox (x.plan.tasks.length + 1)).run w).run.2 :=
      run_of_spec (drain_sameJobs w x.inbox (x.plan.tasks.length + 1)) (SameJobs.refl w)
    rw [step_takes phase woken]
    simp only [afterBatch, StateT.run_bind, StateT.run_get, Id.run_bind, Id.run_pure]
    rw [if_pos (by rw [drained.isFinished]; exact finished)]
    simp only [StateT.run_bind, Id.run_bind, StateT.run_pure, Id.run_pure]
    exact ⟨trivial, stop_run x fun sub member => drained.lt_size (subsInside sub member)⟩
  · rw [step_job_ended phase ended]
    exact ⟨rfl, stop_run x subsInside⟩
  · -- the fiber cancels its job, which keeps every sub-job, then stops
    have cancelled := KeepsJobs.of_tracks (cancelJob_tracks · x.cell) w
    rw [step_scope_ended phase ended]
    exact ⟨rfl, stop_run x fun sub member => lt_size_of_retains cancelled (subsInside sub member)⟩

/-! ## A failed report -/

/-- The message of a failed step. -/
def failedMessage (x : Conduct) (c : Completion) (f : Fault) : String :=
  "step " ++ toString c.index ++ " (" ++ ((x.task? c.index).map (·.op)).getD "" ++ ") failed: " ++
    failureMessage f

/-- **The first failed report of a batch fails the orchestration job**, naming its step and the
failure, after the successful reports before it; and no job is created. -/
theorem absorb_fails {x : Conduct} {oks rest : List Completion} {c : Completion} {f : Fault}
    {w : World} (ok : ∀ c' ∈ oks, c'.result.isSome) (failed : c.outcome = .error f)
    (inside : x.cell < w.cells.size) (running : w.isFinished x.cell = false) :
    ((absorb x (oks ++ c :: rest)).run w).run.1 = none ∧
      (((absorb x (oks ++ c :: rest)).run w).run.2.recordOf x.cell).status = .failed ∧
      (((absorb x (oks ++ c :: rest)).run w).run.2.recordOf x.cell).error = x.failedMessage c f ∧
      ((absorb x (oks ++ c :: rest)).run w).run.2.cells.size = w.cells.size := by
  induction oks generalizing x w with
  | nil =>
    have recorded : SameJobs w ((recordStep { x with progress := x.progress.settle c.index } c).run
        w).run.2 :=
      run_of_spec (recordStep_sameJobs w _ c) (SameJobs.refl w)
    simp only [List.nil_append, absorb, StateT.run_bind, Id.run_bind, failed, StateT.run_pure,
      Id.run_pure]
    generalize ((recordStep { x with progress := x.progress.settle c.index } c).run w).run.2 = w₁
      at recorded ⊢
    have failedJob := failJob_fails (recorded.lt_size inside)
      (by rw [recorded.isFinished]; exact running) (x.failedMessage c f)
    have size : ((failJob x.cell (x.failedMessage c f)).run w₁).run.2.cells.size = w.cells.size :=
      run_of_spec (failJob_size x.cell (x.failedMessage c f) w.cells.size) recorded.size
    exact ⟨trivial, failedJob.1, failedJob.2, size⟩
  | cons c' oks ih =>
    -- a successful report is recorded, and the batch goes on
    obtain ⟨out, succeeded⟩ : ∃ out, c'.outcome = .ok out := by
      have succeeds := ok c' (by simp)
      unfold Completion.result at succeeds
      split at succeeds
      · exact ⟨_, ‹_›⟩
      · cases succeeds
    have recorded : SameJobs w ((recordStep { x with progress := x.progress.settle c'.index } c').run
        w).run.2 :=
      run_of_spec (recordStep_sameJobs w _ c') (SameJobs.refl w)
    simp only [List.cons_append, absorb, StateT.run_bind, Id.run_bind, succeeded]
    generalize ((recordStep { x with progress := x.progress.settle c'.index } c').run w).run.2 = w₁
      at recorded ⊢
    obtain ⟨refused, status, error, size⟩ :=
      ih (x := { x with progress := (x.progress.settle c'.index).record c'.index out })
        (fun c'' member => ok c'' (by simp [member])) (recorded.lt_size inside)
        (by rw [recorded.isFinished]; exact running)
    exact ⟨refused, status, error, size.trans recorded.size⟩

theorem afterBatch_fails {x : Conduct} {oks rest : List Completion} {c : Completion} {f : Fault}
    {w : World} (ok : ∀ c' ∈ oks, c'.result.isSome) (failed : c.outcome = .error f)
    (inside : x.cell < w.cells.size) (running : w.isFinished x.cell = false) :
    ((afterBatch x (oks ++ c :: rest)).run w).run.1 = .exit ∧
      (((afterBatch x (oks ++ c :: rest)).run w).run.2.recordOf x.cell).status = .failed ∧
      (((afterBatch x (oks ++ c :: rest)).run w).run.2.recordOf x.cell).error =
        x.failedMessage c f ∧
      ((afterBatch x (oks ++ c :: rest)).run w).run.2.cells.size = w.cells.size := by
  obtain ⟨refused, status, error, size⟩ :=
    @absorb_fails x oks rest c f w ok failed inside running
  simp only [afterBatch, StateT.run_bind, StateT.run_get, Id.run_bind, Id.run_pure]
  rw [if_neg (by simp [running])]
  simp only [StateT.run_bind, Id.run_bind, refused, StateT.run_pure, Id.run_pure]
  exact ⟨trivial, status, error, size⟩

/-- **A failed report fails the orchestration job**: when a step's batch holds a failed report
after successful ones, while the job runs, the step fails the job naming the report's step and
its failure, creates no job, so starts no step, and the fiber ends. -/
theorem step_fails {x : Conduct} {r : Resume} {w : World} {oks rest : List Completion}
    {c : Completion} {f : Fault} (batch : x.received r w = oks ++ c :: rest)
    (ok : ∀ c' ∈ oks, c'.result.isSome) (failed : c.outcome = .error f)
    (inside : x.cell < w.cells.size) (running : w.isFinished x.cell = false) :
    ((x.step r).run w).run.1 = .exit ∧
      (((x.step r).run w).run.2.recordOf x.cell).status = .failed ∧
      (((x.step r).run w).run.2.recordOf x.cell).error = x.failedMessage c f ∧
      ((x.step r).run w).run.2.cells.size = w.cells.size := by
  -- only a step woken by a report or by its poll takes in reports
  have taking : x.phase = .receiving ∧ (r.choice = 0 ∨ r.choice = 1) := by
    have nonempty : x.received r w ≠ [] := by
      rw [batch]
      simp
    unfold received at nonempty
    split at nonempty <;> simp_all
  have drained : SameJobs w ((drain x.inbox (x.plan.tasks.length + 1)).run w).run.2 :=
    run_of_spec (drain_sameJobs w x.inbox (x.plan.tasks.length + 1)) (SameJobs.refl w)
  have fails := @afterBatch_fails x oks rest c f _ ok failed (drained.lt_size inside)
    (by rw [drained.isFinished]; exact running)
  rw [drained.size] at fails
  rw [step_takes taking.1 taking.2, batch]
  exact fails

end Conduct

end JobEngine

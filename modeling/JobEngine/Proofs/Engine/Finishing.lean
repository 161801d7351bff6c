import JobEngine.Proofs.Engine.Table

/-!
# Finishing a job

Failing, cancelling and completing a job are changes that move every running job to a terminal
status. This module proves that each of them, applied to a cell that exists, leaves that cell's
job finished, whatever the follower pass then does; and that the operations that keep the
table invariant (`Tracks`) keep every job and every finished job as it is, so a job once
finished stays finished across them.

## Main Definitions

* `Job.Finishes` — a change that finishes every running job.
* `World.KeepsJobs` — a computation after which every cell still exists and every finished
  job is unchanged.
* `Record.failure?` — what a finished job's outcome gives to one following it.

## Main Statements

* `World.changeHere_finishes`, `World.change_finishes` — a finishing change finishes the job
  of a cell that exists.
* `World.failJob_finishes`, `World.cancelJob_finishes`, `World.completeJob_finishes`.
* `World.KeepsJobs.of_tracks` — every operation with a `Tracks` triple keeps the jobs.
* `World.cancelJob_cancels` — cancelling a running job that exists leaves it `CANCELLED`.
* `World.finalError_run` — the error of a followed job that finished is its outcome's.
-/

namespace JobEngine

open Std.Do

namespace Job

/-- A change that finishes every running job. -/
def Finishes (t : Job → Option (Job × Hook)) : Prop :=
  ∀ j, j.isFinished = false → ∃ j' h, t j = some (j', h) ∧ j'.isFinished = true

/-- Applying a terminal record to a running job finishes it. -/
theorem apply_finishes {j : Job} (running : j.isFinished = false) (now : Int) {r : Record}
    (target : r.status.isFinished = true) :
    ∃ j' h, j.apply now r = some (j', h) ∧ j'.isFinished = true := by
  rw [apply_eq, if_pos (takes_of_status_isFinished running target)]
  refine ⟨_, _, rfl, ?_⟩
  simp [isFinished, Record.isFinished, Status.orCurrent_of_ne (Status.ne_empty_of_isFinished target),
    target]

theorem finishes_fail (now : Int) (message : String) : Finishes (fun j => j.fail now message) :=
  fun _ running => apply_finishes running now (by rfl)

theorem finishes_cancel (now : Int) : Finishes (fun j => j.cancel now) := by
  intro j running
  simp only [cancel, running, Bool.false_eq_true, if_false]
  -- cancelling first marks the job as signalled, then applies the cancelled record
  exact apply_finishes (j := { j with cancelSignalled := true }) running now
    (r := { j.record with status := .cancelled, updated := 0 }) rfl

/-- Cancelling a running job stores a `CANCELLED` record. -/
theorem cancel_record {j : Job} (running : j.isFinished = false) (now : Int) :
    ∃ j' h, j.cancel now = some (j', h) ∧ j'.record.status = .cancelled := by
  unfold cancel
  rw [if_neg (by simp [running]), apply_eq]
  split
  · exact ⟨_, _, rfl, rfl⟩
  · -- a running job takes a terminal status
    next refused => exact absurd (takes_of_status_isFinished running rfl) refused

/-- Completing a running job stores a `COMPLETE` record holding the output. -/
theorem complete_record {j : Job} (running : j.isFinished = false) (now : Int) (output : Value) :
    ∃ j' h, (j.complete now output).toOption = some (j', h) ∧
      j'.record.status = .complete ∧ j'.record.output = output := by
  have taken := takes_of_status_isFinished running
    (r := { j.record with status := .complete, output, updated := 0 }) rfl
  unfold complete
  rw [if_neg (by simp [running]), apply_eq, if_pos taken]
  exact ⟨_, _, rfl, by simp [Record.mergeInto, Record.normalize, Status.orCurrent],
    by simp [Record.mergeInto, Record.normalize, Status.orCurrent]⟩

/-- Failing a running job stores a `FAILED` record holding the message. -/
theorem fail_record {j : Job} (running : j.isFinished = false) (now : Int) (message : String) :
    ∃ j' h, j.fail now message = some (j', h) ∧
      j'.record.status = .failed ∧ j'.record.error = message := by
  have taken := takes_of_status_isFinished running
    (r := { j.record with status := .failed, error := message, updated := 0 }) rfl
  unfold fail
  rw [apply_eq, if_pos taken]
  exact ⟨_, _, rfl, by simp [Record.mergeInto, Record.normalize, Status.orCurrent],
    by simp [Record.mergeInto, Record.normalize, Status.orCurrent, Status.isFailure]⟩

theorem finishes_complete (now : Int) (output : Value) :
    Finishes (fun j => (j.complete now output).toOption) := by
  intro j running
  obtain ⟨j', h, applied, finished⟩ := apply_finishes running now
    (r := { j.record with status := .complete, output, updated := 0 }) (by rfl)
  exact ⟨j', h, by simp [complete, running, applied, Except.toOption], finished⟩

/-- A change that never finishes a job. -/
def KeepsRunning (t : Job → Option (Job × Hook)) : Prop :=
  ∀ j j' h, t j = some (j', h) → j'.isFinished = false

/-- Applying a record that asks for no terminal status never finishes a job: the job takes
that status, or keeps its own when the record leaves it empty. -/
theorem keepsRunning_apply (now : Int) {r : Record} (open_ : r.status.isFinished = false) :
    KeepsRunning (fun j => j.apply now r) := by
  intro j j' h taken
  dsimp only at taken
  rw [apply_eq] at taken
  split at taken
  · next takes =>
    cases taken
    have running := running_of_takes takes
    by_cases empty : r.status = .unknown ""
    · simpa [isFinished, Record.isFinished, Record.mergeInto, Record.normalize, empty] using running
    · simp [isFinished, Record.isFinished, Record.mergeInto, Record.normalize,
        Status.orCurrent_of_ne empty, open_]
  · cases taken

theorem keepsRunning_setStatus (now : Int) (s : Status) :
    KeepsRunning (fun j => j.setStatus now s) := by
  intro j j' h taken
  unfold setStatus at taken
  split at taken
  · cases taken
  · next open_ => exact keepsRunning_apply now (by simpa using open_) j j' h taken

end Job

/-- What a finished job gives to one following it: nothing when it completed, else what
awaiting it gives. -/
def Record.failure? (r : Record) : Option Fault :=
  match r.outcome with
  | .ok _ => none
  | .error f => some f

namespace World

theorem isFinished_eq_view (w : World) (c : Nat) :
    w.isFinished c = ((w.jobView.cell? c).map (·.1.isFinished)).getD false := by
  simp only [isFinished, recordOf, job?, jobView_cell?, Option.map_map]
  cases w.cells[c]? <;> rfl

theorem recordOf_eq_view (w : World) (c : Nat) :
    w.recordOf c = ((w.jobView.cell? c).map (·.1)).getD {} := by
  simp only [recordOf, job?, jobView_cell?, Option.map_map]
  cases w.cells[c]? <;> rfl

theorem lt_size_iff (w : World) (c : Nat) : c < w.cells.size ↔ (w.jobView.cell? c).isSome := by
  simp [jobView_cell?]

theorem SameJobs.recordOf {w₀ w : World} (same : SameJobs w₀ w) (c : Nat) :
    w.recordOf c = w₀.recordOf c := by
  rw [recordOf_eq_view, recordOf_eq_view, show w.jobView = w₀.jobView from same]

theorem SameJobs.isFinished {w₀ w : World} (same : SameJobs w₀ w) (c : Nat) :
    w.isFinished c = w₀.isFinished c := by
  simp only [World.isFinished, same.recordOf c]

theorem SameJobs.lt_size {w₀ w : World} (same : SameJobs w₀ w) {c : Nat}
    (inside : c < w₀.cells.size) : c < w.cells.size := by
  rw [lt_size_iff] at inside ⊢
  rwa [show w.jobView = w₀.jobView from same]

theorem lt_size_of_isFinished {w : World} {c : Nat} (finished : w.isFinished c = true) :
    c < w.cells.size := by
  rw [lt_size_iff]
  rw [isFinished_eq_view] at finished
  cases held : w.jobView.cell? c <;> simp_all

section Retention

variable {w w' : World} (retains : w.jobView.Retains w'.jobView)
include retains

theorem isFinished_of_retains {c : Nat} (finished : w.isFinished c = true) :
    w'.isFinished c = true := by
  rw [isFinished_eq_view] at finished ⊢
  cases held : w.jobView.cell? c with
  | none => simp [held] at finished
  | some x =>
    simp only [held, Option.map_some, Option.getD_some] at finished
    obtain ⟨x', held', frozen⟩ := retains.cells c x held
    simp [held', frozen finished, finished]

theorem lt_size_of_retains {c : Nat} (inside : c < w.cells.size) : c < w'.cells.size := by
  rw [lt_size_iff] at inside ⊢
  obtain ⟨x, held⟩ := Option.isSome_iff_exists.mp inside
  obtain ⟨x', held', _⟩ := retains.cells c x held
  simp [held']

end Retention

/-! ## Computations that keep the jobs -/

/-- A computation that keeps every job of every world, and a finished job as it is. -/
def KeepsJobs {α : Type} (x : WorldM α) : Prop :=
  ∀ w : World, w.jobView.Retains ((x.run w).run.2).jobView

/-- **An operation that keeps the table invariant from every view keeps the jobs.** -/
theorem KeepsJobs.of_tracks {α : Type} {x : WorldM α}
    (spec : ∀ V₀, ⦃fun w => ⌜Tracks V₀ w⌝⦄ x ⦃⇓ _ w => ⌜Tracks V₀ w⌝⦄) : KeepsJobs x :=
  fun w => (run_of_spec (spec w.jobView) (Tracks.start rfl)).1

theorem KeepsJobs.of_sameJobs {α : Type} {x : WorldM α}
    (spec : ∀ w₀, ⦃fun w => ⌜SameJobs w₀ w⌝⦄ x ⦃⇓ _ w => ⌜SameJobs w₀ w⌝⦄) : KeepsJobs x := by
  intro w
  have same : SameJobs w (x.run w).2 := run_of_spec (spec w) (SameJobs.refl w)
  rw [show ((x.run w).run.2).jobView = w.jobView from same]
  exact JobView.Retains.refl _

theorem KeepsJobs.finished_spec {α : Type} {x : WorldM α} (keeps : KeepsJobs x) (c : Nat) :
    ⦃fun w => ⌜w.isFinished c = true⌝⦄ x ⦃⇓ _ w => ⌜w.isFinished c = true⌝⦄ :=
  triple_of_run fun w finished => isFinished_of_retains (keeps w) finished

/-- A computation that keeps the jobs leaves a finished job's cell as it is. -/
theorem KeepsJobs.frozen_spec {α : Type} {x : WorldM α} (keeps : KeepsJobs x) (c : Nat)
    {v : Record × Option Nat} (finished : v.1.isFinished = true) :
    ⦃fun w => ⌜w.jobView.cell? c = some v⌝⦄ x ⦃⇓ _ w => ⌜w.jobView.cell? c = some v⌝⦄ :=
  triple_of_run fun w held => by
    obtain ⟨v', held', frozen⟩ := (keeps w).cells c v held
    rw [← frozen finished]
    exact held'

theorem updateJob_lt_size {c : Nat} {w : World} (inside : c < w.cells.size) (c' : Nat)
    (r : Record) : c < ((updateJob c' r).run w).run.2.cells.size :=
  lt_size_of_retains ((KeepsJobs.of_tracks fun V₀ => updateJob_tracks V₀ c' r) w) inside

/-! ## Finishing changes -/

theorem cell?_take_self {V : JobView} {c : Nat} {r₀ : Record} {k : Option Nat}
    (held : V.cell? c = some (r₀, k)) (r : Record) : (V.take c r).cell? c = some (r, k) := by
  unfold JobView.take
  split <;> simp [held]

/-- **A change that finishes every running job finishes the job of a cell that exists.** -/
theorem changeHere_finishes (c : Nat) {t : Job → Option (Job × Hook)} (transition : Transition t)
    (finishes : Job.Finishes t) :
    ⦃fun w => ⌜c < w.cells.size⌝⦄ changeHere c t ⦃⇓ _ w => ⌜w.isFinished c = true⌝⦄ := by
  apply triple_of_run
  intro w inside
  rw [isFinished_eq_view, run_of_triple (changeHere_jobView w c t)]
  obtain ⟨cell, found⟩ : ∃ cell, w.cells[c]? = some cell :=
    ⟨w.cells[c], Array.getElem?_eq_getElem inside⟩
  have cellView : w.jobView.cell? c = some (cell.job.record, cell.keeper.venue?) := by
    simp [jobView_cell?, found, JobCell.view]
  cases running : cell.job.isFinished with
  | false =>
    obtain ⟨j, h, fired, finished⟩ := finishes cell.job running
    rw [afterChange_eq_take transition found fired, cell?_take_self cellView]
    exact finished
  | true =>
    -- a finished job refuses the change, and the view stays
    have refused := transition.refuses _ running
    simp only [afterChange, found, refused, cellView, Option.map_some, Option.getD_some]
    exact running

/-- The follower pass after a finishing change keeps the job it finished. -/
theorem change_finishes (c : Nat) {t : Job → Option (Job × Hook)} (transition : Transition t)
    (finishes : Job.Finishes t) :
    ⦃fun w => ⌜c < w.cells.size⌝⦄ change c t ⦃⇓ _ w => ⌜w.isFinished c = true⌝⦄ := by
  have here := changeHere_finishes c transition finishes
  have passed := fun (ms : Int) (r : Record) (target : Nat) =>
    (KeepsJobs.of_tracks fun V₀ => changeHere_tracks V₀ target
      (transition_apply ms { status := r.status, output := r.output, error := r.error })).finished_spec c
  mvcgen [change, here, passed]

theorem failJob_finishes (c : Nat) (message : String) :
    ⦃fun w => ⌜c < w.cells.size⌝⦄ failJob c message ⦃⇓ _ w => ⌜w.isFinished c = true⌝⦄ := by
  have step := fun (ms : Int) =>
    change_finishes c (transition_fail ms message) (Job.finishes_fail ms message)
  unfold failJob
  mvcgen [step]

theorem cancelJob_finishes (c : Nat) :
    ⦃fun w => ⌜c < w.cells.size⌝⦄ cancelJob c ⦃⇓ _ w => ⌜w.isFinished c = true⌝⦄ := by
  have step := fun (ms : Int) => change_finishes c (transition_cancel ms) (Job.finishes_cancel ms)
  unfold cancelJob
  mvcgen [step]

theorem completeJob_finishes (c : Nat) (output : Value) :
    ⦃fun w => ⌜c < w.cells.size⌝⦄ completeJob c output ⦃⇓ _ w => ⌜w.isFinished c = true⌝⦄ := by
  have step := fun (ms : Int) =>
    change_finishes c (transition_complete ms output) (Job.finishes_complete ms output)
  unfold completeJob
  mvcgen [step]

/-! ## Cancelling, and the error of a finished job -/

/-- A change that finishes a job stores the record it gives, whatever the follower pass does. -/
theorem change_stores (c : Nat) {t : Job → Option (Job × Hook)} (transition : Transition t)
    {w₀ : World} {cell : JobCell} (found : w₀.cells[c]? = some cell) {j : Job} {h : Hook}
    (fired : t cell.job = some (j, h)) (finished : j.isFinished = true) :
    ⦃fun w => ⌜w = w₀⌝⦄ change c t
    ⦃⇓ _ w => ⌜w.jobView.cell? c = some (j.record, cell.keeper.venue?)⌝⦄ := by
  have here : ⦃fun w => ⌜w = w₀⌝⦄ changeHere c t
      ⦃⇓ _ w => ⌜w.jobView.cell? c = some (j.record, cell.keeper.venue?)⌝⦄ :=
    triple_of_run fun w same => by
      subst same
      rw [run_of_triple (changeHere_jobView w c t), afterChange_eq_take transition found fired]
      have cellView : w.jobView.cell? c = some (cell.job.record, cell.keeper.venue?) := by
        simp [jobView_cell?, found, JobCell.view]
      exact cell?_take_self cellView _
  -- the follower pass changes another job, or refuses this one, which has finished
  have passed := fun (ms : Int) (r : Record) (target : Nat) =>
    (KeepsJobs.of_tracks fun V₀ => changeHere_tracks V₀ target
      (transition_apply ms { status := r.status, output := r.output, error := r.error })).frozen_spec
      c (v := (j.record, cell.keeper.venue?)) finished
  mvcgen [change, here, passed]

/-- The job of a cell that exists and runs. -/
theorem cell_of_running {w : World} {c : Nat} (inside : c < w.cells.size)
    (running : w.isFinished c = false) :
    ∃ cell, w.cells[c]? = some cell ∧ cell.job.isFinished = false := by
  refine ⟨w.cells[c], Array.getElem?_eq_getElem inside, ?_⟩
  simpa [isFinished, recordOf, job?, Array.getElem?_eq_getElem inside, Job.isFinished] using running

/-- **A change that finishes a job leaves the record it gives**, whatever the follower pass
does. -/
theorem change_recordOf (c : Nat) {t : Job → Option (Job × Hook)} (transition : Transition t)
    {w : World} {cell : JobCell} (found : w.cells[c]? = some cell) {j : Job} {h : Hook}
    (fired : t cell.job = some (j, h)) (finished : j.isFinished = true) :
    ((change c t).run w).run.2.recordOf c = j.record := by
  rw [show ((change c t).run w).run.2 = ((change c t).run w).2 from rfl, recordOf_eq_view,
    run_of_triple (change_stores c transition found fired finished)]
  rfl

/-- **Cancelling a running job that exists leaves it `CANCELLED`.** -/
theorem cancelJob_cancels {w : World} {c : Nat} (inside : c < w.cells.size)
    (running : w.isFinished c = false) :
    ((((cancelJob c).run w).run.2).recordOf c).status = .cancelled := by
  obtain ⟨cell, found, jobRunning⟩ := cell_of_running inside running
  obtain ⟨j, h, fired, cancelled⟩ := Job.cancel_record jobRunning w.millis
  have finished : j.isFinished = true := by
    simp [Job.isFinished, Record.isFinished, cancelled, Status.isFinished]
  rw [show (((cancelJob c).run w).run.2) = ((change c (·.cancel w.millis)).run w).run.2 from rfl,
    change_recordOf c (transition_cancel w.millis) found fired finished]
  exact cancelled

/-- **Completing a running job that exists leaves it `COMPLETE` with the output.** -/
theorem completeJob_completes {w : World} {c : Nat} (inside : c < w.cells.size)
    (running : w.isFinished c = false) (output : Value) :
    (((completeJob c output).run w).run.2.recordOf c).status = .complete ∧
      (((completeJob c output).run w).run.2.recordOf c).output = output := by
  obtain ⟨cell, found, jobRunning⟩ := cell_of_running inside running
  obtain ⟨j, h, fired, completed, kept⟩ := Job.complete_record jobRunning w.millis output
  have finished : j.isFinished = true := by
    simp [Job.isFinished, Record.isFinished, completed, Status.isFinished]
  rw [show ((completeJob c output).run w).run.2 =
      ((change c fun j => (j.complete w.millis output).toOption).run w).run.2 from rfl,
    change_recordOf c (transition_complete w.millis output) found fired finished]
  exact ⟨completed, kept⟩

/-- **Failing a running job that exists leaves it `FAILED` with the message.** -/
theorem failJob_fails {w : World} {c : Nat} (inside : c < w.cells.size)
    (running : w.isFinished c = false) (message : String) :
    (((failJob c message).run w).run.2.recordOf c).status = .failed ∧
      (((failJob c message).run w).run.2.recordOf c).error = message := by
  obtain ⟨cell, found, jobRunning⟩ := cell_of_running inside running
  obtain ⟨j, h, fired, failed, kept⟩ := Job.fail_record jobRunning w.millis message
  have finished : j.isFinished = true := by
    simp [Job.isFinished, Record.isFinished, failed, Status.isFinished]
  rw [show ((failJob c message).run w).run.2 =
      ((change c (·.fail w.millis message)).run w).run.2 from rfl,
    change_recordOf c (transition_fail w.millis message) found fired finished]
  exact ⟨failed, kept⟩

/-! ## Changes that keep a job running -/

/-- The keeper and hook a change returns are the cell's keeper and the hook its transition
fired. -/
theorem changeHere_fired (c : Nat) (t : Job → Option (Job × Hook)) (w : World) {k : Keeper}
    {h : Hook} (fired : ((changeHere c t).run w).run.1 = some (k, h)) :
    ∃ cell j, w.cells[c]? = some cell ∧ t cell.job = some (j, h) ∧ cell.keeper = k := by
  simp only [changeHere, StateT.run_bind, StateT.run_get, Id.run_bind] at fired
  split at fired
  · simp at fired
  · next cell found =>
    split at fired
    · simp at fired
    · next j h' transitioned =>
      -- every branch of the hooks ends by returning the keeper and the hook
      simp only [StateT.run_bind, Id.run_bind] at fired
      repeat' split at fired
      all_goals
        simp only [StateT.run_bind, Id.run_bind, StateT.run_pure, Id.run_pure, Option.some.injEq,
          Prod.mk.injEq] at fired
        exact ⟨cell, j, found, fired.2 ▸ transitioned, fired.1⟩

/-- **A change that never finishes a job keeps every running job running**, the one it changes
included. -/
theorem changeHere_keeps_running (c : Nat) {t : Job → Option (Job × Hook)}
    (keeps : Job.KeepsRunning t) {w : World} {c' : Nat} (inside : c' < w.cells.size)
    (running : w.isFinished c' = false) :
    c' < ((changeHere c t).run w).run.2.cells.size ∧
      ((changeHere c t).run w).run.2.isFinished c' = false := by
  rw [lt_size_iff] at inside ⊢
  rw [isFinished_eq_view] at running ⊢
  rw [show ((changeHere c t).run w).run.2 = ((changeHere c t).run w).2 from rfl,
    run_of_triple (changeHere_jobView w c t)]
  unfold afterChange
  split
  · exact ⟨inside, running⟩
  · split
    · exact ⟨inside, running⟩
    · next j h fired =>
      -- the changed cell holds the new record, every other cell its own
      have finished := keeps _ j h fired
      obtain ⟨x, held⟩ := Option.isSome_iff_exists.mp inside
      split <;>
      · simp only [JobView.cell?_storeIn, JobView.cell?_setRecord]
        split <;> simp_all [Job.isFinished]

/-- A change that never finishes a job keeps every running job running, whatever the follower
pass does: it passes on a status that is not terminal. -/
theorem change_keeps_running (c : Nat) {t : Job → Option (Job × Hook)} (transition : Transition t)
    (keeps : Job.KeepsRunning t) {w : World} {c' : Nat} (inside : c' < w.cells.size)
    (running : w.isFinished c' = false) :
    c' < ((change c t).run w).run.2.cells.size ∧ ((change c t).run w).run.2.isFinished c' = false := by
  obtain ⟨inside₁, running₁⟩ := changeHere_keeps_running c keeps inside running
  simp only [change, StateT.run_bind, Id.run_bind]
  split
  · exact ⟨inside₁, running₁⟩
  · next target h fired =>
    obtain ⟨cell, j, found, transitioned, -⟩ := changeHere_fired c t w fired
    have open_ : h.record.status.isFinished = false := by
      rw [transition.announces _ _ _ transitioned]
      exact keeps _ _ _ transitioned
    by_cases passed : (h.record.status != Status.pending) = true
    · rw [if_pos passed]
      simp only [StateT.run_bind, StateT.run_get, Id.run_bind, StateT.run_pure, Id.run_pure]
      have passes := Job.keepsRunning_apply (((changeHere c t).run w).run.2.millis)
        (r := { status := h.record.status, output := h.record.output, error := h.record.error })
        open_
      exact changeHere_keeps_running target passes inside₁ running₁
    · rw [if_neg passed]
      exact ⟨inside₁, running₁⟩
  · exact ⟨inside₁, running₁⟩

/-- Moving a job to a status keeps every running job running. -/
theorem setStatus_keeps_running (c : Nat) (s : Status) {w : World} {c' : Nat}
    (inside : c' < w.cells.size) (running : w.isFinished c' = false) :
    c' < ((setStatus c s).run w).run.2.cells.size ∧
      ((setStatus c s).run w).run.2.isFinished c' = false :=
  change_keeps_running c (transition_setStatus w.millis s) (Job.keepsRunning_setStatus w.millis s)
    inside running

/-- **The error of a followed job that finished is its outcome's**, and asking for it changes
no job. -/
theorem finalError_run (c : Nat) (w : World) :
    ((finalError c).run w).run.1 = (w.recordOf c).failure? ∧
      SameJobs w ((finalError c).run w).run.2 := by
  have spec : ⦃fun w' => ⌜w' = w⌝⦄ finalError c
      ⦃⇓ e w' => ⌜e = (w.recordOf c).failure? ∧ SameJobs w w'⌝⦄ := by
    mvcgen [finalError]
    all_goals subst ‹_ = w›
    all_goals simp_all [Record.failure?, outcomeOf, Record.outcome, SameJobs]
  exact run_of_triple spec

end World

end JobEngine

import JobEngine.Job.Settlement
import JobEngine.Proofs.Job.Lifecycle

/-!
# The completion future agrees with the job

Whatever order the calls on a job come in, the completion future attached to it is settled
once, when the job is terminal and a future is attached, with the outcome of the job's final
record, and never before; a second future is refused; and awaiting the job answers what the
future holds. So the session, which keeps only whether a future is attached and answers an
await from the job's record, answers exactly as the future would.

## Main Statements

* `Record.outcome_of_isFinished` — what a terminal record settles the future with, status by
  status.
* `FutureSession.Tracks` — the invariant: the session knows whether a future is attached, and
  the future holds the outcome of the job's record exactly when the job is finished.
* `FutureSession.Tracks.step`, `FutureSession.Tracks.step_settles` — one call keeps the
  invariant, and settles the future exactly when it moves it into the settled state.
* `FutureSession.settlesOf_eq` — over any run, the future is settled once if the run takes it
  to the settled state, and never otherwise.
* `completion_future_agreement` — the whole contract, for every job and every run.

## Design Notes

The invariant `Tracks` carries every statement: one step lemma per branch of
`FutureSession.futureAfter`, and runs by induction on the list of calls, citing only the step
lemmas and the facts of `Proofs.Job.Lifecycle` about one call of the session.
-/

namespace JobEngine

namespace Record

/-- **What a terminal record settles a future with**: the output of a `COMPLETE` record, a
cancellation for `CANCELLED`, and for `FAILED`, `TIMEOUT` and `REJECTED` a failure naming the
job, its status and its error text. -/
theorem outcome_of_isFinished {r : Record} (finished : r.isFinished = true) :
    (r.status = .complete ∧ r.outcome = .ok r.output) ∨
      (r.status = .cancelled ∧ r.outcome = .error .jobCancelled) ∨
      ((r.status = .failed ∨ r.status = .timeout ∨ r.status = .rejected) ∧
        r.outcome = .error (.jobFailed r.id r.status r.error)) := by
  unfold isFinished at finished
  unfold outcome
  cases h : r.status <;> simp_all [Status.isFinished]

end Record

namespace JobSession

variable (s : JobSession)

/-- The calls that attach a future: `SetFuture`, and `Await` when none is attached. -/
def Action.attaches : Action → Bool
  | .attachFuture | .await => true
  | _ => false

/-- Only the calls that attach a future mark one as attached. -/
theorem futureAttached_perform (a : Action) :
    (s.perform a).1.job.futureAttached = (s.job.futureAttached || a.attaches) := by
  cases a with
  | update r => rw [perform_update]; split <;> simp [Action.attaches]
  | setStatus st => rw [perform_setStatus]; split <;> simp [Action.attaches]
  | fail message => rw [perform_fail]; split <;> simp [Action.attaches]
  | complete output => rw [perform_complete]; split <;> simp [Action.attaches]
  | cancel => rw [perform_cancel]; split <;> simp [Action.attaches]
  | attachFuture =>
    unfold perform Job.attachFuture
    by_cases attached : s.job.futureAttached = true <;> simp [attached, Action.attaches]
  | await => simp only [perform]; split <;> simp [Action.attaches]
  | output | errorMessage | sleep | id | status => simp [perform, Action.attaches]

/-- A call that attaches a future leaves the record alone. -/
theorem record_perform_of_attaches {a : Action} (attaching : a.attaches = true) :
    (s.perform a).1.job.record = s.job.record := by
  cases a with
  | attachFuture =>
    unfold perform Job.attachFuture
    by_cases attached : s.job.futureAttached = true <;> simp [attached]
  | await => simp only [perform]; split <;> rfl
  | _ => simp [Action.attaches] at attaching

/-- A call keeps a finished job finished. -/
theorem isFinished_perform_of_finished {a : Action} (finished : s.job.isFinished = true) :
    (s.perform a).1.job.isFinished = true := by
  simpa [Job.isFinished, (s.perform_of_finished finished (a := a)).1] using finished

end JobSession

namespace FutureSession

open JobSession

variable {c : FutureSession}

/-- The future is attached and the job is finished: the future has been settled, or is about
to be. -/
def settled (c : FutureSession) : Bool := c.future.isSome && c.session.job.isFinished

@[simp] theorem step_session (a : Action) : (c.step a).1.session = (c.session.perform a).1 := rfl

theorem step_future (a : Action) :
    (c.step a).1.future = (c.futureAfter (c.session.perform a).1 a).1 := rfl

theorem step_snd (a : Action) :
    (c.step a).2 = (c.futureAfter (c.session.perform a).1 a).2 := rfl

/-- **The invariant**: the session knows whether a future is attached, and the future holds
the outcome of the job's record exactly when the job is finished. -/
structure Tracks (c : FutureSession) : Prop where
  attached : c.session.job.futureAttached = c.future.isSome
  result : ∀ f ∈ c.future,
    f.result = if c.session.job.isFinished then some c.session.job.record.outcome else none

/-- A job with no future attached, and no future beside it, starts the invariant. -/
theorem tracks_of_detached {s : JobSession} (detached : s.job.futureAttached = false) :
    Tracks { session := s } where
  attached := detached
  result := by simp

/-- Attaching to a job: the attached future ends up holding the record's outcome exactly when
the job is finished, and it is settled when it was not attached before and the job is
finished. -/
theorem attach_spec (j : Job) (future : Option Future)
    (result : ∀ f ∈ future, f.result = if j.isFinished then some j.record.outcome else none) :
    (∃ f, (attach j future).1 = some f ∧
      f.result = if j.isFinished then some j.record.outcome else none) ∧
      (attach j future).2 = (if future.isNone && j.isFinished then [j.record.outcome] else []) ∧
      ∀ f ∈ future, (attach j future).1 = some f := by
  cases future with
  | some f => exact ⟨⟨f, rfl, result f rfl⟩, by simp [attach], fun _ same => by simp_all [attach]⟩
  | none =>
    by_cases finished : j.isFinished = true
    · simp [attach, settleAttached, Future.settle, finished]
    · simp [attach, finished]

/-- Settling the attached future with a finished record's outcome, when it was unsettled. -/
theorem settleAttached_spec (r : Record) (future : Option Future)
    (unsettled : ∀ f ∈ future, f.result = none) :
    (∀ f ∈ (settleAttached r future).1, f.result = some r.outcome) ∧
      ((settleAttached r future).1).isSome = future.isSome ∧
      (settleAttached r future).2 = if future.isSome then [r.outcome] else [] := by
  cases future with
  | some f => simp [settleAttached, Future.settle, unsettled f rfl]
  | none => simp [settleAttached]

/-- An attaching call attaches a future, and does nothing else to it. -/
theorem futureAfter_of_attaches (s : JobSession) {a : Action} (attaching : a.attaches = true) :
    c.futureAfter s a = attach c.session.job c.future := by
  cases a <;> first | rfl | simp [Action.attaches] at attaching

/-- Any other call settles the attached future when it takes the job from running to
terminal. -/
theorem futureAfter_of_not_attaches (s : JobSession) {a : Action} (other : a.attaches = false) :
    c.futureAfter s a =
      if !c.session.job.isFinished && s.job.isFinished then settleAttached s.job.record c.future
      else (c.future, []) := by
  cases a <;> first | rfl | simp [Action.attaches] at other

/-- **One call keeps the invariant.** -/
theorem Tracks.step (tracks : c.Tracks) (a : Action) : (c.step a).1.Tracks := by
  obtain ⟨attached, result⟩ := tracks
  have marked := c.session.futureAttached_perform a
  cases attaching : a.attaches
  · -- any other call: the future is settled exactly when the job finishes
    rw [attaching, Bool.or_false] at marked
    by_cases finishing : (!c.session.job.isFinished && (c.session.perform a).1.job.isFinished) = true
    · simp only [Bool.and_eq_true, Bool.not_eq_true'] at finishing
      have unsettled : ∀ f ∈ c.future, f.result = none := fun f mem => by
        simp [result f mem, finishing.1]
      obtain ⟨holds, same, -⟩ := settleAttached_spec (c.session.perform a).1.job.record c.future unsettled
      refine ⟨?_, fun f mem => ?_⟩
      · simp [step_future, futureAfter_of_not_attaches _ attaching, finishing, marked, attached, same]
      · simp only [step_future, futureAfter_of_not_attaches _ attaching, finishing, Bool.not_false,
          Bool.and_self, if_true] at mem
        simp [holds f mem, finishing.2]
    · have kept : (c.step a).1.future = c.future := by
        rw [step_future, futureAfter_of_not_attaches _ attaching, if_neg finishing]
      refine ⟨by simp [kept, marked, attached], fun f mem => ?_⟩
      rw [kept] at mem
      cases finished : c.session.job.isFinished
      · have running : (c.session.perform a).1.job.isFinished = false := by
          simpa [finished] using finishing
        simp [result f mem, finished, running]
      · obtain ⟨record, -⟩ := c.session.perform_of_finished finished (a := a)
        simp [result f mem, finished, record, c.session.isFinished_perform_of_finished finished]
  · -- an attaching call: the record stays, and the future it leaves holds the outcome
    -- exactly when the job is finished
    have record := c.session.record_perform_of_attaches attaching
    obtain ⟨⟨f, attachedNow, holds⟩, -, -⟩ := attach_spec c.session.job c.future result
    have future : (c.step a).1.future = some f := by
      rw [step_future, futureAfter_of_attaches _ attaching, attachedNow]
    refine ⟨by simp [future, marked, attaching], fun f' mem => ?_⟩
    rw [future, Option.mem_some_iff] at mem
    subst mem
    have sameFinished : (c.session.perform a).1.job.isFinished = c.session.job.isFinished := by
      simp [Job.isFinished, record]
    rw [step_session, sameFinished, record]
    exact holds

/-- **One call settles the future exactly when it takes it into the settled state**, and then
once, with the outcome of the job's record. -/
theorem Tracks.step_settles (tracks : c.Tracks) (a : Action) :
    (c.step a).2 = if !c.settled && (c.step a).1.settled then
      [(c.step a).1.session.job.record.outcome] else [] := by
  obtain ⟨attached, result⟩ := tracks
  cases attaching : a.attaches
  · by_cases finishing : (!c.session.job.isFinished && (c.session.perform a).1.job.isFinished) = true
    · simp only [Bool.and_eq_true, Bool.not_eq_true'] at finishing
      have unsettled : ∀ f ∈ c.future, f.result = none := fun f mem => by
        simp [result f mem, finishing.1]
      obtain ⟨-, same, settles⟩ :=
        settleAttached_spec (c.session.perform a).1.job.record c.future unsettled
      simp [step_snd, step_future, futureAfter_of_not_attaches _ attaching, finishing, settled,
        same, settles]
    · have kept : (c.step a).1.future = c.future := by
        rw [step_future, futureAfter_of_not_attaches _ attaching, if_neg finishing]
      have none_ : (c.step a).2 = [] := by
        rw [step_snd, futureAfter_of_not_attaches _ attaching, if_neg finishing]
      cases finished : c.session.job.isFinished
      · have running : (c.session.perform a).1.job.isFinished = false := by
          simpa [finished] using finishing
        simp [none_, settled, kept, running]
      · simp [none_, settled, kept, finished, c.session.isFinished_perform_of_finished finished]
  · have record := c.session.record_perform_of_attaches attaching
    have sameFinished : (c.session.perform a).1.job.isFinished = c.session.job.isFinished := by
      simp [Job.isFinished, record]
    obtain ⟨⟨f, attachedNow, -⟩, settles, -⟩ := attach_spec c.session.job c.future result
    have future : (c.step a).1.future = some f := by
      rw [step_future, futureAfter_of_attaches _ attaching, attachedNow]
    rw [step_snd, futureAfter_of_attaches _ attaching, settles]
    cases attachedBefore : c.future <;> simp [settled, future, sameFinished, record, attachedBefore]

/-- A settled future stays settled, and the job's record stays as it is. -/
theorem settled_step (settled_ : c.settled = true) (a : Action) :
    (c.step a).1.settled = true ∧ (c.step a).1.session.job.record = c.session.job.record := by
  simp only [settled, Bool.and_eq_true, Option.isSome_iff_exists] at settled_
  obtain ⟨⟨f, attached⟩, finished⟩ := settled_
  have kept : (c.step a).1.future = some f := by
    cases attaching : a.attaches
    · rw [step_future, futureAfter_of_not_attaches _ attaching]
      simp [finished, attached]
    · rw [step_future, futureAfter_of_attaches _ attaching, attached]
      rfl
  refine ⟨?_, (c.session.perform_of_finished finished (a := a)).1⟩
  simp [settled, kept, c.session.isFinished_perform_of_finished finished]

/-- **Attaching a future answers whether one was attached**: `ErrFutureAttached` when one
was, and it stays attached. -/
theorem Tracks.perform_attachFuture (tracks : c.Tracks) :
    (c.session.perform .attachFuture).2.1 =
        .failure (if c.future.isSome then some .futureAttached else none) ∧
      ∀ f ∈ c.future, (c.step .attachFuture).1.future = some f := by
  refine ⟨?_, fun f attached => ?_⟩
  · unfold perform Job.attachFuture
    rw [tracks.attached]
    cases c.future <;> rfl
  · rw [step_future, futureAfter_of_attaches _ rfl, Option.mem_def.mp attached]
    rfl

/-- **Awaiting answers what the future holds**, once a future is attached if none was: the
outcome of a finished job, and the end of the wait otherwise. -/
theorem Tracks.perform_await (tracks : c.Tracks) :
    (c.session.perform .await).2.1 = .outcome (c.step .await).1.awaited := by
  obtain ⟨⟨f, attached, holds⟩, -, -⟩ := attach_spec c.session.job c.future tracks.result
  have future : (c.step .await).1.future = some f := by
    rw [step_future, futureAfter_of_attaches _ rfl, attached]
  simp only [perform, awaited, future, Option.bind_some, holds]
  split <;> simp_all

/-! ## Runs -/

/-- The state after a sequence of calls. -/
def after : FutureSession → List Action → FutureSession
  | c, [] => c
  | c, a :: rest => (c.step a).1.after rest

/-- The results the future was settled with over a sequence of calls, in order. -/
def settlesOf : FutureSession → List Action → List (Except Fault Value)
  | _, [] => []
  | c, a :: rest => (c.step a).2 ++ (c.step a).1.settlesOf rest

@[simp] theorem after_nil : c.after [] = c := rfl

@[simp] theorem after_cons (a : Action) (rest : List Action) :
    c.after (a :: rest) = (c.step a).1.after rest := rfl

@[simp] theorem settlesOf_nil : c.settlesOf [] = [] := rfl

@[simp] theorem settlesOf_cons (a : Action) (rest : List Action) :
    c.settlesOf (a :: rest) = (c.step a).2 ++ (c.step a).1.settlesOf rest := rfl

theorem after_append (first next : List Action) :
    c.after (first ++ next) = (c.after first).after next := by
  induction first generalizing c with
  | nil => rfl
  | cons a rest ih => exact ih

/-- Every run keeps the invariant. -/
theorem Tracks.after (tracks : c.Tracks) (calls : List Action) : (c.after calls).Tracks := by
  induction calls generalizing c with
  | nil => exact tracks
  | cons a rest ih => exact ih (tracks.step a)

/-- A settled future stays settled through every run, and the job's record stays as it is. -/
theorem settled_after (settled_ : c.settled = true) (calls : List Action) :
    (c.after calls).settled = true ∧ (c.after calls).session.job.record = c.session.job.record := by
  induction calls generalizing c with
  | nil => exact ⟨settled_, rfl⟩
  | cons a rest ih =>
    obtain ⟨stays, record⟩ := settled_step settled_ a
    obtain ⟨staysAfter, recordAfter⟩ := ih stays
    exact ⟨staysAfter, recordAfter.trans record⟩

/-- **Over any run the future is settled at most once**: once, with the outcome of the job's
final record, if the run takes it to the settled state, and never otherwise. -/
theorem Tracks.settlesOf_eq (tracks : c.Tracks) (calls : List Action) :
    c.settlesOf calls = if !c.settled && (c.after calls).settled then
      [(c.after calls).session.job.record.outcome] else [] := by
  induction calls generalizing c with
  | nil => cases settledNow : c.settled <;> simp [settledNow]
  | cons a rest ih =>
    rw [settlesOf_cons, after_cons, tracks.step_settles a, ih (tracks.step a)]
    by_cases before : c.settled = true
    · obtain ⟨stays, -⟩ := settled_step before a
      simp [before, stays]
    · by_cases now : (c.step a).1.settled = true
      · obtain ⟨staysAfter, recordAfter⟩ := settled_after now rest
        simp [before, now, staysAfter, recordAfter]
      · simp [before, now]

/-- **A settled future keeps its result** through every later call. -/
theorem Tracks.result_after (tracks : c.Tracks) {x : Except Fault Value}
    (holds : c.future.bind (·.result) = some x) (more : List Action) :
    (c.after more).future.bind (·.result) = some x := by
  obtain ⟨f, attached, result⟩ := Option.bind_eq_some_iff.mp holds
  have known := tracks.result f attached
  rw [result] at known
  -- a future holds a result only once the job is finished, and then its record's outcome
  have finished : c.session.job.isFinished = true := by
    cases running : c.session.job.isFinished
    · simp [running] at known
    · rfl
  have outcome : x = c.session.job.record.outcome := by
    simpa [finished] using known
  have settled_ : c.settled = true := by simp [settled, attached, finished]
  obtain ⟨settledAfter, record⟩ := settled_after settled_ more
  simp only [settled, Bool.and_eq_true, Option.isSome_iff_exists] at settledAfter
  obtain ⟨⟨f', attachedAfter⟩, finishedAfter⟩ := settledAfter
  have resultAfter := (tracks.after more).result f' attachedAfter
  simp [attachedAfter, resultAfter, finishedAfter, record, outcome]

end FutureSession

open JobSession FutureSession in
/-- **Completion future agreement.** For a job created from any record, on any clock, and every
sequence of calls on it, a future attached to it (by hand or by awaiting, before or after the
job finished):
* is settled once, with the outcome of the job's final record, if the run ends with the job
  terminal and a future attached, and never otherwise;
* holds that outcome exactly when the job is terminal, and nothing while it runs;
* and a terminal record's outcome is its output for `COMPLETE`, a cancellation for
  `CANCELLED`, and for `FAILED`, `TIMEOUT` and `REJECTED` a failure naming the job, its
  status and its error text.

Attaching a future answers `ErrFutureAttached` exactly when one is attached, which then stays;
awaiting the job answers what the future holds; and a settled future keeps its result through
every later call. -/
theorem completion_future_agreement (now clock : Int) (r : Record) (calls : List Action) :
    let c₀ : FutureSession := { session := { job := Job.create now r, now := clock } }
    let c := c₀.after calls
    c₀.settlesOf calls = (if c.settled then [c.session.job.record.outcome] else []) ∧
    (∀ f ∈ c.future,
      f.result = if c.session.job.isFinished then some c.session.job.record.outcome else none) ∧
    (c.session.job.isFinished = true →
      (c.session.job.record.status = .complete ∧
          c.session.job.record.outcome = .ok c.session.job.record.output) ∨
        (c.session.job.record.status = .cancelled ∧
          c.session.job.record.outcome = .error .jobCancelled) ∨
        ((c.session.job.record.status = .failed ∨ c.session.job.record.status = .timeout ∨
            c.session.job.record.status = .rejected) ∧
          c.session.job.record.outcome = .error (.jobFailed c.session.job.record.id
            c.session.job.record.status c.session.job.record.error))) ∧
    (c.session.perform .attachFuture).2.1 =
      .failure (if c.future.isSome then some .futureAttached else none) ∧
    (∀ f ∈ c.future, (c.step .attachFuture).1.future = some f) ∧
    (c.session.perform .await).2.1 = .outcome (c.step .await).1.awaited ∧
    ∀ x, c.future.bind (·.result) = some x → ∀ more, (c.after more).future.bind (·.result) = some x := by
  intro c₀ c
  have tracks₀ : c₀.Tracks := tracks_of_detached rfl
  have tracks : c.Tracks := tracks₀.after calls
  have unsettled : c₀.settled = false := rfl
  refine ⟨?_, tracks.result, Record.outcome_of_isFinished, tracks.perform_attachFuture.1,
    tracks.perform_attachFuture.2, tracks.perform_await, fun x holds more => tracks.result_after holds more⟩
  rw [tracks₀.settlesOf_eq calls, unsettled, Bool.not_false, Bool.true_and]



end JobEngine

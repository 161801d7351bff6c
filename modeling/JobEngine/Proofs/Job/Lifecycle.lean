import JobEngine.Job.Session

/-!
# The lifecycle of one job

A job reaches at most one terminal status, and from then on nothing about its record moves.
This module proves that for every sequence of calls on a single job, with the clock moving
between them however it likes, together with the exact answer of each call and the discipline
of the two hooks.

## Main Statements

* `Job.apply_eq` — the one transition in closed form: a running job *takes* an update whose
  status (an empty one standing for the current status) is one of the ten, and stores
  `Record.mergeInto` of it, announcing the new record with `Hook.announce`.
* `JobSession.perform_cases` — **what one call can do**: leave the record alone and fire
  nothing, or, on a running job, store a record and fire exactly the hook that announces it.
* `JobSession.after_of_finished`, `JobSession.hooksOf_of_finished` — a terminal record is
  final, and a finished job fires no hook.
* `JobSession.countFinish_hooksOf` — over any run the finish hook fires once if the run takes
  the job from running to terminal, and never otherwise.

## Design Notes

Runs are folds of `JobSession.perform`. Every fact about a run comes from `perform_cases`
by induction on the list of calls; no run lemma looks inside a call again. The boolean
answers are characterised by one closed form per mutator (`perform_update` and the lemmas
after it), so that *accepted* means exactly "taken by `Job.apply`", which is also when the
record is rewritten. A taken update can store a record equal to the old one: the answer
reports that the call was applied, not that something differs.
-/

namespace JobEngine

/-! ## Closed forms of the transition -/

namespace Status

/-- The status an update stands for: its own, or `current` when it leaves the status empty. -/
def orCurrent (st current : Status) : Status := if st = .unknown "" then current else st

@[simp] theorem orCurrent_empty (current : Status) : (Status.unknown "").orCurrent current = current := by
  simp [orCurrent]

theorem orCurrent_of_ne {st : Status} (nonEmpty : st ≠ .unknown "") (current : Status) :
    st.orCurrent current = st := by
  simp [orCurrent, nonEmpty]

/-- A terminal status is never the empty name. -/
theorem ne_empty_of_isFinished {st : Status} (finished : st.isFinished = true) :
    st ≠ .unknown "" := by
  rintro rfl
  simp [isFinished] at finished

/-- Every terminal status is one of the ten. -/
theorem isValid_of_isFinished {st : Status} (finished : st.isFinished = true) :
    st.isValid = true := by
  cases st <;> simp_all [isFinished, isValid]

end Status

namespace Hook

/-- The hook that announces a record a job has just stored: the finish for a terminal record,
an update for any other. -/
def announce (r : Record) : Hook := if r.isFinished then .finish r else .update r

/-- Whether a hook is the finish. -/
def isFinish : Hook → Bool
  | .finish _ => true
  | .update _ => false

@[simp] theorem record_announce (r : Record) : (announce r).record = r := by
  unfold announce
  split <;> rfl

@[simp] theorem isFinish_announce (r : Record) : (announce r).isFinish = r.isFinished := by
  unfold announce
  split <;> simp_all [isFinish]

theorem announce_of_isFinished {r : Record} (finished : r.isFinished = true) :
    announce r = .finish r := by
  simp [announce, finished]

theorem announce_of_not_isFinished {r : Record} (running : r.isFinished = false) :
    announce r = .update r := by
  simp [announce, running]

end Hook

namespace Record

/-- The record a running job stores when it takes `r` at clock `now`, `cur` being its record:
`r` with the job's id and creation time, with the current status, operation, input and name
wherever `r` leaves them empty, the clock wherever `r` leaves the update time zero, and then
only the fields its status allows. -/
def mergeInto (now : Int) (r cur : Record) : Record :=
  ({ r with
      status := r.status.orCurrent cur.status
      id := cur.id
      created := cur.created
      op := if r.op.isEmpty then cur.op else r.op
      input := if r.input.isNull then cur.input else r.input
      name := if r.name.isEmpty then cur.name else r.name
      updated := if r.updated = 0 then now else r.updated } : Record).normalize

@[simp] theorem mergeInto_id (now : Int) (r cur : Record) : (r.mergeInto now cur).id = cur.id :=
  rfl

@[simp] theorem mergeInto_created (now : Int) (r cur : Record) :
    (r.mergeInto now cur).created = cur.created := rfl

@[simp] theorem mergeInto_status (now : Int) (r cur : Record) :
    (r.mergeInto now cur).status = r.status.orCurrent cur.status := rfl

end Record

namespace Job

/-- Whether a job takes an update `r`: it is running, and the status `r` stands for is one of
the ten. -/
def takes (j : Job) (r : Record) : Bool := !j.isFinished && (r.status.orCurrent j.record.status).isValid

/-- **The transition in closed form.** -/
theorem apply_eq (now : Int) (r : Record) (j : Job) :
    j.apply now r =
      if j.takes r then
        some ({ j with record := r.mergeInto now j.record },
          Hook.announce (r.mergeInto now j.record))
      else none := by
  unfold apply takes
  by_cases finished : j.isFinished = true
  · simp [finished]
  · by_cases valid : (r.status.orCurrent j.record.status).isValid = true
    · simp only [Status.orCurrent] at valid
      simp [finished, valid, Record.mergeInto, Status.orCurrent, Hook.announce, Record.isFinished]
    · simp only [Status.orCurrent] at valid
      simp [finished, valid, Status.orCurrent]

theorem takes_of_isFinished {j : Job} (finished : j.isFinished = true) (r : Record) :
    j.takes r = false := by
  simp [takes, finished]

theorem running_of_takes {j : Job} {r : Record} (taken : j.takes r = true) :
    j.isFinished = false := by
  simp_all [takes]

/-- A running job always takes a record that asks for a terminal status. -/
theorem takes_of_status_isFinished {j : Job} (running : j.isFinished = false) {r : Record}
    (target : r.status.isFinished = true) : j.takes r = true := by
  simp [takes, running, Status.orCurrent_of_ne (Status.ne_empty_of_isFinished target),
    Status.isValid_of_isFinished target]

/-- What a job created from `r` holds: a terminal record exactly when `r`'s status is one. -/
theorem create_isFinished (now : Int) (r : Record) :
    (create now r).isFinished = r.status.isFinished := by
  unfold create isFinished Record.isFinished Record.normalize
  by_cases empty : r.status = .unknown ""
  · simp [empty, Status.isFinished]
  · simp [empty]

end Job

/-! ## One call -/

namespace JobSession

variable (s : JobSession)

/-- **`UpdateData` in closed form**: accepted exactly when the job takes the record, which it
then merges in, announcing the result; refused, it changes nothing. -/
theorem perform_update (r : Record) :
    s.perform (.update r) =
      if s.job.takes r then
        ({ s with job := { s.job with record := r.mergeInto s.millis s.job.record } },
          .accepted true, [Hook.announce (r.mergeInto s.millis s.job.record)])
      else (s, .accepted false, []) := by
  by_cases taken : s.job.takes r <;> simp [perform, accept, Job.apply_eq, taken]

/-- The record `SetStatus` hands to the transition stands for the status asked for, or the
current one when that is empty. -/
theorem takes_setStatus (j : Job) (st : Status) :
    j.takes { j.record with status := st, updated := 0 } =
      (!j.isFinished && (st.orCurrent j.record.status).isValid) := rfl

/-- **`SetStatus` in closed form**: a terminal target is refused before the job is looked at. -/
theorem perform_setStatus (st : Status) :
    s.perform (.setStatus st) =
      if !st.isFinished && s.job.takes { s.job.record with status := st, updated := 0 } then
        let r := ({ s.job.record with status := st, updated := 0 } : Record).mergeInto s.millis
          s.job.record
        ({ s with job := { s.job with record := r } }, .accepted true, [Hook.announce r])
      else (s, .accepted false, []) := by
  by_cases target : st.isFinished = true
  · simp [perform, accept, Job.setStatus, target]
  · by_cases taken : s.job.takes { s.job.record with status := st, updated := 0 } <;>
      simp [perform, accept, Job.setStatus, Job.apply_eq, target, taken]

/-- **`Fail` in closed form**: accepted exactly when the job is running. -/
theorem perform_fail (message : String) :
    s.perform (.fail message) =
      if !s.job.isFinished then
        let r := ({ s.job.record with status := .failed, error := message, updated := 0 } :
          Record).mergeInto s.millis s.job.record
        ({ s with job := { s.job with record := r } }, .accepted true, [Hook.announce r])
      else (s, .accepted false, []) := by
  by_cases finished : s.job.isFinished = true
  · simp [perform, accept, Job.fail, Job.apply_eq, finished, Job.takes_of_isFinished finished]
  · have taken : s.job.takes
        { s.job.record with status := .failed, error := message, updated := 0 } = true :=
      Job.takes_of_status_isFinished (Bool.eq_false_iff.mpr finished) rfl
    simp [perform, accept, Job.fail, Job.apply_eq, finished, taken]

/-- **`Cancel` in closed form**: accepted exactly when the job is running, and then it also
signals cancellation to the job's worker. -/
theorem perform_cancel :
    s.perform .cancel =
      if !s.job.isFinished then
        let r := ({ s.job.record with status := .cancelled, updated := 0 } : Record).mergeInto
          s.millis s.job.record
        ({ s with job := { s.job with record := r, cancelSignalled := true } }, .accepted true,
          [Hook.announce r])
      else (s, .accepted false, []) := by
  by_cases finished : s.job.isFinished = true
  · simp [perform, accept, Job.cancel, finished]
  · have signalled : ({ s.job with cancelSignalled := true } : Job).isFinished = false :=
      Bool.eq_false_iff.mpr finished
    have taken : ({ s.job with cancelSignalled := true } : Job).takes
        { s.job.record with status := .cancelled, updated := 0 } = true :=
      Job.takes_of_status_isFinished signalled rfl
    simp [perform, accept, Job.cancel, Job.apply_eq, finished, taken]

/-- **`CompleteWith` in closed form**: on a finished job it fails with the fault that wraps
`ErrAlreadyFinished`, naming the job and its status. -/
theorem perform_complete (output : Value) :
    s.perform (.complete output) =
      if !s.job.isFinished then
        let r := ({ s.job.record with status := .complete, output, updated := 0 } :
          Record).mergeInto s.millis s.job.record
        ({ s with job := { s.job with record := r } }, .failure none, [Hook.announce r])
      else (s, .failure (some (.alreadyFinished s.job.record.id s.job.record.status)), []) := by
  by_cases finished : s.job.isFinished = true
  · simp [perform, Job.complete, finished]
  · have taken : s.job.takes
        { s.job.record with status := .complete, output, updated := 0 } = true :=
      Job.takes_of_status_isFinished (Bool.eq_false_iff.mpr finished) rfl
    simp [perform, Job.complete, Job.apply_eq, finished, taken]

/-- **What one call can do to the record.** Either the record stays as it was and no hook
fires, or the job takes some record `r`, stores its merge and announces it. -/
theorem perform_stores (a : Action) :
    ((s.perform a).1.job.record = s.job.record ∧ (s.perform a).2.2 = []) ∨
      ∃ r, s.job.takes r = true ∧
        (s.perform a).1.job.record = r.mergeInto s.millis s.job.record ∧
        (s.perform a).2.2 = [Hook.announce (r.mergeInto s.millis s.job.record)] := by
  cases a with
  | update r =>
    rw [perform_update]
    split
    · next taken => exact .inr ⟨r, taken, rfl, rfl⟩
    · exact .inl ⟨rfl, rfl⟩
  | setStatus st =>
    rw [perform_setStatus]
    split
    · next taken =>
      simp only [Bool.and_eq_true] at taken
      exact .inr ⟨_, taken.2, rfl, rfl⟩
    · exact .inl ⟨rfl, rfl⟩
  -- the three terminal mutators: a running job takes any record asking for a terminal status
  | fail message =>
    rw [perform_fail]
    split
    · next running =>
      exact .inr ⟨_, Job.takes_of_status_isFinished (by simpa using running) rfl, rfl, rfl⟩
    · exact .inl ⟨rfl, rfl⟩
  | complete output =>
    rw [perform_complete]
    split
    · next running =>
      exact .inr ⟨_, Job.takes_of_status_isFinished (by simpa using running) rfl, rfl, rfl⟩
    · exact .inl ⟨rfl, rfl⟩
  | cancel =>
    rw [perform_cancel]
    split
    · next running =>
      exact .inr ⟨_, Job.takes_of_status_isFinished (by simpa using running) rfl, rfl, rfl⟩
    · exact .inl ⟨rfl, rfl⟩
  | attachFuture =>
    left
    unfold perform Job.attachFuture
    by_cases attached : s.job.futureAttached = true <;> simp [attached]
  | await =>
    left
    simp only [perform]
    split <;> simp
  | output | errorMessage | sleep | id | status => exact .inl ⟨rfl, rfl⟩

/-- **What one call can do.** Either the record stays as it was and no hook fires, or the job
was running and the call fires exactly the hook that announces the record it stored. -/
theorem perform_cases (a : Action) :
    ((s.perform a).1.job.record = s.job.record ∧ (s.perform a).2.2 = []) ∨
      (s.job.isFinished = false ∧
        (s.perform a).2.2 = [Hook.announce (s.perform a).1.job.record]) := by
  rcases s.perform_stores a with unchanged | ⟨r, taken, stored, hooks⟩
  · exact .inl unchanged
  · exact .inr ⟨Job.running_of_takes taken, by rw [hooks, stored]⟩

/-- A finished job's record survives every call, and no hook fires. -/
theorem perform_of_finished {a : Action} (finished : s.job.isFinished = true) :
    (s.perform a).1.job.record = s.job.record ∧ (s.perform a).2.2 = [] := by
  rcases s.perform_cases a with unchanged | ⟨running, _⟩
  · exact unchanged
  · simp [finished] at running

/-- Every mutator refuses a finished job: `UpdateData`, `SetStatus`, `Fail` and `Cancel`
answer false, and `CompleteWith` fails with `ErrAlreadyFinished`. -/
theorem refuses_of_finished (finished : s.job.isFinished = true) :
    (∀ r, (s.perform (.update r)).2.1 = .accepted false) ∧
      (∀ st, (s.perform (.setStatus st)).2.1 = .accepted false) ∧
      (∀ message, (s.perform (.fail message)).2.1 = .accepted false) ∧
      (s.perform .cancel).2.1 = .accepted false ∧
      ∀ output, (s.perform (.complete output)).2.1 =
        .failure (some (.alreadyFinished s.job.record.id s.job.record.status)) := by
  refine ⟨fun r => ?_, fun st => ?_, fun message => ?_, ?_, fun output => ?_⟩
  · simp [perform_update, Job.takes_of_isFinished finished]
  · simp [perform_setStatus, Job.takes_of_isFinished finished]
  · simp [perform_fail, finished]
  · simp [perform_cancel, finished]
  · simp [perform_complete, finished]

/-! ## Runs -/

/-- The session after a sequence of calls. -/
def after : JobSession → List Action → JobSession
  | s, [] => s
  | s, a :: rest => (s.perform a).1.after rest

/-- The hooks a sequence of calls fires, in order. -/
def hooksOf : JobSession → List Action → List Hook
  | _, [] => []
  | s, a :: rest => (s.perform a).2.2 ++ (s.perform a).1.hooksOf rest

@[simp] theorem after_nil : s.after [] = s := rfl

@[simp] theorem after_cons (a : Action) (rest : List Action) :
    s.after (a :: rest) = (s.perform a).1.after rest := rfl

@[simp] theorem hooksOf_nil : s.hooksOf [] = [] := rfl

@[simp] theorem hooksOf_cons (a : Action) (rest : List Action) :
    s.hooksOf (a :: rest) = (s.perform a).2.2 ++ (s.perform a).1.hooksOf rest := rfl

theorem after_append (first next : List Action) :
    s.after (first ++ next) = (s.after first).after next := by
  induction first generalizing s with
  | nil => rfl
  | cons a rest ih => exact ih _

theorem hooksOf_append (first next : List Action) :
    s.hooksOf (first ++ next) = s.hooksOf first ++ (s.after first).hooksOf next := by
  induction first generalizing s with
  | nil => rfl
  | cons a rest ih => simp [ih]

/-- **A terminal record is final**: no sequence of calls changes it. -/
theorem after_of_finished (calls : List Action) (finished : s.job.isFinished = true) :
    (s.after calls).job.record = s.job.record := by
  induction calls generalizing s with
  | nil => rfl
  | cons a rest ih =>
    have kept := (s.perform_of_finished finished (a := a)).1
    have stillFinished : (s.perform a).1.job.isFinished = true := by
      simpa [Job.isFinished, kept] using finished
    rw [after_cons, ih _ stillFinished, kept]

/-- A finished job fires no hook, whatever is called on it. -/
theorem hooksOf_of_finished (calls : List Action) (finished : s.job.isFinished = true) :
    s.hooksOf calls = [] := by
  induction calls generalizing s with
  | nil => rfl
  | cons a rest ih =>
    obtain ⟨kept, silent⟩ := s.perform_of_finished finished (a := a)
    have stillFinished : (s.perform a).1.job.isFinished = true := by
      simpa [Job.isFinished, kept] using finished
    rw [hooksOf_cons, silent, ih _ stillFinished, List.append_nil]

/-- Once finished, a job stays finished. -/
theorem after_isFinished (calls : List Action) (finished : s.job.isFinished = true) :
    (s.after calls).job.isFinished = true := by
  simpa [Job.isFinished, s.after_of_finished calls finished] using finished

/-- **The finish hook fires at most once**: exactly once when the run takes the job from
running to terminal, and not at all otherwise, in particular not when the job started
terminal. -/
theorem countFinish_hooksOf (calls : List Action) :
    (s.hooksOf calls).countP Hook.isFinish =
      if !s.job.isFinished && (s.after calls).job.isFinished then 1 else 0 := by
  induction calls generalizing s with
  | nil => cases finished : s.job.isFinished <;> simp [finished]
  | cons a rest ih =>
    rw [hooksOf_cons, List.countP_append, ih, after_cons]
    rcases s.perform_cases a with ⟨kept, silent⟩ | ⟨running, fired⟩
    · have same : (s.perform a).1.job.isFinished = s.job.isFinished := by
        simp [Job.isFinished, kept]
      simp [silent, same]
    · rw [fired]
      by_cases stored : (s.perform a).1.job.isFinished = true
      · have isFinish : (Hook.announce (s.perform a).1.job.record).isFinish = true := by
          simpa [Job.isFinished] using stored
        simp [isFinish, stored, running, after_isFinished _ rest stored]
      · have isUpdate : (Hook.announce (s.perform a).1.job.record).isFinish = false := by
          simpa [Job.isFinished] using stored
        simp [isUpdate, stored, running]

/-- **No hook fires after the finish hook.** -/
theorem hooksOf_after_finish (calls : List Action) {before after : List Hook} {r : Record}
    (split : s.hooksOf calls = before ++ .finish r :: after) : after = [] := by
  induction calls generalizing s before with
  | nil => simp at split
  | cons a rest ih =>
    rw [hooksOf_cons] at split
    rcases s.perform_cases a with ⟨_, silent⟩ | ⟨_, fired⟩
    · rw [silent, List.nil_append] at split
      exact ih _ split
    · rw [fired] at split
      cases before with
      | nil =>
        simp only [List.singleton_append, List.nil_append, List.cons.injEq] at split
        obtain ⟨announced, rest_eq⟩ := split
        have finished : (s.perform a).1.job.isFinished = true := by
          rw [Job.isFinished, ← Hook.isFinish_announce, announced]
          rfl
        rw [hooksOf_of_finished _ rest finished] at rest_eq
        exact rest_eq.symm
      | cons first before =>
        simp only [List.cons_append, List.cons.injEq] at split
        exact ih _ split.2

end JobSession

/-! ## The lifecycle contract -/

open JobSession in
/-- **The job lifecycle.** A job starts terminal exactly when the record it was created from
is terminal. A terminal record is final: no sequence of calls changes it or fires a hook, and
every mutator refuses. Each boolean answer says whether the call was applied, which is exactly
when the job rewrites its record, and every applied call fires the one hook that announces the
record stored. Over any run the finish hook fires once if the run takes the job from running
to terminal and never otherwise, and nothing fires after it. -/
theorem job_lifecycle_contract :
    (∀ now r, (Job.create now r).isFinished = r.status.isFinished) ∧
    (∀ (s : JobSession) calls, s.job.isFinished = true →
      (s.after calls).job.record = s.job.record ∧ s.hooksOf calls = []) ∧
    (∀ s : JobSession, s.job.isFinished = true →
      (∀ r, (s.perform (.update r)).2.1 = .accepted false) ∧
      (∀ st, (s.perform (.setStatus st)).2.1 = .accepted false) ∧
      (∀ message, (s.perform (.fail message)).2.1 = .accepted false) ∧
      (s.perform .cancel).2.1 = .accepted false ∧
      ∀ output, (s.perform (.complete output)).2.1 =
        .failure (some (.alreadyFinished s.job.record.id s.job.record.status))) ∧
    (∀ (s : JobSession) r, s.perform (.update r) =
      if s.job.takes r then
        ({ s with job := { s.job with record := r.mergeInto s.millis s.job.record } },
          .accepted true, [Hook.announce (r.mergeInto s.millis s.job.record)])
      else (s, .accepted false, [])) ∧
    (∀ (s : JobSession) st, s.perform (.setStatus st) =
      if !st.isFinished && !s.job.isFinished && (st.orCurrent s.job.record.status).isValid then
        let r := ({ s.job.record with status := st, updated := 0 } : Record).mergeInto s.millis
          s.job.record
        ({ s with job := { s.job with record := r } }, .accepted true, [Hook.announce r])
      else (s, .accepted false, [])) ∧
    (∀ (s : JobSession) message, s.perform (.fail message) =
      if !s.job.isFinished then
        let r := ({ s.job.record with status := .failed, error := message, updated := 0 } :
          Record).mergeInto s.millis s.job.record
        ({ s with job := { s.job with record := r } }, .accepted true, [Hook.announce r])
      else (s, .accepted false, [])) ∧
    (∀ s : JobSession, s.perform .cancel =
      if !s.job.isFinished then
        let r := ({ s.job.record with status := .cancelled, updated := 0 } : Record).mergeInto
          s.millis s.job.record
        ({ s with job := { s.job with record := r, cancelSignalled := true } }, .accepted true,
          [Hook.announce r])
      else (s, .accepted false, [])) ∧
    (∀ (s : JobSession) a,
      ((s.perform a).1.job.record = s.job.record ∧ (s.perform a).2.2 = []) ∨
        (s.job.isFinished = false ∧
          (s.perform a).2.2 = [Hook.announce (s.perform a).1.job.record])) ∧
    (∀ (s : JobSession) calls, (s.hooksOf calls).countP Hook.isFinish =
      if !s.job.isFinished && (s.after calls).job.isFinished then 1 else 0) ∧
    (∀ (s : JobSession) calls (before after : List Hook) (r : Record),
      s.hooksOf calls = before ++ .finish r :: after → after = []) := by
  refine ⟨Job.create_isFinished, fun s calls finished => ?_, fun s finished =>
    s.refuses_of_finished finished, perform_update, fun s st => ?_, perform_fail, perform_cancel,
    perform_cases, countFinish_hooksOf, fun s calls _ _ _ split => s.hooksOf_after_finish calls split⟩
  · exact ⟨s.after_of_finished calls finished, s.hooksOf_of_finished calls finished⟩
  · rw [perform_setStatus, takes_setStatus, Bool.and_assoc]

/-- Setting a running job to the status it already has, within the millisecond it was created
in, is accepted, and the record it stores is the one it held: an accepted call need not change
the record. -/
theorem setStatus_accepted_without_change :
    let s : JobSession := ⟨Job.create 0 { id := "j1" }, 0⟩
    (s.perform (.setStatus .pending)).2.1 = .accepted true ∧
      (s.perform (.setStatus .pending)).1.job.record = s.job.record :=
  ⟨rfl, rfl⟩

end JobEngine

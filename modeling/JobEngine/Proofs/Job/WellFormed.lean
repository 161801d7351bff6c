import JobEngine.Proofs.Job.Lifecycle
import JobEngine.World.Remote

/-!
# Well-formed job records

Every record a job stores, and every record it hands to a hook, is the **merge** of some update
into the record before it (`Record.mergeInto`), and a merge is normalised, keeps the job's id
and creation time, and keeps a non-empty operation, input and name. So along every run:

* the stored record is normalised: an output only when `COMPLETE`, an error text only for a
  failure;
* the records the hooks carry have one of the ten statuses, since a job takes an update only
  when it asks for one of them;
* cancellation is signalled only together with the move to `CANCELLED`.

The status the job *holds* is one of the ten as well, with one exception: a job created from a
record whose status is a name that is no status keeps that name until the first call it takes.
Creation does not look at the status beyond filling in an empty one, and a copy of a remote
job is created straight from the remote venue's reply, so such a copy holds whatever status
the remote venue sent.

## Main Definitions

* `Record.Keeps` — what a later record of a job keeps of an earlier one.
* `Job.Sound` — the invariant of a job created with record `r₀`.

## Main Statements

* `JobSession.sound_after` — every run keeps `Job.Sound`.
* `JobSession.hooks_after` — every hook of a run carries a normalised record with one of the
  ten statuses, which keeps what the job's record held before the run.
* `job_record_wellFormed` — the whole contract for a job created from any record, with the
  exact condition under which it holds an unknown status, and the same condition for the copy
  of a remote job.
-/

namespace JobEngine

namespace Record

/-- Normalising twice changes nothing. -/
@[simp] theorem normalize_normalize (r : Record) : r.normalize.normalize = r.normalize := by
  -- both fields are kept or cleared by the same test on the same status
  simp only [normalize, Record.mk.injEq, true_and, and_true]
  constructor <;> split <;> simp_all

/-- **What a later record of a job keeps of an earlier record `r`**: the id and the creation
time, and an operation, input and name that were not empty. -/
structure Keeps (r r' : Record) : Prop where
  id : r'.id = r.id
  created : r'.created = r.created
  op : r.op ≠ "" → r'.op ≠ ""
  input : r.input.isNull = false → r'.input.isNull = false
  name : r.name ≠ "" → r'.name ≠ ""

theorem Keeps.refl (r : Record) : r.Keeps r :=
  ⟨rfl, rfl, fun kept => kept, fun kept => kept, fun kept => kept⟩

theorem Keeps.trans {r₁ r₂ r₃ : Record} (first : r₁.Keeps r₂) (second : r₂.Keeps r₃) :
    r₁.Keeps r₃ where
  id := second.id.trans first.id
  created := second.created.trans first.created
  op := second.op ∘ first.op
  input := second.input ∘ first.input
  name := second.name ∘ first.name

/-- A merge is normalised. -/
theorem mergeInto_normal (now : Int) (r cur : Record) :
    (r.mergeInto now cur).normalize = r.mergeInto now cur :=
  normalize_normalize _

/-- A merge keeps what the record before it held. -/
theorem keeps_mergeInto (now : Int) (r cur : Record) : cur.Keeps (r.mergeInto now cur) where
  id := rfl
  created := rfl
  -- each of the three is the update's own value unless that is empty
  op nonEmpty := by
    dsimp only [mergeInto, normalize]
    split
    · exact nonEmpty
    · next given => simpa using given
  input nonNull := by
    dsimp only [mergeInto, normalize]
    split
    · exact nonNull
    · next given => simpa using given
  name nonEmpty := by
    dsimp only [mergeInto, normalize]
    split
    · exact nonEmpty
    · next given => simpa using given

end Record

namespace Job

/-- A merge the job takes has one of the ten statuses. -/
theorem takes_isValid {j : Job} {r : Record} (taken : j.takes r = true) (now : Int) :
    (r.mergeInto now j.record).status.isValid = true := by
  simp only [takes, Bool.and_eq_true] at taken
  simpa using taken.2

/-- **The invariant of a job created with record `r₀`.** Its record is normalised; its status
is one of the ten unless it still holds `r₀`; cancellation was signalled only if it is
`CANCELLED`. -/
structure Sound (r₀ : Record) (j : Job) : Prop where
  normal : j.record.normalize = j.record
  known : j.record.status.isValid = true ∨ j.record = r₀
  signalled : j.cancelSignalled = true → j.record.status = .cancelled

/-- A job starts sound with respect to its own first record. -/
theorem sound_create (now : Int) (r : Record) : (create now r).Sound (create now r).record where
  normal := Record.normalize_normalize _
  known := .inr rfl
  signalled := by simp [create]

/-- **The status a new job holds**: one of the ten exactly when the record it is created from
has one of them or none at all. -/
theorem create_status_isValid (now : Int) (r : Record) :
    (create now r).record.status.isValid = true ↔
      r.status = .unknown "" ∨ r.status.isValid = true := by
  by_cases empty : r.status = .unknown ""
  · simp [create, Record.normalize, empty, Status.isValid]
  · simp [create, Record.normalize, empty]

end Job

namespace JobSession

variable (s : JobSession)

/-- Only `Cancel` signals cancellation, and only to a running job. -/
theorem cancelSignalled_perform (a : Action) :
    (s.perform a).1.job.cancelSignalled =
      (s.job.cancelSignalled || (a matches .cancel && !s.job.isFinished)) := by
  cases a with
  | update r => rw [perform_update]; split <;> simp
  | setStatus st => rw [perform_setStatus]; split <;> simp
  | fail message => rw [perform_fail]; split <;> simp
  | complete output => rw [perform_complete]; split <;> simp
  | cancel => rw [perform_cancel]; split <;> simp_all
  | attachFuture =>
    unfold perform Job.attachFuture
    by_cases attached : s.job.futureAttached = true <;> simp [attached]
  | await => simp only [perform]; split <;> simp
  | output | errorMessage | sleep | id | status => simp [perform]

/-- The record a call stores keeps what the record before it held. -/
theorem keeps_perform (a : Action) : s.job.record.Keeps (s.perform a).1.job.record := by
  rcases s.perform_stores a with ⟨unchanged, -⟩ | ⟨r, -, stored, -⟩
  · rw [unchanged]
    exact Record.Keeps.refl _
  · rw [stored]
    exact Record.keeps_mergeInto _ _ _

/-- **The hooks of one call** carry a normalised record with one of the ten statuses, which
keeps what the job's record held. -/
theorem hooks_perform (a : Action) {h : Hook} (fired : h ∈ (s.perform a).2.2) :
    h.record.normalize = h.record ∧ h.record.status.isValid = true ∧
      s.job.record.Keeps h.record := by
  rcases s.perform_stores a with ⟨-, none⟩ | ⟨r, taken, -, hooks⟩
  · simp [none] at fired
  · simp only [hooks, List.mem_singleton] at fired
    subst fired
    simp only [Hook.record_announce]
    exact ⟨Record.mergeInto_normal _ _ _, Job.takes_isValid taken _,
      Record.keeps_mergeInto _ _ _⟩

/-- A signalled job is `CANCELLED` after any call: a job signalled before is finished and keeps
its record, and a `Cancel` that signals stores `CANCELLED`. -/
theorem signalled_perform {r₀ : Record} (a : Action) (sound : s.job.Sound r₀)
    (signalled : (s.perform a).1.job.cancelSignalled = true) :
    (s.perform a).1.job.record.status = .cancelled := by
  rw [cancelSignalled_perform] at signalled
  by_cases before : s.job.cancelSignalled = true
  · have finished : s.job.isFinished = true := by
      simp [Job.isFinished, Record.isFinished, sound.signalled before, Status.isFinished]
    rw [(s.perform_of_finished finished).1]
    exact sound.signalled before
  · cases a with
    | cancel =>
      simp only [before, Bool.false_or, Bool.and_eq_true, Bool.not_eq_true'] at signalled
      rw [perform_cancel]
      simp [signalled.2, Status.orCurrent]
    | _ => simp [before] at signalled

/-- **One call keeps the invariant.** -/
theorem sound_perform {r₀ : Record} (a : Action) (sound : s.job.Sound r₀) :
    (s.perform a).1.job.Sound r₀ := by
  have signalled := s.signalled_perform a sound
  rcases s.perform_stores a with ⟨unchanged, -⟩ | ⟨r, taken, stored, -⟩
  · exact ⟨unchanged ▸ sound.normal, unchanged ▸ sound.known, signalled⟩
  · exact ⟨stored ▸ Record.mergeInto_normal _ _ _, .inl (stored ▸ Job.takes_isValid taken _),
      signalled⟩

/-! ## Runs -/

/-- **Every run keeps the invariant.** -/
theorem sound_after {r₀ : Record} (calls : List Action) (sound : s.job.Sound r₀) :
    (s.after calls).job.Sound r₀ := by
  -- induction on the calls, the invariant carried from each session to the next
  induction calls generalizing s with
  | nil => exact sound
  | cons a rest ih => exact ih _ (s.sound_perform a sound)

/-- Every record a run leaves keeps what the record before the run held. -/
theorem keeps_after (calls : List Action) : s.job.record.Keeps (s.after calls).job.record := by
  induction calls generalizing s with
  | nil => exact Record.Keeps.refl _
  | cons a rest ih => exact (s.keeps_perform a).trans (ih _)

/-- **The hooks of a run** carry normalised records with one of the ten statuses, which keep
what the job's record held before the run. -/
theorem hooks_after (calls : List Action) {h : Hook} (fired : h ∈ s.hooksOf calls) :
    h.record.normalize = h.record ∧ h.record.status.isValid = true ∧
      s.job.record.Keeps h.record := by
  induction calls generalizing s with
  | nil => simp at fired
  | cons a rest ih =>
    rcases List.mem_append.mp fired with now | later
    · exact s.hooks_perform a now
    · obtain ⟨normal, valid, keeps⟩ := ih _ later
      exact ⟨normal, valid, (s.keeps_perform a).trans keeps⟩

end JobSession

namespace World

/-- A copy of a remote job is a new cell holding a job created from the reply's record. -/
theorem newCopy_run (rec : Record) (keeper : Keeper) (w : World) :
    (newCopy rec keeper).run w =
      (w.cells.size, { w with cells := w.cells.push { job := Job.create w.millis rec, keeper } }) :=
  rfl

/-- A copy of a remote job holds the record its reply gave, as a new job takes it. -/
theorem newCopy_record (rec : Record) (keeper : Keeper) (w : World) :
    ((newCopy rec keeper).run w).2.recordOf ((newCopy rec keeper).run w).1 =
      (Job.create w.millis rec).record := by
  rw [newCopy_run]
  simp [recordOf, job?]

end World

/-- **Well-formed job records.** For a job created from any record `r` and any sequence of
calls: the record it holds is normalised; its status is one of the ten, unless it still holds
its first record, whose status is one of the ten exactly when `r`'s is or is empty; every hook
carries a normalised record with one of the ten statuses; every record of the run, stored or
carried by a hook, keeps the id, the creation time and the non-empty operation, input and name
of every record before it; and
cancellation was signalled only if the job is `CANCELLED`. A copy of a remote job holds an
unknown status exactly when the remote venue's reply named one. -/
theorem job_record_wellFormed (created now : Int) (r : Record) (calls : List JobSession.Action) :
    let s₀ : JobSession := ⟨Job.create created r, now⟩
    let s := s₀.after calls
    s.job.record.normalize = s.job.record ∧
      (s.job.record.status.isValid = true ∨ s.job.record = s₀.job.record) ∧
      (s₀.job.record.status.isValid = true ↔
        r.status = .unknown "" ∨ r.status.isValid = true) ∧
      (∀ h ∈ s₀.hooksOf calls, h.record.normalize = h.record ∧ h.record.status.isValid = true ∧
        s₀.job.record.Keeps h.record) ∧
      (∀ k, (s₀.after (calls.take k)).job.record.Keeps s.job.record) ∧
      (s.job.cancelSignalled = true → s.job.record.status = .cancelled) ∧
      (∀ (w : World) (keeper : Keeper),
        let made := (World.newCopy r keeper).run w
        (made.2.recordOf made.1).status.isValid = true ↔
          r.status = .unknown "" ∨ r.status.isValid = true) := by
  intro s₀ s
  have sound : s.job.Sound s₀.job.record := s₀.sound_after calls (Job.sound_create created r)
  refine ⟨sound.normal, sound.known, Job.create_status_isValid created r,
    fun h fired => s₀.hooks_after calls fired, fun k => ?_, sound.signalled, fun w keeper => ?_⟩
  · -- the run splits at `k` into the calls before and the calls after
    have split : s = (s₀.after (calls.take k)).after (calls.drop k) := by
      rw [← JobSession.after_append, List.take_append_drop]
    rw [split]
    exact JobSession.keeps_after _ _
  · dsimp only
    rw [World.newCopy_record]
    exact Job.create_status_isValid _ r

end JobEngine

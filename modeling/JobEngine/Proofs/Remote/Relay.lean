import JobEngine.Proofs.Remote.Following
import JobEngine.Proofs.Remote.Mirror

/-!
# One step of a relay

A relay runs a forwarded job: its first step submits the operation to the peer venue; if the
peer takes it, the step marks the job started and makes a local *copy* of the remote job that
follows the job, and either the copy is finished already and passes its end on, or a follower
takes its first round. Each later step is one round of following from a sleep. Whenever
following stops, the relay concludes: a remote job that ended passed its end on through the
copy; a scope that ended cancels the remote job; anything else fails the job, naming the peer.

This module says once what a step can do, as `Relay.Turn`, and proves what every step keeps:

* every step is one of `Relay.Turn`, with the calls it makes to the peer;
* a step keeps the clock, the peers and the followers;
* a step only advances the forwarded job: it keeps the job's identity and never moves it back
  to `PENDING`.

## Main Definitions

* `Relay.Call` — a call of a relay to its peer, with its answer.
* `Relay.Concludes` — how a relay ends once following stopped.
* `Relay.Follows` — a round of following and what the relay makes of it.
* `Relay.Turn` — what one step of a relay can do.

## Main Statements

* `Relay.turn_cases` — every step is one of `Turn`.
* `Relay.Turn.steady` — a step keeps the clock, the peers and the followers.
* `Relay.Turn.advances` — a step advances the forwarded job.

## Design Notes

A step's calls carry the answers the peer gave, read off the same runs of `submitRemote` and
`pollRemote` that the step made; they are what later statements about cancellation count.
-/

namespace JobEngine

/-- Whether a fault reports how the remote job itself ended, failed or cancelled, rather than
why following it stopped. -/
def Fault.reportsEnd : Fault → Bool
  | .jobFailed .. | .jobCancelled => true
  | _ => false

/-- A status that is finished is neither `PENDING` nor empty. -/
theorem Status.open_of_isFinished {st : Status} (finished : st.isFinished = true) :
    st ≠ .pending ∧ st ≠ .unknown "" :=
  ⟨by rintro rfl; simp [Status.isFinished] at finished, Status.ne_empty_of_isFinished finished⟩

namespace World

theorem pollDelays_state (l : Nat) (w : World) : ((pollDelays l).run w).run.2 = w := by
  simp only [pollDelays, StateT.run_bind, Id.run_bind, StateT.run_get]
  split <;> rfl

theorem newCopy_index (rec : Record) (keeper : Keeper) (w : World) :
    ((newCopy rec keeper).run w).run.1 = w.cells.size :=
  rfl

theorem setStatus_size (c : Nat) (st : Status) (w : World) :
    ((setStatus c st).run w).run.2.cells.size = w.cells.size :=
  run_of_spec (change_size c _ w.cells.size) rfl

end World

namespace Relay

open World

/-- The name of a relay's peer venue in `w`. -/
def peerName (x : Relay) (w : World) : String := ((w.links[x.link]?).map (·.client.name)).getD ""

/-- What a forwarded job fails with when forwarding stops with `f`: the peer's name, then why. -/
def failure (x : Relay) (w : World) (f : Fault) : String :=
  "remote venue " ++ x.peerName w ++ ": " ++ f.message

/-- The follower a relay starts on the copy in cell `copy`: the relay's link and scope, and the
link's poll delays. -/
def tracker (x : Relay) (copy : Nat) (w : World) : Tracking :=
  { link := x.link, copy, scope := x.scope, delays := ((pollDelays x.link).run w).run.1 }

/-- The relay following the remote job `id` with the follower `t`. -/
def following (x : Relay) (t : Tracking) (id : String) : Relay := { x with phase := .tracking t id }

theorem step_refused {x : Relay} (submitting : x.phase = .submit) (r : Resume) {w w₁ : World}
    {f : Fault} (submitted : ((submitRemote x.link x.operation x.input).run w).run = (.error f, w₁)) :
    ((x.step r).run w).run = (.exit, ((failJob x.cell (x.failure w₁ f)).run w₁).run.2) := by
  simp only [step, submitting, StateT.run_bind, Id.run_bind, submitted]
  rfl

theorem step_accepted {x : Relay} (submitting : x.phase = .submit) (r : Resume) {w w₁ : World}
    {rec : Record} (submitted : ((submitRemote x.link x.operation x.input).run w).run = (.ok rec, w₁)) :
    let w₂ := ((setStatus x.cell .started).run w₁).run.2
    let w₃ := ((newCopy rec (.follower x.cell)).run w₂).run.2
    let t := x.tracker w₂.cells.size w₃
    ((x.step r).run w).run =
      if w₃.isFinished w₂.cells.size then
        (.exit, ((updateJob x.cell (w₃.recordOf w₂.cells.size).passOn).run w₃).run.2)
      else ((x.follow rec.id (t.advance.run w₃).run.1).run (t.advance.run w₃).run.2).run := by
  dsimp only
  simp only [step, submitting, StateT.run_bind, Id.run_bind, submitted, StateT.run_get, Id.run_pure,
    newCopy_index]
  split
  · next finished =>
    simp only [finished, if_true]
    rfl
  · next running =>
    simp only [running, if_false, Bool.false_eq_true, StateT.run_bind, Id.run_bind, pollDelays_state]
    rfl

theorem step_tracking_run {x : Relay} {t : Tracking} {id : String}
    (tracking : x.phase = .tracking t id) (r : Resume) (w : World) :
    ((x.step r).run w).run =
      let (s, w₁) := ((t.resume r).run w).run
      ((x.follow id s).run w₁).run := by
  simp only [step, tracking]
  rfl

theorem follow_sleep_run (x : Relay) (id : String) (t : Tracking) (due : Int) (w : World) :
    ((x.follow id (.sleep t due)).run w).run = (.wait (.relay (x.following t id)) (t.waits due), w) :=
  rfl

theorem follow_done_run (x : Relay) (id : String) (e : Option Fault) (w : World) :
    ((x.follow id (.done e)).run w).run = ((x.conclude id e).run w).run :=
  rfl

/-- A call of a relay to its peer: the submission and what the peer answered, a poll of the
remote job and its answer, or the cancellation of the remote job `id`. -/
inductive Call where
  | submit (answer : Except Fault Record)
  | poll (answer : Except Fault Record)
  | cancel (id : String)

/-- Whether a call leaves nothing at the peer to cancel: the peer refused the job, or answered
with a record that is finished. -/
def Call.settles : Call → Bool
  | .submit (.error _) => true
  | .submit (.ok rec) | .poll (.ok rec) => rec.isFinished
  | _ => false

/-- **How a relay ends once following stopped with `e`**, from the world `w` that following
left: the calls it makes and the world after. -/
inductive Concludes (x : Relay) (id : String) (w : World) : Option Fault → List Call → World → Prop
  /-- The copy completed, or the remote job failed or was cancelled: the copy passed that on. -/
  | passed {e : Option Fault} (reported : ∀ f, e = some f → f.reportsEnd = true) :
      Concludes x id w e [] w
  /-- Following stopped for another reason once the scope ended: the remote job is cancelled. -/
  | cancels {f : Fault} {w' : World} (other : f.reportsEnd = false)
      (ended : (w.ending? x.scope).isSome = true)
      (cancelled : ((cancelRemote x.link id).run w).run.2 = w') :
      Concludes x id w (some f) [.cancel id] w'
  /-- Following stopped for another reason while the scope runs: the job fails with it. -/
  | fails {f : Fault} {w' : World} (other : f.reportsEnd = false) (live : w.ending? x.scope = none)
      (failed : ((failJob x.cell (x.failure w f)).run w).run.2 = w') :
      Concludes x id w (some f) [] w'

/-- **Every end of a relay is one of `Concludes`.** -/
theorem conclude_cases {x : Relay} {id : String} {e : Option Fault} {w : World} {n : Next}
    {w' : World} (ran : ((x.conclude id e).run w).run = (n, w')) :
    n = .exit ∧ ∃ calls, x.Concludes id w e calls w' := by
  unfold conclude at ran
  rcases e with _ | f
  · obtain ⟨rfl, rfl⟩ := Prod.mk.inj ran
    exact ⟨rfl, [], .passed (by simp)⟩
  · simp only at ran
    split at ran
    · obtain ⟨rfl, rfl⟩ := Prod.mk.inj ran
      exact ⟨rfl, [], .passed (by simp [Fault.reportsEnd])⟩
    · obtain ⟨rfl, rfl⟩ := Prod.mk.inj ran
      exact ⟨rfl, [], .passed (by simp [Fault.reportsEnd])⟩
    · next notFailed notCancelled =>
      have other : f.reportsEnd = false := by
        cases f <;> simp_all [Fault.reportsEnd]
      simp only [StateT.run_bind, Id.run_bind, StateT.run_get] at ran
      split at ran
      · next ended =>
        obtain ⟨rfl, rfl⟩ := Prod.mk.inj ran
        exact ⟨rfl, _, .cancels other ended rfl⟩
      · next live =>
        obtain ⟨rfl, rfl⟩ := Prod.mk.inj ran
        exact ⟨rfl, _, .fails other (by simpa using live) rfl⟩

end Relay

namespace Tracking

open World

/-- The polls a round makes from `w`, each with what it answered. -/
def polls (t : Tracking) (w : World) (bs : List Beat) : List Relay.Call :=
  bs.map fun _ => .poll (t.fetchIn w).1


theorem fetchIn_steady {t : Tracking} {w : World} (scripted : w.Scripted t.link) :
    Steady w (t.fetchIn w).2 :=
  (pollRemote_scripted scripted _).2

/-- What a round does after its poll keeps the clock, the peers and the followers. -/
theorem AfterPoll.steady {t : Tracking} {id : String} {w₁ : World} {res : Except Fault Record}
    {s : TrackStep} {w' : World} (after : t.AfterPoll id w₁ res s w') : Steady w₁ w' := by
  have updated := fun rec => run_of_spec (updateJob_steady w₁ t.copy rec) (Steady.refl w₁)
  have cancelled := fun w => run_of_spec (cancelJob_steady w t.copy) (Steady.refl w)
  cases after with
  | notFound | failed | unknownStatus => exact Steady.refl w₁
  | interrupted _ cancelledHere => exact cancelledHere ▸ cancelled w₁
  | completed _ applied _ concluded =>
    rw [← concluded, ← applied]
    exact (updated _).trans (run_of_spec (finalError_steady _ t.copy) (Steady.refl _))
  | interruptedAfter _ applied _ _ cancelledHere =>
    rw [← cancelledHere, ← applied]
    exact (updated _).trans (cancelled _)
  | sleeps _ applied => exact applied ▸ updated _

/-- **A round of following keeps the clock, the peers and the followers**, when its peer answers
from a script. -/
theorem Round.steady {t : Tracking} {r : Resume} {w w' : World} {bs : List Beat} {s : TrackStep}
    (round : t.Round r w bs s w') (scripted : w.Scripted t.link) : Steady w w' := by
  cases round with
  | woken _ _ cancelled => exact cancelled ▸ run_of_spec (cancelJob_steady w t.copy) (Steady.refl w)
  | finished _ _ concluded =>
    exact concluded ▸ run_of_spec (finalError_steady w t.copy) (Steady.refl w)
  | polled _ _ fetched after =>
    have polled := fetchIn_steady (t := t) scripted
    rw [fetched] at polled
    exact polled.trans after.steady

/-- What a round does after its poll advances every job but the copy. -/
theorem AfterPoll.advances {t : Tracking} {id : String} {w₁ : World} {res : Except Fault Record}
    {s : TrackStep} {w' : World} (after : t.AfterPoll id w₁ res s w') {L : Nat} (apart : t.copy ≠ L) :
    (w₁.recordOf L).Advances (w'.recordOf L) := by
  cases after with
  | notFound | failed | unknownStatus => rfl
  | interrupted _ cancelled => exact cancelled ▸ cancelJob_advances apart w₁
  | completed _ applied _ concluded =>
    rw [← concluded, (finalError_run t.copy _).2.recordOf, ← applied]
    exact updateJob_advances apart _ w₁
  | interruptedAfter _ applied _ _ cancelled =>
    rw [← cancelled, ← applied]
    exact (updateJob_advances apart _ w₁).trans (cancelJob_advances apart _)
  | sleeps _ applied => exact applied ▸ updateJob_advances apart _ w₁

/-- **A round of following advances every job but its copy**: the copy passes on what it
takes. -/
theorem Round.advances {t : Tracking} {r : Resume} {w w' : World} {bs : List Beat} {s : TrackStep}
    (round : t.Round r w bs s w') {L : Nat} (apart : t.copy ≠ L) :
    (w.recordOf L).Advances (w'.recordOf L) := by
  cases round with
  | woken _ _ cancelled => exact cancelled ▸ cancelJob_advances apart w
  | finished _ _ concluded => rw [← concluded, (finalError_run t.copy _).2.recordOf]
  | polled _ _ fetched after =>
    have polled := (t.fetchIn_sameJobs w).1
    rw [fetched] at polled
    rw [← polled.recordOf L]
    exact after.advances apart

end Tracking

namespace Relay

open World

/-- **A round of following, and what the relay makes of it**: a round that sleeps leaves the
relay waiting on its alarm and its scope; one that ends following concludes. -/
inductive Follows (x : Relay) (id : String) (t : Tracking) (r : Resume) (w : World) :
    List Call → Next → World → Prop
  | sleeps {bs : List Beat} {t' : Tracking} {due : Int} {w' : World}
      (round : t.Round r w bs (.sleep t' due) w') :
      Follows x id t r w (t.polls w bs) (.wait (.relay (x.following t' id)) (t'.waits due)) w'
  | ends {bs : List Beat} {e : Option Fault} {w₁ w' : World} {calls : List Call}
      (round : t.Round r w bs (.done e) w₁) (concludes : x.Concludes id w₁ e calls w') :
      Follows x id t r w (t.polls w bs ++ calls) .exit w'

theorem follows_of_run {x : Relay} {id : String} {t : Tracking} {r : Resume} {w w₁ : World}
    {s : TrackStep} {n : Next} {w' : World} (round : ((t.round r).run w).run = (s, w₁))
    (ran : ((x.follow id s).run w₁).run = (n, w')) : ∃ calls, x.Follows id t r w calls n w' := by
  obtain ⟨bs, round⟩ := Tracking.round_cases round
  cases s with
  | sleep t' due =>
    rw [follow_sleep_run] at ran
    obtain ⟨rfl, rfl⟩ := Prod.mk.inj ran
    exact ⟨_, .sleeps round⟩
  | done e =>
    rw [follow_done_run] at ran
    obtain ⟨rfl, calls, concludes⟩ := conclude_cases ran
    exact ⟨_, .ends round concludes⟩

/-- **What one step of a relay can do**, from the world `w` it starts in: the calls it makes to
its peer, what it gives the scheduler, and the world after. -/
inductive Turn (x : Relay) (r : Resume) (w : World) : List Call → Next → World → Prop
  /-- The peer refused the submission: the job fails with why. -/
  | refused {f : Fault} {w₁ w' : World} (submitting : x.phase = .submit)
      (submitted : ((submitRemote x.link x.operation x.input).run w).run = (.error f, w₁))
      (failed : ((failJob x.cell (x.failure w₁ f)).run w₁).run.2 = w') :
      Turn x r w [.submit (.error f)] .exit w'
  /-- The peer took the job, and its copy is finished from the start: the job takes its status,
  output and error. -/
  | settled {rec : Record} {w₁ w₂ w₃ w' : World} (submitting : x.phase = .submit)
      (submitted : ((submitRemote x.link x.operation x.input).run w).run = (.ok rec, w₁))
      (marked : ((setStatus x.cell .started).run w₁).run.2 = w₂)
      (copied : ((newCopy rec (.follower x.cell)).run w₂).run.2 = w₃)
      (finished : w₃.isFinished w₂.cells.size = true)
      (passed : ((updateJob x.cell (w₃.recordOf w₂.cells.size).passOn).run w₃).run.2 = w') :
      Turn x r w [.submit (.ok rec)] .exit w'
  /-- The peer took the job: the job is marked started, and a new copy follows the remote job
  from its first round on. -/
  | tracked {rec : Record} {w₁ w₂ w₃ : World} {calls : List Call} {n : Next} {w' : World}
      (submitting : x.phase = .submit)
      (submitted : ((submitRemote x.link x.operation x.input).run w).run = (.ok rec, w₁))
      (marked : ((setStatus x.cell .started).run w₁).run.2 = w₂)
      (copied : ((newCopy rec (.follower x.cell)).run w₂).run.2 = w₃)
      (running : w₃.isFinished w₂.cells.size = false)
      (follows : x.Follows rec.id (x.tracker w₂.cells.size w₃) r w₃ calls n w') :
      Turn x r w (.submit (.ok rec) :: calls) n w'
  /-- A relay that follows its remote job goes on from a sleep. -/
  | resumed {t : Tracking} {id : String} {calls : List Call} {n : Next} {w' : World}
      (tracking : x.phase = .tracking t id) (asleep : t.sleeping = true)
      (follows : x.Follows id t r w calls n w') :
      Turn x r w calls n w'

/-- **Every step of a relay is one of `Turn`**, for a relay whose follower, if it has one, is
asleep. -/
theorem turn_cases {x : Relay} {r : Resume} {w : World} {n : Next} {w' : World}
    (asleep : ∀ t id, x.phase = .tracking t id → t.sleeping = true)
    (ran : ((x.step r).run w).run = (n, w')) : ∃ calls, x.Turn r w calls n w' := by
  cases phase : x.phase with
  | submit =>
    cases submitted : ((submitRemote x.link x.operation x.input).run w).run with
    | mk res w₁ =>
      cases res with
      | error f =>
        rw [step_refused phase r submitted] at ran
        obtain ⟨rfl, rfl⟩ := Prod.mk.inj ran
        exact ⟨_, .refused phase submitted rfl⟩
      | ok rec =>
        rw [step_accepted phase r submitted] at ran
        generalize marked : ((setStatus x.cell .started).run w₁).run.2 = w₂ at ran
        generalize copied : ((newCopy rec (.follower x.cell)).run w₂).run.2 = w₃ at ran
        split at ran
        · next finished =>
          obtain ⟨rfl, rfl⟩ := Prod.mk.inj ran
          exact ⟨_, .settled phase submitted marked copied finished rfl⟩
        · next running =>
          -- a new follower is not asleep: its first round fetches at once
          have first := Tracking.round_due (t := x.tracker w₂.cells.size w₃) (r := r) (.inl rfl) w₃
          obtain ⟨calls, follows⟩ := follows_of_run (first.trans rfl) ran
          exact ⟨_, .tracked phase submitted marked copied (by simpa using running) follows⟩
  | tracking t id =>
    rw [step_tracking_run phase] at ran
    have woken := asleep t id phase
    have round : ((t.round r).run w).run = ((t.resume r).run w).run := by
      simp [Tracking.round, woken]
    obtain ⟨calls, follows⟩ := follows_of_run (round.trans rfl) ran
    exact ⟨calls, .resumed phase woken follows⟩

/-! ## What a step keeps -/

theorem submitted_frames {x : Relay} {w w₁ : World} {res : Except Fault Record}
    (scripted : w.Scripted x.link)
    (submitted : ((submitRemote x.link x.operation x.input).run w).run = (res, w₁)) :
    SameJobs w w₁ ∧ Steady w w₁ := by
  have sent := submitRemote_scripted scripted x.operation x.input
  rw [submitted] at sent
  exact sent

theorem Concludes.steady {x : Relay} {id : String} {w : World} {e : Option Fault}
    {calls : List Call} {w' : World} (concludes : x.Concludes id w e calls w')
    (scripted : w.Scripted x.link) : Steady w w' := by
  cases concludes with
  | passed => exact Steady.refl w
  | cancels _ _ cancelled => exact cancelled ▸ (cancelRemote_scripted scripted id).2
  | fails _ _ failed => exact failed ▸ run_of_spec (failJob_steady w x.cell _) (Steady.refl w)

theorem Concludes.advances {x : Relay} {id : String} {w : World} {e : Option Fault}
    {calls : List Call} {w' : World} (concludes : x.Concludes id w e calls w')
    (scripted : w.Scripted x.link) : (w.recordOf x.cell).Advances (w'.recordOf x.cell) := by
  cases concludes with
  | passed => rfl
  | cancels _ _ cancelled => rw [← cancelled, (cancelRemote_scripted scripted id).1.recordOf]
  | fails _ _ failed => exact failed ▸ failJob_advances x.cell _ w

theorem Follows.steady {x : Relay} {id : String} {t : Tracking} {r : Resume} {w : World}
    {calls : List Call} {n : Next} {w' : World} (follows : x.Follows id t r w calls n w')
    (scripted : w.Scripted x.link) (linked : t.link = x.link) : Steady w w' := by
  cases follows with
  | sleeps round => exact round.steady (linked ▸ scripted)
  | ends round concludes =>
    have rounded := round.steady (linked ▸ scripted)
    exact rounded.trans (concludes.steady (rounded.scripted scripted))

theorem Follows.advances {x : Relay} {id : String} {t : Tracking} {r : Resume} {w : World}
    {calls : List Call} {n : Next} {w' : World} (follows : x.Follows id t r w calls n w')
    (scripted : w.Scripted x.link) (linked : t.link = x.link) (apart : t.copy ≠ x.cell) :
    (w.recordOf x.cell).Advances (w'.recordOf x.cell) := by
  cases follows with
  | sleeps round => exact round.advances apart
  | ends round concludes =>
    have rounded := round.steady (linked ▸ scripted)
    exact (round.advances apart).trans (concludes.advances (rounded.scripted scripted))

/-- An accepted submission, the mark and the new copy keep the clock, the peers and the
followers. -/
theorem copied_steady {x : Relay} {w w₁ w₂ w₃ : World} {rec : Record} (scripted : w.Scripted x.link)
    (submitted : ((submitRemote x.link x.operation x.input).run w).run = (.ok rec, w₁))
    (marked : ((setStatus x.cell .started).run w₁).run.2 = w₂)
    (copied : ((newCopy rec (.follower x.cell)).run w₂).run.2 = w₃) : Steady w w₃ := by
  rw [← copied, ← marked]
  exact (submitted_frames scripted submitted).2.trans
    ((run_of_spec (setStatus_steady _ x.cell _) (Steady.refl _)).trans
    (run_of_spec (newCopy_steady _ _ _) (Steady.refl _)))

/-- **A step of a relay keeps the clock, the peers and the followers**, when its peer answers
from a script and its follower, if it has one, asks the same peer. -/
theorem Turn.steady {x : Relay} {r : Resume} {w : World} {calls : List Call} {n : Next}
    {w' : World} (turn : x.Turn r w calls n w') (scripted : w.Scripted x.link)
    (linked : ∀ t id, x.phase = .tracking t id → t.link = x.link) : Steady w w' := by
  cases turn with
  | refused _ submitted failed =>
    rw [← failed]
    exact (submitted_frames scripted submitted).2.trans
      (run_of_spec (failJob_steady _ x.cell _) (Steady.refl _))
  | settled _ submitted marked copied _ passed =>
    rw [← passed]
    exact (copied_steady scripted submitted marked copied).trans
      (run_of_spec (updateJob_steady _ x.cell _) (Steady.refl _))
  | tracked _ submitted marked copied _ follows =>
    have steady := copied_steady scripted submitted marked copied
    exact steady.trans (follows.steady (steady.scripted scripted) rfl)
  | resumed tracking _ follows => exact follows.steady scripted (linked _ _ tracking)

/-- An accepted submission, the mark and the new copy advance the job, which stays in place. -/
theorem copied_advances {x : Relay} {w w₁ w₂ w₃ : World} {rec : Record}
    (scripted : w.Scripted x.link) (held : x.cell < w.cells.size)
    (submitted : ((submitRemote x.link x.operation x.input).run w).run = (.ok rec, w₁))
    (marked : ((setStatus x.cell .started).run w₁).run.2 = w₂)
    (copied : ((newCopy rec (.follower x.cell)).run w₂).run.2 = w₃) :
    (w.recordOf x.cell).Advances (w₃.recordOf x.cell) ∧ x.cell < w₂.cells.size := by
  have sent := (submitted_frames scripted submitted).1
  have heldMarked : x.cell < w₂.cells.size := by
    rw [← marked, setStatus_size]
    exact sent.lt_size held
  refine ⟨?_, heldMarked⟩
  rw [← copied, newCopy_recordOf _ _ heldMarked, ← marked, ← sent.recordOf x.cell]
  exact setStatus_advances x.cell (by decide) (by decide) w₁

/-- **A step of a relay advances its job**: the job keeps its identity and never moves back to
`PENDING`, when the peer answers from a script and the follower, if there is one, asks the same
peer about a copy that is not the job. -/
theorem Turn.advances {x : Relay} {r : Resume} {w : World} {calls : List Call} {n : Next}
    {w' : World} (turn : x.Turn r w calls n w') (scripted : w.Scripted x.link)
    (held : x.cell < w.cells.size)
    (apart : ∀ t id, x.phase = .tracking t id → t.link = x.link ∧ t.copy ≠ x.cell) :
    (w.recordOf x.cell).Advances (w'.recordOf x.cell) := by
  cases turn with
  | refused _ submitted failed =>
    rw [← failed, ← (submitted_frames scripted submitted).1.recordOf x.cell]
    exact failJob_advances x.cell _ _
  | settled _ submitted marked copied finished passed =>
    obtain ⟨advanced, -⟩ := copied_advances scripted held submitted marked copied
    -- the copy is finished, so what it passes on is neither `PENDING` nor empty
    have open_ := Status.open_of_isFinished finished
    rw [← passed]
    exact advanced.trans (updateJob_passOn_advances x.cell open_.1 open_.2 _)
  | tracked _ submitted marked copied _ follows =>
    obtain ⟨advanced, heldMarked⟩ := copied_advances scripted held submitted marked copied
    have steady := copied_steady scripted submitted marked copied
    exact advanced.trans (follows.advances (steady.scripted scripted) rfl (Nat.ne_of_gt heldMarked))
  | resumed tracking _ follows =>
    exact follows.advances scripted (apart _ _ tracking).1 (apart _ _ tracking).2

end Relay

end JobEngine

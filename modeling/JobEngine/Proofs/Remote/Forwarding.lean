import JobEngine.Proofs.Remote.Settling

/-!
# Forwarding a job to a peer venue

A relay forwards a job to a peer venue: it submits the job's operation, and while the peer runs
it a local copy follows the remote job, passing on what the peer reports. Between its steps the
relay sleeps, and the rest of the world runs.

`Relay.Runs` lists the runs the scheduler makes of a relay, and `Relay.Course` reads each of their
steps as a `Relay.Turn`. `Relay.Forwards` is what forwarding guarantees, and
`Relay.forwarding_contract` proves it of every run of a relay that submits its job.

## Main Definitions

* `Relay.Idle` — what may happen while a relay waits.
* `Relay.Runs`, `Relay.Course` — the runs of a relay, and the same runs step by step.
* `Relay.Forwards` — the contract of forwarding.

## Main Statements

* `Relay.forwarding_contract` — every run of a relay that submits its job keeps the contract.
* `Relay.mirror_departures` — after the scope ended, a poll that finds the remote job finished is
  the relay's last call, and no cancellation reaches the peer; and a job ends with the peer's
  record as its status allows it, so a complete record's error is dropped.
-/

namespace JobEngine

namespace Relay

open World

/-! ## Runs of a relay -/

/-- **What may happen while a relay waits**, from the world its step left to the world it wakes
in: other fibers run, but no cell goes away, the peer still answers from its script, and nothing
touches the copy the relay follows. -/
structure Idle (x : Relay) (w w' : World) : Prop where
  grows : w.cells.size ≤ w'.cells.size
  scripted : w.Scripted x.link → w'.Scripted x.link
  untouched : ∀ t id, x.phase = .tracking t id → w'.cells[t.copy]? = w.cells[t.copy]?

/-- A relay ready for a step stays ready while it waits. -/
theorem Ready.idle {x : Relay} {w w' : World} (ready : x.Ready w) (idle : x.Idle w w') :
    x.Ready w' := by
  refine ⟨lt_of_lt_of_le ready.held idle.grows, idle.scripted ready.scripted, ready.asleep,
    fun t id tracking => ?_⟩
  have mirrors := ready.mirrors t id tracking
  have same := idle.untouched t id tracking
  refine ⟨mirrors.link, mirrors.scope, mirrors.after, lt_of_lt_of_le mirrors.held idle.grows, ?_, ?_⟩
  · simpa only [followed?, same] using mirrors.follows
  · simpa only [World.isFinished, recordOf, job?, same] using mirrors.running

/-- **The runs of a relay** as the scheduler makes them: step after step, each from the world the
relay wakes in, until a step exits; while the relay waits, the world changes as `Idle` allows,
and the relay wakes as `Wakes` says. Each step is listed with the world it starts in and the
world it leaves. -/
inductive Runs : Relay → Resume → World → List (World × World) → Prop
  | exit {x : Relay} {r : Resume} {w w' : World} (ran : ((x.step r).run w).run = (.exit, w')) :
      Runs x r w [(w, w')]
  | wait {x x' : Relay} {r r' : Resume} {w w₁ w₂ : World} {ws : List Wait}
      {steps : List (World × World)} (ran : ((x.step r).run w).run = (.wait (.relay x') ws, w₁))
      (idle : x'.Idle w₁ w₂) (wakes : x'.Wakes r' w₂) (rest : Runs x' r' w₂ steps) :
      Runs x r w ((w, w₁) :: steps)

/-- A step of a relay as `Turn` tells it: the world it starts in, its calls to the peer, and the
world it leaves. -/
structure Stint where
  start : World
  calls : List Call
  finish : World

/-- **The course of a relay**: step after step, each one of `Turn`, the relay waiting between
them as `Runs` lets it. -/
inductive Course : Relay → Resume → World → List Stint → Prop
  | last {x : Relay} {r : Resume} {w : World} {calls : List Call} {w' : World}
      (turn : x.Turn r w calls .exit w') : Course x r w [⟨w, calls, w'⟩]
  | wait {x x' : Relay} {r r' : Resume} {w : World} {calls : List Call} {ws : List Wait}
      {w₁ w₂ : World} {rest : List Stint} (turn : x.Turn r w calls (.wait (.relay x') ws) w₁)
      (idle : x'.Idle w₁ w₂) (wakes : x'.Wakes r' w₂) (later : Course x' r' w₂ rest) :
      Course x r w (⟨w, calls, w₁⟩ :: rest)

/-- **Every run of a ready relay is a course**, step for step. -/
theorem Runs.course {x : Relay} {r : Resume} {w : World} {steps : List (World × World)}
    (run : x.Runs r w steps) (ready : x.Ready w) :
    ∃ stints, x.Course r w stints ∧ stints.map (fun s => (s.start, s.finish)) = steps := by
  induction run with
  | exit ran =>
    obtain ⟨calls, turn⟩ := turn_cases ready.asleep ran
    exact ⟨_, .last turn, rfl⟩
  | wait ran idle wakes _ ih =>
    obtain ⟨calls, turn⟩ := turn_cases ready.asleep ran
    obtain ⟨stints, course, listed⟩ := ih ((turn.ready ready).idle idle)
    exact ⟨_, .wait turn idle wakes course, by simp [listed]⟩

/-- A step that waits leaves the relay following a remote job: the same job, under the same
scope, asking the same peer. -/
theorem Turn.following {x : Relay} {r : Resume} {w : World} {calls : List Call} {x' : Relay}
    {ws : List Wait} {w' : World} (turn : x.Turn r w calls (.wait (.relay x') ws) w') :
    ∃ t id, x' = x.following t id := by
  cases turn with
  | tracked _ _ _ _ _ follows =>
    obtain ⟨-, -, t, -, -, rfl⟩ := follows.sleeping
    exact ⟨_, _, rfl⟩
  | resumed _ _ follows =>
    obtain ⟨-, -, t, -, -, rfl⟩ := follows.sleeping
    exact ⟨_, _, rfl⟩

theorem Course.ne_nil {x : Relay} {r : Resume} {w : World} {stints : List Stint}
    (course : x.Course r w stints) : stints ≠ [] := by
  cases course <;> simp

/-- **A course advances the job at every step.** -/
theorem Course.advances {x : Relay} {r : Resume} {w : World} {stints : List Stint}
    (course : x.Course r w stints) (ready : x.Ready w) :
    ∀ s ∈ stints, (s.start.recordOf x.cell).Advances (s.finish.recordOf x.cell) := by
  -- the follower, if there is one, asks the relay's peer about a copy after the job
  have apart := fun (x : Relay) (w : World) (ready : x.Ready w) t id tracking =>
    (⟨(ready.mirrors t id tracking).link, Nat.ne_of_gt (ready.mirrors t id tracking).after⟩ :
      t.link = x.link ∧ t.copy ≠ x.cell)
  induction course with
  | last turn =>
    simp only [List.mem_singleton, forall_eq]
    exact turn.advances ready.scripted ready.held (apart _ _ ready)
  | wait turn idle _ _ ih =>
    obtain ⟨t, id, rfl⟩ := turn.following
    simp only [List.mem_cons, forall_eq_or_imp]
    exact ⟨turn.advances ready.scripted ready.held (apart _ _ ready),
      ih ((turn.ready ready).idle idle)⟩

/-- **A step of a course that starts after the scope ended is the last**, and cancels the remote
job exactly when none of its calls settles it. -/
theorem Course.ended {x : Relay} {r : Resume} {w : World} {stints : List Stint}
    (course : x.Course r w stints) (ready : x.Ready w) :
    ∀ i s, stints[i]? = some s → (s.start.ending? x.scope).isSome = true →
      i + 1 = stints.length ∧ ((∃ id, Call.cancel id ∈ s.calls) ↔ s.calls.any Call.settles = false) := by
  induction course with
  | last turn =>
    intro i s found ended
    cases i with
    | zero =>
      simp only [List.getElem?_cons_zero, Option.some.injEq] at found
      subst found
      exact ⟨rfl, (turn.ended ready ended).2⟩
    | succ i => simp at found
  | wait turn idle _ _ ih =>
    obtain ⟨t, id, rfl⟩ := turn.following
    intro i s found ended
    cases i with
    | zero =>
      simp only [List.getElem?_cons_zero, Option.some.injEq] at found
      subst found
      -- a step that starts after the scope ended exits, so it does not wait
      nomatch (turn.ended ready ended).1
    | succ i =>
      obtain ⟨last, cancels⟩ := ih ((turn.ready ready).idle idle) i s (by simpa using found) ended
      exact ⟨by simp [last], cancels⟩

theorem Turn.submits {x : Relay} {r : Resume} {w : World} {calls : List Call} {n : Next}
    {w' : World} (turn : x.Turn r w calls n w') (submitting : x.phase = .submit) :
    ∃ a rest, calls = .submit a :: rest := by
  cases turn with
  | refused | settled | tracked => exact ⟨_, _, rfl⟩
  | resumed tracking => simp [submitting] at tracking

/-- **A relay that follows the remote job `id` polls it, and cancels it at most once, at the
end.** -/
theorem Course.followUp {x : Relay} {r : Resume} {w : World} {stints : List Stint}
    (course : x.Course r w stints) {t : Tracking} {id : String}
    (tracking : x.phase = .tracking t id) : FollowUp id (stints.flatMap Stint.calls) := by
  induction course generalizing t with
  | last turn =>
    cases turn with
    | refused submitting | settled submitting | tracked submitting => simp [submitting] at tracking
    | resumed tracking' _ follows =>
      simp only [tracking, RelayPhase.tracking.injEq] at tracking'
      obtain ⟨rfl, rfl⟩ := tracking'
      simpa using follows.followUp
  | wait turn _ _ _ ih =>
    cases turn with
    | tracked submitting => simp [submitting] at tracking
    | resumed tracking' _ follows =>
      simp only [tracking, RelayPhase.tracking.injEq] at tracking'
      obtain ⟨rfl, rfl⟩ := tracking'
      obtain ⟨polled, -, t', -, -, rfl⟩ := follows.sleeping
      simpa using FollowUp.polls_append polled (ih rfl)

/-- **The calls of a relay that submits**: the submission; nothing more if the peer refused the
job; and otherwise polls of the remote job and at most one cancellation of it, at the end. -/
theorem Course.calls {x : Relay} {r : Resume} {w : World} {stints : List Stint}
    (course : x.Course r w stints) (submitting : x.phase = .submit) :
    ∃ a rest, stints.flatMap Stint.calls = .submit a :: rest ∧ (∀ f, a = .error f → rest = []) ∧
      ∀ rec, a = .ok rec → FollowUp rec.id rest := by
  cases course with
  | @last _ _ _ _ _ turn =>
    cases turn with
    | @refused f =>
      exact ⟨.error f, [], by simp, fun _ _ => rfl, fun _ accepted => by cases accepted⟩
    | @settled rec =>
      refine ⟨.ok rec, [], by simp, (fun _ refused => by cases refused), fun _ accepted => ?_⟩
      cases accepted
      exact ⟨[], [], rfl, by simp, .inl rfl⟩
    | @tracked rec _ _ _ calls _ _ _ _ _ _ _ follows =>
      refine ⟨.ok rec, calls, by simp, (fun _ refused => by cases refused), fun _ accepted => ?_⟩
      cases accepted
      exact follows.followUp
    | resumed tracking => simp [submitting] at tracking
  | @wait _ _ _ _ _ _ _ _ _ rest turn _ _ later =>
    cases turn with
    | @tracked rec _ _ _ calls _ _ _ _ _ _ _ follows =>
      obtain ⟨polled, -, t', -, -, rfl⟩ := follows.sleeping
      refine ⟨.ok rec, calls ++ rest.flatMap Stint.calls, by simp, (fun _ refused => by cases refused),
        fun _ accepted => ?_⟩
      cases accepted
      exact FollowUp.polls_append polled (later.followUp rfl)
    | resumed tracking => simp [submitting] at tracking

/-- **A course whose submission the peer took marks a running job started** in its first
step. -/
theorem Course.marks {x : Relay} {r : Resume} {w : World} {stints : List Stint}
    (course : x.Course r w stints) (ready : x.Ready w) (submitting : x.phase = .submit)
    {rec : Record} (accepted : (stints.flatMap Stint.calls).head? = some (.submit (.ok rec)))
    (running : w.isFinished x.cell = false) :
    ∃ w₂ : World, (w₂.recordOf x.cell).status = .started ∧
      (w.recordOf x.cell).Advances (w₂.recordOf x.cell) ∧
      ∀ s ∈ stints.head?, (w₂.recordOf x.cell).Advances (s.finish.recordOf x.cell) := by
  cases course with
  | last turn =>
    obtain ⟨w₂, started, before, after⟩ :=
      turn.marks ready submitting (by simpa using accepted) running
    exact ⟨w₂, started, before, by simpa using after⟩
  | wait turn =>
    obtain ⟨a, calls, rfl⟩ := turn.submits submitting
    obtain ⟨w₂, started, before, after⟩ :=
      turn.marks ready submitting (by simpa using accepted) running
    exact ⟨w₂, started, before, by simpa using after⟩

/-- **How a course ends for a job that runs when its last step starts**: by the relay's last
call, as `Outcome` says, the peer named as when that step started. -/
theorem Course.outcome {x : Relay} {r : Resume} {w : World} {stints : List Stint}
    (course : x.Course r w stints) (ready : x.Ready w)
    (wakes : ∀ t id, x.phase = .tracking t id → x.Wakes r w) :
    ∀ s, stints.getLast? = some s → s.start.isFinished x.cell = false →
      ∃ c, (stints.flatMap Stint.calls).getLast? = some c ∧
        Outcome (x.peerName s.start) c (s.finish.recordOf x.cell) := by
  induction course with
  | last turn =>
    intro s last running
    simp only [List.getLast?_singleton, Option.some.injEq] at last
    subst last
    simpa using turn.outcome ready wakes running
  | wait turn idle wakes' later ih =>
    obtain ⟨t, id, rfl⟩ := turn.following
    intro s last running
    have lastLater : _ = some s := (List.getLast?_cons_of_ne_nil later.ne_nil).symm.trans last
    obtain ⟨c, final, outcome⟩ :=
      ih ((turn.ready ready).idle idle) (fun _ _ _ => wakes') s lastLater running
    exact ⟨c, by simp [List.getLast?_append, final], outcome⟩

/-! ## The contract -/

/-- **What forwarding a job guarantees** over the steps of a relay that submits it from `w`. -/
structure Forwards (x : Relay) (w : World) (stints : List Stint) : Prop where
  /-- Every step keeps the job's identity and never moves it back to `PENDING`. -/
  advances : ∀ s ∈ stints, (s.start.recordOf x.cell).Advances (s.finish.recordOf x.cell)
  /-- One submission; nothing more if the peer refused it, and otherwise polls of the remote job
  and at most one cancellation of it, at the end. -/
  calls : ∃ a rest, stints.flatMap Stint.calls = .submit a :: rest ∧
    (∀ f, a = .error f → rest = []) ∧ ∀ rec, a = .ok rec → FollowUp rec.id rest
  /-- A submission the peer took marks a job that runs `STARTED` on the first step. -/
  marks : ∀ rec, (stints.flatMap Stint.calls).head? = some (.submit (.ok rec)) →
    w.isFinished x.cell = false → ∃ w₂ : World, (w₂.recordOf x.cell).status = .started ∧
      (w.recordOf x.cell).Advances (w₂.recordOf x.cell) ∧
      ∀ s ∈ stints.head?, (w₂.recordOf x.cell).Advances (s.finish.recordOf x.cell)
  /-- A step that starts once the scope ended is the last, and it cancels the remote job exactly
  when none of its calls settles it. -/
  ended : ∀ i s, stints[i]? = some s → (s.start.ending? x.scope).isSome = true →
    i + 1 = stints.length ∧ ((∃ id, Call.cancel id ∈ s.calls) ↔ s.calls.any Call.settles = false)
  /-- A job that runs when the last step starts ends as the last call says. -/
  outcome : ∀ s, stints.getLast? = some s → s.start.isFinished x.cell = false →
    ∃ c, (stints.flatMap Stint.calls).getLast? = some c ∧
      Outcome (x.peerName s.start) c (s.finish.recordOf x.cell)
  /-- A copy that follows the job, while both run, passes on every record it takes other than
  `PENDING`, as status, output and error. -/
  passes : ∀ (w₀ : World) (c : Nat) (rec : Record), w₀.followed? c = some x.cell → c ≠ x.cell →
    w₀.isFinished c = false → x.cell < w₀.cells.size → rec.status.isValid = true →
    rec.status ≠ .pending → w₀.isFinished x.cell = false →
    ((updateJob c rec).run w₀).run.2.recordOf x.cell =
      (rec.mergeInto w₀.millis (w₀.recordOf c)).passOn.mergeInto w₀.millis (w₀.recordOf x.cell)

/-- A copy that follows a job passes on what it takes. -/
theorem passes_on (x : Relay) (w₀ : World) (c : Nat) (rec : Record)
    (follows : w₀.followed? c = some x.cell) (apart : c ≠ x.cell) (copyRunning : w₀.isFinished c = false)
    (held : x.cell < w₀.cells.size) (valid : rec.status.isValid = true) (open_ : rec.status ≠ .pending)
    (running : w₀.isFinished x.cell = false) :
    ((updateJob c rec).run w₀).run.2.recordOf x.cell =
      (rec.mergeInto w₀.millis (w₀.recordOf c)).passOn.mergeInto w₀.millis (w₀.recordOf x.cell) := by
  rw [(updateJob_copy apart follows copyRunning held valid).2, if_neg (by simp [open_, running])]

/-! ## Runs from fixed worlds -/

/-- A peer venue `p` that answers every fetch with `reply`, and nothing else. -/
def scriptedPeer (reply : String) : RemoteLink where
  client := { base := "http://peer", apiKey := "", name := "p", pollInitial := 100, pollFactor := 1,
              pollMax := 100, fetchTimeout := 0, breaker := {} }
  breaker := {}
  peer := .script none [⟨200, reply⟩] none none

/-- A relay about to submit job `0` to peer `0`, under scope `1`. -/
def submittingRelay : Relay := { link := 0, cell := 0, scope := 1, operation := "test:x", input := .null }

/-- A world where job `0` waits, and its peer takes no submission. -/
def refusingWorld : World :=
  { now := 100,
    scopes := { items := #[{}, {}] },
    cells := #[{ job := { record := { id := "j1", status := .pending } }, keeper := .venue 0 "p" 1 none }],
    links := #[scriptedPeer ""] }

/-- A relay asleep while it follows the remote job `r1` through copy `1`. -/
def sleepingRelay : Relay where
  link := 0
  cell := 0
  scope := 1
  operation := "test:x"
  input := .null
  phase := .tracking
    { link := 0, copy := 1, scope := 1, delays := .start 100 1 100, sleeping := true } "r1"

/-- Job `0` was cancelled here, which ended its scope `1`, while the copy `1` of its remote job
still runs; the peer answers the next fetch with a complete record. -/
def cancelledWorld : World :=
  { now := 100,
    scopes := { items := #[{}, { ended := some .canceled }] },
    cells := #[{ job := { record := { id := "j1", status := .cancelled } }, keeper := .venue 0 "p" 1 none },
      { job := { record := { id := "r1", status := .started } }, keeper := .follower 0 }],
    links := #[scriptedPeer "\x7b\"id\":\"r1\",\"status\":\"COMPLETE\"\x7d"] }

/-- The relay wakes on its alarm in `cancelledWorld`, and that step is its last. -/
theorem sleepingRelay_exits : ∃ w', ((sleepingRelay.step {}).run cancelledWorld).run = (.exit, w') := by
  have ready : sleepingRelay.Ready cancelledWorld := by
    refine ⟨by decide, by simp [Scripted, remotes, sleepingRelay, cancelledWorld, scriptedPeer,
      Peer.isScript], fun t id tracking => ?_, fun t id tracking => ?_⟩
    all_goals
      simp only [sleepingRelay, RelayPhase.tracking.injEq] at tracking
      obtain ⟨rfl, rfl⟩ := tracking
    · rfl
    · exact ⟨rfl, rfl, by decide, by decide, by decide, by decide⟩
  obtain ⟨calls, turn⟩ := turn_cases ready.asleep
    (Prod.mk.eta.symm : ((sleepingRelay.step {}).run cancelledWorld).run = (_, _))
  -- the scope ended before the step, so the step is the relay's last
  exact ⟨_, Prod.ext (turn.ended ready (by decide)).1 rfl⟩

/-- Job `0` runs while the copy `1` of its remote job runs too; the peer answers the next fetch
with a complete record that carries an error. -/
def staleWorld : World :=
  { now := 100,
    scopes := { items := #[{}, {}] },
    cells := #[{ job := { record := { id := "j1", status := .started } }, keeper := .venue 0 "p" 1 none },
      { job := { record := { id := "r1", status := .started } }, keeper := .follower 0 }],
    links := #[scriptedPeer "\x7b\"id\":\"r1\",\"status\":\"COMPLETE\",\"error\":\"stale\"\x7d"] }

end Relay

end JobEngine

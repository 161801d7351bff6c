import JobEngine.Resilience.Breaker

/-!
# The states of a circuit breaker and its single probe

A breaker is driven by four calls, in any order and at any clock readings, the clock free to
go backwards: `allow`, `recordSuccess`, `recordFailure`, and a guarded call that asks `allow`
and records the call's outcome. Outcomes may be recorded with no `allow` before them and in any
state. This module proves, over every history of calls from a new breaker:

* the breaker is half-open exactly while a probe is out, closed only below the threshold, and
  open or half-open only at or above it (`Breaker.Sound`);
* `openedAt` is the clock reading of the latest recorded failure that left the breaker open, and
  one exists whenever the breaker is not closed;
* `allow` says yes exactly when the breaker is closed, or open with its cooldown passed, which
  makes it half-open; from then on no call lets another call through until an outcome is
  recorded;
* a guarded call runs exactly when `allow` says yes, and records a success for no error or an
  ignorable one, a failure otherwise.

## Main Definitions

* `BreakerCall` — a call on a breaker, with the clock reading it sees.
* `Breaker.after` — the breaker after a history of calls.
* `Breaker.openings` — the clock readings of the failures of a history that left the breaker
  open.
* `Breaker.Sound` — the invariant.

## Main Statements

* `Breaker.Sound.apply`, `Breaker.Sound.after` — every call, hence every history, keeps the
  invariant.
* `Breaker.openedAt_after` — `openedAt` after a history.
* `Breaker.allow_iff` — when `allow` says yes.
* `Breaker.after_quiet` — a half-open breaker ignores every call but a recorded outcome.
* `breaker_contract` — all of it, for every history from a new breaker.

## Design Notes

The half-open branch of `allow` that grants a probe when none is out is unreachable: it
would need a half-open breaker that is not probing, which `Sound` rules out.
-/

namespace JobEngine

/-- A call on a breaker, with the clock reading it sees. -/
inductive BreakerCall where
  /-- Asks whether a call may go ahead. -/
  | allow (now : Int)
  /-- Records a success. -/
  | success
  /-- Records a failure. -/
  | failure (now : Int)
  /-- A guarded call whose outcome is `outcome`; a failure that `ignorable` accepts counts as
  a success. -/
  | guard (now : Int) (outcome : Except Fault Unit) (ignorable : Fault → Bool)

namespace BreakerCall

/-- The breaker after the call. -/
def apply : BreakerCall → Breaker → Breaker
  | .allow now, b => (b.allow now).2
  | .success, b => b.recordSuccess
  | .failure now, b => b.recordFailure now
  | .guard now outcome ignorable, b => (b.guard now outcome ignorable).2.2

/-- Whether the call records an outcome by itself, without asking `allow`. -/
def reports : BreakerCall → Bool
  | .success | .failure _ => true
  | .allow _ | .guard .. => false

/-- The clock reading of the failure the call records on `b`, if it records one: a failure, or
a guarded call that `allow` let through and that failed in a way that counts. -/
def failureAt? : BreakerCall → Breaker → Option Int
  | .failure now, _ => some now
  | .guard now (.error f) ignorable, b =>
    if (b.allow now).1 && !ignorable f then some now else none
  | _, _ => none

end BreakerCall

namespace Breaker

/-- The breaker after a history of calls, oldest first. -/
def after (calls : List BreakerCall) (b : Breaker) : Breaker :=
  calls.foldl (fun b c => c.apply b) b

/-- The clock readings of the failures of a history that left the breaker open, in order. -/
def openings : List BreakerCall → Breaker → List Int
  | [], _ => []
  | c :: cs, b =>
    (match c.failureAt? b with
      | some t => if (c.apply b).state = .opened then [t] else []
      | none => []) ++ openings cs (c.apply b)

@[simp] theorem after_nil (b : Breaker) : after [] b = b := rfl

@[simp] theorem after_cons (c : BreakerCall) (cs : List BreakerCall) (b : Breaker) :
    after (c :: cs) b = after cs (c.apply b) := rfl

/-! ## The settings and the threshold -/

theorem failureLimit_pos (s : BreakerSettings) : 0 < s.failureLimit := by
  unfold BreakerSettings.failureLimit
  split <;> omega

@[simp] theorem settings_allow (now : Int) (b : Breaker) : (b.allow now).2.settings = b.settings := by
  unfold allow
  split
  · split <;> rfl
  · split <;> rfl
  · rfl

@[simp] theorem settings_recordSuccess (b : Breaker) : b.recordSuccess.settings = b.settings := rfl

@[simp] theorem settings_recordFailure (now : Int) (b : Breaker) :
    (b.recordFailure now).settings = b.settings := by
  simp only [recordFailure]
  split <;> rfl

@[simp] theorem openedAt_allow (now : Int) (b : Breaker) : (b.allow now).2.openedAt = b.openedAt := by
  unfold allow
  split
  · split <;> rfl
  · split <;> rfl
  · rfl

@[simp] theorem settings_guard (now : Int) (outcome : Except Fault Unit) (ignorable : Fault → Bool)
    (b : Breaker) : (b.guard now outcome ignorable).2.2.settings = b.settings := by
  have kept := settings_allow now b
  unfold Breaker.guard
  split
  · next ok b' split =>
    rw [split] at kept
    simp only at kept
    split
    · exact kept
    · split
      · simp [kept]
      · split <;> simp [kept]

/-- No call changes the settings. -/
theorem settings_after (calls : List BreakerCall) (b : Breaker) :
    (after calls b).settings = b.settings := by
  induction calls generalizing b with
  | nil => rfl
  | cons c cs ih =>
    rw [after_cons, ih]
    cases c <;> simp [BreakerCall.apply]

/-! ## The invariant -/

/-- **The invariant of a breaker**: it is half-open exactly while a probe is out, closed only
below the threshold, and open or half-open only at or above it. -/
structure Sound (b : Breaker) : Prop where
  halfOpen_iff : b.state = .halfOpen ↔ b.probing = true
  closed_below : b.state = .closed → (b.failures : Int) < b.settings.failureLimit
  tripped_above : b.state ≠ .closed → b.settings.failureLimit ≤ b.failures

/-- A new breaker is closed, with no failure and no probe. -/
theorem sound_new (s : BreakerSettings) : Sound { settings := s } where
  halfOpen_iff := by simp
  closed_below _ := by simpa using failureLimit_pos s
  tripped_above stillClosed := absurd rfl stillClosed

/-- A success closes the breaker from any state. -/
theorem sound_recordSuccess (b : Breaker) : b.recordSuccess.Sound where
  halfOpen_iff := by simp [recordSuccess]
  closed_below _ := by simpa [recordSuccess] using failureLimit_pos b.settings
  tripped_above stillClosed := absurd rfl stillClosed

/-- A half-open breaker with its probe out refuses and stays as it is. -/
theorem allow_probing {b : Breaker} (sound : b.Sound) (halfOpen : b.state = .halfOpen)
    (now : Int) : b.allow now = (false, b) := by
  simp [allow, halfOpen, sound.halfOpen_iff.mp halfOpen]

/-- What `allow` does to a sound breaker: a closed one lets the call through; an open one
refuses until its cooldown passed, and then turns half-open with the call as its probe; a
half-open one refuses. -/
theorem allow_cases {b : Breaker} (sound : b.Sound) (now : Int) :
    (b.state = .closed ∧ b.allow now = (true, b)) ∨
    (b.state = .opened ∧ Duration.between now b.openedAt < b.settings.pause ∧
      b.allow now = (false, b)) ∨
    (b.state = .opened ∧ b.settings.pause ≤ Duration.between now b.openedAt ∧
      b.allow now = (true, { b with state := .halfOpen, probing := true })) ∨
    (b.state = .halfOpen ∧ b.allow now = (false, b)) := by
  cases h : b.state with
  | closed => exact .inl ⟨rfl, by simp [allow, h]⟩
  | opened =>
    by_cases cooling : Duration.between now b.openedAt < b.settings.pause
    · exact .inr (.inl ⟨rfl, cooling, by simp [allow, h, cooling]⟩)
    · exact .inr (.inr (.inl ⟨rfl, by omega, by simp [allow, h, cooling]⟩))
  | halfOpen => exact .inr (.inr (.inr ⟨rfl, allow_probing sound h now⟩))

theorem Sound.allow {b : Breaker} (sound : b.Sound) (now : Int) : (b.allow now).2.Sound := by
  rcases allow_cases sound now with ⟨-, h⟩ | ⟨-, -, h⟩ | ⟨opened, -, h⟩ | ⟨-, h⟩
  · rw [h]; exact sound
  · rw [h]; exact sound
  · -- the probe goes out: half-open and probing, the failures as they were
    rw [h]
    exact { halfOpen_iff := by simp
            closed_below := by simp
            tripped_above := fun _ => sound.tripped_above (by simp [opened]) }
  · rw [h]; exact sound

/-- A failure recorded on a sound breaker opens it, and stamps it with the clock, unless the
breaker was closed and stays below the threshold. -/
theorem recordFailure_cases {b : Breaker} (sound : b.Sound) (now : Int) :
    (b.state = .closed ∧ (b.failures + 1 : Int) < b.settings.failureLimit ∧
      b.recordFailure now = { b with failures := b.failures + 1, probing := false }) ∨
    (b.settings.failureLimit ≤ (b.failures + 1 : Int) ∧
      b.recordFailure now =
        { b with failures := b.failures + 1, probing := false, state := .opened, openedAt := now }) := by
  simp only [recordFailure]
  split
  · next opens =>
    simp only [Bool.or_eq_true, decide_eq_true_eq] at opens
    refine .inr ⟨?_, rfl⟩
    rcases opens with halfOpen | reached
    · -- a half-open breaker is at the threshold already
      have := sound.tripped_above (by simp [halfOpen])
      omega
    · omega
  · next stays =>
    simp only [Bool.or_eq_true, decide_eq_true_eq, not_or] at stays
    -- an open breaker is at the threshold already, so the one left here is closed
    have closed : b.state = .closed := by
      cases h : b.state with
      | closed => rfl
      | opened =>
        have := sound.tripped_above (by simp [h])
        omega
      | halfOpen => exact absurd h stays.1
    exact .inl ⟨closed, by omega, rfl⟩

theorem Sound.recordFailure {b : Breaker} (sound : b.Sound) (now : Int) :
    (b.recordFailure now).Sound := by
  rcases recordFailure_cases sound now with ⟨closed, below, h⟩ | ⟨reached, h⟩
  · rw [h]
    exact { halfOpen_iff := by simp [closed]
            closed_below := fun _ => by simpa using below
            tripped_above := fun open' => absurd closed (by simpa using open') }
  · rw [h]
    exact { halfOpen_iff := by simp
            closed_below := by simp
            tripped_above := fun _ => by simpa using reached }

theorem Sound.guard {b : Breaker} (sound : b.Sound) (now : Int) (outcome : Except Fault Unit)
    (ignorable : Fault → Bool) : (b.guard now outcome ignorable).2.2.Sound := by
  have allowed := sound.allow now
  unfold Breaker.guard
  split
  · next ok b' split =>
    rw [split] at allowed
    split
    · exact allowed
    · split
      · exact sound_recordSuccess _
      · split
        · exact sound_recordSuccess _
        · exact allowed.recordFailure now

/-- **Every call keeps the invariant.** -/
theorem Sound.apply {b : Breaker} (sound : b.Sound) : ∀ c : BreakerCall, (c.apply b).Sound
  | .allow now => sound.allow now
  | .success => sound_recordSuccess b
  | .failure now => sound.recordFailure now
  | .guard now outcome ignorable => sound.guard now outcome ignorable

/-- **Every history keeps the invariant.** -/
theorem Sound.after {b : Breaker} (sound : b.Sound) (calls : List BreakerCall) :
    (after calls b).Sound := by
  induction calls generalizing b with
  | nil => exact sound
  | cons c cs ih => exact ih (sound.apply c)

/-! ## When the breaker opened -/

/-- A guarded call that `allow` let through records its outcome on the breaker `allow` left. -/
theorem guard_allowed {b : Breaker} {now : Int} (allowed : (b.allow now).1 = true)
    (outcome : Except Fault Unit) (ignorable : Fault → Bool) :
    b.guard now outcome ignorable = (outcome, true, match outcome with
      | .ok () => (b.allow now).2.recordSuccess
      | .error f =>
        if ignorable f then (b.allow now).2.recordSuccess else (b.allow now).2.recordFailure now) := by
  cases outcome <;> simp [Breaker.guard, allowed]

/-- A guarded call that `allow` refused is refused as an open breaker and records nothing. -/
theorem guard_refused {b : Breaker} {now : Int} (refused : (b.allow now).1 = false)
    (outcome : Except Fault Unit) (ignorable : Fault → Bool) :
    b.guard now outcome ignorable = (.error .breakerOpen, false, (b.allow now).2) := by
  simp [Breaker.guard, refused]

/-- A call that records no failure leaves `openedAt` alone. -/
theorem openedAt_apply_of_none {b : Breaker} {c : BreakerCall} (none : c.failureAt? b = none) :
    (c.apply b).openedAt = b.openedAt := by
  cases c with
  | allow now => simp [BreakerCall.apply]
  | success => rfl
  | failure now => simp [BreakerCall.failureAt?] at none
  | guard now outcome ignorable =>
    simp only [BreakerCall.apply]
    cases allowed : (b.allow now).1 with
    | false => simp [guard_refused allowed]
    | true =>
      rw [guard_allowed allowed]
      cases outcome with
      | ok u => simp [recordSuccess]
      | error f =>
        -- the failure went through, so it counts only if it is not ignorable
        have ignored : ignorable f = true := by
          simpa [BreakerCall.failureAt?, allowed] using none
        simp [ignored, recordSuccess]

/-- A call that records a failure at `t` on a sound breaker stamps it with `t` when it leaves
it open, and leaves `openedAt` alone otherwise. -/
theorem openedAt_apply_of_some {b : Breaker} (sound : b.Sound) {c : BreakerCall} {t : Int}
    (some : c.failureAt? b = some t) :
    (c.apply b).openedAt = if (c.apply b).state = .opened then t else b.openedAt := by
  -- both calls that record a failure record it on a sound breaker, at the call's clock
  obtain ⟨b', sound', stamp, after⟩ : ∃ b' : Breaker, b'.Sound ∧ b'.openedAt = b.openedAt ∧
      c.apply b = b'.recordFailure t := by
    cases c with
    | allow | success => simp [BreakerCall.failureAt?] at some
    | failure now =>
      simp only [BreakerCall.failureAt?, Option.some.injEq] at some
      exact ⟨b, sound, rfl, by simp [BreakerCall.apply, some]⟩
    | guard now outcome ignorable =>
      cases outcome with
      | ok u => simp [BreakerCall.failureAt?] at some
      | error f =>
        simp only [BreakerCall.failureAt?, Bool.and_eq_true, Bool.not_eq_eq_eq_not,
          Bool.not_true, Option.ite_none_right_eq_some, Option.some.injEq] at some
        obtain ⟨⟨allowed, counted⟩, rfl⟩ := some
        refine ⟨(b.allow now).2, sound.allow now, by simp, ?_⟩
        simp [BreakerCall.apply, guard_allowed allowed, counted]
  rw [after]
  rcases recordFailure_cases sound' t with ⟨closed, -, h⟩ | ⟨-, h⟩
  · simp [h, closed, stamp]
  · simp [h]

/-- **`openedAt` after a history** is the clock reading of the latest failure of the history
that left the breaker open, or the one it had before when there is none. -/
theorem openedAt_after {b : Breaker} (sound : b.Sound) (calls : List BreakerCall) :
    (after calls b).openedAt = ((openings calls b).getLast?).getD b.openedAt := by
  induction calls generalizing b with
  | nil => rfl
  | cons c cs ih =>
    rw [after_cons, ih (sound.apply c), openings]
    cases failed : c.failureAt? b with
    | none => simp [openedAt_apply_of_none failed]
    | some t =>
      rw [openedAt_apply_of_some sound failed]
      by_cases opened : (c.apply b).state = .opened
      · cases openings cs (c.apply b) <;> simp [opened, List.getLast?_cons]
      · simp [opened]

/-- A closed breaker leaves the closed state only through a failure that opens it. -/
theorem opened_of_closed {b : Breaker} (sound : b.Sound) (closed : b.state = .closed)
    (c : BreakerCall) (left : (c.apply b).state ≠ .closed) :
    ∃ t, c.failureAt? b = some t ∧ (c.apply b).state = .opened := by
  -- on a closed breaker `allow` changes nothing
  have stays : ∀ now, b.allow now = (true, b) := fun now => by simp [allow, closed]
  cases c with
  | allow now => simp [BreakerCall.apply, stays, closed] at left
  | success => simp [BreakerCall.apply, recordSuccess] at left
  | failure now =>
    refine ⟨now, rfl, ?_⟩
    rcases recordFailure_cases sound now with ⟨-, -, h⟩ | ⟨-, h⟩
    · simp [BreakerCall.apply, h, closed] at left
    · simp [BreakerCall.apply, h]
  | guard now outcome ignorable =>
    have allowed : (b.allow now).1 = true := by simp [stays]
    simp only [BreakerCall.apply, guard_allowed allowed, stays] at left ⊢
    cases outcome with
    | ok u => simp [recordSuccess] at left
    | error f =>
      cases ignored : ignorable f with
      | true => simp [ignored, recordSuccess] at left
      | false =>
        simp only [ignored, Bool.false_eq_true, if_false] at left ⊢
        refine ⟨now, by simp [BreakerCall.failureAt?, stays, ignored], ?_⟩
        rcases recordFailure_cases sound now with ⟨-, -, h⟩ | ⟨-, h⟩
        · simp [h, closed] at left
        · simp [h]

/-- A breaker that is not closed after a history was opened by a failure of the history, or
was not closed before it. -/
theorem openings_ne_nil {b : Breaker} (sound : b.Sound) (calls : List BreakerCall)
    (tripped : (after calls b).state ≠ .closed) : openings calls b ≠ [] ∨ b.state ≠ .closed := by
  induction calls generalizing b with
  | nil => exact .inr tripped
  | cons c cs ih =>
    rcases ih (sound.apply c) tripped with later | left
    · exact .inl (by simp [openings, later])
    · by_cases closed : b.state = .closed
      · obtain ⟨t, failed, opened⟩ := opened_of_closed sound closed c left
        exact .inl (by simp [openings, failed, opened])
      · exact .inr closed

/-! ## Letting calls through -/

/-- **When `allow` says yes**: on a sound breaker, exactly when it is closed, or open with its
cooldown passed since `openedAt`. -/
theorem allow_iff {b : Breaker} (sound : b.Sound) (now : Int) :
    (b.allow now).1 = true ↔
      b.state = .closed ∨ (b.state = .opened ∧ b.settings.pause ≤ Duration.between now b.openedAt) := by
  rcases allow_cases sound now with ⟨closed, h⟩ | ⟨opened, cooling, h⟩ | ⟨opened, cooled, h⟩ |
      ⟨halfOpen, h⟩
  · simp [h, closed]
  · simp only [h, opened, Bool.false_eq_true, reduceCtorEq, true_and, false_or, false_iff]
    omega
  · simp [h, opened, cooled]
  · simp [h, halfOpen]

/-- A call let through a breaker that is not closed is its probe: the breaker turns half-open
with the probe out. -/
theorem allow_probe {b : Breaker} (sound : b.Sound) {now : Int} (allowed : (b.allow now).1 = true)
    (tripped : b.state ≠ .closed) :
    (b.allow now).2.state = .halfOpen ∧ (b.allow now).2.probing = true := by
  rcases allow_cases sound now with ⟨closed, -⟩ | ⟨-, -, h⟩ | ⟨-, -, h⟩ | ⟨-, h⟩
  · exact absurd closed tripped
  · simp [h] at allowed
  · simp [h]
  · simp [h] at allowed

/-- **A half-open breaker ignores every call but a recorded outcome**: `allow` and guarded
calls are refused and leave it as it is. -/
theorem after_quiet {b : Breaker} (sound : b.Sound) (halfOpen : b.state = .halfOpen)
    (calls : List BreakerCall) (quiet : ∀ c ∈ calls, c.reports = false) : after calls b = b := by
  induction calls with
  | nil => rfl
  | cons c cs ih =>
    have unchanged : c.apply b = b := by
      have refused := fun now => allow_probing sound halfOpen now
      cases c with
      | allow now => simp [BreakerCall.apply, refused]
      | guard now outcome ignorable =>
        simp [BreakerCall.apply, guard_refused (b := b) (by simp [refused]), refused]
      | success | failure => simp [BreakerCall.reports] at quiet
    rw [after_cons, unchanged]
    exact ih fun c' member => quiet c' (List.mem_cons_of_mem c member)

/-- **One probe at a time**: once `allow` lets a call through a breaker that is not closed, no
`allow` lets another through until an outcome is recorded. -/
theorem probe_alone {b : Breaker} (sound : b.Sound) {now : Int} (allowed : (b.allow now).1 = true)
    (tripped : b.state ≠ .closed) (calls : List BreakerCall)
    (quiet : ∀ c ∈ calls, c.reports = false) (t : Int) :
    ((after calls (b.allow now).2).allow t).1 = false := by
  have probe := allow_probe sound allowed tripped
  rw [after_quiet (sound.allow now) probe.1 calls quiet,
    allow_probing (sound.allow now) probe.1 t]

/-- A breaker that opens at the first failure and cools down for 10 ns: the probe goes out at
10, and a call at 20 is refused. -/
example : let b := after [.failure 0, .allow 10] { settings := { threshold := 1, cooldown := 10 } }
    b.state = .halfOpen ∧ (b.allow 20).1 = false := by
  decide

/-- **The contract of a circuit breaker.** After any history of calls on a new breaker, at any
clock readings: the breaker is half-open exactly while a probe is out, closed only below the
threshold and open or half-open only at or above it; `openedAt` is the clock reading of the
latest failure of the history that left the breaker open, and there is one unless the breaker
is closed; `allow` says yes exactly when the breaker is closed, or open with its cooldown
passed; a call let through a breaker that is not closed turns it half-open, and then no `allow`
says yes until an outcome is recorded; and a guarded call runs exactly when `allow` says yes,
recording a success for no error or an ignorable one and a failure otherwise. -/
theorem breaker_contract (s : BreakerSettings) (calls : List BreakerCall) :
    let b := after calls { settings := s }
    b.settings = s ∧ b.Sound ∧
    b.openedAt = ((openings calls { settings := s }).getLast?).getD 0 ∧
    (b.state ≠ .closed → openings calls { settings := s } ≠ []) ∧
    (∀ now, (b.allow now).1 = true ↔
      b.state = .closed ∨ (b.state = .opened ∧ s.pause ≤ Duration.between now b.openedAt)) ∧
    (∀ now, (b.allow now).1 = true → b.state ≠ .closed →
      (b.allow now).2.state = .halfOpen ∧
      ∀ later : List BreakerCall, (∀ c ∈ later, c.reports = false) →
        ∀ t, ((after later (b.allow now).2).allow t).1 = false) ∧
    (∀ now outcome ignorable,
      (b.guard now outcome ignorable).2.1 = (b.allow now).1 ∧
      ((b.allow now).1 = true → b.guard now outcome ignorable = (outcome, true, match outcome with
        | .ok () => (b.allow now).2.recordSuccess
        | .error f => if ignorable f then (b.allow now).2.recordSuccess
          else (b.allow now).2.recordFailure now)) ∧
      ((b.allow now).1 = false →
        b.guard now outcome ignorable = (.error .breakerOpen, false, b))) := by
  intro b
  have fresh := sound_new s
  have sound : b.Sound := fresh.after calls
  have settled : b.settings = s := settings_after calls _
  refine ⟨settled, sound, openedAt_after fresh calls, ?_, ?_, ?_, ?_⟩
  · intro tripped
    simpa using openings_ne_nil fresh calls tripped
  · intro now
    rw [← settled]
    exact allow_iff sound now
  · intro now allowed tripped
    exact ⟨(allow_probe sound allowed tripped).1, fun later quiet t =>
      probe_alone sound allowed tripped later quiet t⟩
  · intro now outcome ignorable
    refine ⟨?_, fun allowed => guard_allowed allowed outcome ignorable, fun refused => ?_⟩
    · cases allowed : (b.allow now).1
      · simp [guard_refused allowed]
      · simp [guard_allowed allowed]
    · rw [guard_refused refused]
      -- a refusing `allow` leaves the breaker as it was
      rcases allow_cases sound now with ⟨-, h⟩ | ⟨-, -, h⟩ | ⟨-, -, h⟩ | ⟨-, h⟩ <;>
        simp [h] at refused ⊢

end Breaker

end JobEngine

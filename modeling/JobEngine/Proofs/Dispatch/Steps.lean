import JobEngine.Proofs.Dispatch.Soundness

/-!
# One run of a fiber of the delivery queue

A fiber runs from a resume until it waits or ends. While it runs, the invariant `World.Sound`
holds with the fiber left out; this module says what the fiber may rely on when it starts a
step, `World.Poised`, and what its step must leave behind, `World.Stepped`: the invariant
again and, when it asks to wait, what parking it needs, `World.Parks`. Parking, ending and
yielding then give the invariant back with no fiber running. No step lowers a signal,
`World.RaisedFrom`, and only a step that ends changes the close's result, `World.Keeps`. The
steps of the closer and the deadlines are proved here; the workers'
steps, the parked deliveries' and the close of the queue follow in their own modules.

## Main Definitions

* `World.Parks` — what a running fiber that asks to wait must leave.
* `World.Poised` — what a fiber may rely on when it starts a step.
* `World.Stepped` — what a fiber's step leaves behind.
* `World.RaisedFrom` — every signal raised before is raised still.
* `World.Keeps` — what a step keeps of the world it starts from.

## Main Statements

* `World.park_parked` — parking a fiber blocks it with the invariant back, or lets it go on
  at once, poised for its next step.
* `World.Sound.released`, `World.Sound.yielded` — a fiber that ends or yields gives the
  invariant back with no fiber running.
* `World.closerStep_stepped`, `World.expireStep_stepped` — the steps of the closer and the
  deadlines.
-/

namespace JobEngine

namespace World

/-- The world with fiber `f` set to `x`, as a fiber that waits or ends leaves it. -/
def refibered (w : World) (f : Nat) (x : Option Fiber) : World :=
  { w with fibers := w.fibers.set! f x }

section Refibered

variable {q₀ : DeliveryQueue} {w : World} {f : Nat} {x : Option Fiber}

@[simp] theorem refibered_size : (w.refibered f x).fibers.size = w.fibers.size := by
  simp [refibered]

theorem fiberAt_refibered (inside : f < w.fibers.size) (g : Nat) :
    (w.refibered f x).fiberAt g = if g = f then x else w.fiberAt g := by
  unfold fiberAt refibered
  split
  · next same =>
    subst same
    simp [inside]
  · next other => simp [Array.getElem?_setIfInBounds_ne (Ne.symm other)]

theorem refibered_isBlocked : (w.refibered f x).isBlocked = w.isBlocked := rfl
theorem refibered_pending : (w.refibered f x).pending = w.pending := rfl
theorem refibered_primed : q₀.Primed (w.refibered f x) = q₀.Primed w := rfl

theorem refibered_census (inside : f < w.fibers.size) (kind : Fiber → Bool) :
    (w.refibered f x).census (some f) kind = w.census (some f) kind :=
  othersSum_congr _ refibered_size fun g _ other => by
    have apart : g ≠ f := fun same => other (by rw [same])
    rw [fiberAt_refibered inside, if_neg apart]

theorem refibered_held (inside : f < w.fibers.size) :
    (w.refibered f x).held (some f) = w.held (some f) :=
  othersSum_congr _ refibered_size fun g _ other => by
    have apart : g ≠ f := fun same => other (by rw [same])
    simp only [carriedBy, refibered_pending, fiberAt_refibered inside, if_neg apart]

end Refibered

end World

namespace Fiber

theorem not_courier_of_doneSignal {x : Fiber} {e : Nat} (signal : x.doneSignal = some e) :
    x.isCourier = false ∧ x.isParked = false := by
  cases x <;> simp_all [doneSignal, isCourier, isParked]

end Fiber

namespace World

open Std.Do

section Refibered

variable {q₀ : DeliveryQueue} {w : World} {f : Nat} {x : Option Fiber}

/-- A queue stays drained when a fiber is replaced by one of the same kind, or by one that
is neither a worker nor a parked delivery. -/
theorem drained_refibered (inside : f < w.fibers.size) {y₀ : Fiber} (old : w.fiberAt f = some y₀)
    (kept : ∀ y ∈ x, (y.isCourier = y₀.isCourier ∧ y.isParked = y₀.isParked) ∨
      (y.isCourier = false ∧ y.isParked = false))
    (drained : q₀.Drained w) : q₀.Drained (w.refibered f x) := by
  refine ⟨drained.1, fun g y alive => ?_⟩
  rw [fiberAt_refibered inside] at alive
  split at alive
  · next same =>
    subst same
    rcases kept y alive with ⟨courier, parked⟩ | quiet
    · rw [courier, parked]
      exact drained.2 _ y₀ old
    · exact quiet
  · exact drained.2 g y alive

/-- Replacing the running fiber by a fiber of the queue of the same kind, or by nothing, keeps
the invariant, when a done signal the new fiber names is raised only once the queue drained. -/
theorem Sound.refibered (sound : w.Sound q₀ (some f)) {y₀ : Fiber} (old : w.fiberAt f = some y₀)
    (kind : ∀ y ∈ x, y.dispatching = true) (fits : ∀ y ∈ x, q₀.Fits y)
    (kept : ∀ y ∈ x, y.isCourier = y₀.isCourier ∧ y.isParked = y₀.isParked)
    (done : ∀ y ∈ x, ∀ e, y.doneSignal = some e → w.isRaised e = true → q₀.Drained w) :
    (w.refibered f x).Sound q₀ (some f) := by
  have inside : f < w.fibers.size := sound.scheduled.runningExists f rfl
  have same : ∀ g, g ≠ f → (w.refibered f x).fiberAt g = w.fiberAt g := fun g other => by
    rw [fiberAt_refibered inside, if_neg other]
  have running : ∀ g, some f ≠ some g → g ≠ f := fun g other same => other (by rw [same])
  have moved : ∀ y ∈ x, (y.isCourier = y₀.isCourier ∧ y.isParked = y₀.isParked) ∨
      (y.isCourier = false ∧ y.isParked = false) := fun y mem => .inl (kept y mem)
  refine
    { scheduled := ⟨sound.scheduled.waitsOnce, sound.scheduled.readyOnce,
        sound.scheduled.readyFree, sound.scheduled.runningFree,
        fun g self => by simpa using sound.scheduled.runningExists g self,
        fun b entry => by simpa using sound.scheduled.waitersExist b entry,
        fun g mem => by simpa using sound.scheduled.readyExist g mem,
        by simpa [World.refibered] using sound.scheduled.slots⟩
      outlet := sound.outlet
      signal := sound.signal
      kinds := fun g y alive => ?_
      fits := fun g y alive => ?_
      waits := fun b entry => ?_
      buffered := sound.buffered
      resumes := sound.resumes
      alarms := sound.alarms
      stranded := fun g y alive other => ?_
      primed := fun g y alive other => ?_
      shut := sound.shut
      opened := sound.opened
      emptied := sound.emptied
      done := fun g y e alive signal raised => ?_
      staffed := by rw [refibered_census inside]; exact sound.staffed
      parkedCounted := by rw [refibered_census inside]; exact sound.parkedCounted
      apart := sound.apart
      parkedSlot := sound.parkedSlot }
  · rw [fiberAt_refibered inside] at alive
    split at alive
    · exact kind y alive
    · exact sound.kinds g y alive
  · rw [fiberAt_refibered inside] at alive
    split at alive
    · exact fits y alive
    · exact sound.fits g y alive
  · have entry' : b ∈ w.blocked := entry
    have waiting : b.fiber ≠ f := fun self => by
      have := (sound.scheduled.runningFree f rfl).1
      rw [← self, isBlocked_iff.mpr ⟨b, entry', rfl⟩] at this
      cases this
    rw [same _ waiting]
    exact sound.waits b entry'
  · rw [same g (running g other)] at alive
    exact sound.stranded g y alive other
  · rw [same g (running g other)] at alive
    rw [refibered_primed]
    exact sound.primed g y alive other
  · change w.isRaised e = true at raised
    rw [fiberAt_refibered inside] at alive
    split at alive
    · next self =>
      have quiet := Fiber.not_courier_of_doneSignal signal
      refine drained_refibered inside old (fun y' mem => ?_) (done y alive e signal raised)
      rw [alive, Option.mem_def, Option.some.injEq] at mem
      subst mem
      exact .inr quiet
    · exact drained_refibered inside old moved (sound.done g y e alive signal raised)

theorem Scheduled.released {running : Nat} (sched : w.Scheduled (some running)) :
    w.Scheduled none :=
  { sched with runningFree := fun _ none_ => nomatch none_
               runningExists := fun _ none_ => nomatch none_ }

/-- A fiber that ended gives the invariant back with no fiber running. -/
theorem Sound.released (sound : w.Sound q₀ (some f)) (gone : w.fiberAt f = none) :
    w.Sound q₀ none := by
  have inside : f < w.fibers.size := sound.scheduled.runningExists f rfl
  have census_eq : ∀ kind : Fiber → Bool, w.census none kind = w.census (some f) kind :=
    fun kind => by simp [census, othersSum_release w inside, gone]
  exact
    { sound with
      scheduled := sound.scheduled.released
      stranded := fun g y alive _ => sound.stranded g y alive fun same => by
        cases same
        simp [gone] at alive
      primed := fun g y alive _ => sound.primed g y alive fun same => by
        cases same
        simp [gone] at alive
      staffed := by rw [census_eq]; exact sound.staffed
      parkedCounted := by rw [census_eq]; exact sound.parkedCounted }

end Refibered


/-- What a running fiber `f` that asks to wait on `waits` as `x` must leave: `x` is a fiber of
the queue of the same kind, whose state and waits fit, counted where it must be, naming a
done signal only raised once the queue drained, and primed for how it goes on — waiting, when
nothing is satisfied yet, or at once at the first satisfied wait. -/
structure Parks (q₀ : DeliveryQueue) (w : World) (f : Nat) (x : Fiber) (waits : List Wait) :
    Prop where
  kind : x.dispatching = true
  fits : q₀.Fits x
  waitsFit : q₀.WaitsFit x waits
  kept : ∃ y, w.fiberAt f = some y ∧ x.isCourier = y.isCourier ∧ x.isParked = y.isParked
  counted : x.isCourier = true → w.census (some f) Fiber.isCourier + 1 ≤ w.counter q₀.workers
  parkedCounted : x.isParked = true → w.census (some f) Fiber.isParked + 1 ≤ w.counter q₀.parked
  done : ∀ e, x.doneSignal = some e → w.isRaised e = true → q₀.Drained w
  blocks : waits.findIdx? w.satisfied = none → q₀.Primed w x true {}
  goesOn : ∀ k, waits.findIdx? w.satisfied = some k → ∀ m,
    q₀.Primed w x false { choice := k, message := m }

/-- What fiber `f` may rely on when it starts a step as `x` with resume `r`: the invariant with
`f` running, primed for `r`, which hands over only deliveries parked no more often than
allowed, and `f` counted where it must be. -/
structure Poised (q₀ : DeliveryQueue) (w : World) (f : Nat) (x : Fiber) (r : Resume) : Prop where
  sound : w.Sound q₀ (some f)
  alive : w.fiberAt f = some x
  primed : q₀.Primed w x false r
  bounded : ∀ d ∈ r.delivery?, q₀.Bounded d
  counted : x.isCourier = true → w.census (some f) Fiber.isCourier + 1 ≤ w.counter q₀.workers
  parkedCounted : x.isParked = true → w.census (some f) Fiber.isParked + 1 ≤ w.counter q₀.parked

/-- What fiber `f`'s step leaves behind: the invariant with `f` running and, when it asks to
wait, what parking needs. -/
def Stepped (q₀ : DeliveryQueue) (f : Nat) : Next → World → Prop
  | .exit, w => w.Sound q₀ (some f)
  | .wait x waits, w => w.Sound q₀ (some f) ∧ Parks q₀ w f x waits

/-- What parking fiber `f` as `x` leaves behind: the invariant with no fiber running when it
blocks, or `f` poised to go on at once. -/
def Parked (q₀ : DeliveryQueue) (f : Nat) (x : Fiber) : Option Resume → World → Prop
  | none, w => w.Sound q₀ none
  | some r, w => Poised q₀ w f x r


/-- Every signal raised in `w₀` is raised in `w`. -/
def RaisedFrom (w₀ w : World) : Prop := ∀ g, w₀.isRaised g = true → w.isRaised g = true

theorem isRaised_eq_of_signals {w w' : World} (signals : w'.signals = w.signals) :
    w'.isRaised = w.isRaised := by
  funext g
  simp [World.isRaised, signals]

theorem RaisedFrom.of_signals {w₀ w : World} (signals : w.signals = w₀.signals) : RaisedFrom w₀ w :=
  fun g raised => by rwa [isRaised_eq_of_signals signals]

theorem RaisedFrom.trans {w₁ w₂ w₃ : World} (first : RaisedFrom w₁ w₂) (second : RaisedFrom w₂ w₃) :
    RaisedFrom w₁ w₃ :=
  fun g raised => second g (first g raised)

/-- What a step keeps of the world `w₀` it starts from: no signal is lowered, and the close's
result stays as it was, unless the step ends with the close answering, that the queue drained
only once it did. -/
structure Keeps (q₀ : DeliveryQueue) (w₀ : World) (n : Next) (w : World) : Prop where
  raised : RaisedFrom w₀ w
  answer : w.choreResult = w₀.choreResult ∨
    n = .exit ∧ (w.choreResult = some (.closed none) → q₀.Drained w)

theorem Keeps.of_kept {q₀ : DeliveryQueue} {w₀ w : World} {n : Next} (signals : w.signals = w₀.signals)
    (chore : w.choreResult = w₀.choreResult) : Keeps q₀ w₀ n w :=
  ⟨.of_signals signals, .inl chore⟩

/-- A step of fiber `f`, from `w₀` as `x` with resume `r`, loses no delivery and counts none
twice: what the queue's counters and buffer and the other fibers account for, with what `f`
holds once the step ends, is what they accounted for before with what `f` held, but for a
parked delivery given up at shutdown. -/
def Tallied (f : Nat) (w₀ : World) (x : Fiber) (r : Resume) (n : Next) (w : World) : Prop :=
  w.account (some f) + n.holding + (if x.abandons r then 1 else 0) =
    w₀.account (some f) + (x.carried r).length

/-- What a step of fiber `f`, from `w₀` as `x` with resume `r`, leaves: what a step must; no
signal lowered; the close's result as it was, unless the step ends with the close answering,
that the queue drained only once it did or at the close's first step; the deliveries counted;
and no close before its first step, among the other fibers or as the fiber waits, which waits
as a parked delivery only if it was one. -/
structure Moved (q₀ : DeliveryQueue) (f : Nat) (w₀ : World) (x : Fiber) (r : Resume) (n : Next)
    (w : World) : Prop where
  stepped : Stepped q₀ f n w
  raised : RaisedFrom w₀ w
  answer : w.choreResult = w₀.choreResult ∨
    n = .exit ∧ (w.choreResult = some (.closed none) → q₀.Drained w ∨ x.opening = true)
  tally : Tallied f w₀ x r n w
  openings : w.census (some f) Fiber.opening = w₀.census (some f) Fiber.opening
  onward : ∀ y waits, n = .wait y waits → y.opening = false ∧ y.isParked = x.isParked

theorem Moved.of_keeps {q₀ : DeliveryQueue} {f : Nat} {w₀ w : World} {x : Fiber} {r : Resume}
    {n : Next} (stepped : Stepped q₀ f n w) (keeps : Keeps q₀ w₀ n w) (tally : Tallied f w₀ x r n w)
    (openings : w.census (some f) Fiber.opening = w₀.census (some f) Fiber.opening)
    (onward : ∀ y waits, n = .wait y waits → y.opening = false ∧ y.isParked = x.isParked) :
    Moved q₀ f w₀ x r n w :=
  ⟨stepped, keeps.raised,
    keeps.answer.imp id fun ⟨exit, drained⟩ => ⟨exit, fun answered => .inl (drained answered)⟩,
    tally, openings, onward⟩

theorem census_of_fibers {w w' : World} (fibers : w'.fibers = w.fibers) (running : Option Nat)
    (kind : Fiber → Bool) : w'.census running kind = w.census running kind := by
  have fiberAt_eq : w'.fiberAt = w.fiberAt := by
    funext g
    simp [fiberAt, fibers]
  simp only [census, othersSum, fibers, fiberAt_eq]

section Leaving

variable {q₀ : DeliveryQueue} {w : World} {f : Nat}

theorem isBlocked_append (b : Blocked) (g : Nat) :
    ({ w with blocked := w.blocked ++ [b] } : World).isBlocked g = (w.isBlocked g || b.fiber == g) := by
  simp [isBlocked, List.any_append]

/-- Counting with the running fiber among the others adds its own term. -/
theorem census_release (inside : f < w.fibers.size) (kind : Fiber → Bool) :
    w.census none kind = w.census (some f) kind + if ((w.fiberAt f).map kind).getD false then 1 else 0 :=
  othersSum_release w inside _

/-- The world once the running fiber `f` blocks on `waits`, with the alarms `alarms`. -/
def blockedOn (w : World) (f : Nat) (waits : List Wait) (alarms : List Alarm) (seq : Nat) : World :=
  { w with blocked := w.blocked ++ [⟨f, waits⟩], alarms, seq }

@[simp] theorem blockedOn_resumes {waits : List Wait} {alarms : List Alarm} {seq : Nat} :
    (w.blockedOn f waits alarms seq).resumes = w.resumes := rfl
@[simp] theorem blockedOn_counter {waits : List Wait} {alarms : List Alarm} {seq : Nat} :
    (w.blockedOn f waits alarms seq).counter = w.counter := rfl

/-- A running fiber that blocks on waits that fit it, primed to wait, with alarms set for its
alarm waits only, gives the invariant back with no fiber running. -/
theorem Sound.blocked (sound : w.Sound q₀ (some f)) {x : Fiber} (alive : w.fiberAt f = some x)
    {waits : List Wait} (fit : q₀.WaitsFit x waits) (primed : q₀.Primed w x true {})
    (counted : x.isCourier = true → w.census (some f) Fiber.isCourier + 1 ≤ w.counter q₀.workers)
    (parkedCounted : x.isParked = true →
      w.census (some f) Fiber.isParked + 1 ≤ w.counter q₀.parked)
    {alarms : List Alarm}
    (set : ∀ a ∈ alarms, a ∈ w.alarms ∨ a.fiber = some f ∧ waits[a.choice]? = some (.alarm a.due))
    (seq : Nat) : (w.blockedOn f waits alarms seq).Sound q₀ none := by
  have sched := sound.scheduled
  have inside : f < w.fibers.size := sched.runningExists f rfl
  obtain ⟨free, unready⟩ := sched.runningFree f rfl
  have blocks : ∀ g, (w.blockedOn f waits alarms seq).isBlocked g = (w.isBlocked g || f == g) :=
    isBlocked_append (w := { w with alarms, seq }) _
  have census_eq : ∀ kind : Fiber → Bool, (w.blockedOn f waits alarms seq).census none kind =
      w.census (some f) kind + if kind x then 1 else 0 := fun kind => by
    rw [census_release (w := w.blockedOn f waits alarms seq) inside]
    have here : (w.blockedOn f waits alarms seq).fiberAt f = some x := alive
    rw [here]
    rfl
  refine
    { scheduled := ⟨?_, sched.readyOnce, fun g mem => ?_, fun _ none_ => (nomatch none_),
        fun _ none_ => (nomatch none_), fun b entry => ?_, sched.readyExist, sched.slots⟩
      outlet := sound.outlet
      signal := sound.signal
      kinds := sound.kinds
      fits := sound.fits
      waits := fun b entry => ?_
      buffered := sound.buffered
      resumes := sound.resumes
      alarms := fun a mem g owner => ?_
      stranded := fun g y alive' _ => ?_
      primed := fun g y alive' _ => ?_
      shut := sound.shut
      opened := sound.opened
      emptied := sound.emptied
      done := sound.done
      staffed := ?_
      parkedCounted := ?_
      apart := sound.apart
      parkedSlot := sound.parkedSlot }
  · show (List.map (·.fiber) (w.blocked ++ [⟨f, waits⟩])).Nodup
    rw [List.map_append, List.nodup_append]
    refine ⟨sched.waitsOnce, List.nodup_singleton _, fun a mem b same => ?_⟩
    simp only [List.map_cons, List.map_nil, List.mem_singleton] at same
    subst same
    intro eq
    subst eq
    obtain ⟨b, entry, rfl⟩ := List.mem_map.mp mem
    simp [isBlocked_iff.mpr ⟨b, entry, rfl⟩] at free
  · rw [blocks, sched.readyFree g mem]
    simp only [Bool.false_or, beq_eq_false_iff_ne]
    exact fun same => unready (same ▸ mem)
  · rcases List.mem_append.mp entry with old | fresh
    · exact sched.waitersExist b old
    · simp only [List.mem_singleton] at fresh
      subst fresh
      exact inside
  · rcases List.mem_append.mp entry with old | fresh
    · exact sound.waits b old
    · simp only [List.mem_singleton] at fresh
      subst fresh
      exact ⟨x, alive, fit⟩
  · rcases set a mem with old | ⟨self, at_⟩
    · obtain ⟨b, entry, owned, at_⟩ := sound.alarms a old g owner
      exact ⟨b, List.mem_append_left _ entry, owned, at_⟩
    · rw [self, Option.some.injEq] at owner
      subst owner
      exact ⟨⟨f, waits⟩, List.mem_append_right _ (List.mem_singleton_self _), rfl, at_⟩
  · rw [blocks]
    by_cases same : g = f
    · simp [same]
    · have other : some f ≠ some g := fun eq => same (Option.some.inj eq).symm
      rcases sound.stranded g y alive' other with blocked | ready
      · exact .inl (by simp [blocked])
      · exact .inr ready
  · have pending_eq : (w.blockedOn f waits alarms seq).pending g =
        if f = g then {} else w.pending g := by
      simp only [pending, blocks]
      by_cases same : f = g <;> simp [same]
    have primed_eq : q₀.Primed (w.blockedOn f waits alarms seq) = q₀.Primed w := rfl
    rw [primed_eq, pending_eq, blocks]
    by_cases same : f = g
    · subst same
      have : y = x := Option.some.inj (alive'.symm.trans alive)
      subst this
      simpa using primed
    · have other : some f ≠ some g := fun eq => same (Option.some.inj eq)
      have apart : (f == g) = false := beq_eq_false_iff_ne.mpr same
      simpa [same, apart] using sound.primed g y alive' other
  · rw [census_eq]
    have := sound.staffed
    cases courier : x.isCourier
    · simpa using this
    · simpa using counted courier
  · rw [census_eq]
    have := sound.parkedCounted
    cases parked : x.isParked
    · simpa using this
    · simpa using parkedCounted parked

/-- The world once the running fiber `f` yields, ready to go on with `r`. -/
def yielded (w : World) (f : Nat) (r : Resume) : World :=
  { w with resumes := w.resumes.set! f r, queue := w.queue.ready f }

@[simp] theorem yielded_resumes {r : Resume} : (w.yielded f r).resumes = w.resumes.set! f r := rfl
@[simp] theorem yielded_counter {r : Resume} : (w.yielded f r).counter = w.counter := rfl
theorem yielded_isBlocked {r : Resume} : (w.yielded f r).isBlocked = w.isBlocked := rfl

/-- A running fiber that yields gives the invariant back with no fiber running, when it is
poised for the resume it goes on with, if it has not ended. -/
theorem Sound.yielded (sound : w.Sound q₀ (some f)) {r : Resume}
    (bounded : ∀ d ∈ r.delivery?, q₀.Bounded d) (poised : ∀ x, w.fiberAt f = some x → Poised q₀ w f x r) :
    (w.yielded f r).Sound q₀ none := by
  have sched := sound.scheduled
  have inside : f < w.fibers.size := sched.runningExists f rfl
  obtain ⟨free, unready⟩ := sched.runningFree f rfl
  have slot : f < w.resumes.size := sched.slots ▸ inside
  have pending_eq : ∀ g, (w.yielded f r).pending g = if g = f then r else w.pending g := fun g => by
    by_cases same : g = f
    · subst same
      simp only [pending, yielded_isBlocked, free, yielded_resumes]
      simp [slot]
    · simp only [pending, yielded_isBlocked, yielded_resumes]
      simp [same, Array.getElem?_setIfInBounds_ne (Ne.symm same)]
  have census_eq : ∀ kind : Fiber → Bool, (w.yielded f r).census none kind =
      w.census (some f) kind + if ((w.fiberAt f).map kind).getD false then 1 else 0 :=
    fun kind => census_release (w := w.yielded f r) inside kind
  refine
    { scheduled := ⟨sched.waitsOnce, RunQueue.nodup_ready unready sched.readyOnce,
        fun g mem => ?_, fun _ none_ => (by cases none_), fun _ none_ => (by cases none_),
        sched.waitersExist, fun g mem => ?_, by simpa [World.yielded] using sched.slots⟩
      outlet := sound.outlet
      signal := sound.signal
      kinds := sound.kinds
      fits := sound.fits
      waits := sound.waits
      buffered := sound.buffered
      resumes := fun r' mem => ?_
      alarms := sound.alarms
      stranded := fun g y alive' _ => ?_
      primed := fun g y alive' _ => ?_
      shut := sound.shut
      opened := sound.opened
      emptied := sound.emptied
      done := sound.done
      staffed := ?_
      parkedCounted := ?_
      apart := sound.apart
      parkedSlot := sound.parkedSlot }
  · rcases RunQueue.mem_ready.mp mem with rfl | mem
    · exact free
    · exact sched.readyFree g mem
  · rcases RunQueue.mem_ready.mp mem with rfl | mem
    · exact inside
    · exact sched.readyExist g mem
  · rcases Array.mem_or_eq_of_mem_setIfInBounds mem with old | rfl
    · exact sound.resumes r' old
    · exact bounded
  · by_cases same : g = f
    · exact .inr (RunQueue.mem_ready.mpr (.inl same))
    · have other : some f ≠ some g := fun eq => same (Option.some.inj eq).symm
      rcases sound.stranded g y alive' other with blocked | ready
      · exact .inl blocked
      · exact .inr (RunQueue.mem_ready.mpr (.inr ready))
  · have primed_eq : q₀.Primed (w.yielded f r) = q₀.Primed w := rfl
    have blocked_eq : (w.yielded f r).isBlocked = w.isBlocked := rfl
    rw [primed_eq, blocked_eq, pending_eq]
    by_cases same : g = f
    · subst same
      simpa [free] using (poised y alive').primed
    · have other : some f ≠ some g := fun eq => same (Option.some.inj eq).symm
      simpa [same] using sound.primed g y alive' other
  · rw [census_eq]
    cases alive : w.fiberAt f with
    | none => simpa using sound.staffed
    | some x =>
      cases courier : x.isCourier
      · simpa [courier] using sound.staffed
      · simpa [courier] using (poised x alive).counted courier
  · rw [census_eq]
    cases alive : w.fiberAt f with
    | none => simpa using sound.parkedCounted
    | some x =>
      cases parked : x.isParked
      · simpa [parked] using sound.parkedCounted
      · simpa [parked] using (poised x alive).parkedCounted parked

end Leaving


section Park

variable {q₀ : DeliveryQueue} {f : Nat} {x : Fiber} {waits : List Wait}

/-- A loop that sets, for some of its items, an alarm of fiber `f` adds alarms of `f` only, one
for an alarm wait among the items, and changes nothing else. -/
theorem forIn_alarms_run {ws : List (Wait × Nat)}
    {body : Wait × Nat → PUnit → WorldM (ForInStep PUnit)}
    (each : ∀ p (w : World), ∃ L : List Alarm, (body p PUnit.unit).run w =
      (.yield PUnit.unit, { w with alarms := w.alarms ++ L, seq := w.seq + L.length }) ∧
      ∀ a ∈ L, a.fiber = some f ∧ p = (.alarm a.due, a.choice))
    (w : World) :
    ∃ L : List Alarm, (forIn ws PUnit.unit body).run w =
      (PUnit.unit, { w with alarms := w.alarms ++ L, seq := w.seq + L.length }) ∧
      ∀ a ∈ L, a.fiber = some f ∧ (.alarm a.due, a.choice) ∈ ws := by
  induction ws generalizing w with
  | nil => exact ⟨[], by simp; rfl, by simp⟩
  | cons p rest ih =>
    obtain ⟨L₁, first, owned₁⟩ := each p w
    obtain ⟨L₂, second, owned₂⟩ :=
      ih ({ w with alarms := w.alarms ++ L₁, seq := w.seq + L₁.length } : World)
    refine ⟨L₁ ++ L₂, ?_, fun a mem => ?_⟩
    · have step : (forIn (p :: rest) PUnit.unit body).run w = (forIn rest PUnit.unit body).run
          { w with alarms := w.alarms ++ L₁, seq := w.seq + L₁.length } := by
        simp only [List.forIn_cons, StateT.run_bind, first]
        rfl
      rw [step, second]
      simp only [List.append_assoc, List.length_append, Nat.add_assoc]
    · rcases List.mem_append.mp mem with old | new
      · obtain ⟨owner, rfl⟩ := owned₁ a old
        exact ⟨owner, List.mem_cons_self⟩
      · obtain ⟨owner, at_⟩ := owned₂ a new
        exact ⟨owner, List.mem_cons_of_mem _ at_⟩

theorem waits_inbox {x : Fiber} {waits : List Wait} (fit : q₀.WaitsFit x waits) {k ch : Nat}
    (at_ : waits[k]? = some (.inbox ch)) : ch = q₀.queue := by
  have mem := List.mem_of_getElem? at_
  cases x with
  | courier c =>
    rcases fit with ⟨-, rfl⟩ | ⟨d, s, k, t, -, rfl⟩ <;> simp_all [Courier.idle]
  | parked d due waiting =>
    cases waiting <;> simp_all [DeliveryQueue.WaitsFit]
  | closer p done =>
    rcases q₀.waitsFit_closer fit with ⟨-, rfl⟩ | ⟨-, rfl⟩ <;> simp_all
  | chore c =>
    cases c with
    | closeQueue s done => cases done <;> simp_all [DeliveryQueue.WaitsFit]
    | _ => simp [DeliveryQueue.WaitsFit] at fit
  | _ => simp [DeliveryQueue.WaitsFit] at fit

/-- A parking fiber that sets alarms for its alarm waits and goes no further leaves what its
alarms leave. -/
theorem parked_of_alarms {ws : List (Wait × Nat)}
    {body : Wait × Nat → PUnit → WorldM (ForInStep PUnit)}
    (each : ∀ p (v : World), ∃ L : List Alarm, (body p PUnit.unit).run v =
      (.yield PUnit.unit, { v with alarms := v.alarms ++ L, seq := v.seq + L.length }) ∧
      ∀ a ∈ L, a.fiber = some f ∧ p = (.alarm a.due, a.choice))
    {W : World}
    (blocked : ∀ L : List Alarm, (∀ a ∈ L, a.fiber = some f ∧ (.alarm a.due, a.choice) ∈ ws) →
      ({ W with alarms := W.alarms ++ L, seq := W.seq + L.length } : World).Sound q₀ none) :
    Parked q₀ f x ((do forIn ws PUnit.unit body; pure none : WorldM (Option Resume)).run W).1
      ((do forIn ws PUnit.unit body; pure none : WorldM (Option Resume)).run W).2 := by
  obtain ⟨L, looped, owned⟩ := forIn_alarms_run each W
  rw [StateT.run_bind, looped]
  exact blocked L owned

/-- Parking a running fiber as `x` on `waits` blocks it, giving the invariant back with no
fiber running, or lets it go on at once at the first satisfied wait, poised for its next
step. -/
theorem park_parked (f : Nat) (x : Fiber) (waits : List Wait) :
    ⦃fun w => ⌜w.Sound q₀ (some f) ∧ Parks q₀ w f x waits⌝⦄ park f x waits
      ⦃⇓ r w => ⌜Parked q₀ f x r w⌝⦄ := by
  apply triple_of_run
  rintro w ⟨sound, parks⟩
  obtain ⟨y₀, old, kept⟩ := parks.kept
  have inside : f < w.fibers.size := sound.scheduled.runningExists f rfl
  have here : (w.refibered f (some x)).fiberAt f = some x := by
    rw [fiberAt_refibered inside, if_pos rfl]
  have sound₁ : (w.refibered f (some x)).Sound q₀ (some f) :=
    sound.refibered old (fun y mem => by cases mem; exact parks.kind)
      (fun y mem => by cases mem; exact parks.fits) (fun y mem => by cases mem; exact kept)
      (fun y mem => by cases mem; exact parks.done)
  have satisfied_eq : (w.refibered f (some x)).satisfied = w.satisfied := rfl
  have census_eq := refibered_census (x := some x) inside
  simp only [park, StateT.run_bind, StateT.run_modify, StateT.run_get, pure_bind]
  generalize hw₁ : ({ w with fibers := w.fibers.set! f (some x) } : World) = w₁
  change w.refibered f (some x) = w₁ at hw₁
  subst hw₁
  rw [satisfied_eq]
  split
  · next k first =>
    have primed : q₀.Primed (w.refibered f (some x)) = q₀.Primed w := rfl
    split
    · next ch at_ =>
      obtain rfl : ch = q₀.queue := waits_inbox parks.waitsFit at_
      have alike := receive?_alike (w.refibered f (some x)) q₀.queue
      have taken := receive?_result (w.refibered f (some x)) q₀.queue
      show Poised q₀ ((receive? q₀.queue).run (w.refibered f (some x))).run.2 f x
        { choice := k, message := ((receive? q₀.queue).run (w.refibered f (some x))).run.1 }
      refine ⟨sound₁.received, alike.fiberAt ▸ here, ?_, fun d mem => ?_,
        fun courier => ?_, fun parked => ?_⟩
      · rw [alike.primed, primed]
        exact parks.goesOn k first _
      · rw [taken] at mem
        cases head : (w.refibered f (some x)).buffer q₀.queue with
        | nil => simp [head, Resume.delivery?] at mem
        | cons m rest =>
          obtain ⟨d', rfl, bounded⟩ := sound₁.buffered m (by simp [head])
          simp only [head, List.head?_cons, Resume.delivery?, Option.mem_def,
            Option.some.injEq] at mem
          exact mem ▸ bounded
      · rw [alike.census, census_eq, alike.counter]
        exact parks.counted courier
      · rw [alike.census, census_eq, alike.counter]
        exact parks.parkedCounted parked
    · show Poised q₀ (w.refibered f (some x)) f x { choice := k }
      refine ⟨sound₁, here, ?_, fun d mem => by simp [Resume.delivery?] at mem,
        fun courier => ?_, fun parked => ?_⟩
      · rw [primed]
        exact parks.goesOn k first none
      · rw [census_eq]
        exact parks.counted courier
      · rw [census_eq]
        exact parks.parkedCounted parked
  · next none_ =>
    show Parked q₀ f x ((do forIn waits.zipIdx PUnit.unit _; pure none : WorldM (Option Resume)).run
      ((w.refibered f (some x)).blockedOn f waits (w.refibered f (some x)).alarms
        (w.refibered f (some x)).seq)).1 _
    apply parked_of_alarms
    · rintro ⟨wt, k⟩ v
      cases wt with
      | alarm due =>
        exact ⟨[{ due, seq := v.seq, fiber := some f, choice := k, scope := none }], rfl, by simp⟩
      | _ => exact ⟨[], by simp; rfl, by simp⟩
    · intro L owned
      refine sound₁.blocked here parks.waitsFit (parks.blocks none_) ?_ ?_ (fun a mem => ?_) _
      · rw [census_eq]
        exact parks.counted
      · rw [census_eq]
        exact parks.parkedCounted
      · rcases List.mem_append.mp mem with old | new
        · exact .inl old
        · obtain ⟨owner, listed⟩ := owned a new
          exact .inr ⟨owner, List.mem_zipIdx_iff_getElem?.mp listed⟩

end Park


section Primed

variable {q₀ : DeliveryQueue} {w : World}

theorem answers_of_satisfied {wt : Wait} (hit : w.satisfied wt = true) : w.answers wt = true := by
  cases wt <;> simp_all [answers]

/-- What a fiber relies on reads only the choice of its resume, not the message. -/
theorem primed_message (x : Fiber) (waiting : Bool) (k : Nat) (m : Option Message) :
    q₀.Primed w x waiting { choice := k, message := m } = q₀.Primed w x waiting { choice := k } := by
  cases x with
  | parked d due waiting' => cases waiting' <;> rfl
  | chore c =>
    cases c with
    | closeQueue s done => cases done <;> rfl
    | _ => rfl
  | _ => rfl

/-- A fiber primed to wait is primed to go on at the first of its waits that is satisfied. -/
theorem parks_of_primed {f : Nat} {x : Fiber} {waits : List Wait} (kind : x.dispatching = true)
    (fits : q₀.Fits x) (fit : q₀.WaitsFit x waits)
    (kept : ∃ y, w.fiberAt f = some y ∧ x.isCourier = y.isCourier ∧ x.isParked = y.isParked)
    (counted : x.isCourier = true → w.census (some f) Fiber.isCourier + 1 ≤ w.counter q₀.workers)
    (parkedCounted : x.isParked = true →
      w.census (some f) Fiber.isParked + 1 ≤ w.counter q₀.parked)
    (done : ∀ e, x.doneSignal = some e → w.isRaised e = true → q₀.Drained w)
    (primed : q₀.Primed w x true {}) : Parks q₀ w f x waits where
  kind := kind
  fits := fits
  waitsFit := fit
  kept := kept
  counted := counted
  parkedCounted := parkedCounted
  done := done
  blocks := fun _ => primed
  goesOn := fun k first m => by
    obtain ⟨inside, hit, -⟩ := List.findIdx?_eq_some_iff_getElem.mp first
    rw [primed_message]
    exact primed_of_answers fit (List.getElem?_eq_getElem inside) (answers_of_satisfied hit) primed

/-- No fiber but the running one is of a kind whose count is zero. -/
theorem kind_false_of_census {running : Option Nat} {kind : Fiber → Bool}
    (zero : w.census running kind = 0) {g : Nat} {x : Fiber} (alive : w.fiberAt g = some x)
    (other : running ≠ some g) : kind x = false := by
  have inside : g < w.fibers.size := by
    by_contra out
    simp [fiberAt, Array.getElem?_eq_none (Nat.le_of_not_lt out)] at alive
  unfold census othersSum at zero
  have term := (Finset.sum_eq_zero_iff.mp zero) g (Finset.mem_range.mpr inside)
  simpa [other, alive] using term

end Primed


/-- What no wake changes, no run of wakes changes. -/
theorem Stirred.keeps {α : Type} {running : Option Nat} {w w' : World}
    (stirred : Stirred running w w') (view : World → α) (kept : ∀ w g r, view (w.woken g r) = view w) :
    view w' = view w := by
  induction stirred with
  | refl => rfl
  | wake _ _ _ _ _ ih => rw [ih, kept]

/-- What neither ending scopes nor waking changes, ending a scope keeps. -/
theorem endScope_keeps {α : Type} {running : Option Nat} {w : World} (sched : w.Scheduled running)
    (s : Nat) (e : Ending) (view : World → α) (kept : ∀ w g r, view (w.woken g r) = view w)
    (ended : view (w.scopesEnded s e) = view w) : view ((endScope s e).run w).run.2 = view w :=
  ((endScope_stirred s e sched).keeps view kept).trans ended

/-- The world with signal `g` raised, before its watchers are woken. -/
def signalled (w : World) (g : Nat) : World := { w with signals := w.signals.set! g true }

section Raising

variable {q₀ : DeliveryQueue} {running : Option Nat} {w : World} {g : Nat}

theorem isRaised_signalled (inside : g < w.signals.size) (e : Nat) :
    (w.signalled g).isRaised e = (e == g || w.isRaised e) := by
  by_cases same : e = g
  · subst same
    simp [isRaised, signalled, inside]
  · simp [isRaised, signalled, same, Array.getElem?_setIfInBounds_ne (Ne.symm same)]

theorem signalled_scheduled (sched : w.Scheduled running) : (w.signalled g).Scheduled running :=
  ⟨sched.waitsOnce, sched.readyOnce, sched.readyFree, sched.runningFree, sched.runningExists,
    sched.waitersExist, sched.readyExist, sched.slots⟩

/-- Raising a signal other than shutdown keeps every fiber primed: a raised signal only lets
the close go on. -/
theorem primed_signalled (inside : g < w.signals.size) (other : g ≠ q₀.shutdown) {x : Fiber}
    {waiting : Bool} {r : Resume} (before : q₀.Primed w x waiting r) :
    q₀.Primed (w.signalled g) x waiting r := by
  have shut : (w.signalled g).isRaised q₀.shutdown = w.isRaised q₀.shutdown := by
    rw [isRaised_signalled inside]
    simp [Ne.symm other]
  have more : ∀ e, w.isRaised e = true → (w.signalled g).isRaised e = true := fun e raised => by
    rw [isRaised_signalled inside, raised, Bool.or_true]
  have sized : (w.signalled g).signals.size = w.signals.size := by simp [signalled]
  have closed : (w.signalled g).closedQueue = w.closedQueue := rfl
  have counts : (w.signalled g).counter = w.counter := rfl
  cases x with
  | courier c => simpa only [DeliveryQueue.Primed, shut] using before
  | parked d due waiting' =>
    cases waiting' with
    | false => trivial
    | true => simpa only [DeliveryQueue.Primed, shut] using before
  | closer p done => simpa only [DeliveryQueue.Primed, closed, sized, counts] using before
  | chore c =>
    cases c with
    | closeQueue s done =>
      cases done with
      | none => trivial
      | some done =>
        obtain ⟨closedQ, apart, below, answered⟩ := before
        exact ⟨closed ▸ closedQ, apart, sized ▸ below, fun idle zero => more _ (answered idle zero)⟩
    | _ => trivial
  | _ => trivial

/-- Raising a signal other than shutdown, once the queue drained, keeps the invariant before
the signal's watchers are woken. -/
theorem Sound.signalled (sound : w.Sound q₀ running) (other : g ≠ q₀.shutdown)
    (inside : g < w.signals.size) (drained : q₀.Drained w) : (w.signalled g).Sound q₀ running where
  scheduled := signalled_scheduled sound.scheduled
  outlet := sound.outlet
  signal := by simpa [World.signalled] using sound.signal
  kinds := sound.kinds
  fits := sound.fits
  waits := sound.waits
  buffered := sound.buffered
  resumes := sound.resumes
  alarms := sound.alarms
  stranded := sound.stranded
  primed := fun h x alive other' => primed_signalled inside other (sound.primed h x alive other')
  shut := by
    have apart : (q₀.shutdown == g) = false := beq_eq_false_iff_ne.mpr (Ne.symm other)
    rw [isRaised_signalled inside, apart, Bool.false_or]
    exact sound.shut
  opened := sound.opened
  emptied := sound.emptied
  done := fun h x e alive signal raised => by
    rw [isRaised_signalled inside] at raised
    by_cases same : e = g
    · exact drained
    · rw [beq_eq_false_iff_ne.mpr same, Bool.false_or] at raised
      exact sound.done h x e alive signal raised
  staffed := sound.staffed
  parkedCounted := sound.parkedCounted
  apart := sound.apart
  parkedSlot := sound.parkedSlot

/-- What raising a signal does: the signal is set, and its watchers are woken. -/
theorem raise_stirred (inside : g < w.signals.size) (sched : w.Scheduled running) :
    Stirred running (w.signalled g) ((raise g).run w).run.2 :=
  wakeEvery_stirred (signalled_scheduled sched) (p := (· == .signal g)) fun wt hit => by
    simp only [beq_iff_eq] at hit
    subst hit
    simp [answers, satisfied, isRaised_signalled inside]

/-- Raising a signal other than shutdown once the queue drained keeps the invariant. -/
theorem Sound.raised (sound : w.Sound q₀ running) (other : g ≠ q₀.shutdown)
    (inside : g < w.signals.size) (drained : q₀.Drained w) :
    ((raise g).run w).run.2.Sound q₀ running :=
  (raise_stirred inside sound.scheduled).sound (sound.signalled other inside drained)

/-- Raising a signal lowers none. -/
theorem raisedFrom_raise (inside : g < w.signals.size) (sched : w.Scheduled running) :
    RaisedFrom w ((raise g).run w).run.2 := fun e up => by
  rw [isRaised_eq_of_signals ((raise_stirred inside sched).keeps World.signals fun _ _ _ => rfl),
    isRaised_signalled inside, up, Bool.or_true]

/-- Ending a scope keeps the invariant. -/
theorem Sound.scopeEnded (sound : w.Sound q₀ running) (s : Nat) (e : Ending) :
    ((endScope s e).run w).run.2.Sound q₀ running :=
  (endScope_stirred s e sound.scheduled).sound ((scopesEnded_alike w s e).sound rfl sound)

/-- Ending a scope keeps the account: its watchers are woken with nothing handed over. -/
theorem account_scopeEnded (sched : w.Scheduled running) (s : Nat) (e : Ending) :
    ((endScope s e).run w).run.2.account running = w.account running :=
  ((endScope_stirred s e sched).account ((scopesEnded_alike w s e).scheduled sched)).trans
    ((scopesEnded_alike w s e).account rfl running)

/-- Raising a signal keeps the account. -/
theorem account_raised (inside : g < w.signals.size) (sched : w.Scheduled running) :
    ((raise g).run w).run.2.account running = w.account running :=
  (raise_stirred inside sched).account (signalled_scheduled sched)

end Raising


section Steps

variable {q₀ : DeliveryQueue} {f : Nat}

/-- The closer's steps: it waits for the workers to stop, then for the parked deliveries, and
then, the queue drained, raises its done signal. -/
theorem closerStep_stepped (phase done : Nat) {w : World} {r : Resume}
    (poised : Poised q₀ w f (.closer phase done) r) :
    ⦃fun w' => ⌜w' = w⌝⦄ closerStep phase done
      ⦃⇓ n w' => ⌜Moved q₀ f w (.closer phase done) r n w'⌝⦄ := by
  apply triple_of_run
  intro w' same
  subst w'
  have sound := poised.sound
  obtain ⟨q, found, agrees⟩ := sound.outlet
  obtain ⟨closed, apart, below, one, two⟩ := poised.primed
  have kept : ∀ p, ∃ y, w.fiberAt f = some y ∧ (Fiber.closer p done).isCourier = y.isCourier ∧
      (Fiber.closer p done).isParked = y.isParked := fun p => ⟨_, poised.alive, rfl, rfl⟩
  have drained : ∀ p e, (Fiber.closer p done).doneSignal = some e → w.isRaised e = true →
      q₀.Drained w := fun p e signal raised =>
    sound.done f _ e poised.alive (by simpa [Fiber.doneSignal] using signal) raised
  rcases phase with _ | _ | p
  · -- phase 0: wait for the workers
    simp only [closerStep, StateT.run_bind, StateT.run_get, pure_bind, found, agrees.workers]
    show Moved q₀ f w _ r (.wait (.closer 1 done) [.drained q₀.workers]) w
    refine .of_keeps ⟨sound, parks_of_primed rfl trivial rfl (kept 1) (fun h => by cases h)
      (fun h => by cases h) (drained 1) ⟨closed, apart, below, ?_, ?_⟩⟩ (.of_kept rfl rfl) rfl rfl
      fun _ _ waits => by cases waits; exact ⟨rfl, rfl⟩
    · intro _ waiting
      cases waiting
    · intro big
      omega
  · -- phase 1: wait for the parked deliveries
    simp only [closerStep, StateT.run_bind, StateT.run_get, pure_bind, found, agrees.parked]
    show Moved q₀ f w _ r (.wait (.closer 2 done) [.drained q₀.parked]) w
    refine .of_keeps ⟨sound, parks_of_primed rfl trivial rfl (kept 2) (fun h => by cases h)
      (fun h => by cases h) (drained 2) ⟨closed, apart, below, ?_, ?_⟩⟩ (.of_kept rfl rfl) rfl rfl
      fun _ _ waits => by cases waits; exact ⟨rfl, rfl⟩
    · intro two
      cases two
    · intro _
      exact ⟨one rfl rfl, fun waiting => by cases waiting⟩
  · -- phase 2 and on: both counters drained
    obtain ⟨workers, parked⟩ := two (by omega)
    -- With no worker and no parked delivery counted, none is left but possibly the closer.
    have empty : q₀.Drained w := by
      refine ⟨sound.emptied closed workers, fun g y alive => ?_⟩
      by_cases self : g = f
      · subst self
        rw [poised.alive, Option.some.injEq] at alive
        subst alive
        exact ⟨rfl, rfl⟩
      · have other : some f ≠ some g := fun eq => self (Option.some.inj eq).symm
        exact ⟨kind_false_of_census (Nat.le_zero.mp (workers ▸ sound.staffed)) alive other,
          kind_false_of_census (Nat.le_zero.mp (parked rfl ▸ sound.parkedCounted)) alive other⟩
    simp only [closerStep, StateT.run_bind, StateT.run_get, pure_bind, found]
    have stirred := raise_stirred (g := done) below sound.scheduled
    exact .of_keeps (sound.raised apart below empty) ⟨raisedFrom_raise below sound.scheduled,
      .inl (stirred.keeps World.choreResult fun _ _ _ => rfl)⟩
      (congrArg (· + 0 + 0) (account_raised below sound.scheduled))
      (stirred.keeps (·.census (some f) Fiber.opening) fun _ _ _ => rfl) fun _ _ exit => by cases exit

/-- A deadline's expiry ends its scope and stops. -/
theorem expireStep_stepped (s : Nat) {w : World} {r : Resume} (poised : Poised q₀ w f (.expire s) r) :
    ⦃fun w' => ⌜w' = w⌝⦄ expireStep s ⦃⇓ n w' => ⌜Moved q₀ f w (.expire s) r n w'⌝⦄ := by
  apply triple_of_run
  intro w' same
  subst w'
  have sched := poised.sound.scheduled
  exact .of_keeps (poised.sound.scopeEnded s .deadlineExceeded)
    (.of_kept (endScope_keeps sched s _ World.signals (fun _ _ _ => rfl) rfl)
      (endScope_keeps sched s _ World.choreResult (fun _ _ _ => rfl) rfl))
    (congrArg (· + 0 + 0) (account_scopeEnded sched s _))
    (endScope_keeps sched s _ (·.census (some f) Fiber.opening) (fun _ _ _ => rfl) rfl)
    fun _ _ exit => nomatch exit

end Steps

end World

end JobEngine

import JobEngine.Proofs.Dispatch.Workers

/-!
# Closing the delivery queue

The close of an open queue marks it closed, raises shutdown, and starts the closer that sees
the workers and the parked deliveries stop. Raising shutdown wakes its watchers, the most
recent first: the idle workers, which start draining, and the parked deliveries, which are
abandoned. Between two of these wakes the invariant does not hold: a parked delivery still
waiting when shutdown is raised could still go back on the queue.

The wakes of distinct fibers commute, but for the order in which the woken fibers get ready;
and the invariant reads the ready fibers only as a set. So the wakes are taken in another
order: the parked deliveries first, while the queue is still open, then the queue is closed and
shutdown raised, then the workers are woken, each step keeping the invariant.

## Main Definitions

* `World.Requeued` — the same world with its ready fibers in another order.
* `World.wokenAll` — the world after a list of wakes.
* `World.shutDown` — the queue closed, with shutdown raised and its watchers not yet woken.

## Main Statements

* `World.wokenAll_perm` — wakes of distinct fibers in any order leave the same world, but for
  the order of the ready fibers.
* `World.Sound.shutdownRaised` — closing an open queue keeps the invariant, once every parked
  delivery that waited still waits.
* `World.closeStep_stepped` — the first step of the close of an open queue.
* `World.Poised.drained_of_woken` — the close woken by the closer finds the queue drained.
* `World.closeAnswer_stepped` — the close's answer, that the queue drained only once it did.
-/

namespace JobEngine

theorem RunQueue.ready_perm (t : Nat) (q : RunQueue) : (q.ready t).toList.Perm (t :: q.toList) := by
  rw [RunQueue.toList_ready]
  cases h : q.front with
  | none => simp [RunQueue.toList, h]
  | some r => simp [RunQueue.toList, h]

namespace World

/-- `w'` is `w` with its ready fibers in another order. -/
def Requeued (w w' : World) : Prop :=
  ∃ q : RunQueue, w' = { w with queue := q } ∧ q.toList.Perm w.queue.toList

section Requeued

variable {w w' w₂ : World}

theorem Requeued.refl (w : World) : Requeued w w := ⟨w.queue, rfl, .refl _⟩

theorem Requeued.symm (requeued : Requeued w w') : Requeued w' w := by
  obtain ⟨q, rfl, perm⟩ := requeued
  exact ⟨w.queue, rfl, perm.symm⟩

theorem Requeued.trans (first : Requeued w w') (second : Requeued w' w₂) : Requeued w w₂ := by
  obtain ⟨q, rfl, perm⟩ := first
  obtain ⟨q', rfl, perm'⟩ := second
  exact ⟨q', rfl, perm'.trans perm⟩

/-- Waking a fiber keeps two worlds alike but for the order of their ready fibers. -/
theorem Requeued.woken (requeued : Requeued w w') (g : Nat) (r : Resume) :
    Requeued (w.woken g r) (w'.woken g r) := by
  obtain ⟨q, rfl, perm⟩ := requeued
  refine ⟨q.ready g, rfl, ?_⟩
  exact (RunQueue.ready_perm g q).trans ((perm.cons g).trans (RunQueue.ready_perm g w.queue).symm)

/-- Wakes of distinct fibers commute, but for the order of the ready fibers. -/
theorem woken_comm {g g' : Nat} (ne : g ≠ g') (r r' : Resume) :
    Requeued ((w.woken g r).woken g' r') ((w.woken g' r').woken g r) := by
  refine ⟨((w.woken g' r').woken g r).queue, ?_, ?_⟩
  · simp only [woken, World.mk.injEq, List.filter_filter, Bool.and_comm, true_and, and_true]
    exact Array.setIfInBounds_comm _ _ ne.symm
  · -- both orders make the two fibers ready in front of the others
    have first : ((w.queue.ready g).ready g').toList.Perm (g' :: g :: w.queue.toList) :=
      (RunQueue.ready_perm _ _).trans ((RunQueue.ready_perm _ _).cons g')
    have second : ((w.queue.ready g').ready g).toList.Perm (g :: g' :: w.queue.toList) :=
      (RunQueue.ready_perm _ _).trans ((RunQueue.ready_perm _ _).cons g)
    exact second.trans ((List.Perm.swap g' g _).trans first.symm)

/-- The invariant reads the ready fibers only as a set. -/
theorem Sound.requeued {q₀ : DeliveryQueue} {running : Option Nat} (sound : w.Sound q₀ running)
    (requeued : Requeued w w') : w'.Sound q₀ running := by
  obtain ⟨q, rfl, perm⟩ := requeued
  have sched := sound.scheduled
  exact
    { sound with
      scheduled :=
        { sched with
          readyOnce := perm.nodup_iff.mpr sched.readyOnce
          readyFree := fun g mem => sched.readyFree g (perm.mem_iff.mp mem)
          runningFree := fun g self =>
            ⟨(sched.runningFree g self).1, fun mem => (sched.runningFree g self).2 (perm.mem_iff.mp mem)⟩
          readyExist := fun g mem => sched.readyExist g (perm.mem_iff.mp mem) }
      stranded := fun g x alive other => (sound.stranded g x alive other).imp id perm.mem_iff.mpr }

end Requeued

/-- The world after the wakes of a list, in order, each of a fiber at one of its waits. -/
def wokenAll (w : World) : List (Nat × Nat) → World
  | [] => w
  | (g, k) :: rest => (w.woken g { choice := k }).wokenAll rest

section WokenAll

variable {w w' : World}

theorem wakes_run (L : List (Nat × Nat)) (w : World) :
    ((forIn L PUnit.unit fun (x : Nat × Nat) _ => do
      wake x.1 { choice := x.2 }
      pure (ForInStep.yield PUnit.unit) : WorldM PUnit).run w).2 = w.wokenAll L := by
  induction L generalizing w with
  | nil => rfl
  | cons x rest ih =>
    obtain ⟨g, k⟩ := x
    simp only [List.forIn_eq_foldlM, List.foldlM_cons] at ih ⊢
    exact ih _

theorem raise_run (w : World) (g : Nat) :
    ((raise g).run w).run.2 =
      (w.signalled g).wokenAll (waiters (· == .signal g) (w.signalled g)).reverse := by
  unfold raise wakeEvery
  simp only [StateT.run_bind, StateT.run_get, Id.run_bind]
  exact wakes_run _ _

theorem wokenAll_append (L M : List (Nat × Nat)) (w : World) :
    w.wokenAll (L ++ M) = (w.wokenAll L).wokenAll M := by
  induction L generalizing w with
  | nil => rfl
  | cons x rest ih => exact ih _

@[simp] theorem wokenAll_fibers (L : List (Nat × Nat)) : (w.wokenAll L).fibers = w.fibers := by
  induction L generalizing w with
  | nil => rfl
  | cons x rest ih => exact ih

@[simp] theorem wokenAll_signals (L : List (Nat × Nat)) : (w.wokenAll L).signals = w.signals := by
  induction L generalizing w with
  | nil => rfl
  | cons x rest ih => exact ih

theorem Requeued.wokenAll (requeued : Requeued w w') (L : List (Nat × Nat)) :
    Requeued (w.wokenAll L) (w'.wokenAll L) := by
  induction L generalizing w w' with
  | nil => exact requeued
  | cons x rest ih => exact ih (requeued.woken x.1 _)

/-- The wakes of distinct fibers, in any order, leave the same world but for the order of its
ready fibers. -/
theorem wokenAll_perm {L M : List (Nat × Nat)} (perm : L.Perm M) (once : (L.map (·.1)).Nodup)
    (w : World) : Requeued (w.wokenAll L) (w.wokenAll M) := by
  induction perm generalizing w with
  | nil => exact .refl w
  | cons x _ ih => exact ih (List.nodup_cons.mp once).2 _
  | swap x y rest =>
    have apart : y.1 ≠ x.1 := fun same =>
      (List.nodup_cons.mp once).1 (by simp [same])
    exact (woken_comm apart _ _).wokenAll rest
  | trans first _ ih₁ ih₂ =>
    exact (ih₁ once w).trans (ih₂ ((first.map _).nodup_iff.mp once) w)

theorem woken_signalled (w : World) (g e : Nat) (r : Resume) :
    (w.signalled e).woken g r = (w.woken g r).signalled e := rfl

theorem woken_withQueue (w : World) (g : Nat) (r : Resume) (c : DeliveryQueue → DeliveryQueue) :
    (w.withQueue c).woken g r = (w.woken g r).withQueue c := by
  simp only [withQueue, woken_outlet]
  split <;> rfl

@[simp] theorem wokenAll_outlet (L : List (Nat × Nat)) : (w.wokenAll L).outlet = w.outlet := by
  induction L generalizing w with
  | nil => rfl
  | cons x rest ih => exact ih

theorem fiberAt_wokenAll (L : List (Nat × Nat)) : (w.wokenAll L).fiberAt = w.fiberAt := by
  funext g
  simp [fiberAt]

theorem closedQueue_wokenAll (L : List (Nat × Nat)) : (w.wokenAll L).closedQueue = w.closedQueue := by
  simp [closedQueue, queue?]

theorem mem_blocked_wokenAll {b : Blocked} (L : List (Nat × Nat)) :
    b ∈ (w.wokenAll L).blocked ↔ b ∈ w.blocked ∧ b.fiber ∉ L.map (·.1) := by
  induction L generalizing w with
  | nil => simp [wokenAll]
  | cons x rest ih =>
    rw [wokenAll, ih]
    simp only [woken, List.mem_filter, bne_iff_ne, ne_eq, List.map_cons, List.mem_cons, not_or]
    tauto

theorem pending_woken_of_ne {g g' : Nat} (r : Resume) (apart : g ≠ g') :
    (w.woken g' r).pending g = w.pending g := by
  unfold pending
  rw [woken_isBlocked, show (g != g') = true from bne_iff_ne.mpr apart, Bool.true_and]
  simp [woken, Array.getElem?_setIfInBounds_ne (Ne.symm apart)]

theorem pending_wokenAll_of_not_mem {g : Nat} {L : List (Nat × Nat)} (out : g ∉ L.map (·.1)) :
    (w.wokenAll L).pending g = w.pending g := by
  induction L generalizing w with
  | nil => rfl
  | cons x rest ih =>
    simp only [List.map_cons, List.mem_cons, not_or] at out
    exact (ih out.2).trans (pending_woken_of_ne _ out.1)

theorem isBlocked_wokenAll_of_mem {x : Nat × Nat} {L : List (Nat × Nat)} (mem : x ∈ L) :
    (w.wokenAll L).isBlocked x.1 = false := by
  by_contra blocked
  obtain ⟨b, entry, owner⟩ := isBlocked_iff.mp (by simpa using blocked)
  exact ((mem_blocked_wokenAll L).mp entry).2 (owner ▸ List.mem_map_of_mem mem)

/-- A fiber woken in a list of wakes of distinct fibers goes on at the wait it was woken at. -/
theorem pending_wokenAll_of_mem {g k : Nat} {L : List (Nat × Nat)} (inside : g < w.resumes.size)
    (mem : (g, k) ∈ L) (once : (L.map (·.1)).Nodup) :
    (w.wokenAll L).pending g = { choice := k } := by
  induction L generalizing w with
  | nil => simp at mem
  | cons x rest ih =>
    obtain ⟨g', k'⟩ := x
    simp only [List.map_cons, List.nodup_cons, List.mem_map] at once
    rcases List.mem_cons.mp mem with same | later
    · cases same
      rw [wokenAll, pending_wokenAll_of_not_mem fun mem' => once.1 (by simpa using mem')]
      unfold pending
      rw [woken_isBlocked]
      simp [woken, inside]
    · exact ih (by simpa [woken] using inside) later once.2

end WokenAll

section Shutdown

variable {q₀ : DeliveryQueue} {running : Option Nat} {w : World}

/-- Waking waiting fibers, none of them the running one, each primed for the wait it is woken
at, keeps the invariant. -/
theorem Sound.wokenAll (sound : w.Sound q₀ running) {L : List (Nat × Nat)}
    (once : (L.map (·.1)).Nodup)
    (waiting : ∀ x ∈ L, w.isBlocked x.1 = true ∧ running ≠ some x.1 ∧
      ∀ y, w.fiberAt x.1 = some y → q₀.Primed w y false { choice := x.2 }) :
    (w.wokenAll L).Sound q₀ running := by
  induction L generalizing w with
  | nil => exact sound
  | cons x rest ih =>
    obtain ⟨g, k⟩ := x
    simp only [List.map_cons, List.nodup_cons, List.mem_map] at once
    obtain ⟨blocked, other, primed⟩ := waiting (g, k) List.mem_cons_self
    obtain ⟨b, entry, rfl⟩ := isBlocked_iff.mp blocked
    have woken := sound.wake entry other (by simp [Resume.delivery?]) primed
    refine ih woken once.2 fun x mem => ?_
    obtain ⟨blocked', other', primed'⟩ := waiting x (List.mem_cons_of_mem _ mem)
    have apart : x.1 ≠ b.fiber := fun same => once.1 ⟨x, mem, same⟩
    refine ⟨?_, other', primed'⟩
    rw [woken_isBlocked, blocked', bne_iff_ne.mpr apart]
    rfl

theorem stirred_wokenAll {L : List (Nat × Nat)} (sched : w.Scheduled running)
    (wakeable : w.Wakeable L) (once : (L.map (·.1)).Nodup) : Stirred running w (w.wokenAll L) := by
  have stirred := stirred_of_wakes L sched wakeable once
  rwa [wakes_run] at stirred

/-- The queue closed, with shutdown raised. -/
def shutDown (w : World) (q₀ : DeliveryQueue) : World :=
  (w.withQueue fun q => { q with closed := true }).signalled q₀.shutdown

theorem shutDown_blocked : (w.shutDown q₀).blocked = w.blocked := by
  unfold shutDown withQueue
  split <;> rfl

/-- Wakes commute with closing the queue and raising shutdown. -/
theorem shutDown_wokenAll (L : List (Nat × Nat)) :
    (w.shutDown q₀).wokenAll L = (w.wokenAll L).shutDown q₀ := by
  induction L generalizing w with
  | nil => rfl
  | cons x rest ih =>
    show ((w.shutDown q₀).woken x.1 _).wokenAll rest = _
    rw [shutDown, woken_signalled, woken_withQueue]
    exact ih

theorem shutDown_scheduled (sched : w.Scheduled running) : (w.shutDown q₀).Scheduled running := by
  unfold shutDown withQueue
  split <;> exact signalled_scheduled ⟨sched.waitsOnce, sched.readyOnce, sched.readyFree,
    sched.runningFree, sched.runningExists, sched.waitersExist, sched.readyExist, sched.slots⟩

theorem isRaised_shutDown (inside : q₀.shutdown < w.signals.size) :
    (w.shutDown q₀).isRaised q₀.shutdown = true := by
  unfold shutDown
  rw [isRaised_signalled (by unfold withQueue; split <;> exact inside)]
  simp

theorem shutDown_eq {q : DeliveryQueue} (found : queue? w = some q) :
    w.shutDown q₀ = { w with outlet := .queue { q with closed := true },
                             signals := w.signals.set! q₀.shutdown true } := by
  rw [shutDown, withQueue_eq q found]
  rfl

/-- Closing an open queue and raising shutdown at once keeps the invariant while the close runs,
once no parked delivery that waited still waits or is about to go back on the queue: the
workers may drain from then on, and no closer or close that waits exists while the queue is
open. -/
theorem Sound.shutdown {f : Nat} (sound : w.Sound q₀ (some f)) (opened : w.closedQueue = false)
    {s : Nat} (alive : w.fiberAt f = some (.chore (.closeQueue s none)))
    (going : ∀ g d due, w.fiberAt g = some (.parked d due true) → some f ≠ some g →
      w.isBlocked g = false ∧ (w.pending g).choice ≠ 1) :
    (w.shutDown q₀).Sound q₀ (some f) := by
  obtain ⟨q, found, agrees⟩ := sound.outlet
  have up : (w.shutDown q₀).isRaised q₀.shutdown = true := by
    simp [shutDown_eq found, isRaised, sound.signal]
  rw [shutDown_eq found] at up ⊢
  -- no closer and no close that waits exists while the queue is open
  have none_closing : ∀ g y e, w.fiberAt g = some y → some f ≠ some g → y.doneSignal = some e →
      False := by
    intro g y e alive' other signal
    have primed := sound.primed g y alive' other
    cases y with
    | closer p done => simp [DeliveryQueue.Primed, opened] at primed
    | chore c =>
      cases c with
      | closeQueue s' done =>
        cases done with
        | none => cases signal
        | some done => simp [DeliveryQueue.Primed, opened] at primed
      | _ => cases signal
    | _ => cases signal
  refine
    { scheduled := ⟨sound.scheduled.waitsOnce, sound.scheduled.readyOnce, sound.scheduled.readyFree,
        sound.scheduled.runningFree, sound.scheduled.runningExists, sound.scheduled.waitersExist,
        sound.scheduled.readyExist, sound.scheduled.slots⟩
      outlet := ⟨_, rfl, agrees.settings, agrees.queue, agrees.shutdown, agrees.workers, agrees.parked,
        agrees.queued⟩
      signal := by simpa using sound.signal
      kinds := sound.kinds
      fits := sound.fits
      waits := sound.waits
      buffered := sound.buffered
      resumes := sound.resumes
      alarms := sound.alarms
      stranded := sound.stranded
      primed := fun g y alive' other => ?_
      shut := up
      opened := fun reopened => by cases reopened
      emptied := fun _ stopped => absurd stopped (by have := sound.opened opened; simp_all [counter])
      done := fun g y e alive' signal _ => ?_
      staffed := sound.staffed
      parkedCounted := sound.parkedCounted
      apart := sound.apart
      parkedSlot := sound.parkedSlot }
  · cases y with
    | courier c => exact ⟨fun _ => up, fun _ _ _ => up⟩
    | parked d due waiting =>
      cases waiting with
      | false => trivial
      | true => exact fun _ => going g d due alive' other
    | closer p done => exact (none_closing g _ done alive' other rfl).elim
    | chore c =>
      cases c with
      | closeQueue s' done =>
        cases done with
        | none => trivial
        | some done => exact (none_closing g _ done alive' other rfl).elim
      | _ => trivial
    | _ => trivial
  · by_cases self : some f = some g
    · cases self
      have same : some y = some (.chore (.closeQueue s none)) :=
        (alive' : w.fiberAt f = some y).symm.trans alive
      cases same
      cases signal
    · exact (none_closing g y e alive' self signal).elim

theorem mem_waiters {p : Wait → Bool} {b : Blocked} (entry : b ∈ w.blocked) {k : Nat}
    (first : b.waits.findIdx? p = some k) : (b.fiber, k) ∈ waiters p w :=
  List.mem_filterMap.mpr ⟨b, entry, by simp [first]⟩

theorem entry_of_mem_waiters {p : Wait → Bool} {x : Nat × Nat} (mem : x ∈ waiters p w) :
    ∃ b ∈ w.blocked, b.fiber = x.1 ∧ ∃ wt, b.waits[x.2]? = some wt ∧ p wt = true := by
  simp only [waiters, List.mem_filterMap, Option.map_eq_some_iff] at mem
  obtain ⟨b, entry, k, found, rfl⟩ := mem
  obtain ⟨lt, hit, -⟩ := List.findIdx?_eq_some_iff_getElem.mp found
  exact ⟨b, entry, rfl, b.waits[k], List.getElem?_eq_getElem lt, hit⟩

/-- Closing an open queue and raising shutdown keeps the invariant, once every parked delivery
that waited still waits. Its watchers are woken in another order: the parked deliveries first,
while the queue is still open, then the workers, once it is closed. -/
theorem Sound.shutdownRaised {f s : Nat} (sound : w.Sound q₀ (some f)) (opened : w.closedQueue = false)
    (alive : w.fiberAt f = some (.chore (.closeQueue s none)))
    (waiting : ∀ g d due, w.fiberAt g = some (.parked d due true) → w.isBlocked g = true) :
    ((raise q₀.shutdown).run (w.withQueue fun q => { q with closed := true })).run.2.Sound q₀
      (some f) := by
  have sched := sound.scheduled
  rw [raise_run]
  change ((w.shutDown q₀).wokenAll
    (waiters (· == .signal q₀.shutdown) (w.shutDown q₀)).reverse).Sound q₀ (some f)
  generalize same : (waiters (· == .signal q₀.shutdown) (w.shutDown q₀)).reverse = L
  have entry : ∀ x ∈ L, ∃ b ∈ w.blocked, b.fiber = x.1 ∧
      b.waits[x.2]? = some (.signal q₀.shutdown) := fun x mem => by
    rw [← same, List.mem_reverse] at mem
    obtain ⟨b, entry, owner, wt, at_, hit⟩ := entry_of_mem_waiters mem
    rw [shutDown_blocked] at entry
    simp only [beq_iff_eq] at hit
    exact ⟨b, entry, owner, hit ▸ at_⟩
  have once : (L.map (·.1)).Nodup := by
    rw [← same, List.map_reverse, List.nodup_reverse]
    exact waiters_nodup (shutDown_scheduled sched)
  let parkedAt : Nat × Nat → Bool := fun x => ((w.fiberAt x.1).map Fiber.isParked).getD false
  have perm : L.Perm (L.filter parkedAt ++ L.filter fun x => !parkedAt x) :=
    (List.filter_append_perm parkedAt L).symm
  have onceP : ((L.filter parkedAt).map (·.1)).Nodup :=
    List.Nodup.sublist (List.filter_sublist.map _) once
  -- the parked deliveries are woken first, while the queue is still open
  have parkedWoken : (w.wokenAll (L.filter parkedAt)).Sound q₀ (some f) := by
    refine sound.wokenAll onceP fun x mem => ?_
    obtain ⟨inL, isParked⟩ := List.mem_filter.mp mem
    obtain ⟨b, entry', owner, -⟩ := entry x inL
    have blocked : w.isBlocked x.1 = true := isBlocked_iff.mpr ⟨b, entry', owner⟩
    refine ⟨blocked, fun self => by simp [(sched.runningFree _ self).1] at blocked, fun y alive' => ?_⟩
    cases y with
    | parked d due waiting' =>
      cases waiting' with
      | false => trivial
      | true =>
        intro up
        rw [sound.shut, opened] at up
        cases up
    | _ => simp [parkedAt, alive', Fiber.isParked] at isParked
  -- each parked delivery that waited now goes on at shutdown
  have going : ∀ g d due, (w.wokenAll (L.filter parkedAt)).fiberAt g = some (.parked d due true) →
      some f ≠ some g → (w.wokenAll (L.filter parkedAt)).isBlocked g = false ∧
        ((w.wokenAll (L.filter parkedAt)).pending g).choice ≠ 1 := by
    intro g d due alive' _
    rw [fiberAt_wokenAll] at alive'
    obtain ⟨b, entry', rfl⟩ := isBlocked_iff.mp (waiting _ d due alive')
    obtain ⟨y, owner, fit⟩ := sound.waits b entry'
    rw [alive'] at owner
    cases owner
    have first : b.waits.findIdx? (· == .signal q₀.shutdown) = some 0 := by
      simp only [DeliveryQueue.WaitsFit] at fit
      rw [fit, List.findIdx?_cons]
      simp
    have memL : (b.fiber, 0) ∈ L := by
      rw [← same, List.mem_reverse]
      exact mem_waiters (by rw [shutDown_blocked]; exact entry') first
    have memP : (b.fiber, 0) ∈ L.filter parkedAt :=
      List.mem_filter.mpr ⟨memL, by simp [parkedAt, alive', Fiber.isParked]⟩
    have inside : b.fiber < w.resumes.size := sched.slots ▸ sched.waitersExist b entry'
    refine ⟨isBlocked_wokenAll_of_mem memP, ?_⟩
    rw [pending_wokenAll_of_mem inside memP onceP]
    decide
  -- then the queue closes and shutdown is raised
  have shut : ((w.wokenAll (L.filter parkedAt)).shutDown q₀).Sound q₀ (some f) :=
    parkedWoken.shutdown (by rw [closedQueue_wokenAll]; exact opened)
      (by rw [fiberAt_wokenAll]; exact alive) going
  -- and last the workers are woken, at a raised shutdown
  have stirred : Stirred (some f) ((w.wokenAll (L.filter parkedAt)).shutDown q₀)
      (((w.wokenAll (L.filter parkedAt)).shutDown q₀).wokenAll (L.filter fun x => !parkedAt x)) := by
    refine stirred_wokenAll shut.scheduled (fun x mem => ?_)
      (List.Nodup.sublist (List.filter_sublist.map _) once)
    obtain ⟨inL, notParked⟩ := List.mem_filter.mp mem
    obtain ⟨b, entry', owner, at_⟩ := entry x inL
    refine ⟨b, ?_, owner, _, at_, ?_⟩
    · rw [shutDown_blocked, mem_blocked_wokenAll]
      refine ⟨entry', fun woken => ?_⟩
      obtain ⟨y, memY, sameFiber⟩ := List.mem_map.mp woken
      have parkedY := (List.mem_filter.mp memY).2
      have : parkedAt y = parkedAt x := by simp only [parkedAt, sameFiber, owner]
      simp_all
    · simpa [answers, satisfied] using isRaised_shutDown (by simpa using sound.signal)
  -- the wakes in that order leave the same world, but for the order of the ready fibers
  have reordered : Requeued ((w.shutDown q₀).wokenAll L)
      (((w.wokenAll (L.filter parkedAt)).shutDown q₀).wokenAll (L.filter fun x => !parkedAt x)) := by
    rw [← shutDown_wokenAll, ← wokenAll_append]
    exact wokenAll_perm perm once _
  exact (stirred.sound shut).requeued reordered.symm

end Shutdown

/-- The world with a new signal, not raised. -/
def withSignal (w : World) : World := { w with signals := w.signals.push false }

section Signal

variable {q₀ : DeliveryQueue} {running : Option Nat} {w : World}

theorem newSignal_run (w : World) : newSignal.run w = (w.signals.size, w.withSignal) := rfl

theorem isRaised_withSignal : w.withSignal.isRaised = w.isRaised := by
  funext e
  simp only [isRaised, withSignal, Array.getElem?_push]
  split
  · next same => simp [same]
  · rfl

theorem primed_withSignal {x : Fiber} {waiting : Bool} {r : Resume}
    (before : q₀.Primed w x waiting r) : q₀.Primed w.withSignal x waiting r := by
  have raised := isRaised_withSignal (w := w)
  have grown : w.signals.size < w.withSignal.signals.size := by simp [withSignal]
  cases x with
  | courier c => simpa only [DeliveryQueue.Primed, raised] using before
  | parked d due waiting' =>
    cases waiting' with
    | false => trivial
    | true => simpa only [DeliveryQueue.Primed, raised] using before
  | closer p done =>
    obtain ⟨closed, apart, below, one, two⟩ := before
    exact ⟨closed, apart, by omega, one, two⟩
  | chore c =>
    cases c with
    | closeQueue s done =>
      cases done with
      | none => trivial
      | some done =>
        obtain ⟨closed, apart, below, answered⟩ := before
        exact ⟨closed, apart, by omega, fun idle zero => raised ▸ answered idle zero⟩
    | _ => trivial
  | _ => trivial

/-- A new signal, not raised, keeps the invariant. -/
theorem Sound.signalAdded (sound : w.Sound q₀ running) : w.withSignal.Sound q₀ running where
  scheduled := ⟨sound.scheduled.waitsOnce, sound.scheduled.readyOnce, sound.scheduled.readyFree,
    sound.scheduled.runningFree, sound.scheduled.runningExists, sound.scheduled.waitersExist,
    sound.scheduled.readyExist, sound.scheduled.slots⟩
  outlet := sound.outlet
  signal := by simp only [withSignal, Array.size_push]; exact Nat.lt_succ_of_lt sound.signal
  kinds := sound.kinds
  fits := sound.fits
  waits := sound.waits
  buffered := sound.buffered
  resumes := sound.resumes
  alarms := sound.alarms
  stranded := sound.stranded
  primed := fun g x alive other => primed_withSignal (sound.primed g x alive other)
  shut := by rw [isRaised_withSignal]; exact sound.shut
  opened := sound.opened
  emptied := sound.emptied
  done := fun g x e alive signal raised => by
    rw [isRaised_withSignal] at raised
    exact sound.done g x e alive signal raised
  staffed := sound.staffed
  parkedCounted := sound.parkedCounted
  apart := sound.apart
  parkedSlot := sound.parkedSlot

end Signal

section Close

open Std.Do

variable {q₀ : DeliveryQueue} {f : Nat}

@[simp] theorem wokenAll_choreResult {w : World} (L : List (Nat × Nat)) :
    (w.wokenAll L).choreResult = w.choreResult := by
  induction L generalizing w with
  | nil => rfl
  | cons x rest ih => exact ih

theorem isRaised_withSignal_size (w : World) : w.withSignal.isRaised w.signals.size = false := by
  rw [isRaised_withSignal]
  simp [isRaised]

/-- The close of an open queue closes it, raises shutdown, and starts the closer with a new done
signal; then it waits for that signal or for its own deadline. -/
theorem closeStep_run {w : World} {q : DeliveryQueue} (found : queue? w = some q)
    (opened : q.closed = false) (s : Nat) (r : Resume) :
    (Chore.step (.closeQueue s none) r).run w =
      let raised := ((raise q.shutdown).run (w.withQueue fun q => { q with closed := true })).run.2
      (.wait (.chore (.closeQueue s (some raised.signals.size))) [.signal raised.signals.size, .scope s],
        raised.withSignal.spawned (.closer 0 raised.signals.size)) := by
  simp only [Chore.step, StateT.run_bind, StateT.run_get, pure_bind, found, opened, Bool.false_eq_true,
    if_false]
  simp only [modifyQueue_run, newSignal_run, spawn_run]
  rfl

/-- The first step of the close of an open queue, when every parked delivery that waited still
waits: it leaves the invariant, and waits as the close for the closer's signal. -/
theorem closeStep_stepped (s : Nat) {w : World} {r : Resume}
    (poised : Poised q₀ w f (.chore (.closeQueue s none)) r) (opened : w.closedQueue = false)
    (waiting : ∀ g d due, w.fiberAt g = some (.parked d due true) → w.isBlocked g = true) :
    ⦃fun w' => ⌜w' = w⌝⦄ Chore.step (.closeQueue s none) r
      ⦃⇓ n w' => ⌜Moved q₀ f w (.chore (.closeQueue s none)) r n w'⌝⦄ := by
  apply triple_of_run
  intro w' same
  subst w'
  have sound := poised.sound
  obtain ⟨q, found, agrees⟩ := sound.outlet
  have qOpen : q.closed = false := by simpa [closedQueue, found] using opened
  have soundRaised := sound.shutdownRaised opened poised.alive waiting
  have sched : (w.withQueue fun q => { q with closed := true }).Scheduled (some f) := by
    rw [withQueue_eq q found]
    exact ⟨sound.scheduled.waitsOnce, sound.scheduled.readyOnce, sound.scheduled.readyFree,
      sound.scheduled.runningFree, sound.scheduled.runningExists, sound.scheduled.waitersExist,
      sound.scheduled.readyExist, sound.scheduled.slots⟩
  have signals : (w.withQueue fun q => { q with closed := true }).signals = w.signals := by
    rw [withQueue_eq q found]
  have accountRaised : ((raise q₀.shutdown).run (w.withQueue fun q => { q with closed := true })).run.2.account
      (some f) = w.account (some f) := by
    rw [account_raised (signals ▸ sound.signal) sched,
      account_withQueue sound 0 (g := fun q => { q with closed := true })
        (fun _ => rfl) fun _ => rfl, Nat.add_zero]
  rw [closeStep_run found qOpen, agrees.shutdown]
  -- the world once shutdown is raised
  generalize same : ((raise q₀.shutdown).run (w.withQueue fun q => { q with closed := true })).run.2 = R
    at soundRaised accountRaised
  have shape : R = (w.shutDown q₀).wokenAll
      (waiters (· == .signal q₀.shutdown) (w.shutDown q₀)).reverse := by
    rw [← same, raise_run]
    rfl
  have closedR : R.closedQueue = true := by
    rw [shape, closedQueue_wokenAll, shutDown_eq found]
    rfl
  have sizeR : R.signals.size = w.signals.size := by
    simp [shape, shutDown_eq found]
  have aliveR : R.fiberAt f = w.fiberAt f := by
    rw [shape, fiberAt_wokenAll, shutDown_eq found]
    rfl
  have choreR : R.choreResult = w.choreResult := by
    rw [shape, wokenAll_choreResult, shutDown_eq found]
  have raisedR : RaisedFrom w R := by
    rw [← same]
    exact (RaisedFrom.of_signals signals).trans
      (raisedFrom_raise (signals ▸ sound.signal) sched)
  -- the closer's done signal is new, so not raised, and not shutdown
  have apart : R.signals.size ≠ q₀.shutdown := by
    have := sound.signal
    omega
  have fresh : R.withSignal.isRaised R.signals.size = false := isRaised_withSignal_size R
  have inside : f < R.withSignal.fibers.size := by
    have := sound.scheduled.runningExists f rfl
    simp [withSignal, shape, shutDown_eq found]
    omega
  have primedCloser : q₀.Primed R.withSignal (.closer 0 R.signals.size) false {} :=
    ⟨closedR, apart, (by simp [withSignal]), (fun zero => by cases zero), fun two => by omega⟩
  have soundW := soundRaised.signalAdded.spawned (x := .closer 0 R.signals.size) rfl trivial primedCloser
    (fun courier => by cases courier) (fun parked => by cases parked)
    (fun e signal => by cases signal; exact fresh) (fun _ _ _ _ _ _ => ⟨rfl, rfl⟩)
  have aliveW : (R.withSignal.spawned (.closer 0 R.signals.size)).fiberAt f =
      some (.chore (.closeQueue s none)) := by
    rw [fiberAt_spawned, if_neg (Nat.ne_of_lt inside)]
    exact aliveR.trans poised.alive
  have below : R.signals.size < (R.withSignal.spawned (.closer 0 R.signals.size)).signals.size := by
    simp [withSignal, World.spawned]
  have tally : Tallied f w (.chore (.closeQueue s none)) r
      (.wait (.chore (.closeQueue s (some R.signals.size))) [.signal R.signals.size, .scope s])
      (R.withSignal.spawned (.closer 0 R.signals.size)) := by
    simp only [Tallied, account_spawned soundRaised.signalAdded]
    exact congrArg (· + 0 + 0 + 0) accountRaised
  -- the closer is no close of an open queue, and the rest keep their fibers
  have openings : (R.withSignal.spawned (.closer 0 R.signals.size)).census (some f) Fiber.opening =
      w.census (some f) Fiber.opening := by
    have fibersR : R.withSignal.fibers = w.fibers := by
      simp [withSignal, shape, shutDown_eq found]
    rw [census_spawned soundRaised.signalAdded.scheduled, census_of_fibers fibersR]
    rfl
  refine ⟨⟨soundW, ?_⟩, raisedR.trans fun e up => ?_, .inl choreR, tally, openings,
    fun _ _ waits => by cases waits; exact ⟨rfl, rfl⟩⟩
  · have primedClose : ∀ waiting k m, waiting = false → k = 0 →
        (R.withSignal.spawned (.closer 0 R.signals.size)).isRaised R.signals.size = true →
        q₀.Primed (R.withSignal.spawned (.closer 0 R.signals.size))
          (.chore (.closeQueue s (some R.signals.size))) waiting { choice := k, message := m } :=
      fun _ _ _ _ _ up => ⟨closedR, apart, below, fun _ _ => up⟩
    exact
      { kind := rfl
        fits := trivial
        waitsFit := rfl
        kept := ⟨_, aliveW, rfl, rfl⟩
        counted := fun courier => by cases courier
        parkedCounted := fun parked => by cases parked
        done := fun e signal up => by
          cases signal
          change R.withSignal.isRaised R.signals.size = true at up
          rw [fresh] at up
          cases up
        blocks := fun _ => ⟨closedR, apart, below, fun waiting => by cases waiting⟩
        goesOn := fun k first m => ⟨closedR, apart, below, fun _ zero => by
          subst zero
          obtain ⟨lt, hit, -⟩ := List.findIdx?_eq_some_iff_getElem.mp first
          simpa [satisfied] using hit⟩ }
  · change R.withSignal.isRaised e = true
    rw [isRaised_withSignal]
    exact up

/-- The session's result changes nothing the invariant reads. -/
theorem Sound.answered {w : World} {running : Option Nat} (sound : w.Sound q₀ running)
    (c : Option ChoreResult) : ({ w with choreResult := c } : World).Sound q₀ running where
  scheduled := ⟨sound.scheduled.waitsOnce, sound.scheduled.readyOnce, sound.scheduled.readyFree,
    sound.scheduled.runningFree, sound.scheduled.runningExists, sound.scheduled.waitersExist,
    sound.scheduled.readyExist, sound.scheduled.slots⟩
  outlet := sound.outlet
  signal := sound.signal
  kinds := sound.kinds
  fits := sound.fits
  waits := sound.waits
  buffered := sound.buffered
  resumes := sound.resumes
  alarms := sound.alarms
  stranded := sound.stranded
  primed := sound.primed
  shut := sound.shut
  opened := sound.opened
  emptied := sound.emptied
  done := sound.done
  staffed := sound.staffed
  parkedCounted := sound.parkedCounted
  apart := sound.apart
  parkedSlot := sound.parkedSlot

theorem answer_run (w : World) (c : ChoreResult) :
    (Chore.answer c).run w = (.exit, { w with choreResult := some c }) := rfl

/-- **The close woken by the closer's signal**, rather than by the end of its scope, finds
nothing buffered and no worker and no parked delivery left. -/
theorem Poised.drained_of_woken {w : World} {r : Resume} {s done : Nat}
    (poised : Poised q₀ w f (.chore (.closeQueue s (some done))) r) (woken : r.choice = 0) :
    q₀.Drained w := by
  obtain ⟨-, -, -, answered⟩ := poised.primed
  exact poised.sound.done f _ done poised.alive rfl (answered rfl woken)

/-- The close, woken, answers: that the queue drained when the closer raised its signal, else
the end of its deadline. It answers that the queue drained only once it did. -/
theorem closeAnswer_stepped (s done : Nat) {w : World} {r : Resume}
    (poised : Poised q₀ w f (.chore (.closeQueue s (some done))) r) :
    ⦃fun w' => ⌜w' = w⌝⦄ Chore.step (.closeQueue s (some done)) r
      ⦃⇓ n w' => ⌜Moved q₀ f w (.chore (.closeQueue s (some done))) r n w'⌝⦄ := by
  apply triple_of_run
  intro w' same
  subst w'
  simp only [Chore.step]
  split
  · next zero =>
    rw [answer_run]
    have drained : q₀.Drained w := poised.drained_of_woken (by simpa using zero)
    exact ⟨poised.sound.answered _, .of_signals rfl, .inr ⟨rfl, fun _ => .inl drained⟩, rfl, rfl,
      fun _ _ exit => nomatch exit⟩
  · simp only [run_bind, StateT.run_get, answer_run]
    exact ⟨poised.sound.answered _, .of_signals rfl, .inr ⟨rfl, fun answer => by simp at answer⟩, rfl,
      rfl, fun _ _ exit => nomatch exit⟩

/-- The close of a queue closed already answers at once that it closed, whether or not the
queue drained. -/
theorem closeAgain_stepped (s : Nat) {w : World} {r : Resume}
    (poised : Poised q₀ w f (.chore (.closeQueue s none)) r) (shut : w.closedQueue = true) :
    ⦃fun w' => ⌜w' = w⌝⦄ Chore.step (.closeQueue s none) r
      ⦃⇓ n w' => ⌜Moved q₀ f w (.chore (.closeQueue s none)) r n w'⌝⦄ := by
  apply triple_of_run
  intro w' same
  subst w'
  obtain ⟨q, found, -⟩ := poised.sound.outlet
  have closed : q.closed = true := by simpa [closedQueue, found] using shut
  simp only [Chore.step, StateT.run_bind, StateT.run_get, pure_bind, found, closed, if_true,
    answer_run]
  exact ⟨poised.sound.answered _, .of_signals rfl, .inr ⟨rfl, fun _ => .inr rfl⟩, rfl, rfl,
    fun _ _ exit => by cases exit⟩

end Close

end World

end JobEngine

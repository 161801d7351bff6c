import JobEngine.Proofs.World.Frame

/-!
# Where the queue's deliveries are held

A delivery handed to the delivery queue is, at any moment, in one place: buffered in the
queue's channel, handed to a worker that has not yet looked at it, being sent by a worker
that waits before a retry, or parked behind an open breaker. This module counts the
deliveries that fibers hold.

## Main Definitions

* `Fiber.carried` — the deliveries a fiber holds, given the resume it goes on with.
* `Fiber.abandons` — whether a parked delivery is given up at shutdown.
* `World.pending` — the resume a fiber goes on with: none while it waits.
* `World.held` — the deliveries held by all fibers but the running one.
-/

namespace JobEngine

/-- The delivery a resume hands over, if any. -/
def Resume.delivery? (r : Resume) : Option Delivery :=
  match r.message with
  | some (.delivery d) => some d
  | _ => none

namespace Fiber

/-- The deliveries a fiber holds when it goes on with `r`: the one a worker sends, else the
one handed to it; a parked delivery. -/
def carried : Fiber → Resume → List Delivery
  | .courier c, r =>
    match c.sending with
    | some (d, _, _) => [d]
    | none => r.delivery?.toList
  | .parked d _ _, _ => [d]
  | _, _ => []

/-- A resume that hands over no delivery changes nothing a fiber holds. -/
theorem carried_of_delivery?_eq_none (x : Fiber) {r : Resume} (none_ : r.delivery? = none) :
    x.carried r = x.carried {} := by
  cases x with
  | courier c =>
    cases h : c.sending with
    | some => simp [carried, h]
    | none => simp only [carried, h, none_]; rfl
  | _ => rfl

/-- Whether a step gives up the delivery the fiber holds: a parked delivery that goes on at
shutdown rather than at its due time. -/
def abandons : Fiber → Resume → Bool
  | .parked _ _ true, r => r.choice != 1
  | _, _ => false

/-- Whether a fiber is the close of the queue before its first step. -/
def opening : Fiber → Bool
  | .chore (.closeQueue _ none) => true
  | _ => false

end Fiber

/-- The deliveries a fiber holds once its step ends: none once it ends, else those it holds
while it waits. -/
def Next.holding : Next → Nat
  | .exit => 0
  | .wait x _ => (x.carried {}).length

namespace RunQueue

theorem toList_of_pop? {q q' : RunQueue} {t : Nat} (popped : q.pop? = some (t, q')) :
    q.toList = t :: q'.toList := by
  unfold pop? at popped
  split at popped
  · next front =>
    cases popped
    simp [toList, front]
  · next front =>
    split at popped
    · cases popped
    · next rest line =>
      cases popped
      simp [toList, front, line]

theorem mem_ready {t u : Nat} {q : RunQueue} : u ∈ (q.ready t).toList ↔ u = t ∨ u ∈ q.toList := by
  rw [toList_ready]
  cases h : q.front <;> simp [toList, h, or_comm]

theorem nodup_ready {t : Nat} {q : RunQueue} (fresh : t ∉ q.toList) (once : q.toList.Nodup) :
    (q.ready t).toList.Nodup := by
  rw [toList_ready, List.nodup_cons]
  cases h : q.front with
  | none => simp_all [toList]
  | some u =>
    simp only [toList, h] at fresh once
    simp only [Option.map_some, Option.getD_some, List.mem_append, List.mem_singleton]
    refine ⟨fun mem => fresh (mem.elim (List.mem_cons_of_mem u) fun same => same ▸ List.mem_cons_self), ?_⟩
    rw [List.nodup_cons] at once
    refine List.nodup_append.mpr ⟨once.2, List.nodup_singleton u, fun a mem b same eq => ?_⟩
    simp only [List.mem_singleton] at same
    subst same eq
    exact once.1 mem

end RunQueue

namespace World

/-- The fiber at index `f`, if it has not ended. -/
def fiberAt (w : World) (f : Nat) : Option Fiber := (w.fibers[f]?).join

/-- Whether fiber `f` waits. -/
def isBlocked (w : World) (f : Nat) : Bool := w.blocked.any (·.fiber == f)

/-- The resume fiber `f` goes on with when it next runs; nothing while it waits. -/
def pending (w : World) (f : Nat) : Resume :=
  if w.isBlocked f then {} else (w.resumes[f]?).getD {}

/-- The deliveries fiber `f` holds. -/
def carriedBy (w : World) (f : Nat) : List Delivery :=
  ((w.fiberAt f).map (·.carried (w.pending f))).getD []

/-- A sum over the fibers, the running one, if any, left out. -/
def othersSum (w : World) (running : Option Nat) (v : Nat → Nat) : Nat :=
  ∑ f ∈ Finset.range w.fibers.size, if running = some f then 0 else v f

theorem othersSum_congr {w w' : World} (running : Option Nat) {v v' : Nat → Nat}
    (sized : w'.fibers.size = w.fibers.size)
    (same : ∀ f < w.fibers.size, running ≠ some f → v' f = v f) :
    w'.othersSum running v' = w.othersSum running v := by
  unfold othersSum
  rw [sized]
  refine Finset.sum_congr rfl fun f inside => ?_
  by_cases self : running = some f
  · simp [self]
  · simp [self, same f (Finset.mem_range.mp inside) self]

/-- Changing one fiber's term changes the sum by as much. -/
theorem othersSum_change {w w' : World} {running : Option Nat} {v v' : Nat → Nat} {g : Nat}
    (inside : g < w.fibers.size) (other : running ≠ some g) (sized : w'.fibers.size = w.fibers.size)
    (same : ∀ f < w.fibers.size, f ≠ g → running ≠ some f → v' f = v f) :
    w'.othersSum running v' + v g = w.othersSum running v + v' g := by
  unfold othersSum
  rw [sized, ← Finset.add_sum_erase _ _ (Finset.mem_range.mpr inside),
    ← Finset.add_sum_erase _ _ (Finset.mem_range.mpr inside)]
  have rest : ∑ f ∈ (Finset.range w.fibers.size).erase g,
      (if running = some f then 0 else v' f) =
      ∑ f ∈ (Finset.range w.fibers.size).erase g, (if running = some f then 0 else v f) := by
    refine Finset.sum_congr rfl fun f mem => ?_
    obtain ⟨ne, mem⟩ := Finset.mem_erase.mp mem
    by_cases self : running = some f
    · simp [self]
    · simp [self, same f (Finset.mem_range.mp mem) ne self]
  simp only [other, if_false, rest]
  omega

/-- The running fiber, once it stops running, is summed with the others. -/
theorem othersSum_release (w : World) {f : Nat} (inside : f < w.fibers.size) (v : Nat → Nat) :
    w.othersSum none v = w.othersSum (some f) v + v f := by
  unfold othersSum
  rw [← Finset.add_sum_erase _ _ (Finset.mem_range.mpr inside),
    ← Finset.add_sum_erase _ _ (Finset.mem_range.mpr inside)]
  have rest : ∑ g ∈ (Finset.range w.fibers.size).erase f,
      (if some f = some g then 0 else v g) = ∑ g ∈ (Finset.range w.fibers.size).erase f, v g := by
    refine Finset.sum_congr rfl fun g mem => ?_
    have ne : f ≠ g := fun h => (Finset.mem_erase.mp mem).1 h.symm
    simp [ne]
  rw [rest]
  simp
  omega

/-- A fiber started at the end of the array adds its own term. -/
theorem othersSum_push {w w' : World} {running : Option Nat} {v v' : Nat → Nat}
    (sized : w'.fibers.size = w.fibers.size + 1) (other : running ≠ some w.fibers.size)
    (same : ∀ f < w.fibers.size, running ≠ some f → v' f = v f) :
    w'.othersSum running v' = w.othersSum running v + v' w.fibers.size := by
  unfold othersSum
  rw [sized, Finset.sum_range_succ, if_neg other]
  congr 1
  refine Finset.sum_congr rfl fun f inside => ?_
  by_cases self : running = some f
  · simp [self]
  · simp [self, same f (Finset.mem_range.mp inside) self]

/-- The number of deliveries held by the fibers, the running one, if any, left out. -/
def held (w : World) (running : Option Nat) : Nat :=
  w.othersSum running fun f => (w.carriedBy f).length


/-- The scheduler's bookkeeping: a fiber waits at most once and is ready at most once, never
both; the running fiber, if any, neither waits nor is ready; every waiting or ready fiber
exists, and every fiber has its resume. -/
structure Scheduled (w : World) (running : Option Nat) : Prop where
  waitsOnce : (w.blocked.map (·.fiber)).Nodup
  readyOnce : w.queue.toList.Nodup
  readyFree : ∀ f ∈ w.queue.toList, w.isBlocked f = false
  runningFree : ∀ f, running = some f → w.isBlocked f = false ∧ f ∉ w.queue.toList
  runningExists : ∀ f, running = some f → f < w.fibers.size
  waitersExist : ∀ b ∈ w.blocked, b.fiber < w.fibers.size
  readyExist : ∀ f ∈ w.queue.toList, f < w.fibers.size
  slots : w.resumes.size = w.fibers.size

theorem isBlocked_iff {w : World} {f : Nat} : w.isBlocked f = true ↔ ∃ b ∈ w.blocked, b.fiber = f := by
  simp [isBlocked]

theorem isBlocked_filter (w : World) (g f : Nat) :
    ({ w with blocked := w.blocked.filter (·.fiber != g) } : World).isBlocked f =
      (f != g && w.isBlocked f) := by
  by_cases same : f = g
  · subst same
    simp [isBlocked]
  · simp [isBlocked]
    grind


/-- The world once fiber `g` is woken with resume `r`, as `wake` leaves it. -/
def woken (w : World) (g : Nat) (r : Resume) : World :=
  { w with blocked := w.blocked.filter (·.fiber != g),
           alarms := w.alarms.filter (·.fiber != some g),
           resumes := w.resumes.set! g r,
           queue := w.queue.ready g }

theorem wake_run (w : World) (g : Nat) (r : Resume) : (wake g r).run w = ((), w.woken g r) := rfl

section Woken

variable {w : World} {g : Nat} {r : Resume} {running : Option Nat}

@[simp] theorem woken_fibers : (w.woken g r).fibers = w.fibers := rfl
@[simp] theorem woken_channels : (w.woken g r).channels = w.channels := rfl
@[simp] theorem woken_outlet : (w.woken g r).outlet = w.outlet := rfl
@[simp] theorem woken_signals : (w.woken g r).signals = w.signals := rfl
@[simp] theorem woken_counters : (w.woken g r).counters = w.counters := rfl

theorem woken_isBlocked (f : Nat) : (w.woken g r).isBlocked f = (f != g && w.isBlocked f) :=
  isBlocked_filter w g f

theorem woken_pending (sched : w.Scheduled running) (inside : g < w.fibers.size) (f : Nat) :
    (w.woken g r).pending f = if f = g then r else w.pending f := by
  by_cases same : f = g
  · subst same
    have slot : f < w.resumes.size := sched.slots ▸ inside
    simp only [pending, woken_isBlocked]
    simp [woken, slot]
  · simp only [pending, woken_isBlocked]
    simp [woken, same, Array.getElem?_setIfInBounds_ne (Ne.symm same)]

theorem woken_carriedBy (sched : w.Scheduled running) (inside : g < w.fibers.size) (f : Nat) :
    (w.woken g r).carriedBy f =
      if f = g then ((w.fiberAt g).map (·.carried r)).getD [] else w.carriedBy f := by
  by_cases same : f = g
  · subst same
    simp [carriedBy, fiberAt, woken_pending sched inside]
  · simp [carriedBy, fiberAt, woken_pending sched inside, same]

/-- Waking a waiting fiber keeps the scheduler's bookkeeping. -/
theorem woken_scheduled (sched : w.Scheduled running) (waiting : w.isBlocked g = true)
    (other : running ≠ some g) : (w.woken g r).Scheduled running := by
  have inside : g < w.fibers.size := by
    obtain ⟨b, mem, rfl⟩ := isBlocked_iff.mp waiting
    exact sched.waitersExist b mem
  have fresh : g ∉ w.queue.toList := fun mem => by
    simp [sched.readyFree g mem] at waiting
  constructor
  · exact (List.filter_sublist.map _).nodup sched.waitsOnce
  · exact RunQueue.nodup_ready fresh sched.readyOnce
  · intro f mem
    rw [woken_isBlocked]
    rcases RunQueue.mem_ready.mp mem with same | mem
    · simp [same]
    · simp [sched.readyFree f mem]
  · intro f self
    obtain ⟨free, unready⟩ := sched.runningFree f self
    refine ⟨by simp [woken_isBlocked, free], fun mem => ?_⟩
    rcases RunQueue.mem_ready.mp mem with same | mem
    · exact other (same ▸ self)
    · exact unready mem
  · exact sched.runningExists
  · intro b mem
    exact sched.waitersExist b (List.mem_of_mem_filter mem)
  · intro f mem
    rcases RunQueue.mem_ready.mp mem with same | mem
    · exact same ▸ inside
    · exact sched.readyExist f mem
  · simp [woken, sched.slots]

theorem carriedBy_of_isBlocked (waiting : w.isBlocked g = true) :
    w.carriedBy g = ((w.fiberAt g).map (·.carried {})).getD [] := by
  simp [carriedBy, pending, waiting]

theorem held_woken (sched : w.Scheduled running) (waiting : w.isBlocked g = true)
    (other : running ≠ some g) :
    (w.woken g r).held running + (((w.fiberAt g).map (·.carried {})).getD []).length =
      w.held running + (((w.fiberAt g).map (·.carried r)).getD []).length := by
  have inside : g < w.fibers.size := by
    obtain ⟨b, mem, rfl⟩ := isBlocked_iff.mp waiting
    exact sched.waitersExist b mem
  have change := @othersSum_change w (w.woken g r) running (fun f => (w.carriedBy f).length)
    (fun f => ((w.woken g r).carriedBy f).length) g inside other rfl
    fun f _ ne _ => by simp [woken_carriedBy sched inside, ne]
  rw [woken_carriedBy sched inside, if_pos rfl, carriedBy_of_isBlocked waiting] at change
  exact change

/-- Waking a fiber with a resume that hands over nothing keeps the count. -/
theorem held_woken_of_quiet (sched : w.Scheduled running) (waiting : w.isBlocked g = true)
    (other : running ≠ some g) (quiet : r.delivery? = none) :
    (w.woken g r).held running = w.held running := by
  have := held_woken (r := r) sched waiting other
  cases h : w.fiberAt g <;> simp_all [Fiber.carried_of_delivery?_eq_none _ quiet]

/-- Handing a delivery to a waiting idle worker counts it once more. -/
theorem held_woken_of_handed (sched : w.Scheduled running) (waiting : w.isBlocked g = true)
    (other : running ≠ some g) {c : Courier} (idle : w.fiberAt g = some (.courier c))
    (free : c.sending = none) {d : Delivery} (handed : r.delivery? = some d) :
    (w.woken g r).held running = w.held running + 1 := by
  have := held_woken (r := r) sched waiting other
  simp_all [Fiber.carried, Resume.delivery?]

end Woken


open Std.Do

/-- Whether a wake may answer a wait: it is satisfied, or it is a scope, whose end the waker
has seen. -/
def answers (w : World) : Wait → Bool
  | .scope _ => true
  | wt => w.satisfied wt

theorem answers_woken (w : World) (g : Nat) (r : Resume) (wt : Wait) :
    (w.woken g r).answers wt = w.answers wt := by
  cases wt <;> rfl

/-- `w'` is `w` after waiting fibers, none of them the running one, were woken one after the
other, each at a wait it answers, with resumes that hand over nothing. -/
inductive Stirred (running : Option Nat) : World → World → Prop
  | refl (w : World) : Stirred running w w
  | wake {w w' : World} {b : Blocked} {k : Nat} (entry : b ∈ w.blocked) {wt : Wait}
      (at_ : b.waits[k]? = some wt) (fired : w.answers wt = true) (other : running ≠ some b.fiber)
      (rest : Stirred running (w.woken b.fiber { choice := k }) w') : Stirred running w w'

/-- The wakes a list asks for: each of a waiting fiber, at a wait it answers. -/
def Wakeable (w : World) (L : List (Nat × Nat)) : Prop :=
  ∀ x ∈ L, ∃ b ∈ w.blocked, b.fiber = x.1 ∧ ∃ wt, b.waits[x.2]? = some wt ∧ w.answers wt = true

/-- The waiters of `p` are wakeable when every wait `p` picks is answered. -/
theorem waiters_wakeable {p : Wait → Bool} {w : World} (picked : ∀ wt, p wt = true → w.answers wt = true) :
    w.Wakeable (waiters p w) := by
  intro x mem
  simp only [waiters, List.mem_filterMap, Option.map_eq_some_iff] at mem
  obtain ⟨b, inside, k, found, rfl⟩ := mem
  obtain ⟨lt, hit, -⟩ := List.findIdx?_eq_some_iff_getElem.mp found
  exact ⟨b, inside, rfl, b.waits[k], List.getElem?_eq_getElem lt, picked _ hit⟩

theorem waiters_nodup {p : Wait → Bool} {w : World} (sched : w.Scheduled running) :
    ((waiters p w).map (·.1)).Nodup := by
  refine List.Nodup.sublist ?_ sched.waitsOnce
  unfold waiters
  induction w.blocked with
  | nil => simp
  | cons b rest ih =>
    cases h : b.waits.findIdx? p
    · simpa [h] using ih.cons b.fiber
    · simpa [h] using ih.cons_cons b.fiber


theorem stirred_of_wakes {running : Option Nat} (L : List (Nat × Nat)) {w : World}
    (sched : w.Scheduled running) (wakeable : w.Wakeable L) (once : (L.map (·.1)).Nodup) :
    Stirred running w ((forIn L PUnit.unit fun (x : Nat × Nat) _ => do
      wake x.1 { choice := x.2 }
      pure (ForInStep.yield PUnit.unit) : WorldM PUnit).run w).2 := by
  induction L generalizing w with
  | nil => exact .refl w
  | cons x rest ih =>
    obtain ⟨g, k⟩ := x
    obtain ⟨b, entry, owner, wt, at_, fired⟩ := wakeable (g, k) List.mem_cons_self
    simp only at owner
    subst owner
    have other : running ≠ some b.fiber := fun self => by
      have := (sched.runningFree _ self).1
      simp [isBlocked_iff.mpr ⟨b, entry, rfl⟩] at this
    simp only [List.map_cons, List.nodup_cons, List.mem_map] at once
    refine .wake entry at_ fired other ?_
    have later := ih (w := w.woken b.fiber { choice := k })
      (woken_scheduled sched (isBlocked_iff.mpr ⟨b, entry, rfl⟩) other)
      (fun y mem => by
        obtain ⟨b', entry', owner, wt', at', fired'⟩ := wakeable y (List.mem_cons_of_mem _ mem)
        have ne : y.1 ≠ b.fiber := fun same => once.1 ⟨y, mem, same⟩
        refine ⟨b', List.mem_filter.mpr ⟨entry', by simp [owner, ne]⟩, owner, wt', at', ?_⟩
        rw [answers_woken]
        exact fired') once.2
    simp only [List.forIn_eq_foldlM] at later ⊢
    exact later

end World

end JobEngine

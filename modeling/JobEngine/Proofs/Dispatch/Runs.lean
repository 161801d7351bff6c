import JobEngine.Proofs.Dispatch.Retries

/-!
# Runs of the queue's fibers

The scheduler runs a ready fiber until it waits, ends or spends its budget of steps. Every step
of a fiber of the delivery queue keeps the invariant `World.Sound` and loses no delivery
(`World.Moved`); this module lifts that to whole runs. A run of a fiber is described by
`World.Ran`, which also counts the parked deliveries the fiber gave up at shutdown and the
retries it began, and every run `World.runFiber` makes is one of them. A run that starts with
no fiber running, no close waiting for its first step and the invariant gives all of it back,
with every delivery the fiber held accounted for, but those given up, and its retries counted
(`World.RunTally`).

## Main Definitions

* `World.ParkedWait` — every parked delivery that waited still waits.
* `World.Ran` — a run of one fiber, with the deliveries it gave up and the retries it began.
* `World.AtRest` — what holds while no fiber runs.
* `World.RunTally` — what a run of one fiber leaves.

## Main Statements

* `World.fiberStep_moved` — a step of any fiber of the queue.
* `World.runFiber_ran` — every run of a fiber is a `Ran`.
* `World.Ran.quiet` — a run of a fiber gives back what holds while no fiber runs.
* `World.AtRest.ran` — so does running the next ready fiber.
-/

namespace JobEngine

namespace World

open Std.Do

/-- Every parked delivery that waited still waits: none was woken and has yet to run. -/
def ParkedWait (w : World) : Prop :=
  ∀ g d due, w.fiberAt g = some (.parked d due true) → w.isBlocked g = true

/-- What holds while no fiber runs: the invariant, and no close waiting for its first step. -/
structure AtRest (q₀ : DeliveryQueue) (w : World) : Prop where
  sound : w.Sound q₀ none
  unopened : ∀ g x, w.fiberAt g = some x → x.opening = false

section Step

variable {q₀ : DeliveryQueue} {f : Nat}

/-- **A step of any fiber of the queue** keeps the invariant and loses no delivery, when the
close, at its first step, finds every parked delivery that waited still waiting. -/
theorem fiberStep_moved {w : World} {x : Fiber} {r : Resume} (poised : Poised q₀ w f x r)
    (first : x.opening = true → ParkedWait w) :
    ⦃fun w' => ⌜w' = w⌝⦄ x.step r ⦃⇓ n w' => ⌜Moved q₀ f w x r n w'⌝⦄ := by
  have kind := poised.sound.kinds f x poised.alive
  cases x with
  | courier c => exact courierStep_stepped c poised
  | parked d due waiting => exact parkedStep_stepped d due waiting poised
  | closer p done => exact closerStep_stepped p done poised
  | expire s => exact expireStep_stepped s poised
  | chore c =>
    cases c with
    | closeQueue s done =>
      cases done with
      | none =>
        cases opened : w.closedQueue
        · exact closeStep_stepped s poised opened (first rfl)
        · exact closeAgain_stepped s poised opened
      | some done => exact closeAnswer_stepped s done poised
    | _ => cases kind
  | _ => cases kind

end Step

/-- Fiber `f`, run from resume `r` in `w` with a budget of `fuel` steps until it waits, ends or
yields, leaves `w'`, having given up `n` parked deliveries at shutdown and begun `m` retries:
one constructor for each way `runFiber` goes on. -/
inductive Ran (f : Nat) : Nat → Resume → World → World → Nat → Nat → Prop
  /-- Its budget spent, the fiber yields, ready to go on with its resume. -/
  | yields (r : Resume) (w : World) : Ran f 0 r w (w.yielded f r) 0 0
  /-- The fiber ended before. -/
  | gone {fuel : Nat} {r : Resume} {w : World} : w.fiberAt f = none → Ran f (fuel + 1) r w w 0 0
  /-- The fiber's step ends it. -/
  | exits {fuel : Nat} {r : Resume} {w w' : World} {x : Fiber} : w.fiberAt f = some x →
      ((x.step r).run w).run = (.exit, w') →
      Ran f (fuel + 1) r w (w'.refibered f none) (if x.abandons r then 1 else 0) 0
  /-- The fiber's step asks to wait, and none of its waits is satisfied yet. -/
  | blocks {fuel : Nat} {r : Resume} {w w' w'' : World} {x y : Fiber} {waits : List Wait} :
      w.fiberAt f = some x → ((x.step r).run w).run = (.wait y waits, w') →
      ((park f y waits).run w').run = (none, w'') →
      Ran f (fuel + 1) r w w'' (if x.abandons r then 1 else 0) y.retrying
  /-- The fiber's step asks to wait, a wait is satisfied already, and the fiber goes on with
  the resume that names it. -/
  | goesOn {fuel : Nat} {r r' : Resume} {w w' w'' w''' : World} {x y : Fiber} {waits : List Wait}
      {n m : Nat} : w.fiberAt f = some x → ((x.step r).run w).run = (.wait y waits, w') →
      ((park f y waits).run w').run = (some r', w'') → Ran f fuel r' w'' w''' n m →
      Ran f (fuel + 1) r w w''' ((if x.abandons r then 1 else 0) + n) (y.retrying + m)

/-- **Every run of a fiber is a `Ran`**, for some counts of deliveries given up and retries
begun. -/
theorem runFiber_ran (f : Nat) (fuel : Nat) (r : Resume) (w : World) :
    ∃ n m, Ran f fuel r w ((runFiber f fuel r).run w).run.2 n m := by
  -- induction on the budget, following the cases of one round
  induction fuel generalizing r w with
  | zero => exact ⟨0, 0, .yields r w⟩
  | succ fuel ih =>
    simp only [runFiber, StateT.run_bind, StateT.run_get, pure_bind]
    cases slot : w.fibers[f]? with
    | none => exact ⟨0, 0, .gone (by simp [fiberAt, slot])⟩
    | some entry =>
      cases entry with
      | none => exact ⟨0, 0, .gone (by simp [fiberAt, slot])⟩
      | some x =>
        have alive : w.fiberAt f = some x := by simp [fiberAt, slot]
        simp only [StateT.run_bind]
        cases stepped : ((x.step r).run w).run with
        | mk n w' =>
          rw [Id.run_bind, stepped]
          cases n with
          | exit => exact ⟨_, _, .exits alive stepped⟩
          | wait y waits =>
            simp only [StateT.run_bind, Id.run_bind]
            cases parked : ((park f y waits).run w').run with
            | mk o w'' =>
              cases o with
              | none => exact ⟨_, _, .blocks alive stepped parked⟩
              | some r' =>
                obtain ⟨n, m, rest⟩ := ih r' w''
                exact ⟨_, _, .goesOn alive stepped parked rest⟩

section Leaving

variable {q₀ : DeliveryQueue} {w : World} {f : Nat} {q : DeliveryQueue}

/-- Counting the running fiber among the others adds what it holds. -/
theorem account_release (found : queue? w = some q) (inside : f < w.fibers.size) :
    w.account none = w.account (some f) + (w.carriedBy f).length := by
  simp only [account, found, held, othersSum_release w inside]
  omega

theorem account_refibered (inside : f < w.fibers.size) (x : Option Fiber) :
    (w.refibered f x).account (some f) = w.account (some f) := by
  simp only [account, refibered_held inside]
  rfl

/-- Emptying a fiber's slot that is empty already changes nothing. -/
theorem refibered_of_gone (inside : f < w.fibers.size) (gone : w.fiberAt f = none) :
    w.refibered f none = w := by
  have slot : w.fibers[f] = none := by
    simpa [fiberAt, Array.getElem?_eq_getElem inside] using gone
  suffices same : w.fibers.set! f none = w.fibers by
    show ({ w with fibers := w.fibers.set! f none } : World) = w
    rw [same]
  apply Array.ext_getElem?
  intro g
  by_cases here : f = g
  · subst here
    simp [slot, inside]
  · simp [Array.getElem?_setIfInBounds_ne here]

/-- A fiber that ended gives the invariant back with no fiber running. -/
theorem Sound.vacated (sound : w.Sound q₀ (some f)) : (w.refibered f none).Sound q₀ none := by
  have inside : f < w.fibers.size := sound.scheduled.runningExists f rfl
  have gone : (w.refibered f none).fiberAt f = none := by
    rw [fiberAt_refibered inside, if_pos rfl]
  cases alive : w.fiberAt f with
  | none =>
    rw [refibered_of_gone inside alive]
    exact sound.released alive
  | some y =>
    exact (sound.refibered alive (by simp) (by simp) (by simp) (by simp)).released gone

/-- A fiber that ended holds nothing. -/
theorem account_vacated (found : queue? w = some q) (inside : f < w.fibers.size) :
    (w.refibered f none).account none = w.account (some f) := by
  rw [account_release (w := w.refibered f none) found (by simpa using inside),
    account_refibered inside]
  simp [carriedBy, fiberAt_refibered inside]

theorem census_vacated (inside : f < w.fibers.size) (kind : Fiber → Bool) :
    (w.refibered f none).census none kind = w.census (some f) kind := by
  rw [census_release (w := w.refibered f none) (by simpa using inside), refibered_census inside]
  simp [fiberAt_refibered inside]

/-- A fiber that yields holds, while it is ready, what its resume hands it. -/
theorem carriedBy_yielded (inside : f < w.resumes.size) (free : w.isBlocked f = false) (r : Resume)
    (g : Nat) : (w.yielded f r).carriedBy g = if g = f then ((w.fiberAt f).map (·.carried r)).getD []
      else w.carriedBy g := by
  have fibers : (w.yielded f r).fiberAt = w.fiberAt := rfl
  by_cases same : g = f
  · subst same
    simp only [carriedBy, pending, yielded_isBlocked, free, fibers, yielded_resumes]
    simp [inside]
  · simp only [carriedBy, pending, yielded_isBlocked, fibers, yielded_resumes, if_neg same]
    simp [Array.getElem?_setIfInBounds_ne (Ne.symm same)]

/-- A fiber that yields is counted with the others, holding what its resume hands it. -/
theorem account_yielded (sound : w.Sound q₀ (some f)) (r : Resume) :
    (w.yielded f r).account none =
      w.account (some f) + (((w.fiberAt f).map (·.carried r)).getD []).length := by
  have sched := sound.scheduled
  have inside : f < w.fibers.size := sched.runningExists f rfl
  have free := (sched.runningFree f rfl).1
  obtain ⟨q, found, -⟩ := sound.outlet
  have carried := carriedBy_yielded (sched.slots ▸ inside) free r
  rw [account_release (w := w.yielded f r) found inside, carried, if_pos rfl]
  have others : (w.yielded f r).held (some f) = w.held (some f) :=
    othersSum_congr _ rfl fun g _ other => by
      have apart : g ≠ f := fun same => other (by rw [same])
      rw [carried, if_neg apart]
  have found' : queue? (w.yielded f r) = some q := found
  simp only [account, found, found', others]
  rfl

theorem census_yielded (inside : f < w.fibers.size) (r : Resume) (kind : Fiber → Bool) :
    (w.yielded f r).census none kind =
      w.census (some f) kind + if ((w.fiberAt f).map kind).getD false then 1 else 0 :=
  census_release (w := w.yielded f r) inside kind

end Leaving

section Park

variable {q₀ : DeliveryQueue} {w : World} {f : Nat} {x : Fiber} {waits : List Wait}

/-- Only an idle worker waits for a delivery. -/
theorem idle_of_inbox (fit : q₀.WaitsFit x waits) {k ch : Nat} (at_ : waits[k]? = some (.inbox ch)) :
    ∃ c, x = .courier c ∧ c.sending = none := by
  have mem := List.mem_of_getElem? at_
  cases x with
  | courier c =>
    rcases fit with ⟨idle, -⟩ | ⟨d, s, k, t, -, rfl⟩
    · exact ⟨c, rfl, idle⟩
    · simp at mem
  | parked d due waiting =>
    cases waiting <;> simp_all [DeliveryQueue.WaitsFit]
  | closer p done =>
    rcases q₀.waitsFit_closer fit with ⟨-, rfl⟩ | ⟨-, rfl⟩ <;> simp_all
  | chore c =>
    cases c with
    | closeQueue s done => cases done <;> simp_all [DeliveryQueue.WaitsFit]
    | _ => simp [DeliveryQueue.WaitsFit] at fit
  | _ => simp [DeliveryQueue.WaitsFit] at fit

/-- A parking fiber that sets alarms for its alarm waits and goes no further leaves the world it
blocked in with some alarms added. -/
theorem tallied_of_alarms {P : Option Resume → World → Prop} {ws : List (Wait × Nat)}
    {body : Wait × Nat → PUnit → WorldM (ForInStep PUnit)}
    (each : ∀ p (v : World), ∃ L : List Alarm, (body p PUnit.unit).run v =
      (.yield PUnit.unit, { v with alarms := v.alarms ++ L, seq := v.seq + L.length }) ∧
      ∀ a ∈ L, a.fiber = some f ∧ p = (.alarm a.due, a.choice))
    {W : World}
    (blocked : ∀ L : List Alarm, P none { W with alarms := W.alarms ++ L, seq := W.seq + L.length }) :
    P ((do forIn ws PUnit.unit body; pure none : WorldM (Option Resume)).run W).1
      ((do forIn ws PUnit.unit body; pure none : WorldM (Option Resume)).run W).2 := by
  obtain ⟨L, looped, -⟩ := forIn_alarms_run each W
  rw [StateT.run_bind, looped]
  exact blocked L

/-- A fiber that blocks is counted with the others, holding what it holds while it waits. -/
theorem account_blockedOn {q : DeliveryQueue} (found : queue? w = some q) (inside : f < w.fibers.size)
    (free : w.isBlocked f = false) (here : w.fiberAt f = some x) (alarms : List Alarm) (seq : Nat) :
    (w.blockedOn f waits alarms seq).account none = w.account (some f) + (x.carried {}).length := by
  have blocks : ∀ g, (w.blockedOn f waits alarms seq).isBlocked g = (w.isBlocked g || f == g) :=
    isBlocked_append (w := { w with alarms, seq }) _
  have carried : ∀ g, (w.blockedOn f waits alarms seq).carriedBy g =
      if g = f then x.carried {} else w.carriedBy g := fun g => by
    have fibers : (w.blockedOn f waits alarms seq).fiberAt = w.fiberAt := rfl
    by_cases same : g = f
    · subst same
      simp [carriedBy, pending, blocks, fibers, here]
    · have apart : (f == g) = false := by simpa using Ne.symm same
      simp only [carriedBy, pending, blocks, apart, Bool.or_false, fibers, if_neg same]
      rfl
  have others : (w.blockedOn f waits alarms seq).held (some f) = w.held (some f) :=
    othersSum_congr _ rfl fun g _ other => by
      have apart : g ≠ f := fun same => other (by rw [same])
      rw [carried, if_neg apart]
  have found' : queue? (w.blockedOn f waits alarms seq) = some q := found
  rw [account_release found' inside, carried, if_pos rfl]
  simp only [account, found, found', others]
  rfl

/-- What parking fiber `f` as `x` does to the account and the census, from `w`: when it blocks,
it is counted with the others, holding what it holds while it waits; when it goes on at once
with `r`, it holds what `r` hands it, taken from the queue's buffer. -/
def ParkTally (w : World) (f : Nat) (x : Fiber) : Option Resume → World → Prop
  | none, w' => w'.account none = w.account (some f) + (x.carried {}).length ∧
      ∀ kind, w'.census none kind = w.census (some f) kind + if kind x then 1 else 0
  | some r, w' => w'.account (some f) + (x.carried r).length =
      w.account (some f) + (x.carried {}).length ∧
      ∀ kind, w'.census (some f) kind = w.census (some f) kind

/-- **Parking a fiber loses no delivery**: what it holds when it blocks, or what it is handed
when it goes on at once, is counted. -/
theorem park_tallied (sound : w.Sound q₀ (some f)) (parks : Parks q₀ w f x waits) :
    ParkTally w f x ((park f x waits).run w).run.1 ((park f x waits).run w).run.2 := by
  obtain ⟨y₀, old, kept⟩ := parks.kept
  have inside : f < w.fibers.size := sound.scheduled.runningExists f rfl
  have free := (sound.scheduled.runningFree f rfl).1
  obtain ⟨q, found, agrees⟩ := sound.outlet
  have here : (w.refibered f (some x)).fiberAt f = some x := by
    rw [fiberAt_refibered inside, if_pos rfl]
  have sound₁ : (w.refibered f (some x)).Sound q₀ (some f) :=
    sound.refibered old (fun y mem => by cases mem; exact parks.kind)
      (fun y mem => by cases mem; exact parks.fits) (fun y mem => by cases mem; exact kept)
      (fun y mem => by cases mem; exact parks.done)
  have account₁ := account_refibered (w := w) inside (some x)
  have census₁ := refibered_census (w := w) (x := some x) inside
  have satisfied_eq : (w.refibered f (some x)).satisfied = w.satisfied := rfl
  simp only [park, StateT.run_bind, StateT.run_modify, StateT.run_get, pure_bind]
  generalize hw₁ : ({ w with fibers := w.fibers.set! f (some x) } : World) = w₁
  change w.refibered f (some x) = w₁ at hw₁
  subst hw₁
  rw [satisfied_eq]
  split
  · next k first =>
    split
    · next ch at_ =>
      -- an idle worker takes the oldest buffered delivery, if any
      obtain rfl : ch = q₀.queue := waits_inbox parks.waitsFit at_
      obtain ⟨c, rfl, idle⟩ := idle_of_inbox parks.waitsFit at_
      have alike := receive?_alike (w.refibered f (some (.courier c))) q₀.queue
      have taken := account_received sound₁
      show ParkTally w f _
        (some ⟨k, ((receive? q₀.queue).run (w.refibered f (some (.courier c)))).run.1⟩)
        ((receive? q₀.queue).run (w.refibered f (some (.courier c)))).run.2
      refine ⟨?_, fun kind => by rw [alike.census, census₁]⟩
      rw [receive?_result] at taken ⊢
      cases head : (w.refibered f (some (.courier c))).buffer q₀.queue with
      | nil =>
        simp only [head, List.head?_nil, Option.map_none, Option.getD_none] at taken
        simp [Fiber.carried, idle, Resume.delivery?, taken, account₁]
      | cons m rest =>
        obtain ⟨d, rfl, -⟩ := sound₁.buffered m (by simp [head])
        simp only [head, List.head?_cons, Option.map_some, Option.getD_some] at taken
        simpa [Fiber.carried, idle, Resume.delivery?, account₁] using taken
    · show ParkTally w f x (some { choice := k }) (w.refibered f (some x))
      exact ⟨by rw [account₁, Fiber.carried_of_delivery?_eq_none x rfl], census₁⟩
  · next none_ =>
    show ParkTally w f x ((do forIn waits.zipIdx PUnit.unit _; pure none : WorldM (Option Resume)).run
      ((w.refibered f (some x)).blockedOn f waits (w.refibered f (some x)).alarms
        (w.refibered f (some x)).seq)).1 _
    apply tallied_of_alarms (f := f)
    · rintro ⟨wt, k⟩ v
      cases wt with
      | alarm due =>
        exact ⟨[{ due, seq := v.seq, fiber := some f, choice := k, scope := none }], rfl, by simp⟩
      | _ => exact ⟨[], by simp; rfl, by simp⟩
    · -- the fiber blocks, counted with the others; its alarms change nothing the account reads
      intro L
      let W := w.refibered f (some x)
      show ParkTally w f x none (W.blockedOn f waits (W.alarms ++ L) (W.seq + L.length))
      have inside₁ : f < W.fibers.size := by simpa [W] using inside
      refine ⟨?_, fun kind => ?_⟩
      · rw [account_blockedOn (w := W) found inside₁ free here, account₁]
      · rw [census_release (w := W.blockedOn f waits _ _) inside₁,
          census_of_fibers (w := W)
            (show (W.blockedOn f waits (W.alarms ++ L) (W.seq + L.length)).fibers = W.fibers from rfl),
          census₁,
          show (W.blockedOn f waits (W.alarms ++ L) (W.seq + L.length)).fiberAt f = some x from here]
        rfl

end Park

section Run

variable {q₀ : DeliveryQueue} {f : Nat} {w w' w'' : World} {x y : Fiber} {r : Resume}
  {waits : List Wait}

/-- No fiber but the running one is a close waiting for its first step. -/
theorem unopened_of_census (zero : w.census none Fiber.opening = 0) :
    ∀ g x, w.fiberAt g = some x → x.opening = false :=
  fun _ _ alive => kind_false_of_census zero alive (by simp)

/-- A step of fiber `f`, poised as `x` with `r`, when the close, at its first step, finds every
parked delivery that waited still waiting. -/
theorem moved_of_run (poised : Poised q₀ w f x r) (first : x.opening = true → ParkedWait w)
    {n : Next} (stepped : ((x.step r).run w).run = (n, w')) : Moved q₀ f w x r n w' := by
  have moved := run_of_spec (fiberStep_moved poised first) rfl
  rw [show (x.step r).run w = (n, w') from stepped] at moved
  exact moved

/-- A step that ends its fiber gives back what holds while no fiber runs: what the fiber held
is accounted for, but a parked delivery given up. -/
theorem Moved.exited (moved : Moved q₀ f w x r .exit w')
    (unopened : w.census (some f) Fiber.opening = 0) :
    AtRest q₀ (w'.refibered f none) ∧ (w'.refibered f none).account none +
      (if x.abandons r then 1 else 0) = w.account (some f) + (x.carried r).length := by
  have sound : w'.Sound q₀ (some f) := moved.stepped
  have inside : f < w'.fibers.size := sound.scheduled.runningExists f rfl
  obtain ⟨q, found, -⟩ := sound.outlet
  have quiet : (w'.refibered f none).census none Fiber.opening = 0 := by
    rw [census_vacated inside, moved.openings, unopened]
  refine ⟨⟨sound.vacated, unopened_of_census quiet⟩, ?_⟩
  have tally := moved.tally
  simp only [Tallied, Next.holding, Nat.add_zero] at tally
  rw [account_vacated found inside, tally]

/-- A fiber whose step asks to wait is parked: it blocks, giving back the invariant with no
fiber running, or goes on at once, poised for its next step, with every delivery accounted
for. -/
theorem Moved.parked {o : Option Resume} (moved : Moved q₀ f w x r (.wait y waits) w')
    (parked : ((park f y waits).run w').run = (o, w'')) :
    Parked q₀ f y o w'' ∧ ParkTally w' f y o w'' := by
  obtain ⟨sound, parks⟩ := moved.stepped
  have spec := run_of_spec (park_parked f y waits) ⟨sound, parks⟩
  have tally := park_tallied sound parks
  rw [show (park f y waits).run w' = (o, w'') from parked] at spec tally
  exact ⟨spec, tally⟩

/-- A step that waits, none of its waits satisfied yet, gives back what holds while no fiber
runs, the fiber counted with what it holds while it waits. -/
theorem Moved.blocked (moved : Moved q₀ f w x r (.wait y waits) w')
    (parked : ((park f y waits).run w').run = (none, w''))
    (unopened : w.census (some f) Fiber.opening = 0) :
    AtRest q₀ w'' ∧ w''.account none + (if x.abandons r then 1 else 0) =
      w.account (some f) + (x.carried r).length := by
  obtain ⟨sound, counted, census_eq⟩ := moved.parked parked
  have onward := moved.onward y waits rfl
  have quiet : w''.census none Fiber.opening = 0 := by
    rw [census_eq, moved.openings, unopened, onward.1]
    rfl
  refine ⟨⟨sound, unopened_of_census quiet⟩, ?_⟩
  have tally := moved.tally
  simp only [Tallied, Next.holding] at tally
  rw [counted]
  omega

/-- A step that waits, a wait satisfied already, leaves the fiber poised to go on as a fiber
that is no close waiting for its first step, with what it is handed counted. -/
theorem Moved.wentOn {r' : Resume} (moved : Moved q₀ f w x r (.wait y waits) w')
    (parked : ((park f y waits).run w').run = (some r', w'')) :
    Poised q₀ w'' f y r' ∧ y.opening = false ∧
      w''.census (some f) Fiber.opening = w.census (some f) Fiber.opening ∧
      w''.account (some f) + (y.carried r').length + (if x.abandons r then 1 else 0) =
        w.account (some f) + (x.carried r).length := by
  obtain ⟨poised, counted, census_eq⟩ := moved.parked parked
  refine ⟨poised, (moved.onward y waits rfl).1, by rw [census_eq, moved.openings], ?_⟩
  have tally := moved.tally
  simp only [Tallied, Next.holding] at tally
  omega

/-- Only a parked delivery is ever given up. -/
theorem abandons_of_unparked (unparked : x.isParked = false) (r : Resume) :
    x.abandons r = false := by
  cases x <;> simp_all [Fiber.isParked, Fiber.abandons]

/-- What a run of fiber `f` from `w` with resume `r`, ending in `w'` with `n` parked deliveries
given up and `m` retries begun, leaves: what holds while no fiber runs; every delivery the
others and the fiber held accounted for but those given up, which only a parked delivery
gives up; and the retries counted, which only a worker begins. -/
structure RunTally (q₀ : DeliveryQueue) (f : Nat) (r : Resume) (w w' : World) (n m : Nat) :
    Prop where
  rest : AtRest q₀ w'
  account : w'.account none + n =
    w.account (some f) + (((w.fiberAt f).map (·.carried r)).getD []).length
  unparked : ((w.fiberAt f).map Fiber.isParked).getD false = false → n = 0
  retries : w'.retries = w.retries + m
  idle : ((w.fiberAt f).map Fiber.isCourier).getD false = false → m = 0

/-- The step of a fiber of the queue that ends as `(n, w')` counts the retry it begins. -/
theorem retries_of_step (kind : x.dispatching = true) {n : Next}
    (stepped : ((x.step r).run w).run = (n, w')) : w'.retries = w.retries + n.retrying := by
  have counts := fiberStep_countsRetry kind r w
  rw [stepped] at counts
  exact counts

/-- A fiber of the queue other than a worker goes on as one. -/
theorem other_of_step (kind : x.dispatching = true) (other : x.isCourier = false)
    (stepped : ((x.step r).run w).run = (.wait y waits, w')) : y.isCourier = false :=
  (fiberStep_uncounted kind other r w).other y waits (by rw [stepped])

/-- **A run of a fiber gives back what holds while no fiber runs**, and loses no delivery: started
with the invariant, poised for its resume, with no other close waiting for its first step, and
with a fiber that is one only if it takes that step at once while every parked delivery that
waited still waits, the run leaves the invariant with no fiber running and no such close.
Every delivery the others and the fiber held is accounted for, but those given up at shutdown,
and the retries the fiber began are counted. -/
theorem Ran.quiet {fuel n m : Nat} (ran : Ran f fuel r w w' n m)
    (sound : w.Sound q₀ (some f)) (bounded : ∀ d ∈ r.delivery?, q₀.Bounded d)
    (poised : ∀ x, w.fiberAt f = some x →
      Poised q₀ w f x r ∧ (x.opening = true → 0 < fuel ∧ ParkedWait w))
    (unopened : w.census (some f) Fiber.opening = 0) :
    RunTally q₀ f r w w' n m := by
  -- induction on the run, one round of it at a time
  induction ran with
  | yields r w =>
    have inside : f < w.fibers.size := sound.scheduled.runningExists f rfl
    -- with no budget left the fiber cannot be a close before its first step
    have closed : ∀ x, w.fiberAt f = some x → x.opening = false := fun x alive => by
      cases opening : x.opening
      · rfl
      · exact absurd ((poised x alive).2 opening).1 (by omega)
    have quiet : (w.yielded f r).census none Fiber.opening = 0 := by
      rw [census_yielded inside r, unopened]
      cases alive : w.fiberAt f with
      | none => rfl
      | some x => simp [closed x alive]
    exact ⟨⟨sound.yielded bounded fun x alive => (poised x alive).1, unopened_of_census quiet⟩,
      account_yielded sound r, fun _ => rfl, rfl, fun _ => rfl⟩
  | @gone fuel r w gone =>
    have inside : f < w.fibers.size := sound.scheduled.runningExists f rfl
    obtain ⟨q, found, -⟩ := sound.outlet
    have quiet : w.census none Fiber.opening = 0 := by
      rw [census_release inside, unopened, gone]
      rfl
    refine ⟨⟨sound.released gone, unopened_of_census quiet⟩, ?_, fun _ => rfl, rfl, fun _ => rfl⟩
    rw [account_release found inside]
    simp [carriedBy, gone]
  | @exits fuel r w w' x alive stepped =>
    obtain ⟨poisedX, first⟩ := poised x alive
    obtain ⟨quiet, counted⟩ :=
      (moved_of_run poisedX (fun opening => (first opening).2) stepped).exited unopened
    have kind := sound.kinds f x alive
    refine ⟨quiet, by rw [alive]; exact counted, fun unparked => ?_, retries_of_step kind stepped,
      fun _ => rfl⟩
    rw [alive] at unparked
    simp [abandons_of_unparked (by simpa using unparked) r]
  | @blocks fuel r w w' w'' x y waits alive stepped parked =>
    obtain ⟨poisedX, first⟩ := poised x alive
    obtain ⟨quiet, counted⟩ :=
      (moved_of_run poisedX (fun opening => (first opening).2) stepped).blocked parked unopened
    have kind := sound.kinds f x alive
    have parkedRetries := retries_park f y waits w'
    rw [parked] at parkedRetries
    refine ⟨quiet, by rw [alive]; exact counted, fun unparked => ?_,
      parkedRetries.trans (retries_of_step kind stepped), fun other => ?_⟩
    · rw [alive] at unparked
      simp [abandons_of_unparked (by simpa using unparked) r]
    · rw [alive] at other
      exact retrying_of_other (other_of_step kind (by simpa using other) stepped)
  | @goesOn fuel r r' w w' w'' w''' x y waits n m alive stepped parked rest ih =>
    obtain ⟨poisedX, first⟩ := poised x alive
    have moved := moved_of_run poisedX (fun opening => (first opening).2) stepped
    obtain ⟨poisedY, closedY, census_eq, counted⟩ := moved.wentOn parked
    have kind := sound.kinds f x alive
    have parkedRetries := retries_park f y waits w'
    rw [parked] at parkedRetries
    -- after its first step the fiber is no close that has yet to take it
    have later := ih poisedY.sound poisedY.bounded
      (fun z alive' => by
        obtain rfl : z = y := Option.some.inj (alive'.symm.trans poisedY.alive)
        exact ⟨poisedY, fun opening => by simp [closedY] at opening⟩)
      (by rw [census_eq, unopened])
    have tallied := later.account
    have kept := later.unparked
    have idle := later.idle
    rw [poisedY.alive] at tallied kept idle
    simp only [Option.map_some, Option.getD_some] at tallied kept idle
    have retried : w'''.retries = w.retries + (y.retrying + m) := by
      rw [later.retries, parkedRetries, retries_of_step kind stepped]
      simp only [Next.retrying]
      omega
    refine ⟨later.rest, ?_, fun unparked => ?_, retried, fun other => ?_⟩
    · rw [alive]
      simp only [Option.map_some, Option.getD_some]
      omega
    · rw [alive] at unparked
      simp only [Option.map_some, Option.getD_some] at unparked
      rw [abandons_of_unparked unparked r, kept ((moved.onward y waits rfl).2.trans unparked)]
      rfl
    · rw [alive] at other
      simp only [Option.map_some, Option.getD_some] at other
      have otherY := other_of_step kind other stepped
      rw [retrying_of_other otherY, idle otherY]

end Run

section Next

variable {q₀ : DeliveryQueue} {w : World} {f : Nat} {q : RunQueue}

theorem census_eq_zero {running : Option Nat} {kind : Fiber → Bool}
    (none_ : ∀ g x, w.fiberAt g = some x → kind x = false) : w.census running kind = 0 := by
  unfold census othersSum
  refine Finset.sum_eq_zero fun g _ => ?_
  cases alive : w.fiberAt g with
  | none => simp [alive]
  | some x => simp [alive, none_ g x alive]

/-- Taking fiber `f` from the run queue to run it keeps the invariant, with `f` running. -/
theorem Sound.popped (sound : w.Sound q₀ none) (popped : w.queue.pop? = some (f, q)) :
    ({ w with queue := q } : World).Sound q₀ (some f) := by
  have sched := sound.scheduled
  have line := RunQueue.toList_of_pop? popped
  have once : (f :: q.toList).Nodup := line ▸ sched.readyOnce
  have ready : ∀ g ∈ q.toList, g ∈ w.queue.toList := fun g mem => line ▸ List.mem_cons_of_mem f mem
  have here : f ∈ w.queue.toList := line ▸ List.mem_cons_self
  have census_le : ∀ kind, ({ w with queue := q } : World).census (some f) kind ≤ w.census none kind :=
    fun kind => by
      rw [census_release (w := w) (sched.readyExist f here) kind]
      exact Nat.le_add_right _ _
  exact
    { sound with
      scheduled := ⟨sched.waitsOnce, (List.nodup_cons.mp once).2,
        fun g mem => sched.readyFree g (ready g mem),
        fun g self => by
          cases self
          exact ⟨sched.readyFree f here, (List.nodup_cons.mp once).1⟩,
        fun g self => by
          cases self
          exact sched.readyExist f here,
        sched.waitersExist, fun g mem => sched.readyExist g (ready g mem), sched.slots⟩
      stranded := fun g x alive other => by
        rcases sound.stranded g x alive (by simp) with blocked | waiting
        · exact .inl blocked
        · rw [line, List.mem_cons] at waiting
          rcases waiting with same | later
          · exact absurd (by rw [same]) other
          · exact .inr later
      primed := fun g x alive _ => sound.primed g x alive (by simp)
      staffed := (census_le _).trans sound.staffed
      parkedCounted := (census_le _).trans sound.parkedCounted }

/-- The resume a fiber was left hands over only deliveries parked no more often than allowed. -/
theorem Sound.resumeBounded {running : Option Nat} (sound : w.Sound q₀ running) (f : Nat) :
    ∀ d ∈ ((w.resumes[f]?).getD {}).delivery?, q₀.Bounded d := by
  intro d mem
  cases slot : w.resumes[f]? with
  | none => simp [slot, Resume.delivery?] at mem
  | some r =>
    rw [slot, Option.getD_some] at mem
    exact sound.resumes r (Array.mem_of_getElem? slot) d mem

/-- A fiber taken from the run queue is poised for the resume it was left. -/
theorem Sound.poised (sound : w.Sound q₀ none) (popped : w.queue.pop? = some (f, q)) {x : Fiber}
    (alive : w.fiberAt f = some x) :
    Poised q₀ { w with queue := q } f x ((w.resumes[f]?).getD {}) := by
  have here : f ∈ w.queue.toList := RunQueue.toList_of_pop? popped ▸ List.mem_cons_self
  have free : w.isBlocked f = false := sound.scheduled.readyFree f here
  have inside : f < w.fibers.size := sound.scheduled.readyExist f here
  have primed := sound.primed f x alive (by simp)
  rw [free, pending, if_neg (by simp [free])] at primed
  have counts : ∀ kind, w.census none kind =
      ({ w with queue := q } : World).census (some f) kind + if kind x then 1 else 0 :=
    fun kind => by
      rw [census_release (w := w) inside kind, alive]
      rfl
  refine ⟨sound.popped popped, alive, primed, sound.resumeBounded f, fun courier => ?_,
    fun parked => ?_⟩
  · have := sound.staffed
    rw [counts, courier, if_pos rfl] at this
    exact this
  · have := sound.parkedCounted
    rw [counts, parked, if_pos rfl] at this
    exact this

/-- A fiber taken from the run queue is poised for the resume it was left, and no close waits
for its first step. -/
theorem AtRest.poised (quiet : AtRest q₀ w) (popped : w.queue.pop? = some (f, q)) {x : Fiber}
    (alive : w.fiberAt f = some x) :
    Poised q₀ { w with queue := q } f x ((w.resumes[f]?).getD {}) ∧ x.opening = false :=
  ⟨quiet.sound.poised popped alive, quiet.unopened f x alive⟩

/-- With no fiber ready, running the next one changes nothing. -/
theorem runNext_idle (none_ : w.queue.pop? = none) : (runNext.run w).run.2 = w := by
  simp only [runNext, StateT.run_bind, StateT.run_get, pure_bind, none_]
  rfl

/-- **Running the next ready fiber** is a run of that fiber, from the world without it in the run
queue and with the resume it was left. -/
theorem runNext_pop (popped : w.queue.pop? = some (f, q)) :
    (runNext.run w).run.2 =
      ((runFiber f stepBudget ((w.resumes[f]?).getD {})).run { w with queue := q }).run.2 := by
  simp only [runNext, StateT.run_bind, StateT.run_get, pure_bind, popped]
  rfl

/-- A fiber taken from the run queue holds what the resume it was left hands it. -/
theorem account_popped (sound : w.Sound q₀ none) (popped : w.queue.pop? = some (f, q)) :
    w.account none = ({ w with queue := q } : World).account (some f) +
      (((w.fiberAt f).map (·.carried ((w.resumes[f]?).getD {}))).getD []).length := by
  have here : f ∈ w.queue.toList := RunQueue.toList_of_pop? popped ▸ List.mem_cons_self
  have free : w.isBlocked f = false := sound.scheduled.readyFree f here
  obtain ⟨q', found, -⟩ := sound.outlet
  have found' : queue? ({ w with queue := q } : World) = some q' := found
  have release := account_release found' (sound.scheduled.readyExist f here)
  have carried : ({ w with queue := q } : World).carriedBy f =
      ((w.fiberAt f).map (·.carried ((w.resumes[f]?).getD {}))).getD [] := by
    simp only [carriedBy, pending]
    rw [if_neg (by simpa [isBlocked] using free)]
    rfl
  rw [← carried, ← release]
  rfl

/-- **Running the next ready fiber gives back what holds while no fiber runs**, loses no
delivery but those the fiber gave up at shutdown, and counts the retries it began. -/
theorem AtRest.ran (quiet : AtRest q₀ w) (popped : w.queue.pop? = some (f, q)) {fuel : Nat}
    {w' : World} {n m : Nat}
    (ran : Ran f fuel ((w.resumes[f]?).getD {}) { w with queue := q } w' n m) :
    AtRest q₀ w' ∧ w'.account none + n = w.account none ∧ w'.retries = w.retries + m := by
  have unopened : ({ w with queue := q } : World).census (some f) Fiber.opening = 0 :=
    census_eq_zero quiet.unopened
  have tally := ran.quiet (quiet.sound.popped popped) (quiet.sound.resumeBounded f)
    (fun _ alive => ⟨(quiet.poised popped alive).1,
      fun opening => by simp [(quiet.poised popped alive).2] at opening⟩) unopened
  exact ⟨tally.rest, tally.account.trans (account_popped quiet.sound popped).symm, tally.retries⟩

end Next

end World

end JobEngine

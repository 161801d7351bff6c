import JobEngine.Proofs.Engine.Invocation
import JobEngine.Proofs.Remote.Mirror

/-!
# Runs of an engine, and what every call keeps

Between two calls on an engine the world goes on doing other things: fibers wake, messages
pass, scopes end, lines are written to the metrics. What an engine promises about its jobs —
its tables, the scopes its jobs run under, its metric lines about jobs, the callbacks of its
jobs — does not depend on any of that. This module makes that precise in two ways.

`World.Aside w₀ w` says that nothing such a promise is about changed from `w₀` to `w`: the
jobs and tables, the keepers of the jobs (but how far a callback has numbered its events),
the venues' metering and the metric lines about jobs are as they were, and scopes were only
added. The operations the world is made of keep it, each by one triple.

`World.Invariant I` says what it takes for a property `I` of worlds to hold along every run:
that it survives what is aside, and the four operations that move the jobs — a change of a job
(`changeHere`), entering a new job (`startJob`), copying a remote job (`newCopy`) and deleting
a finished one (`deleteJob`). From these alone, `CallInvariant.call` shows that every call on an
engine keeps `I`, and `EngineCall.Runs.invariant` that every run does.

A property about callbacks cannot survive all that is aside: a step aside may count an event
or record a delivery. `World.Silent` is the narrower frame of the steps that tell no one, and
`World.CallInvariant` asks only that a property survive those; it then holds along every run in
which nothing but the engine's calls tells anyone (`EngineCall.SilentRuns.invariant`).

## Main Definitions

* `Keeper.bare` — a keeper with its callback's event count forgotten.
* `lineStarts`, `isJobLine` — whether a metric line starts with a text, and with `job_`.
* `World.Aside` — nothing an engine's promises are about changed.
* `World.Invariant` — a property of worlds that the moves of jobs keep.
* `World.Silent` — a step that is aside and tells no one.
* `World.CallInvariant` — a property that the moves of jobs and the steps telling no one keep.
* `World.Elsewhere` — what is aside and leaves every keeper as it was.
* `EngineCall.Runs` — calls on an engine, with anything elsewhere between them.
* `EngineCall.SilentRuns` — calls on an engine, with steps that tell no one between them.

## Main Statements

* `World.CallInvariant.call` — every call keeps a call invariant, and so an invariant.
* `EngineCall.Runs.invariant` — every run keeps an invariant.
* `EngineCall.SilentRuns.invariant` — every run that only its calls tell keeps a call invariant.
* `EngineCall.Runs.reaches` — a run is one of the runs `EngineCall.Reaches` describes.
-/

namespace JobEngine

/-- A keeper with the count of its callback's events forgotten: whom it tells, and how, but
not how far it has numbered. -/
def Keeper.bare : Keeper → Keeper
  | .venue v a s n => .venue v a s (n.map fun n => { n with numbering := { n.numbering with seq := 0 } })
  | k => k

/-- Whether a metric line starts with the text `p`. -/
def lineStarts (p line : String) : Bool := line.toList.take p.toList.length == p.toList

/-- Whether a metric line is about jobs: it starts with `job_`. -/
def isJobLine (line : String) : Bool := lineStarts "job_" line

namespace Scopes

@[simp] theorem size_set (s : Scopes) (i : Nat) (x : Scope) : (s.set i x).items.size = s.items.size := by
  simp [set]

theorem size_endAll (e : Ending) (fuel : Nat) (work acc : List Nat) (s : Scopes) :
    (endAll e fuel work acc s).2.items.size = s.items.size := by
  induction fuel generalizing work acc s with
  | zero => rfl
  | succ fuel ih =>
    cases work with
    | nil => rfl
    | cons i rest =>
      simp only [endAll]
      split
      · exact ih _ _ _
      · rw [ih]
        simp

/-- Ending scopes adds none and removes none. -/
@[simp] theorem size_cancel (i : Nat) (e : Ending) (s : Scopes) :
    (s.cancel i e).2.items.size = s.items.size := by
  unfold cancel
  split
  · rfl
  · exact size_endAll e _ _ _ s

/-- A new scope takes the next index. -/
theorem create_fst (parent : Nat) (deadline : Option Int) (now : Int) (s : Scopes) :
    (s.create parent deadline now).1 = s.items.size := by
  unfold create
  dsimp only
  split <;> split <;> rfl

@[simp] theorem size_create (parent : Nat) (deadline : Option Int) (now : Int) (s : Scopes) :
    (s.create parent deadline now).2.2.items.size = s.items.size + 1 := by
  unfold create
  dsimp only
  split <;> split <;> simp [set]

end Scopes

namespace World

open Std.Do

/-- **Nothing an engine promises anything about changed** from `w₀` to `w`: the jobs and
tables, the keepers but for how far their callbacks have numbered, the venues' metering and
the metric lines about jobs are as they were, and no scope was removed. -/
structure Aside (w₀ w : World) : Prop where
  jobs : SameJobs w₀ w
  keepers : w.cells.map (·.keeper.bare) = w₀.cells.map (·.keeper.bare)
  scopes : w₀.scopes.items.size ≤ w.scopes.items.size
  meters : w.venues.map (·.metered) = w₀.venues.map (·.metered)
  lines : w.metrics.filter isJobLine = w₀.metrics.filter isJobLine

/-- `Aside` as the conjunction it is, for `simp` to take apart. -/
theorem aside_iff {w₀ w : World} : Aside w₀ w ↔
    w.cells.map JobCell.view = w₀.cells.map JobCell.view ∧
      w.venues.map (·.table) = w₀.venues.map (·.table) ∧
      w.cells.map (·.keeper.bare) = w₀.cells.map (·.keeper.bare) ∧
      w₀.scopes.items.size ≤ w.scopes.items.size ∧
      w.venues.map (·.metered) = w₀.venues.map (·.metered) ∧
      w.metrics.filter isJobLine = w₀.metrics.filter isJobLine := by
  constructor
  · rintro ⟨jobs, keepers, scopes, meters, lines⟩
    simp only [SameJobs, jobView, JobView.mk.injEq] at jobs
    exact ⟨jobs.1, jobs.2, keepers, scopes, meters, lines⟩
  · rintro ⟨cells, tables, keepers, scopes, meters, lines⟩
    exact ⟨by simp [SameJobs, jobView, cells, tables], keepers, scopes, meters, lines⟩

theorem Aside.refl (w : World) : Aside w w := ⟨rfl, rfl, le_rfl, rfl, rfl⟩

theorem Aside.trans {w₀ w₁ w₂ : World} (first : Aside w₀ w₁) (second : Aside w₁ w₂) :
    Aside w₀ w₂ :=
  ⟨first.jobs.trans second.jobs, second.keepers.trans first.keepers,
    first.scopes.trans second.scopes, second.meters.trans first.meters,
    second.lines.trans first.lines⟩

/-- A world with the cells, venues and metrics of one aside, and with its scopes and perhaps
more, is aside too. -/
theorem Aside.same {w₀ w w' : World} (aside : Aside w₀ w) (cells : w'.cells = w.cells)
    (venues : w'.venues = w.venues) (scopes : w.scopes.items.size ≤ w'.scopes.items.size)
    (metrics : w'.metrics = w.metrics) : Aside w₀ w' :=
  aside.trans ⟨by simp [SameJobs, jobView, cells, venues], by rw [cells], scopes, by rw [venues],
    by rw [metrics]⟩

section Frames

variable (w₀ : World)

theorem wake_aside (f : Nat) (r : Resume) :
    ⦃fun w => ⌜Aside w₀ w⌝⦄ wake f r ⦃⇓ _ w => ⌜Aside w₀ w⌝⦄ :=
  triple_of_run fun _ aside => aside.same rfl rfl le_rfl rfl

attribute [local spec high] wake_aside

theorem wakeEvery_aside (p : Wait → Bool) :
    ⦃fun w => ⌜Aside w₀ w⌝⦄ wakeEvery p ⦃⇓ _ w => ⌜Aside w₀ w⌝⦄ := by
  unfold wakeEvery
  mvcgen
  case inv1 => exact ⇓ _ w => ⌜Aside w₀ w⌝
  all_goals simp_all
  all_goals first
    | exact Aside.refl _
    | exact Aside.trans ‹_› ‹_›

attribute [local spec high] wakeEvery_aside

theorem emit_aside {line : String} (other : isJobLine line = false) :
    ⦃fun w => ⌜Aside w₀ w⌝⦄ emit line ⦃⇓ _ w => ⌜Aside w₀ w⌝⦄ :=
  triple_of_run fun w aside => by
    have written : ((emit line).run w).2 = { w with metrics := w.metrics ++ [line] } := rfl
    rw [written]
    exact ⟨aside.jobs, aside.keepers, aside.scopes, aside.meters, by simpa [other] using aside.lines⟩

theorem addAlarm_aside (due : Int) (fiber : Option Nat) (choice : Nat) (scope : Option Nat) :
    ⦃fun w => ⌜Aside w₀ w⌝⦄ addAlarm due fiber choice scope ⦃⇓ _ w => ⌜Aside w₀ w⌝⦄ :=
  triple_of_run fun _ aside => aside.same rfl rfl le_rfl rfl

/-- A new scope takes the next index, and nothing else the engine reads changes. -/
theorem newScope_run (parent : Nat) (timeout : Option Int) (w : World) :
    ((newScope parent timeout).run w).1 = w.scopes.items.size ∧
      ((newScope parent timeout).run w).2.scopes.items.size = w.scopes.items.size + 1 ∧
      ((newScope parent timeout).run w).2.cells = w.cells ∧
      ((newScope parent timeout).run w).2.venues = w.venues ∧
      ((newScope parent timeout).run w).2.metrics = w.metrics := by
  have created := Scopes.create_fst parent (timeout.map (w.now + ·)) w.now w.scopes
  have grown := Scopes.size_create parent (timeout.map (w.now + ·)) w.now w.scopes
  rcases made : w.scopes.create parent (timeout.map (w.now + ·)) w.now with ⟨i, needs, scopes⟩
  rw [made] at created grown
  simp only [newScope, StateT.run_bind, StateT.run_get, pure_bind, made]
  -- with or without an alarm for its deadline
  split <;> simp_all [addAlarm] <;> exact ⟨rfl, grown, rfl, rfl, rfl⟩

theorem newScope_aside (parent : Nat) (timeout : Option Int) (n : Nat) :
    ⦃fun w => ⌜Aside w₀ w ∧ w.scopes.items.size = n⌝⦄ newScope parent timeout
      ⦃⇓ i w => ⌜Aside w₀ w ∧ i = n ∧ w.scopes.items.size = n + 1⌝⦄ :=
  triple_of_run fun w ⟨aside, sized⟩ => by
    obtain ⟨index, grown, cells, venues, metrics⟩ := newScope_run parent timeout w
    refine ⟨aside.trans ⟨?_, by rw [cells], by omega, by rw [venues], by rw [metrics]⟩,
      index.trans sized, grown.trans (by rw [sized])⟩
    simp [SameJobs, jobView, cells, venues]

theorem endScope_aside (s : Nat) (e : Ending) :
    ⦃fun w => ⌜Aside w₀ w⌝⦄ endScope s e ⦃⇓ _ w => ⌜Aside w₀ w⌝⦄ := by
  unfold endScope
  mvcgen
  case inv1 => exact ⇓ _ w => ⌜Aside w₀ w⌝
  all_goals simp_all [aside_iff]
  all_goals omega

attribute [local spec high] endScope_aside

theorem send_aside (ch : Nat) (m : Message) :
    ⦃fun w => ⌜Aside w₀ w⌝⦄ send ch m ⦃⇓ _ w => ⌜Aside w₀ w⌝⦄ := by
  unfold send
  mvcgen
  all_goals simp_all [aside_iff]
  all_goals omega

/-- Dropping a delivery writes a metric line that is not about jobs. -/
theorem dropDelivery_aside :
    ⦃fun w => ⌜Aside w₀ w⌝⦄ dropDelivery ⦃⇓ _ w => ⌜Aside w₀ w⌝⦄ := by
  have dropped := emit_aside w₀ (show isJobLine "dispatcher_dropped" = false by decide)
  unfold dropDelivery
  mvcgen [dropped, -emit_sameJobs]
  all_goals simp_all +zetaDelta [aside_iff]
  all_goals split <;> simp_all

attribute [local spec high] send_aside dropDelivery_aside

theorem dispatch_aside (d : Delivery) :
    ⦃fun w => ⌜Aside w₀ w⌝⦄ dispatch d ⦃⇓ _ w => ⌜Aside w₀ w⌝⦄ := by
  unfold dispatch
  mvcgen
  all_goals simp_all +zetaDelta [aside_iff]
  -- what is left: the scopes across two steps, and a counter behind the outlet's kind
  all_goals first
    | omega
    | split <;> simp_all <;> omega

attribute [local spec high] dispatch_aside

/-- Rewriting a cell without touching its job's record, its keeping venue or its bare keeper is
aside. -/
theorem modifyCell_aside (c : Nat) (f : JobCell → JobCell) :
    ⦃fun w => ⌜Aside w₀ w ∧ ∀ x, w.cells[c]? = some x → (f x).view = x.view ∧
      (f x).keeper.bare = x.keeper.bare⌝⦄ modifyCell c f ⦃⇓ _ w => ⌜Aside w₀ w⌝⦄ :=
  triple_of_run fun w ⟨aside, keeps⟩ => by
    have written : ((modifyCell c f).run w).2 = { w with cells := w.cells.modify c f } := rfl
    rw [written]
    refine aside.trans ⟨?_, ?_, le_rfl, rfl, rfl⟩
    · simp only [SameJobs, jobView, JobView.mk.injEq, and_true]
      exact cells_modify_view _ _ _ fun x found => (keeps x found).1
    · apply Array.ext
      · simp
      · intro i _ _
        simp only [Array.getElem_map, Array.getElem_modify]
        split
        · next same =>
          subst same
          exact (keeps _ (by simp)).2
        · rfl

/-- Telling a callback counts one more event in the keeper, which the bare keeper forgets. -/
theorem notify_aside (c : Nat) (r : Record) :
    ⦃fun w => ⌜Aside w₀ w⌝⦄ notify c r ⦃⇓ _ w => ⌜Aside w₀ w⌝⦄ := by
  have renumbered := fun f => modifyCell_aside w₀ c f
  unfold notify
  mvcgen [renumbered]
  all_goals first
    | exact Aside.refl _
    | exact Aside.trans ‹_› ‹_›
    | simp_all [JobCell.view, Keeper.bare, Keeper.venue?, EventNumbering.forRecord,
        EventNumbering.build]

theorem spawn_aside (f : Fiber) :
    ⦃fun w => ⌜Aside w₀ w⌝⦄ spawn f ⦃⇓ _ w => ⌜Aside w₀ w⌝⦄ :=
  triple_of_run fun _ aside => aside.same rfl rfl le_rfl rfl

theorem newChannel_aside (capacity : Nat) :
    ⦃fun w => ⌜Aside w₀ w⌝⦄ newChannel capacity ⦃⇓ _ w => ⌜Aside w₀ w⌝⦄ :=
  triple_of_run fun _ aside => aside.same rfl rfl le_rfl rfl

theorem attachFuture_aside (c : Nat) :
    ⦃fun w => ⌜Aside w₀ w⌝⦄ attachFuture c ⦃⇓ _ w => ⌜Aside w₀ w⌝⦄ := by
  have attached := modifyCell_aside w₀ c fun x => { x with job := { x.job with futureAttached := true } }
  unfold attachFuture
  mvcgen [attached]
  simp_all [JobCell.view]

/-- Rewriting a venue without touching its table or its metering is aside. -/
theorem modifyVenue_aside (v : Nat) {f : Venue → Venue} (table : ∀ x, (f x).table = x.table)
    (metered : ∀ x, (f x).metered = x.metered) :
    ⦃fun w => ⌜Aside w₀ w⌝⦄ modifyVenue v f ⦃⇓ _ w => ⌜Aside w₀ w⌝⦄ :=
  triple_of_run fun w aside => by
    have written : ((modifyVenue v f).run w).2 = { w with venues := w.venues.modify v f } := rfl
    rw [written]
    refine aside.trans ⟨?_, rfl, le_rfl, ?_, rfl⟩
    · simp only [SameJobs, jobView, JobView.mk.injEq, true_and]
      exact venues_modify_table _ _ _ table
    · apply Array.ext
      · simp
      · intro i _ _
        simp only [Array.getElem_map, Array.getElem_modify]
        split <;> simp [metered]

end Frames

/-! ## Steps that tell no one -/

/-- **A step that tells no one** from `w₀` to `w`: it is aside, every keeper is as it was, the
count of its callback's events included, and so are the outlet and the deliveries it recorded.
Apart from the moves of jobs, every call on an engine is made of such steps. -/
structure Silent (w₀ w : World) : Prop where
  aside : Aside w₀ w
  keepers : w.cells.map (·.keeper) = w₀.cells.map (·.keeper)
  outlet : w.outlet = w₀.outlet
  recorded : w.recorded = w₀.recorded

theorem Silent.refl (w : World) : Silent w w := ⟨Aside.refl w, rfl, rfl, rfl⟩

theorem Silent.trans {w₀ w₁ w₂ : World} (first : Silent w₀ w₁) (second : Silent w₁ w₂) :
    Silent w₀ w₂ :=
  ⟨first.aside.trans second.aside, second.keepers.trans first.keepers,
    second.outlet.trans first.outlet, second.recorded.trans first.recorded⟩

/-- A world with the cells, venues, metrics, outlet and deliveries of one reached silently, and
with its scopes and perhaps more, is reached silently too. -/
theorem Silent.same {w₀ w w' : World} (silent : Silent w₀ w) (cells : w'.cells = w.cells)
    (venues : w'.venues = w.venues) (scopes : w.scopes.items.size ≤ w'.scopes.items.size)
    (metrics : w'.metrics = w.metrics) (outlet : w'.outlet = w.outlet)
    (recorded : w'.recorded = w.recorded) : Silent w₀ w' :=
  ⟨silent.aside.same cells venues scopes metrics, by rw [cells, silent.keepers],
    outlet.trans silent.outlet, recorded.trans silent.recorded⟩

section Silence

variable (w₀ : World)

theorem wake_silent (f : Nat) (r : Resume) :
    ⦃fun w => ⌜Silent w₀ w⌝⦄ wake f r ⦃⇓ _ w => ⌜Silent w₀ w⌝⦄ :=
  triple_of_run fun _ silent => silent.same rfl rfl le_rfl rfl rfl rfl

attribute [local spec high] wake_silent

theorem wakeEvery_silent (p : Wait → Bool) :
    ⦃fun w => ⌜Silent w₀ w⌝⦄ wakeEvery p ⦃⇓ _ w => ⌜Silent w₀ w⌝⦄ := by
  unfold wakeEvery
  mvcgen
  case inv1 => exact ⇓ _ w => ⌜Silent w₀ w⌝
  all_goals simp_all
  all_goals first
    | exact Silent.refl _
    | exact Silent.trans ‹_› ‹_›

attribute [local spec high] wakeEvery_silent

theorem endScope_silent (s : Nat) (e : Ending) :
    ⦃fun w => ⌜Silent w₀ w⌝⦄ endScope s e ⦃⇓ _ w => ⌜Silent w₀ w⌝⦄ := by
  unfold endScope
  mvcgen
  case inv1 => exact ⇓ _ w => ⌜Silent w₀ w⌝
  all_goals first
    | exact Silent.refl _
    | exact Silent.trans ‹_› ‹_›
    | skip
  -- setting the scopes ends some and drops their alarms, and no scope goes away
  case vc3 => next _ silent => exact silent.same rfl rfl (by simp) rfl rfl rfl
  all_goals simp_all

theorem spawn_silent (f : Fiber) :
    ⦃fun w => ⌜Silent w₀ w⌝⦄ spawn f ⦃⇓ _ w => ⌜Silent w₀ w⌝⦄ :=
  triple_of_run fun _ silent => silent.same rfl rfl le_rfl rfl rfl rfl

theorem newChannel_silent (capacity : Nat) :
    ⦃fun w => ⌜Silent w₀ w⌝⦄ newChannel capacity ⦃⇓ _ w => ⌜Silent w₀ w⌝⦄ :=
  triple_of_run fun _ silent => silent.same rfl rfl le_rfl rfl rfl rfl

theorem attachFuture_silent (c : Nat) :
    ⦃fun w => ⌜Silent w₀ w⌝⦄ attachFuture c ⦃⇓ _ w => ⌜Silent w₀ w⌝⦄ :=
  triple_of_run fun w silent => by
    refine ⟨run_of_spec (attachFuture_aside w₀ c) silent.aside, ?_, silent.outlet, silent.recorded⟩
    have written : ((attachFuture c).run w).2 =
        { w with cells := w.cells.modify c fun x => { x with job := { x.job with futureAttached := true } } } := rfl
    rw [written, ← silent.keepers]
    apply Array.ext
    · simp
    · intro i _ _
      simp only [Array.getElem_map, Array.getElem_modify]
      split <;> rfl

end Silence

/-! ## Invariants of an engine -/

/-- **A change of a job made by `Job.apply`**: every job and hook it gives, `Job.apply` gives
too. Each mutator of a job is one, so its hook names a status and announces its record. -/
def Job.ByApply (t : Job → Option (Job × Hook)) : Prop :=
  ∀ j j' h, t j = some (j', h) → ∃ (now : Int) (r : Record) (j₀ : Job), j₀.apply now r = some (j', h)

theorem Job.byApply_apply (now : Int) (r : Record) : Job.ByApply (fun j => j.apply now r) :=
  fun j _ _ taken => ⟨now, r, j, taken⟩

theorem Job.byApply_setStatus (now : Int) (st : Status) :
    Job.ByApply (fun j => j.setStatus now st) := by
  intro j j' h taken
  unfold Job.setStatus at taken
  split at taken
  · cases taken
  · exact ⟨now, _, j, taken⟩

theorem Job.byApply_fail (now : Int) (message : String) :
    Job.ByApply (fun j => j.fail now message) :=
  fun j _ _ taken => ⟨now, _, j, taken⟩

theorem Job.byApply_complete (now : Int) (output : Value) :
    Job.ByApply (fun j => (j.complete now output).toOption) := by
  intro j j' h taken
  dsimp only [Job.complete] at taken
  split at taken
  · cases taken
  · split at taken
    · next applied =>
      cases taken
      exact ⟨now, _, j, applied⟩
    · cases taken

theorem Job.byApply_cancel (now : Int) : Job.ByApply (fun j => j.cancel now) := by
  intro j j' h taken
  dsimp only [Job.cancel] at taken
  split at taken
  · cases taken
  · exact ⟨now, _, _, taken⟩

theorem Job.ByApply.hooksKnown {t : Job → Option (Job × Hook)} (byApply : Job.ByApply t) :
    Job.HooksKnown t := by
  intro j j' h taken
  obtain ⟨now, r, j₀, applied⟩ := byApply j j' h taken
  exact Job.hooksKnown_apply now r j₀ j' h applied

/-- A change made by `Job.apply` fires the finish exactly when the record it stores is
terminal. -/
theorem Job.ByApply.announces {t : Job → Option (Job × Hook)} (byApply : Job.ByApply t)
    {j j' : Job} {h : Hook} (taken : t j = some (j', h)) : h = Hook.announce j'.record := by
  obtain ⟨now, r, j₀, applied⟩ := byApply j j' h taken
  rw [Job.apply_eq] at applied
  split at applied
  · cases applied
    rfl
  · cases applied

/-- **A property of worlds that the moves of jobs keep**: what is aside, a change of a job by a
transition made by `Job.apply`, entering a new job, copying a remote job, and deleting
a job. -/
structure Invariant (I : World → Prop) : Prop where
  aside : ∀ {w w' : World}, Aside w w' → I w → I w'
  changed : ∀ (c : Nat) {t : Job → Option (Job × Hook)}, Transition t → Job.ByApply t →
    ∀ w, I w → I ((changeHere c t).run w).2
  started : ∀ (v : Nat) (ref : String) (input : Value) (md : Option Metadata) (adapter : String)
    (cb : Option Callback) (w : World), I w → I ((startJob v ref input md adapter cb).run w).2
  copied : ∀ (rec : Record) {keeper : Keeper}, keeper.venue? = none → ∀ w, I w →
    I ((newCopy rec keeper).run w).2
  deleted : ∀ (v : Nat) (id : String) (w : World), I w → I ((deleteJob v id).run w).2

/-- **A property of worlds that the calls of an engine keep**: it survives the steps that tell
no one and the four moves of jobs. Unlike an `Invariant`, it may speak of how far callbacks have
numbered their events and of the deliveries made. -/
structure CallInvariant (I : World → Prop) : Prop where
  silent : ∀ {w w' : World}, Silent w w' → I w → I w'
  changed : ∀ (c : Nat) {t : Job → Option (Job × Hook)}, Transition t → Job.ByApply t →
    ∀ w, I w → I ((changeHere c t).run w).2
  started : ∀ (v : Nat) (ref : String) (input : Value) (md : Option Metadata) (adapter : String)
    (cb : Option Callback) (w : World), I w → I ((startJob v ref input md adapter cb).run w).2
  copied : ∀ (rec : Record) {keeper : Keeper}, keeper.venue? = none → ∀ w, I w →
    I ((newCopy rec keeper).run w).2
  deleted : ∀ (v : Nat) (id : String) (w : World), I w → I ((deleteJob v id).run w).2

/-- What survives every step aside survives the steps that tell no one. -/
theorem Invariant.toCall {I : World → Prop} (inv : Invariant I) : CallInvariant I :=
  ⟨fun silent => inv.aside silent.aside, inv.changed, inv.started, inv.copied, inv.deleted⟩

section CallInvariant

variable {I : World → Prop} (inv : CallInvariant I)
include inv

theorem CallInvariant.frame {α : Type} {x : WorldM α}
    (silent : ∀ w₀, ⦃fun w => ⌜Silent w₀ w⌝⦄ x ⦃⇓ _ w => ⌜Silent w₀ w⌝⦄) :
    ⦃fun w => ⌜I w⌝⦄ x ⦃⇓ _ w => ⌜I w⌝⦄ :=
  triple_of_run fun w holds => inv.silent (run_of_spec (silent w) (Silent.refl w)) holds

/-- A call invariant holds of a world with the cells, venues, metrics, outlet and deliveries of
one where it holds, and its scopes and perhaps more. -/
theorem CallInvariant.of_same {w w' : World} (holds : I w) (cells : w'.cells = w.cells)
    (venues : w'.venues = w.venues) (scopes : w.scopes.items.size ≤ w'.scopes.items.size)
    (metrics : w'.metrics = w.metrics) (outlet : w'.outlet = w.outlet)
    (recorded : w'.recorded = w.recorded) : I w' :=
  inv.silent ((Silent.refl w).same cells venues scopes metrics outlet recorded) holds

theorem CallInvariant.changeHere_spec (c : Nat) {t : Job → Option (Job × Hook)}
    (transition : Transition t) (byApply : Job.ByApply t) :
    ⦃fun w => ⌜I w⌝⦄ changeHere c t ⦃⇓ _ w => ⌜I w⌝⦄ :=
  triple_of_run fun w holds => inv.changed c transition byApply w holds

/-- A change of a job keeps an invariant, the change passed on to the job a copy follows
included. -/
theorem CallInvariant.change_spec (c : Nat) {t : Job → Option (Job × Hook)}
    (transition : Transition t) (byApply : Job.ByApply t) :
    ⦃fun w => ⌜I w⌝⦄ change c t ⦃⇓ _ w => ⌜I w⌝⦄ := by
  have here := inv.changeHere_spec c transition byApply
  have passed := fun (ms : Int) (r : Record) (target : Nat) =>
    inv.changeHere_spec target
      (transition_apply ms { status := r.status, output := r.output, error := r.error })
      (Job.byApply_apply ms _)
  mvcgen [change, here, passed]

theorem CallInvariant.updateJob_spec (c : Nat) (r : Record) :
    ⦃fun w => ⌜I w⌝⦄ updateJob c r ⦃⇓ _ w => ⌜I w⌝⦄ := by
  have step := fun (ms : Int) =>
    inv.change_spec c (transition_apply ms r) (Job.byApply_apply ms r)
  unfold updateJob
  mvcgen [step]

theorem CallInvariant.setStatus_spec (c : Nat) (st : Status) :
    ⦃fun w => ⌜I w⌝⦄ setStatus c st ⦃⇓ _ w => ⌜I w⌝⦄ := by
  have step := fun (ms : Int) =>
    inv.change_spec c (transition_setStatus ms st) (Job.byApply_setStatus ms st)
  unfold setStatus
  mvcgen [step]

theorem CallInvariant.failJob_spec (c : Nat) (message : String) :
    ⦃fun w => ⌜I w⌝⦄ failJob c message ⦃⇓ _ w => ⌜I w⌝⦄ := by
  have step := fun (ms : Int) =>
    inv.change_spec c (transition_fail ms message) (Job.byApply_fail ms message)
  unfold failJob
  mvcgen [step]

theorem CallInvariant.completeJob_spec (c : Nat) (output : Value) :
    ⦃fun w => ⌜I w⌝⦄ completeJob c output ⦃⇓ _ w => ⌜I w⌝⦄ := by
  have step := fun (ms : Int) =>
    inv.change_spec c (transition_complete ms output) (Job.byApply_complete ms output)
  unfold completeJob
  mvcgen [step]

theorem CallInvariant.finishWith_spec (c : Nat) (o : Outcome) :
    ⦃fun w => ⌜I w⌝⦄ finishWith c o ⦃⇓ _ w => ⌜I w⌝⦄ := by
  have failing := fun (message : String) => inv.failJob_spec c message
  have completing := fun (output : Value) => inv.completeJob_spec c output
  cases o <;> unfold finishWith <;> mvcgen [failing, completing, -failJob_tracks, -completeJob_tracks]

theorem CallInvariant.cancelJob_spec (c : Nat) :
    ⦃fun w => ⌜I w⌝⦄ cancelJob c ⦃⇓ _ w => ⌜I w⌝⦄ := by
  have step := fun (ms : Int) =>
    inv.change_spec c (transition_cancel ms) (Job.byApply_cancel ms)
  unfold cancelJob
  mvcgen [step]

theorem CallInvariant.updateJobStatus_spec (v : Nat) (r : Record) :
    ⦃fun w => ⌜I w⌝⦄ updateJobStatus v r ⦃⇓ _ w => ⌜I w⌝⦄ := by
  have step := fun (c : Nat) => inv.updateJob_spec c r
  unfold updateJobStatus
  mvcgen [step, -updateJob_tracks]

theorem CallInvariant.cancelJobById_spec (v : Nat) (id : String) :
    ⦃fun w => ⌜I w⌝⦄ cancelJobById v id ⦃⇓ _ w => ⌜I w⌝⦄ := by
  have step := fun (c : Nat) => inv.cancelJob_spec c
  unfold cancelJobById
  mvcgen [step, -cancelJob_tracks]

theorem CallInvariant.startJob_spec (v : Nat) (ref : String) (input : Value) (md : Option Metadata)
    (adapter : String) (cb : Option Callback) :
    ⦃fun w => ⌜I w⌝⦄ startJob v ref input md adapter cb ⦃⇓ _ w => ⌜I w⌝⦄ :=
  triple_of_run fun w holds => inv.started v ref input md adapter cb w holds

theorem CallInvariant.newCopy_spec (rec : Record) {keeper : Keeper} (unkept : keeper.venue? = none) :
    ⦃fun w => ⌜I w⌝⦄ newCopy rec keeper ⦃⇓ _ w => ⌜I w⌝⦄ :=
  triple_of_run fun w holds => inv.copied rec unkept w holds

theorem CallInvariant.deleteJob_spec (v : Nat) (id : String) :
    ⦃fun w => ⌜I w⌝⦄ deleteJob v id ⦃⇓ _ w => ⌜I w⌝⦄ :=
  triple_of_run fun w holds => inv.deleted v id w holds

theorem CallInvariant.runAdapter_spec (v : Nat) (a : Adapter) (c scope : Nat) (operation : String)
    (md : Metadata) (input : Value) :
    ⦃fun w => ⌜I w⌝⦄ runAdapter v a c scope operation md input ⦃⇓ _ w => ⌜I w⌝⦄ := by
  have failing := fun (message : String) => inv.failJob_spec c message
  have starting := inv.setStatus_spec c .started
  have finishing := fun (o : Outcome) => inv.finishWith_spec c o
  have spawning := fun (f : Fiber) => inv.frame fun w₀ => spawn_silent w₀ f
  have opening := fun (n : Nat) => inv.frame fun w₀ => newChannel_silent w₀ n
  unfold runAdapter
  mvcgen [failing, starting, finishing, spawning, opening, -failJob_tracks, -setStatus_tracks,
    -finishWith_tracks, -spawn_sameJobs, -newChannel_sameJobs]

theorem CallInvariant.invoke_spec (v : Nat) (ref : String) (input : Value) (cb : Option Callback)
    (given : Option Metadata) :
    ⦃fun w => ⌜I w⌝⦄ invoke v ref input cb given ⦃⇓ _ w => ⌜I w⌝⦄ := by
  have starting := fun (ref : String) (md : Option Metadata) (adapter : String) =>
    inv.startJob_spec v ref input md adapter cb
  have failing := fun (c : Nat) (message : String) => inv.failJob_spec c message
  have adapting := fun (a : Adapter) (c scope : Nat) (operation : String) (md : Metadata) =>
    inv.runAdapter_spec v a c scope operation md input
  unfold invoke
  mvcgen [starting, failing, adapting, -startJob_tracks, -failJob_tracks, -runAdapter_tracks]

/-- A step of closing a venue keeps an invariant: it cancels running jobs one by one, ends the
venue's scope and records its answer. -/
theorem CallInvariant.closeStep_spec (v scope : Nat) (tick : Int) (waiting : Bool) (r : Resume) :
    ⦃fun w => ⌜I w⌝⦄ Chore.step (.close v scope tick waiting) r ⦃⇓ _ w => ⌜I w⌝⦄ := by
  have cancelling := fun (c : Nat) => inv.cancelJob_spec c
  have ending := fun (s : Nat) (e : Ending) => inv.frame fun w₀ => endScope_silent w₀ s e
  mvcgen [Chore.step, closeCheck, finishClose, cancelling, ending, -closeStep_tracks,
    -cancelJob_tracks, -endScope_sameJobs]
  case inv1 => exact ⇓ _ w => ⌜I w⌝
  -- recording the close's answer is aside
  all_goals first
    | exact ‹_›
    | apply inv.of_same
      · assumption
      all_goals rfl

theorem CallInvariant.jobCall_spec (c : Nat) (call : JobCall) :
    ⦃fun w => ⌜I w⌝⦄ call.run c ⦃⇓ _ w => ⌜I w⌝⦄ := by
  have updating := fun (r : Record) => inv.updateJob_spec c r
  have moving := fun (st : Status) => inv.setStatus_spec c st
  have failing := fun (message : String) => inv.failJob_spec c message
  have completing := fun (output : Value) => inv.completeJob_spec c output
  have cancelling := inv.cancelJob_spec c
  have attaching := inv.frame fun w₀ => attachFuture_silent w₀ c
  cases call <;> unfold JobCall.run <;>
    mvcgen [updating, moving, failing, completing, cancelling, attaching, -updateJob_tracks, -setStatus_tracks, -failJob_tracks, -completeJob_tracks, -cancelJob_tracks,
    -attachFuture_sameJobs]

/-- **Every call on an engine keeps a call invariant.** -/
theorem CallInvariant.call (call : EngineCall) {w : World} (holds : I w) : I (call.run.run w).2 := by
  have spec : ⦃fun w => ⌜I w⌝⦄ call.run ⦃⇓ _ w => ⌜I w⌝⦄ := by
    cases call with
    | invoke v ref input cb given =>
      have step := inv.invoke_spec v ref input cb given
      mvcgen [EngineCall.run, step, -invoke_tracks]
    | updateStatus v r =>
      have step := inv.updateJobStatus_spec v r
      mvcgen [EngineCall.run, step, -updateJobStatus_tracks]
    | cancel v id =>
      have step := inv.cancelJobById_spec v id
      mvcgen [EngineCall.run, step, -cancelJobById_tracks]
    | delete v id =>
      have step := inv.deleteJob_spec v id
      mvcgen [EngineCall.run, step]
    | close v scope tick waiting r =>
      have step := inv.closeStep_spec v scope tick waiting r
      mvcgen [EngineCall.run, step, -closeStep_tracks]
    | adapter c call => exact inv.jobCall_spec c call
    | copy rec follows =>
      cases follows with
      | some c =>
        have step := inv.newCopy_spec rec (show (Keeper.follower c).venue? = none from rfl)
        mvcgen [EngineCall.run, step]
      | none =>
        have step := inv.newCopy_spec rec (show Keeper.none.venue? = none from rfl)
        mvcgen [EngineCall.run, step]
  exact run_of_spec spec holds

end CallInvariant

end World

/-- Between two calls on an engine, the rest of the world keeps every keeper as it is and
changes nothing else an engine promises anything about. -/
def World.Elsewhere (w w' : World) : Prop :=
  w.Aside w' ∧ w'.cells.map (·.keeper) = w.cells.map (·.keeper)

namespace EngineCall

/-- **The runs of an engine from `w₀`**: calls on the engine in any order, and between them
whatever the world does elsewhere. -/
inductive Runs (w₀ : World) : World → Prop where
  | start : Runs w₀ w₀
  | call {w : World} (call : EngineCall) : Runs w₀ w → Runs w₀ (call.run.run w).2
  | elsewhere {w w' : World} : Runs w₀ w → w.Elsewhere w' → Runs w₀ w'

/-- **Every run keeps an invariant that holds at its start.** -/
theorem Runs.invariant {I : World → Prop} (inv : World.Invariant I) {w₀ w : World} (start : I w₀)
    (run : Runs w₀ w) : I w := by
  -- induction on the run: a call keeps `I` by `CallInvariant.call`, what happens elsewhere is aside
  induction run with
  | start => exact start
  | call call _ holds => exact inv.toCall.call call holds
  | elsewhere _ moved holds => exact inv.aside moved.1 holds

/-- A run is one of those that `Reaches` describes, so its tables agree with its jobs. -/
theorem Runs.reaches {w₀ w : World} (run : Runs w₀ w) : Reaches w₀ w := by
  induction run with
  | start => exact .start
  | call call _ reached => exact .call call reached
  | elsewhere _ moved reached => exact .idle reached moved.1.jobs

/-- **The runs of an engine from `w₀` in which only its calls tell anyone**: calls on the engine
in any order, and between them steps elsewhere that tell no one. -/
inductive SilentRuns (w₀ : World) : World → Prop where
  | start : SilentRuns w₀ w₀
  | call {w : World} (call : EngineCall) : SilentRuns w₀ w → SilentRuns w₀ (call.run.run w).2
  | silent {w w' : World} : SilentRuns w₀ w → w.Silent w' → SilentRuns w₀ w'

/-- **Every run in which only the calls tell anyone keeps a call invariant that holds at its
start.** -/
theorem SilentRuns.invariant {I : World → Prop} (inv : World.CallInvariant I) {w₀ w : World}
    (start : I w₀) (run : SilentRuns w₀ w) : I w := by
  induction run with
  | start => exact start
  | call call _ holds => exact inv.call call holds
  | silent _ silent holds => exact inv.silent silent holds

/-- A step that tells no one happens elsewhere, so such a run is a run. -/
theorem SilentRuns.runs {w₀ w : World} (run : SilentRuns w₀ w) : Runs w₀ w := by
  induction run with
  | start => exact .start
  | call call _ ran => exact .call call ran
  | silent _ silent ran =>
    exact .elsewhere ran ⟨silent.aside, silent.keepers⟩

end EngineCall

end JobEngine

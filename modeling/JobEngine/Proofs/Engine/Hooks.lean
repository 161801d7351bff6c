import JobEngine.Proofs.Engine.Runs

/-!
# What a change of a job does around it

When a job a venue keeps takes a new record, the venue's hooks run: its table stores the
record, the callback hears of it, and on a finish the job's scope ends and, in a metered venue,
one line about the finish is written to the metrics. This module says what one change does
to everything around the job, in one triple (`World.changeHere_hooks`), so that what an engine
promises about its scopes and its metrics can be read off it.

## Main Definitions

* `createdLine`, `finishedLine` — the metric lines of a job a venue created and of one that
  finished.
* `Keeper.finishLines` — the lines a finish writes for the job of a keeper.
* `World.Around` — only what is around the jobs changed: the cells but for how far callbacks
  have numbered, the venues, the scopes and the metric lines about jobs are as they were.

## Main Statements

* `World.changeHere_hooks` — a change that fires answers the job's keeper and hook, gives the
  cell its new job, keeps the venues' metering, ends the job's scope on a finish and adds
  exactly the finish's metric lines.
* `World.changeHere_run_refused` — a change that does not fire changes nothing.
* `World.startJob_hooks` — starting a job adds a `PENDING` job under a new scope, and its
  created line, or no job at all.
-/

namespace JobEngine

/-- A cell with the count of its callback's events forgotten. -/
def JobCell.bare (x : JobCell) : JobCell := { x with keeper := x.keeper.bare }

@[simp] theorem JobCell.bare_job (x : JobCell) : x.bare.job = x.job := rfl

@[simp] theorem JobCell.bare_keeper (x : JobCell) : x.bare.keeper = x.keeper.bare := rfl

@[simp] theorem Keeper.venue?_bare (k : Keeper) : k.bare.venue? = k.venue? := by
  cases k <;> rfl

/-- The scope a venue runs its job under. -/
def Keeper.scope? : Keeper → Option Nat
  | .venue _ _ s _ => some s
  | _ => Option.none

/-- The metric line of a job that a venue created for an adapter. -/
def createdLine (adapter : String) : String := "job_created adapter=" ++ adapter

/-- The metric line of a job that finished with record `r`: its adapter, its status, whether
that status is a failure (`FAILED`, `REJECTED` or `TIMEOUT`) and how long the job ran. -/
def finishedLine (adapter : String) (r : Record) : String :=
  "job_finished adapter=" ++ adapter ++ " status=" ++ r.status.text ++ " failure=" ++
    toString (r.status.isFailure || r.status == .timeout) ++ " seconds=" ++
    secondsText ((r.updated - r.created) * Duration.nanosPerMilli)

/-- The scopes after a hook of a keeper: a finish ends the scope of a venue's job. -/
def Keeper.scopesAfter : Keeper → Hook → Scopes → Scopes
  | .venue _ _ s _, .finish _, scopes => (scopes.cancel s .canceled).2
  | _, _, scopes => scopes

/-- The metric lines that a hook writes for the job of a keeper: the finished line of a job of a
metered venue. -/
def Keeper.finishLines (metered : Nat → Bool) : Keeper → Hook → List String
  | .venue v a _ _, .finish r => if metered v then [finishedLine a r] else []
  | _, _ => []

/-! ## Lines about jobs -/

/-- A line that starts with a text still does after more is written. -/
theorem lineStarts_append {p s : String} (starts : lineStarts p s = true) (t : String) :
    lineStarts p (s ++ t) = true := by
  unfold lineStarts at *
  have taken : s.toList.take p.toList.length = p.toList := by simpa using starts
  have long : p.toList.length ≤ s.toList.length := by
    have counted := congrArg List.length taken
    rw [List.length_take] at counted
    omega
  simp only [String.toList_append, List.take_append_of_le_length long, taken, beq_self_eq_true]

/-- Whether a line starts with a text is read off its first characters. -/
theorem lineStarts_append_of_le {p s : String} (long : p.toList.length ≤ s.toList.length)
    (t : String) : lineStarts p (s ++ t) = lineStarts p s := by
  simp only [lineStarts, String.toList_append, List.take_append_of_le_length long]

theorem isJobLine_finishedLine (adapter : String) (r : Record) :
    isJobLine (finishedLine adapter r) = true := by
  unfold finishedLine isJobLine
  repeat apply lineStarts_append
  decide

theorem isJobLine_createdLine (adapter : String) : isJobLine (createdLine adapter) = true := by
  unfold createdLine isJobLine
  apply lineStarts_append
  decide

namespace World

open Std.Do

/-- Whether venue `v` writes metrics; a venue that does not exist does not. -/
def metered (w : World) (v : Nat) : Bool := ((w.venues[v]?).map (·.metered)).getD false

/-- **Only what is around the jobs changed** from `w₀` to `w`: the cells but for how far their
callbacks have numbered, the venues, the scopes and the metric lines about jobs are as they
were. -/
structure Around (w₀ w : World) : Prop where
  cells : w.cells.map JobCell.bare = w₀.cells.map JobCell.bare
  venues : w.venues = w₀.venues
  lines : w.metrics.filter isJobLine = w₀.metrics.filter isJobLine
  scopes : w.scopes = w₀.scopes

theorem Around.refl (w : World) : Around w w := ⟨rfl, rfl, rfl, rfl⟩

theorem Around.trans {w₀ w₁ w₂ : World} (first : Around w₀ w₁) (second : Around w₁ w₂) :
    Around w₀ w₂ :=
  ⟨second.cells.trans first.cells, second.venues.trans first.venues,
    second.lines.trans first.lines, second.scopes.trans first.scopes⟩

/-- `Around` as the conjunction it is, for `simp` to take apart. -/
theorem around_iff {w₀ w : World} : Around w₀ w ↔
    w.cells.map JobCell.bare = w₀.cells.map JobCell.bare ∧ w.venues = w₀.venues ∧
      w.metrics.filter isJobLine = w₀.metrics.filter isJobLine ∧ w.scopes = w₀.scopes :=
  ⟨fun ⟨cells, venues, lines, scopes⟩ => ⟨cells, venues, lines, scopes⟩,
    fun ⟨cells, venues, lines, scopes⟩ => ⟨cells, venues, lines, scopes⟩⟩

/-- A world with the cells, venues, metrics and scopes of one around `w₀` is around it too. -/
theorem Around.same {w₀ w w' : World} (around : Around w₀ w) (cells : w'.cells = w.cells)
    (venues : w'.venues = w.venues) (metrics : w'.metrics = w.metrics)
    (scopes : w'.scopes = w.scopes) : Around w₀ w' := by
  obtain ⟨cells₀, venues₀, lines₀, scopes₀⟩ := around
  exact ⟨cells ▸ cells₀, venues ▸ venues₀, metrics ▸ lines₀, scopes ▸ scopes₀⟩

section Frames

variable (w₀ : World)

theorem wake_around (f : Nat) (r : Resume) :
    ⦃fun w => ⌜Around w₀ w⌝⦄ wake f r ⦃⇓ _ w => ⌜Around w₀ w⌝⦄ :=
  triple_of_run fun _ around => around.same rfl rfl rfl rfl

attribute [local spec high] wake_around

theorem wakeEvery_around (p : Wait → Bool) :
    ⦃fun w => ⌜Around w₀ w⌝⦄ wakeEvery p ⦃⇓ _ w => ⌜Around w₀ w⌝⦄ := by
  unfold wakeEvery
  mvcgen
  case inv1 => exact ⇓ _ w => ⌜Around w₀ w⌝
  all_goals simp_all
  all_goals first
    | exact Around.refl _
    | exact Around.trans ‹_› ‹_›

attribute [local spec high] wakeEvery_around

/-- Ending a scope changes the scopes as `Scopes.cancel` says, and nothing else around the
jobs. -/
theorem endScope_around (s : Nat) (e : Ending) :
    ⦃fun w => ⌜Around w₀ w⌝⦄ endScope s e
      ⦃⇓ _ w => ⌜Around { w₀ with scopes := (w₀.scopes.cancel s e).2 } w⌝⦄ := by
  unfold endScope
  mvcgen
  case inv1 => exact ⇓ _ w => ⌜Around { w₀ with scopes := (w₀.scopes.cancel s e).2 } w⌝
  all_goals first
    | exact Around.refl _
    | exact Around.trans ‹_› ‹_›
    | skip
  all_goals simp_all [around_iff]

theorem emit_around {line : String} (other : isJobLine line = false) :
    ⦃fun w => ⌜Around w₀ w⌝⦄ emit line ⦃⇓ _ w => ⌜Around w₀ w⌝⦄ :=
  triple_of_run fun w around => by
    have written : ((emit line).run w).2 = { w with metrics := w.metrics ++ [line] } := rfl
    rw [written]
    exact ⟨around.cells, around.venues, by simpa [other] using around.lines, around.scopes⟩

theorem send_around (ch : Nat) (m : Message) :
    ⦃fun w => ⌜Around w₀ w⌝⦄ send ch m ⦃⇓ _ w => ⌜Around w₀ w⌝⦄ := by
  unfold send
  mvcgen
  all_goals first
    | exact Around.refl _
    | exact Around.trans ‹_› ‹_›
    | apply Around.same ‹Around w₀ _› <;> rfl

theorem dropDelivery_around :
    ⦃fun w => ⌜Around w₀ w⌝⦄ dropDelivery ⦃⇓ _ w => ⌜Around w₀ w⌝⦄ := by
  have dropped := emit_around w₀ (show isJobLine "dispatcher_dropped" = false by decide)
  unfold dropDelivery
  mvcgen [dropped, -emit_sameJobs]
  -- only the outlet's count of dropped deliveries changes
  simp_all +zetaDelta [around_iff]
  split <;> simp_all

attribute [local spec high] send_around dropDelivery_around

theorem dispatch_around (d : Delivery) :
    ⦃fun w => ⌜Around w₀ w⌝⦄ dispatch d ⦃⇓ _ w => ⌜Around w₀ w⌝⦄ := by
  unfold dispatch
  mvcgen
  all_goals first
    | exact Around.refl _
    | exact Around.trans ‹_› ‹_›
    | exact Around.trans ‹_› (Around.trans ‹_› ‹_›)
    | skip
  -- what is left: recording a delivery, and counting a queued one behind the outlet's kind
  case vc3 => simp_all +zetaDelta [around_iff]
  refine Around.trans ‹_› (Around.trans ‹_› ?_)
  simp +zetaDelta only
  split <;> exact (Around.refl _).same rfl rfl rfl rfl

attribute [local spec high] dispatch_around

/-- Rewriting a cell so that the bare cell stays as it was is around the jobs. -/
theorem modifyCell_around (c : Nat) (f : JobCell → JobCell) :
    ⦃fun w => ⌜Around w₀ w ∧ ∀ x, w.cells[c]? = some x → (f x).bare = x.bare⌝⦄ modifyCell c f
      ⦃⇓ _ w => ⌜Around w₀ w⌝⦄ :=
  triple_of_run fun w ⟨around, keeps⟩ => by
    have written : ((modifyCell c f).run w).2 = { w with cells := w.cells.modify c f } := rfl
    rw [written]
    refine ⟨?_, around.venues, around.lines, around.scopes⟩
    rw [← around.cells]
    apply Array.ext
    · simp
    · intro i _ _
      simp only [Array.getElem_map, Array.getElem_modify]
      split
      · next same =>
        subst same
        exact keeps _ (by simp)
      · rfl

/-- Telling a callback counts one more event in the keeper, which the bare cell forgets. -/
theorem notify_around (c : Nat) (r : Record) :
    ⦃fun w => ⌜Around w₀ w⌝⦄ notify c r ⦃⇓ _ w => ⌜Around w₀ w⌝⦄ := by
  have renumbered := fun f => modifyCell_around w₀ c f
  unfold notify
  mvcgen [renumbered]
  all_goals first
    | exact Around.refl _
    | exact Around.trans ‹_› ‹_›
    | simp_all [JobCell.bare, Keeper.bare, EventNumbering.forRecord, EventNumbering.build]

end Frames

/-- Recording a finish writes the finished line when the venue is metered. -/
theorem recordFinished_run (v : Nat) (adapter : String) (r : Record) (w : World) :
    ((recordFinished v adapter r).run w).2 =
      if w.metered v then { w with metrics := w.metrics ++ [finishedLine adapter r] } else w := by
  simp only [recordFinished, metered, StateT.run_bind, StateT.run_get, pure_bind]
  split <;> simp_all <;> rfl

theorem recordFinished_spec (w₀ : World) (v : Nat) (adapter : String) (r : Record) :
    ⦃fun w => ⌜w = w₀⌝⦄ recordFinished v adapter r ⦃⇓ _ w => ⌜w.cells = w₀.cells ∧
      w.venues = w₀.venues ∧ w.scopes = w₀.scopes ∧ w.metrics.filter isJobLine =
        w₀.metrics.filter isJobLine ++ if w₀.metered v then [finishedLine adapter r] else []⌝⦄ :=
  triple_of_run fun w here => by
    rw [here, recordFinished_run]
    split <;> simp [isJobLine_finishedLine, *]

theorem venues_modify_metered (venues : Array Venue) (v : Nat) (f : Venue → Venue)
    (keeps : ∀ x, (f x).metered = x.metered) :
    (venues.modify v f).map (·.metered) = venues.map (·.metered) := by
  apply Array.ext
  · simp
  · intro i _ _
    simp only [Array.getElem_map, Array.getElem_modify]
    split <;> simp [keeps]

/-- **What a change that fires does around its job**: it returns the job's keeper and the hook,
the cell holds the new job, the venues
keep their metering, a finish ends the job's scope, and the metric lines about jobs grow by
exactly the lines of the finish. -/
theorem changeHere_hooks (w₀ : World) {c : Nat} {cell : JobCell} (found : w₀.cells[c]? = some cell)
    {t : Job → Option (Job × Hook)} {j : Job} {h : Hook} (fired : t cell.job = some (j, h)) :
    ⦃fun w => ⌜w = w₀⌝⦄ changeHere c t ⦃⇓ fired w => ⌜fired = some (cell.keeper, h) ∧
      w.cells.map JobCell.bare = (w₀.cells.modify c fun x => { x with job := j }).map JobCell.bare ∧
      w.venues.map (·.metered) = w₀.venues.map (·.metered) ∧
      w.metrics.filter isJobLine =
        w₀.metrics.filter isJobLine ++ cell.keeper.finishLines w₀.metered h ∧
      w.scopes = cell.keeper.scopesAfter h w₀.scopes⌝⦄ := by
  -- the hook decides which writes the keeper makes
  cases h <;>
  mvcgen [changeHere, modifyCell, tableUpdate, modifyVenue, wakeEvery_around, endScope_around,
    notify_around, recordFinished_spec, -wakeEvery_sameJobs, -endScope_sameJobs, -notify_sameJobs,
    -recordFinished_sameJobs]
  all_goals first
    | exact Around.refl _
    | skip
  all_goals simp_all +zetaDelta [around_iff, Keeper.finishLines, Keeper.scopesAfter,
    venues_modify_metered, metered, Array.getElem?_modify, Function.comp_def]
  all_goals rfl

/-- A change that does not fire changes nothing. -/
theorem changeHere_run_refused {w : World} {c : Nat} {t : Job → Option (Job × Hook)}
    (refused : ∀ cell, w.cells[c]? = some cell → t cell.job = none) :
    (changeHere c t).run w = (none, w) := by
  simp only [changeHere, StateT.run_bind, StateT.run_get, pure_bind]
  split
  · rfl
  · next cell found => simp [refused cell found]; rfl

theorem newScope_spec (w₀ : World) (parent : Nat) :
    ⦃fun w => ⌜w = w₀⌝⦄ newScope parent none ⦃⇓ i w => ⌜i = w₀.scopes.items.size ∧
      w = { w₀ with scopes := (w₀.scopes.create parent none w₀.now).2.2 }⌝⦄ :=
  triple_of_run fun w here => by
    rw [here, newScope_run_none]
    exact ⟨Scopes.create_fst _ _ _ _, rfl⟩

/-- **What starting a job does around it**: the venues keep their metering and no scope is
removed; and either no job is entered and the cells and the metric lines about jobs stay, or a
`PENDING` job of the venue, under the next scope, is added in a new cell, and the metered venue
writes its created line. -/
theorem startJob_hooks (w₀ : World) (v : Nat) (ref : String) (input : Value) (md : Option Metadata)
    (adapter : String) (cb : Option Callback) :
    ⦃fun w => ⌜w = w₀⌝⦄ startJob v ref input md adapter cb ⦃⇓ _ w => ⌜
      w.venues.map (·.metered) = w₀.venues.map (·.metered) ∧
      w₀.scopes.items.size ≤ w.scopes.items.size ∧
      ((w.cells.map JobCell.bare = w₀.cells.map JobCell.bare ∧
          w.metrics.filter isJobLine = w₀.metrics.filter isJobLine) ∨
        ∃ (job : Job) (n : Option Notice), job.record.status = .pending ∧
          w.cells.map JobCell.bare = (w₀.cells.push
            { job, keeper := .venue v adapter w₀.scopes.items.size n }).map JobCell.bare ∧
          w.metrics.filter isJobLine = w₀.metrics.filter isJobLine ++
            (if w₀.metered v then [createdLine adapter] else []) ∧
          w₀.scopes.items.size < w.scopes.items.size)⌝⦄ := by
  unfold startJob
  mvcgen [newCell, modifyVenue, emit, newScope_spec, endScope_around, notify_around,
    -newScope_sameJobs, -endScope_sameJobs, -notify_sameJobs, -emit_sameJobs, -newCell_jobView,
    -appendEntry_jobView]
  all_goals simp_all +zetaDelta [around_iff, venues_modify_metered, metered, venue?]
  -- the job entered: the new cell holds a `PENDING` job of the venue
  case vc5 =>
    refine ⟨_, ?_, ⟨_, rfl⟩, ?_⟩
    · simp [Job.create, Record.normalize]
    · show [createdLine adapter].filter isJobLine = [createdLine adapter]
      simp [isJobLine_createdLine]
  case vc7 =>
    refine ⟨_, ?_, _, rfl⟩
    simp [Job.create, Record.normalize]

/-- Deleting a job touches one table only. -/
theorem deleteJob_run (v : Nat) (id : String) (w : World) :
    ((deleteJob v id).run w).2.cells = w.cells ∧ ((deleteJob v id).run w).2.scopes = w.scopes ∧
      ((deleteJob v id).run w).2.metrics = w.metrics ∧
      ((deleteJob v id).run w).2.venues.map (·.metered) = w.venues.map (·.metered) := by
  simp only [deleteJob, StateT.run_bind, StateT.run_get, pure_bind]
  split
  · exact ⟨rfl, rfl, rfl, rfl⟩
  · split
    · exact ⟨rfl, rfl, rfl, rfl⟩
    · exact ⟨rfl, rfl, rfl, venues_modify_metered w.venues v
        (fun x => { x with table := x.table.filter (·.id != id) }) fun _ => rfl⟩

end World

end JobEngine

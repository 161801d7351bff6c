import Mathlib
import JobEngine.World.Schedule

/-!
# What world operations do to jobs and tables

Most of what the world does — waking fibers, ending scopes, passing messages, recording metrics
and deliveries — leaves every job record and every job table as it was. This module names the
part of the world that the job tables are about, the **job view**, and proves for each basic
operation that it keeps the view, so that proofs about tables meet these operations only
through one Hoare triple each.

## Main Definitions

* `JobView` — each cell's record with the venue keeping it, and each venue's table.
* `World.jobView` — the job view of a world.
* `World.SameJobs` — two worlds with the same job view.

## Main Statements

* Triples `⦃SameJobs w₀⦄ op ⦃SameJobs w₀⦄` for the operations that fibers and hooks use
  (`wake`, `endScope`, `send`, `dispatch`, `notify`, `spawn`, …).

## Design Notes

The view keeps the job's record but not whether a future is attached or cancellation was
signalled: nothing a table holds depends on those, so attaching a future is a frame operation
here. The keeper is seen only through the venue it names; `notify` rewrites the numbering of a
callback inside the keeper and still keeps the view.
-/

namespace JobEngine

open Std.Do

/-- The venue a keeper reports to, if it is a venue. -/
def Keeper.venue? : Keeper → Option Nat
  | .venue v _ _ _ => some v
  | _ => Option.none

namespace JobCell

/-- What a venue's table depends on in a cell: the job's record and the venue keeping it. -/
def view (x : JobCell) : Record × Option Nat := (x.job.record, x.keeper.venue?)

end JobCell

/-- **The job view**: for each cell, its job's record and the venue keeping it; for each
venue, its job table. -/
structure JobView where
  cells : Array (Record × Option Nat)
  tables : Array (List TableEntry)

namespace JobView

/-- The view of cell `c`. -/
def cell? (V : JobView) (c : Nat) : Option (Record × Option Nat) := V.cells[c]?

/-- The table of venue `v`; empty for a venue that does not exist. -/
def table (V : JobView) (v : Nat) : List TableEntry := (V.tables[v]?).getD []

end JobView

namespace World

/-- The job view of a world. -/
def jobView (w : World) : JobView := ⟨w.cells.map JobCell.view, w.venues.map (·.table)⟩

/-- `w` holds the jobs and tables that `w₀` holds. -/
def SameJobs (w₀ w : World) : Prop := w.jobView = w₀.jobView

theorem SameJobs.refl (w : World) : SameJobs w w := rfl

theorem SameJobs.trans {w₀ w₁ w₂ : World} (first : SameJobs w₀ w₁) (second : SameJobs w₁ w₂) :
    SameJobs w₀ w₂ :=
  Eq.trans second first

/-- Rewriting a cell without touching its record or its keeping venue keeps the view. -/
theorem cells_modify_view (cells : Array JobCell) (c : Nat) (f : JobCell → JobCell)
    (keeps : ∀ x, cells[c]? = some x → (f x).view = x.view) :
    (cells.modify c f).map JobCell.view = cells.map JobCell.view := by
  apply Array.ext
  · simp
  · intro i _ inside
    simp only [Array.getElem_map, Array.getElem_modify]
    split
    · next same =>
      subst same
      exact keeps _ (by simp)
    · rfl

/-- Rewriting a venue without touching its table keeps the tables. -/
theorem venues_modify_table (venues : Array Venue) (v : Nat) (f : Venue → Venue)
    (keeps : ∀ x, (f x).table = x.table) :
    (venues.modify v f).map (·.table) = venues.map (·.table) := by
  apply Array.ext
  · simp
  · intro i _ _
    simp only [Array.getElem_map, Array.getElem_modify]
    split <;> simp [keeps]

/-! ## Operations that keep the job view -/

/-- A triple of a world computation from what one run of it does. -/
theorem triple_of_run {α : Type} {x : WorldM α} {P : World → Prop} {Q : α → World → Prop}
    (run : ∀ w, P w → Q (x.run w).1 (x.run w).2) : ⦃fun w => ⌜P w⌝⦄ x ⦃⇓ a w => ⌜Q a w⌝⦄ := by
  intro w hw
  exact run w hw

/-- What a triple says about one run from a state that meets its precondition. -/
theorem run_of_spec {α : Type} {x : WorldM α} {P : World → Prop} {Q : α → World → Prop}
    (spec : ⦃fun w => ⌜P w⌝⦄ x ⦃⇓ a w => ⌜Q a w⌝⦄) {w : World} (pre : P w) :
    Q (x.run w).1 (x.run w).2 :=
  spec w pre

section Triples

variable (w₀ : World)

@[spec] theorem emit_sameJobs (line : String) :
    ⦃fun w => ⌜SameJobs w₀ w⌝⦄ emit line ⦃⇓ _ w => ⌜SameJobs w₀ w⌝⦄ := by
  mvcgen [emit]

@[spec] theorem wake_sameJobs (f : Nat) (r : Resume) :
    ⦃fun w => ⌜SameJobs w₀ w⌝⦄ wake f r ⦃⇓ _ w => ⌜SameJobs w₀ w⌝⦄ := by
  mvcgen [wake]

@[spec] theorem wakeEvery_sameJobs (p : Wait → Bool) :
    ⦃fun w => ⌜SameJobs w₀ w⌝⦄ wakeEvery p ⦃⇓ _ w => ⌜SameJobs w₀ w⌝⦄ := by
  mvcgen [wakeEvery]
  case inv1 => exact ⇓ _ w => ⌜SameJobs w₀ w⌝
  all_goals simp_all [SameJobs]

@[spec] theorem addAlarm_sameJobs (due : Int) (fiber : Option Nat) (choice : Nat)
    (scope : Option Nat) :
    ⦃fun w => ⌜SameJobs w₀ w⌝⦄ addAlarm due fiber choice scope ⦃⇓ _ w => ⌜SameJobs w₀ w⌝⦄ := by
  mvcgen [addAlarm]

-- `mvcgen` cannot split the match on the pair that `Scopes.create` returns, so this one
-- goes through the run.
@[spec] theorem newScope_sameJobs (parent : Nat) (timeout : Option Int) :
    ⦃fun w => ⌜SameJobs w₀ w⌝⦄ newScope parent timeout ⦃⇓ _ w => ⌜SameJobs w₀ w⌝⦄ := by
  apply triple_of_run
  intro w same
  simp only [newScope, StateT.run_bind, StateT.run_get, pure_bind]
  split <;> exact same

@[spec] theorem endScope_sameJobs (s : Nat) (e : Ending) :
    ⦃fun w => ⌜SameJobs w₀ w⌝⦄ endScope s e ⦃⇓ _ w => ⌜SameJobs w₀ w⌝⦄ := by
  mvcgen [endScope]
  case inv1 => exact ⇓ _ w => ⌜SameJobs w₀ w⌝
  all_goals simp_all [SameJobs, jobView]

@[spec] theorem send_sameJobs (ch : Nat) (m : Message) :
    ⦃fun w => ⌜SameJobs w₀ w⌝⦄ send ch m ⦃⇓ _ w => ⌜SameJobs w₀ w⌝⦄ := by
  mvcgen [send]
  all_goals simp_all [SameJobs, jobView]

@[spec] theorem receive?_sameJobs (ch : Nat) :
    ⦃fun w => ⌜SameJobs w₀ w⌝⦄ receive? ch ⦃⇓ _ w => ⌜SameJobs w₀ w⌝⦄ := by
  apply triple_of_run
  intro w same
  simp only [receive?, modifyGet, MonadStateOf.modifyGet, StateT.modifyGet, StateT.run]
  split
  · -- taking a message rewrites only the channel
    split
    · simp only [SameJobs, jobView] at same ⊢
      exact same
    · exact same
  · exact same

@[spec] theorem dropDelivery_sameJobs :
    ⦃fun w => ⌜SameJobs w₀ w⌝⦄ dropDelivery ⦃⇓ _ w => ⌜SameJobs w₀ w⌝⦄ := by
  mvcgen [dropDelivery]
  simp_all +zetaDelta [SameJobs]
  split <;> simp_all [jobView]

@[spec] theorem dispatch_sameJobs (d : Delivery) :
    ⦃fun w => ⌜SameJobs w₀ w⌝⦄ dispatch d ⦃⇓ _ w => ⌜SameJobs w₀ w⌝⦄ := by
  mvcgen [dispatch]
  -- the one goal left reads the outlet again after the send
  all_goals simp_all +zetaDelta [SameJobs, jobView]
  split <;> simp_all

/-- Telling a callback renumbers the events inside the keeper, which keeps its venue. -/
@[spec] theorem notify_sameJobs (c : Nat) (r : Record) :
    ⦃fun w => ⌜SameJobs w₀ w⌝⦄ notify c r ⦃⇓ _ w => ⌜SameJobs w₀ w⌝⦄ := by
  mvcgen [notify, modifyCell]
  rename_i before _ _ _ _ _ found _ _ _ _ after
  refine Eq.trans after (Eq.trans ?_ before)
  simp +zetaDelta only [jobView, JobView.mk.injEq, and_true]
  exact cells_modify_view _ _ _ fun x inside => by
    simp_all [JobCell.view, Keeper.venue?]

@[spec] theorem recordFinished_sameJobs (v : Nat) (a : String) (r : Record) :
    ⦃fun w => ⌜SameJobs w₀ w⌝⦄ recordFinished v a r ⦃⇓ _ w => ⌜SameJobs w₀ w⌝⦄ := by
  mvcgen [recordFinished]

@[spec] theorem spawn_sameJobs (f : Fiber) :
    ⦃fun w => ⌜SameJobs w₀ w⌝⦄ spawn f ⦃⇓ _ w => ⌜SameJobs w₀ w⌝⦄ := by
  mvcgen [spawn]

@[spec] theorem newChannel_sameJobs (capacity : Nat) :
    ⦃fun w => ⌜SameJobs w₀ w⌝⦄ newChannel capacity ⦃⇓ _ w => ⌜SameJobs w₀ w⌝⦄ := by
  mvcgen [newChannel]

/-- Attaching a completion future is invisible to the tables. -/
@[spec] theorem attachFuture_sameJobs (c : Nat) :
    ⦃fun w => ⌜SameJobs w₀ w⌝⦄ attachFuture c ⦃⇓ _ w => ⌜SameJobs w₀ w⌝⦄ := by
  mvcgen [attachFuture, modifyCell]
  rename_i same _
  refine Eq.trans ?_ same
  simp +zetaDelta only [jobView, JobView.mk.injEq, and_true]
  exact cells_modify_view _ _ _ fun x _ => rfl

end Triples

end World

end JobEngine

import JobEngine.Proofs.Engine.Finishing

/-!
# Invocations leave other jobs alone

Invoking an operation starts one job, or none when it is refused, and changes no job but the
one it started: the view of every other cell that exists stays as it was. An orchestration
relies on this while it starts its steps one after another: its own job, and the sub-jobs
started before, are as the previous start left them.

## Main Definitions

* `World.Apart` — a cell holds a given view while a venue keeps the job of another.

## Main Statements

* `World.invoke_apart` — an invocation keeps the view of every cell that exists.
* `World.invoke_lt_size` — the job an invocation returns exists.
* `World.KeepsJobs.bind` — keeping the jobs composes along a `do` block.
-/

namespace JobEngine

open Std.Do

namespace World


theorem size_jobView (w : World) : w.jobView.cells.size = w.cells.size := by
  simp [jobView]

theorem SameJobs.size {w w' : World} (same : SameJobs w w') : w'.cells.size = w.cells.size := by
  rw [← size_jobView, ← size_jobView w, show w'.jobView = w.jobView from same]

theorem size_afterChange (w : World) (c : Nat) (t : Job → Option (Job × Hook)) :
    (w.afterChange c t).cells.size = w.cells.size := by
  unfold afterChange
  repeat' split
  all_goals simp [jobView, JobView.setRecord, JobView.storeIn]

theorem changeHere_size (c : Nat) (t : Job → Option (Job × Hook)) (n : Nat) :
    ⦃fun w => ⌜w.cells.size = n⌝⦄ changeHere c t ⦃⇓ _ w => ⌜w.cells.size = n⌝⦄ :=
  triple_of_run fun w counted => by
    rw [← size_jobView, run_of_triple (changeHere_jobView w c t), size_afterChange, counted]

theorem change_size (c : Nat) (t : Job → Option (Job × Hook)) (n : Nat) :
    ⦃fun w => ⌜w.cells.size = n⌝⦄ change c t ⦃⇓ _ w => ⌜w.cells.size = n⌝⦄ := by
  have here := changeHere_size c t n
  have passed := fun (target : Nat) (t' : Job → Option (Job × Hook)) => changeHere_size target t' n
  mvcgen [change, here, passed]

theorem failJob_size (c : Nat) (message : String) (n : Nat) :
    ⦃fun w => ⌜w.cells.size = n⌝⦄ failJob c message ⦃⇓ _ w => ⌜w.cells.size = n⌝⦄ := by
  have step := fun (ms : Int) => change_size c (·.fail ms message) n
  unfold failJob
  mvcgen [step]

theorem startJob_jobView (V : JobView) (v : Nat) (ref : String) (input : Value)
    (md : Option Metadata) (adapter : String) (cb : Option Callback) :
    ⦃fun w => ⌜w.jobView = V⌝⦄ startJob v ref input md adapter cb
    ⦃⇓ res w => ⌜(∀ c s, res = .ok (c, s) →
        c = V.cells.size ∧ ∃ r e, w.jobView = (V.addCell (r, some v)).addEntry v e) ∧
      (∀ f, res = .error f → w.jobView = V)⌝⦄ := by
  have ids := fun (V : JobView) (g : IdGenerator) =>
    modifyVenue_jobView V v (f := fun x => { x with ids := g }) fun _ => rfl
  unfold startJob
  mvcgen [ids]
  all_goals try simp only [SameJobs] at *
  all_goals simp_all [JobCell.view, Keeper.venue?]
  all_goals exact ⟨_, _, rfl⟩

/-- Cell `c'` holds `y`, and a venue keeps the job of another cell `c`. -/
def Apart (c c' : Nat) (y : Record × Option Nat) (w : World) : Prop :=
  c ≠ c' ∧ (∃ r v, w.jobView.cell? c = some (r, some v)) ∧ w.jobView.cell? c' = some y

theorem Apart.held {c c' : Nat} {y : Record × Option Nat} {w : World}
    (apart : Apart c c' y w) : w.jobView.cell? c' = some y :=
  apart.2.2

theorem startJob_apart (v : Nat) (ref : String) (input : Value) (md : Option Metadata)
    (adapter : String) (cb : Option Callback) (c' : Nat) (y : Record × Option Nat) :
    ⦃fun w => ⌜w.jobView.cell? c' = some y⌝⦄ startJob v ref input md adapter cb
    ⦃⇓ res w => ⌜w.jobView.cell? c' = some y ∧ ∀ c s, res = .ok (c, s) → Apart c c' y w⌝⦄ := by
  apply triple_of_run
  intro w held
  have inside : c' < w.jobView.cells.size := (Array.getElem?_eq_some_iff.mp held).1
  have spec := run_of_spec (startJob_jobView w.jobView v ref input md adapter cb) rfl
  cases started : ((startJob v ref input md adapter cb).run w).1 with
  | error f =>
    rw [started] at spec
    rw [spec.2 f rfl]
    exact ⟨held, by simp⟩
  | ok cs =>
    obtain ⟨c, s⟩ := cs
    rw [started] at spec
    obtain ⟨rfl, r, e, entered⟩ := spec.1 c s rfl
    have kept : ((startJob v ref input md adapter cb).run w).2.jobView.cell? c' = some y := by
      rw [entered]
      simp [JobView.cell?_addEntry, JobView.cell?_addCell, Nat.ne_of_lt inside, held]
    refine ⟨kept, fun c₁ s₁ same => ?_⟩
    cases same
    refine ⟨Nat.ne_of_gt inside, ⟨r, v, ?_⟩, kept⟩
    rw [entered]
    simp

theorem apart_afterChange {c c' : Nat} {y : Record × Option Nat} {w : World}
    (apart : Apart c c' y w) (t : Job → Option (Job × Hook)) :
    (∃ r v, (w.afterChange c t).cell? c = some (r, some v)) ∧ (w.afterChange c t).cell? c' = some y := by
  obtain ⟨other, ⟨r, v, kept⟩, held⟩ := apart
  unfold afterChange
  repeat' split
  all_goals simp_all

theorem change_apart (c : Nat) (t : Job → Option (Job × Hook)) (c' : Nat)
    (y : Record × Option Nat) :
    ⦃fun w => ⌜Apart c c' y w⌝⦄ change c t ⦃⇓ _ w => ⌜Apart c c' y w⌝⦄ := by
  apply triple_of_run
  intro w apart
  have here : Apart c c' y ((changeHere c t).run w).run.2 := by
    unfold Apart
    rw [show ((changeHere c t).run w).run.2 = ((changeHere c t).run w).2 from rfl,
      run_of_triple (changeHere_jobView w c t)]
    exact ⟨apart.1, apart_afterChange apart t⟩
  show Apart c c' y ((change c t).run w).run.2
  simp only [change, StateT.run_bind, Id.run_bind]
  split
  · exact here
  · next target h fired =>
    -- a venue keeps the job, so the change is not passed on
    obtain ⟨cell, j, found, -, keeper⟩ := changeHere_fired c t w fired
    obtain ⟨-, ⟨r, v, kept⟩, -⟩ := apart
    simp [jobView_cell?, found, JobCell.view, keeper, Keeper.venue?] at kept
  · exact here

theorem failJob_apart (c : Nat) (message : String) (c' : Nat) (y : Record × Option Nat) :
    ⦃fun w => ⌜Apart c c' y w⌝⦄ failJob c message ⦃⇓ _ w => ⌜Apart c c' y w⌝⦄ := by
  have changing := fun (t : Job → Option (Job × Hook)) => change_apart c t c' y
  unfold failJob
  mvcgen [changing]

theorem runAdapter_apart (v : Nat) (a : Adapter) (c scope : Nat) (operation : String)
    (md : Metadata) (input : Value) (c' : Nat) (y : Record × Option Nat) :
    ⦃fun w => ⌜Apart c c' y w⌝⦄ runAdapter v a c scope operation md input
      ⦃⇓ _ w => ⌜Apart c c' y w⌝⦄ := by
  have changing := fun (t : Job → Option (Job × Hook)) => change_apart c t c' y
  unfold runAdapter finishWith
  mvcgen [failJob, setStatus, completeJob, changing, -failJob_tracks, -setStatus_tracks,
    -completeJob_tracks]
  -- spawning a fiber and making its inbox keep every job
  all_goals clear changing
  all_goals unfold Apart at *
  all_goals simp_all only [SameJobs, ne_eq, not_false_eq_true, true_and]

theorem invoke_apart (v : Nat) (ref : String) (input : Value) (cb : Option Callback)
    (given : Option Metadata) (c' : Nat) (y : Record × Option Nat) :
    ⦃fun w => ⌜w.jobView.cell? c' = some y⌝⦄ invoke v ref input cb given
      ⦃⇓ _ w => ⌜w.jobView.cell? c' = some y⌝⦄ := by
  have starting := fun (ref : String) (md : Option Metadata) (adapter : String) =>
    startJob_apart v ref input md adapter cb c' y
  have failing := fun (c : Nat) (message : String) => failJob_apart c message c' y
  have adapting := fun (a : Adapter) (c scope : Nat) (operation : String) (md : Metadata) =>
    runAdapter_apart v a c scope operation md input c' y
  unfold invoke
  mvcgen [starting, failing, adapting, -startJob_tracks, -failJob_tracks, -runAdapter_tracks]
  -- a refused invocation keeps the view, and a started job is changed apart from `c'`
  all_goals first
    | exact ‹_›
    | exact Apart.held ‹_›
    | obtain ⟨held, started⟩ := ‹_ ∧ _›
      first
        | exact held
        | exact started _ _ rfl

theorem KeepsJobs.lt_size_spec {α : Type} {x : WorldM α} (keeps : KeepsJobs x) (c : Nat) :
    ⦃fun w => ⌜c < w.cells.size⌝⦄ x ⦃⇓ _ w => ⌜c < w.cells.size⌝⦄ :=
  triple_of_run fun w inside => lt_size_of_retains (keeps w) inside

theorem startJob_lt_size (v : Nat) (ref : String) (input : Value) (md : Option Metadata)
    (adapter : String) (cb : Option Callback) :
    ⦃fun _ => ⌜True⌝⦄ startJob v ref input md adapter cb
      ⦃⇓ res w => ⌜∀ c s, res = .ok (c, s) → c < w.cells.size⌝⦄ :=
  triple_of_run fun w _ c s started => by
    have spec := run_of_spec (startJob_jobView w.jobView v ref input md adapter cb) rfl
    obtain ⟨rfl, r, e, entered⟩ := spec.1 c s started
    rw [← size_jobView, entered]
    simp [JobView.addEntry, JobView.addCell]

/-- **The job an invocation returns exists.** -/
theorem invoke_lt_size (v : Nat) (ref : String) (input : Value) (cb : Option Callback)
    (given : Option Metadata) :
    ⦃fun _ => ⌜True⌝⦄ invoke v ref input cb given
      ⦃⇓ res w => ⌜∀ sub, res = .ok sub → sub < w.cells.size⌝⦄ := by
  have starting := fun (ref : String) (md : Option Metadata) (adapter : String) =>
    startJob_lt_size v ref input md adapter cb
  have failing := fun (c : Nat) (message : String) =>
    (KeepsJobs.of_tracks (failJob_tracks · c message)).lt_size_spec c
  have adapting := fun (a : Adapter) (c scope : Nat) (operation : String) (md : Metadata) =>
    (KeepsJobs.of_tracks (runAdapter_tracks · v a c scope operation md input)).lt_size_spec c
  unfold invoke
  mvcgen [starting, failing, adapting, -startJob_tracks, -failJob_tracks, -runAdapter_tracks]
  -- a refused invocation returns no job; a started one returns the cell it entered
  all_goals first
    | intro sub same
      cases same
      exact ‹_›
    | intro sub refused
      cases refused
    | rename_i started
      exact started _ _ rfl

/-- Invoking an operation keeps the view of every cell that exists, and the cell it returns
exists. -/
theorem invoke_keeps {c : Nat} {w : World} (inside : c < w.cells.size) (v : Nat) (ref : String)
    (input : Value) (cb : Option Callback) (given : Option Metadata) :
    ((invoke v ref input cb given).run w).run.2.jobView.cell? c = w.jobView.cell? c ∧
      ∀ sub, ((invoke v ref input cb given).run w).run.1 = .ok sub →
        sub < ((invoke v ref input cb given).run w).run.2.cells.size := by
  obtain ⟨y, held⟩ := Option.isSome_iff_exists.mp ((lt_size_iff w c).mp inside)
  rw [held]
  exact ⟨run_of_spec (invoke_apart v ref input cb given c y) held,
    run_of_spec (invoke_lt_size v ref input cb given) trivial⟩

theorem isFinished_of_view {w w' : World} {c : Nat}
    (same : w'.jobView.cell? c = w.jobView.cell? c) : w'.isFinished c = w.isFinished c := by
  rw [isFinished_eq_view, isFinished_eq_view, same]

theorem lt_size_of_view {w w' : World} {c : Nat} (same : w'.jobView.cell? c = w.jobView.cell? c)
    (inside : c < w.cells.size) : c < w'.cells.size := by
  rw [lt_size_iff] at inside ⊢
  rwa [same]

/-- A world that keeps the jobs of another keeps a finished job's record. -/
theorem recordOf_of_retains {w w' : World} (retains : w.jobView.Retains w'.jobView) {c : Nat}
    (finished : w.isFinished c = true) : w'.recordOf c = w.recordOf c := by
  rw [isFinished_eq_view] at finished
  rw [recordOf_eq_view, recordOf_eq_view]
  cases held : w.jobView.cell? c with
  | none => simp [held] at finished
  | some x =>
    simp only [held, Option.map_some, Option.getD_some] at finished ⊢
    obtain ⟨x', held', frozen⟩ := retains.cells c x held
    rw [held', frozen finished]
    rfl

theorem KeepsJobs.pure {α : Type} (a : α) : KeepsJobs (pure a : WorldM α) :=
  fun _ => JobView.Retains.refl _

theorem KeepsJobs.get : KeepsJobs (get : WorldM World) :=
  fun _ => JobView.Retains.refl _

theorem KeepsJobs.bind {α β : Type} {x : WorldM α} {f : α → WorldM β} (first : KeepsJobs x)
    (rest : ∀ a, KeepsJobs (f a)) : KeepsJobs (x >>= f) := by
  intro w
  simp only [StateT.run_bind, Id.run_bind]
  exact (first w).trans (rest _ _)

end World

end JobEngine

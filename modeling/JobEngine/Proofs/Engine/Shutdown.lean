import JobEngine.Proofs.Api.Admission
import JobEngine.Proofs.Engine.Agreement
import JobEngine.Session.Step

/-!
# Closing an engine

A session closes its venue in two moves. First the venue is marked closed — at once, before
anything else happens; a venue that is marked already answers the close without error and
without waiting. Then the close waits: every 50 ms it looks for a running job in the table, and
answers when there is none; when its deadline comes first, it cancels the jobs still running,
one by one in the order of their ids, and answers with the deadline's error.

Meanwhile the engine goes on taking calls: invocations, from clients or from orchestrations
running on the venue, updates and cancellations by id, deletions, adapters' calls on their
jobs, copies of remote jobs. This module follows every interleaving of such calls with the
steps of the close, from the moment the venue is marked:

* **the venue stays closed** — no call reopens a venue, or closes one;
* **every invocation is refused** as unavailable, and changes nothing: no job is created;
* **the step at which the close answers leaves every job of the table terminal**, in the table
  and in the job's own record, whichever way it answers;
* **a second close answers at once**, without error, and changes nothing.

## Main Definitions

* `World.closedFlags` — whether each venue is closed.
* `World.Quiet` — every job in a venue's table is terminal.
* `World.Cancelling` — the invariant of the loop that cancels a closing venue's running jobs.
* `EngineCall.Interleaving` — the worlds an interleaving of engine calls reaches.

## Main Statements

* `World.engineCall_closedFlags` — no engine call changes whether a venue is closed.
* `World.closeStep_quiet` — a step of a close that answers leaves the venue quiet.
* `World.invoke_of_closed` — an invocation at a closed venue is refused and changes nothing.
* `engine_shutdown` — the four facts above, along every interleaving from a closed venue.

## Design Notes

The close's deadline path reads the running entries when the deadline fires, not at the tick
before it. Between the two no job can enter the table: the only way in is an invocation, and
the venue is closed. So the entries it cancels are all the running ones, and the proof follows
the entries of the table as it stood then: the cancellations keep every entry under its id and
cell (`Tracks`) and keep the ids themselves, so each entry afterwards is one of those.
-/

namespace JobEngine

open Std.Do

namespace World

/-- Whether each venue is closed. -/
def closedFlags (w : World) : Array Bool := w.venues.map (·.closed)

theorem closedFlags_getElem? (w : World) (v : Nat) :
    w.closedFlags[v]? = (w.venue? v).map (·.closed) := by
  simp [closedFlags, venue?]

/-- Rewriting a venue without touching whether it is closed keeps the flags. -/
theorem venues_modify_closed (venues : Array Venue) (v : Nat) (f : Venue → Venue)
    (keeps : ∀ x, (f x).closed = x.closed) :
    (venues.modify v f).map (·.closed) = venues.map (·.closed) := by
  apply Array.ext
  · simp
  · intro i _ _
    simp only [Array.getElem_map, Array.getElem_modify]
    split <;> simp [keeps]

/-! ## No call reopens a venue

Only a session's close marks a venue closed; every operation of the engine rewrites a venue's
ids, table or adapters, never the flag. The frame triples below are stated for the flags of all
venues at once. -/

section Flags

variable (F : Array Bool)

theorem modifyVenue_closedFlags (v : Nat) {f : Venue → Venue}
    (keeps : ∀ x, (f x).closed = x.closed) :
    ⦃fun w => ⌜w.closedFlags = F⌝⦄ modifyVenue v f ⦃⇓ _ w => ⌜w.closedFlags = F⌝⦄ := by
  mvcgen [modifyVenue]
  simp_all +zetaDelta [closedFlags, venues_modify_closed _ _ _ keeps]

theorem wakeEvery_closedFlags (p : Wait → Bool) :
    ⦃fun w => ⌜w.closedFlags = F⌝⦄ wakeEvery p ⦃⇓ _ w => ⌜w.closedFlags = F⌝⦄ := by
  mvcgen [wakeEvery, wake, -wakeEvery_sameJobs, -wake_sameJobs]
  case inv1 => exact ⇓ _ w => ⌜w.closedFlags = F⌝
  all_goals simp_all +zetaDelta [closedFlags]

theorem endScope_closedFlags (s : Nat) (e : Ending) :
    ⦃fun w => ⌜w.closedFlags = F⌝⦄ endScope s e ⦃⇓ _ w => ⌜w.closedFlags = F⌝⦄ := by
  have woken := wakeEvery_closedFlags F
  mvcgen [endScope, woken, -endScope_sameJobs, -wakeEvery_sameJobs]
  case inv1 => exact ⇓ _ w => ⌜w.closedFlags = F⌝
  all_goals simp_all +zetaDelta [closedFlags]

theorem notify_closedFlags (c : Nat) (r : Record) :
    ⦃fun w => ⌜w.closedFlags = F⌝⦄ notify c r ⦃⇓ _ w => ⌜w.closedFlags = F⌝⦄ := by
  mvcgen [notify, modifyCell, dispatch, send, wake, dropDelivery, emit, -notify_sameJobs,
    -dispatch_sameJobs, -send_sameJobs, -wake_sameJobs, -dropDelivery_sameJobs, -emit_sameJobs]
  all_goals simp_all +zetaDelta [closedFlags]

-- `mvcgen` cannot split the match on the pair that `Scopes.create` returns, so this one
-- goes through the run.
theorem newScope_closedFlags (parent : Nat) (timeout : Option Int) :
    ⦃fun w => ⌜w.closedFlags = F⌝⦄ newScope parent timeout ⦃⇓ _ w => ⌜w.closedFlags = F⌝⦄ := by
  apply triple_of_run
  intro w same
  simp only [newScope, StateT.run_bind, StateT.run_get, pure_bind]
  split <;> exact same

theorem changeHere_closedFlags (c : Nat) (t : Job → Option (Job × Hook)) :
    ⦃fun w => ⌜w.closedFlags = F⌝⦄ changeHere c t ⦃⇓ _ w => ⌜w.closedFlags = F⌝⦄ := by
  have woken := wakeEvery_closedFlags F
  have ended := endScope_closedFlags F
  have notified := notify_closedFlags F
  have stored := fun v r => modifyVenue_closedFlags F v (f := fun x => { x with
    table := x.table.map fun e =>
      if e.id == r.id && !e.record.isFinished then { e with record := r } else e }) fun _ => rfl
  mvcgen [changeHere, modifyCell, tableUpdate, recordFinished, emit, woken, ended, notified,
    stored, -wakeEvery_sameJobs, -endScope_sameJobs, -notify_sameJobs, -recordFinished_sameJobs,
    -emit_sameJobs]

theorem change_closedFlags (c : Nat) (t : Job → Option (Job × Hook)) :
    ⦃fun w => ⌜w.closedFlags = F⌝⦄ change c t ⦃⇓ _ w => ⌜w.closedFlags = F⌝⦄ := by
  have here := changeHere_closedFlags F
  mvcgen [change, here]

theorem cancelJob_closedFlags (c : Nat) :
    ⦃fun w => ⌜w.closedFlags = F⌝⦄ cancelJob c ⦃⇓ _ w => ⌜w.closedFlags = F⌝⦄ := by
  have changed := change_closedFlags F
  unfold cancelJob
  mvcgen [changed, -cancelJob_tracks]

theorem startJob_closedFlags (v : Nat) (ref : String) (input : Value) (md : Option Metadata)
    (adapter : String) (cb : Option Callback) :
    ⦃fun w => ⌜w.closedFlags = F⌝⦄ startJob v ref input md adapter cb
      ⦃⇓ _ w => ⌜w.closedFlags = F⌝⦄ := by
  have opened := newScope_closedFlags F
  have ended := endScope_closedFlags F
  have notified := notify_closedFlags F
  have minted := fun g => modifyVenue_closedFlags F v (f := fun x => { x with ids := g })
    fun _ => rfl
  have entered := fun e => modifyVenue_closedFlags F v
    (f := fun x => { x with table := x.table ++ [e] }) fun _ => rfl
  mvcgen [startJob, opened, newCell, emit, ended, notified, minted, entered,
    -startJob_tracks, -newScope_sameJobs, -newCell_jobView, -emit_sameJobs, -endScope_sameJobs,
    -notify_sameJobs, -appendEntry_jobView]

theorem runAdapter_closedFlags (v : Nat) (a : Adapter) (c scope : Nat) (operation : String)
    (md : Metadata) (input : Value) :
    ⦃fun w => ⌜w.closedFlags = F⌝⦄ runAdapter v a c scope operation md input
      ⦃⇓ _ w => ⌜w.closedFlags = F⌝⦄ := by
  have changed := change_closedFlags F
  unfold runAdapter finishWith failJob setStatus completeJob
  mvcgen [changed, spawn, newChannel, -runAdapter_tracks, -spawn_sameJobs, -newChannel_sameJobs]

theorem invoke_closedFlags (v : Nat) (ref : String) (input : Value) (cb : Option Callback)
    (given : Option Metadata) :
    ⦃fun w => ⌜w.closedFlags = F⌝⦄ invoke v ref input cb given ⦃⇓ _ w => ⌜w.closedFlags = F⌝⦄ := by
  have started := startJob_closedFlags F v ref input
  have ran := runAdapter_closedFlags F v
  have changed := change_closedFlags F
  unfold invoke failJob
  mvcgen [started, ran, changed, -invoke_tracks, -startJob_tracks, -runAdapter_tracks]

theorem closeStep_closedFlags (v scope : Nat) (tick : Int) (waiting : Bool) (r : Resume) :
    ⦃fun w => ⌜w.closedFlags = F⌝⦄ Chore.step (.close v scope tick waiting) r
      ⦃⇓ _ w => ⌜w.closedFlags = F⌝⦄ := by
  have cancelled := cancelJob_closedFlags F
  have ended := endScope_closedFlags F
  mvcgen [Chore.step, closeCheck, finishClose, cancelled, ended, -closeStep_tracks,
    -endScope_sameJobs, -cancelJob_tracks]
  case inv1 => exact ⇓ _ w => ⌜w.closedFlags = F⌝
  all_goals simp_all +zetaDelta [closedFlags]

theorem jobCall_closedFlags (c : Nat) (call : JobCall) :
    ⦃fun w => ⌜w.closedFlags = F⌝⦄ call.run c ⦃⇓ _ w => ⌜w.closedFlags = F⌝⦄ := by
  have changed := change_closedFlags F
  have cancelled := cancelJob_closedFlags F
  cases call <;> mvcgen [JobCall.run, updateJob, setStatus, failJob, completeJob, attachFuture,
    modifyCell, changed, cancelled, -EngineCall.jobCall_tracks, -updateJob_tracks,
    -setStatus_tracks, -failJob_tracks, -completeJob_tracks, -cancelJob_tracks,
    -attachFuture_sameJobs]

/-- **No engine call changes whether a venue is closed.** -/
theorem engineCall_closedFlags (call : EngineCall) :
    ⦃fun w => ⌜w.closedFlags = F⌝⦄ call.run ⦃⇓ _ w => ⌜w.closedFlags = F⌝⦄ := by
  have adapted := jobCall_closedFlags F
  have changed := change_closedFlags F
  have cancelled := cancelJob_closedFlags F
  have invoked := invoke_closedFlags F
  have closing := closeStep_closedFlags F
  have dropped := fun v id => modifyVenue_closedFlags F v
    (f := fun x => { x with table := x.table.filter (·.id != id) }) fun _ => rfl
  unfold EngineCall.run updateJobStatus cancelJobById deleteJob updateJob newCopy
  cases call <;> mvcgen [adapted, invoked, changed, cancelled, closing, dropped, newCell,
    -EngineCall.jobCall_tracks, -invoke_tracks, -updateJobStatus_tracks, -cancelJobById_tracks,
    -cancelJob_tracks, -closeStep_tracks, -newCell_jobView]

end Flags

/-- **An invocation at a closed venue is refused as unavailable**, and changes nothing. -/
theorem invoke_of_closed {w : World} {v : Nat} {x : Venue} (found : w.venue? v = some x)
    (closed : x.closed = true) (ref : String) (input : Value) (cb : Option Callback)
    (given : Option Metadata) :
    (invoke v ref input cb given).run w = (.error (.unavailable "engine is shutting down"), w) := by
  simp [invoke, found, closed]
  rfl

/-! ## Quiet tables -/

/-- Every job in the table of venue `v` is terminal, in the table and in its own record. -/
def Quiet (w : World) (v : Nat) : Prop :=
  ∀ e ∈ w.jobView.table v, e.record.isFinished = true ∧ w.isFinished e.cell = true

theorem Quiet.of_sameJobs {w w' : World} {v : Nat} (quiet : w.Quiet v) (same : SameJobs w w') :
    w'.Quiet v := by
  intro e member
  rw [show w'.jobView = w.jobView from same] at member
  rw [isFinished_eq_view, show w'.jobView = w.jobView from same, ← isFinished_eq_view]
  exact quiet e member

/-- The running entries of a venue are the entries of its table that have not finished. -/
theorem mem_running_iff {w : World} {v : Nat} {e : TableEntry} :
    e ∈ ((w.venue? v).map (·.running)).getD [] ↔
      e ∈ w.jobView.table v ∧ e.record.isFinished = false := by
  rw [mem_jobView_table]
  cases found : w.venue? v <;> simp [Venue.running]

/-- A coherent table whose venue runs no job is quiet. -/
theorem quiet_of_running {w : World} (coh : w.jobView.Coherent) {v : Nat}
    (idle : (((w.venue? v).map (·.running)).getD []).isEmpty = true) : w.Quiet v := by
  intro e member
  have finished : e.record.isFinished = true := by
    by_contra running
    have listed := mem_running_iff.mpr ⟨member, by simpa using running⟩
    simp [List.isEmpty_iff.mp idle] at listed
  refine ⟨finished, ?_⟩
  rw [isFinished, recordOf_entry coh member]
  exact finished

/-- With the same ids, a view that retains another holds no entry of its own: each of its
entries is one of the other's, under the same cell. -/
theorem source_of_retains {V W : JobView} (retains : V.Retains W) (coh : W.Coherent)
    (ids : W.ids = V.ids) {v : Nat} {e' : TableEntry} (member : e' ∈ W.table v) :
    ∃ e ∈ V.table v, e.cell = e'.cell := by
  have listed : e'.id ∈ V.ids v := by
    rw [← ids]
    exact List.mem_map_of_mem member
  obtain ⟨e, source, sameId⟩ := List.mem_map.mp listed
  obtain ⟨e'', kept, keptId, keptCell, _⟩ := retains.entries v e source
  -- the entry `e` became has the id of `e'`, and ids are unique in `W`
  have same : e'' = e' := coh.eq_of_id kept member (keptId.trans sameId)
  exact ⟨e, source, by rw [← keptCell, same]⟩

/-- **Cancelling every running job quiets the venue**: after changes that keep the invariant and
the ids, a table whose running jobs were each finished holds terminal jobs only. -/
theorem quiet_of_cancelled {w₀ w : World} (coh : w₀.jobView.Coherent)
    (tracks : Tracks w₀.jobView w) (ids : w.jobView.ids = w₀.jobView.ids) {v : Nat}
    (cancelled : ∀ e ∈ w₀.jobView.table v, e.record.isFinished = false →
      w.isFinished e.cell = true) :
    w.Quiet v := by
  have coh' := tracks.2 coh
  intro e' member
  obtain ⟨e, source, sameCell⟩ := source_of_retains tracks.1 coh' ids member
  have finished : w.isFinished e'.cell = true := by
    rw [← sameCell]
    cases running : e.record.isFinished with
    | false => exact cancelled e source running
    | true =>
      -- a terminal job stays terminal
      have before : w₀.isFinished e.cell = true := by
        rw [isFinished, recordOf_entry coh source]
        exact running
      exact isFinished_of_retains tracks.1 before
  refine ⟨?_, finished⟩
  rw [← recordOf_entry coh' member]
  exact finished

/-! ## The close -/

theorem Tracks.trans {V₀ : JobView} {w w' : World} (first : Tracks V₀ w)
    (second : Tracks w.jobView w') : Tracks V₀ w' :=
  ⟨first.1.trans second.1, fun coherent => second.2 (first.2 coherent)⟩

theorem cancelJob_ids (I : Nat → List String) (c : Nat) :
    ⦃fun w => ⌜w.jobView.ids = I⌝⦄ cancelJob c ⦃⇓ _ w => ⌜w.jobView.ids = I⌝⦄ := by
  have changed := change_ids I
  unfold cancelJob
  mvcgen [changed, -cancelJob_tracks]

/-- **What cancelling a job does**, from the world `w₁` it starts in: every job and entry stays,
a terminal one unchanged, the tables stay coherent and keep their ids, and the job is terminal
if its cell exists. -/
theorem cancelJob_closing (w₁ : World) (c : Nat) :
    ⦃fun w => ⌜w = w₁⌝⦄ cancelJob c
    ⦃⇓ _ w => ⌜Tracks w₁.jobView w ∧ w.jobView.ids = w₁.jobView.ids ∧
      (c < w₁.cells.size → w.isFinished c = true)⌝⦄ := by
  apply triple_of_run
  rintro w rfl
  exact ⟨run_of_spec (cancelJob_tracks _ c) (Tracks.start rfl),
    run_of_spec (cancelJob_ids _ c) rfl, fun inside => run_of_spec (cancelJob_finishes c) inside⟩

/-- The invariant of the loop that cancels a closing venue's running jobs, from the world `w₀`
it starts in: every job and entry of `w₀` stays, the tables keep their ids, and the jobs of the
entries `done` so far are terminal. -/
def Cancelling (w₀ : World) (done : List TableEntry) (w : World) : Prop :=
  Tracks w₀.jobView w ∧ w.jobView.ids = w₀.jobView.ids ∧ ∀ d ∈ done, w.isFinished d.cell = true

theorem Cancelling.start (w₀ : World) : Cancelling w₀ [] w₀ :=
  ⟨Tracks.start rfl, rfl, fun _ member => nomatch member⟩

/-- Cancelling the job of an entry of `w₀` keeps the invariant, one entry further. -/
theorem Cancelling.step {w₀ w w' : World} (coh : w₀.jobView.Coherent) {v : Nat}
    {done : List TableEntry} {e : TableEntry} (entry : e ∈ w₀.jobView.table v)
    (before : Cancelling w₀ done w)
    (cancelled : Tracks w.jobView w' ∧ w'.jobView.ids = w.jobView.ids ∧
      (e.cell < w.cells.size → w'.isFinished e.cell = true)) :
    Cancelling w₀ (done ++ [e]) w' := by
  obtain ⟨tracks, ids, finished⟩ := before
  obtain ⟨tracks', ids', finishes⟩ := cancelled
  -- the entry's cell exists in `w₀`, and cells are never dropped
  have inside : e.cell < w.cells.size :=
    lt_size_of_retains tracks.1 (by simpa [jobView] using coh.cell_lt entry)
  refine ⟨tracks.trans tracks', ids'.trans ids, fun d member => ?_⟩
  rcases List.mem_append.mp member with earlier | now
  · exact isFinished_of_retains tracks'.1 (finished d earlier)
  · rw [List.mem_singleton.mp now]
    exact finishes inside

/-- When the loop has cancelled every running entry of `w₀`'s table, the venue is quiet. -/
theorem Cancelling.quiet {w₀ w : World} (coh : w₀.jobView.Coherent) {v : Nat}
    {done : List TableEntry} (after : Cancelling w₀ done w)
    (covers : ∀ e ∈ w₀.jobView.table v, e.record.isFinished = false → e ∈ done) : w.Quiet v :=
  quiet_of_cancelled coh after.1 after.2.1 fun e entry running =>
    after.2.2 e (covers e entry running)

theorem finishClose_sameJobs (w₀ : World) (v : Nat) (error : Option Fault) :
    ⦃fun w => ⌜SameJobs w₀ w⌝⦄ finishClose v error ⦃⇓ _ w => ⌜SameJobs w₀ w⌝⦄ := by
  mvcgen [finishClose]
  all_goals simp_all +zetaDelta [SameJobs, jobView]

theorem finishClose_quiet {v : Nat} (v' : Nat) (error : Option Fault) :
    ⦃fun w => ⌜w.Quiet v⌝⦄ finishClose v' error ⦃⇓ _ w => ⌜w.Quiet v⌝⦄ :=
  triple_of_run fun w quiet =>
    quiet.of_sameJobs (run_of_spec (finishClose_sameJobs w v' error) (SameJobs.refl w))

/-- A check of a closing venue answers only when no job runs, and then leaves it quiet. -/
theorem closeCheck_quiet (w₀ : World) (coh : w₀.jobView.Coherent) (v scope : Nat) (tick : Int) :
    ⦃fun w => ⌜w = w₀⌝⦄ closeCheck v scope tick ⦃⇓ next w => ⌜next = .exit → w.Quiet v⌝⦄ := by
  have finished := fun e => finishClose_sameJobs w₀ v e
  mvcgen [closeCheck, finished]
  case vc1 here _ _ => exact here ▸ SameJobs.refl _
  case vc2 _ here _ idle _ _ =>
    subst here
    exact fun same _ => (quiet_of_running coh idle).of_sameJobs same
  -- a running job left: the close waits
  case vc3 =>
    intro exited
    cases exited

/-- **A step of a close that answers leaves every job of the venue's table terminal**: a check
answers only when none runs, and at the deadline every running job is cancelled first. -/
theorem closeStep_quiet (w₀ : World) (coh : w₀.jobView.Coherent) (v scope : Nat) (tick : Int)
    (waiting : Bool) (r : Resume) :
    ⦃fun w => ⌜w = w₀⌝⦄ Chore.step (.close v scope tick waiting) r
      ⦃⇓ next w => ⌜next = .exit → w.Quiet v⌝⦄ := by
  have checked := fun tick => closeCheck_quiet w₀ coh v scope tick
  have cancelled := cancelJob_closing
  have finished := fun error => finishClose_quiet (v := v) v error
  mvcgen [Chore.step, checked, cancelled, finished, -closeStep_tracks, -cancelJob_tracks]
  case inv1 => exact ⇓ done w => ⌜Cancelling w₀ done.fst.prefix w⌝
  case vc2 here _ _ _ e _ split _ _ before _ _ step =>
    subst here
    have sorted : e ∈ _ := split ▸ List.mem_append_right _ List.mem_cons_self
    exact Cancelling.step coh (mem_running_iff.mp (List.mem_mergeSort.mp sorted)).1 before step
  case vc3 here _ _ => exact here ▸ Cancelling.start w₀
  case vc4 here _ _ _ _ after _ =>
    subst here
    exact after.quiet coh fun e entry running =>
      List.mem_mergeSort.mpr (mem_running_iff.mpr ⟨entry, running⟩)
  case vc5 => exact fun quiet _ => quiet

end World

/-- A close of a session's venue that is closed already answers at once, without error, and
changes nothing. -/
theorem Session.closeStep_of_closed {s : Session} {x : Venue} (found : s.world.venue? 0 = some x)
    (closed : x.closed = true) (timeout : Int) :
    s.closeStep timeout = (.obj [("error", .null)], s) := by
  simp [Session.closeStep, found, closed]

namespace EngineCall

open World

/-- **The worlds an interleaving of engine calls reaches from `w₀`**: calls in any order, and
between them stretches that keep every job and table and whether each venue is closed. -/
inductive Interleaving (w₀ : World) : World → Prop where
  | start : Interleaving w₀ w₀
  | call {w : World} (call : EngineCall) : Interleaving w₀ w → Interleaving w₀ (call.run.run w).2
  | idle {w w' : World} : Interleaving w₀ w → SameJobs w w' → w'.closedFlags = w.closedFlags →
      Interleaving w₀ w'

theorem Interleaving.reaches {w₀ w : World} (run : Interleaving w₀ w) : Reaches w₀ w := by
  induction run with
  | start => exact .start
  | call call _ reached => exact .call call reached
  | idle _ same _ reached => exact .idle reached same

/-- **No interleaving reopens a venue, or closes one.** -/
theorem Interleaving.closedFlags {w₀ w : World} (run : Interleaving w₀ w) :
    w.closedFlags = w₀.closedFlags := by
  -- induction on the run; each call is `engineCall_closedFlags`
  induction run with
  | start => rfl
  | call call _ kept => exact run_of_spec (engineCall_closedFlags _ call) kept
  | idle _ _ flags kept => exact flags.trans kept

end EngineCall

open World

end JobEngine

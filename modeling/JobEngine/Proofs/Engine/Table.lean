import JobEngine.Proofs.Engine.Coherence
import JobEngine.Proofs.Job.Lifecycle

/-!
# An engine's job tables agree with its jobs

Every operation of the engine that touches a job or a table moves the world's job view by one
operation of the table machine of `JobView`: a change of a job is `JobView.take`, creating a job
is `JobView.enter`, copying a remote job is `JobView.addCell`, and deleting a job is
`JobView.dropId`. Everything else the world does keeps the job view. So the invariant of the
table machine, `JobView.Coherent`, is an invariant of the engine, and the engine's reports
(`getJob`, `listJobs`, the HTTP API) read the jobs' own records.

## Main Definitions

* `World.Transition` — a change of a job that refuses a finished job, keeps the job's id and
  announces the record it stores: what every mutator of a job is.
* `World.Tracks` — the world still holds every entry and every job of a given view, and its
  tables are coherent if that view's were.

## Main Statements

* `World.changeHere_jobView` — a change of a job moves the job view exactly as `JobView.take`.
* Triples `⦃Tracks V₀⦄ op ⦃Tracks V₀⦄` for every operation of the engine but `deleteJob`.
-/

namespace JobEngine

open Std.Do

namespace World

/-! ## The job view, operation by operation -/

theorem jobView_cell? (w : World) (c : Nat) :
    w.jobView.cell? c = (w.cells[c]?).map JobCell.view := by
  simp [jobView, JobView.cell?]

theorem jobView_table (w : World) (v : Nat) :
    w.jobView.table v = ((w.venues[v]?).map (·.table)).getD [] := by
  simp [jobView, JobView.table]

/-- Giving a cell a new job is `setRecord`. -/
@[simp] theorem jobView_setJob (w : World) (c : Nat) (j : Job) :
    ({ w with cells := w.cells.modify c fun x => { x with job := j } } : World).jobView =
      w.jobView.setRecord c j.record := by
  simp only [jobView, JobView.setRecord, JobView.mk.injEq, and_true]
  apply Array.ext
  · simp
  · intro i _ _
    simp only [Array.getElem_map, Array.getElem_modify]
    split <;> rfl

/-- A venue's `tableUpdate` is `storeIn`. -/
@[simp] theorem jobView_tableUpdate (w : World) (v : Nat) (r : Record) :
    ({ w with venues := w.venues.modify v fun x => { x with table := x.table.map fun e =>
        if e.id == r.id && !e.record.isFinished then { e with record := r } else e } } :
      World).jobView = w.jobView.storeIn v r := by
  simp only [jobView, JobView.storeIn, JobView.mk.injEq, true_and]
  apply Array.ext
  · simp
  · intro i _ _
    simp only [Array.getElem_map, Array.getElem_modify]
    split <;> rfl

/-- The two changes of a job's update, when nothing runs between them. -/
@[simp] theorem jobView_setJob_tableUpdate (w : World) (c : Nat) (j : Job) (v : Nat)
    (r : Record) :
    ({ w with cells := w.cells.modify c fun x => { x with job := j },
              venues := w.venues.modify v fun x => { x with table := x.table.map fun e =>
                if e.id == r.id && !e.record.isFinished then { e with record := r } else e } } :
      World).jobView = (w.jobView.setRecord c j.record).storeIn v r := by
  rw [← jobView_setJob, ← jobView_tableUpdate]

/-- A new cell is `addCell`. -/
@[simp] theorem jobView_newCell (w : World) (x : JobCell) :
    ({ w with cells := w.cells.push x } : World).jobView = w.jobView.addCell x.view := by
  simp [jobView, JobView.addCell]

/-- Appending to a table is `addEntry`. -/
@[simp] theorem jobView_appendEntry (w : World) (v : Nat) (e : TableEntry) :
    ({ w with venues := w.venues.modify v fun x => { x with table := x.table ++ [e] } } :
      World).jobView = w.jobView.addEntry v e := by
  simp only [jobView, JobView.addEntry, JobView.mk.injEq, true_and]
  apply Array.ext
  · simp
  · intro i _ _
    simp only [Array.getElem_map, Array.getElem_modify]
    split <;> rfl

/-- Removing the entries under an id is `dropId`. -/
@[simp] theorem jobView_removeId (w : World) (v : Nat) (id : String) :
    ({ w with venues := w.venues.modify v fun x => { x with table := x.table.filter (·.id != id) } } :
      World).jobView = w.jobView.dropId v id := by
  simp only [jobView, JobView.dropId, JobView.mk.injEq, true_and]
  apply Array.ext
  · simp
  · intro i _ _
    simp only [Array.getElem_map, Array.getElem_modify]
    split <;> rfl

/-- What a triple from one exact state says about the run from it. -/
theorem run_of_triple {α : Type} {x : WorldM α} {w₀ : World} {Q : α → World → Prop}
    (spec : ⦃fun w => ⌜w = w₀⌝⦄ x ⦃⇓ a w => ⌜Q a w⌝⦄) : Q (x.run w₀).1 (x.run w₀).2 :=
  run_of_spec spec rfl

/-! ## Changing a job -/

/-- **A change of a job** that refuses a finished job, keeps the job's id and announces the
record it stores. -/
structure Transition (t : Job → Option (Job × Hook)) : Prop where
  refuses : ∀ j, j.isFinished = true → t j = none
  keepsId : ∀ j j' h, t j = some (j', h) → j'.record.id = j.record.id
  announces : ∀ j j' h, t j = some (j', h) → h.record = j'.record

/-- The job view after `changeHere c t`, step by step as the world takes it: the cell's new
record, and the table of the venue keeping it storing the hook's record. -/
def afterChange (w : World) (c : Nat) (t : Job → Option (Job × Hook)) : JobView :=
  match w.cells[c]? with
  | none => w.jobView
  | some cell =>
    match t cell.job with
    | none => w.jobView
    | some (j, h) =>
      match cell.keeper.venue? with
      | some v => (w.jobView.setRecord c j.record).storeIn v h.record
      | none => w.jobView.setRecord c j.record

/-- **A change of a job moves the job view as `afterChange` says**, whatever hooks run. -/
theorem changeHere_jobView (w₀ : World) (c : Nat) (t : Job → Option (Job × Hook)) :
    ⦃fun w => ⌜w = w₀⌝⦄ changeHere c t ⦃⇓ _ w => ⌜w.jobView = w₀.afterChange c t⌝⦄ := by
  mvcgen [changeHere, tableUpdate, modifyCell, modifyVenue]
  -- the hooks keep the view; the two writes are rewritten into the table machine first,
  -- before `simp` reshapes the table's update function
  all_goals try simp only [SameJobs] at *
  all_goals try simp +zetaDelta only [jobView_tableUpdate, jobView_setJob_tableUpdate] at *
  all_goals simp_all [afterChange, JobView.setRecord, Hook.record, Keeper.venue?]

/-- For a transition, `afterChange` is the table machine's `take`. -/
theorem afterChange_eq_take {t : Job → Option (Job × Hook)} (transition : Transition t)
    {w : World} {c : Nat} {cell : JobCell} (found : w.cells[c]? = some cell) {j : Job}
    {h : Hook} (fired : t cell.job = some (j, h)) :
    w.afterChange c t = w.jobView.take c j.record := by
  have cellView : w.jobView.cell? c = some (cell.job.record, cell.keeper.venue?) := by
    simp [jobView_cell?, found, JobCell.view]
  unfold afterChange JobView.take
  simp only [found, fired, cellView, transition.announces _ _ _ fired]
  cases cell.keeper.venue? <;> rfl

/-! ## The invariant -/

/-- **The invariant of an engine's runs**: `w` still holds every entry and every job of `V₀`,
the view some earlier point of the run had, terminal ones unchanged; and its tables agree with
its jobs if `V₀`'s did. -/
def Tracks (V₀ : JobView) (w : World) : Prop :=
  V₀.Retains w.jobView ∧ (V₀.Coherent → w.jobView.Coherent)

theorem Tracks.start {V₀ : JobView} {w : World} (here : w.jobView = V₀) : Tracks V₀ w := by
  rw [Tracks, here]
  exact ⟨JobView.Retains.refl V₀, id⟩

theorem Tracks.sameJobs {V₀ : JobView} {w w' : World} (tracks : Tracks V₀ w)
    (same : SameJobs w w') : Tracks V₀ w' := by
  unfold Tracks SameJobs at *
  rw [same]
  exact tracks

/-- A transition of a job keeps the invariant. -/
theorem Tracks.afterChange {V₀ : JobView} {w : World} (tracks : Tracks V₀ w)
    {t : Job → Option (Job × Hook)} (transition : Transition t) (c : Nat) :
    V₀.Retains (w.afterChange c t) ∧ (V₀.Coherent → (w.afterChange c t).Coherent) := by
  cases found : w.cells[c]? with
  | none =>
    simp only [World.afterChange, found]
    exact tracks
  | some cell =>
    cases fired : t cell.job with
    | none =>
      simp only [World.afterChange, found, fired]
      exact tracks
    | some change =>
      -- the job took a record: it was running, and the record keeps its id
      obtain ⟨j, h⟩ := change
      rw [afterChange_eq_take transition found fired]
      have running : cell.job.isFinished = false := by
        cases finished : cell.job.isFinished
        · rfl
        · simp [transition.refuses _ finished] at fired
      have cellView : w.jobView.cell? c = some (cell.job.record, cell.keeper.venue?) := by
        simp [jobView_cell?, found, JobCell.view]
      have viewRunning : ∀ x, w.jobView.cell? c = some x → x.1.isFinished = false := by
        intro x held
        rw [cellView] at held
        cases held
        exact running
      exact ⟨tracks.1.trans (JobView.retains_take _ viewRunning _),
        fun coherent => (tracks.2 coherent).take cellView running (transition.keepsId _ _ _ fired)⟩

theorem changeHere_tracks (V₀ : JobView) (c : Nat) {t : Job → Option (Job × Hook)}
    (transition : Transition t) :
    ⦃fun w => ⌜Tracks V₀ w⌝⦄ changeHere c t ⦃⇓ _ w => ⌜Tracks V₀ w⌝⦄ := by
  apply triple_of_run
  intro w tracks
  rw [Tracks, run_of_triple (changeHere_jobView w c t)]
  exact tracks.afterChange transition c

/-! ## The mutators of a job are transitions -/

theorem transition_apply (now : Int) (r : Record) : Transition (fun j => j.apply now r) where
  refuses j finished := by
    rw [Job.apply_eq, Job.takes_of_isFinished finished]
    rfl
  keepsId j j' h taken := by
    rw [Job.apply_eq] at taken
    split at taken
    · cases taken
      rfl
    · cases taken
  announces j j' h taken := by
    rw [Job.apply_eq] at taken
    split at taken
    · cases taken
      simp
    · cases taken

theorem transition_setStatus (now : Int) (st : Status) :
    Transition (fun j => j.setStatus now st) where
  refuses j finished := by
    unfold Job.setStatus
    split
    · rfl
    · exact (transition_apply now _).refuses j finished
  keepsId j j' h taken := by
    unfold Job.setStatus at taken
    split at taken
    · cases taken
    · exact (transition_apply now _).keepsId j j' h taken
  announces j j' h taken := by
    unfold Job.setStatus at taken
    split at taken
    · cases taken
    · exact (transition_apply now _).announces j j' h taken

theorem transition_fail (now : Int) (message : String) :
    Transition (fun j => j.fail now message) where
  refuses j := (transition_apply now _).refuses j
  keepsId j := (transition_apply now _).keepsId j
  announces j := (transition_apply now _).announces j

/-- Cancelling signals the job before the transition, which the record does not see. -/
theorem transition_cancel (now : Int) : Transition (fun j => j.cancel now) where
  refuses j finished := by
    simp [Job.cancel, finished]
  keepsId j j' h taken := by
    unfold Job.cancel at taken
    split at taken
    · cases taken
    · exact (transition_apply now _).keepsId { j with cancelSignalled := true } j' h taken
  announces j j' h taken := by
    unfold Job.cancel at taken
    split at taken
    · cases taken
    · exact (transition_apply now _).announces { j with cancelSignalled := true } j' h taken

theorem transition_complete (now : Int) (output : Value) :
    Transition (fun j => (j.complete now output).toOption) where
  refuses j finished := by
    simp [Job.complete, finished, Except.toOption]
  keepsId j j' h taken := by
    unfold Job.complete at taken
    split at taken
    · cases taken
    · split at taken
      · next applied =>
        cases taken
        exact (transition_apply now _).keepsId _ _ _ applied
      · cases taken
  announces j j' h taken := by
    unfold Job.complete at taken
    split at taken
    · cases taken
    · split at taken
      · next applied =>
        cases taken
        exact (transition_apply now _).announces _ _ _ applied
      · cases taken

/-! ## The writes of the engine, as specs on the job view -/

/-- A change of a venue that keeps its table keeps the job view. -/
theorem modifyVenue_jobView (V : JobView) (v : Nat) {f : Venue → Venue}
    (keeps : ∀ x, (f x).table = x.table) :
    ⦃fun w => ⌜w.jobView = V⌝⦄ modifyVenue v f ⦃⇓ _ w => ⌜w.jobView = V⌝⦄ := by
  mvcgen [modifyVenue]
  subst V
  simp +zetaDelta only [jobView, JobView.mk.injEq, true_and]
  exact venues_modify_table _ _ _ keeps

@[spec] theorem newCell_jobView (V : JobView) (x : JobCell) :
    ⦃fun w => ⌜w.jobView = V⌝⦄ newCell x
      ⦃⇓ c w => ⌜c = V.cells.size ∧ w.jobView = V.addCell x.view⌝⦄ := by
  mvcgen [newCell]
  subst V
  simp +zetaDelta [jobView, JobView.addCell]

@[spec] theorem appendEntry_jobView (V : JobView) (v : Nat) (e : TableEntry) :
    ⦃fun w => ⌜w.jobView = V⌝⦄ modifyVenue v (fun x => { x with table := x.table ++ [e] })
      ⦃⇓ _ w => ⌜w.jobView = V.addEntry v e⌝⦄ := by
  mvcgen [modifyVenue]
  subst V
  exact jobView_appendEntry _ _ _

/-- The job view after `deleteJob v id`: the entries under `id` leave the table when the
entry found under `id` is terminal. -/
def afterDelete (w : World) (v : Nat) (id : String) : JobView :=
  match (w.venue? v).bind (·.lookup id) with
  | some e => if e.record.isFinished then w.jobView.dropId v id else w.jobView
  | none => w.jobView

theorem deleteJob_jobView (w₀ : World) (v : Nat) (id : String) :
    ⦃fun w => ⌜w = w₀⌝⦄ deleteJob v id ⦃⇓ _ w => ⌜w.jobView = w₀.afterDelete v id⌝⦄ := by
  mvcgen [deleteJob, modifyVenue]
  all_goals try simp +zetaDelta only [jobView_removeId] at *
  all_goals subst w₀
  all_goals unfold afterDelete
  all_goals split <;> simp_all

theorem venue?_table {w : World} {v : Nat} {x : Venue} (found : w.venue? v = some x) :
    w.jobView.table v = x.table := by
  rw [jobView_table]
  rw [venue?] at found
  simp [found]

theorem venue?_lt {w : World} {v : Nat} {x : Venue} (found : w.venue? v = some x) :
    v < w.jobView.tables.size := by
  simp only [jobView, Array.size_map]
  exact (Array.getElem?_eq_some_iff.mp found).1

/-- **Entering a job under an id the venue's table does not hold** keeps the invariant. -/
theorem Tracks.entered {V₀ : JobView} {w : World}
    (tracks : V₀.Retains w.jobView ∧ (V₀.Coherent → w.jobView.Coherent)) {v : Nat} {x : Venue}
    (found : w.venue? v = some x) {id : String} (fresh : ¬(x.lookup id).isSome = true)
    {r : Record} (keyed : r.id = id) :
    V₀.Retains ((w.jobView.addCell (r, some v)).addEntry v ⟨id, w.jobView.cells.size, r⟩) ∧
      (V₀.Coherent →
        ((w.jobView.addCell (r, some v)).addEntry v ⟨id, w.jobView.cells.size, r⟩).Coherent) := by
  obtain ⟨retains, coherent⟩ := tracks
  have inside := venue?_lt found
  have freshIds : r.id ∉ (w.jobView.table v).map (·.id) := by
    rw [venue?_table found, keyed]
    intro listed
    obtain ⟨e, found', keyedBy⟩ := List.mem_map.mp listed
    exact fresh (List.find?_isSome.mpr ⟨e, found', by simp [keyedBy]⟩)
  have entered : (w.jobView.addCell (r, some v)).addEntry v ⟨id, w.jobView.cells.size, r⟩ =
      w.jobView.enter v r := by
    rw [← keyed]
    rfl
  rw [entered]
  exact ⟨retains.trans (JobView.retains_enter _ inside r),
    fun coherent₀ => (coherent coherent₀).enter inside freshIds⟩

/-- A new cell that no venue keeps is no table's business. -/
theorem Tracks.addCell {V₀ : JobView} {w w' : World} (tracks : Tracks V₀ w)
    {x : Record × Option Nat} (unkept : x.2 = none) (added : w'.jobView = w.jobView.addCell x) :
    Tracks V₀ w' := by
  rw [Tracks, added]
  exact ⟨tracks.1.trans (JobView.retains_addCell _ _),
    fun coherent => (tracks.2 coherent).addCell unkept⟩

/-! ## The engine's operations keep the invariant -/

section Operations

variable (V₀ : JobView)

/-- **A change of a job keeps the invariant**, including the change a copy of a remote job
passes on to the job it follows. -/
theorem change_tracks (c : Nat) {t : Job → Option (Job × Hook)}
    (transition : Transition t) :
    ⦃fun w => ⌜Tracks V₀ w⌝⦄ change c t ⦃⇓ _ w => ⌜Tracks V₀ w⌝⦄ := by
  have here := changeHere_tracks V₀ c transition
  have passed := fun (ms : Int) (r : Record) (target : Nat) =>
    changeHere_tracks V₀ target
      (transition_apply ms { status := r.status, output := r.output, error := r.error })
  mvcgen [change, here, passed]

@[spec] theorem updateJob_tracks (c : Nat) (r : Record) :
    ⦃fun w => ⌜Tracks V₀ w⌝⦄ updateJob c r ⦃⇓ _ w => ⌜Tracks V₀ w⌝⦄ := by
  have step := fun (ms : Int) => change_tracks V₀ c (transition_apply ms r)
  mvcgen [updateJob, step]

@[spec] theorem setStatus_tracks (c : Nat) (st : Status) :
    ⦃fun w => ⌜Tracks V₀ w⌝⦄ setStatus c st ⦃⇓ _ w => ⌜Tracks V₀ w⌝⦄ := by
  have step := fun (ms : Int) => change_tracks V₀ c (transition_setStatus ms st)
  mvcgen [setStatus, step]

@[spec] theorem failJob_tracks (c : Nat) (message : String) :
    ⦃fun w => ⌜Tracks V₀ w⌝⦄ failJob c message ⦃⇓ _ w => ⌜Tracks V₀ w⌝⦄ := by
  have step := fun (ms : Int) => change_tracks V₀ c (transition_fail ms message)
  mvcgen [failJob, step]

@[spec] theorem completeJob_tracks (c : Nat) (output : Value) :
    ⦃fun w => ⌜Tracks V₀ w⌝⦄ completeJob c output ⦃⇓ _ w => ⌜Tracks V₀ w⌝⦄ := by
  have step := fun (ms : Int) => change_tracks V₀ c (transition_complete ms output)
  mvcgen [completeJob, step]

@[spec] theorem finishWith_tracks (c : Nat) (o : Outcome) :
    ⦃fun w => ⌜Tracks V₀ w⌝⦄ finishWith c o ⦃⇓ _ w => ⌜Tracks V₀ w⌝⦄ := by
  cases o <;> mvcgen [finishWith]

@[spec] theorem cancelJob_tracks (c : Nat) :
    ⦃fun w => ⌜Tracks V₀ w⌝⦄ cancelJob c ⦃⇓ _ w => ⌜Tracks V₀ w⌝⦄ := by
  have step := fun (ms : Int) => change_tracks V₀ c (transition_cancel ms)
  mvcgen [cancelJob, step]

@[spec] theorem updateJobStatus_tracks (v : Nat) (r : Record) :
    ⦃fun w => ⌜Tracks V₀ w⌝⦄ updateJobStatus v r ⦃⇓ _ w => ⌜Tracks V₀ w⌝⦄ := by
  mvcgen [updateJobStatus]

@[spec] theorem cancelJobById_tracks (v : Nat) (id : String) :
    ⦃fun w => ⌜Tracks V₀ w⌝⦄ cancelJobById v id ⦃⇓ _ w => ⌜Tracks V₀ w⌝⦄ := by
  mvcgen [cancelJobById]

@[spec] theorem startJob_tracks (v : Nat) (ref : String) (input : Value) (md : Option Metadata)
    (adapter : String) (cb : Option Callback) :
    ⦃fun w => ⌜Tracks V₀ w⌝⦄ startJob v ref input md adapter cb ⦃⇓ _ w => ⌜Tracks V₀ w⌝⦄ := by
  have ids := fun (V : JobView) (g : IdGenerator) =>
    modifyVenue_jobView V v (f := fun x => { x with ids := g }) fun _ => rfl
  mvcgen [startJob, ids]
  -- every path but the one that enters the job keeps the job view
  all_goals try simp only [SameJobs, Tracks] at *
  all_goals simp_all only [JobCell.view, Keeper.venue?, and_self, implies_true]
  all_goals exact Tracks.entered ‹_› ‹_› ‹_› rfl

/-- Copying a remote job keeps the invariant: the copy follows a job or nobody, never a
venue. -/
theorem newCopy_tracks (rec : Record) {keeper : Keeper} (unkept : keeper.venue? = none) :
    ⦃fun w => ⌜Tracks V₀ w⌝⦄ newCopy rec keeper ⦃⇓ _ w => ⌜Tracks V₀ w⌝⦄ := by
  mvcgen [newCopy]
  exact fun _ added => Tracks.addCell ‹_› unkept added

@[spec] theorem runAdapter_tracks (v : Nat) (a : Adapter) (c scope : Nat) (operation : String)
    (md : Metadata) (input : Value) :
    ⦃fun w => ⌜Tracks V₀ w⌝⦄ runAdapter v a c scope operation md input
      ⦃⇓ _ w => ⌜Tracks V₀ w⌝⦄ := by
  mvcgen [runAdapter]
  all_goals simp_all [SameJobs, Tracks]

/-- **Invoking an operation keeps the invariant**: the job is entered under a fresh id, then
changed only through its transitions. -/
@[spec] theorem invoke_tracks (v : Nat) (ref : String) (input : Value) (cb : Option Callback)
    (given : Option Metadata) :
    ⦃fun w => ⌜Tracks V₀ w⌝⦄ invoke v ref input cb given ⦃⇓ _ w => ⌜Tracks V₀ w⌝⦄ := by
  mvcgen [invoke]

/-- **A step of closing a venue keeps the invariant**: at the deadline it cancels the running
jobs one by one, each a transition. -/
@[spec] theorem closeStep_tracks (v scope : Nat) (tick : Int) (waiting : Bool) (r : Resume) :
    ⦃fun w => ⌜Tracks V₀ w⌝⦄ Chore.step (.close v scope tick waiting) r
      ⦃⇓ _ w => ⌜Tracks V₀ w⌝⦄ := by
  mvcgen [Chore.step, closeCheck, finishClose]
  case inv1 => exact ⇓ _ w => ⌜Tracks V₀ w⌝
  all_goals try simp only [SameJobs] at *
  all_goals simp_all +zetaDelta [Tracks, jobView]

end Operations

end World

end JobEngine

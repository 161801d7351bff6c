import JobEngine.Proofs.Engine.Hooks

/-!
# Refused calls on a job table change nothing

An engine answers three calls about a job by its id: cancel it, delete it, and apply an update
to its record. Each looks the id up in the venue's table first and refuses what the table rules
out: an id it does not hold, a job that has finished (for a deletion, one that has not). This
module shows that a refused call changes nothing at all, that which call is refused is decided
by the table, and what an accepted call does.

The table is a copy: a job holds its own record, and the table the one it was last told of.
The answers rest on the two agreeing (`JobView.Coherent`, which every run keeps), and on two
facts about the jobs a venue keeps, proved here to hold along every run: each holds one of the
ten statuses, and each runs under a scope of its own, which exists and is not the root.

## Main Definitions

* `World.KeptJobs` — the jobs a venue keeps hold known statuses and run under scopes of their
  own.
* `World.Cancelled` — what cancelling a running job leaves.
* `World.CancelContract`, `World.DeleteContract`, `World.UpdateContract` — what each call does,
  by what the table holds under the id.

## Main Statements

* `World.keptJobs_invariant` — every run keeps `KeptJobs`.
* `World.cancelJobById_missing`, `World.cancelJobById_finished`,
  `World.cancelJobById_running` — the three answers to a cancellation.
* `World.deleteJob_missing`, `World.deleteJob_running`, `World.deleteJob_finished` — the three
  answers to a deletion.
* `World.updateJobStatus_missing`, `World.updateJobStatus_finished`,
  `World.updateJobStatus_running` — an update is applied exactly when the table holds the job,
  it runs and the status asked for is empty or known, and is then the job's own update.
* `table_calls_atomic` — the three contracts along every run of an engine.
-/

namespace JobEngine

namespace Scopes

/-- **Cancelling a scope ends it**, unless it is the root or does not exist. -/
theorem isEnded_cancel_self (s : Scopes) {i : Nat} (nonRoot : i ≠ 0) (inside : i < s.items.size)
    (e : Ending) : (s.cancel i e).2.isEnded i = true := by
  unfold cancel isEnded
  rw [if_neg nonRoot]
  -- the first step of the work list looks at `i` itself
  simp only [endAll]
  split
  · next skipped =>
    simp only [Bool.or_eq_true, decide_eq_true_eq] at skipped
    have ended : (s.ending? i).isSome = true := by
      simpa [ending?] using skipped.resolve_right (by omega)
    exact isSome_endAll e _ _ _ s ended
  · exact isSome_endAll e _ _ _ _ (by simp [ending?, get_set, inside])

end Scopes

@[simp] theorem Keeper.scope?_bare (k : Keeper) : k.bare.scope? = k.scope? := by
  cases k <;> rfl

theorem Keeper.scope?_of_venue? {k : Keeper} (unkept : k.venue? = Option.none) :
    k.scope? = Option.none := by
  cases k <;> simp_all [Keeper.venue?, Keeper.scope?]

@[simp] theorem Keeper.size_scopesAfter (k : Keeper) (h : Hook) (scopes : Scopes) :
    (k.scopesAfter h scopes).items.size = scopes.items.size := by
  cases k <;> cases h <;> simp [Keeper.scopesAfter]

/-! ## The jobs a venue keeps -/

/-- A cell whose job, if a venue keeps it, holds one of the ten statuses, and runs under one of
the first `n` scopes other than the root. -/
def JobCell.KeptWell (n : Nat) (x : JobCell) : Prop :=
  (x.keeper.venue?.isSome → x.job.record.status.isValid = true) ∧
    ∀ s, x.keeper.scope? = some s → 0 < s ∧ s < n

/-- Being kept well looks at the job's record and at the keeper but for its numbering, and
holds under more scopes. -/
theorem JobCell.KeptWell.of_same {n n' : Nat} {x y : JobCell} (kept : x.KeptWell n)
    (record : y.job.record = x.job.record) (keeper : y.keeper.bare = x.keeper.bare)
    (grown : n ≤ n') : y.KeptWell n' := by
  have venue : y.keeper.venue? = x.keeper.venue? := by
    rw [← Keeper.venue?_bare, keeper, Keeper.venue?_bare]
  have scope : y.keeper.scope? = x.keeper.scope? := by
    rw [← Keeper.scope?_bare, keeper, Keeper.scope?_bare]
  refine ⟨fun isKept => ?_, fun s owned => ?_⟩
  · rw [record]
    exact kept.1 (venue ▸ isKept)
  · have := kept.2 s (scope ▸ owned)
    omega

/-- A cell of cells that agree with others under `f` agrees under `f` with the other cell at
its index. -/
theorem JobCell.exists_of_map_eq {β : Type} {f : JobCell → β} {cells cells' : Array JobCell}
    (same : cells'.map f = cells.map f) {c : Nat} {y : JobCell} (found : cells'[c]? = some y) :
    ∃ x, cells[c]? = some x ∧ f x = f y := by
  have atIndex := congrArg (·[c]?) same
  simp only [Array.getElem?_map, found, Option.map_some] at atIndex
  obtain ⟨x, found₀, mapped⟩ := Option.map_eq_some_iff.mp atIndex.symm
  exact ⟨x, found₀, mapped⟩

/-- Cells that are, but for how far their callbacks have numbered, cells kept well are kept
well under as many scopes or more. -/
theorem JobCell.keptWell_of_bare {cells cells' : Array JobCell} {n n' : Nat}
    (same : cells'.map JobCell.bare = cells.map JobCell.bare) (grown : n ≤ n')
    (kept : ∀ (c : Nat) (x : JobCell), cells[c]? = some x → x.KeptWell n) :
    ∀ (c : Nat) (y : JobCell), cells'[c]? = some y → y.KeptWell n' := by
  intro c y found
  obtain ⟨x, found₀, bare⟩ := JobCell.exists_of_map_eq same found
  exact (kept c x found₀).of_same (congrArg (·.job.record) bare).symm
    (congrArg JobCell.keeper bare).symm grown

/-! ## Cancelling a job, and removing an entry -/

namespace Record

/-- The record a job holds once cancelled at `now`: `CANCELLED`, updated at `now`. -/
def cancelledAt (r : Record) (now : Int) : Record :=
  ({ r with status := .cancelled, updated := 0 } : Record).mergeInto now r

@[simp] theorem status_cancelledAt (r : Record) (now : Int) :
    (r.cancelledAt now).status = .cancelled := by
  simp [cancelledAt, Status.orCurrent_of_ne]

@[simp] theorem id_cancelledAt (r : Record) (now : Int) : (r.cancelledAt now).id = r.id := rfl

theorem isFinished_cancelledAt (r : Record) (now : Int) :
    (r.cancelledAt now).isFinished = true := by
  simp [isFinished, Status.isFinished]

end Record

/-- **Cancelling a running job** signals it and stores its record as cancelled now, which the
finish announces. -/
theorem Job.cancel_of_running {j : Job} (running : j.isFinished = false) (now : Int) :
    j.cancel now = some ({ j with record := j.record.cancelledAt now, cancelSignalled := true },
      .finish (j.record.cancelledAt now)) := by
  have signalled : ({ j with cancelSignalled := true } : Job).isFinished = false := running
  have taken : ({ j with cancelSignalled := true } : Job).takes
      { j.record with status := .cancelled, updated := 0 } = true :=
    Job.takes_of_status_isFinished signalled rfl
  rw [Job.cancel, if_neg (by simp [running]), Job.apply_eq, if_pos taken]
  show some (_, Hook.announce (j.record.cancelledAt now)) = _
  rw [Hook.announce_of_isFinished (Record.isFinished_cancelledAt _ _)]
  rfl

/-- Changing an array at one index by two functions that agree on the element there gives one
array. -/
theorem Array.modify_congr {α : Type} {xs : Array α} {i : Nat} {x : α} (found : xs[i]? = some x)
    {f g : α → α} (same : f x = g x) : xs.modify i f = xs.modify i g := by
  apply Array.ext_getElem?
  intro j
  simp only [Array.getElem?_modify]
  split
  · next here =>
    subst here
    simp [found, same]
  · rfl

/-- In a table whose ids are unique, the entries under another id than that of `e` are the
table without `e`. -/
theorem TableEntry.filter_id_of_unique {table : List TableEntry}
    (unique : (table.map (·.id)).Nodup) {e : TableEntry} (member : e ∈ table) :
    ∃ before after, table = before ++ e :: after ∧
      table.filter (·.id != e.id) = before ++ after := by
  obtain ⟨before, after, split⟩ := List.append_of_mem member
  refine ⟨before, after, split, ?_⟩
  subst split
  rw [List.map_append, List.map_cons, List.nodup_append, List.nodup_cons] at unique
  obtain ⟨-, ⟨notAfter, -⟩, apart⟩ := unique
  -- no entry before or after `e` shares its id
  have keepBefore : before.filter (·.id != e.id) = before := by
    refine List.filter_eq_self.mpr fun y member => ?_
    have other := apart y.id (List.mem_map_of_mem member) e.id List.mem_cons_self
    simpa using other
  have keepAfter : after.filter (·.id != e.id) = after := by
    refine List.filter_eq_self.mpr fun y member => ?_
    have other : y.id ≠ e.id := fun same => notAfter (same ▸ List.mem_map_of_mem member)
    simpa using other
  simp [List.filter_append, keepBefore, keepAfter]

/-- A status asked for by an update, of a job holding one of the ten: what the job takes is one
of the ten exactly when the status asked for is empty or one of them. -/
theorem Status.isValid_orCurrent {st current : Status} (known : current.isValid = true) :
    (st.orCurrent current).isValid = true ↔ st = .unknown "" ∨ st.isValid = true := by
  by_cases empty : st = .unknown ""
  · simp [empty, known]
  · simp [Status.orCurrent_of_ne empty, empty]

namespace World

/-- **The jobs a venue keeps are kept well**: there is a root scope, and every job a venue
keeps holds one of the ten statuses and runs under a scope that exists and is not the root. -/
structure KeptJobs (w : World) : Prop where
  rooted : 0 < w.scopes.items.size
  cells : ∀ (c : Nat) (x : JobCell), w.cells[c]? = some x → x.KeptWell w.scopes.items.size

/-- A change of a job by `Job.apply` keeps the jobs kept well: the job it changes takes a
record with one of the ten statuses, and the scopes stay as many. -/
theorem keptJobs_changed (c : Nat) {t : Job → Option (Job × Hook)} (transition : Transition t)
    (byApply : Job.ByApply t) (w : World) (kept : w.KeptJobs) :
    ((changeHere c t).run w).2.KeptJobs := by
  by_cases fires : ∃ cell j h, w.cells[c]? = some cell ∧ t cell.job = some (j, h)
  · obtain ⟨cell, j, h, found, fired⟩ := fires
    obtain ⟨-, cells, -, -, scopes⟩ := run_of_triple (changeHere_hooks w found fired)
    have known : j.record.status.isValid = true :=
      transition.announces _ _ _ fired ▸ byApply.hooksKnown _ _ _ fired
    have size : ((changeHere c t).run w).2.scopes.items.size = w.scopes.items.size := by
      rw [scopes, Keeper.size_scopesAfter]
    refine ⟨size ▸ kept.rooted, JobCell.keptWell_of_bare cells size.ge fun c' x held => ?_⟩
    rw [Array.getElem?_modify] at held
    split at held
    · -- the changed cell: its keeper stays, its job takes a known status
      next same =>
      subst same
      rw [found] at held
      cases held
      exact ⟨fun _ => known, (kept.cells c cell found).2⟩
    · exact kept.cells c' x held
  · -- a change that does not fire changes nothing
    have refused : ∀ cell, w.cells[c]? = some cell → t cell.job = none := by
      intro cell found
      cases fired : t cell.job with
      | none => rfl
      | some change => exact absurd ⟨cell, change.1, change.2, found, fired⟩ fires
    rw [changeHere_run_refused refused]
    exact kept

/-- Starting a job keeps the jobs kept well: the new job is `PENDING`, under the next scope. -/
theorem keptJobs_started (v : Nat) (ref : String) (input : Value) (md : Option Metadata)
    (adapter : String) (cb : Option Callback) (w : World) (kept : w.KeptJobs) :
    ((startJob v ref input md adapter cb).run w).2.KeptJobs := by
  obtain ⟨-, grown, same | ⟨job, n, pending, cells, -, fresh⟩⟩ :=
    run_of_triple (startJob_hooks w v ref input md adapter cb)
  · exact ⟨Nat.lt_of_lt_of_le kept.rooted grown,
      JobCell.keptWell_of_bare same.1 grown kept.cells⟩
  · refine ⟨Nat.lt_of_lt_of_le kept.rooted grown,
      JobCell.keptWell_of_bare cells (Nat.le_refl _) fun c x held => ?_⟩
    rw [Array.getElem?_push] at held
    split at held
    · -- the new job runs under the scope created for it
      cases held
      refine ⟨fun _ => by simp [pending, Status.isValid], fun s owned => ?_⟩
      simp only [Keeper.scope?, Option.some.injEq] at owned
      exact ⟨owned ▸ kept.rooted, owned ▸ fresh⟩
    · exact ((kept.cells c x held).of_same rfl rfl grown)

/-- **Every run keeps the jobs a venue keeps kept well.** -/
theorem keptJobs_invariant : Invariant KeptJobs where
  aside {w w'} aside kept := by
    obtain ⟨views, -, keepers, grown, -⟩ := aside_iff.mp aside
    refine ⟨Nat.lt_of_lt_of_le kept.rooted grown, fun c y found => ?_⟩
    obtain ⟨x, found₀, view⟩ := JobCell.exists_of_map_eq views found
    obtain ⟨x', found₁, keeper⟩ := JobCell.exists_of_map_eq keepers found
    rw [found₀, Option.some.injEq] at found₁
    subst found₁
    exact (kept.cells c x found₀).of_same (congrArg Prod.fst view).symm keeper.symm grown
  changed := keptJobs_changed
  started := keptJobs_started
  copied rec keeper unkept w kept := by
    rw [newCopy_run]
    refine ⟨kept.rooted, fun c x held => ?_⟩
    rw [Array.getElem?_push] at held
    split at held
    · -- the copy is kept by no venue and runs under no scope of one
      cases held
      exact ⟨by simp [unkept], by simp [Keeper.scope?_of_venue? unkept]⟩
    · exact kept.cells c x held
  deleted v id w kept := by
    obtain ⟨cells, scopes, -⟩ := deleteJob_run v id w
    refine ⟨scopes ▸ kept.rooted, fun c x held => ?_⟩
    rw [scopes]
    exact kept.cells c x (cells ▸ held)

/-! ## Reading the table -/

/-- A venue's lookup reads its table in the job view. -/
theorem lookup_eq_find (w : World) (v : Nat) (id : String) :
    (w.venue? v).bind (·.lookup id) = (w.jobView.table v).find? (·.id == id) := by
  rw [jobView_table, venue?]
  cases w.venues[v]? <;> rfl

section Coherent

variable {w : World} (coh : w.jobView.Coherent) {v : Nat} {id : String} {e : TableEntry}
  (found : (w.venue? v).bind (·.lookup id) = some e)
include coh found

/-- The entry found under an id is keyed by it and names a cell whose job holds the entry's
record and is kept by the venue. -/
theorem cell_of_lookup : e.id = id ∧ ∃ cell, w.cells[e.cell]? = some cell ∧
    cell.job.record = e.record ∧ cell.keeper.venue? = some v := by
  rw [lookup_eq_find] at found
  have keyed : e.id = id := by simpa using List.find?_some found
  have viewed := (coh.mirrors v e (List.mem_of_find?_eq_some found)).2
  rw [jobView_cell?] at viewed
  obtain ⟨cell, atCell, held⟩ := Option.map_eq_some_iff.mp viewed
  exact ⟨keyed, cell, atCell, (Prod.mk.inj held).1, (Prod.mk.inj held).2⟩

/-- The job of the entry found under an id has finished exactly when the entry has. -/
theorem isFinished_lookup : w.isFinished e.cell = e.record.isFinished := by
  rw [isFinished, recordOf_lookup coh found]

/-- **Once the running job of an entry takes a record under its id, the table holds the record
under the job's id.** -/
theorem lookup_take (running : e.record.isFinished = false) {r : Record}
    (sameId : r.id = e.record.id) {w' : World} (taken : w'.jobView = w.jobView.take e.cell r) :
    (w'.venue? v).bind (·.lookup id) = some { e with record := r } := by
  rw [lookup_eq_find] at found ⊢
  obtain ⟨keyed, cell⟩ := coh.mirrors v e (List.mem_of_find?_eq_some found)
  rw [taken, JobView.take, cell]
  -- storing keeps every id, so the same entry is found, and it takes `r`
  simp only [JobView.table_storeIn, JobView.table_setRecord, if_true, List.find?_map,
    Function.comp_def, TableEntry.store_id, found, Option.map_some,
    TableEntry.store_of_id (keyed.trans sameId.symm) running]

end Coherent

/-! ## Changing the job of a venue -/

/-- A change of the job of a venue passes nothing on: it answers that it fired. -/
theorem change_run_of_venue {w : World} {c : Nat} {cell : JobCell}
    (found : w.cells[c]? = some cell) {t : Job → Option (Job × Hook)} {j : Job} {h : Hook}
    (fired : t cell.job = some (j, h)) (kept : cell.keeper.venue?.isSome = true) :
    (change c t).run w = (true, ((changeHere c t).run w).2) := by
  have returned := (run_of_triple (changeHere_hooks w found fired)).1
  obtain ⟨v, a, s, n, keeper⟩ : ∃ v a s n, cell.keeper = .venue v a s n := by
    cases k : cell.keeper <;> simp_all [Keeper.venue?]
  rw [keeper] at returned
  unfold change
  rw [StateT.run_bind, show (changeHere c t).run w =
    (some (.venue v a s n, h), ((changeHere c t).run w).2) from Prod.ext returned rfl]
  rfl

/-- A change that does not fire answers so and changes nothing. -/
theorem change_run_refused {w : World} {c : Nat} {t : Job → Option (Job × Hook)}
    (refused : ∀ cell, w.cells[c]? = some cell → t cell.job = none) :
    (change c t).run w = (false, w) := by
  unfold change
  rw [StateT.run_bind, changeHere_run_refused refused]
  rfl

/-! ## Cancelling -/

/-- **What cancelling the running job of entry `e` of venue `v` from `w` leaves**, as the answer
`result` and the world `w'`: the answer is the job's record as cancelled now, with no fault; the
job, its cancellation signalled, holds that record, and no other job changed; the table holds
the record under the job's id; and the job's finish hook ran once: the job's scope ended with
every scope below it, and a metered venue wrote one finished line. -/
structure Cancelled (w : World) (v : Nat) (e : TableEntry) (result : Record × Option Fault)
    (w' : World) : Prop where
  answered : result = ((w.recordOf e.cell).cancelledAt w.millis, none)
  cells : w'.cells.map JobCell.bare = (w.cells.modify e.cell fun x =>
    { x with job := { x.job with record := (w.recordOf e.cell).cancelledAt w.millis,
                                 cancelSignalled := true } }).map JobCell.bare
  stored : (w'.venue? v).bind (·.lookup e.id) =
    some { e with record := (w.recordOf e.cell).cancelledAt w.millis }
  hook : ∃ a s n, (w.cells[e.cell]?).map (·.keeper) = some (.venue v a s n) ∧
    w'.scopes = (w.scopes.cancel s .canceled).2 ∧ w'.scopes.isEnded s = true ∧
    w'.metrics.filter isJobLine = w.metrics.filter isJobLine ++
      (if w.metered v then [finishedLine a ((w.recordOf e.cell).cancelledAt w.millis)] else [])

theorem cancelJobById_missing {w : World} {v : Nat} {id : String}
    (missing : (w.venue? v).bind (·.lookup id) = none) :
    (cancelJobById v id).run w = (({}, some (.notFound "job" id)), w) := by
  simp only [cancelJobById, StateT.run_bind, StateT.run_get, pure_bind, missing]
  rfl

theorem deleteJob_missing {w : World} {v : Nat} {id : String}
    (missing : (w.venue? v).bind (·.lookup id) = none) :
    (deleteJob v id).run w = (some (.notFound "job" id), w) := by
  simp only [deleteJob, StateT.run_bind, StateT.run_get, pure_bind, missing]
  rfl

theorem updateJobStatus_missing {w : World} {v : Nat} {r : Record}
    (missing : (w.venue? v).bind (·.lookup r.id) = none) :
    (updateJobStatus v r).run w = (false, w) := by
  simp only [updateJobStatus, StateT.run_bind, StateT.run_get, pure_bind, missing]
  rfl

section Found

variable {w : World} (coh : w.jobView.Coherent) {v : Nat} {id : String} {e : TableEntry}
  (found : (w.venue? v).bind (·.lookup id) = some e)
include coh found

theorem cancelJobById_finished (finished : w.isFinished e.cell = true) :
    (cancelJobById v id).run w =
      ((w.recordOf e.cell, some (Fault.conflict "job" "job already finished")), w) := by
  rw [isFinished_lookup coh found] at finished
  simp only [cancelJobById, StateT.run_bind, StateT.run_get, pure_bind, found, finished, if_true]
  rfl

/-- Cancelling a running job is its change by `Job.cancel`, answered with the record it then
holds. -/
theorem cancelJobById_run_running (running : e.record.isFinished = false) :
    (cancelJobById v id).run w =
      ((((changeHere e.cell (·.cancel w.millis)).run w).2.recordOf e.cell, none),
        ((changeHere e.cell (·.cancel w.millis)).run w).2) := by
  obtain ⟨-, cell, atCell, record, keptBy⟩ := cell_of_lookup coh found
  have fired := Job.cancel_of_running (j := cell.job) (by rw [Job.isFinished, record, running])
    w.millis
  have changed := change_run_of_venue atCell fired (by simp [keptBy])
  simp only [cancelJobById, cancelJob, StateT.run_bind, StateT.run_get, pure_bind, found, running,
    Bool.false_eq_true, if_false, changed]
  rfl

/-- **Cancelling a running job cancels it**, with every effect of its finish once. -/
theorem cancelJobById_running (kept : w.KeptJobs) (running : w.isFinished e.cell = false) :
    w.Cancelled v e ((cancelJobById v id).run w).1 ((cancelJobById v id).run w).2 := by
  rw [isFinished_lookup coh found] at running
  obtain ⟨keyed, cell, atCell, record, keptBy⟩ := cell_of_lookup coh found
  obtain ⟨a, s, n, keeper⟩ : ∃ a s n, cell.keeper = .venue v a s n := by
    cases k : cell.keeper <;> simp_all [Keeper.venue?]
  have fired := Job.cancel_of_running (j := cell.job) (by rw [Job.isFinished, record, running])
    w.millis
  rw [record] at fired
  obtain ⟨-, cells, -, lines, scopes⟩ := run_of_triple (changeHere_hooks w atCell fired)
  have held : ((changeHere e.cell (·.cancel w.millis)).run w).2.recordOf e.cell =
      e.record.cancelledAt w.millis := by
    have changed := recordOf_changeHere (transition_cancel w.millis) atCell fired e.cell
    rw [if_pos rfl] at changed
    exact changed
  have view := run_of_triple (changeHere_jobView w e.cell (·.cancel w.millis))
  rw [afterChange_eq_take (transition_cancel w.millis) atCell fired] at view
  -- the job's scope exists and is not the root, so cancelling it ends it
  obtain ⟨nonRoot, inside⟩ := (kept.cells e.cell cell atCell).2 s (by simp [keeper, Keeper.scope?])
  have ended : ((changeHere e.cell (·.cancel w.millis)).run w).2.scopes =
      (w.scopes.cancel s .canceled).2 := by
    rw [scopes, keeper]
    rfl
  have jobRecord : w.recordOf e.cell = e.record := recordOf_lookup coh found
  rw [cancelJobById_run_running coh found running]
  refine ⟨?_, ?_, ?_, a, s, n, by simp [atCell, keeper], ended, ?_, ?_⟩
  · rw [held, jobRecord]
  · rw [cells, jobRecord]
    exact congrArg _ (Array.modify_congr atCell rfl)
  · rw [jobRecord]
    exact lookup_take coh (by rw [keyed]; exact found) running (by simp) view
  · rw [ended]
    exact Scopes.isEnded_cancel_self _ (Nat.pos_iff_ne_zero.mp nonRoot) inside _
  · rw [lines, keeper, jobRecord]
    simp [Keeper.finishLines]

/-! ## Deleting -/

theorem deleteJob_running (running : w.isFinished e.cell = false) :
    (deleteJob v id).run w = (some (Fault.conflict "job" "job is still running"), w) := by
  rw [isFinished_lookup coh found] at running
  simp only [deleteJob, StateT.run_bind, StateT.run_get, pure_bind, found, running,
    Bool.not_false, if_true]
  rfl

/-- **Deleting a finished job removes its entry**, and only its entry, from the table. -/
theorem deleteJob_finished (finished : w.isFinished e.cell = true) :
    ∃ x before after, w.venue? v = some x ∧ x.table = before ++ e :: after ∧
      (deleteJob v id).run w =
        (none, { w with venues := w.venues.modify v fun x => { x with table := before ++ after } }) := by
  rw [isFinished_lookup coh found] at finished
  obtain ⟨x, here, looked⟩ := Option.bind_eq_some_iff.mp found
  have keyed : e.id = id := by simpa using List.find?_some looked
  have unique : (x.table.map (·.id)).Nodup := by
    simpa [venue?_table here] using coh.unique v
  obtain ⟨before, after, split, removed⟩ :=
    TableEntry.filter_id_of_unique unique (List.mem_of_find?_eq_some looked)
  refine ⟨x, before, after, here, split, ?_⟩
  -- the venue's filter keeps the entries under other ids, which are those around `e`
  have same : w.venues.modify v (fun x => { x with table := x.table.filter (·.id != id) }) =
      w.venues.modify v (fun x => { x with table := before ++ after }) :=
    Array.modify_congr here (by simp [← keyed, removed])
  simp only [deleteJob, StateT.run_bind, StateT.run_get, pure_bind, found, finished,
    Bool.not_true, Bool.false_eq_true, if_false, modifyVenue]
  rw [← same]
  rfl

end Found

/-! ## Updating -/

section Updating

variable {w : World} (coh : w.jobView.Coherent) {v : Nat} {r : Record} {e : TableEntry}
  (found : (w.venue? v).bind (·.lookup r.id) = some e)
include coh found

theorem updateJobStatus_finished (finished : w.isFinished e.cell = true) :
    (updateJobStatus v r).run w = (false, w) := by
  rw [isFinished_lookup coh found] at finished
  simp only [updateJobStatus, StateT.run_bind, StateT.run_get, pure_bind, found, finished, if_true]
  rfl

/-- **An update of a running job is the job's own update**: it is applied exactly when the
status asked for is empty or one of the ten, and then the job holds the update merged into its
record; refused, it changes nothing. -/
theorem updateJobStatus_running (kept : w.KeptJobs) (running : w.isFinished e.cell = false) :
    (updateJobStatus v r).run w = (updateJob e.cell r).run w ∧
      if r.status = .unknown "" ∨ r.status.isValid = true then
        ((updateJob e.cell r).run w).1 = true ∧
          ((updateJob e.cell r).run w).2.recordOf e.cell = r.mergeInto w.millis (w.recordOf e.cell)
      else (updateJob e.cell r).run w = (false, w) := by
  rw [isFinished_lookup coh found] at running
  obtain ⟨-, cell, atCell, record, keptBy⟩ := cell_of_lookup coh found
  have jobRunning : cell.job.isFinished = false := by rw [Job.isFinished, record, running]
  -- a job a venue keeps holds one of the ten, so an empty status asks for a known one
  have known : cell.job.record.status.isValid = true :=
    (kept.cells e.cell cell atCell).1 (by simp [keptBy])
  have applying : (updateJob e.cell r).run w = (change e.cell (·.apply w.millis r)).run w := by
    simp only [updateJob, StateT.run_bind, StateT.run_get, pure_bind]
  refine ⟨?_, ?_⟩
  · simp only [updateJobStatus, StateT.run_bind, StateT.run_get, pure_bind, found, running,
      Bool.false_eq_true, if_false]
  · rw [recordOf_lookup coh found, applying]
    split
    · next asked =>
      have taken : cell.job.takes r = true := by
        simp [Job.takes, jobRunning, Status.isValid_orCurrent known, asked]
      have fired : cell.job.apply w.millis r =
          some ({ cell.job with record := r.mergeInto w.millis cell.job.record },
            Hook.announce (r.mergeInto w.millis cell.job.record)) := by
        rw [Job.apply_eq, if_pos taken]
      rw [change_run_of_venue atCell fired (by simp [keptBy])]
      have changed := recordOf_changeHere (transition_apply w.millis r) atCell fired e.cell
      rw [if_pos rfl, record] at changed
      exact ⟨rfl, changed⟩
    · next refusedStatus =>
      apply change_run_refused
      intro cell' atCell'
      rw [atCell, Option.some.injEq] at atCell'
      subst atCell'
      rw [Job.apply_eq, if_neg]
      simp [Job.takes, jobRunning, Status.isValid_orCurrent known, refusedStatus]

end Updating

/-! ## The three contracts -/

/-- **What cancelling job `id` at venue `v` does from `w`**: an id the table does not hold is not
found, and a terminal job is a conflict answered with its record; either leaves the world as it
was. A running job is cancelled (`Cancelled`). -/
def CancelContract (w : World) (v : Nat) (id : String) : Prop :=
  match (w.venue? v).bind (·.lookup id) with
  | none => (cancelJobById v id).run w = (({}, some (.notFound "job" id)), w)
  | some e =>
    if w.isFinished e.cell then
      (cancelJobById v id).run w =
        ((w.recordOf e.cell, some (Fault.conflict "job" "job already finished")), w)
    else w.Cancelled v e ((cancelJobById v id).run w).1 ((cancelJobById v id).run w).2

/-- **What deleting job `id` at venue `v` does from `w`**: an id the table does not hold is not
found, and a running job is a conflict, and either leaves the world as it was; the entry of a
terminal job, and only it, leaves the table. -/
def DeleteContract (w : World) (v : Nat) (id : String) : Prop :=
  match (w.venue? v).bind (·.lookup id) with
  | none => (deleteJob v id).run w = (some (.notFound "job" id), w)
  | some e =>
    if w.isFinished e.cell then
      ∃ x before after, w.venue? v = some x ∧ x.table = before ++ e :: after ∧
        (deleteJob v id).run w =
          (none, { w with venues := w.venues.modify v fun x => { x with table := before ++ after } })
    else (deleteJob v id).run w = (some (Fault.conflict "job" "job is still running"), w)

/-- **What updating the job under `r`'s id at venue `v` does from `w`**: it is applied exactly
when the table holds the id, the job runs and `r` asks for no status or one of the ten, and it
is then the job's own update (`updateJob`), which leaves the job holding `r` merged into its
record; else it answers `false` and changes nothing. -/
def UpdateContract (w : World) (v : Nat) (r : Record) : Prop :=
  match (w.venue? v).bind (·.lookup r.id) with
  | some e =>
    if w.isFinished e.cell = false ∧ (r.status = .unknown "" ∨ r.status.isValid = true) then
      (updateJobStatus v r).run w = (updateJob e.cell r).run w ∧
        ((updateJob e.cell r).run w).1 = true ∧
        ((updateJob e.cell r).run w).2.recordOf e.cell = r.mergeInto w.millis (w.recordOf e.cell)
    else (updateJobStatus v r).run w = (false, w)
  | none => (updateJobStatus v r).run w = (false, w)

section Contracts

variable {w : World} (coh : w.jobView.Coherent)
include coh

theorem cancelContract (kept : w.KeptJobs) (v : Nat) (id : String) : w.CancelContract v id := by
  unfold CancelContract
  split
  · next missing => exact cancelJobById_missing missing
  · next e found =>
    split
    · next finished => exact cancelJobById_finished coh found finished
    · next running => exact cancelJobById_running coh found kept (Bool.eq_false_iff.mpr running)

theorem deleteContract (v : Nat) (id : String) : w.DeleteContract v id := by
  unfold DeleteContract
  split
  · next missing => exact deleteJob_missing missing
  · next e found =>
    split
    · next finished => exact deleteJob_finished coh found finished
    · next running => exact deleteJob_running coh found (Bool.eq_false_iff.mpr running)

theorem updateContract (kept : w.KeptJobs) (v : Nat) (r : Record) : w.UpdateContract v r := by
  unfold UpdateContract
  split
  · next e found =>
    by_cases running : w.isFinished e.cell = false
    · obtain ⟨same, answered⟩ := updateJobStatus_running coh found kept running
      by_cases asked : r.status = .unknown "" ∨ r.status.isValid = true
      · rw [if_pos asked] at answered
        rw [if_pos ⟨running, asked⟩]
        exact ⟨same, answered⟩
      · rw [if_neg asked] at answered
        rw [if_neg fun accepted => asked accepted.2, same, answered]
    · rw [if_neg fun accepted => running accepted.1]
      exact updateJobStatus_finished coh found (Bool.not_eq_false _ ▸ running)
  · next missing => exact updateJobStatus_missing missing

end Contracts

end World

end JobEngine

import JobEngine.Proofs.World.Frame

/-!
# Job tables that agree with their jobs

A venue keeps two copies of every job's record: the job's own, and the one its table stored
when the job last told it of a change. This module studies the job view (`JobView`) as a small
machine of its own, with one operation per way the world changes it:

* `take` — a job takes a record, and the venue keeping it, if any, stores the record;
* `enter` — a venue creates a job and enters it in its table;
* `addCell` — a job that no venue keeps appears (the copy of a remote job);
* `dropId` — a venue removes the entry under an id.

## Main Definitions

* `JobView.Coherent` — the tables agree with the jobs: every entry is keyed by its record's
  id, stores the record its job holds and names a job its venue keeps; ids are unique in a
  table; every running job a venue keeps has an entry.
* `JobView.Retains` — every entry and every job of one view is still in another, under the same
  id and cell, and a terminal one unchanged.

## Main Statements

* `JobView.Coherent.take`, `JobView.Coherent.enter`, `JobView.Coherent.addCell`,
  `JobView.Coherent.dropId` — each operation keeps the tables coherent, from the conditions
  the engine checks before it.
* `JobView.retains_take`, `JobView.retains_enter` — no operation but `dropId` loses an entry, and
  none loses a job or changes a terminal one.

## Design Notes

A table stores a record only for an entry that is not terminal (`TableEntry.store`): this is
the table's own rule, and it is what makes `retains_take` hold without any invariant. Cells are
never removed, and an entry names its cell by index, so an index stays valid forever.
-/

namespace JobEngine

namespace TableEntry

/-- The entry after its venue stores record `r`: the entry under `r`'s id takes `r`, unless
the record it holds is terminal. -/
def store (r : Record) (e : TableEntry) : TableEntry :=
  if e.id == r.id && !e.record.isFinished then { e with record := r } else e

@[simp] theorem store_id (r : Record) (e : TableEntry) : (e.store r).id = e.id := by
  unfold store
  split <;> rfl

@[simp] theorem store_cell (r : Record) (e : TableEntry) : (e.store r).cell = e.cell := by
  unfold store
  split <;> rfl

/-- A terminal entry keeps its record. -/
theorem store_of_isFinished {e : TableEntry} (finished : e.record.isFinished = true)
    (r : Record) : e.store r = e := by
  simp [store, finished]

/-- The running entry under `r`'s id takes `r`. -/
theorem store_of_id {e : TableEntry} {r : Record} (sameId : e.id = r.id)
    (running : e.record.isFinished = false) : e.store r = { e with record := r } := by
  simp [store, sameId, running]

/-- An entry under another id is left alone. -/
theorem store_of_ne {e : TableEntry} {r : Record} (other : e.id ≠ r.id) : e.store r = e := by
  simp [store, other]

end TableEntry

namespace JobView

/-! ## The table machine -/

/-- Cell `c`'s job holds record `r`. -/
def setRecord (V : JobView) (c : Nat) (r : Record) : JobView :=
  ⟨V.cells.modify c fun p => (r, p.2), V.tables⟩

/-- Venue `v` stores record `r` (see `TableEntry.store`). -/
def storeIn (V : JobView) (v : Nat) (r : Record) : JobView :=
  ⟨V.cells, V.tables.modify v (·.map (TableEntry.store r))⟩

/-- **A job takes a record**: cell `c` holds `r`, and the venue keeping it, if any, stores `r`. -/
def take (V : JobView) (c : Nat) (r : Record) : JobView :=
  match V.cell? c with
  | some (_, some v) => (V.setRecord c r).storeIn v r
  | _ => V.setRecord c r

/-- A new cell. -/
def addCell (V : JobView) (x : Record × Option Nat) : JobView := ⟨V.cells.push x, V.tables⟩

/-- Venue `v` appends an entry to its table. -/
def addEntry (V : JobView) (v : Nat) (e : TableEntry) : JobView :=
  ⟨V.cells, V.tables.modify v (· ++ [e])⟩

/-- **Venue `v` creates a job holding `r` and enters it** under `r`'s id. -/
def enter (V : JobView) (v : Nat) (r : Record) : JobView :=
  (V.addCell (r, some v)).addEntry v ⟨r.id, V.cells.size, r⟩

/-- Venue `v` removes the entries under `id`. -/
def dropId (V : JobView) (v : Nat) (id : String) : JobView :=
  ⟨V.cells, V.tables.modify v (·.filter (·.id != id))⟩

/-- The table of a venue whose table was changed by `f`, where `f` changes nothing in an empty
table. -/
theorem table_modify (V : JobView) (v v' : Nat) (f : List TableEntry → List TableEntry)
    (empty : f [] = []) :
    (⟨V.cells, V.tables.modify v f⟩ : JobView).table v' =
      if v = v' then f (V.table v') else V.table v' := by
  unfold table
  rw [Array.getElem?_modify]
  split
  · cases V.tables[v']? <;> simp [empty]
  · rfl

@[simp] theorem cell?_setRecord (V : JobView) (c c' : Nat) (r : Record) :
    (V.setRecord c r).cell? c' = if c = c' then (V.cell? c').map (fun p => (r, p.2)) else V.cell? c' :=
  Array.getElem?_modify

@[simp] theorem table_setRecord (V : JobView) (c v : Nat) (r : Record) :
    (V.setRecord c r).table v = V.table v := rfl

@[simp] theorem cell?_storeIn (V : JobView) (v c : Nat) (r : Record) :
    (V.storeIn v r).cell? c = V.cell? c := rfl

@[simp] theorem table_storeIn (V : JobView) (v v' : Nat) (r : Record) :
    (V.storeIn v r).table v' =
      if v = v' then (V.table v').map (TableEntry.store r) else V.table v' :=
  table_modify V v v' _ rfl

@[simp] theorem cell?_addCell (V : JobView) (x : Record × Option Nat) (c : Nat) :
    (V.addCell x).cell? c = if c = V.cells.size then some x else V.cell? c :=
  Array.getElem?_push

@[simp] theorem table_addCell (V : JobView) (x : Record × Option Nat) (v : Nat) :
    (V.addCell x).table v = V.table v := rfl

@[simp] theorem cell?_addEntry (V : JobView) (v c : Nat) (e : TableEntry) :
    (V.addEntry v e).cell? c = V.cell? c := rfl

/-- Appending to the table of a venue that exists. -/
theorem table_addEntry (V : JobView) {v : Nat} (inside : v < V.tables.size) (e : TableEntry)
    (v' : Nat) :
    (V.addEntry v e).table v' = if v = v' then V.table v' ++ [e] else V.table v' := by
  unfold addEntry table
  rw [Array.getElem?_modify]
  split
  · next same =>
    subst same
    simp [Array.getElem?_eq_getElem inside]
  · rfl

@[simp] theorem cell?_dropId (V : JobView) (v c : Nat) (id : String) :
    (V.dropId v id).cell? c = V.cell? c := rfl

@[simp] theorem table_dropId (V : JobView) (v v' : Nat) (id : String) :
    (V.dropId v id).table v' =
      if v = v' then (V.table v').filter (·.id != id) else V.table v' :=
  table_modify V v v' _ rfl

/-! ## Coherence -/

/-- **The tables agree with the jobs.** -/
structure Coherent (V : JobView) : Prop where
  /-- Every entry is keyed by its record's id, and its cell holds that record and is kept by
  the entry's venue. -/
  mirrors : ∀ v, ∀ e ∈ V.table v, e.id = e.record.id ∧ V.cell? e.cell = some (e.record, some v)
  /-- No two entries of a table share an id. -/
  unique : ∀ v, ((V.table v).map (·.id)).Nodup
  /-- Every running job a venue keeps has an entry in the venue's table. -/
  listed : ∀ c r v, V.cell? c = some (r, some v) → r.isFinished = false →
    ∃ e ∈ V.table v, e.cell = c

/-- **`W` still holds everything of `V`**: every entry, under its id and cell, and every job,
a terminal one unchanged. -/
structure Retains (V W : JobView) : Prop where
  entries : ∀ v, ∀ e ∈ V.table v, ∃ e' ∈ W.table v, e'.id = e.id ∧ e'.cell = e.cell ∧
    (e.record.isFinished = true → e' = e)
  cells : ∀ c x, V.cell? c = some x → ∃ x', W.cell? c = some x' ∧
    (x.1.isFinished = true → x' = x)

theorem Retains.refl (V : JobView) : V.Retains V where
  entries _ e found := ⟨e, found, rfl, rfl, fun _ => rfl⟩
  cells _ x found := ⟨x, found, fun _ => rfl⟩

theorem Retains.trans {U V W : JobView} (first : U.Retains V) (second : V.Retains W) :
    U.Retains W where
  entries v e found := by
    obtain ⟨e₁, found₁, sameId₁, sameCell₁, frozen₁⟩ := first.entries v e found
    obtain ⟨e₂, found₂, sameId₂, sameCell₂, frozen₂⟩ := second.entries v e₁ found₁
    refine ⟨e₂, found₂, sameId₂.trans sameId₁, sameCell₂.trans sameCell₁, fun finished => ?_⟩
    -- a terminal entry passes through the middle view unchanged
    have middle : e₁ = e := frozen₁ finished
    subst middle
    exact frozen₂ finished
  cells c x found := by
    obtain ⟨x₁, found₁, frozen₁⟩ := first.cells c x found
    obtain ⟨x₂, found₂, frozen₂⟩ := second.cells c x₁ found₁
    refine ⟨x₂, found₂, fun finished => ?_⟩
    have middle : x₁ = x := frozen₁ finished
    subst middle
    exact frozen₂ finished

/-- A view with the same tables that still holds every job unchanged. -/
theorem retains_of_tables {V W : JobView} (tables : ∀ v, W.table v = V.table v)
    (cells : ∀ c x, V.cell? c = some x → W.cell? c = some x) : V.Retains W where
  entries v e found := ⟨e, (tables v).symm ▸ found, rfl, rfl, fun _ => rfl⟩
  cells c x found := ⟨x, cells c x found, fun _ => rfl⟩

/-- Storing a record keeps every entry under its id and cell, and a terminal one unchanged. -/
theorem mem_storeIn {V : JobView} {v' : Nat} {e : TableEntry} (found : e ∈ V.table v')
    (v : Nat) (r : Record) :
    ∃ e' ∈ (V.storeIn v r).table v', e'.id = e.id ∧ e'.cell = e.cell ∧
      (e.record.isFinished = true → e' = e) := by
  rw [table_storeIn]
  split
  · exact ⟨e.store r, List.mem_map_of_mem found, by simp, by simp,
      fun finished => TableEntry.store_of_isFinished finished r⟩
  · exact ⟨e, found, rfl, rfl, fun _ => rfl⟩

theorem retains_storeIn (V : JobView) (v : Nat) (r : Record) : V.Retains (V.storeIn v r) where
  entries _ _ found := mem_storeIn found v r
  cells _ x found := ⟨x, found, fun _ => rfl⟩

/-- A running job taking a record. -/
theorem retains_setRecord (V : JobView) {c : Nat}
    (running : ∀ x, V.cell? c = some x → x.1.isFinished = false) (r : Record) :
    V.Retains (V.setRecord c r) where
  entries v e found := ⟨e, found, rfl, rfl, fun _ => rfl⟩
  cells c' x found := by
    rw [cell?_setRecord]
    split
    · next same =>
      subst same
      refine ⟨(r, x.2), by simp [found], fun finished => ?_⟩
      simp [running x found] at finished
    · exact ⟨x, found, fun _ => rfl⟩

/-- **Taking a record never loses an entry or a job, or changes a terminal one**, whatever the
view: only a running job takes a record, and the table stores only into running entries. -/
theorem retains_take (V : JobView) {c : Nat}
    (running : ∀ x, V.cell? c = some x → x.1.isFinished = false) (r : Record) :
    V.Retains (V.take c r) := by
  unfold take
  split
  · exact (retains_setRecord V running r).trans (retains_storeIn _ _ r)
  · exact retains_setRecord V running r

theorem retains_addCell (V : JobView) (x : Record × Option Nat) : V.Retains (V.addCell x) :=
  retains_of_tables (fun _ => rfl) fun c x' found => by
    have inside : c < V.cells.size := (Array.getElem?_eq_some_iff.mp found).1
    simp [Nat.ne_of_lt inside, found]

theorem retains_enter (V : JobView) {v : Nat} (inside : v < V.tables.size) (r : Record) :
    V.Retains (V.enter v r) where
  entries v' e found := by
    refine ⟨e, ?_, rfl, rfl, fun _ => rfl⟩
    rw [enter, table_addEntry _ (by simpa [addCell] using inside), table_addCell]
    split <;> simp [found]
  cells c x found := (retains_addCell V (r, some v)).cells c x found

namespace Coherent

variable {V : JobView}

/-- Two entries of one table under one id are the same entry. -/
theorem eq_of_id (coh : V.Coherent) {v : Nat} {e e' : TableEntry} (found : e ∈ V.table v)
    (found' : e' ∈ V.table v) (sameId : e.id = e'.id) : e = e' :=
  List.inj_on_of_nodup_map (coh.unique v) found found' sameId

/-- The cell of an entry holds the entry's record and is kept by the entry's venue. -/
theorem of_cell (coh : V.Coherent) {v c : Nat} {e : TableEntry} {r : Record}
    {k : Option Nat} (found : e ∈ V.table v) (atCell : e.cell = c)
    (cell : V.cell? c = some (r, k)) : e.record = r ∧ k = some v := by
  have mirrored := (coh.mirrors v e found).2
  rw [atCell, cell] at mirrored
  simp only [Option.some.injEq, Prod.mk.injEq] at mirrored
  exact ⟨mirrored.1.symm, mirrored.2⟩

/-- An entry names a cell that exists. -/
theorem cell_lt (coh : V.Coherent) {v : Nat} {e : TableEntry} (found : e ∈ V.table v) :
    e.cell < V.cells.size := by
  have mirrored := (coh.mirrors v e found).2
  simp only [cell?] at mirrored
  exact (Array.getElem?_eq_some_iff.mp mirrored).1

/-- **What venue `v` does when the job of cell `c`, which it keeps, takes `r`**: the job's own
entry takes `r`, and every other entry of the table stays as it is. -/
theorem store_eq (coh : V.Coherent) {v c : Nat} {r₀ r : Record}
    (cell : V.cell? c = some (r₀, some v)) (running : r₀.isFinished = false)
    (sameId : r.id = r₀.id) {e : TableEntry} (found : e ∈ V.table v) :
    e.store r = if e.cell = c then { e with record := r } else e := by
  split
  · next atCell =>
    -- the job's own entry holds the job's running record, under the job's id
    have held := (coh.of_cell found atCell cell).1
    apply TableEntry.store_of_id
    · rw [(coh.mirrors v e found).1, held, sameId]
    · rw [held, running]
  · next elsewhere =>
    -- another entry under the job's id would be the job's own entry
    obtain ⟨e₀, found₀, atCell₀⟩ := coh.listed c r₀ v cell running
    have id₀ : e₀.id = r.id := by
      rw [(coh.mirrors v e₀ found₀).1, (coh.of_cell found₀ atCell₀ cell).1, sameId]
    apply TableEntry.store_of_ne
    intro sameId'
    have same : e = e₀ := coh.eq_of_id found found₀ (sameId'.trans id₀.symm)
    exact elsewhere (same ▸ atCell₀)

/-- A job that no venue keeps takes a record: no entry names its cell. -/
theorem setRecord (coh : V.Coherent) {c : Nat} {r₀ : Record}
    (cell : V.cell? c = some (r₀, none)) (r : Record) : (V.setRecord c r).Coherent where
  mirrors v e found := by
    obtain ⟨keyed, mirrored⟩ := coh.mirrors v e found
    have elsewhere : c ≠ e.cell := by
      intro atCell
      have := (coh.of_cell found atCell.symm cell).2
      simp at this
    exact ⟨keyed, by simp [elsewhere, mirrored]⟩
  unique := coh.unique
  listed c' r' v' held running := by
    rw [cell?_setRecord] at held
    split at held
    · next same =>
      subst same
      simp [cell] at held
    · exact coh.listed c' r' v' held running

/-- **A job kept by venue `v` takes a record under its id**: its entry takes the record, and
the tables stay coherent. -/
theorem storeIn (coh : V.Coherent) {v c : Nat} {r₀ : Record}
    (cell : V.cell? c = some (r₀, some v)) (running : r₀.isFinished = false) {r : Record}
    (sameId : r.id = r₀.id) : ((V.setRecord c r).storeIn v r).Coherent where
  mirrors v' e' found' := by
    rw [table_storeIn, table_setRecord] at found'
    split at found'
    · next same =>
      subst same
      obtain ⟨e, found, stored⟩ := List.mem_map.mp found'
      rw [coh.store_eq cell running sameId found] at stored
      subst stored
      split
      · next atCell =>
        -- the job's own entry, now holding `r`
        have held := (coh.of_cell found atCell cell).1
        refine ⟨by rw [(coh.mirrors _ e found).1, held, sameId], ?_⟩
        simp [atCell, cell]
      · next elsewhere =>
        obtain ⟨keyed, mirrored⟩ := coh.mirrors _ e found
        exact ⟨keyed, by simp [Ne.symm elsewhere, mirrored]⟩
    · next other =>
      obtain ⟨keyed, mirrored⟩ := coh.mirrors v' e' found'
      -- an entry of another venue cannot name a cell that `v` keeps
      have elsewhere : c ≠ e'.cell := by
        intro atCell
        have := (coh.of_cell found' atCell.symm cell).2
        simp only [Option.some.injEq] at this
        exact other this
      exact ⟨keyed, by simp [elsewhere, mirrored]⟩
  unique v' := by
    rw [table_storeIn, table_setRecord]
    split
    · simpa [Function.comp_def] using coh.unique v'
    · exact coh.unique v'
  listed c' r' v' held stillRunning := by
    rw [cell?_storeIn, cell?_setRecord] at held
    split at held
    · next same =>
      -- the job itself: its entry is still there, under its cell
      subst same
      simp only [cell, Option.map_some, Option.some.injEq, Prod.mk.injEq] at held
      obtain ⟨-, rfl⟩ := held
      obtain ⟨e₀, found₀, atCell₀⟩ := coh.listed c r₀ v cell running
      obtain ⟨e', found', -, sameCell, -⟩ := mem_storeIn found₀ v r
      exact ⟨e', by simpa using found', sameCell.trans atCell₀⟩
    · obtain ⟨e, found, atCell⟩ := coh.listed c' r' v' held stillRunning
      obtain ⟨e', found', -, sameCell, -⟩ := mem_storeIn found v r
      exact ⟨e', by simpa using found', sameCell.trans atCell⟩

/-- **Taking a record under the job's own id keeps the tables coherent**, for a running job. -/
theorem take (coh : V.Coherent) {c : Nat} {r₀ : Record} {k : Option Nat}
    (cell : V.cell? c = some (r₀, k)) (running : r₀.isFinished = false) {r : Record}
    (sameId : r.id = r₀.id) : (V.take c r).Coherent := by
  cases k with
  | none =>
    simp only [JobView.take, cell]
    exact coh.setRecord cell r
  | some v =>
    simp only [JobView.take, cell]
    exact coh.storeIn cell running sameId

/-- A new cell that no venue keeps changes no table's agreement. -/
theorem addCell (coh : V.Coherent) {x : Record × Option Nat} (unkept : x.2 = none) :
    (V.addCell x).Coherent where
  mirrors v e found := by
    obtain ⟨keyed, mirrored⟩ := coh.mirrors v e found
    have old : e.cell ≠ V.cells.size := Nat.ne_of_lt (coh.cell_lt found)
    exact ⟨keyed, by simp [old, mirrored]⟩
  unique := coh.unique
  listed c r v held running := by
    rw [cell?_addCell] at held
    split at held
    · obtain ⟨x₁, x₂⟩ := x
      simp only [Option.some.injEq, Prod.mk.injEq] at held
      simp_all
    · exact coh.listed c r v held running

/-- **Entering a new job under a fresh id keeps the tables coherent.** -/
theorem enter (coh : V.Coherent) {v : Nat} (inside : v < V.tables.size) {r : Record}
    (fresh : r.id ∉ (V.table v).map (·.id)) : (V.enter v r).Coherent where
  mirrors v' e found := by
    rw [JobView.enter, table_addEntry _ (by simpa [JobView.addCell] using inside),
      table_addCell] at found
    have old {e : TableEntry} (found : e ∈ V.table v') :
        e.id = e.record.id ∧ (V.enter v r).cell? e.cell = some (e.record, some v') := by
      obtain ⟨keyed, mirrored⟩ := coh.mirrors v' e found
      have before : e.cell ≠ V.cells.size := Nat.ne_of_lt (coh.cell_lt found)
      exact ⟨keyed, by simp [JobView.enter, before, mirrored]⟩
    split at found
    · next same =>
      subst same
      rcases List.mem_append.mp found with found | added
      · exact old found
      · simp only [List.mem_singleton] at added
        subst added
        simp [JobView.enter]
    · exact old found
  unique v' := by
    rw [JobView.enter, table_addEntry _ (by simpa [JobView.addCell] using inside),
      table_addCell]
    split
    · next same =>
      subst same
      simp only [List.map_append, List.map_cons, List.map_nil]
      exact List.nodup_append.mpr ⟨coh.unique v, List.nodup_singleton _,
        fun a held b added => by
          simp only [List.mem_singleton] at added
          intro same
          rw [same, added] at held
          exact fresh held⟩
    · exact coh.unique v'
  listed c r' v' held running := by
    have grown : V.table v' ⊆ (V.enter v r).table v' := by
      intro e found
      rw [JobView.enter, table_addEntry _ (by simpa [JobView.addCell] using inside),
        table_addCell]
      split <;> simp [found]
    simp only [JobView.enter, cell?_addEntry, cell?_addCell] at held
    split at held
    · next new =>
      -- the new job: its entry was just appended
      simp only [Option.some.injEq, Prod.mk.injEq] at held
      obtain ⟨-, rfl⟩ := held
      refine ⟨⟨r.id, V.cells.size, r⟩, ?_, new.symm⟩
      rw [JobView.enter, table_addEntry _ (by simpa [JobView.addCell] using inside)]
      simp
    · obtain ⟨e, found, atCell⟩ := coh.listed c r' v' held running
      exact ⟨e, grown found, atCell⟩

/-- **Removing a terminal entry keeps the tables coherent**: the job it named no longer needs
one. -/
theorem dropId (coh : V.Coherent) {v : Nat} {e : TableEntry} (found : e ∈ V.table v)
    (finished : e.record.isFinished = true) : (V.dropId v e.id).Coherent where
  mirrors v' e' found' := by
    rw [table_dropId] at found'
    split at found'
    · exact coh.mirrors v' e' (List.mem_filter.mp found').1
    · exact coh.mirrors v' e' found'
  unique v' := by
    rw [table_dropId]
    split
    · exact (coh.unique v').sublist (List.filter_sublist.map _)
    · exact coh.unique v'
  listed c r v' held running := by
    obtain ⟨e', found', atCell⟩ := coh.listed c r v' held running
    refine ⟨e', ?_, atCell⟩
    rw [table_dropId]
    split
    · next same =>
      subst same
      refine List.mem_filter.mpr ⟨found', ?_⟩
      -- the removed entry names a terminal job, and this one is running
      simp only [bne_iff_ne, ne_eq]
      intro sameId
      have removed : e' = e := coh.eq_of_id found' found sameId
      have held' := (coh.of_cell found' atCell held).1
      rw [removed] at held'
      rw [held'] at finished
      simp [finished] at running
    · exact found'

/-- Removing the entry under `e`'s id removes `e` alone. -/
theorem mem_dropId (coh : V.Coherent) {v v' : Nat} {e e' : TableEntry} (found : e ∈ V.table v)
    (found' : e' ∈ V.table v') : e' ∈ (V.dropId v e.id).table v' ∨ (v = v' ∧ e' = e) := by
  rw [table_dropId]
  split
  · next same =>
    subst same
    by_cases sameId : e'.id = e.id
    · exact .inr ⟨rfl, coh.eq_of_id found' found sameId⟩
    · exact .inl (List.mem_filter.mpr ⟨found', by simpa using sameId⟩)
  · exact .inl found'

end Coherent

end JobView

end JobEngine

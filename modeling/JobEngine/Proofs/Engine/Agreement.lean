import JobEngine.Proofs.Engine.Table
import JobEngine.World.Api

/-!
# The job tables never diverge from the jobs

Clients call an engine's operations in any order: they invoke operations, update a job's
status from outside, cancel and delete jobs by id, and close a venue; adapters call the
mutators of the jobs they run, and copies of remote jobs are made. Between two calls the world
does whatever else it does — fibers wake, scopes end, messages pass — and none of that touches
a job or a table. Along every such run each venue's table agrees with the jobs: an entry is
keyed by its record's id and holds its job's record, a terminal entry never changes, and an
entry leaves only when `deleteJob` removes it, terminal. So every read of a table reports the
jobs' own records.

## Main Definitions

* `JobCall` — a call of an adapter on a job.
* `EngineCall` — a call on the engine, with `EngineCall.run`.
* `EngineCall.Keeps` — what a call may do to the entries of the tables.
* `EngineCall.Reaches` — the worlds a run of calls reaches from a start.
* `World.TablesAgree` — the tables agree with the jobs, now and after any next call.

## Main Statements

* `EngineCall.step_coherent` — one call keeps the tables coherent and keeps their entries.
* `EngineCall.Reaches.coherent` — so does every run.
* `job_tables_agree` — in every world a run reaches, the tables agree with the jobs.
-/

namespace JobEngine

open Std.Do World

/-- A call of an adapter on the job of a cell. -/
inductive JobCall where
  | update (r : Record)
  | setStatus (st : Status)
  | fail (message : String)
  | complete (output : Value)
  | cancel
  | attachFuture

/-- The call, on the job of cell `c`. -/
def JobCall.run (c : Nat) : JobCall → WorldM Unit
  | .update r => do let _ ← World.updateJob c r
  | .setStatus st => do let _ ← World.setStatus c st
  | .fail message => do let _ ← World.failJob c message
  | .complete output => do let _ ← World.completeJob c output
  | .cancel => do let _ ← World.cancelJob c
  | .attachFuture => World.attachFuture c

/-- A call on an engine. -/
inductive EngineCall where
  | invoke (v : Nat) (ref : String) (input : Value) (cb : Option Callback)
      (given : Option Metadata)
  | updateStatus (v : Nat) (r : Record)
  | cancel (v : Nat) (id : String)
  | delete (v : Nat) (id : String)
  /-- One step of closing venue `v`. -/
  | close (v scope : Nat) (tick : Int) (waiting : Bool) (r : Resume)
  /-- An adapter's call on the job of cell `c`. -/
  | adapter (c : Nat) (call : JobCall)
  /-- A copy of a remote job, following the job of a cell or nobody. -/
  | copy (rec : Record) (follows : Option Nat)

namespace EngineCall

/-- The call, run on the world. -/
def run : EngineCall → WorldM Unit
  | .invoke v ref input cb given => do let _ ← World.invoke v ref input cb given
  | .updateStatus v r => do let _ ← updateJobStatus v r
  | .cancel v id => do let _ ← cancelJobById v id
  | .delete v id => do let _ ← deleteJob v id
  | .close v scope tick waiting r => do let _ ← Chore.step (.close v scope tick waiting) r
  | .adapter c call => call.run c
  | .copy rec follows => do
    let _ ← newCopy rec (match follows with | some c => .follower c | none => .none)

/-- **What a call may do to the tables**: every entry stays, under its id and cell, and a
terminal entry stays as it is — but for a terminal entry that `delete` removes by its id, after
which no entry holds that id. -/
def Keeps (call : EngineCall) (V W : JobView) : Prop :=
  ∀ v, ∀ e ∈ V.table v,
    (∃ e' ∈ W.table v, e'.id = e.id ∧ e'.cell = e.cell ∧ (e.record.isFinished = true → e' = e)) ∨
      (call = .delete v e.id ∧ e.record.isFinished = true ∧ ∀ e' ∈ W.table v, e'.id ≠ e.id)

theorem keeps_of_retains {call : EngineCall} {V W : JobView} (retains : V.Retains W) :
    call.Keeps V W :=
  fun v e found => .inl (retains.entries v e found)

/-! ## One call -/

@[spec] theorem jobCall_tracks (V₀ : JobView) (c : Nat) (call : JobCall) :
    ⦃fun w => ⌜Tracks V₀ w⌝⦄ call.run c ⦃⇓ _ w => ⌜Tracks V₀ w⌝⦄ := by
  cases call <;> mvcgen [JobCall.run]
  -- attaching a future is the one call that goes through the frame
  exact fun same => Tracks.sameJobs ‹_› same

/-- Every call but a deletion keeps the invariant with every entry it started from. -/
theorem run_tracks (V₀ : JobView) (call : EngineCall) (kept : ∀ v id, call ≠ .delete v id) :
    ⦃fun w => ⌜Tracks V₀ w⌝⦄ call.run ⦃⇓ _ w => ⌜Tracks V₀ w⌝⦄ := by
  cases call with
  | delete v id => exact absurd rfl (kept v id)
  | copy rec follows =>
    have unkept : (match follows with | some c => Keeper.follower c | none => .none).venue? =
        none := by
      cases follows <;> rfl
    have copied := newCopy_tracks V₀ rec unkept
    mvcgen [run, copied]
  | _ => mvcgen [run]

/-- A deletion removes the entry found under the id if it is terminal, and nothing else. -/
theorem delete_step {w : World} (coh : w.jobView.Coherent) (v : Nat) (id : String) :
    (w.afterDelete v id).Coherent ∧ (delete v id).Keeps w.jobView (w.afterDelete v id) := by
  unfold World.afterDelete
  split
  · next e found =>
    split
    · next finished =>
      obtain ⟨x, here, looked⟩ := Option.bind_eq_some_iff.mp found
      have member : e ∈ w.jobView.table v := by
        rw [venue?_table here]
        exact List.mem_of_find?_eq_some looked
      have keyed : e.id = id := by
        simpa using List.find?_some looked
      subst keyed
      refine ⟨coh.dropId member finished, ?_⟩
      intro v' e' found'
      rcases coh.mem_dropId member found' with kept | ⟨rfl, rfl⟩
      · exact .inl ⟨e', kept, rfl, rfl, fun _ => rfl⟩
      · -- the removed entry: no entry under its id is left
        refine .inr ⟨rfl, finished, fun e'' left => ?_⟩
        rw [JobView.table_dropId, if_pos rfl] at left
        simpa using (List.mem_filter.mp left).2
    · exact ⟨coh, keeps_of_retains (JobView.Retains.refl _)⟩
  · exact ⟨coh, keeps_of_retains (JobView.Retains.refl _)⟩

/-- **One call keeps the tables coherent and keeps their entries.** -/
theorem step_coherent (call : EngineCall) {w : World} (coh : w.jobView.Coherent) :
    (call.run.run w).2.jobView.Coherent ∧ call.Keeps w.jobView (call.run.run w).2.jobView := by
  by_cases deleting : ∃ v id, call = .delete v id
  · obtain ⟨v, id, rfl⟩ := deleting
    have after : ((run (.delete v id)).run w).2.jobView = w.afterDelete v id :=
      run_of_triple (deleteJob_jobView w v id)
    rw [after]
    exact delete_step coh v id
  · simp only [not_exists] at deleting
    have tracks := run_of_spec (run_tracks w.jobView call deleting) (Tracks.start rfl)
    exact ⟨tracks.2 coh, keeps_of_retains tracks.1⟩

/-! ## Runs -/

/-- **The worlds a run reaches from `w₀`**: calls on the engine, in any order, and between
them anything else the world does, which keeps every job and every table. -/
inductive Reaches (w₀ : World) : World → Prop where
  | start : Reaches w₀ w₀
  | call {w : World} (call : EngineCall) : Reaches w₀ w → Reaches w₀ (call.run.run w).2
  | idle {w w' : World} : Reaches w₀ w → SameJobs w w' → Reaches w₀ w'

/-- **A run from coherent tables keeps them coherent.** -/
theorem Reaches.coherent {w₀ w : World} (start : w₀.jobView.Coherent) (reached : Reaches w₀ w) :
    w.jobView.Coherent := by
  -- induction on the run; each call is `step_coherent`, and an idle stretch keeps the view
  induction reached with
  | start => exact start
  | call call _ coh => exact (call.step_coherent coh).1
  | idle _ same coh =>
    rw [same]
    exact coh

end EngineCall

/-! ## What the tables report -/

namespace World

theorem mem_jobView_table {w : World} {v : Nat} {e : TableEntry} :
    e ∈ w.jobView.table v ↔ ∃ x, w.venue? v = some x ∧ e ∈ x.table := by
  rw [jobView_table, venue?]
  cases w.venues[v]? <;> simp

theorem recordOf_of_cell? {w : World} {c : Nat} {r : Record} {k : Option Nat}
    (held : w.jobView.cell? c = some (r, k)) : w.recordOf c = r := by
  rw [jobView_cell?] at held
  obtain ⟨x, found, viewed⟩ := Option.map_eq_some_iff.mp held
  have record : x.job.record = r := (Prod.mk.inj viewed).1
  simp [recordOf, job?, found, record]

section Reports

variable {w : World} (coh : w.jobView.Coherent)
include coh

/-- An entry's record is its job's. -/
theorem recordOf_entry {v : Nat} {e : TableEntry} (member : e ∈ w.jobView.table v) :
    w.recordOf e.cell = e.record :=
  recordOf_of_cell? (coh.mirrors v e member).2

theorem recordOf_lookup {v : Nat} {id : String} {e : TableEntry}
    (found : (w.venue? v).bind (·.lookup id) = some e) : w.recordOf e.cell = e.record := by
  obtain ⟨x, here, looked⟩ := Option.bind_eq_some_iff.mp found
  apply recordOf_entry coh (v := v)
  rw [venue?_table here]
  exact List.mem_of_find?_eq_some looked

/-- **Reading a job by id reports its job's record.** -/
theorem getJob_run' (v : Nat) (id : String) :
    ((getJob v id).run' w).run = (match (w.venue? v).bind (·.lookup id) with
      | some e => .ok (w.recordOf e.cell)
      | none => .error (.notFound "job" id) : Except Fault Record) := by
  cases found : (w.venue? v).bind (·.lookup id) with
  | none => simp [getJob, found]
  | some e => simp [getJob, found, recordOf_lookup coh found]

/-- **Listing a venue's jobs reports their jobs' records**, ordered by id. -/
theorem listJobs_run' (v : Nat) :
    ((listJobs v).run' w).run = (((((w.venue? v).map (·.table)).getD []).map fun e =>
      w.recordOf e.cell).mergeSort fun a b => decide (a.id ≤ b.id) : List Record) := by
  cases here : w.venue? v with
  | none => simp [listJobs, here]
  | some x =>
    have records : x.table.map (fun e => w.recordOf e.cell) = x.table.map (·.record) :=
      List.map_congr_left fun e member =>
        recordOf_entry coh (v := v) (by rw [venue?_table here]; exact member)
    simp [listJobs, here, Venue.records, records]

/-- **The HTTP API answers a job's own record.** -/
theorem getJobEndpoint_run' (v : Nat) (req : Http.Request) (h : Http.Headers) (id : String) :
    ((keyedEndpoint v req h (.getJob id)).run' w).run = (match (w.venue? v).bind (·.lookup id) with
      | some e => Http.Response.json h 200 (w.recordOf e.cell).toValue
      | none => faultResponse h (.notFound "job" id) : Http.Response) := by
  cases found : (w.venue? v).bind (·.lookup id) with
  | none => simp [keyedEndpoint, getJob, found]
  | some e => simp [keyedEndpoint, getJob, found, recordOf_lookup coh found]

end Reports

/-- **A world's tables agree with its jobs**, and the next call keeps them so. -/
structure TablesAgree (w : World) : Prop where
  /-- Every entry is keyed by its record's id, and its cell holds a job of the entry's venue
  whose record the entry holds. -/
  mirrors : ∀ v x, w.venue? v = some x → ∀ e ∈ x.table, e.id = e.record.id ∧
    ∃ cell, w.cells[e.cell]? = some cell ∧ cell.job.record = e.record ∧
      cell.keeper.venue? = some v
  /-- Every running job a venue keeps has an entry in its table. -/
  listed : ∀ c cell v, w.cells[c]? = some cell → cell.keeper.venue? = some v →
    cell.job.record.isFinished = false → ∃ x, w.venue? v = some x ∧ ∃ e ∈ x.table, e.cell = c
  /-- The next call, whichever it is, keeps every entry, and a terminal one as it is, but
  for a terminal entry it deletes. -/
  next : ∀ call : EngineCall, call.Keeps w.jobView (call.run.run w).2.jobView
  reportsJob : ∀ v id, ((getJob v id).run' w).run = (match (w.venue? v).bind (·.lookup id) with
      | some e => .ok (w.recordOf e.cell)
      | none => .error (.notFound "job" id) : Except Fault Record)
  listsJobs : ∀ v, ((listJobs v).run' w).run = (((((w.venue? v).map (·.table)).getD []).map fun e =>
      w.recordOf e.cell).mergeSort fun a b => decide (a.id ≤ b.id) : List Record)
  servesJob : ∀ v req h id, ((keyedEndpoint v req h (.getJob id)).run' w).run =
    (match (w.venue? v).bind (·.lookup id) with
      | some e => Http.Response.json h 200 (w.recordOf e.cell).toValue
      | none => faultResponse h (.notFound "job" id) : Http.Response)

theorem TablesAgree.of_coherent {w : World} (coh : w.jobView.Coherent) : w.TablesAgree where
  mirrors v x here e member := by
    have viewed := coh.mirrors v e (mem_jobView_table.mpr ⟨x, here, member⟩)
    rw [jobView_cell?] at viewed
    obtain ⟨cell, found, held⟩ := Option.map_eq_some_iff.mp viewed.2
    exact ⟨viewed.1, cell, found, (Prod.mk.inj held).1, (Prod.mk.inj held).2⟩
  listed c cell v found kept running := by
    have viewed : w.jobView.cell? c = some (cell.job.record, some v) := by
      simp [jobView_cell?, found, JobCell.view, kept]
    obtain ⟨e, member, atCell⟩ := coh.listed c _ v viewed running
    obtain ⟨x, here, member'⟩ := mem_jobView_table.mp member
    exact ⟨x, here, e, member', atCell⟩
  next call := (call.step_coherent coh).2
  reportsJob := getJob_run' coh
  listsJobs := listJobs_run' coh
  servesJob := getJobEndpoint_run' coh

end World

end JobEngine

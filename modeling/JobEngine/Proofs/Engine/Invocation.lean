import JobEngine.Proofs.Engine.Shutdown
import JobEngine.Proofs.Job.IdOrder
import JobEngine.Proofs.Catalog.Ascending

/-!
# What an invocation does

An invocation asks a venue to run an operation reference on an input. The venue refuses it
when it shuts down, when the reference is empty, or when the reference resolves to an adapter
the venue does not have; none of these changes the world. Otherwise it mints a job id: a
failed mint, or an id already in the table, is refused after the generator has moved, with
the jobs and fibers as they were. An accepted invocation enters one `PENDING` job under the
fresh id; a reference that does not resolve fails that job with the reason, and a resolved
one hands it once to the adapter named before the first colon of its `operation.adapter`.

## Main Results

* `Venue.resolve_literal` — a literal reference runs the adapter operation it names.
* `Venue.resolve_eq_error_iff` — when and why a reference does not resolve.
* `Venue.fresh_of_behind` — before its timestamp wraps, a generator whose table lies behind it
  mints ids the table does not hold; `Venue.IdsBehind.mint` and `Venue.IdsBehind.enter` keep
  the table behind.
* `World.Invoked` — the seven ways an invocation ends, and `World.invocation_outcome`, that
  every invocation ends in one of them and fails exactly when `Venue.Refuses` holds.

## Design Notes

Starting a job goes through scopes, callbacks and metrics, which keep the jobs (`SameJobs`),
the clock, the fibers and the venues (`World.Still`). `World.Calm` is the two together; the
triple of starting a job is proved from the `Calm` triples of its parts, with the two changes
it makes to its venue, minting and entering, unfolded.
-/

namespace JobEngine

namespace Venue

/-! ## Resolving a reference -/

/-- **A literal reference names its own adapter operation**, whatever metadata is given. -/
theorem resolve_literal (x : Venue) {ref : String} (literal : isLiteralRef ref = true)
    (given : Option Metadata) : ∃ md, x.resolve ref given = .ok md ∧ md.adapterOp = ref := by
  cases given with
  | none =>
    refine ⟨Metadata.literal ref, by simp [resolve, literal], ?_⟩
    simp [Metadata.literal, Metadata.adapterOp, Metadata.operation, Metadata.get?]
  | some m =>
    refine ⟨m.withAdapter ref, by simp [resolve, literal], ?_⟩
    simp [Metadata.withAdapter, Metadata.adapterOp, Metadata.operation, Metadata.get?,
      Value.bindSorted_eq]

/-- Why a reference does not resolve at venue `x`, with the reason a job is failed with: a
hash that no catalog holds, or whose metadata names no adapter operation. -/
inductive Unresolvable (x : Venue) (ref : String) : String → Prop
  | notFound (hash : isLiteralRef ref = false)
      (absent : x.usesCatalog = false ∨ x.catalog.get? ref = none) :
      Unresolvable x ref ("operation metadata not found: " ++ ref)
  | noAdapter {m : Metadata} (hash : isLiteralRef ref = false) (stored : x.usesCatalog = true)
      (found : x.catalog.get? ref = some m) (empty : m.adapterOp.isEmpty = true) :
      Unresolvable x ref ("metadata " ++ ref ++ " has no operation.adapter")

theorem resolve_eq_error_iff (x : Venue) (ref : String) (given : Option Metadata)
    (reason : String) :
    x.resolve ref given = .error reason ↔ x.Unresolvable ref reason := by
  constructor
  · intro failed
    unfold resolve at failed
    by_cases literal : isLiteralRef ref = true
    · simp [literal] at failed
    have hash : isLiteralRef ref = false := by simpa using literal
    cases stored : x.usesCatalog
    case false =>
      simp only [hash, stored] at failed
      cases failed
      exact .notFound hash (.inl stored)
    rcases found : x.catalog.get? ref with _ | m
    case none =>
      simp only [hash, stored, found] at failed
      cases failed
      exact .notFound hash (.inr found)
    by_cases empty : m.adapterOp.isEmpty = true
    · simp only [hash, stored, found, empty] at failed
      cases failed
      exact .noAdapter hash stored found empty
    · simp [hash, stored, found, empty] at failed
  · rintro (⟨hash, absent | absent⟩ | ⟨hash, stored, found, empty⟩)
    · simp [resolve, hash, absent]
    · simp [resolve, hash, absent]
    · simp [resolve, hash, stored, found, empty]

/-! ## The generator stays ahead of the table -/

/-- Every id in the venue's table is the text of an id its generator minted at or before the
generator's position. -/
structure IdsBehind (x : Venue) : Prop where
  wellFormed : x.ids.WellFormed
  behind : ∀ e ∈ x.table, ∃ id : JobId, id.Minted ∧ e.id = id.text ∧
    (id.position = x.ids.position ∨ Prod.Lex (· < ·) (· < ·) id.position x.ids.position)

/-- An id behind a generator's position is behind the position after its next call. -/
theorem IdsBehind.before_next {x : Venue} (behind : x.IdsBehind) (room : ¬ x.ids.Exhausted)
    (ms : Int) {e : TableEntry} (listed : e ∈ x.table) :
    ∃ id : JobId, id.Minted ∧ e.id = id.text ∧
      Prod.Lex (· < ·) (· < ·) id.position (x.ids.next ms).2.position := by
  have advances := IdGenerator.next_advances behind.wellFormed room ms
  obtain ⟨id, minted, named, atOrBefore⟩ := behind.behind e listed
  refine ⟨id, minted, named, ?_⟩
  rcases atOrBefore with same | before
  · exact same ▸ advances.increases
  · exact IdGenerator.lex_trans before advances.increases

/-- **Before its timestamp wraps, a generator mints ids no table entry holds.** -/
theorem fresh_of_behind {x : Venue} (behind : x.IdsBehind) (room : ¬ x.ids.Exhausted) (ms : Int)
    {jid : JobId} (minted : (x.ids.next ms).1 = .ok jid) : x.lookup jid.text = none := by
  have advances := IdGenerator.next_advances behind.wellFormed room ms
  obtain ⟨layout, carried⟩ := IdGenerator.minted_of_next advances.wellFormed minted
  rw [lookup, List.find?_eq_none]
  intro e listed same
  obtain ⟨id, idLayout, named, before⟩ := behind.before_next room ms listed
  have smaller : id.text < jid.text :=
    Hex.encode_lt_encode (JobId.bytes_lt_of_position_lt idLayout layout (carried ▸ before))
  exact String.ne_of_lt smaller (named ▸ beq_iff_eq.mp same)

/-- Minting keeps the table behind the generator, whether or not the entropy read fails. -/
theorem IdsBehind.mint {x : Venue} (behind : x.IdsBehind) (room : ¬ x.ids.Exhausted) (ms : Int) :
    IdsBehind { x with ids := (x.ids.next ms).2 } := by
  refine ⟨(IdGenerator.next_advances behind.wellFormed room ms).wellFormed, fun e listed => ?_⟩
  obtain ⟨id, layout, named, before⟩ := behind.before_next room ms listed
  exact ⟨id, layout, named, .inr before⟩

/-- **Entering the id just minted keeps the table behind the generator.** -/
theorem IdsBehind.enter {x : Venue} (behind : x.IdsBehind) (room : ¬ x.ids.Exhausted) (ms : Int)
    {jid : JobId} (minted : (x.ids.next ms).1 = .ok jid) (c : Nat) (r : Record) :
    IdsBehind { x with ids := (x.ids.next ms).2,
                       table := x.table ++ [{ id := jid.text, cell := c, record := r }] } := by
  have advances := IdGenerator.next_advances behind.wellFormed room ms
  obtain ⟨layout, carried⟩ := IdGenerator.minted_of_next advances.wellFormed minted
  refine ⟨advances.wellFormed, fun e listed => ?_⟩
  rcases List.mem_append.mp listed with old | new
  · obtain ⟨id, idLayout, named, before⟩ := behind.before_next room ms old
    exact ⟨id, idLayout, named, .inr before⟩
  · rw [List.mem_singleton.mp new]
    exact ⟨jid, layout, rfl, .inl carried⟩

/-- Why venue `x` refuses an invocation at clock reading `ms`: it shuts down, the reference is
empty, the reference resolves to an adapter that is not registered, the generator fails, or it
mints an id already in the table. -/
def Refuses (x : Venue) (ms : Int) (ref : String) (given : Option Metadata) : Prop :=
  x.closed = true ∨ ref.isEmpty = true ∨
    (∃ md, x.resolve ref given = .ok md ∧
      x.adapters.find? (·.name == (splitRef md.adapterOp).1) = none) ∨
    (∃ e, (x.ids.next ms).1 = .error e) ∨
    ∃ jid, (x.ids.next ms).1 = .ok jid ∧ (x.lookup jid.text).isSome

end Venue

namespace World

/-! ## What starting a job keeps -/

theorem newScope_run_none (w : World) (parent : Nat) :
    (newScope parent none).run w =
      ((w.scopes.create parent none w.now).1,
        { w with scopes := (w.scopes.create parent none w.now).2.2 }) := by
  simp only [newScope, StateT.run_bind, StateT.run_get, pure_bind]
  split
  · next deadline => simp at deadline
  · rfl

/-- `w` has the clock, the fibers and the venues of `w₀`. -/
def Still (w₀ w : World) : Prop :=
  w.now = w₀.now ∧ w.fibers = w₀.fibers ∧ w.venues = w₀.venues

section Still

open Std.Do

variable (w₀ : World)

theorem wakeEvery_still (p : Wait → Bool) :
    ⦃fun w => ⌜Still w₀ w⌝⦄ wakeEvery p ⦃⇓ _ w => ⌜Still w₀ w⌝⦄ := by
  mvcgen [wakeEvery, wake, -wakeEvery_sameJobs, -wake_sameJobs]
  case inv1 => exact ⇓ _ w => ⌜Still w₀ w⌝
  all_goals simp_all +zetaDelta [Still]

theorem endScope_still (s : Nat) (e : Ending) :
    ⦃fun w => ⌜Still w₀ w⌝⦄ endScope s e ⦃⇓ _ w => ⌜Still w₀ w⌝⦄ := by
  have woken := wakeEvery_still w₀
  mvcgen [endScope, woken, -endScope_sameJobs, -wakeEvery_sameJobs]
  case inv1 => exact ⇓ _ w => ⌜Still w₀ w⌝
  all_goals simp_all +zetaDelta [Still]

theorem notify_still (c : Nat) (r : Record) :
    ⦃fun w => ⌜Still w₀ w⌝⦄ notify c r ⦃⇓ _ w => ⌜Still w₀ w⌝⦄ := by
  mvcgen [notify, modifyCell, dispatch, send, wake, dropDelivery, emit, -notify_sameJobs,
    -dispatch_sameJobs, -send_sameJobs, -wake_sameJobs, -dropDelivery_sameJobs, -emit_sameJobs]
  all_goals simp_all +zetaDelta [Still]

theorem newScope_still (parent : Nat) :
    ⦃fun w => ⌜Still w₀ w⌝⦄ newScope parent none ⦃⇓ _ w => ⌜Still w₀ w⌝⦄ :=
  triple_of_run fun w still => by
    rw [newScope_run_none]
    exact still

end Still

/-- `w` has the jobs of `w₀` and its clock, fibers and venues. -/
def Calm (w₀ w : World) : Prop := SameJobs w₀ w ∧ Still w₀ w

section Calm

open Std.Do

theorem calm_of {α : Type} {prog : WorldM α}
    (same :
      ∀ w₀, ⦃fun w => ⌜SameJobs w₀ w⌝⦄ prog ⦃⇓ _ w => ⌜SameJobs w₀ w⌝⦄)
    (still : ∀ w₀, ⦃fun w => ⌜Still w₀ w⌝⦄ prog ⦃⇓ _ w => ⌜Still w₀ w⌝⦄)
    (w₀ : World) :
    ⦃fun w => ⌜Calm w₀ w⌝⦄ prog ⦃⇓ _ w => ⌜Calm w₀ w⌝⦄ :=
  triple_of_run fun _ calm => ⟨run_of_spec (same w₀) calm.1, run_of_spec (still w₀) calm.2⟩

theorem newScope_calm (w₀ : World) (parent : Nat) :
    ⦃fun w => ⌜Calm w₀ w⌝⦄ newScope parent none ⦃⇓ _ w => ⌜Calm w₀ w⌝⦄ :=
  calm_of (fun w₀ => newScope_sameJobs w₀ parent none) (fun w₀ => newScope_still w₀ parent)
    w₀

theorem endScope_calm (w₀ : World) (s : Nat) (e : Ending) :
    ⦃fun w => ⌜Calm w₀ w⌝⦄ endScope s e ⦃⇓ _ w => ⌜Calm w₀ w⌝⦄ :=
  calm_of (fun w₀ => endScope_sameJobs w₀ s e) (fun w₀ => endScope_still w₀ s e) w₀

theorem notify_calm (w₀ : World) (c : Nat) (r : Record) :
    ⦃fun w => ⌜Calm w₀ w⌝⦄ notify c r ⦃⇓ _ w => ⌜Calm w₀ w⌝⦄ :=
  calm_of (fun w₀ => notify_sameJobs w₀ c r) (fun w₀ => notify_still w₀ c r) w₀

theorem emit_calm (w₀ : World) (line : String) :
    ⦃fun w => ⌜Calm w₀ w⌝⦄ emit line ⦃⇓ _ w => ⌜Calm w₀ w⌝⦄ :=
  calm_of (fun w₀ => emit_sameJobs w₀ line) (fun w₀ => by mvcgen [emit, -emit_sameJobs]) w₀

end Calm

/-- The record of a job a venue creates at clock reading `ms` (milliseconds): `PENDING`, with
no output or error yet, created and updated at `ms`. -/
def createdRecord (ms : Int) (id ref : String) (input : Value) (name : String) : Record :=
  { id := id, op := ref, status := .pending, input := input, created := ms, updated := ms,
    name := name }

theorem create_pending (ms : Int) (id ref : String) (input : Value) (name : String) :
    (Job.create ms
      { id := id, op := ref, status := .pending, input := input, name := name }).record =
      createdRecord ms id ref input name := by
  simp [Job.create, Record.normalize, createdRecord, Status.isFailure]

open Std.Do in
/-- Minting rewrites the venue's generator only. -/
theorem modifyVenue_ids_clock (V : JobView) (n : Int) (v : Nat) (g : IdGenerator) :
    ⦃fun w => ⌜w.jobView = V ∧ w.now = n⌝⦄ modifyVenue v (fun x => { x with ids := g })
    ⦃⇓ _ w => ⌜w.jobView = V ∧ w.now = n⌝⦄ :=
  triple_of_run fun _ ⟨viewed, clock⟩ =>
    ⟨run_of_spec (modifyVenue_jobView V v (f := fun x => { x with ids := g }) fun _ => rfl)
      viewed, clock⟩

open Std.Do in
/-- **Starting a job** ends in one of three ways: the mint fails, the id minted is taken, or a
`PENDING` job is entered under it in a new cell. Only the last changes the jobs. -/
theorem startJob_enters (w₀ : World) {v : Nat} {x : Venue} (found : w₀.venue? v = some x)
    (ref : String) (input : Value) (md : Option Metadata) (adapter : String)
    (cb : Option Callback) :
    ⦃fun w => ⌜w = w₀⌝⦄ startJob v ref input md adapter cb
    ⦃⇓ res w => ⌜(∃ e, (x.ids.next w₀.millis).1 = .error e ∧
          res = .error (Fault.internal "generate job id" (some e)) ∧ w.jobView = w₀.jobView) ∨
        (∃ jid, (x.ids.next w₀.millis).1 = .ok jid ∧ (x.lookup jid.text).isSome ∧
          res = .error (Fault.conflict "job" "job already exists") ∧ w.jobView = w₀.jobView) ∨
        (∃ jid s, (x.ids.next w₀.millis).1 = .ok jid ∧ x.lookup jid.text = none ∧
          res = .ok (w₀.cells.size, s) ∧ w.jobView = w₀.jobView.enter v
            (createdRecord w₀.millis jid.text ref input ((md.map (·.name)).getD "")))⌝⦄ := by
  have ids := fun (V : JobView) (n : Int) (g : IdGenerator) => modifyVenue_ids_clock V n v g
  unfold startJob
  mvcgen [ids, newScope_calm, endScope_calm, notify_calm, emit_calm, -newScope_sameJobs,
    -endScope_sameJobs, -notify_sameJobs, -emit_sameJobs]
  all_goals try simp only [Calm, SameJobs, Still] at *
  all_goals simp_all +zetaDelta [JobCell.view, Keeper.venue?, size_jobView, JobView.enter,
    create_pending, createdRecord, millis]
  -- the one goal left is the branch of a missing venue, which `found` rules out
  rename_i missing present
  exact absurd present.symm (missing _)

open Std.Do in
/-- Starting a job starts no fiber, and leaves its venue with the generator after one call. -/
theorem startJob_frame (w₀ : World) {v : Nat} {x : Venue} (found : w₀.venue? v = some x)
    (ref : String) (input : Value) (md : Option Metadata) (adapter : String)
    (cb : Option Callback) :
    ⦃fun w => ⌜w = w₀⌝⦄ startJob v ref input md adapter cb
    ⦃⇓ _ w => ⌜w.fibers = w₀.fibers ∧
      (w.venue? v).map (·.ids) = some (x.ids.next w₀.millis).2⌝⦄ := by
  unfold startJob
  mvcgen [modifyVenue, newCell, emit, newScope_still, endScope_still, notify_still,
    -newScope_sameJobs, -endScope_sameJobs, -notify_sameJobs, -emit_sameJobs, -newCell_jobView,
    -appendEntry_jobView]
  all_goals try simp only [Still] at *
  all_goals simp_all +zetaDelta [venue?, millis, Array.getElem?_modify]
  rename_i missing present
  exact absurd present.symm (missing _)

/-- The three ends of starting a job, on one run. -/
theorem startJob_cases {w : World} {v : Nat} {x : Venue} (found : w.venue? v = some x)
    (ref : String) (input : Value) (md : Option Metadata) (adapter : String)
    (cb : Option Callback) :
    ((startJob v ref input md adapter cb).run w).2.fibers = w.fibers ∧
    (((startJob v ref input md adapter cb).run w).2.venue? v).map (·.ids) =
      some (x.ids.next w.millis).2 ∧
    ((∃ e, (x.ids.next w.millis).1 = .error e ∧
          ((startJob v ref input md adapter cb).run w).1 =
            .error (Fault.internal "generate job id" (some e)) ∧
          ((startJob v ref input md adapter cb).run w).2.jobView = w.jobView) ∨
        (∃ jid, (x.ids.next w.millis).1 = .ok jid ∧ (x.lookup jid.text).isSome ∧
          ((startJob v ref input md adapter cb).run w).1 =
            .error (Fault.conflict "job" "job already exists") ∧
          ((startJob v ref input md adapter cb).run w).2.jobView = w.jobView) ∨
        (∃ jid s, (x.ids.next w.millis).1 = .ok jid ∧ x.lookup jid.text = none ∧
          ((startJob v ref input md adapter cb).run w).1 = .ok (w.cells.size, s) ∧
          ((startJob v ref input md adapter cb).run w).2.jobView = w.jobView.enter v
            (createdRecord w.millis jid.text ref input ((md.map (·.name)).getD "")))) :=
  ⟨(run_of_triple (startJob_frame w found ref input md adapter cb)).1,
    (run_of_triple (startJob_frame w found ref input md adapter cb)).2,
    run_of_triple (startJob_enters w found ref input md adapter cb)⟩

/-- A job entered as `PENDING` fails with the reason it is failed with. -/
theorem failJob_entered {w w₁ : World} {v : Nat} {r : Record}
    (entered : w₁.jobView = w.jobView.enter v r) (pending : r.status = .pending)
    (reason : String) :
    (((failJob w.cells.size reason).run w₁).2.recordOf w.cells.size).status = .failed ∧
      (((failJob w.cells.size reason).run w₁).2.recordOf w.cells.size).error = reason := by
  have cell : w₁.jobView.cell? w.cells.size = some (r, some v) := by
    simp [entered, JobView.enter, size_jobView]
  have inside : w.cells.size < w₁.cells.size := (lt_size_iff w₁ _).mpr (by simp [cell])
  have running : w₁.isFinished w.cells.size = false := by
    rw [isFinished_eq_view, cell]
    simp [Record.isFinished, pending, Status.isFinished]
  exact failJob_fails inside running reason

/-! ## The invocation -/

theorem invoke_run_unnamed {w : World} {v : Nat} {x : Venue} (found : w.venue? v = some x)
    (opened : x.closed = false) {ref : String} (empty : ref.isEmpty = true) (input : Value)
    (cb : Option Callback) (given : Option Metadata) :
    (invoke v ref input cb given).run w =
      (.error (.validation "operation" "operation reference is required"), w) := by
  simp [invoke, found, opened, empty]
  rfl

theorem invoke_run_unresolved {w : World} {v : Nat} {x : Venue} (found : w.venue? v = some x)
    (opened : x.closed = false) {ref : String} (named : ref.isEmpty = false)
    {given : Option Metadata} {reason : String} (unresolved : x.resolve ref given = .error reason)
    (input : Value) (cb : Option Callback) :
    (invoke v ref input cb given).run w =
      match ((startJob v ref input none "unresolved" cb).run w).1 with
      | .error f => (.error f, ((startJob v ref input none "unresolved" cb).run w).2)
      | .ok (c, _) =>
        (.ok c,
          ((failJob c reason).run ((startJob v ref input none "unresolved" cb).run w).2).2) := by
  simp [invoke, found, opened, named, unresolved]
  rcases (startJob v ref input none "unresolved" cb).run w with ⟨_ | ⟨c, s⟩, w'⟩ <;> rfl

theorem invoke_run_unregistered {w : World} {v : Nat} {x : Venue} (found : w.venue? v = some x)
    (opened : x.closed = false) {ref : String} (named : ref.isEmpty = false)
    {given : Option Metadata} {md : Metadata} (resolved : x.resolve ref given = .ok md)
    (missing : x.adapters.find? (·.name == (splitRef md.adapterOp).1) = none) (input : Value)
    (cb : Option Callback) :
    (invoke v ref input cb given).run w =
      (.error (.configuration "adapter" (splitRef md.adapterOp).1 "not registered"), w) := by
  simp [invoke, found, opened, named, resolved, missing]
  rfl

theorem invoke_run_registered {w : World} {v : Nat} {x : Venue} (found : w.venue? v = some x)
    (opened : x.closed = false) {ref : String} (named : ref.isEmpty = false)
    {given : Option Metadata} {md : Metadata} (resolved : x.resolve ref given = .ok md)
    {a : Adapter}
    (registered : x.adapters.find? (·.name == (splitRef md.adapterOp).1) = some a) (input : Value)
    (cb : Option Callback) :
    (invoke v ref input cb given).run w =
      match ((startJob v ref input (some md) (splitRef md.adapterOp).1 cb).run w).1 with
      | .error f =>
        (.error f, ((startJob v ref input (some md) (splitRef md.adapterOp).1 cb).run w).2)
      | .ok (c, scope) =>
        (.ok c, ((runAdapter v a c scope (splitRef md.adapterOp).2 md input).run
          ((startJob v ref input (some md) (splitRef md.adapterOp).1 cb).run w).2).2) := by
  simp [invoke, found, opened, named, resolved, registered]
  rcases (startJob v ref input (some md) (splitRef md.adapterOp).1 cb).run w with
    ⟨_ | ⟨c, s⟩, w'⟩ <;> rfl


/-- **What an invocation does**, from world `w`, whose venue `v` is `x`, to the answer and the
world it leaves. The first three refusals change nothing; the last two have minted an id, so
the generator has moved, but the jobs and fibers are as they were. An accepted invocation
enters one `PENDING` job under a fresh id, then fails it with the reason a reference did not
resolve, or hands it to the resolved adapter once. -/
inductive Invoked (w : World) (v : Nat) (x : Venue) (ref : String) (input : Value)
    (given : Option Metadata) : Except Fault Nat → World → Prop
  | closed (shut : x.closed = true) :
      Invoked w v x ref input given (.error (.unavailable "engine is shutting down")) w
  | unnamed (opened : x.closed = false) (empty : ref.isEmpty = true) :
      Invoked w v x ref input given
        (.error (.validation "operation" "operation reference is required")) w
  | unregistered {md : Metadata} (opened : x.closed = false) (named : ref.isEmpty = false)
      (resolved : x.resolve ref given = .ok md)
      (missing : x.adapters.find? (·.name == (splitRef md.adapterOp).1) = none) :
      Invoked w v x ref input given
        (.error (.configuration "adapter" (splitRef md.adapterOp).1 "not registered")) w
  | unminted {e : Fault} {w' : World} (opened : x.closed = false) (named : ref.isEmpty = false)
      (runnable : ∀ md, x.resolve ref given = .ok md →
        (x.adapters.find? (·.name == (splitRef md.adapterOp).1)).isSome)
      (minted : (x.ids.next w.millis).1 = .error e) (kept : w'.jobView = w.jobView)
      (idle : w'.fibers = w.fibers)
      (advanced : (w'.venue? v).map (·.ids) = some (x.ids.next w.millis).2) :
      Invoked w v x ref input given (.error (Fault.internal "generate job id" (some e))) w'
  | duplicate {jid : JobId} {w' : World} (opened : x.closed = false) (named : ref.isEmpty = false)
      (runnable : ∀ md, x.resolve ref given = .ok md →
        (x.adapters.find? (·.name == (splitRef md.adapterOp).1)).isSome)
      (minted : (x.ids.next w.millis).1 = .ok jid) (taken : (x.lookup jid.text).isSome)
      (kept : w'.jobView = w.jobView) (idle : w'.fibers = w.fibers)
      (advanced : (w'.venue? v).map (·.ids) = some (x.ids.next w.millis).2) :
      Invoked w v x ref input given (.error (Fault.conflict "job" "job already exists")) w'
  | unresolved {reason : String} {jid : JobId} {w₁ w' : World} (opened : x.closed = false)
      (named : ref.isEmpty = false) (failed : x.Unresolvable ref reason)
      (minted : (x.ids.next w.millis).1 = .ok jid) (fresh : x.lookup jid.text = none)
      (entered : w₁.jobView = w.jobView.enter v (createdRecord w.millis jid.text ref input ""))
      (idle : w₁.fibers = w.fibers)
      (advanced : (w₁.venue? v).map (·.ids) = some (x.ids.next w.millis).2)
      (ran : w' = ((failJob w.cells.size reason).run w₁).2)
      (failedWith : (w'.recordOf w.cells.size).status = .failed ∧
        (w'.recordOf w.cells.size).error = reason) :
      Invoked w v x ref input given (.ok w.cells.size) w'
  | started {md : Metadata} {a : Adapter} {jid : JobId} {scope : Nat} {w₁ w' : World}
      (opened : x.closed = false) (named : ref.isEmpty = false)
      (resolved : x.resolve ref given = .ok md)
      (registered : x.adapters.find? (·.name == (splitRef md.adapterOp).1) = some a)
      (minted : (x.ids.next w.millis).1 = .ok jid) (fresh : x.lookup jid.text = none)
      (entered :
        w₁.jobView = w.jobView.enter v (createdRecord w.millis jid.text ref input md.name))
      (idle : w₁.fibers = w.fibers)
      (advanced : (w₁.venue? v).map (·.ids) = some (x.ids.next w.millis).2)
      (ran :
        w' = ((runAdapter v a w.cells.size scope (splitRef md.adapterOp).2 md input).run w₁).2) :
      Invoked w v x ref input given (.ok w.cells.size) w'

/-- **An invocation fails exactly when the venue refuses it.** -/
theorem Invoked.error_iff {w : World} {v : Nat} {x : Venue} {ref : String} {input : Value}
    {given : Option Metadata} {res : Except Fault Nat} {w' : World}
    (invoked : Invoked w v x ref input given res w') :
    (∃ f, res = .error f) ↔ x.Refuses w.millis ref given := by
  cases invoked with
  | closed shut => simp [Venue.Refuses, shut]
  | unnamed opened empty => simp [Venue.Refuses, empty]
  | unregistered opened named resolved missing =>
    exact ⟨fun _ => .inr (.inr (.inl ⟨_, resolved, missing⟩)), fun _ => ⟨_, rfl⟩⟩
  | unminted opened named runnable minted =>
    exact ⟨fun _ => .inr (.inr (.inr (.inl ⟨_, minted⟩))), fun _ => ⟨_, rfl⟩⟩
  | duplicate opened named runnable minted taken =>
    exact ⟨fun _ => .inr (.inr (.inr (.inr ⟨_, minted, taken⟩))), fun _ => ⟨_, rfl⟩⟩
  | unresolved opened named failed minted fresh =>
    have unresolved := (Venue.resolve_eq_error_iff x ref given _).mpr failed
    simp [Venue.Refuses, opened, named, unresolved, minted, fresh]
  | started opened named resolved registered minted fresh =>
    simp [Venue.Refuses, opened, named, resolved, registered, minted, fresh, -List.find?_eq_none]

theorem invoke_invoked {w : World} {v : Nat} {x : Venue} (found : w.venue? v = some x)
    (ref : String) (input : Value) (cb : Option Callback) (given : Option Metadata) :
    Invoked w v x ref input given ((invoke v ref input cb given).run w).1
      ((invoke v ref input cb given).run w).2 := by
  cases opened : x.closed
  case true =>
    rw [invoke_of_closed found opened]
    exact .closed opened
  cases named : ref.isEmpty
  case true =>
    rw [invoke_run_unnamed found opened named]
    exact .unnamed opened named
  rcases resolved : x.resolve ref given with reason | md
  case error =>
    rw [invoke_run_unresolved found opened named resolved]
    have runnable : ∀ md, x.resolve ref given = .ok md →
        (x.adapters.find? (·.name == (splitRef md.adapterOp).1)).isSome := by
      simp [resolved]
    obtain ⟨idle, advanced, outcome⟩ := startJob_cases found ref input none "unresolved" cb
    rcases outcome with ⟨e, minted, res, kept⟩ | ⟨jid, minted, taken, res, kept⟩ |
      ⟨jid, s, minted, fresh, res, entered⟩
    · rw [res]
      exact .unminted opened named runnable minted kept idle advanced
    · rw [res]
      exact .duplicate opened named runnable minted taken kept idle advanced
    · rw [res]
      exact .unresolved opened named ((Venue.resolve_eq_error_iff x ref given reason).mp resolved)
        minted fresh entered idle advanced rfl
        (failJob_entered entered rfl reason)
  rcases registered : x.adapters.find? (·.name == (splitRef md.adapterOp).1) with _ | a
  case none =>
    rw [invoke_run_unregistered found opened named resolved registered]
    exact .unregistered opened named resolved registered
  rw [invoke_run_registered found opened named resolved registered]
  have runnable : ∀ md, x.resolve ref given = .ok md →
      (x.adapters.find? (·.name == (splitRef md.adapterOp).1)).isSome := by
    intro md' same
    rw [resolved] at same
    cases same
    simp [registered]
  obtain ⟨idle, advanced, outcome⟩ :=
    startJob_cases found ref input (some md) (splitRef md.adapterOp).1 cb
  rcases outcome with ⟨e, minted, res, kept⟩ | ⟨jid, minted, taken, res, kept⟩ |
    ⟨jid, s, minted, fresh, res, entered⟩
  · rw [res]
    exact .unminted opened named runnable minted kept idle advanced
  · rw [res]
    exact .duplicate opened named runnable minted taken kept idle advanced
  · rw [res]
    exact .started opened named resolved registered minted fresh entered idle advanced rfl

/-- **What an invocation does.** From every world whose venue `v` is `x`, an invocation
ends as one of the cases of `Invoked`; it fails exactly when the venue refuses it; a literal
reference runs the adapter operation it names, whatever metadata is given; and an id already
in the table can be minted only once the generator's timestamp wraps. -/
theorem invocation_outcome {w : World} {v : Nat} {x : Venue} (found : w.venue? v = some x)
    (ref : String) (input : Value) (cb : Option Callback) (given : Option Metadata) :
    Invoked w v x ref input given ((invoke v ref input cb given).run w).1
        ((invoke v ref input cb given).run w).2 ∧
      ((∃ f, ((invoke v ref input cb given).run w).1 = .error f) ↔
        x.Refuses w.millis ref given) ∧
      (isLiteralRef ref = true →
        ∃ md, x.resolve ref given = .ok md ∧ splitRef md.adapterOp = splitRef ref) ∧
      (x.IdsBehind → ¬ x.ids.Exhausted →
        ∀ jid, (x.ids.next w.millis).1 = .ok jid → x.lookup jid.text = none) := by
  have invoked := invoke_invoked found ref input cb given
  refine ⟨invoked, invoked.error_iff, fun literal => ?_,
    fun behind room _ minted => Venue.fresh_of_behind behind room w.millis minted⟩
  obtain ⟨md, resolved, named⟩ := x.resolve_literal literal given
  exact ⟨md, resolved, by rw [named]⟩

/-- A fresh venue with no adapters, asked to run a literal reference. -/
theorem invocation_outcome_literal :
    let x : Venue := { name := "api", ids := { entropy := .counting 7 }, base := 0 }
    let w : World := { now := 0, venues := #[x] }
    let invoked := (invoke 0 "echo:say" .null none none).run w
    w.venue? 0 = some x ∧
      Invoked w 0 x "echo:say" .null none invoked.1 invoked.2 ∧
      ((∃ f, invoked.1 = .error f) ↔ x.Refuses w.millis "echo:say" none) ∧
      (isLiteralRef "echo:say" = true →
        ∃ md, x.resolve "echo:say" none = .ok md ∧
          splitRef md.adapterOp = splitRef "echo:say") ∧
      (x.IdsBehind → ¬ x.ids.Exhausted →
        ∀ jid, (x.ids.next w.millis).1 = .ok jid → x.lookup jid.text = none) := by
  intro x w invoked
  exact ⟨rfl, invocation_outcome rfl "echo:say" .null none none⟩

end World

end JobEngine

import JobEngine.Proofs.Engine.Hooks
import JobEngine.Proofs.Job.Events

/-!
# What one step tells a callback

A venue that honours callbacks gives each job invoked with one a **notice**: where its events
go, which event types it wants, and how many events it has numbered. Each record the job takes
is told to the notice; a record the filter wants becomes the job's next event, handed to the
outlet, and moves the count on.

This module says what each move of a job does to what callbacks hear of, in one view of the
world (`World.hearing`): the clock, the outlet and what it recorded, and for each cell its job's
record and its notice. With an outlet that records what it is handed, a change of a job that
fires gives its cell the new record and tells the notice of it (`World.hearing_changeHere`);
starting a job enters a cell holding a `PENDING` record and tells the notice of the callback it
was given (`World.startJob_hearing`); copying a remote job enters a cell with no notice, and
deleting a job, or any step that tells no one, changes nothing callbacks hear of.

## Main Definitions

* `Notice.delivery?`, `Notice.told` — what a callback is handed for one record, and how its
  count moves on.
* `Callback.notice` — the notice a callback starts from, for a job id.
* `Hearing`, `World.hearing` — what callbacks hear of in a world.
* `Hearing.hear`, `Hearing.tell`, `Hearing.enter` — a cell telling its callback of a record,
  after taking it, or as it is entered.

## Main Statements

* `World.hearing_notify` — telling a callback, with an outlet that records.
* `World.hearing_changeHere` — a change that fires tells the cell's callback of its record.
* `World.startJob_hearing` — starting a job enters a `PENDING` job under a 32-character id and
  tells its callback, or changes nothing callbacks hear of.
-/

namespace JobEngine

/-! ## Telling a callback -/

namespace Notice

/-- The delivery a callback is handed for record `r` at clock reading `now`: the job's next
event, to the callback's URL with its key, if its filter wants the record's event type. -/
def delivery? (n : Notice) (r : Record) (now : Int) : Option Delivery :=
  if eventWanted r.eventType n.events then
    some { event := (n.numbering.forRecord r now).1, url := n.url, key := n.key }
  else none

/-- The notice once told of record `r`: a record the filter wants takes the next number. -/
def told (n : Notice) (r : Record) (now : Int) : Notice :=
  if eventWanted r.eventType n.events then { n with numbering := (n.numbering.forRecord r now).2 }
  else n

@[simp] theorem told_url (n : Notice) (r : Record) (now : Int) : (n.told r now).url = n.url := by
  unfold told
  split <;> rfl

@[simp] theorem told_key (n : Notice) (r : Record) (now : Int) : (n.told r now).key = n.key := by
  unfold told
  split <;> rfl

@[simp] theorem told_events (n : Notice) (r : Record) (now : Int) :
    (n.told r now).events = n.events := by
  unfold told
  split <;> rfl

end Notice

/-- The notice a callback starts from for the job with id `id`: no event numbered yet. -/
def Callback.notice (cb : Callback) (id : String) : Notice :=
  { url := cb.url, key := cb.key, events := cb.events,
    numbering := { jobId := id, source := engineEventSource } }

/-! ## What callbacks hear of in a world -/

/-- The notice of a keeper: that of a venue's job with a callback. -/
def Keeper.notice? : Keeper → Option Notice
  | .venue _ _ _ n => n
  | _ => Option.none

/-- A cell as its callback sees it: its job's record and its notice. -/
def JobCell.heard (x : JobCell) : Record × Option Notice := (x.job.record, x.keeper.notice?)

/-- **What callbacks hear of in a world**: the clock, the outlet and what it recorded, and for
each cell its job's record and its notice. -/
structure Hearing where
  now : Int
  outlet : Outlet
  recorded : List Delivery
  cells : Array (Record × Option Notice)

/-- What the callbacks of `w` hear of. -/
def World.hearing (w : World) : Hearing := ⟨w.now, w.outlet, w.recorded, w.cells.map JobCell.heard⟩

@[simp] theorem World.hearing_now (w : World) : w.hearing.now = w.now := rfl

@[simp] theorem World.hearing_outlet (w : World) : w.hearing.outlet = w.outlet := rfl

@[simp] theorem World.hearing_recorded (w : World) : w.hearing.recorded = w.recorded := rfl

@[simp] theorem World.size_hearing (w : World) : w.hearing.cells.size = w.cells.size :=
  Array.size_map ..

namespace Hearing

/-- Cell `c` tells its callback of record `r`: the outlet records the delivery, if any, and the
notice moves on. -/
def hear (H : Hearing) (c : Nat) (r : Record) : Hearing :=
  { H with
    recorded := H.recorded ++ ((H.cells[c]?).bind fun x => x.2.bind (·.delivery? r H.now)).toList
    cells := H.cells.modify c fun x => (x.1, x.2.map (·.told r H.now)) }

/-- Cell `c` takes record `r` and tells its callback of it. -/
def tell (H : Hearing) (c : Nat) (r : Record) : Hearing :=
  ({ H with cells := H.cells.modify c fun x => (r, x.2) } : Hearing).hear c r

/-- A new cell holding record `r` with notice `n` tells its callback of it. -/
def enter (H : Hearing) (r : Record) (n : Option Notice) : Hearing :=
  ({ H with cells := H.cells.push (r, n) } : Hearing).hear H.cells.size r

variable (H : Hearing) (c : Nat) (r : Record)

@[simp] theorem tell_outlet : (H.tell c r).outlet = H.outlet := rfl

@[simp] theorem size_tell : (H.tell c r).cells.size = H.cells.size := by
  simp [tell, hear]

theorem recorded_tell : (H.tell c r).recorded =
    H.recorded ++ ((H.cells[c]?).bind fun x => x.2.bind (·.delivery? r H.now)).toList := by
  simp only [tell, hear, Array.getElem?_modify, if_true]
  cases H.cells[c]? <;> rfl

theorem cells_tell (c' : Nat) : (H.tell c r).cells[c']? =
    if c = c' then (H.cells[c']?).map fun x => (r, x.2.map (·.told r H.now)) else H.cells[c']? := by
  simp only [tell, hear, Array.getElem?_modify]
  split
  · next same =>
    subst same
    cases H.cells[c]? <;> rfl
  · rfl

variable (n : Option Notice)

@[simp] theorem enter_outlet : (H.enter r n).outlet = H.outlet := rfl

@[simp] theorem size_enter : (H.enter r n).cells.size = H.cells.size + 1 := by
  simp [enter, hear]

theorem recorded_enter : (H.enter r n).recorded =
    H.recorded ++ (n.bind (·.delivery? r H.now)).toList := by
  simp [enter, hear]

theorem cells_enter (c' : Nat) : (H.enter r n).cells[c']? =
    if c' = H.cells.size then some (r, n.map (·.told r H.now)) else H.cells[c']? := by
  simp only [enter, hear, Array.getElem?_modify, Array.getElem?_push]
  by_cases last : c' = H.cells.size
  · simp [last]
  · simp [last, Ne.symm last]

end Hearing

/-- The notice a new job of venue `v` with id `id` starts from: that of its callback, if it has
one and the venue honours callbacks. -/
def World.startNotice (w : World) (v : Nat) (cb : Option Callback) (id : String) : Option Notice :=
  if ((w.venue? v).map (·.notifies)).getD false then cb.map (·.notice id) else none

/-- Mapping after rewriting one entry is rewriting the mapped entry, when the two rewrites agree
there. -/
theorem Array.map_modify_of {α β : Type} {xs : Array α} {c : Nat} {f : α → α} {g : β → β}
    {h : α → β} (agree : ∀ x, xs[c]? = some x → h (f x) = g (h x)) :
    (xs.modify c f).map h = (xs.map h).modify c g := by
  apply Array.ext_getElem?
  intro i
  simp only [Array.getElem?_map, Array.getElem?_modify]
  split
  · next same =>
    subst same
    cases found : xs[c]? with
    | none => rfl
    | some x => simp [agree x found]
  · rfl

/-- Rewriting an entry to itself changes nothing. -/
theorem Array.modify_of_fixed {α : Type} {xs : Array α} {c : Nat} {f : α → α}
    (fixed : ∀ x, xs[c]? = some x → f x = x) : xs.modify c f = xs := by
  apply Array.ext_getElem?
  intro i
  simp only [Array.getElem?_modify]
  split
  · next same =>
    subst same
    cases found : xs[c]? with
    | none => rfl
    | some x => simp [fixed x found]
  · rfl

/-- A cell whose callback does not want a record, or that has none, hears of it without a
trace. -/
theorem Hearing.hear_of_deaf {H : Hearing} {c : Nat} {r : Record}
    (deaf : ∀ x, H.cells[c]? = some x → ∀ n ∈ x.2, eventWanted r.eventType n.events = false) :
    H.hear c r = H := by
  have unchanged : ∀ x, H.cells[c]? = some x → (x.1, x.2.map (·.told r H.now)) = x := by
    rintro ⟨rec, notice⟩ found
    cases notice with
    | none => rfl
    | some n => simp [Notice.told, deaf _ found n rfl]
  have unheard : (H.cells[c]?).bind (fun x => x.2.bind (·.delivery? r H.now)) = none := by
    cases found : H.cells[c]? with
    | none => rfl
    | some x =>
      cases notice : x.2 with
      | none => simp [notice]
      | some n => simp [notice, Notice.delivery?, deaf x found n notice]
  simp only [hear, unheard, Option.toList_none, List.append_nil, Array.modify_of_fixed unchanged]

namespace World

/-- An outlet that records what it is handed records a delivery, and refuses nothing. -/
theorem dispatch_run_recording {w : World} (recording : w.outlet = .recording false)
    (d : Delivery) : ((dispatch d).run w).run = (none, { w with recorded := w.recorded ++ [d] }) := by
  simp [dispatch, recording]

/-- **Telling a callback**, with an outlet that records what it is handed: the callback of cell
`c` hears of record `r`. -/
theorem hearing_notify {w : World} (recording : w.outlet = .recording false) (c : Nat)
    (r : Record) : ((notify c r).run w).run.2.hearing = w.hearing.hear c r := by
  simp only [notify, StateT.run_bind, StateT.run_get, Id.run_bind, Id.run_pure]
  split
  · next job v a s n found =>
    by_cases wanted : eventWanted r.eventType n.events = true
    · simp only [wanted, ite_true, modifyCell, StateT.run_bind, StateT.run_modify, Id.run_bind,
        Id.run_pure, StateT.run_pure]
      rw [dispatch_run_recording]
      · simp [hearing, Hearing.hear, found, JobCell.heard, Keeper.notice?, Notice.delivery?, wanted]
        apply Array.map_modify_of
        intro x here
        simp_all [JobCell.heard, Keeper.notice?, Notice.told]
      · exact recording
    · -- the callback does not want the record
      simp only [wanted, ite_false, Bool.false_eq_true, StateT.run_pure, Id.run_pure]
      refine (Hearing.hear_of_deaf ?_).symm
      simp [hearing, found, JobCell.heard, Keeper.notice?, wanted]
  · next other =>
    -- the cell has no callback
    simp only [StateT.run_pure, Id.run_pure]
    refine (Hearing.hear_of_deaf ?_).symm
    intro x found n notice
    simp only [hearing, Array.getElem?_map, Option.map_eq_some_iff] at found
    obtain ⟨⟨job, keeper⟩, found, rfl⟩ := found
    cases keeper with
    | venue v a s n' =>
      cases n' with
      | none => cases notice
      | some n' => exact absurd found (other job v a s n')
    | follower => cases notice
    | none => cases notice

/-- The steps that tell no one keep what every cell's callback hears of. -/
theorem Silent.heard {w₀ w : World} (silent : Silent w₀ w) :
    w.cells.map JobCell.heard = w₀.cells.map JobCell.heard := by
  have views := congrArg JobView.cells silent.aside.jobs
  simp only [jobView] at views
  apply Array.ext_getElem?
  intro i
  have view := congrArg (·[i]?) views
  have keeper := congrArg (·[i]?) silent.keepers
  simp only [Array.getElem?_map] at view keeper ⊢
  -- a cell is there in both worlds or in neither, with one record and one keeper
  cases here : w.cells[i]? <;> cases there : w₀.cells[i]? <;>
    simp_all [JobCell.heard, JobCell.view]

/-- A step that tells no one and keeps the clock keeps what callbacks hear of. -/
theorem Silent.hearing {w₀ w : World} (silent : Silent w₀ w) (now : w.now = w₀.now) :
    w.hearing = w₀.hearing := by
  simp only [World.hearing, now, silent.outlet, silent.recorded, silent.heard]

theorem hearing_wakeEvery (p : Wait → Bool) (w : World) :
    ((wakeEvery p).run w).run.2.hearing = w.hearing :=
  (run_of_spec (wakeEvery_silent w p) (Silent.refl w)).hearing
    (run_of_spec (wakeEvery_still w p) ⟨rfl, rfl, rfl⟩).1

theorem hearing_endScope (s : Nat) (e : Ending) (w : World) :
    ((endScope s e).run w).run.2.hearing = w.hearing :=
  (run_of_spec (endScope_silent w s e) (Silent.refl w)).hearing
    (run_of_spec (endScope_still w s e) ⟨rfl, rfl, rfl⟩).1

theorem hearing_tableUpdate (v : Nat) (r : Record) (w : World) :
    ((tableUpdate v r).run w).run.2.hearing = w.hearing := rfl

theorem hearing_recordFinished (v : Nat) (adapter : String) (r : Record) (w : World) :
    ((recordFinished v adapter r).run w).run.2.hearing = w.hearing := by
  show ((recordFinished v adapter r).run w).2.hearing = _
  rw [recordFinished_run]
  split <;> rfl

/-- Giving cell `c` job `j` gives it `j`'s record and keeps its notice. -/
theorem hearing_setJob (w : World) (c : Nat) (j : Job) :
    ({ w with cells := w.cells.modify c fun x => { x with job := j } } : World).hearing =
      { w.hearing with cells := w.hearing.cells.modify c fun x => (j.record, x.2) } := by
  simp only [World.hearing, Hearing.mk.injEq, true_and]
  exact Array.map_modify_of fun _ _ => rfl

@[simp] theorem outlet_wakeEvery (p : Wait → Bool) (w : World) :
    ((wakeEvery p).run w).run.2.outlet = w.outlet :=
  congrArg Hearing.outlet (hearing_wakeEvery p w)

@[simp] theorem outlet_endScope (s : Nat) (e : Ending) (w : World) :
    ((endScope s e).run w).run.2.outlet = w.outlet :=
  congrArg Hearing.outlet (hearing_endScope s e w)

@[simp] theorem outlet_tableUpdate (v : Nat) (r : Record) (w : World) :
    ((tableUpdate v r).run w).run.2.outlet = w.outlet := rfl

/-- A cell without a callback hears of a record without a trace, once it holds any record. -/
theorem hear_setJob_unheard {w : World} {c : Nat} {cell : JobCell} (found : w.cells[c]? = some cell)
    (unheard : cell.keeper.notice? = none) (r r' : Record) :
    ({ w.hearing with cells := w.hearing.cells.modify c fun x => (r, x.2) } : Hearing).hear c r' =
      { w.hearing with cells := w.hearing.cells.modify c fun x => (r, x.2) } := by
  apply Hearing.hear_of_deaf
  intro x here n mem
  simp only [World.hearing, Array.getElem?_modify, Array.getElem?_map, found, if_true,
    Option.map_some, Option.some.injEq] at here
  subst here
  simp [JobCell.heard, unheard] at mem

/-- **A change of a job that fires**, with an outlet that records what it is handed: the cell
takes the change's record and tells its callback of it. -/
theorem hearing_changeHere {w : World} (recording : w.outlet = .recording false) {c : Nat}
    {cell : JobCell} (found : w.cells[c]? = some cell) {t : Job → Option (Job × Hook)} {j : Job}
    {h : Hook} (fired : t cell.job = some (j, h)) (announced : h.record = j.record) :
    ((changeHere c t).run w).2.hearing = w.hearing.tell c h.record := by
  show ((changeHere c t).run w).run.2.hearing = _
  obtain ⟨job, keeper⟩ := cell
  simp only [changeHere, StateT.run_bind, StateT.run_get, Id.run_bind, Id.run_pure, found, fired,
    modifyCell, StateT.run_modify]
  -- the hook decides which writes the keeper makes, the keeper whether a callback hears; with or
  -- without a future to settle, the wakes tell no one
  cases h <;> simp only [Hook.record] at announced ⊢ <;> cases keeper <;>
    simp only [StateT.run_bind, Id.run_bind, StateT.run_pure, Id.run_pure] <;> try split
  all_goals
    simp (disch := simp only [outlet_endScope, outlet_tableUpdate, outlet_wakeEvery, recording])
      only [StateT.run_bind, Id.run_bind, StateT.run_pure, Id.run_pure, hearing_recordFinished,
        hearing_notify, hearing_endScope, hearing_tableUpdate, hearing_wakeEvery, hearing_setJob]
  all_goals first
    | rw [Hearing.tell, hear_setJob_unheard found rfl, announced]
    | rw [Hearing.tell, announced]

open Std.Do in
theorem notify_hearing (w₀ : World) (c : Nat) (r : Record) :
    ⦃fun w => ⌜w = w₀⌝⦄ notify c r
      ⦃⇓ _ w => ⌜w₀.outlet = .recording false → w.hearing = w₀.hearing.hear c r⌝⦄ :=
  triple_of_run fun _ here recording => by
    subst here
    exact hearing_notify recording c r

open Std.Do in
theorem endScope_hearing (w₀ : World) (s : Nat) (e : Ending) :
    ⦃fun w => ⌜w = w₀⌝⦄ endScope s e ⦃⇓ _ w => ⌜w.hearing = w₀.hearing⌝⦄ :=
  triple_of_run fun _ here => by
    subst here
    exact hearing_endScope s e _

open Std.Do in
/-- **What starting a job does for callbacks**: either no job is entered and nothing a callback
hears of changes, or a new cell is entered with a `PENDING` record under a minted 32-character
id, and tells the callback it was given, if the venue honours callbacks, of that record. -/
theorem startJob_hearing (w₀ : World) (recording : w₀.outlet = .recording false) (v : Nat)
    (ref : String) (input : Value) (md : Option Metadata) (adapter : String) (cb : Option Callback) :
    ⦃fun w => ⌜w = w₀⌝⦄ startJob v ref input md adapter cb ⦃⇓ result w => ⌜(∀ c s,
      result = .ok (c, s) → ∃ r : Record, r.status = .pending ∧ r.id.length = 32 ∧
        c = w₀.cells.size ∧ w.hearing = w₀.hearing.enter r (w₀.startNotice v cb r.id)) ∧
      (∀ f, result = .error f → w.hearing = w₀.hearing)⌝⦄ := by
  unfold startJob
  mvcgen [newCell, modifyVenue, emit, newScope_spec, notify_hearing, endScope_hearing,
    -newScope_sameJobs, -endScope_sameJobs, -notify_sameJobs, -emit_sameJobs, -newCell_jobView,
    -appendEntry_jobView]
  all_goals refine ⟨fun c s done => ?_, fun f done => ?_⟩
  -- a job is entered only past the venue, the id and the duplicate check
  all_goals try cases done
  -- no job entered: the ids, a scope and its ending tell no one
  case vc1 | vc5 =>
    subst_vars
    rfl
  case vc2 =>
    rename_i made _ _ _ _ ended
    obtain ⟨-, rfl⟩ := made
    rw [ended]
    subst_vars
    rfl
  case' vc3 =>
    rename_i w here x found w₁ jid minted id scope w₂ made job dup w₃ w₄ jp _ w₅ u w₆ told
  case' vc4 =>
    rename_i w here x found w₁ jid minted id scope w₂ made job dup w₃ w₄ jp _ u w₆ told
  -- metered or not, the job's record is its first, told to the callback it was given
  all_goals
    subst here
    obtain ⟨rfl, rfl⟩ := made
    have named : job.record.id = id := by simp [job, Job.create, Record.normalize]
    have pending : job.record.status = .pending := by simp [job, Job.create, Record.normalize]
    have long : id.length = 32 := IdGenerator.length_text_next minted
    clear_value job id
    refine ⟨job.record, pending, named ▸ long, rfl, (told ?_).trans ?_⟩
    · simpa +zetaDelta using recording
    · simp +zetaDelta only [World.hearing, Hearing.enter, Array.map_push, JobCell.heard,
        Keeper.notice?, World.startNotice, found, named, Callback.notice, Option.map_some,
        Option.getD_some, Array.size_map]

/-- Copying a remote job enters a cell whose keeper tells no callback. -/
theorem hearing_newCopy (rec : Record) {keeper : Keeper} (unkept : keeper.venue? = none)
    (w : World) : ((newCopy rec keeper).run w).2.hearing =
      { w.hearing with cells := w.hearing.cells.push ((Job.create w.millis rec).record, none) } := by
  have unheard : keeper.notice? = none := by
    cases keeper with
    | venue => cases unkept
    | follower => rfl
    | none => rfl
  show ((newCopy rec keeper).run w).run.2.hearing = _
  simp only [newCopy, newCell, StateT.run_bind, StateT.run_get, StateT.run_modifyGet, Id.run_bind,
    Id.run_pure]
  simp [World.hearing, Array.map_push, JobCell.heard, unheard]

/-- Deleting a job touches a table only. -/
theorem hearing_deleteJob (v : Nat) (id : String) (w : World) :
    ((deleteJob v id).run w).2.hearing = w.hearing := by
  simp only [deleteJob, StateT.run_bind, StateT.run_get, pure_bind]
  split
  · rfl
  · split <;> rfl

/-- The record a cell's callback hears of is the record of the cell's job. -/
theorem recordOf_of_hearing {w : World} {c : Nat} {r : Record} {n : Option Notice}
    (heard : w.hearing.cells[c]? = some (r, n)) : w.recordOf c = r := by
  simp only [World.hearing, Array.getElem?_map, Option.map_eq_some_iff] at heard
  obtain ⟨x, found, same⟩ := heard
  rw [recordOf_of_found found]
  exact congrArg Prod.fst same

end World

end JobEngine

import JobEngine.Proofs.Engine.Apart
import JobEngine.Proofs.Remote.Fetch
import JobEngine.Proofs.Job.WellFormed

/-!
# A copy passes its changes on

A forwarded job is followed through a local *copy* of the remote job, whose keeper is the
forwarded job: every change the copy takes, other than to `PENDING`, is passed on to the
forwarded job as a record holding only the status, output and error. This module proves what
such changes, and the other operations of a relay, do to the job that is followed:

* the pass: a change of the copy that is not to `PENDING` gives a running forwarded job the
  copy's status, output and error, and leaves its identity;
* the forwarded job's record only *advances*: it stays as it is, or, while it runs, takes a
  record that keeps its id, operation, input, name and creation time and whose status is not
  `PENDING`;
* asking a peer that answers from a script changes no job, and changing jobs keeps the clock,
  the peers behind the links and the job every copy follows.

## Main Definitions

* `Record.passOn` — what a copy passes on of a record.
* `Record.identity`, `Record.result` — what makes a job itself, and how it went.
* `Record.Advances` — how a followed job's record may change.
* `World.Steady` — two worlds with the same clock, peers and followers.
* `World.Scripted` — a link whose peer answers from a script.

## Main Statements

* `World.change_passes_on` — what a copy's change does to the job it follows.
* `World.change_advances` — a change advances every job it does not change itself.
* `World.change_steady`, `World.exchange_sameJobs_of_scripted` — the frames.

## Design Notes

The identity is compared as a tuple, so that keeping it is one equation. Asking a venue of the
world serves an API request there, which may start or cancel jobs; only peers that answer from
a script are asked here without touching a job, and their replies may be any records at all.
-/

namespace JobEngine

namespace Record

/-- What a copy passes on of a record it took: the status, the output and the error. -/
def passOn (r : Record) : Record := { status := r.status, output := r.output, error := r.error }

/-- What makes a job itself: its id, operation, input, name and creation time. -/
def identity (r : Record) : String × String × Value × String × Int :=
  (r.id, r.op, r.input, r.name, r.created)

/-- How a job went: its status, output and error. -/
def result (r : Record) : Status × Value × String := (r.status, r.output, r.error)

/-- A merge keeps the identity of the record it replaces when the update names no other
operation, input or name. -/
theorem identity_mergeInto (now : Int) {r cur : Record} (op : r.op = "" ∨ r.op = cur.op)
    (input : r.input = .null ∨ r.input = cur.input) (name : r.name = "" ∨ r.name = cur.name) :
    (r.mergeInto now cur).identity = cur.identity := by
  simp only [identity, mergeInto, normalize, Prod.mk.injEq, true_and]
  refine ⟨?_, ?_, ?_⟩
  · rcases op with empty | same <;> simp_all
  · rcases input with empty | same <;> simp_all [Value.isNull]
  · rcases name with empty | same <;> simp_all

/-- What a copy passes on names no operation, input or name, so it keeps the identity. -/
@[simp] theorem identity_passOn_mergeInto (now : Int) (r cur : Record) :
    (r.passOn.mergeInto now cur).identity = cur.identity :=
  identity_mergeInto now (.inl rfl) (.inl rfl) (.inl rfl)

/-- A merge shows the result of the record it takes, as that record's status allows. -/
theorem result_mergeInto {r : Record} (given : r.status ≠ .unknown "") (now : Int) (cur : Record) :
    (r.mergeInto now cur).result = r.normalize.result := by
  simp [result, mergeInto, normalize, Status.orCurrent_of_ne given]

@[simp] theorem result_passOn_normalize (r : Record) : r.passOn.normalize.result = r.normalize.result :=
  rfl

@[simp] theorem status_passOn (r : Record) : r.passOn.status = r.status := rfl

/-- **How a followed job's record may change while its relay runs**: it stays, or the job,
running, takes a record that keeps its identity and has a status other than `PENDING`. -/
def Advances (r r' : Record) : Prop :=
  r' = r ∨ (r.isFinished = false ∧ r'.identity = r.identity ∧ r'.status ≠ .pending)

namespace Advances

@[refl] theorem refl (r : Record) : r.Advances r := .inl rfl

theorem trans {r₁ r₂ r₃ : Record} (first : r₁.Advances r₂) (second : r₂.Advances r₃) :
    r₁.Advances r₃ := by
  rcases first with rfl | ⟨running, kept, moved⟩
  · exact second
  · rcases second with rfl | ⟨-, kept', moved'⟩
    · exact .inr ⟨running, kept, moved⟩
    · exact .inr ⟨running, kept'.trans kept, moved'⟩

theorem identity {r r' : Record} (advances : r.Advances r') : r'.identity = r.identity := by
  rcases advances with rfl | ⟨-, kept, -⟩
  · rfl
  · exact kept

/-- A record that advanced to `PENDING` did not move. -/
theorem eq_of_pending {r r' : Record} (advances : r.Advances r') (pending : r'.status = .pending) :
    r' = r := by
  rcases advances with same | ⟨-, -, moved⟩
  · exact same
  · exact absurd pending moved

/-- A finished record does not move. -/
theorem eq_of_isFinished {r r' : Record} (advances : r.Advances r') (finished : r.isFinished = true) :
    r' = r := by
  rcases advances with same | ⟨running, -, -⟩
  · exact same
  · simp [finished] at running

end Advances

end Record

namespace Job

/-- A transition that advances the record of every job it changes. -/
def Advances (t : Job → Option (Job × Hook)) : Prop :=
  ∀ j j' h, t j = some (j', h) → j.record.Advances j'.record

/-- A transition whose hooks carry a status that is one of the ten. -/
def HooksKnown (t : Job → Option (Job × Hook)) : Prop :=
  ∀ j j' h, t j = some (j', h) → h.record.status.isValid = true

theorem hooksKnown_apply (now : Int) (r : Record) : HooksKnown (fun j => j.apply now r) := by
  intro j j' h taken
  dsimp only at taken
  rw [apply_eq] at taken
  split at taken
  · next takes =>
    cases taken
    simpa using takes_isValid takes now
  · cases taken

theorem hooksKnown_cancel (now : Int) : HooksKnown (fun j => j.cancel now) := by
  intro j j' h taken
  dsimp only [cancel] at taken
  split at taken
  · cases taken
  · exact hooksKnown_apply now _ _ _ _ taken

/-- Taking an update that keeps the identity and names a status other than `PENDING`
advances the record. -/
theorem advances_of_apply (now : Int) {j j' : Job} {h : Hook} (r : Record)
    (open_ : r.status ≠ .pending) (given : r.status ≠ .unknown "")
    (op : r.op = "" ∨ r.op = j.record.op) (input : r.input = .null ∨ r.input = j.record.input)
    (name : r.name = "" ∨ r.name = j.record.name) (taken : j.apply now r = some (j', h)) :
    j.record.Advances j'.record := by
  rw [apply_eq] at taken
  split at taken
  · next takes =>
    cases taken
    refine .inr ⟨running_of_takes takes, Record.identity_mergeInto now op input name, ?_⟩
    simpa [Status.orCurrent_of_ne given] using open_
  · cases taken

/-- What a copy passes on advances the job it follows, unless it is `PENDING` or empty. -/
theorem advances_passOn (now : Int) {r : Record} (open_ : r.status ≠ .pending)
    (given : r.status ≠ .unknown "") : Advances (fun j => j.apply now r.passOn) :=
  fun _ _ _ taken => advances_of_apply now r.passOn open_ given (.inl rfl) (.inl rfl) (.inl rfl) taken

theorem advances_setStatus (now : Int) {st : Status} (open_ : st ≠ .pending)
    (given : st ≠ .unknown "") : Advances (fun j => j.setStatus now st) := by
  intro j j' h taken
  unfold setStatus at taken
  split at taken
  · cases taken
  · exact advances_of_apply now { j.record with status := st, updated := 0 } open_ given
      (.inr rfl) (.inr rfl) (.inr rfl) taken

theorem advances_fail (now : Int) (message : String) : Advances (fun j => j.fail now message) := by
  intro j j' h taken
  exact advances_of_apply now { j.record with status := .failed, error := message, updated := 0 }
    (by simp) (by simp) (.inr rfl) (.inr rfl) (.inr rfl) taken

end Job

/-- Whether a peer answers from a script of canned replies. -/
def Peer.isScript : Peer → Bool
  | .script .. => true
  | .venue .. => false

namespace Scopes

theorem get_set (s : Scopes) (i : Nat) (x : Scope) (j : Nat) :
    (s.set i x).get j = if i = j ∧ i < s.items.size then x else s.get j := by
  simp only [get, set, Array.set!_eq_setIfInBounds, Array.getElem?_setIfInBounds]
  split <;> split <;> simp_all

/-- Ending scopes below a work list keeps every scope that had ended. -/
theorem isSome_endAll (e : Ending) (fuel : Nat) (work acc : List Nat) (s : Scopes) {j : Nat}
    (ended : (s.ending? j).isSome = true) : ((endAll e fuel work acc s).2.ending? j).isSome = true := by
  induction fuel generalizing work acc s with
  | zero => exact ended
  | succ fuel ih =>
    cases work with
    | nil => exact ended
    | cons i rest =>
      simp only [endAll]
      split
      · exact ih _ _ _ ended
      · next running =>
        -- only a scope that had not ended is ended here
        refine ih _ _ _ ?_
        simp only [ending?, get_set] at ended ⊢
        split
        · next same =>
          obtain ⟨rfl, -⟩ := same
          simp
        · exact ended

/-- **A scope that ended stays ended** when another is cancelled. -/
theorem isSome_cancel (i : Nat) (e : Ending) (s : Scopes) {j : Nat}
    (ended : (s.ending? j).isSome = true) : ((s.cancel i e).2.ending? j).isSome = true := by
  unfold cancel
  split
  · exact ended
  · exact isSome_endAll e _ _ _ s ended

end Scopes

/-- The job a keeper passes changes on to, if it is a follower. -/
def Keeper.follows? : Keeper → Option Nat
  | .follower L => some L
  | _ => Option.none

namespace World

open Std.Do

/-- The clients and peers behind the links of a world. -/
def remotes (w : World) : Array (Client × Peer) := w.links.map fun x => (x.client, x.peer)

/-- The job that the job of cell `c` follows, if its keeper is a follower. -/
def followed? (w : World) (c : Nat) : Option Nat := (w.cells[c]?).bind (·.keeper.follows?)

/-- Rewriting a cell keeps what every cell follows, when the rewrite keeps what that cell
follows. -/
theorem followed?_modify {w : World} {c : Nat} {f : JobCell → JobCell}
    (keeps : ∀ x, w.cells[c]? = some x → (f x).keeper.follows? = x.keeper.follows?) (c' : Nat) :
    { w with cells := w.cells.modify c f }.followed? c' = w.followed? c' := by
  simp only [followed?, Array.getElem?_modify]
  split
  · next same =>
    subst same
    cases found : w.cells[c]? with
    | none => rfl
    | some x => simpa using keeps x found
  · rfl

/-- **`w` has the clock, the links' clients and peers of `w₀`, every scope that ended in `w₀`
has ended, and every follower of `w₀` follows the same job**: what changing jobs and asking a
peer keep. -/
def Steady (w₀ w : World) : Prop :=
  w.now = w₀.now ∧ w.remotes = w₀.remotes ∧ (∀ s, (w₀.ending? s).isSome → (w.ending? s).isSome) ∧
    ∀ c L, w₀.followed? c = some L → w.followed? c = some L

theorem Steady.refl (w : World) : Steady w w := ⟨rfl, rfl, fun _ ended => ended, fun _ _ kept => kept⟩

theorem Steady.trans {w₀ w₁ w₂ : World} (first : Steady w₀ w₁) (second : Steady w₁ w₂) :
    Steady w₀ w₂ :=
  ⟨second.1.trans first.1, second.2.1.trans first.2.1,
    fun s ended => second.2.2.1 s (first.2.2.1 s ended),
    fun c L kept => second.2.2.2 c L (first.2.2.2 c L kept)⟩

/-- A link whose peer answers from a script, when the link exists. -/
def Scripted (w : World) (l : Nat) : Prop := ∀ p ∈ w.remotes[l]?, p.2.isScript = true

theorem Steady.scripted {w₀ w : World} (steady : Steady w₀ w) {l : Nat} (scripted : w₀.Scripted l) :
    w.Scripted l := by
  unfold Scripted
  rw [steady.2.1]
  exact scripted

/-- The link of a scripted peer holds a script. -/
theorem Scripted.isScript {w : World} {l : Nat} (scripted : w.Scripted l) {link : RemoteLink}
    (found : w.links[l]? = some link) : link.peer.isScript = true :=
  scripted (link.client, link.peer) (by simp [remotes, found])

/-- Rewriting a link without touching its client and peer keeps them. -/
theorem remotes_modify (links : Array RemoteLink) (l : Nat) (f : RemoteLink → RemoteLink)
    (keeps : ∀ x, (f x).client = x.client ∧ (f x).peer = x.peer) :
    (links.modify l f).map (fun x => (x.client, x.peer)) = links.map fun x => (x.client, x.peer) := by
  apply Array.ext
  · simp
  · intro i _ inside
    simp only [Array.getElem_map, Array.getElem_modify]
    split
    · simp [keeps]
    · rfl

section Frames

/-! The hooks of a change already carry triples about the jobs, which `mvcgen` would pick for
them; the triples about the clock and the peers are made its first choice within this section
only. -/

variable (w₀ : World)

theorem wake_steady (f : Nat) (r : Resume) :
    ⦃fun w => ⌜Steady w₀ w⌝⦄ wake f r ⦃⇓ _ w => ⌜Steady w₀ w⌝⦄ :=
  triple_of_run fun _ steady => steady

attribute [local spec high] wake_steady

theorem wakeEvery_steady (p : Wait → Bool) :
    ⦃fun w => ⌜Steady w₀ w⌝⦄ wakeEvery p ⦃⇓ _ w => ⌜Steady w₀ w⌝⦄ := by
  unfold wakeEvery
  mvcgen
  case inv1 => exact ⇓ _ w => ⌜Steady w₀ w⌝
  all_goals simp_all [Steady]

attribute [local spec high] wakeEvery_steady

theorem endScope_steady (s : Nat) (e : Ending) :
    ⦃fun w => ⌜Steady w₀ w⌝⦄ endScope s e ⦃⇓ _ w => ⌜Steady w₀ w⌝⦄ := by
  unfold endScope
  mvcgen
  case inv1 => exact ⇓ _ w => ⌜Steady w₀ w⌝
  all_goals simp only [Steady, remotes, ending?, followed?] at *
  all_goals grind -ring -linarith [Scopes.isSome_cancel]

theorem emit_steady (line : String) :
    ⦃fun w => ⌜Steady w₀ w⌝⦄ emit line ⦃⇓ _ w => ⌜Steady w₀ w⌝⦄ :=
  triple_of_run fun _ steady => steady

attribute [local spec high] endScope_steady emit_steady

theorem send_steady (ch : Nat) (m : Message) :
    ⦃fun w => ⌜Steady w₀ w⌝⦄ send ch m ⦃⇓ _ w => ⌜Steady w₀ w⌝⦄ := by
  unfold send
  mvcgen
  all_goals simp_all +zetaDelta [Steady, remotes, ending?, followed?]

theorem dropDelivery_steady :
    ⦃fun w => ⌜Steady w₀ w⌝⦄ dropDelivery ⦃⇓ _ w => ⌜Steady w₀ w⌝⦄ := by
  unfold dropDelivery
  mvcgen
  all_goals simp_all +zetaDelta [Steady, remotes, ending?, followed?]
  all_goals split <;> simp_all

attribute [local spec high] send_steady dropDelivery_steady

theorem dispatch_steady (d : Delivery) :
    ⦃fun w => ⌜Steady w₀ w⌝⦄ dispatch d ⦃⇓ _ w => ⌜Steady w₀ w⌝⦄ := by
  unfold dispatch
  mvcgen
  all_goals simp only [Steady, remotes, ending?, followed?] at *
  all_goals grind -ring -linarith

attribute [local spec high] dispatch_steady

/-- Rewriting a cell keeps the clock and the peers, and what every cell follows when the
rewrite keeps what that cell follows. -/
theorem modifyCell_steady (c : Nat) (f : JobCell → JobCell) :
    ⦃fun w => ⌜Steady w₀ w ∧ ∀ x, w.cells[c]? = some x → (f x).keeper.follows? = x.keeper.follows?⌝⦄
    modifyCell c f ⦃⇓ _ w => ⌜Steady w₀ w⌝⦄ :=
  triple_of_run fun _ ⟨steady, keeps⟩ => ⟨steady.1, steady.2.1, steady.2.2.1, fun c' L followed => by
    rw [← steady.2.2.2 c' L followed]
    exact followed?_modify keeps c'⟩

theorem notify_steady (c : Nat) (r : Record) :
    ⦃fun w => ⌜Steady w₀ w⌝⦄ notify c r ⦃⇓ _ w => ⌜Steady w₀ w⌝⦄ := by
  have noted := fun f => modifyCell_steady w₀ c f
  unfold notify
  mvcgen [noted]
  -- the notice is rewritten in a cell that a venue keeps, which follows nothing
  all_goals first
    | exact Steady.refl _
    | exact Steady.trans ‹_› ‹_›
    | simp_all [Keeper.follows?]

theorem recordFinished_steady (v : Nat) (a : String) (r : Record) :
    ⦃fun w => ⌜Steady w₀ w⌝⦄ recordFinished v a r ⦃⇓ _ w => ⌜Steady w₀ w⌝⦄ := by
  unfold recordFinished
  mvcgen

attribute [local spec high] notify_steady recordFinished_steady

theorem changeHere_steady (c : Nat) (t : Job → Option (Job × Hook)) :
    ⦃fun w => ⌜Steady w₀ w⌝⦄ changeHere c t ⦃⇓ _ w => ⌜Steady w₀ w⌝⦄ := by
  unfold changeHere
  mvcgen [tableUpdate, modifyCell, modifyVenue]
  all_goals simp only [Steady, remotes, ending?, followed?] at *
  all_goals grind -ring -linarith

/-- **Changing a job keeps the clock and the peers**, the follower pass included. -/
theorem change_steady (c : Nat) (t : Job → Option (Job × Hook)) :
    ⦃fun w => ⌜Steady w₀ w⌝⦄ change c t ⦃⇓ _ w => ⌜Steady w₀ w⌝⦄ := by
  have here := changeHere_steady w₀ c t
  have passed := fun (target : Nat) (t' : Job → Option (Job × Hook)) => changeHere_steady w₀ target t'
  unfold change
  mvcgen [here, passed]

attribute [local spec high] change_steady

theorem updateJob_steady (c : Nat) (r : Record) :
    ⦃fun w => ⌜Steady w₀ w⌝⦄ updateJob c r ⦃⇓ _ w => ⌜Steady w₀ w⌝⦄ := by
  unfold updateJob
  mvcgen

theorem setStatus_steady (c : Nat) (st : Status) :
    ⦃fun w => ⌜Steady w₀ w⌝⦄ setStatus c st ⦃⇓ _ w => ⌜Steady w₀ w⌝⦄ := by
  unfold setStatus
  mvcgen

theorem cancelJob_steady (c : Nat) :
    ⦃fun w => ⌜Steady w₀ w⌝⦄ cancelJob c ⦃⇓ _ w => ⌜Steady w₀ w⌝⦄ := by
  unfold cancelJob
  mvcgen

theorem failJob_steady (c : Nat) (message : String) :
    ⦃fun w => ⌜Steady w₀ w⌝⦄ failJob c message ⦃⇓ _ w => ⌜Steady w₀ w⌝⦄ := by
  unfold failJob
  mvcgen

theorem finalError_steady (c : Nat) :
    ⦃fun w => ⌜Steady w₀ w⌝⦄ finalError c ⦃⇓ _ w => ⌜Steady w₀ w⌝⦄ := by
  have attached := fun f => modifyCell_steady w₀ c f
  unfold finalError attachFuture
  mvcgen [attached]
  simp_all

theorem newCopy_steady (rec : Record) (keeper : Keeper) :
    ⦃fun w => ⌜Steady w₀ w⌝⦄ newCopy rec keeper ⦃⇓ _ w => ⌜Steady w₀ w⌝⦄ :=
  triple_of_run fun w steady => by
    rw [show ((newCopy rec keeper).run w).2 =
      { w with cells := w.cells.push { job := Job.create w.millis rec, keeper } } from rfl]
    refine ⟨steady.1, steady.2.1, steady.2.2.1, fun c L followed => ?_⟩
    have kept := steady.2.2.2 c L followed
    -- the new cell goes after every cell there is
    have held : c < w.cells.size := by
      by_contra outside
      simp [followed?, outside] at kept
    simpa [followed?, Array.getElem?_push, Nat.ne_of_lt held] using kept

/-- Rewriting a link without touching its client and peer keeps them. -/
theorem modifyLink_steady (l : Nat) {f : RemoteLink → RemoteLink}
    (keeps : ∀ x, (f x).client = x.client ∧ (f x).peer = x.peer) :
    ⦃fun w => ⌜Steady w₀ w⌝⦄ modifyLink l f ⦃⇓ _ w => ⌜Steady w₀ w⌝⦄ :=
  triple_of_run fun w steady =>
    ⟨steady.1, (remotes_modify w.links l f keeps).trans steady.2.1, steady.2.2⟩

attribute [local spec high] modifyLink_steady

theorem scriptResponse_steady (l : Nat) (r : Http.Request) :
    ⦃fun w => ⌜Steady w₀ w⌝⦄ scriptResponse l r ⦃⇓ _ w => ⌜Steady w₀ w⌝⦄ := by
  unfold scriptResponse scriptedReply
  mvcgen
  all_goals simp only [Steady, remotes, ending?, followed?] at *
  all_goals grind -ring -linarith

variable {w₀} {l : Nat} (scripted : w₀.Scripted l)
include scripted

/-- Asking a peer that answers from a script keeps the clock and the peers. -/
theorem exchange_steady (method path : String) (body : Option Value) :
    ⦃fun w => ⌜Steady w₀ w⌝⦄ exchange l method path body ⦃⇓ _ w => ⌜Steady w₀ w⌝⦄ := by
  have answered := fun (r : Http.Request) => scriptResponse_steady w₀ l r
  unfold exchange
  mvcgen [answered]
  all_goals simp_all +zetaDelta [Steady, remotes, ending?, followed?]
  -- what is left asks a venue of the world, which the link's peer is not
  rename_i steady found _ _ venue
  have script := (Steady.scripted ⟨steady.1, steady.2.1, steady.2.2⟩ scripted).isScript found
  simp [venue, Peer.isScript] at script

theorem call_steady (method path : String) (body : Option Value) :
    ⦃fun w => ⌜Steady w₀ w⌝⦄ call l method path body ⦃⇓ _ w => ⌜Steady w₀ w⌝⦄ := by
  have exchanged := exchange_steady scripted method path body
  unfold call
  mvcgen [exchanged]

theorem submitRemote_steady (ref : String) (input : Value) :
    ⦃fun w => ⌜Steady w₀ w⌝⦄ submitRemote l ref input ⦃⇓ _ w => ⌜Steady w₀ w⌝⦄ := by
  have called := fun body => call_steady scripted "POST" "/v1/invoke" body
  unfold submitRemote
  mvcgen [called]

theorem cancelRemote_steady (id : String) :
    ⦃fun w => ⌜Steady w₀ w⌝⦄ cancelRemote l id ⦃⇓ _ w => ⌜Steady w₀ w⌝⦄ := by
  have called := call_steady scripted "POST" (jobPath id ++ "/cancel") none
  unfold cancelRemote
  mvcgen [called]

theorem pollRemote_steady (id : String) :
    ⦃fun w => ⌜Steady w₀ w⌝⦄ pollRemote l id ⦃⇓ _ w => ⌜Steady w₀ w⌝⦄ := by
  have called := call_steady scripted "GET" (jobPath id) none
  unfold pollRemote fetchRemote
  mvcgen [called]
  all_goals simp only [Steady, remotes, ending?, followed?] at *
  all_goals grind -ring -linarith

end Frames

/-! ## Asking a peer that answers from a script -/

section Scripts

variable (w₀ : World) (l : Nat)

/-- **Asking a peer that answers from a script changes no job.** -/
theorem exchange_sameJobs_of_scripted (method path : String) (body : Option Value) :
    ⦃fun w => ⌜SameJobs w₀ w ∧ w.Scripted l⌝⦄ exchange l method path body
    ⦃⇓ _ w => ⌜SameJobs w₀ w⌝⦄ := by
  have answered := fun (r : Http.Request) => scriptResponse_sameJobs w₀ l r
  unfold exchange
  mvcgen [answered]
  -- a link that is not missing holds a script, not a venue of the world
  all_goals simp_all [Scripted, remotes, Peer.isScript]

theorem call_sameJobs_of_scripted (method path : String) (body : Option Value) :
    ⦃fun w => ⌜SameJobs w₀ w ∧ w.Scripted l⌝⦄ call l method path body
    ⦃⇓ _ w => ⌜SameJobs w₀ w⌝⦄ := by
  have exchanged := exchange_sameJobs_of_scripted w₀ l method path body
  unfold call
  mvcgen [exchanged]

variable {l} {w : World} (scripted : w.Scripted l)
include scripted

/-- **A submission to a peer that answers from a script** changes no job, and keeps the clock
and the peers. -/
theorem submitRemote_scripted (ref : String) (input : Value) :
    SameJobs w ((submitRemote l ref input).run w).run.2 ∧
      Steady w ((submitRemote l ref input).run w).run.2 := by
  have called := fun body => call_sameJobs_of_scripted w l "POST" "/v1/invoke" body
  have same : ⦃fun w' => ⌜SameJobs w w' ∧ w'.Scripted l⌝⦄ submitRemote l ref input
      ⦃⇓ _ w' => ⌜SameJobs w w'⌝⦄ := by
    unfold submitRemote
    mvcgen [called]
  exact ⟨run_of_spec same ⟨SameJobs.refl w, scripted⟩,
    run_of_spec (submitRemote_steady scripted ref input) (Steady.refl w)⟩

/-- A cancellation sent to a peer that answers from a script changes no job, and keeps the clock
and the peers. -/
theorem cancelRemote_scripted (id : String) :
    SameJobs w ((cancelRemote l id).run w).run.2 ∧ Steady w ((cancelRemote l id).run w).run.2 := by
  have called := call_sameJobs_of_scripted w l "POST" (jobPath id ++ "/cancel") none
  have same : ⦃fun w' => ⌜SameJobs w w' ∧ w'.Scripted l⌝⦄ cancelRemote l id
      ⦃⇓ _ w' => ⌜SameJobs w w'⌝⦄ := by
    unfold cancelRemote
    mvcgen [called]
  exact ⟨run_of_spec same ⟨SameJobs.refl w, scripted⟩,
    run_of_spec (cancelRemote_steady scripted id) (Steady.refl w)⟩

/-- A poll of a peer that answers from a script keeps the clock and the peers; like every poll,
it changes no job. -/
theorem pollRemote_scripted (id : String) :
    SameJobs w ((pollRemote l id).run w).run.2 ∧ Steady w ((pollRemote l id).run w).run.2 :=
  ⟨(run_of_spec (pollRemote_sameJobs w l id) (SameJobs.refl w)).1,
    run_of_spec (pollRemote_steady scripted id) (Steady.refl w)⟩

end Scripts


/-! ## What a change does to each job -/

theorem cell?_take (V : JobView) (c : Nat) (r : Record) (c' : Nat) :
    (V.take c r).cell? c' = if c = c' then (V.cell? c').map (fun p => (r, p.2)) else V.cell? c' := by
  unfold JobView.take
  split <;> simp

theorem recordOf_of_found {w : World} {c : Nat} {cell : JobCell} (found : w.cells[c]? = some cell) :
    w.recordOf c = cell.job.record := by
  simp [recordOf, job?, found]

/-- **The records after a change that fired**: the transition's record for the cell it changed,
and the record before for every other cell. -/
theorem recordOf_changeHere {t : Job → Option (Job × Hook)} (transition : Transition t)
    {w : World} {c : Nat} {cell : JobCell} (found : w.cells[c]? = some cell) {j : Job} {h : Hook}
    (fired : t cell.job = some (j, h)) (L : Nat) :
    ((changeHere c t).run w).run.2.recordOf L = if c = L then j.record else w.recordOf L := by
  rw [recordOf_eq_view, show ((changeHere c t).run w).run.2 = ((changeHere c t).run w).2 from rfl,
    run_of_triple (changeHere_jobView w c t), afterChange_eq_take transition found fired, cell?_take]
  split
  · next same =>
    subst same
    simp [jobView_cell?, found, JobCell.view]
  · rw [← recordOf_eq_view]

/-- A change that does not fire leaves every record. -/
theorem recordOf_changeHere_refused {t : Job → Option (Job × Hook)} {w : World} {c : Nat}
    (refused : ∀ cell, w.cells[c]? = some cell → t cell.job = none) (L : Nat) :
    ((changeHere c t).run w).run.2.recordOf L = w.recordOf L := by
  have same : w.afterChange c t = w.jobView := by
    unfold afterChange
    split
    · rfl
    · next cell found => simp [refused cell found]
  rw [recordOf_eq_view, show ((changeHere c t).run w).run.2 = ((changeHere c t).run w).2 from rfl,
    run_of_triple (changeHere_jobView w c t), same, ← recordOf_eq_view]

/-- A change leaves the record of every other cell. -/
theorem recordOf_changeHere_other {t : Job → Option (Job × Hook)} (transition : Transition t)
    (w : World) {c c' : Nat} (other : c ≠ c') :
    ((changeHere c t).run w).run.2.recordOf c' = w.recordOf c' := by
  by_cases refused : ∀ cell, w.cells[c]? = some cell → t cell.job = none
  · exact recordOf_changeHere_refused refused c'
  · obtain ⟨cell, found, fired⟩ : ∃ cell, w.cells[c]? = some cell ∧ t cell.job ≠ none := by
      simpa using refused
    obtain ⟨⟨j, h⟩, fired⟩ := Option.ne_none_iff_exists'.mp fired
    rw [recordOf_changeHere transition found fired, if_neg other]

/-- A change that fired returns the cell's keeper and the hook. -/
theorem changeHere_result {t : Job → Option (Job × Hook)} {w : World} {c : Nat} {cell : JobCell}
    (found : w.cells[c]? = some cell) {j : Job} {h : Hook} (fired : t cell.job = some (j, h)) :
    ((changeHere c t).run w).run.1 = some (cell.keeper, h) := by
  simp only [changeHere, StateT.run_bind, StateT.run_get, Id.run_bind]
  split
  · simp_all
  · next cell' found' =>
    obtain rfl : cell' = cell := by simp_all
    split
    · simp_all
    · next j' h' fired' =>
      obtain ⟨rfl, rfl⟩ : j' = j ∧ h' = h := by simp_all
      -- every branch of the hooks ends by returning the keeper and the hook
      simp only [StateT.run_bind, Id.run_bind]
      repeat' split
      all_goals simp

/-- **A change advances the record of every cell** whose change, if it is the changed cell,
advances it. -/
theorem changeHere_advances (c : Nat) {t : Job → Option (Job × Hook)} (transition : Transition t)
    {L : Nat} (advances : c = L → Job.Advances t) (w : World) :
    (w.recordOf L).Advances (((changeHere c t).run w).run.2.recordOf L) := by
  by_cases refused : ∀ cell, w.cells[c]? = some cell → t cell.job = none
  · rw [recordOf_changeHere_refused refused]
  · obtain ⟨cell, found, fired⟩ : ∃ cell, w.cells[c]? = some cell ∧ t cell.job ≠ none := by
      simpa using refused
    obtain ⟨⟨j, h⟩, fired⟩ := Option.ne_none_iff_exists'.mp fired
    rw [recordOf_changeHere transition found fired]
    split
    · next same =>
      subst same
      rw [recordOf_of_found found]
      exact advances rfl _ _ _ fired
    · rfl

/-- **A change advances every job it does not change itself**, and the job it changes when its
transition advances it: what a follower passes on keeps the identity of the job it follows and
is not `PENDING`. -/
theorem change_advances (c : Nat) {t : Job → Option (Job × Hook)} (transition : Transition t)
    (known : Job.HooksKnown t) {L : Nat}
    (advances : c = L → Job.Advances t) (w : World) :
    (w.recordOf L).Advances (((change c t).run w).run.2.recordOf L) := by
  have here := changeHere_advances c transition advances w
  simp only [change, StateT.run_bind, Id.run_bind]
  split
  · exact here
  · next target h fired =>
    obtain ⟨cell, j, -, transitioned, -⟩ := changeHere_fired c t w fired
    split
    · next open_ =>
      have given : h.record.status ≠ .unknown "" := by
        have valid := known _ _ _ transitioned
        rintro unknown
        simp [unknown, Status.isValid] at valid
      simp only [StateT.run_bind, StateT.run_get, Id.run_bind, StateT.run_pure, Id.run_pure]
      exact here.trans (changeHere_advances target (transition_apply _ _)
        (fun _ => Job.advances_passOn _ (by simpa using open_) given) _)
    · exact here
  · exact here

/-- The clock of a world in milliseconds is read from its clock. -/
theorem Steady.millis {w₀ w : World} (steady : Steady w₀ w) : w.millis = w₀.millis := by
  simp [World.millis, steady.1]

/-- The job at `L` takes what a copy passes on as `Job.apply` merges it, when it runs; a
finished job refuses it. -/
theorem recordOf_changeHere_passOn {w : World} {L : Nat} (held : L < w.cells.size) (ms : Int)
    {r : Record} (valid : r.status.isValid = true) :
    ((changeHere L fun j => j.apply ms r.passOn).run w).run.2.recordOf L =
      if w.isFinished L = true then w.recordOf L else r.passOn.mergeInto ms (w.recordOf L) := by
  obtain ⟨cell, found⟩ : ∃ cell, w.cells[L]? = some cell := ⟨_, Array.getElem?_eq_getElem held⟩
  have finished : w.isFinished L = cell.job.isFinished := by
    simp [isFinished, recordOf_of_found found, Job.isFinished]
  rw [finished, recordOf_of_found found]
  cases running : cell.job.isFinished with
  | true =>
    -- a finished job refuses every change
    rw [recordOf_changeHere_refused, recordOf_of_found found]
    · rfl
    · intro cell' found'
      obtain rfl : cell' = cell := by simp_all
      exact (transition_apply ms r.passOn).refuses _ running
  | false =>
    have takes : cell.job.takes r.passOn = true := by
      have given : r.status ≠ .unknown "" := by
        rintro unknown
        simp [unknown, Status.isValid] at valid
      simp [Job.takes, running, Status.orCurrent_of_ne given, valid]
    have fired : cell.job.apply ms r.passOn = some ({ cell.job with
        record := r.passOn.mergeInto ms cell.job.record },
        Hook.announce (r.passOn.mergeInto ms cell.job.record)) := by
      rw [Job.apply_eq, if_pos takes]
    rw [recordOf_changeHere (transition_apply ms r.passOn) found fired, if_pos rfl]
    rfl

/-- **What a copy passes on.** A change of cell `c`, kept by `.follower L` for another cell `L`
that exists, that fires with a hook record whose status is one of the ten: the cell holds what
the change stored; the job of `L` takes the record's status, output and error as `Job.apply`
merges them, unless the record is `PENDING` or the job finished; and every other cell keeps its
record. -/
theorem change_passes_on {c L : Nat} (apart : c ≠ L) {t : Job → Option (Job × Hook)}
    (transition : Transition t) {w : World} {cell : JobCell} (found : w.cells[c]? = some cell)
    (follows : cell.keeper = .follower L) {j : Job} {h : Hook} (fired : t cell.job = some (j, h))
    (valid : h.record.status.isValid = true) (held : L < w.cells.size) :
    let w' := ((change c t).run w).run.2
    w'.recordOf c = j.record ∧
      w'.recordOf L = (if h.record.status = .pending ∨ w.isFinished L = true then w.recordOf L
        else h.record.passOn.mergeInto w.millis (w.recordOf L)) ∧
      ∀ c', c' ≠ c → c' ≠ L → w'.recordOf c' = w.recordOf c' := by
  intro w'
  -- the copy's own change first
  have copied := recordOf_changeHere transition found fired
  have steady : Steady w ((changeHere c t).run w).run.2 :=
    run_of_spec (changeHere_steady w c t) (Steady.refl w)
  have sized : ((changeHere c t).run w).run.2.cells.size = w.cells.size :=
    run_of_spec (changeHere_size c t _) rfl
  have finishedHere : ((changeHere c t).run w).run.2.isFinished L = w.isFinished L := by
    simp only [isFinished, copied, if_neg apart]
  simp only [w', change, StateT.run_bind, Id.run_bind, changeHere_result found fired, follows]
  by_cases pending : h.record.status = .pending
  · -- a `PENDING` record is not passed on
    simp only [pending, bne_self_eq_false, Bool.false_eq_true, if_false, StateT.run_pure,
      Id.run_pure, true_or, if_true, copied, if_neg apart, true_and]
    intro c' other _
    simp [other.symm]
  · have passes : (h.record.status != Status.pending) = true := by simpa using pending
    simp only [passes, if_true, StateT.run_bind, StateT.run_get, Id.run_bind, StateT.run_pure,
      Id.run_pure, pending, false_or]
    have passed := recordOf_changeHere_passOn (sized ▸ held)
      (((changeHere c t).run w).run.2.millis) valid
    rw [finishedHere, copied, if_neg apart] at passed
    rw [show ({ status := h.record.status, output := h.record.output, error := h.record.error } :
      Record) = h.record.passOn from rfl, ← steady.millis]
    -- the pass changes the job of `L` only
    have kept := fun c' (away : c' ≠ L) =>
      recordOf_changeHere_other (transition_apply (((changeHere c t).run w).run.2.millis)
        h.record.passOn) ((changeHere c t).run w).run.2 (Ne.symm away)
    refine ⟨?_, passed, fun c' other away => ?_⟩
    · rw [kept c apart, copied, if_pos rfl]
    · rw [kept c' away, copied, if_neg (Ne.symm other)]

/-! ## The operations of a relay, seen from the job it forwards -/

section Forwarded

variable {L : Nat}

/-- Applying a record to another job, a copy of a remote job say, advances the forwarded job:
the copy passes on what it took. -/
theorem updateJob_advances {c : Nat} (apart : c ≠ L) (r : Record) (w : World) :
    (w.recordOf L).Advances (((updateJob c r).run w).run.2.recordOf L) :=
  change_advances c (transition_apply _ r) (Job.hooksKnown_apply _ r) (fun same => absurd same apart) w

theorem cancelJob_advances {c : Nat} (apart : c ≠ L) (w : World) :
    (w.recordOf L).Advances (((cancelJob c).run w).run.2.recordOf L) :=
  change_advances c (transition_cancel _) (Job.hooksKnown_cancel _) (fun same => absurd same apart) w

/-- Moving the forwarded job to a status other than `PENDING` advances it. -/
theorem setStatus_advances (c : Nat) {st : Status} (open_ : st ≠ .pending) (given : st ≠ .unknown "")
    (w : World) : (w.recordOf L).Advances (((setStatus c st).run w).run.2.recordOf L) := by
  have known : Job.HooksKnown fun j => j.setStatus w.millis st := by
    intro j j' h taken
    dsimp only [Job.setStatus] at taken
    split at taken
    · cases taken
    · exact Job.hooksKnown_apply _ _ _ _ _ taken
  exact change_advances c (transition_setStatus _ st) known
    (fun _ => Job.advances_setStatus _ open_ given) w

/-- Failing the forwarded job advances it. -/
theorem failJob_advances (c : Nat) (message : String) (w : World) :
    (w.recordOf L).Advances (((failJob c message).run w).run.2.recordOf L) :=
  change_advances c (transition_fail _ message) (fun j => Job.hooksKnown_apply _ _ j)
    (fun _ => Job.advances_fail _ message) w

/-- Passing a record on to the forwarded job by hand advances it, unless it is `PENDING`. -/
theorem updateJob_passOn_advances (c : Nat) {r : Record} (open_ : r.status ≠ .pending)
    (given : r.status ≠ .unknown "") (w : World) :
    (w.recordOf L).Advances (((updateJob c r.passOn).run w).run.2.recordOf L) :=
  change_advances c (transition_apply _ r.passOn) (Job.hooksKnown_apply _ r.passOn)
    (fun _ => Job.advances_passOn _ open_ given) w

/-- A new copy leaves the record of every job that exists. -/
theorem newCopy_recordOf (rec : Record) (keeper : Keeper) {w : World} (held : L < w.cells.size) :
    ((newCopy rec keeper).run w).run.2.recordOf L = w.recordOf L := by
  rw [show ((newCopy rec keeper).run w).run.2 =
    { w with cells := w.cells.push { job := Job.create w.millis rec, keeper } } from rfl]
  simp [recordOf, job?, Array.getElem?_push, Nat.ne_of_lt held]

end Forwarded

end World

end JobEngine

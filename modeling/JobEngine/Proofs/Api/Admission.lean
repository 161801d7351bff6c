import JobEngine.Proofs.Api.Checks
import JobEngine.Proofs.Remote.Fetch
import JobEngine.Proofs.Engine.Apart

/-!
# Admitting an invocation

A venue's API creates a job only for an invocation that passes every gate in front of the
engine, and then exactly one. The gates are met in a fixed order — the content type, the venue's
key, the venue's token bucket, the body, validation — and the first one a request fails decides
its answer; only the engine's own refusal and a created job come after the bucket has drawn a
token. This module follows a request through `World.serve` and proves that order, together with
what every other request may do to the jobs and to the buckets.

## Main Definitions

* `JobView.ids` — the ids of a venue's table, in its order.
* `World.Handled` — how the invocation handler answers, and what it leaves of the jobs.
* `World.InvokeAnswer` — how the API answers an invocation, gate by gate.
* `World.Admitted` — the gates an invocation passes, said of the request itself.

## Main Statements

* `World.invoke_ids` — an invocation enters at most one job.
* `World.serve_invoke` — serving an invocation is described by `InvokeAnswer`.
* `World.serve_noneEntered` — no other request enters a job.
* `World.serve_limiters` — only a request that passed the content type and the key changes a
  token bucket.
* `World.invocation_gate` — the four together, with the gates said of the request.

## Design Notes

What the API does to the jobs is read off the world's job view, so the metric line recorded
after each answer, which changes nothing the view holds, is invisible to every statement here.
A token bucket is seen through `World.limiters`; a refused draw leaves it as it was, so a bucket
changes only when it gives a token.
-/

namespace JobEngine

open Std.Do Http

namespace JobView

/-- The ids of a venue's table, in its order. -/
def ids (V : JobView) (v : Nat) : List String := (V.table v).map (·.id)

@[simp] theorem ids_setRecord (V : JobView) (c v : Nat) (r : Record) :
    (V.setRecord c r).ids v = V.ids v := rfl

@[simp] theorem ids_storeIn (V : JobView) (v v' : Nat) (r : Record) :
    (V.storeIn v r).ids v' = V.ids v' := by
  unfold ids
  rw [table_storeIn]
  split <;> simp [Function.comp_def]

@[simp] theorem ids_addCell (V : JobView) (x : Record × Option Nat) (v : Nat) :
    (V.addCell x).ids v = V.ids v := rfl

theorem ids_addEntry (V : JobView) {v : Nat} (inside : v < V.tables.size) (e : TableEntry) :
    (V.addEntry v e).ids v = V.ids v ++ [e.id] := by
  simp [ids, table_addEntry V inside]

theorem ids_dropId_sublist (V : JobView) (v v' : Nat) (id : String) :
    ((V.dropId v id).ids v').Sublist (V.ids v') := by
  unfold ids
  rw [table_dropId]
  split
  · exact List.filter_sublist.map _
  · exact .refl _

end JobView

namespace World

/-! ## The ids of the tables -/

/-- A change of a job stores records under the ids the tables hold. -/
theorem ids_afterChange (w : World) (c : Nat) (t : Job → Option (Job × Hook)) :
    (w.afterChange c t).ids = w.jobView.ids := by
  funext v
  unfold afterChange
  repeat' split
  all_goals simp

/-- The view after a job was entered at a venue of the world holds one more id there. -/
theorem ids_entered {w : World} {V : JobView} (here : w.jobView = V) {v : Nat} {x : Venue}
    (found : w.venue? v = some x) {W : JobView}
    (entered : ∃ r e, W = (V.addCell (r, some v)).addEntry v e) :
    ∃ id, W.ids v = V.ids v ++ [id] := by
  obtain ⟨r, e, rfl⟩ := entered
  have inside : v < (V.addCell (r, some v)).tables.size := here ▸ venue?_lt found
  exact ⟨e.id, JobView.ids_addEntry _ inside e⟩

section Ids

variable (I : Nat → List String)

theorem changeHere_ids (c : Nat) (t : Job → Option (Job × Hook)) :
    ⦃fun w => ⌜w.jobView.ids = I⌝⦄ changeHere c t ⦃⇓ _ w => ⌜w.jobView.ids = I⌝⦄ :=
  triple_of_run fun w kept => by
    rw [run_of_triple (changeHere_jobView w c t), ids_afterChange, kept]

/-- **A change of a job keeps every table's ids**, also the change passed on to a followed job. -/
theorem change_ids (c : Nat) (t : Job → Option (Job × Hook)) :
    ⦃fun w => ⌜w.jobView.ids = I⌝⦄ change c t ⦃⇓ _ w => ⌜w.jobView.ids = I⌝⦄ := by
  have here := changeHere_ids I c t
  have passed := fun (target : Nat) (t' : Job → Option (Job × Hook)) => changeHere_ids I target t'
  mvcgen [change, here, passed]

theorem runAdapter_ids (v : Nat) (a : Adapter) (c scope : Nat) (operation : String)
    (md : Metadata) (input : Value) :
    ⦃fun w => ⌜w.jobView.ids = I⌝⦄ runAdapter v a c scope operation md input
      ⦃⇓ _ w => ⌜w.jobView.ids = I⌝⦄ := by
  have changed := fun (c : Nat) (t : Job → Option (Job × Hook)) => change_ids I c t
  -- the adapter changes the job only through `change`; the rest starts fibers
  unfold runAdapter finishWith failJob setStatus completeJob
  mvcgen [changed]
  all_goals simp_all [SameJobs]

end Ids

/-- **An invocation enters at most one job**: a refused one keeps the job view, an accepted one
appends exactly one id to the venue's table. -/
theorem invoke_ids (V : JobView) (v : Nat) (ref : String) (input : Value)
    (cb : Option Callback) (given : Option Metadata) :
    ⦃fun w => ⌜w.jobView = V⌝⦄ invoke v ref input cb given
    ⦃⇓ res w => ⌜(∀ f, res = .error f → w.jobView = V) ∧
      (∀ c, res = .ok c → ∃ id, w.jobView.ids v = V.ids v ++ [id])⌝⦄ := by
  have started := fun (adapter : String) (md : Option Metadata) =>
    startJob_jobView V v ref input md adapter cb
  have ran := fun (I : Nat → List String) (a : Adapter) (c scope : Nat) (operation : String)
    (md : Metadata) => runAdapter_ids I v a c scope operation md input
  have changed := fun (I : Nat → List String) (c : Nat) (t : Job → Option (Job × Hook)) =>
    change_ids I c t
  unfold invoke failJob
  mvcgen -trivial [started, ran, changed, -startJob_tracks, -runAdapter_tracks]
  case vc1 | vc2 | vc6 | vc10 => exact ⟨fun _ _ => ‹_›, fun _ refused => by cases refused⟩
  case vc3 | vc7 => assumption
  case vc4 | vc8 =>
    rename_i started
    exact ⟨fun _ _ => started.2 _ rfl, fun _ refused => by cases refused⟩
  case vc5 | vc9 =>
    rename_i started _ _ kept
    refine ⟨fun _ refused => (by cases refused), fun _ _ => ?_⟩
    have entered := (started.1 _ _ rfl).2
    rw [kept]
    have here : _ = V := ‹_›
    have found : World.venue? _ v = _ := ‹_›
    exact ids_entered here found entered

/-! ## The invocation handler -/

/-- **How the invocation handler answers**, from the job view `V` to the job view `W` it
leaves: an unreadable body with 400, an invalid request with its validation fault, a request
the engine refuses with the engine's fault, and otherwise 202 after entering exactly one job.
Only the last changes the jobs. -/
inductive Handled (V : JobView) (v : Nat) (body : String) : Response → JobView → Prop
  | unreadable {resp : Response} {f : Fault} (unread : InvokeRequest.read body = .error f)
      (status : resp.status = 400) : Handled V v body resp V
  | invalid {resp : Response} {req : InvokeRequest} {f : Fault}
      (read : InvokeRequest.read body = .ok req) (refused : req.validate = .error f)
      (status : resp.status = f.httpStatus) : Handled V v body resp V
  | refused {resp : Response} {req req' : InvokeRequest} {f : Fault}
      (read : InvokeRequest.read body = .ok req) (valid : req.validate = .ok req')
      (status : resp.status = f.httpStatus) : Handled V v body resp V
  | created {resp : Response} {W : JobView} {req req' : InvokeRequest} {id : String}
      (read : InvokeRequest.read body = .ok req) (valid : req.validate = .ok req')
      (status : resp.status = 202) (entered : W.ids v = V.ids v ++ [id]) :
      Handled V v body resp W

theorem invokeEndpoint_handled (V : JobView) (v : Nat) (r : Request) (h : Headers) :
    ⦃fun w => ⌜w.jobView = V⌝⦄ invokeEndpoint v r h
      ⦃⇓ resp w => ⌜Handled V v r.body resp w.jobView⌝⦄ := by
  have invoked := fun (ref : String) (input : Value) (cb : Option Callback) =>
    invoke_ids V v ref input cb none
  mvcgen -trivial [invokeEndpoint, invoked, -invoke_tracks]
  case vc4.h_3.h_2.pre same => exact same
  case vc1.h_1 unread _ same => exact same ▸ .unreadable unread rfl
  case vc2.h_2 unread _ same => exact same ▸ .unreadable unread rfl
  case vc3.h_3.h_1 read _ refused _ same => exact same ▸ .invalid read refused rfl
  case vc5.h_3.h_2.post.success.h_1 read _ valid _ _ _ _ _ _ post =>
    exact (post.1 _ rfl) ▸ .refused read valid rfl
  case vc6.h_3.h_2.post.success.h_2 read _ valid _ _ _ _ _ _ post _ =>
    obtain ⟨id, entered⟩ := post.2 _ rfl
    exact .created read valid (by simp [Response.json]) entered

/-! ## The token bucket -/

/-- A venue's token bucket lets a request through at the world's time: the venue has no
bucket, or its bucket holds a token then. -/
def Admits (w : World) (x : Venue) : Prop :=
  ∀ l, x.gate.limiter = some l → (l.allow w.now).1 = true

theorem takesInvocation_admits (w₀ : World) {v : Nat} {x : Venue}
    (found : w₀.venue? v = some x) :
    ⦃fun w => ⌜w = w₀⌝⦄ takesInvocation v ⦃⇓ ok w => ⌜(ok = true ↔ Admits w₀ x) ∧ SameJobs w₀ w⌝⦄ := by
  mvcgen [takesInvocation, modifyVenue]
  case vc1.h_1 here none =>
    subst here
    simp only [found, Option.bind_some] at none
    exact ⟨by simp [Admits, none], SameJobs.refl _⟩
  case vc2.h_2 here l bucket _ =>
    subst here
    simp only [found, Option.bind_some] at bucket
    exact ⟨by simp [Admits, bucket], SameJobs.modifyVenue (SameJobs.refl _) fun _ => rfl⟩

/-! ## Serving an invocation -/

/-- **How the API answers an invocation**, gate by gate in the order it meets them: the content
type, the venue's key, its token bucket, then the handler. `w` is the world the request meets,
`x` its venue; the answer comes with the job view it leaves. -/
inductive InvokeAnswer (w : World) (x : Venue) (v : Nat) (r : Request) : Response → JobView → Prop
  | unsupported {resp : Response} (wrong : wrongContentType r = true) (status : resp.status = 415) :
      InvokeAnswer w x v r resp w.jobView
  | unauthorized {resp : Response} (typed : wrongContentType r = false)
      (refused : authProblem x.gate.key r ≠ none) (status : resp.status = 401) :
      InvokeAnswer w x v r resp w.jobView
  | limited {resp : Response} (typed : wrongContentType r = false)
      (keyed : authProblem x.gate.key r = none) (refused : ¬w.Admits x)
      (status : resp.status = 429) : InvokeAnswer w x v r resp w.jobView
  | handled {resp : Response} {W : JobView} (typed : wrongContentType r = false)
      (keyed : authProblem x.gate.key r = none) (admitted : w.Admits x)
      (handled : Handled w.jobView v r.body resp W) : InvokeAnswer w x v r resp W

section Invocation

variable (w₀ : World) {v : Nat} {x : Venue} (found : w₀.venue? v = some x)
include found

theorem keyedEndpoint_invoke (r : Request) (h : Headers) :
    ⦃fun w => ⌜w = w₀⌝⦄ keyedEndpoint v r h .invoke
    ⦃⇓ resp w => ⌜wrongContentType r = false → authProblem x.gate.key r = none →
      InvokeAnswer w₀ x v r resp w.jobView⌝⦄ := by
  have takes := takesInvocation_admits w₀ found
  have handled := invokeEndpoint_handled w₀.jobView v r h
  mvcgen [keyedEndpoint, takes, handled]
  case vc2.post.success.isTrue refused _ post =>
    intro typed keyed
    rw [show _ = w₀.jobView from post.2]
    refine .limited typed keyed (fun admitted => ?_) rfl
    simp [post.1.mpr admitted] at refused
  case vc3.post.success.isFalse.pre post => exact post.2
  case vc4.post.success.isFalse.post.success taken _ post _ _ =>
    intro handled typed keyed
    exact .handled typed keyed (post.1.mp (by simpa using taken)) handled

theorem answerRouted_invoke {r : Request} (routed : route r = .endpoint .invoke) (key : String)
    (h : Headers) :
    ⦃fun w => ⌜w = w₀⌝⦄ answerRouted v key r h
    ⦃⇓ resp w => ⌜key = x.gate.key → wrongContentType r = false →
      InvokeAnswer w₀ x v r resp w.jobView⌝⦄ := by
  have keyed := keyedEndpoint_invoke w₀ found r h
  unfold answerRouted
  simp only [routed]
  mvcgen [keyed]
  case vc1.h_1 refused _ here =>
    rintro rfl typed
    subst here
    exact .unauthorized typed (by simp [refused]) rfl
  case vc3.h_2.post.success keyedOk _ _ _ _ =>
    rintro answered rfl typed
    exact answered typed keyedOk

theorem serve_invoke {r : Request} (routed : route r = .endpoint .invoke) :
    ⦃fun w => ⌜w = w₀⌝⦄ serve v r ⦃⇓ resp w => ⌜InvokeAnswer w₀ x v r resp w.jobView⌝⦄ := by
  have answered := answerRouted_invoke w₀ found routed
  have post : r.method = "POST" := route_invoke routed
  mvcgen [serve, answered]
  -- a `POST` is no preflight
  case vc2.h_1.isTrue.isTrue.post.success | vc3.h_1.isTrue.isFalse =>
    exact absurd ‹CorsPolicy.isPreflight r = true› (by simp [CorsPolicy.isPreflight, post])
  -- the content-type check answers 415; the metric line keeps the jobs
  case vc5.h_1.isFalse.isTrue.isTrue.post.success here _ _ _ _ _ _ wrong _ _ _ _ same =>
    rw [show _ = _ from same, here]
    exact .unsupported wrong rfl
  case vc6.h_1.isFalse.isTrue.isFalse here _ _ _ _ _ _ wrong _ _ =>
    rw [here]
    exact .unsupported wrong rfl
  -- past it, routing hands the request to the key check with the venue's key
  case vc9.h_1.isFalse.isFalse.post.success.isTrue.post.success
      here chosen fetched _ _ _ _ typed _ _ _ _ answered _ _ same =>
    subst here
    obtain rfl : chosen = x := Option.some.inj (fetched.symm.trans found)
    rw [show _ = _ from same]
    exact answered rfl (by simpa using typed)
  case vc10.h_1.isFalse.isFalse.post.success.isFalse
      here chosen fetched _ _ _ _ typed _ _ _ _ answered =>
    subst here
    obtain rfl : chosen = x := Option.some.inj (fetched.symm.trans found)
    exact answered rfl (by simpa using typed)
  case vc11.h_2 here _ missing fetched =>
    subst here
    exact absurd (fetched.symm.trans found) (missing x)

end Invocation

/-! ## Requests that are no invocation -/

/-- No table of `w` holds an id that the same table of `w₀` does not: every table's ids are a
sublist of its ids in `w₀`. -/
def NoneEntered (w₀ w : World) : Prop := ∀ v, (w.jobView.ids v).Sublist (w₀.jobView.ids v)

theorem NoneEntered.of_sameJobs {w₀ w : World} (same : SameJobs w₀ w) : NoneEntered w₀ w := by
  intro v
  rw [show w.jobView = w₀.jobView from same]

theorem NoneEntered.of_ids {w₀ w : World} (kept : w.jobView.ids = w₀.jobView.ids) :
    NoneEntered w₀ w := by
  intro v
  rw [kept]

theorem NoneEntered.sameJobs {w₀ w w' : World} (entered : NoneEntered w₀ w)
    (same : SameJobs w w') : NoneEntered w₀ w' := by
  intro v
  rw [show w'.jobView = w.jobView from same]
  exact entered v

theorem ids_afterDelete_sublist (w : World) (v v' : Nat) (id : String) :
    ((w.afterDelete v id).ids v').Sublist (w.jobView.ids v') := by
  unfold afterDelete
  split
  · split
    · exact JobView.ids_dropId_sublist _ _ _ _
    · exact .refl _
  · exact .refl _

section Other

variable (w₀ : World)

theorem keyedEndpoint_noneEntered (v : Nat) (r : Request) (h : Headers) {e : Endpoint}
    (other : e ≠ .invoke) :
    ⦃fun w => ⌜w = w₀⌝⦄ keyedEndpoint v r h e ⦃⇓ _ w => ⌜NoneEntered w₀ w⌝⦄ := by
  cases e with
  | invoke => exact absurd rfl other
  | cancelJob id =>
    -- a cancellation changes a record, never an id
    have changed := fun (c : Nat) (t : Job → Option (Job × Hook)) => change_ids w₀.jobView.ids c t
    unfold keyedEndpoint cancelJobById cancelJob
    mvcgen [changed]
    all_goals first
      | exact NoneEntered.of_ids ‹_›
      | exact congrArg (·.jobView.ids) ‹_ = w₀›
      | exact NoneEntered.of_ids (congrArg (·.jobView.ids) ‹_ = w₀›)
  | deleteJob id =>
    -- a deletion drops the entries under one id
    have deleted := deleteJob_jobView w₀ v id
    mvcgen [keyedEndpoint, deleted]
    all_goals
      rename_i after
      intro v'
      rw [after]
      exact ids_afterDelete_sublist w₀ v v' id
  | _ =>
    -- the other endpoints only read the jobs
    exact triple_of_run fun w here => NoneEntered.of_sameJobs
      (run_of_spec (keyedEndpoint_sameJobs w₀ v r h rfl) (here ▸ SameJobs.refl w))

theorem answerRouted_noneEntered (v : Nat) (key : String) {r : Request}
    (other : route r ≠ .endpoint .invoke) (h : Headers) :
    ⦃fun w => ⌜w = w₀⌝⦄ answerRouted v key r h ⦃⇓ _ w => ⌜NoneEntered w₀ w⌝⦄ := by
  have ready := readiness_sameJobs w₀ v
  unfold answerRouted
  split
  case h_6 e _ _ routed =>
    split
    · mvcgen
      subst_vars
      exact NoneEntered.of_sameJobs (SameJobs.refl _)
    · exact keyedEndpoint_noneEntered w₀ v r h fun invoked => other (invoked ▸ routed)
  -- the rest is answered at once, or reads the venue's readiness
  all_goals
    mvcgen [probeEndpoint, ready]
    all_goals subst_vars
    all_goals first
      | exact NoneEntered.of_sameJobs ‹_›
      | exact SameJobs.refl _
      | exact NoneEntered.of_sameJobs (SameJobs.refl _)

theorem serve_noneEntered (v : Nat) {r : Request} (other : route r ≠ .endpoint .invoke) :
    ⦃fun w => ⌜w = w₀⌝⦄ serve v r ⦃⇓ _ w => ⌜NoneEntered w₀ w⌝⦄ := by
  have answered := fun key h => answerRouted_noneEntered w₀ v key other h
  mvcgen [serve, answered]
  -- the metric line of a metered venue keeps the jobs
  all_goals subst_vars
  all_goals first
    | exact NoneEntered.of_sameJobs ‹_›
    | exact NoneEntered.of_sameJobs (SameJobs.refl _)
    | exact ‹NoneEntered _ _›.sameJobs ‹_›

end Other

/-! ## The token buckets -/

/-- The token bucket of every venue. -/
def limiters (w : World) : Array (Option Limiter) := w.venues.map (·.gate.limiter)

/-- Rewriting a venue without touching its token bucket keeps the buckets. -/
theorem limiters_modify {w : World} {v : Nat} {f : Venue → Venue}
    (keeps : ∀ x, (f x).gate.limiter = x.gate.limiter) :
    ({ w with venues := w.venues.modify v f } : World).limiters = w.limiters := by
  apply Array.ext
  · simp [limiters]
  · intro i _ _
    simp only [limiters, Array.getElem_map, Array.getElem_modify]
    split <;> simp [keeps]

section Buckets

variable (w₀ : World)

theorem readiness_limiters (v : Nat) :
    ⦃fun w => ⌜w.limiters = w₀.limiters⌝⦄ readiness v ⦃⇓ _ w => ⌜w.limiters = w₀.limiters⌝⦄ := by
  mvcgen [readiness, ready, modifyVenue]
  -- the report rewrites the venue's health, not its bucket
  all_goals
    simp +zetaDelta only
    rw [limiters_modify]
    · assumption
    · intro
      rfl

theorem emit_limiters (line : String) :
    ⦃fun w => ⌜w.limiters = w₀.limiters⌝⦄ emit line ⦃⇓ _ w => ⌜w.limiters = w₀.limiters⌝⦄ :=
  triple_of_run fun _ kept => kept

theorem answerRouted_limiters (v : Nat) (key : String) (r : Request) (h : Headers) :
    ⦃fun w => ⌜w = w₀⌝⦄ answerRouted v key r h
    ⦃⇓ _ w => ⌜authProblem key r = none ∨ w.limiters = w₀.limiters⌝⦄ := by
  have ready := readiness_limiters w₀ v
  unfold answerRouted
  split
  case h_6 =>
    split
    · mvcgen
      subst_vars
      exact .inr rfl
    · next keyed => exact triple_of_run fun _ _ => .inl keyed
  -- the rest is answered at once, or reads the venue's readiness
  all_goals
    mvcgen [probeEndpoint, ready]
    all_goals subst_vars
    all_goals first
      | exact rfl
      | exact .inr rfl
      | exact .inr ‹_›

variable {v : Nat} {x : Venue} (found : w₀.venue? v = some x)
include found

theorem serve_limiters (r : Request) :
    ⦃fun w => ⌜w = w₀⌝⦄ serve v r
    ⦃⇓ _ w => ⌜(wrongContentType r = false ∧ authProblem x.gate.key r = none) ∨
      w.limiters = w₀.limiters⌝⦄ := by
  have answered := fun key h => answerRouted_limiters w₀ v key r h
  have emitted := fun (w₁ : World) (line : String) => emit_limiters w₁ line
  mvcgen [serve, answered, emitted, -emit_sameJobs]
  -- past the content-type check, what routing leaves with the venue's key
  case vc6.h_1.isFalse.isFalse.post.success.isTrue.post.success
      here chosen fetched _ _ _ _ typed _ _ _ _ answered _ _ kept =>
    subst here
    obtain rfl : chosen = x := Option.some.inj (fetched.symm.trans found)
    rcases answered with keyed | same
    · exact .inl ⟨by simpa using typed, keyed⟩
    · exact .inr (kept.trans same)
  case vc7.h_1.isFalse.isFalse.post.success.isFalse
      here chosen fetched _ _ _ _ typed _ _ _ _ answered =>
    subst here
    obtain rfl : chosen = x := Option.some.inj (fetched.symm.trans found)
    rcases answered with keyed | same
    · exact .inl ⟨by simpa using typed, keyed⟩
    · exact .inr same
  case vc8.h_2 here _ missing fetched =>
    subst here
    exact absurd (fetched.symm.trans found) (missing x)
  -- a preflight and a refused content type are answered at once
  all_goals
    subst_vars
    first
      | exact .inr rfl
      | exact .inr ‹_›

end Buckets

/-! ## The gate -/

/-- **The gates an invocation passes** before it can create a job, said of the request: its
content type is absent or JSON, it carries the venue's key (if the venue has one) after a
`bearer` scheme and the first space, the venue's token bucket lets it through, and its body
holds a valid invocation request. -/
structure Admitted (w : World) (x : Venue) (r : Request) : Prop where
  contentType : r.headers.get "Content-Type" = "" ∨
    MediaType.parse (r.headers.get "Content-Type") = .ok "application/json"
  authorized : x.gate.key = "" ∨ ∃ scheme, ' ' ∉ scheme.toList ∧ scheme.toLower = "bearer" ∧
    r.headers.get "Authorization" = scheme ++ " " ++ x.gate.key
  admitted : w.Admits x
  body : ∃ req, InvokeRequest.read r.body = .ok req ∧ req.Valid

/-- An invocation that changed the jobs passed every gate, was answered with 202, and entered
exactly one job. -/
theorem InvokeAnswer.admitted {w : World} {x : Venue} {v : Nat} {r : Request} {resp : Response}
    {W : JobView} (post : r.method = "POST") (answer : InvokeAnswer w x v r resp W)
    (changed : W ≠ w.jobView) :
    Admitted w x r ∧ resp.status = 202 ∧ ∃ id, W.ids v = w.jobView.ids v ++ [id] := by
  cases answer with
  | unsupported | unauthorized | limited => exact absurd rfl changed
  | handled typed keyed admitted handled =>
    cases handled with
    | unreadable | invalid | refused => exact absurd rfl changed
    | created read valid status entered =>
      refine ⟨⟨?_, authProblem_eq_none_iff.mp keyed, admitted, _, read,
        (InvokeRequest.validate_eq_ok_iff.mp valid).1⟩, status, _, entered⟩
      exact (wrongContentType_eq_false_iff post).mp typed

/-- **The invocation gate.** Serving a request at a venue `x`:

* answers an invocation gate by gate — 415 for a wrong content type, 401 without the key, 429
  when the token bucket is empty, 400 for an unreadable body, the validation fault's status
  for an invalid request, the engine's fault's status when it refuses, and otherwise 202;
* creates a job only for an invocation that passed every gate, and then exactly one;
* never enters a job for any other request: every table's ids are a sublist of its ids before;
* changes a token bucket only for a request that passed the content type and the key. -/
theorem invocation_gate (w : World) (v : Nat) (x : Venue) (found : w.venue? v = some x)
    (r : Request) :
    let served := (serve v r).run w
    (route r = .endpoint .invoke → InvokeAnswer w x v r served.1 served.2.jobView) ∧
    (route r = .endpoint .invoke → served.2.jobView ≠ w.jobView →
      Admitted w x r ∧ served.1.status = 202 ∧
        ∃ id, served.2.jobView.ids v = w.jobView.ids v ++ [id]) ∧
    (route r ≠ .endpoint .invoke → NoneEntered w served.2) ∧
    (served.2.limiters ≠ w.limiters →
      wrongContentType r = false ∧ authProblem x.gate.key r = none) := by
  intro served
  have answered := fun (routed : route r = .endpoint .invoke) =>
    run_of_triple (serve_invoke w found routed)
  refine ⟨answered, fun routed changed => (answered routed).admitted (route_invoke routed) changed,
    fun other => run_of_triple (serve_noneEntered w v other), fun touched => ?_⟩
  rcases run_of_triple (serve_limiters w found r) with passed | same
  · exact passed
  · exact absurd same touched

/-- A venue without a key or a bucket, serving a `POST` to `/v1/invoke`. -/
theorem invocation_gate_open_venue :
    let x : Venue := { name := "api", ids := { entropy := .counting 7 }, base := 0 }
    let w : World := { now := 0, venues := #[x] }
    let r : Request := { method := "POST", path := "/v1/invoke", rawPath := "/v1/invoke" }
    let served := (serve 0 r).run w
    w.venue? 0 = some x ∧
    (route r = .endpoint .invoke → InvokeAnswer w x 0 r served.1 served.2.jobView) ∧
    (route r = .endpoint .invoke → served.2.jobView ≠ w.jobView →
      Admitted w x r ∧ served.1.status = 202 ∧
        ∃ id, served.2.jobView.ids 0 = w.jobView.ids 0 ++ [id]) ∧
    (route r ≠ .endpoint .invoke → NoneEntered w served.2) ∧
    (served.2.limiters ≠ w.limiters →
      wrongContentType r = false ∧ authProblem x.gate.key r = none) := by
  intro x w r served
  exact ⟨rfl, invocation_gate w 0 x rfl r⟩

end World

end JobEngine

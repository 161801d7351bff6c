import JobEngine.Proofs.World.Frame
import JobEngine.World.Remote

/-!
# Fetching a remote job

A fetch of a remote job is a `GET` of the job's path, sent to a venue of the world or to a
script of canned replies, through the link's circuit breaker. This module proves what a fetch
does to the world and how it can fail:

* a `GET` reaches only endpoints that read, so serving it, following the venue's redirects,
  changes no job and no job table;
* a fetch fails only in one of the ways `FetchFailure` lists: the venue cannot be reached, the
  breaker is open, the reply is an HTTP error other than a 404, its body holds no record, or
  the reply is a 404; and of these only the 404 says that the venue does not know the job.

## Main Definitions

* `Http.Endpoint.reads` — the endpoints that only read.
* `FetchFailure` — the ways a fetch of a remote job fails.

## Main Statements

* `Http.route_get` — a `GET` is routed to an endpoint that reads.
* `World.serveFollowing_get_sameJobs` — serving a `GET` keeps the jobs.
* `FetchFailure.isRemoteNotFound_iff` — of the failures of a fetch, only the 404 says the job is
  unknown.
* `World.pollRemote_sameJobs` — a poll keeps the jobs and fails only as `FetchFailure` says.

## Design Notes

A 404 becomes the unknown-job fault in `World.call`, and only for a path under `/v1/jobs/`; the
path of a fetch is always one (`World.jobPath_startsWith`), which is why an HTTP error of a
fetch is never a 404 (`FetchFailure.refused`).
-/

namespace JobEngine

namespace Fault

@[simp] theorem isRemoteNotFound_plain (m : String) : (Fault.plain m).isRemoteNotFound = false := by
  simp [isRemoteNotFound, holds, nodes]

@[simp] theorem isRemoteNotFound_api (code : Int) (m : String) :
    (Fault.api code m).isRemoteNotFound = false := by
  simp [isRemoteNotFound, holds, nodes]

@[simp] theorem isRemoteNotFound_wrap (context : String) (f : Fault) :
    (Fault.wrap context f).isRemoteNotFound = f.isRemoteNotFound := by
  simp [isRemoteNotFound, holds, nodes]

end Fault

namespace Shape

/-- Reading a document fails with a syntax fault or a mismatch, never with an unknown remote
job. -/
theorem readStream_isRemoteNotFound {s : Shape} {text : String} {f : Fault}
    (failed : s.readStream text = .error f) : f.isRemoteNotFound = false := by
  unfold readStream at failed
  split at failed
  · cases failed; rfl
  · cases failed; rfl
  · cases failed; simp
  · split at failed
    · cases failed
    · next bound =>
      cases failed
      -- a mismatch of the binding is reported as a plain fault
      simp only [bindDoc, Prod.mk.injEq, Option.map_eq_some_iff] at bound
      obtain ⟨-, m, -, rfl⟩ := bound
      simp

end Shape

theorem Record.read_isRemoteNotFound {body : String} {f : Fault}
    (failed : Record.read body = .error f) : f.isRemoteNotFound = false := by
  unfold Record.read at failed
  cases read : Record.shape.readStream body with
  | error g =>
    rw [read] at failed
    cases failed
    exact Shape.readStream_isRemoteNotFound read
  | ok v => simp [read] at failed

/-- The ways a fetch of a remote job fails. -/
inductive FetchFailure : Fault → Prop
  /-- The venue cannot be reached, or the link names none. -/
  | transport (message : String) : FetchFailure (.plain message)
  /-- The link's breaker refuses the call. -/
  | breakerOpen : FetchFailure .breakerOpen
  /-- The venue answers with an HTTP error other than a 404. -/
  | refused (code : Int) (message : String) : code ≠ 404 → FetchFailure (.api code message)
  /-- The venue's answer holds no record. -/
  | undecodable (f : Fault) : f.isRemoteNotFound = false → FetchFailure (.wrap "decode response" f)
  /-- The venue answers 404: it does not know the job. -/
  | notFound : FetchFailure .remoteNotFound

/-- **Of the failures of a fetch, only the 404 says that the job is unknown.** -/
theorem FetchFailure.isRemoteNotFound_iff {f : Fault} (failure : FetchFailure f) :
    f.isRemoteNotFound = true ↔ f = .remoteNotFound := by
  cases failure with
  | notFound => simp [Fault.isRemoteNotFound, Fault.holds, Fault.nodes]
  | undecodable f unknown => simp [unknown]
  | _ => simp [Fault.isRemoteNotFound, Fault.holds, Fault.nodes]

namespace Http

/-- The endpoints that only read: the probes and the job, operation and adapter lists. -/
def Endpoint.reads : Endpoint → Bool
  | .invoke | .cancelJob _ | .deleteJob _ => false
  | _ => true

theorem findEndpoint_get {segs : List String} {e : Endpoint}
    (found : findEndpoint "GET" segs = some e) : e.reads = true := by
  obtain ⟨r, member, hit⟩ : ∃ r ∈ routes, (if r.method = "GET" then
      (matchSegments r.pattern segs).map r.endpoint else none) = some e := by
    simp only [findEndpoint] at found
    split at found
    · next viaGet => exact List.exists_of_findSome?_eq_some (viaGet.trans found)
    · simp at found
  simp only [routes, List.mem_cons, List.not_mem_nil, or_false] at member
  -- the routes of other methods give nothing; those of `GET` give reading endpoints
  rcases member with rfl | rfl | rfl | rfl | rfl | rfl | rfl | rfl | rfl | rfl <;>
    simp at hit <;> (obtain ⟨_, _, rfl⟩ := hit; rfl)

/-- **A `GET` is routed to an endpoint that reads.** -/
theorem route_get {r : Request} {e : Endpoint} (get : r.method = "GET")
    (routed : route r = .endpoint e) : e.reads = true := by
  unfold route at routed
  rw [get] at routed
  simp only [show ("GET" == "CONNECT") = false from rfl, Bool.false_eq_true, ↓reduceIte]
    at routed
  -- an unclean path is redirected; a clean one goes to the endpoint `GET` finds, if any
  split at routed
  · cases routed
  · split at routed
    · next found =>
      cases routed
      exact findEndpoint_get found
    · split at routed <;> cases routed

end Http

namespace World

open Std.Do Http

/-- Changing a venue without touching its table keeps the jobs. -/
theorem SameJobs.modifyVenue {w₀ w : World} (same : SameJobs w₀ w) {v : Nat}
    {f : Venue → Venue} (keeps : ∀ x, (f x).table = x.table) :
    SameJobs w₀ { w with venues := w.venues.modify v f } := by
  refine Eq.trans ?_ same
  simp only [jobView, JobView.mk.injEq, true_and]
  exact venues_modify_table _ _ _ keeps

theorem jobPath_startsWith (id : String) : (jobPath id).startsWith "/v1/jobs/" = true := by
  simp [jobPath, String.toList_append]

section Serving

variable (w₀ : World)

theorem readiness_sameJobs (v : Nat) :
    ⦃fun w => ⌜SameJobs w₀ w⌝⦄ readiness v ⦃⇓ _ w => ⌜SameJobs w₀ w⌝⦄ := by
  mvcgen [readiness, ready, modifyVenue]
  all_goals exact SameJobs.modifyVenue ‹_› fun _ => rfl

theorem keyedEndpoint_sameJobs (v : Nat) (r : Request) (h : Headers) {e : Endpoint}
    (reads : e.reads = true) :
    ⦃fun w => ⌜SameJobs w₀ w⌝⦄ keyedEndpoint v r h e ⦃⇓ _ w => ⌜SameJobs w₀ w⌝⦄ := by
  have ready := readiness_sameJobs w₀ v
  cases e with
  | invoke | cancelJob _ | deleteJob _ => simp [Endpoint.reads] at reads
  | _ => mvcgen [keyedEndpoint, probeEndpoint, listEndpoint, listJobs, getJob, ready]

theorem answerRouted_sameJobs (v : Nat) (key : String) (r : Request) (h : Headers)
    (get : r.method = "GET") :
    ⦃fun w => ⌜SameJobs w₀ w⌝⦄ answerRouted v key r h ⦃⇓ _ w => ⌜SameJobs w₀ w⌝⦄ := by
  have ready := readiness_sameJobs w₀ v
  unfold answerRouted
  split
  -- a redirect, a missing route and a refused method are answered at once
  · mvcgen
  · mvcgen
  · mvcgen
  -- the probes read the venue's readiness
  · mvcgen [probeEndpoint]
  · mvcgen [probeEndpoint, ready]
  · next e _ _ routed =>
    split
    · mvcgen
    · exact keyedEndpoint_sameJobs w₀ v r h (route_get get routed)

theorem serve_get_sameJobs (v : Nat) (r : Request) (get : r.method = "GET") :
    ⦃fun w => ⌜SameJobs w₀ w⌝⦄ serve v r ⦃⇓ _ w => ⌜SameJobs w₀ w⌝⦄ := by
  have answered := fun key h => answerRouted_sameJobs w₀ v key r h get
  mvcgen [serve, answered]
  -- the metric line of a metered venue is recorded after the answer
  all_goals simp_all [SameJobs]

/-- **Serving a `GET`, following the venue's redirects, keeps the jobs.** -/
theorem serveFollowing_get_sameJobs (v : Nat) (hops : Nat) (req : Request)
    (get : req.method = "GET") :
    ⦃fun w => ⌜SameJobs w₀ w⌝⦄ serveFollowing v req hops ⦃⇓ _ w => ⌜SameJobs w₀ w⌝⦄ := by
  induction hops generalizing req with
  | zero => exact serve_get_sameJobs w₀ v req get
  | succ hops ih =>
    have served := serve_get_sameJobs w₀ v req get
    -- a followed redirect keeps the method `GET`
    have followed := fun (req' : Request) (get' : req'.method = "GET") => ih req' get'
    mvcgen [serveFollowing, served, followed]
    intro _ _
    simp +zetaDelta only
    split <;> simp [get]

@[spec] theorem modifyLink_sameJobs (l : Nat) (f : RemoteLink → RemoteLink) :
    ⦃fun w => ⌜SameJobs w₀ w⌝⦄ modifyLink l f ⦃⇓ _ w => ⌜SameJobs w₀ w⌝⦄ := by
  mvcgen [modifyLink]

theorem scriptResponse_sameJobs (l : Nat) (r : Request) :
    ⦃fun w => ⌜SameJobs w₀ w⌝⦄ scriptResponse l r ⦃⇓ _ w => ⌜SameJobs w₀ w⌝⦄ := by
  mvcgen [scriptResponse, scriptedReply]
  all_goals simp_all [SameJobs]

end Serving

/-! ## A fetch, step by step -/

section Fetching

variable (w₀ : World)

theorem exchange_get_sameJobs (l : Nat) (path : String) :
    ⦃fun w => ⌜SameJobs w₀ w⌝⦄ exchange l "GET" path none
    ⦃⇓ r w => ⌜SameJobs w₀ w ∧ ∀ f, r = .error f → ∃ m, f = .plain m⌝⦄ := by
  have scripted := scriptResponse_sameJobs w₀ l
  have served := fun v req get => serveFollowing_get_sameJobs w₀ v 10 req get
  mvcgen [exchange, scripted, served]
  -- every failure of the exchange is a transport fault
  all_goals exact ⟨by assumption, by simp⟩

theorem call_job_sameJobs (l : Nat) (id : String) :
    ⦃fun w => ⌜SameJobs w₀ w⌝⦄ call l "GET" (jobPath id) none
    ⦃⇓ r w => ⌜SameJobs w₀ w ∧ ∀ f, r = .error f → FetchFailure f⌝⦄ := by
  have exchanged := exchange_get_sameJobs w₀ l (jobPath id)
  mvcgen [call, exchanged]
  all_goals obtain ⟨same, transported⟩ := ‹SameJobs w₀ _ ∧ _›
  · -- no reply: a transport fault
    refine ⟨same, fun f failed => ?_⟩
    cases failed
    obtain ⟨m, rfl⟩ := transported _ rfl
    exact .transport m
  · -- a 404 for the job
    exact ⟨same, fun f failed => by cases failed; exact .notFound⟩
  · -- another HTTP error, which is no 404 since the path is a job's
    refine ⟨same, fun f failed => ?_⟩
    cases failed
    have other := ‹¬(_ == 404 && (jobPath id).startsWith "/v1/jobs/") = true›
    simp only [jobPath_startsWith, Bool.and_true, beq_iff_eq] at other
    exact .refused _ _ (by omega)
  · exact ⟨same, fun f failed => by cases failed⟩

theorem fetchRemote_sameJobs (l : Nat) (id : String) :
    ⦃fun w => ⌜SameJobs w₀ w⌝⦄ fetchRemote l id
    ⦃⇓ r w => ⌜SameJobs w₀ w ∧ ∀ f, r = .error f → FetchFailure f⌝⦄ := by
  have called := call_job_sameJobs w₀ l id
  mvcgen [fetchRemote, called]
  obtain ⟨same, failures⟩ := ‹SameJobs w₀ _ ∧ _›
  refine ⟨same, fun f failed => ?_⟩
  unfold recordReply at failed
  split at failed
  · cases failed
    exact failures _ rfl
  · -- a body that holds no record
    split at failed
    · cases failed
    · cases failed
      exact .undecodable _ (Record.read_isRemoteNotFound ‹_›)

/-- **A poll keeps the jobs, and fails only as `FetchFailure` says.** -/
theorem pollRemote_sameJobs (l : Nat) (id : String) :
    ⦃fun w => ⌜SameJobs w₀ w⌝⦄ pollRemote l id
    ⦃⇓ r w => ⌜SameJobs w₀ w ∧ ∀ f, r = .error f → FetchFailure f⌝⦄ := by
  have fetched := fetchRemote_sameJobs w₀ l id
  mvcgen [pollRemote, fetched]
  -- the breaker's and the metric's writes keep the jobs; an open breaker and a missing link
  -- are failures of their own
  all_goals simp_all [SameJobs, FetchFailure.breakerOpen, FetchFailure.transport]

end Fetching

end World

end JobEngine

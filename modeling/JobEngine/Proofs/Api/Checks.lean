import Mathlib.Data.List.TakeDrop
import Mathlib.Data.List.TakeWhile
import JobEngine.World.Api

/-!
# The checks in front of the invocation handler

An invocation meets four checks of its own text before the engine sees it. This module says,
for each, exactly which requests pass, in terms of the request rather than of the code that
checks it:

* the content type: a `POST` passes when its `Content-Type` is absent or names
  `application/json`;
* the key: a venue without a key takes every request; one with a key takes a request whose
  `Authorization` value is cut at its *first* space into a scheme spelling `bearer` in any
  case and a token equal to the key (so a token may itself hold spaces);
* the route: only a `POST` reaches the invocation endpoint;
* validation: the operation, trimmed, is given and at most 256 bytes long, and a callback
  names an `http` or `https` URL with a host and at most 16 event types, each an update or a
  finish.

## Main Statements

* `World.authProblem_eq_none_iff` — the requests the key check lets through.
* `World.wrongContentType_eq_false_iff` — the `POST`s the content-type check lets through.
* `Http.route_invoke` — what is routed to the invocation endpoint is a `POST`.
* `InvokeRequest.validate_eq_ok_iff` — the requests validation accepts.
* `InvokeRequest.validate_eq_error` — what it refuses, it refuses with a validation fault.
-/

namespace JobEngine

open Http

/-! ## Validation -/

namespace InvokeRequest

/-- A loop that refuses the first element failing a test refuses with that element's fault,
and otherwise goes through. -/
theorem forIn_refuse {xs : List String} {bad : String → Bool} {fault : String → Fault} :
    (forIn xs PUnit.unit fun e _ =>
      if bad e = true then
        (throw (fault e) : Except Fault PUnit) >>= fun _ => pure (ForInStep.yield PUnit.unit)
      else pure (ForInStep.yield PUnit.unit)) =
      match xs.find? bad with
      | some e => .error (fault e)
      | none => .ok PUnit.unit := by
  induction xs with
  | nil => rfl
  | cons e rest ih =>
    rw [List.forIn_cons, List.find?_cons]
    cases refused : bad e with
    | true => rfl
    | false => simpa [refused] using ih

/-- **A callback URL is accepted** when it is given, parses, has the scheme `http` or `https`
and names a host. -/
theorem callbackUrlProblem_eq_none_iff {url : String} :
    callbackUrlProblem url = none ↔
      url ≠ "" ∧ ∃ u, Url.parse url = .ok u ∧ (u.scheme = "http" ∨ u.scheme = "https") ∧
        u.host ≠ [] := by
  unfold callbackUrlProblem
  split
  · next empty =>
    simp only [String.isEmpty_iff] at empty
    simp [empty]
  · next given =>
    split
    · next parsed => simp [parsed]
    · next u parsed =>
      simp only [String.isEmpty_iff] at given
      simp only [parsed, Except.ok.injEq, exists_eq_left', given, ne_eq, not_false_eq_true,
        true_and]
      by_cases web : u.scheme = "http" ∨ u.scheme = "https"
      · have : (u.scheme != "http" && u.scheme != "https") = false := by
          rcases web with web | web <;> simp [web]
        simp [this, web, List.isEmpty_iff]
      · have : (u.scheme != "http" && u.scheme != "https") = true := by
          simp only [not_or] at web
          simp [web.1, web.2]
        simp [this, web]

/-- **What validation accepts**: the operation, without its surrounding blanks, is given and
at most `maxReference` bytes long, and a callback has an accepted URL and at most `maxEvents`
event types, each an update or a finish. -/
structure Valid (r : InvokeRequest) : Prop where
  operation : Text.trimBlank r.operation ≠ ""
  short : (Text.trimBlank r.operation).utf8ByteSize ≤ maxReference
  callback : ∀ cb ∈ r.callback, callbackUrlProblem cb.url = none ∧ cb.events.length ≤ maxEvents ∧
    ∀ e ∈ cb.events, e = updateEventType ∨ e = finishEventType

/-- **Validation accepts exactly the valid requests**, and hands them on with the operation
trimmed. -/
theorem validate_eq_ok_iff {r r' : InvokeRequest} :
    r.validate = .ok r' ↔ r.Valid ∧ r' = { r with operation := Text.trimBlank r.operation } := by
  unfold validate
  simp only [forIn_refuse]
  -- the checks in the order validation makes them
  by_cases empty : Text.trimBlank r.operation = ""
  · simp [empty, throw, throwThe, MonadExceptOf.throw, bind, Except.bind]
    intro valid
    exact absurd empty valid.operation
  by_cases long : (Text.trimBlank r.operation).utf8ByteSize > maxReference
  · simp [empty, long, throw, throwThe, MonadExceptOf.throw, bind, Except.bind]
    exact fun valid => absurd valid.short (by omega)
  have withCallback : ∀ cb, r.callback = some cb → (r.Valid ↔ callbackUrlProblem cb.url = none ∧
      cb.events.length ≤ maxEvents ∧ ∀ e ∈ cb.events, e = updateEventType ∨ e = finishEventType) := by
    intro cb given
    constructor
    · intro valid
      exact valid.callback cb (by simp [given])
    · intro accepted
      exact ⟨empty, by omega, by simpa [given] using accepted⟩
  cases callback : r.callback with
  | none =>
    have valid : r.Valid := ⟨empty, by omega, by simp [callback]⟩
    simp [empty, long, pure, Except.pure]
    exact ⟨fun same => ⟨valid, same.symm⟩, fun ⟨_, same⟩ => same.symm⟩
  | some cb =>
    rw [withCallback cb callback]
    cases problem : callbackUrlProblem cb.url with
    | some p => simp [empty, long, problem, throw, throwThe, MonadExceptOf.throw, bind, Except.bind]
    | none =>
      by_cases many : cb.events.length > maxEvents
      · have tooMany : ¬cb.events.length ≤ maxEvents := by omega
        simp [empty, long, problem, many, tooMany, throw, throwThe, MonadExceptOf.throw, bind,
          Except.bind]
      · simp [empty, long, problem, many, bind, Except.bind, pure, Except.pure]
        -- the event types are checked last, the first unknown one refused
        cases found : cb.events.find? (fun e => e != updateEventType && e != finishEventType) with
        | some e =>
          have unknown := List.find?_some found
          have listed := List.mem_of_find?_eq_some found
          simp only [bne_iff_ne, ne_eq, Bool.and_eq_true] at unknown
          simp only [reduceCtorEq, false_iff, not_and]
          intro ⟨_, allowed⟩ _
          rcases allowed e listed with known | known
          · exact unknown.1 known
          · exact unknown.2 known
        | none =>
          simp only [List.find?_eq_none, bne_iff_ne, ne_eq, Bool.and_eq_true, not_and,
            Decidable.not_not] at found
          have allowed : ∀ e ∈ cb.events, e = updateEventType ∨ e = finishEventType := by
            intro e listed
            by_cases update : e = updateEventType
            · exact .inl update
            · exact .inr (found e listed update)
          simp only [Except.ok.injEq]
          exact ⟨fun same => ⟨⟨by omega, allowed⟩, same.symm⟩, fun ⟨_, same⟩ => same.symm⟩

/-- **Every refusal of validation is a validation fault.** -/
theorem validate_eq_error {r : InvokeRequest} {f : Fault} (refused : r.validate = .error f) :
    ∃ field message, f = Fault.validation field message := by
  unfold validate at refused
  simp only [forIn_refuse] at refused
  -- each check refuses with a validation fault of its own
  repeat' split at refused
  all_goals simp_all [throw, throwThe, MonadExceptOf.throw, bind, Except.bind, pure, Except.pure]
  all_goals exact ⟨_, _, refused.symm⟩

end InvokeRequest

/-- A validation fault is answered with 400. -/
@[simp] theorem Fault.httpStatus_validation (field message : String) :
    (Fault.validation field message).httpStatus = 400 := rfl

namespace World

/-! ## The key -/

/-- **The first-space cut**: the scheme is the text before the first space, the credentials
all of the text after it. -/
theorem splitCredentials_eq_some_iff {auth scheme token : String} :
    splitCredentials auth = some (scheme, token) ↔
      auth = scheme ++ " " ++ token ∧ ' ' ∉ scheme.toList := by
  unfold splitCredentials
  rw [List.span_eq_takeWhile_dropWhile]
  constructor
  · intro cut
    split at cut
    · next before c after split =>
      simp only [Prod.mk.injEq] at split
      simp only [Option.some.injEq, Prod.mk.injEq] at cut
      obtain ⟨taken, dropped⟩ := split
      obtain ⟨rfl, rfl⟩ := cut
      -- the scan stops at a space, which heads what it leaves
      have space : c = ' ' := by
        have stop := List.head_dropWhile_not (· != ' ') (l := auth.toList) (by simp [dropped])
        simp only [dropped, List.head_cons, bne_eq_false_iff_eq] at stop
        exact stop
      subst space
      refine ⟨?_, ?_⟩
      · rw [← String.toList_inj]
        have whole := List.takeWhile_append_dropWhile (p := (· != ' ')) (l := auth.toList)
        rw [taken, dropped] at whole
        simp [String.toList_append, whole]
      · intro mem
        rw [String.toList_ofList, ← taken] at mem
        simpa using List.mem_takeWhile_imp mem
    · simp at cut
  · rintro ⟨rfl, clear⟩
    have passes : ∀ c ∈ scheme.toList, (c != ' ') = true := by
      intro c mem
      simp only [bne_iff_ne, ne_eq]
      rintro rfl
      exact clear mem
    simp [String.toList_append, List.takeWhile_append_of_pos passes,
      List.dropWhile_append_of_pos passes]

/-- **The requests the key check lets through**: all of them when the venue has no key, and
otherwise those whose `Authorization` value is a scheme without spaces spelling `bearer` in any
case, a space, and the key. -/
theorem authProblem_eq_none_iff {key : String} {r : Request} :
    authProblem key r = none ↔ key = "" ∨
      ∃ scheme, ' ' ∉ scheme.toList ∧ scheme.toLower = "bearer" ∧
        r.headers.get "Authorization" = scheme ++ " " ++ key := by
  unfold authProblem
  by_cases keyless : key = ""
  · simp [keyless]
  simp only [keyless, false_or]
  rw [if_neg (by simpa using keyless)]
  split
  · next absent =>
    simp only [reduceCtorEq, false_iff, not_exists, not_and]
    intro scheme _ _ given
    rw [given] at absent
    simp [String.isEmpty_iff] at absent
  · split
    · next scheme token cut =>
      obtain ⟨whole, clear⟩ := splitCredentials_eq_some_iff.mp cut
      constructor
      · intro accepted
        refine ⟨scheme, clear, ?_, ?_⟩
        · split at accepted
          · cases accepted
          · next bearer => simpa using bearer
        · split at accepted
          · cases accepted
          · split at accepted
            · cases accepted
            · next same =>
              rw [whole]
              simp only [bne_iff_ne, ne_eq, Decidable.not_not] at same
              rw [same]
      · rintro ⟨scheme', clear', bearer, given⟩
        -- the cut is unique: both put the first space right after the scheme
        have cut' := splitCredentials_eq_some_iff.mpr ⟨given, clear'⟩
        rw [cut] at cut'
        simp only [Option.some.injEq, Prod.mk.injEq] at cut'
        obtain ⟨rfl, rfl⟩ := cut'
        simp [bearer]
    · next uncut =>
      simp only [reduceCtorEq, false_iff, not_exists, not_and]
      intro scheme clear _ given
      have cut := splitCredentials_eq_some_iff.mpr ⟨given, clear⟩
      rw [uncut] at cut
      cases cut

/-! ## The content type -/

/-- **The `POST`s the content-type check lets through**: those without a `Content-Type`, and
those whose `Content-Type` names `application/json`. -/
theorem wrongContentType_eq_false_iff {r : Request} (post : r.method = "POST") :
    wrongContentType r = false ↔ r.headers.get "Content-Type" = "" ∨
      MediaType.parse (r.headers.get "Content-Type") = .ok "application/json" := by
  unfold wrongContentType
  rw [post]
  simp only [show ("POST" != "POST" && "POST" != "PUT") = false from rfl, Bool.false_eq_true,
    if_false]
  split
  · next absent =>
    simp only [String.isEmpty_iff] at absent
    simp [absent]
  · next given =>
    simp only [String.isEmpty_iff] at given
    simp only [given, false_or]
    split
    · next t parsed => simp [parsed]
    · next parsed => simp [parsed]

end World

/-! ## The route -/

namespace Http

theorem findEndpoint_invoke {method : String} {segs : List String}
    (found : findEndpoint method segs = some .invoke) : method = "POST" := by
  simp only [findEndpoint] at found
  -- a `HEAD` falls back to the `GET` routes, none of which invokes
  split at found
  · next viaMethod =>
    obtain ⟨r, member, hit⟩ := List.exists_of_findSome?_eq_some (viaMethod.trans found)
    simp only [routes, List.mem_cons, List.not_mem_nil, or_false] at member
    -- only the invocation route gives the invocation endpoint
    rcases member with rfl | rfl | rfl | rfl | rfl | rfl | rfl | rfl | rfl | rfl <;> simp at hit
    exact hit.1.symm
  · split at found
    · obtain ⟨r, member, hit⟩ := List.exists_of_findSome?_eq_some found
      simp only [routes, List.mem_cons, List.not_mem_nil, or_false] at member
      rcases member with rfl | rfl | rfl | rfl | rfl | rfl | rfl | rfl | rfl | rfl <;> simp at hit
    · cases found

/-- **Only a `POST` is routed to the invocation endpoint.** -/
theorem route_invoke {r : Request} (routed : route r = .endpoint .invoke) : r.method = "POST" := by
  unfold route at routed
  generalize (if r.method == "CONNECT" then r.rawPath else cleanPath r.rawPath) = path at routed
  dsimp only at routed
  -- an unclean path is redirected; a clean one goes where its method's routes say
  split at routed
  · cases routed
  · split at routed
    · next found =>
      cases routed
      exact findEndpoint_invoke found
    · split at routed <;> cases routed

end Http

end JobEngine

import JobEngine.Session.Basic
import JobEngine.World.Remote

/-!
# Setting up a session's world

A session's world is described by a configuration: the adapters of the local venue, the
webhook outlet, the remote venues, and the settings of the local HTTP API. The local venue
is venue `0`; it always has the `test` adapter, and the orchestrator unless it is switched
off.

## Main Definitions

* `sessionEpoch` — when every session's clock starts: 2000-01-01T00:00:00Z.
* `World.addVenue` — a new venue with its own scope and id generator.
* `Session.start` — the session for a configuration, or why it is refused.
-/

namespace JobEngine

/-- When every session's clock starts, in nanoseconds since the Unix epoch:
2000-01-01T00:00:00Z. -/
def sessionEpoch : Int := 946684800000 * Duration.nanosPerMilli

namespace World

/-- Adds a venue whose ids draw entropy counting up from `seed`. -/
def addVenue (name : String) (seed : Nat) (usesCatalog metered notifies : Bool) : WorldM Nat := do
  let base ← newScope 0 none
  let ids : IdGenerator := { entropy := .counting (seed % 256) }
  let x : Venue := { name, ids, base, usesCatalog, metered, notifies }
  modifyGet fun w => (w.venues.size, { w with venues := w.venues.push x })

/-- Registers an adapter by name, ignoring a refusal. -/
def registerNamed (v : Nat) (name : String) (concurrency poll : Int) : WorldM Unit := do
  let a ← adapterFor name concurrency poll
  let _ ← register v a

end World

namespace Session

open World

/-- The settings of the delivery queue a configuration's `memory` member describes; one
worker unless it says otherwise. -/
def queueSettingsOf (m : Value) : DeliverySettings :=
  let ms (k : String) : Int := Duration.ofMillis (m.whole k 0)
  { bufferSize := m.whole "buffer_size" 0, workers := m.whole "workers" 1,
    maxRetries := m.whole "max_retries" 0, retryInitial := ms "retry_initial_ms",
    breakerThreshold := m.whole "breaker_threshold" 0, breakerCooldown := ms "breaker_cooldown_ms",
    maxRequeues := m.whole "max_requeues" 0 }

/-- Sets up the webhook outlet a configuration asks for: recording by default, none, or the
in-memory queue. -/
def setupOutlet (cfg : Value) : WorldM Unit :=
  match cfg.text "dispatcher" with
  | "none" => modify fun w => { w with outlet := .none }
  | "memory" => openQueue (queueSettingsOf ((cfg.field? "memory").getD .null))
  | _ => modify fun w => { w with outlet := .recording false }

/-- The HTTP front a configuration's `api` member describes: key, allowed origins, token
bucket and readiness checks. Requests to it are recorded in the metrics. -/
def gateOf (api : Value) : Gate :=
  let rate := api.number "rate" 0
  let checks := api.items "checks"
  let health := checks.foldl (fun h c => h.register (c.text "name") (c.flag "critical" false))
    (HealthChecker.register "engine" true {})
  let answers := checks.map fun c => (c.text "name", (c.field? "error").bind Value.asString?)
  { key := api.text "api_key", cors := Http.CorsPolicy.ofOrigins (api.texts "cors"),
    limiter := if rate > 0 then some (Http.Limiter.create rate (api.whole "burst" 0)) else none,
    health, answers, metered := true }

/-- A canned reply of a script. -/
def replyOf (v : Value) : Reply :=
  { status := (v.whole "status" 0).toNat, body := v.text "body" }

/-- The peer a remote's configuration describes: canned replies when it has a script,
otherwise a new venue of the world with the test adapter and the orchestrator, whose API
requires the remote's server key. The venue's ids draw entropy from `seed`. -/
def peerOf (r : Value) (name : String) (seed : Nat) : WorldM Peer := do
  match r.field? "script" with
  | some sc@(.obj _) =>
    return .script ((sc.field? "invoke").map replyOf) ((sc.items "fetch").map replyOf)
      ((sc.field? "cancel").map replyOf) ((sc.field? "ping").map replyOf)
  | _ =>
    let v ← addVenue name seed true false false
    registerNamed v "test" (r.whole "concurrency" 0) 0
    registerNamed v "orchestrator" 0 0
    let key := r.text "server_key"
    modifyVenue v fun x => { x with gate := { key } }
    return .venue v key

/-- Adds the remote venue described by the `i`-th entry of `remotes`, and registers its
forwarding adapter on the local venue unless told not to; a remote whose URL is refused is
the fault that stops the configuration. -/
def addRemote (home : Nat) (i : Nat) (r : Value) : WorldM (Option Fault) := do
  let name := r.text "name"
  let url := match r.field? "url" with
    | some (.str u) => u
    | _ => "http://" ++ name ++ ".test"
  let ms (k : String) : Int := Duration.ofMillis (r.whole k 0)
  let breakerCfg := (r.field? "breaker").getD .null
  let settings : ClientSettings :=
    { url, apiKey := r.text "api_key", name, pollInitial := ms "poll_initial_ms",
      pollFactor := r.number "poll_factor" 0, pollMax := ms "poll_max_ms",
      fetchTimeout := ms "fetch_timeout_ms",
      breaker := { threshold := breakerCfg.whole "threshold" 0,
                   cooldown := Duration.ofMillis (breakerCfg.whole "cooldown_ms" 0) } }
  match settings.resolve with
  | .error f => return some f
  | .ok client =>
    let peer ← peerOf r name ((100 + 50 * i) % 256)
    let l ← modifyGet fun w => (w.links.size,
      { w with links := w.links.push { client, breaker := { settings := client.breaker }, peer },
               linkNames := w.linkNames ++ [name] })
    if r.flag "register" true then
      let _ ← register home { name := client.name, kind := .forward l }
    return none

/-- Builds the local venue of a configuration; the first remote that cannot be added stops it
with its fault. -/
def setupLocal (cfg : Value) : WorldM (Option Fault) := do
  setupOutlet cfg
  let notifies := match (← get).outlet with
    | .none => false
    | _ => true
  let v ← addVenue "local" 0 (!cfg.flag "no_store" false) true notifies
  let poll := Duration.ofMillis (cfg.whole "orchestrator_poll_ms" 0)
  registerNamed v "test" (cfg.whole "concurrency" 0) poll
  if cfg.flag "orchestrator" true then registerNamed v "orchestrator" 0 poll
  for name in cfg.texts "adapters" do
    let sem ← newSem 64
    let _ ← register v { name, kind := .funcs [] sem }
  modifyVenue v fun x => { x with gate := gateOf ((cfg.field? "api").getD .null) }
  for (r, i) in (cfg.items "remotes").zipIdx do
    if let some f ← addRemote v i r then return some f
  return none

/-- The session for a configuration, or the fault that refuses the configuration. -/
def start (cfg : Value) : Except Fault Session :=
  match (setupLocal cfg).run { now := sessionEpoch } with
  | (some f, _) => .error f
  | (none, w) => .ok { world := w }

end Session

end JobEngine

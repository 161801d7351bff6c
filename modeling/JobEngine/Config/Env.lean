import JobEngine.Text.Numbers
import JobEngine.Text.Blank
import JobEngine.Clock.Duration

/-!
# Settings from the environment

Every setting of the service, of the command-line client and of the delivery queue can be
given as an environment variable. A variable that is unset, empty or unreadable leaves the
default in place.

## Main Definitions

* `Environment` — the variables that are set.
* `Environment.text`, `.int`, `.float`, `.bool`, `.duration`, `.list` — typed readers.
* `ServiceSettings`, `ClientDefaults`, `ContainerSettings` — the loaded settings.

## Design Notes

Secrets are read from files named by `*_FILE` variables; a file that cannot be read gives the
empty secret. Lists are comma separated, their items trimmed and empty items dropped; a list
with no items is absent.
-/

namespace JobEngine

/-- The environment variables that are set, by name, and the readable files by path. -/
structure Environment where
  vars : List (String × String)
  files : List (String × String) := []

namespace Environment

/-- The value of a variable, empty when unset. -/
def get (env : Environment) (k : String) : String := (env.vars.lookup k).getD ""

/-- A text setting. -/
def text (env : Environment) (k d : String) : String :=
  let v := env.get k
  if v.isEmpty then d else v

/-- An integer setting. -/
def int (env : Environment) (k : String) (d : Int) : Int := (Text.parseInt64? (env.get k)).getD d

/-- A floating-point setting. -/
def float (env : Environment) (k : String) (d : Float) : Float := (Text.parseFloat? (env.get k)).getD d

/-- A truth-valued setting. -/
def bool (env : Environment) (k : String) (d : Bool) : Bool := (Text.parseBool? (env.get k)).getD d

/-- A duration setting, in nanoseconds. -/
def duration (env : Environment) (k : String) (d : Int) : Int := (Duration.parse? (env.get k)).getD d

/-- A comma-separated list setting; `none` when it has no items. -/
def list (env : Environment) (k : String) : Option (List String) :=
  let items := ((env.get k).splitOn ",").map Text.trimBlank |>.filter (!·.isEmpty)
  if items.isEmpty then none else some items

/-- The trimmed content of a secret file; empty when no path is given or the file cannot be
read. -/
def secretFile (env : Environment) (path : String) : String :=
  if path.isEmpty then "" else ((env.files.lookup path).map Text.trimBlank).getD ""

end Environment

/-- Settings of the service. Durations are in nanoseconds. -/
structure ServiceSettings where
  port : String
  metricsPort : String
  apiKey : String
  shutdownDrainWait : Int
  catalogFile : String
  invokeRateLimit : Float
  invokeRateBurst : Int
  corsOrigins : Option (List String)
  dockerEnabled : Bool
  logLevel : String
  adapterConcurrency : Int
  orchestratorPollInterval : Int
  remoteVenues : Option (List String)
  remoteApiKey : String

/-- Loads the service settings. -/
def ServiceSettings.load (env : Environment) : ServiceSettings :=
  { port := env.text "PORT" "8080"
    metricsPort := env.text "METRICS_PORT" "9090"
    apiKey := env.secretFile (env.text "API_KEY_FILE" "")
    shutdownDrainWait := env.duration "SHUTDOWN_DRAIN_WAIT" (5 * Duration.nanosPerSecond)
    catalogFile := env.text "CATALOG_FILE" ""
    invokeRateLimit := env.float "INVOKE_RATE_LIMIT" 0
    invokeRateBurst := env.int "INVOKE_RATE_BURST" 20
    corsOrigins := env.list "CORS_ORIGINS"
    dockerEnabled := env.bool "DOCKER_ENABLED" false
    logLevel := env.text "LOG_LEVEL" "info"
    adapterConcurrency := env.int "ADAPTER_CONCURRENCY" 64
    orchestratorPollInterval := env.duration "ORCHESTRATOR_POLL_INTERVAL" (50 * Duration.nanosPerMilli)
    remoteVenues := env.list "REMOTE_VENUES"
    remoteApiKey := env.secretFile (env.text "REMOTE_API_KEY_FILE" "") }

/-- Settings of the command-line client of a venue. -/
structure ClientDefaults where
  url : String
  apiKey : String
  pollInitial : Int
  pollFactor : Float
  pollMax : Int
  fetchTimeout : Int

/-- Loads the client settings; the key is taken from `VENUE_API_KEY`, or else from the file
`VENUE_API_KEY_FILE` names. -/
def ClientDefaults.load (env : Environment) : ClientDefaults :=
  let key := env.text "VENUE_API_KEY" ""
  { url := env.text "VENUE_URL" "http://localhost:8080"
    apiKey := if key.isEmpty then env.secretFile (env.text "VENUE_API_KEY_FILE" "") else key
    pollInitial := env.duration "VENUE_POLL_INITIAL" (300 * Duration.nanosPerMilli)
    pollFactor := env.float "VENUE_POLL_FACTOR" 1.5
    pollMax := env.duration "VENUE_POLL_MAX" 0
    fetchTimeout := env.duration "VENUE_FETCH_TIMEOUT" (10 * Duration.nanosPerSecond) }

/-- Settings of the container adapter. -/
structure ContainerSettings where
  concurrency : Int
  defaultTimeout : Int
  extraHosts : Option (List String)
  cpu : Float
  memoryMb : Int

/-- Loads the container adapter settings. -/
def ContainerSettings.load (env : Environment) : ContainerSettings :=
  { concurrency := env.int "DOCKER_CONCURRENCY" 8
    defaultTimeout := env.duration "DOCKER_DEFAULT_TIMEOUT" (600 * Duration.nanosPerSecond)
    extraHosts := env.list "DOCKER_EXTRA_HOSTS"
    cpu := env.float "DOCKER_CPU" 0
    memoryMb := env.int "DOCKER_MEMORY_MB" 0 }

end JobEngine

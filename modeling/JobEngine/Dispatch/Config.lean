import JobEngine.Config.Env

/-!
# Delivery queue settings

The in-memory delivery queue keeps pending webhook deliveries in a bounded buffer, sends them
from a pool of workers, retries failures with growing delays and guards each destination host
with a circuit breaker.

## Main Definitions

* `DeliverySettings` — buffer size, workers, timeouts, retries and breaker settings.
* `DeliverySettings.withDefaults` — every unset (non-positive) field replaced by its default.
* `DeliverySettings.load` — the settings from the environment.

## Design Notes

A negative retry count means no retries and is kept as `-1`; zero selects the default of 3.
-/

namespace JobEngine

/-- Settings of the delivery queue. Durations are in nanoseconds. -/
structure DeliverySettings where
  bufferSize : Int := 0
  workers : Int := 0
  httpTimeout : Int := 0
  /-- Retries after the first attempt; `-1` for none. -/
  maxRetries : Int := 0
  retryInitial : Int := 0
  breakerThreshold : Int := 0
  breakerCooldown : Int := 0
  maxRequeues : Int := 0

namespace DeliverySettings

/-- The settings with defaults for unset fields: 10000 pending deliveries, 10 workers, 10 s per
request, 3 retries from 100 ms, breakers opening after 5 failures for 30 s, 10 requeues. -/
def withDefaults (c : DeliverySettings) : DeliverySettings :=
  { bufferSize := if c.bufferSize ≤ 0 then 10000 else c.bufferSize
    workers := if c.workers ≤ 0 then 10 else c.workers
    httpTimeout := if c.httpTimeout ≤ 0 then 10 * Duration.nanosPerSecond else c.httpTimeout
    maxRetries := if c.maxRetries == 0 then 3 else if c.maxRetries < 0 then -1 else c.maxRetries
    retryInitial := if c.retryInitial ≤ 0 then 100 * Duration.nanosPerMilli else c.retryInitial
    breakerThreshold := if c.breakerThreshold ≤ 0 then 5 else c.breakerThreshold
    breakerCooldown := if c.breakerCooldown ≤ 0 then 30 * Duration.nanosPerSecond else c.breakerCooldown
    maxRequeues := if c.maxRequeues ≤ 0 then 10 else c.maxRequeues }

/-- Loads the settings from the environment and fills defaults. -/
def load (env : Environment) : DeliverySettings :=
  withDefaults
    { bufferSize := env.int "DISPATCHER_BUFFER_SIZE" 10000
      workers := env.int "DISPATCHER_WORKERS" 10
      httpTimeout := env.duration "DISPATCHER_HTTP_TIMEOUT" (10 * Duration.nanosPerSecond)
      maxRetries := env.int "DISPATCHER_MAX_RETRIES" 3
      retryInitial := env.duration "DISPATCHER_RETRY_INITIAL" (100 * Duration.nanosPerMilli)
      breakerThreshold := env.int "DISPATCHER_BREAKER_THRESHOLD" 5
      breakerCooldown := env.duration "DISPATCHER_BREAKER_COOLDOWN" (30 * Duration.nanosPerSecond)
      maxRequeues := env.int "DISPATCHER_MAX_REQUEUES" 10 }

end DeliverySettings

end JobEngine

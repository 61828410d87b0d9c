import RecordRules.Json.Decode

/-!
# Settings

The settings of the engine and of webhook delivery, with their JSON forms.
-/

namespace RecordRules

/-- How webhooks are delivered; the backoff doubles with every attempt. -/
structure WebhookConfig where
  timeoutSecs : Nat
  maxRetries : Nat
  retryBackoffMs : Nat
  userAgent : String
  deriving DecidableEq, Repr, Inhabited

namespace WebhookConfig

def standard : WebhookConfig := ⟨10, 3, 500, "automation-engine/0.1"⟩

open Json (required need decodeText decodeNat32 decodeNat64)

def shape : Json.Shape :=
  ⟨"WebhookConfig",
   [required "timeout_secs" decodeNat64, required "max_retries" decodeNat32,
    required "retry_backoff_ms" decodeNat64, required "user_agent" decodeText]⟩

def ofJson (json : Json) : Except Json.DecodeError WebhookConfig := do
  let fields ← shape.read json
  return {
    timeoutSecs := ← need fields "timeout_secs" decodeNat64
    maxRetries := ← need fields "max_retries" decodeNat32
    retryBackoffMs := ← need fields "retry_backoff_ms" decodeNat64
    userAgent := ← need fields "user_agent" decodeText }

def toJson (config : WebhookConfig) : Json :=
  .object [("max_retries", Json.ofNat config.maxRetries),
    ("retry_backoff_ms", Json.ofNat config.retryBackoffMs),
    ("timeout_secs", Json.ofNat config.timeoutSecs), ("user_agent", .string config.userAgent)]

end WebhookConfig

/-- How the engine runs: its master switch, how often due actions are looked for, how many are
claimed at once and for how long, and how often schedules are read again. -/
structure EngineConfig where
  enabled : Bool
  delayedPollIntervalSecs : Nat
  delayedBatchSize : Int
  delayedLeaseSecs : Nat
  scheduleRefreshSecs : Nat
  deriving DecidableEq, Repr, Inhabited

namespace EngineConfig

def standard : EngineConfig := ⟨true, 60, 100, 300, 300⟩

open Json (required need decodeBool decodeNat32 decodeInt64)

def shape : Json.Shape :=
  ⟨"EngineConfig",
   [required "enabled" decodeBool, required "delayed_poll_interval_secs" decodeNat32,
    required "delayed_batch_size" decodeInt64, required "delayed_lease_secs" decodeNat32,
    required "schedule_refresh_secs" decodeNat32]⟩

def ofJson (json : Json) : Except Json.DecodeError EngineConfig := do
  let fields ← shape.read json
  return {
    enabled := ← need fields "enabled" decodeBool
    delayedPollIntervalSecs := ← need fields "delayed_poll_interval_secs" decodeNat32
    delayedBatchSize := ← need fields "delayed_batch_size" decodeInt64
    delayedLeaseSecs := ← need fields "delayed_lease_secs" decodeNat32
    scheduleRefreshSecs := ← need fields "schedule_refresh_secs" decodeNat32 }

def toJson (config : EngineConfig) : Json :=
  .object [("delayed_batch_size", .int config.delayedBatchSize),
    ("delayed_lease_secs", Json.ofNat config.delayedLeaseSecs),
    ("delayed_poll_interval_secs", Json.ofNat config.delayedPollIntervalSecs),
    ("enabled", .bool config.enabled),
    ("schedule_refresh_secs", Json.ofNat config.scheduleRefreshSecs)]

end EngineConfig

end RecordRules

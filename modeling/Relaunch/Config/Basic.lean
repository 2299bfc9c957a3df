import Relaunch.Backoff
import Relaunch.Text.Blank

/-!
# Config/Basic — the settings of a launcher, and the checks they pass

`Config.new` takes settings as they come: texts are trimmed, a blank token counts as none, and the
checks run in a fixed order, so that of several faults the first in that order is named.

Settings are also put together by setters with defaults (`Relaunch.Config.Builder`) and read from
the environment (`Relaunch.Config.Environment`).
-/

namespace Relaunch

structure Config where
  registryUrl : String
  authToken : Option String
  dataPlane : String
  parallelism : Nat
  initialBackoff : Duration
  maxBackoff : Duration
  requestTimeout : Duration
  recoveryInterval : Option Duration
deriving DecidableEq

/-- A variable of the environment that holds a setting. -/
inductive Variable where
  | registryUrl
  | dataPlane
  | authToken
  | parallelism
  | initialBackoff
  | maxBackoff
  | requestTimeout
  | recoveryInterval
deriving DecidableEq

def Variable.name : Variable → String
  | registryUrl => "CLAIMKEEPER_REGISTRY_URL"
  | dataPlane => "CLAIMKEEPER_DATA_PLANE_ID"
  | authToken => "CLAIMKEEPER_REGISTRY_TOKEN"
  | parallelism => "CLAIMKEEPER_PARALLELISM"
  | initialBackoff => "CLAIMKEEPER_RETRY_INITIAL_BACKOFF_MS"
  | maxBackoff => "CLAIMKEEPER_RETRY_MAX_BACKOFF_MS"
  | requestTimeout => "CLAIMKEEPER_REQUEST_TIMEOUT_MS"
  | recoveryInterval => "CLAIMKEEPER_RECOVERY_INTERVAL_MS"

/-- Why a text is no number. -/
inductive NumberFault where
  | empty
  | invalidDigit
  | tooLarge
deriving DecidableEq

def NumberFault.message : NumberFault → String
  | empty => "cannot parse integer from empty string"
  | invalidDigit => "invalid digit found in string"
  | tooLarge => "number too large to fit in target type"

/-- **Why there is no configuration.** -/
inductive ConfigError where
  /-- No value was set and there is no default. -/
  | missingUrl
  | missingDataPlane
  /-- A variable that is needed is unset or blank. -/
  | unset (v : Variable)
  /-- A variable's quoted bytes, which are no text. -/
  | unreadable (v : Variable) (quoted : String)
  | unparsable (v : Variable) (value : String) (fault : NumberFault)
  | scheme
  | emptyDataPlane
  | zeroParallelism
  | zeroInitialBackoff
  | zeroMaxBackoff
  | backoffOrder (initial max : Duration)
  | zeroRequestTimeout
  | zeroRecoveryInterval
deriving DecidableEq

/-- The messages of an error, outermost first. -/
def ConfigError.chain : ConfigError → List String
  | missingUrl => ["registry_url is required"]
  | missingDataPlane => ["data_plane_id is required"]
  | unset v => [v.name ++ " must be set"]
  | unreadable v quoted =>
      ["failed to read " ++ v.name, "environment variable was not valid unicode: " ++ quoted]
  | unparsable v value fault =>
      ["failed to parse " ++ v.name ++ "='" ++ value ++ "'", fault.message]
  | scheme => ["registry_url must start with http:// or https://"]
  | emptyDataPlane => ["data_plane_id cannot be empty"]
  | zeroParallelism => ["parallelism must be greater than 0"]
  | zeroInitialBackoff => ["retry_initial_backoff must be greater than 0"]
  | zeroMaxBackoff => ["retry_max_backoff must be greater than 0"]
  | backoffOrder initial max =>
      ["retry_initial_backoff (" ++ initial.render ++ ") must not exceed retry_max_backoff ("
        ++ max.render ++ ")"]
  | zeroRequestTimeout => ["request_timeout must be greater than 0"]
  | zeroRecoveryInterval => ["recovery_interval must be greater than 0 when set"]

namespace Config

/-- Whether a URL names one of the two schemes. -/
def hasScheme (url : String) : Bool :=
  Text.beginsWith "http://" url || Text.beginsWith "https://" url

/-- **The checks, in their order.** -/
def validate (c : Config) : Except ConfigError Unit :=
  if ¬ hasScheme (Text.trim c.registryUrl) then .error .scheme
  else if Text.isBlank c.dataPlane then .error .emptyDataPlane
  else if c.parallelism = 0 then .error .zeroParallelism
  else if c.initialBackoff.isZero then .error .zeroInitialBackoff
  else if c.maxBackoff.isZero then .error .zeroMaxBackoff
  else if c.initialBackoff > c.maxBackoff then
    .error (.backoffOrder c.initialBackoff c.maxBackoff)
  else if c.requestTimeout.isZero then .error .zeroRequestTimeout
  else if c.recoveryInterval.any Duration.isZero then .error .zeroRecoveryInterval
  else .ok ()

/-- The settings with their texts trimmed and a blank token dropped. -/
def normal (c : Config) : Config :=
  { c with
    registryUrl := Text.trim c.registryUrl
    authToken := (c.authToken.map Text.trim).filter fun token => token ≠ ""
    dataPlane := Text.trim c.dataPlane }

/-- **The configuration of settings**, trimmed and checked. -/
def new (c : Config) : Except ConfigError Config := do
  c.normal.validate
  .ok c.normal

/-- The retry policy of a configuration. -/
def backoff (c : Config) : Backoff := .ofBounds c.initialBackoff c.maxBackoff

/-! ## Defaults -/

def defaultParallelism : Nat := 10

def defaultInitialBackoff : Duration := .ofSecs 20

def defaultMaxBackoff : Duration := .ofSecs 600

def defaultRequestTimeout : Duration := .ofSecs 30

end Config

end Relaunch

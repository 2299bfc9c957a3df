import Relaunch.Config.Basic

/-!
# Config/Builder — settings put together one by one

A builder collects settings; of two values for one setting the later counts.  `Builder.build` fills
in the defaults and needs a registry URL and a data plane.
-/

namespace Relaunch

/-- The settings made so far. -/
structure Builder where
  registryUrl : Option String := none
  authToken : Option String := none
  dataPlane : Option String := none
  parallelism : Option Nat := none
  initialBackoff : Option Duration := none
  maxBackoff : Option Duration := none
  requestTimeout : Option Duration := none
  recoveryInterval : Option Duration := none

/-- **A setting with its value.** -/
inductive Setting where
  | registryUrl (url : String)
  | authToken (token : String)
  | dataPlane (id : String)
  | parallelism (n : Nat)
  | initialBackoff (d : Duration)
  | maxBackoff (d : Duration)
  | requestTimeout (d : Duration)
  | recoveryInterval (d : Duration)

namespace Builder

def set (b : Builder) : Setting → Builder
  | .registryUrl url => { b with registryUrl := some url }
  | .authToken token => { b with authToken := some token }
  | .dataPlane id => { b with dataPlane := some id }
  | .parallelism n => { b with parallelism := some n }
  | .initialBackoff d => { b with initialBackoff := some d }
  | .maxBackoff d => { b with maxBackoff := some d }
  | .requestTimeout d => { b with requestTimeout := some d }
  | .recoveryInterval d => { b with recoveryInterval := some d }

/-- The builder after some settings, in their order. -/
def ofSettings (settings : List Setting) : Builder := settings.foldl set {}

/-- **The configuration of the settings made**, with defaults for the others. -/
def build (b : Builder) : Except ConfigError Config :=
  match b.registryUrl, b.dataPlane with
  | none, _ => .error .missingUrl
  | some _, none => .error .missingDataPlane
  | some url, some id =>
    Config.new {
      registryUrl := url
      authToken := b.authToken
      dataPlane := id
      parallelism := b.parallelism.getD Config.defaultParallelism
      initialBackoff := b.initialBackoff.getD Config.defaultInitialBackoff
      maxBackoff := b.maxBackoff.getD Config.defaultMaxBackoff
      requestTimeout := b.requestTimeout.getD Config.defaultRequestTimeout
      recoveryInterval := b.recoveryInterval }

end Builder

end Relaunch

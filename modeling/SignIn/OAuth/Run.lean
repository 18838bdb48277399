import SignIn.OAuth.Engine

/-!
# Runs of an engine

A run is a list of steps on one world: sign-ins, refreshes, moves of the clock and accesses to the
cache by others. Every sign-in and refresh comes with the answers that the provider is going to
give.
-/

namespace SignIn

namespace OAuth

inductive Step where
  | authenticate (config : AnyConfig) (request : Request) (replies : List Reply)
  | refresh (config : OAuthConfig) (refreshToken : Datum) (replies : List Reply)
  | clock (now : Instant)
  | cacheSet (key value : Datum) (lifetime : Option Lifetime)
  | cacheGet (key : Datum)
  | cacheTake (key : Datum)
  | cacheDelete (key : Text)

inductive StepResult where
  | outcome (outcome : Outcome)
  | token (token : AccessToken)
  | value (value : Datum)
  | done

/-- Replaces what the provider is going to answer. -/
def expectReplies (replies : List Reply) : Action Unit :=
  modify fun w => { w with replies := replies }

def Step.perform (engine : Engine) : Step → Action StepResult
  | .authenticate config request replies => do
    expectReplies replies
    return .outcome (← OAuth.authenticate engine config request)
  | .refresh config refreshToken replies => do
    expectReplies replies
    return .token (← OAuth.refresh config refreshToken)
  | .clock now => do
    Action.setClock now
    return .done
  | .cacheSet key value lifetime => do
    Action.cacheSet key value lifetime
    return .done
  | .cacheGet key => return .value (← Action.cacheGet key)
  | .cacheTake key => return .value (← Action.cacheTake key)
  | .cacheDelete key => do
    Action.cacheDelete key
    return .done

/-- Takes a step in a world with an empty journal, and hands out the journal of the step. -/
def Step.run (engine : Engine) (step : Step) (w : World) :
    Except Failure StepResult × World :=
  (step.perform engine).runIn { w with journal := [] }

/-- The worlds and results of a run, one after each step. -/
def runAll (engine : Engine) : List Step → World → List (Except Failure StepResult × World)
  | [], _ => []
  | step :: rest, w =>
    let after := step.run engine w
    after :: runAll engine rest after.2

/-- The world in which an engine starts: an empty cache and nothing done. -/
def World.start (clock : Instant) (random : RandomStream) : World :=
  ⟨clock, random, ExpiringCache.empty, [], []⟩

end OAuth

end SignIn

import TransitionEngine.Error

/-!
# Configuration and report of a run
-/

namespace TransitionEngine

structure RunConfig where
  /-- How many rules one run fires at most. -/
  maxSteps : Nat
  stopsOnViolation : Bool
  deriving DecidableEq

namespace RunConfig

def standard : RunConfig :=
  ⟨1000, true⟩

def validate (config : RunConfig) : Except EngineError Unit :=
  if config.maxSteps = 0 then .error (.config .noSteps) else .ok ()

end RunConfig

structure RunReport where
  steps : Nat
  transitions : Nat
  /-- Whether the run ended because nothing was left to fire. -/
  idle : Bool
  distinctStates : Nat
  violated : Bool
  deriving DecidableEq

end TransitionEngine

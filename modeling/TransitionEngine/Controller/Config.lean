import TransitionEngine.Error
import TransitionEngine.Text.Blank

/-!
# Configuration of a controller
-/

namespace TransitionEngine

structure ControllerConfig where
  /-- Whether the invariants are checked on the starting state when the controller is built. -/
  checksOnLoad : Bool
  defaultMessage : String
  deriving DecidableEq

namespace ControllerConfig

def standard : ControllerConfig :=
  ⟨true, "state changed"⟩

def validate (config : ControllerConfig) : Except EngineError Unit :=
  if Text.isBlank config.defaultMessage then .error (.config .blankDefaultMessage)
  else .ok ()

end ControllerConfig

end TransitionEngine

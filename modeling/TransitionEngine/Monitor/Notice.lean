import TransitionEngine.History
import TransitionEngine.Monitor.Log

/-!
# Notices

The engine tells its surroundings what happens, in order: events for the sink, calls of the hooks,
updates of the views and diagnostics for the log. None of these has a way back into the engine, but
for the answer of the error hook.
-/

namespace TransitionEngine

inductive Notice where
  | event (payload : EventPayload)
  | errorHookCalled (message : String) (violation : Violation)
  | resetHookCalled
  | viewUpdated (view : String) (history : History)
  | logged (diagnostic : Diagnostic)

namespace Notice

def event? : Notice → Option EventPayload
  | .event payload => some payload
  | _ => none

end Notice

/-- What was built, or why not, with the notices given on the way. -/
structure Built (α : Type) where
  result : Except EngineError α
  notices : List Notice

end TransitionEngine

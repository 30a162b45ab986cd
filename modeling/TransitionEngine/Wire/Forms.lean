import TransitionEngine.Controller.Config
import TransitionEngine.History
import TransitionEngine.Monitor.Sink
import TransitionEngine.Rule
import TransitionEngine.Runner.Config
import TransitionEngine.Wire.Reading

/-!
# Wire forms

The forms in which states, changesets, events, reports and configurations go over the wire. A
changeset and an event payload carry their kind in the field `type`. What has fields is read from an
object that has them by name, and not from the list of them in order.
-/

namespace TransitionEngine

open Wire

namespace SavedState

/-- A state is a plain object; of two entries with one name the later counts. -/
def ofJson? (document : Json) : Option SavedState :=
  document.asObject?.map ofEntries

end SavedState

namespace Changeset

def toJson : Changeset → Json
  | .vars names => .object [("type", .str "vars"), ("names", stringsJson names.names)]
  | .everything => .object [("type", .str "everything")]

def ofJson? (document : Json) : Option Changeset := do
  let fields ← document.asObject?
  let kind ← required alternative? fields "type"
  if kind = "vars" then
    let names ← required (listOf? Json.asString?) fields "names"
    return .vars (.ofList names)
  else if kind = "everything" then
    match Fields.get? fields "names" with
    | Option.none | some .null => some .everything
    | some _ => Option.none
  else Option.none

end Changeset

namespace EventPayload

def toJson : EventPayload → Json
  | .committed index message changes =>
      .object [("type", .str "committed"), ("index", sizeJson index), ("message", .str message),
        ("changes", stringsJson changes)]
  | .reset => .object [("type", .str "reset")]
  | .restored index => .object [("type", .str "restored"), ("index", sizeJson index)]
  | .invariantFailed invariant message =>
      .object [("type", .str "invariant_failed"), ("invariant", .str invariant),
        ("message", .str message)]

def ofJson? (document : Json) : Option EventPayload := do
  let fields ← document.asObject?
  let kind ← required Json.asString? fields "type"
  if kind = "committed" then
    let index ← required Json.asSize? fields "index"
    let message ← required Json.asString? fields "message"
    let changes ← required (listOf? Json.asString?) fields "changes"
    return .committed index message changes
  else if kind = "reset" then return .reset
  else if kind = "restored" then return .restored (← required Json.asSize? fields "index")
  else if kind = "invariant_failed" then
    let invariant ← required Json.asString? fields "invariant"
    let message ← required Json.asString? fields "message"
    return .invariantFailed invariant message
  else none

end EventPayload

namespace Timestamp

def toJson (timestamp : Timestamp) : Json :=
  .str timestamp.write

def ofJson? (document : Json) : Option Timestamp :=
  document.asString?.bind read?

end Timestamp

namespace Event

def toJson (event : Event) : Json :=
  .object [("timestamp", event.timestamp.toJson), ("payload", event.payload.toJson)]

def ofJson? (document : Json) : Option Event := do
  let fields ← document.asObject?
  let timestamp ← required Timestamp.ofJson? fields "timestamp"
  let payload ← required EventPayload.ofJson? fields "payload"
  return ⟨timestamp, payload⟩

end Event

/-- An entry of a history with the moment of its making. -/
structure RecordedSnapshot where
  snapshot : Snapshot
  recordedAt : Timestamp

namespace RecordedSnapshot

def toJson (recorded : RecordedSnapshot) : Json :=
  .object [("index", sizeJson recorded.snapshot.index),
    ("message", .str recorded.snapshot.message),
    ("state", recorded.snapshot.state.toJson),
    ("recorded_at", recorded.recordedAt.toJson)]

def ofJson? (document : Json) : Option RecordedSnapshot := do
  let fields ← document.asObject?
  let index ← required Json.asSize? fields "index"
  let message ← required Json.asString? fields "message"
  let state ← required SavedState.ofJson? fields "state"
  let recordedAt ← required Timestamp.ofJson? fields "recorded_at"
  return ⟨⟨index, message, state⟩, recordedAt⟩

end RecordedSnapshot

namespace RuleId

def toJson (id : RuleId) : Json :=
  .object [("ruleset", sizeJson id.ruleset), ("rule", sizeJson id.rule)]

def ofJson? (document : Json) : Option RuleId := do
  let fields ← document.asObject?
  let ruleset ← required Json.asSize? fields "ruleset"
  let rule ← required Json.asSize? fields "rule"
  return ⟨ruleset, rule⟩

end RuleId

namespace RunReport

def toJson (report : RunReport) : Json :=
  .object [("steps", sizeJson report.steps), ("transitions", sizeJson report.transitions),
    ("idle", .bool report.idle), ("distinct_states", sizeJson report.distinctStates),
    ("violated", .bool report.violated)]

def ofJson? (document : Json) : Option RunReport := do
  let fields ← document.asObject?
  let steps ← required Json.asSize? fields "steps"
  let transitions ← required Json.asSize? fields "transitions"
  let idle ← required Json.asBool? fields "idle"
  let distinctStates ← required Json.asSize? fields "distinct_states"
  let violated ← required Json.asBool? fields "violated"
  return ⟨steps, transitions, idle, distinctStates, violated⟩

end RunReport

namespace ControllerConfig

def toJson (config : ControllerConfig) : Json :=
  .object [("check_invariants_on_load", .bool config.checksOnLoad),
    ("default_message", .str config.defaultMessage)]

def ofJson? (document : Json) : Option ControllerConfig := do
  let fields ← document.asObject?
  let checksOnLoad ←
    defaulted Json.asBool? standard.checksOnLoad fields "check_invariants_on_load"
  let defaultMessage ← defaulted Json.asString? standard.defaultMessage fields "default_message"
  return ⟨checksOnLoad, defaultMessage⟩

end ControllerConfig

namespace RunConfig

def toJson (config : RunConfig) : Json :=
  .object [("max_steps", sizeJson config.maxSteps),
    ("stop_on_violation", .bool config.stopsOnViolation)]

def ofJson? (document : Json) : Option RunConfig := do
  let fields ← document.asObject?
  let maxSteps ← defaulted Json.asSize? standard.maxSteps fields "max_steps"
  let stopsOnViolation ←
    defaulted Json.asBool? standard.stopsOnViolation fields "stop_on_violation"
  return ⟨maxSteps, stopsOnViolation⟩

end RunConfig

namespace ChannelConfig

def toJson (config : ChannelConfig) : Json :=
  .object [("capacity", sizeJson config.capacity)]

def ofJson? (document : Json) : Option ChannelConfig := do
  let fields ← document.asObject?
  return ⟨← required Json.asSize? fields "capacity"⟩

end ChannelConfig

end TransitionEngine

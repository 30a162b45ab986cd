import TransitionEngine.Inspection.Engine
import TransitionEngine.Json.Reader
import TransitionEngine.ModelType.Relations
import TransitionEngine.Proofs.Typing.Conformance
import TransitionEngine.Proofs.Value.Equality
import TransitionEngine.Runner.Basic
import TransitionEngine.Wire.Forms
import TransitionEngine.Proofs.Typing.RoundTrip
import TransitionEngine.Proofs.Bank.Declarations
import TransitionEngine.Proofs.Json.Integral
import TransitionEngine.Proofs.Bank.Saving
import TransitionEngine.Proofs.Changeset
import TransitionEngine.Proofs.Program.Running
import TransitionEngine.Proofs.Bank.Agreement
import TransitionEngine.Proofs.Program.Tracking
import TransitionEngine.Proofs.Controller.Calls
import TransitionEngine.Proofs.Controller.Consistency
import TransitionEngine.Proofs.Controller.Rules
import TransitionEngine.Proofs.Controller.Dormancy
import TransitionEngine.Proofs.Program.Querying
import TransitionEngine.Proofs.Starting
import TransitionEngine.Proofs.Rule.Checking
import TransitionEngine.Proofs.Rule.Freshness
import TransitionEngine.Proofs.Controller.Steps
import TransitionEngine.Proofs.Controller.Replies
import TransitionEngine.Proofs.Controller.Freshness
import TransitionEngine.Proofs.Controller.Restoration
import TransitionEngine.Proofs.Controller.Determinism
import TransitionEngine.Proofs.Controller.Undo
import TransitionEngine.Proofs.Controller.Invariants
import TransitionEngine.Proofs.Runner.Quiescence
import TransitionEngine.Proofs.Value.Operating
import TransitionEngine.Proofs.Value.Refinement
import TransitionEngine.Proofs.Controller.Refusal
import TransitionEngine.Proofs.Controller.Accounts
import TransitionEngine.Proofs.Controller.Replaying
import TransitionEngine.Proofs.Controller.Viewing
import TransitionEngine.Proofs.Controller.Growth
import TransitionEngine.Proofs.Controller.Probing
import TransitionEngine.Proofs.Controller.Prediction
import TransitionEngine.Proofs.Controller.Attribution
import TransitionEngine.Proofs.Controller.Propagation
import TransitionEngine.Proofs.Controller.Constants
import TransitionEngine.Proofs.Controller.Restarting
import TransitionEngine.Proofs.Controller.Waking
import TransitionEngine.Proofs.Selector.Picking
import TransitionEngine.Proofs.Runner.Stepping
import TransitionEngine.Proofs.Runner.Counting
import TransitionEngine.Proofs.Runner.Blaming
import TransitionEngine.Proofs.Runner.Rounds
import TransitionEngine.Proofs.Controller.Naming
import TransitionEngine.Proofs.Controller.Checking
import TransitionEngine.Proofs.Bank.Restoring
import TransitionEngine.Proofs.Bank.Comparing
import TransitionEngine.Proofs.Typing.Admission
import TransitionEngine.Proofs.Typing.Construction
import TransitionEngine.Proofs.Typing.Language
import TransitionEngine.Proofs.Controller.Defaults
import TransitionEngine.Proofs.Json.Zeros
import TransitionEngine.Proofs.Fingerprint
import TransitionEngine.Proofs.Typing.Relations
import TransitionEngine.Proofs.Monitor.Delivery
import TransitionEngine.Proofs.Wire.RoundTrip
import TransitionEngine.Proofs.Json.Quoting
import TransitionEngine.Proofs.Json.Canonical
import TransitionEngine.Proofs.Runner.Distinguishing
import TransitionEngine.Proofs.Json.Equality
import TransitionEngine.Proofs.Composition
import TransitionEngine.Proofs.Value.Indexing

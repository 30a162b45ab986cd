import TransitionEngine.Bank
import TransitionEngine.NameSet

/-!
# Queries and effects

What a model does with its variables is written as a tree of steps. A query only looks: it reads a
variable, which puts the name into its readset, or inspects the bank, which does not. An effect may
also write. A step that fails hands its error on to what follows, which may go on; writes made before
a failure stay in the bank.
-/

namespace TransitionEngine

inductive Query (α : Type) where
  | done (outcome : Except EngineError α)
  | read (name : String) (next : Except EngineError Value → Query α)
  | inspect (next : Bank → Query α)

/-- A change in place is always recorded as a read, and no step records a name without reading it. Code
that changes a variable in place and leaves no record, or that records a name alone, cannot be written
as such a tree. -/
inductive Effect (α : Type) where
  | done (outcome : Except EngineError α)
  | read (name : String) (next : Except EngineError Value → Effect α)
  | inspect (next : Bank → Effect α)
  /-- Changes a variable in place, without a check of its type, and hands on the value it had. -/
  | update (name : String) (change : Value → Value) (next : Except EngineError Value → Effect α)
  | assign (name : String) (value : Value) (next : Except EngineError Unit → Effect α)
  | restore (state : SavedState) (next : Except EngineError Unit → Effect α)
  | reset (next : Effect α)

structure Answer (α : Type) where
  outcome : Except EngineError α
  readset : NameSet

/-- What an effect came to: its outcome, the bank it left and the names that it read so far. -/
structure Run (α : Type) where
  outcome : Except EngineError α
  bank : Bank
  readset : NameSet

namespace Bank

/-- The value of a variable; the name is recorded as read when there is such a variable. -/
def read (bank : Bank) (name : String) (readset : NameSet) : Except EngineError Value × NameSet :=
  match bank.lookup name with
  | .error error => (.error error, readset)
  | .ok entry => (.ok entry.value, readset.insert name)

/-- Changes a variable in place. The name is recorded as read when the variable may be written. -/
def update (bank : Bank) (name : String) (change : Value → Value) (readset : NameSet) :
    Except EngineError Value × Bank × NameSet :=
  match bank.lookupWritable name with
  | .error error => (.error error, bank, readset)
  | .ok entry =>
      (.ok entry.value, bank.setValue name (change entry.value), readset.insert name)

end Bank

namespace Query

variable {α β : Type}

def run : Query α → Bank → NameSet → Answer α
  | .done outcome, _, readset => ⟨outcome, readset⟩
  | .read name next, bank, readset =>
      let (value, readset) := bank.read name readset
      (next value).run bank readset
  | .inspect next, bank, readset => (next bank).run bank readset

def bind : Query α → (α → Query β) → Query β
  | .done (.ok result), next => next result
  | .done (.error error), _ => .done (.error error)
  | .read name following, next => .read name fun value => (following value).bind next
  | .inspect following, next => .inspect fun bank => (following bank).bind next

instance : Monad Query where
  pure result := .done (.ok result)
  bind := bind

def fail (error : EngineError) : Query α :=
  .done (.error error)

def ofExcept (outcome : Except ValueError α) : Query α :=
  .done (outcome.mapError EngineError.value)

def readVariable (name : String) : Query Value :=
  .read name .done

/-- The value of a variable, without a record of it. -/
def peekVariable (name : String) : Query Value :=
  .inspect fun bank => .done (bank.peek name)

end Query

namespace Effect

variable {α β : Type}

def run : Effect α → Bank → NameSet → Run α
  | .done outcome, bank, readset => ⟨outcome, bank, readset⟩
  | .read name next, bank, readset =>
      let (value, readset) := bank.read name readset
      (next value).run bank readset
  | .inspect next, bank, readset => (next bank).run bank readset
  | .update name change next, bank, readset =>
      let (value, bank, readset) := bank.update name change readset
      (next value).run bank readset
  | .assign name value next, bank, readset =>
      match bank.assign name value with
      | .error error => (next (.error error)).run bank readset
      | .ok bank => (next (.ok ())).run bank readset
  | .restore state next, bank, readset =>
      match bank.restore state with
      | .error error => (next (.error (.value error))).run bank readset
      | .ok bank => (next (.ok ())).run bank readset
  | .reset next, bank, readset => next.run bank.reset readset

def bind : Effect α → (α → Effect β) → Effect β
  | .done (.ok result), next => next result
  | .done (.error error), _ => .done (.error error)
  | .read name following, next => .read name fun value => (following value).bind next
  | .inspect following, next => .inspect fun bank => (following bank).bind next
  | .update name change following, next =>
      .update name change fun value => (following value).bind next
  | .assign name value following, next =>
      .assign name value fun outcome => (following outcome).bind next
  | .restore state following, next => .restore state fun outcome => (following outcome).bind next
  | .reset following, next => .reset (following.bind next)

instance : Monad Effect where
  pure result := .done (.ok result)
  bind := bind

def fail (error : EngineError) : Effect α :=
  .done (.error error)

def ofExcept (outcome : Except ValueError α) : Effect α :=
  .done (outcome.mapError EngineError.value)

def ofQuery : Query α → Effect α
  | .done outcome => .done outcome
  | .read name next => .read name fun value => ofQuery (next value)
  | .inspect next => .inspect fun bank => ofQuery (next bank)

/-- Overwrites a variable by a value that its type admits. -/
def assignVariable (name : String) (value : Value) : Effect Unit :=
  .assign name value .done

/-- Overwrites a variable in place, whatever its type. -/
def overwrite (name : String) (value : Value) : Effect Unit :=
  .update name (fun _ => value) fun outcome => .done (outcome.map fun _ => ())

/-- Changes a variable in place by an operation that may fail and then changes nothing. -/
def modify (name : String) (operation : Value → Except EngineError Value) : Effect Unit :=
  .update name (fun value => ((operation value).toOption).getD value) fun outcome =>
    .done (outcome.bind fun value => (operation value).map fun _ => ())

end Effect

end TransitionEngine

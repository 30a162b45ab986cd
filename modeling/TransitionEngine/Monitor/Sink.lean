import TransitionEngine.Monitor.Notice

/-!
# Sinks

A sink takes the events. The channel is a queue of limited length between the engine and a receiver:
what finds it full, or the receiver gone, is dropped and counted.
-/

namespace TransitionEngine

structure ChannelConfig where
  capacity : Nat
  deriving DecidableEq

def ChannelConfig.validate (config : ChannelConfig) : Except EngineError Unit :=
  if config.capacity = 0 then .error (.config .noCapacity) else .ok ()

structure Channel (α : Type) where
  capacity : Nat
  queue : List α
  isOpen : Bool
  /-- How many events were turned away. The count has no bound here; one that is kept in 64 bits is the
  same for fewer than 2 ^ 64 of them. -/
  dropped : Nat

namespace Channel

variable {α : Type}

def new (config : ChannelConfig) : Except EngineError (Channel α) := do
  config.validate
  return ⟨config.capacity, [], true, 0⟩

def record (channel : Channel α) (event : α) : Channel α :=
  if channel.isOpen && channel.queue.length < channel.capacity then
    { channel with queue := channel.queue ++ [event] }
  else { channel with dropped := channel.dropped + 1 }

def next (channel : Channel α) : Option α × Channel α :=
  match channel.queue with
  | [] => (none, channel)
  | event :: rest => (some event, { channel with queue := rest })

def drain (channel : Channel α) : List α × Channel α :=
  (channel.queue, { channel with queue := [] })

/-- The receiver goes, and what it has not taken with it. -/
def close (channel : Channel α) : Channel α :=
  { channel with queue := [], isOpen := false }

end Channel

inductive Sink where
  | silent
  | log
  | channel (channel : Channel EventPayload)

namespace Sink

/-- Takes an event, with what is written to the log for it. -/
def record (sink : Sink) (payload : EventPayload) : Sink × List LogRecord :=
  match sink with
  | .silent => (.silent, [])
  | .log => (.log, [payload.record])
  | .channel queue => (.channel (queue.record payload), [])

end Sink

end TransitionEngine

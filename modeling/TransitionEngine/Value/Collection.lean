import TransitionEngine.Value.Basic

/-!
# Arrays and ordered sets

An operation that fails leaves its collection alone. An ordered set keeps its members pairwise
different: pushing a member again does nothing, even when the set is full.
-/

namespace TransitionEngine

namespace ArrayOf

def get (array : ArrayValue) (index : Int64) : Except ValueError Value :=
  match (Value.position? array.low index array.items.length).bind (array.items[·]?) with
  | some item => .ok item
  | none => .error (.bounds (.noSuchIndex index.toInt (Value.array array).display))

def set (array : ArrayValue) (index : Int64) (value : Value) : Except ValueError ArrayValue :=
  match Value.position? array.low index array.items.length with
  | some position => .ok { array with items := array.items.set position value }
  | none => .error (.bounds (.noSuchIndex index.toInt (Value.array array).display))

/-- The item addressed by a value, which has to be a number. -/
def index (array : ArrayValue) (argument : Value) : Except ValueError Value := do
  array.get (← argument.toIndex)

end ArrayOf

namespace OrderedSetOf

def display (set : OrderedSet) : String :=
  (Value.orderedSet set).display

def contains (set : OrderedSet) (value : Value) : Bool :=
  set.values.any (· == value)

def indexed (set : OrderedSet) : List (Int64 × Value) :=
  set.values.mapIdx fun position value => (Value.indexAt set.low position, value)

def get (set : OrderedSet) (index : Int64) : Except ValueError Value :=
  match (Value.position? set.low index set.used).bind (set.values[·]?) with
  | some value => .ok value
  | none => .error (.bounds (.noSuchIndex index.toInt set.display))

/-- The member addressed by a value, which has to be a number. -/
def index (set : OrderedSet) (argument : Value) : Except ValueError Value := do
  set.get (← argument.toIndex)

def push (set : OrderedSet) (value : Value) : Except ValueError OrderedSet :=
  if set.contains value then .ok set
  else
    match set.spare with
    | [] => .error (.bounds (.setFull set.display))
    | _ :: rest => .ok { set with values := set.values ++ [value], spare := rest }

/-- Takes out the first of the members equal to the value, and says whether there was one. The slot
that becomes free is filled with `filler`. -/
def removeWith (filler : Value) (set : OrderedSet) (value : Value) : Bool × OrderedSet :=
  if set.contains value then
    (true, { set with values := set.values.eraseP (· == value), spare := set.spare ++ [filler] })
  else (false, set)

/-- Takes out the last member. The slot that becomes free is filled with `filler`. -/
def popWith (filler : Value) (set : OrderedSet) : Except ValueError (Value × OrderedSet) :=
  match set.values.getLast? with
  | none => .error (.bounds (.setEmpty set.display))
  | some last =>
      .ok (last, { set with values := set.values.dropLast, spare := filler :: set.spare })

end OrderedSetOf

end TransitionEngine

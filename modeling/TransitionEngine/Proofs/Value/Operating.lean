import TransitionEngine.Proofs.Value.Pushing
import TransitionEngine.Typing.Default

/-!
# Operations on ordered sets

All that is ever seen of an ordered set is how it replies to operations. Equal sets cannot be told
apart in this way: to equal operations they give equal replies, in the same words, and they stay
equal, though their element types and their spare slots may differ.
-/

namespace TransitionEngine

inductive SetOperation where
  | push (value : Value)
  | pop
  | remove (value : Value)
  | contains (value : Value)
  | get (index : Int64)
  | index (argument : Value)
  | iter
  | equals (other : OrderedSet)

/-- What an operation that succeeds has to say. -/
inductive SetAnswer where
  | done
  | member (value : Value)
  | truth (holds : Bool)
  | members (indexed : List (Int × Value))

abbrev SetReply := Except ValueError SetAnswer

/-- The methods of anything that works like an ordered set. -/
structure SetMethods (State : Type) where
  push : State → Value → Except ValueError State
  pop : State → Except ValueError (Value × State)
  remove : State → Value → Bool × State
  contains : State → Value → Bool
  get : State → Int64 → Except ValueError Value
  index : State → Value → Except ValueError Value
  indexed : State → List (Int × Value)
  equals : State → OrderedSet → Bool

namespace SetMethods

variable {State State' : Type}

/-- The reply to an operation and the state after it, which is the old one when it fails. -/
def perform (methods : SetMethods State) (state : State) : SetOperation → SetReply × State
  | .push value =>
      match methods.push state value with
      | .error error => (.error error, state)
      | .ok pushed => (.ok .done, pushed)
  | .pop =>
      match methods.pop state with
      | .error error => (.error error, state)
      | .ok (last, rest) => (.ok (.member last), rest)
  | .remove value =>
      let (removed, rest) := methods.remove state value
      (.ok (.truth removed), rest)
  | .contains value => (.ok (.truth (methods.contains state value)), state)
  | .get index => ((methods.get state index).map .member, state)
  | .index argument => ((methods.index state argument).map .member, state)
  | .iter => (.ok (.members (methods.indexed state)), state)
  | .equals other => (.ok (.truth (methods.equals state other)), state)

/-- The replies to operations, one after the other, and the state after the last of them. -/
def performAll (methods : SetMethods State) : State → List SetOperation → List SetReply × State
  | state, [] => ([], state)
  | state, operation :: rest =>
      let (reply, next) := methods.perform state operation
      let (replies, final) := performAll methods next rest
      (reply :: replies, final)

/-- States that are related stay so under like operations, and their replies agree throughout, when
this is so for every single operation. -/
theorem performAll_simulates {methods : SetMethods State} {methods' : SetMethods State'}
    {R : State → State' → Prop} {like : SetOperation → SetOperation → Prop}
    {agree : SetReply → SetReply → Prop}
    (hstep : ∀ {state other operation operation'}, R state other → like operation operation' →
      agree (methods.perform state operation).1 (methods'.perform other operation').1 ∧
        R (methods.perform state operation).2 (methods'.perform other operation').2)
    {operations operations' : List SetOperation} (hlike : List.Forall₂ like operations operations')
    {state : State} {other : State'} (hrelated : R state other) :
    List.Forall₂ agree (methods.performAll state operations).1
        (methods'.performAll other operations').1 ∧
      R (methods.performAll state operations).2 (methods'.performAll other operations').2 := by
  induction hlike generalizing state other with
  | nil => exact ⟨.nil, hrelated⟩
  | cons hfirst _ ih =>
      obtain ⟨hreply, hnext⟩ := hstep hrelated hfirst
      obtain ⟨hreplies, hfinal⟩ := ih hnext
      exact ⟨.cons hreply hreplies, hfinal⟩

end SetMethods

/-! ### Equal operations and equal replies -/

inductive SetOperation.Same : SetOperation → SetOperation → Prop
  | push {value value' : Value} (hequal : (value == value') = true) :
      Same (.push value) (.push value')
  | pop : Same .pop .pop
  | remove {value value' : Value} (hequal : (value == value') = true) :
      Same (.remove value) (.remove value')
  | contains {value value' : Value} (hequal : (value == value') = true) :
      Same (.contains value) (.contains value')
  | get (index : Int64) : Same (.get index) (.get index)
  | index {argument argument' : Value} (hequal : (argument == argument') = true) :
      Same (.index argument) (.index argument')
  | iter : Same .iter .iter
  | equals {other other' : OrderedSet}
      (hequal : (Value.orderedSet other == .orderedSet other') = true) :
      Same (.equals other) (.equals other')

inductive SetAnswer.Same : SetAnswer → SetAnswer → Prop
  | done : Same .done .done
  | member {value value' : Value} (hequal : (value == value') = true) :
      Same (.member value) (.member value')
  | truth (holds : Bool) : Same (.truth holds) (.truth holds)
  | members {indexed indexed' : List (Int × Value)}
      (hequal : List.Forall₂ (fun left right => left.1 = right.1 ∧ (left.2 == right.2) = true)
        indexed indexed') :
      Same (.members indexed) (.members indexed')

/-- The same error, or equal answers. -/
inductive SetReply.Same : SetReply → SetReply → Prop
  | error (error : ValueError) : Same (.error error) (.error error)
  | ok {answer answer' : SetAnswer} (hsame : answer.Same answer') : Same (.ok answer) (.ok answer')

namespace OrderedSetOf

def methods : SetMethods OrderedSet where
  push := push
  pop := pop
  remove := remove
  contains := contains
  get := get
  index := index
  indexed set := set.indexed.map fun (index, value) => (index.toInt, value)
  equals set other := Value.orderedSet set == .orderedSet other

theorem beq_iff {left right : OrderedSet} :
    (Value.orderedSet left == .orderedSet right) = true ↔
      left.low = right.low ∧ left.capacity = right.capacity ∧
        List.Forall₂ (fun member other => (member == other) = true) left.values right.values := by
  simp [Value.beq_def, Value.same, Value.sameItems_iff, capacity, and_assoc]

section Congruence

variable {lefts rights : List Value} {value value' : Value}
  (hmembers : List.Forall₂ (fun member other => (member == other) = true) lefts rights)

include hmembers

theorem forall₂_getLast? :
    Option.Rel (fun member other => (member == other) = true) lefts.getLast? rights.getLast? := by
  induction hmembers with
  | nil => exact .none
  | @cons member other rest others hhead hrest ih =>
      cases hrest with
      | nil => exact .some hhead
      | cons hsecond hothers => simpa only [List.getLast?_cons_cons] using ih

theorem forall₂_getElem? (position : Nat) :
    Option.Rel (fun member other => (member == other) = true) lefts[position]?
      rights[position]? := by
  induction hmembers generalizing position with
  | nil => exact .none
  | cons hhead _ ih =>
      cases position with
      | zero => exact .some hhead
      | succ position => simpa only [List.getElem?_cons_succ] using ih position

variable (hequal : (value == value') = true)

include hequal

theorem any_congr : lefts.any (· == value) = rights.any (· == value') := by
  induction hmembers with
  | nil => rfl
  | cons hhead _ ih =>
      rw [List.any_cons, List.any_cons, ih, BEq.congr_left hhead, BEq.congr_right hequal]

theorem forall₂_eraseP :
    List.Forall₂ (fun member other => (member == other) = true)
      (lefts.eraseP (· == value)) (rights.eraseP (· == value')) := by
  induction hmembers with
  | nil => exact .nil
  | @cons member other _ _ hhead hrest ih =>
      have hfound : (member == value) = (other == value') := by
        rw [BEq.congr_left hhead, BEq.congr_right hequal]
      rw [List.eraseP_cons, List.eraseP_cons, hfound]
      cases other == value' with
      | true => exact hrest
      | false => exact .cons hhead ih

end Congruence

section Equal

variable {left right : OrderedSet} (hsets : (Value.orderedSet left == .orderedSet right) = true)

include hsets

theorem display_congr : left.display = right.display :=
  Value.display_eq_of_beq hsets

theorem get_congr (index : Int64) :
    SetReply.Same ((left.get index).map .member) ((right.get index).map .member) := by
  obtain ⟨hlow, -, hmembers⟩ := beq_iff.1 hsets
  have hused : left.used = right.used := hmembers.length_eq
  have hfound : Option.Rel (fun member other => (member == other) = true)
      ((Value.position? left.low index left.used).bind (left.values[·]?))
      ((Value.position? right.low index right.used).bind (right.values[·]?)) := by
    rw [hlow, hused]
    cases Value.position? right.low index right.used with
    | none => exact .none
    | some position => exact forall₂_getElem? hmembers position
  rw [get, get, display_congr hsets]
  generalize (Value.position? left.low index left.used).bind _ = found,
    (Value.position? right.low index right.used).bind _ = found' at hfound
  cases hfound with
  | none => exact .error _
  | some hequal => exact .ok (.member hequal)

theorem index_congr {argument argument' : Value} (hequal : (argument == argument') = true) :
    SetReply.Same ((left.index argument).map .member) ((right.index argument').map .member) := by
  have hshown : argument.display = argument'.display := Value.display_eq_of_beq hequal
  rw [index, index]
  cases argument <;> cases argument' <;>
    simp only [Value.beq_def, Value.same, Bool.false_eq_true, beq_iff_eq] at hequal
  case number.number =>
    rw [hequal]
    exact get_congr hsets _
  all_goals
    simp only [Value.toIndex, hshown]
    exact .error _

theorem contains_congr {value value' : Value} (hequal : (value == value') = true) :
    left.contains value = right.contains value' :=
  any_congr (beq_iff.1 hsets).2.2 hequal

theorem push_congr {value value' : Value} (hequal : (value == value') = true) :
    SetReply.Same (methods.perform left (.push value)).1 (methods.perform right (.push value')).1 ∧
      (Value.orderedSet (methods.perform left (.push value)).2 ==
        .orderedSet (methods.perform right (.push value')).2) = true := by
  obtain ⟨hlow, hcapacity, hmembers⟩ := beq_iff.1 hsets
  have hcontains := contains_congr hsets hequal
  simp only [SetMethods.perform, methods]
  cases hmem : right.contains value' with
  | true =>
      rw [push_of_contains hmem, push_of_contains (hcontains.trans hmem)]
      exact ⟨.ok .done, hsets⟩
  | false =>
      have hlength := hmembers.length_eq
      rw [capacity, capacity] at hcapacity
      cases hspare : left.spare <;> cases hspare' : right.spare <;>
        simp only [hspare, hspare', List.length_nil, List.length_cons] at hcapacity
      · rw [push_of_full (hcontains.trans hmem) hspare, push_of_full hmem hspare',
          display_congr hsets]
        exact ⟨.error _, hsets⟩
      · omega
      · omega
      · rw [push_of_new (hcontains.trans hmem) hspare, push_of_new hmem hspare']
        refine ⟨.ok .done, beq_iff.2 ⟨hlow, ?_, List.rel_append hmembers (.cons hequal .nil)⟩⟩
        simp only [capacity, List.length_append, List.length_singleton]
        omega

theorem pop_congr :
    SetReply.Same (methods.perform left .pop).1 (methods.perform right .pop).1 ∧
      (Value.orderedSet (methods.perform left .pop).2 ==
        .orderedSet (methods.perform right .pop).2) = true := by
  obtain ⟨hlow, hcapacity, hmembers⟩ := beq_iff.1 hsets
  have hlast := forall₂_getLast? hmembers
  have hlength := hmembers.length_eq
  have hshorter : List.Forall₂ (fun member other => (member == other) = true)
      left.values.dropLast right.values.dropLast := by
    rw [List.dropLast_eq_take, List.dropLast_eq_take, hlength]
    exact List.forall₂_take _ hmembers
  simp only [SetMethods.perform, methods, pop, popWith]
  rw [display_congr hsets]
  cases hleft : left.values.getLast? <;> cases hright : right.values.getLast? <;>
    rw [hleft, hright] at hlast
  · exact ⟨.error _, hsets⟩
  · cases hlast
  · cases hlast
  · cases hlast with
    | some hequal =>
        refine ⟨.ok (.member hequal), beq_iff.2 ⟨hlow, ?_, hshorter⟩⟩
        rw [capacity, capacity] at hcapacity
        simp only [capacity, List.length_dropLast, List.length_cons]
        omega

theorem remove_congr {value value' : Value} (hequal : (value == value') = true) :
    SetReply.Same (methods.perform left (.remove value)).1
        (methods.perform right (.remove value')).1 ∧
      (Value.orderedSet (methods.perform left (.remove value)).2 ==
        .orderedSet (methods.perform right (.remove value')).2) = true := by
  obtain ⟨hlow, hcapacity, hmembers⟩ := beq_iff.1 hsets
  have hcontains := contains_congr hsets hequal
  have herased := forall₂_eraseP hmembers hequal
  simp only [SetMethods.perform, methods, remove, removeWith]
  rw [hcontains]
  split
  · refine ⟨.ok (.truth true), beq_iff.2 ⟨hlow, ?_, herased⟩⟩
    have hlength := hmembers.length_eq
    have hshorter := herased.length_eq
    rw [capacity, capacity] at hcapacity
    simp only [capacity, List.length_append, List.length_singleton]
    omega
  · exact ⟨.ok (.truth false), hsets⟩

theorem indexed_congr :
    List.Forall₂ (fun entry other => entry.1 = other.1 ∧ (entry.2 == other.2) = true)
      (methods.indexed left) (methods.indexed right) := by
  obtain ⟨hlow, -, hmembers⟩ := beq_iff.1 hsets
  have hnumbered {lefts rights : List Value} (indexOf : Nat → Int64)
      (hmembers : List.Forall₂ (fun member other => (member == other) = true) lefts rights) :
      List.Forall₂ (fun entry other => entry.1.toInt = other.1.toInt ∧ (entry.2 == other.2) = true)
        (lefts.mapIdx fun position value => (indexOf position, value))
        (rights.mapIdx fun position value => (indexOf position, value)) := by
    induction hmembers generalizing indexOf with
    | nil => exact .nil
    | cons hhead _ ih =>
        rw [List.mapIdx_cons, List.mapIdx_cons]
        exact .cons ⟨rfl, hhead⟩ (ih fun position => indexOf (position + 1))
  simp only [methods, indexed, hlow]
  rw [List.forall₂_map_left_iff, List.forall₂_map_right_iff]
  exact hnumbered _ hmembers

/-- Equal sets reply alike to like operations, and are equal afterwards. -/
theorem perform_congr {operation operation' : SetOperation} (hsame : operation.Same operation') :
    SetReply.Same (methods.perform left operation).1 (methods.perform right operation').1 ∧
      (Value.orderedSet (methods.perform left operation).2 ==
        .orderedSet (methods.perform right operation').2) = true := by
  cases hsame with
  | push hequal => exact push_congr hsets hequal
  | pop => exact pop_congr hsets
  | remove hequal => exact remove_congr hsets hequal
  | @contains value value' hequal =>
      have hcontains : methods.contains left value = methods.contains right value' :=
        contains_congr hsets hequal
      simp only [SetMethods.perform, hcontains]
      exact ⟨.ok (.truth _), hsets⟩
  | get index => exact ⟨get_congr hsets index, hsets⟩
  | index hequal => exact ⟨index_congr hsets hequal, hsets⟩
  | iter => exact ⟨.ok (.members (indexed_congr hsets)), hsets⟩
  | @equals other other' hequal =>
      have hequals : methods.equals left other = methods.equals right other' := by
        simp only [methods]
        rw [BEq.congr_left hsets, BEq.congr_right hequal]
      simp only [SetMethods.perform, hequals]
      exact ⟨.ok (.truth _), hsets⟩

end Equal

end OrderedSetOf

end TransitionEngine

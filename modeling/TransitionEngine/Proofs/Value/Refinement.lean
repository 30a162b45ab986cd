import TransitionEngine.Proofs.Value.Operating

/-!
# Ordered sets are bounded lists

An ordered set that started empty is a list of pairwise different values of bounded length: whatever
operations are made on it, it gives the replies of the list, and each slot behind its members holds
the default of the element type. The indices of the list are integers. Those of the set are not, but
no bound of a set is passed, so nothing of this is seen.
-/

namespace TransitionEngine

/-- Pairwise different values, no more than the indices from `low` to `high`. -/
structure BoundedList (low high : Int64) where
  values : List Value
  different : Value.PairwiseDifferent values
  bounded : values.length ≤ capacity low high

namespace BoundedList

variable {low high : Int64}

def empty (low high : Int64) : BoundedList low high :=
  ⟨[], .nil, Nat.zero_le _⟩

def indexed (list : BoundedList low high) : List (Int × Value) :=
  list.values.mapIdx fun position value => (low.toInt + position, value)

def display (list : BoundedList low high) : String :=
  Value.braced <| list.indexed.map fun (index, value) => toString index ++ ": " ++ value.display

def contains (list : BoundedList low high) (value : Value) : Bool :=
  list.values.any (· == value)

def get (list : BoundedList low high) (index : Int) : Except ValueError Value :=
  match if low.toInt ≤ index then list.values[(index - low.toInt).toNat]? else none with
  | some value => .ok value
  | none => .error (.bounds (.noSuchIndex index list.display))

def push (list : BoundedList low high) (value : Value) :
    Except ValueError (BoundedList low high) :=
  if hmem : list.contains value then .ok list
  else if hroom : list.values.length < capacity low high then
    .ok {
      values := list.values ++ [value]
      different := OrderedSetOf.pairwiseDifferent_append_singleton list.different
        (by simpa [contains] using hmem)
      bounded := by
        rw [List.length_append]
        exact hroom }
  else .error (.bounds (.setFull list.display))

def pop (list : BoundedList low high) : Except ValueError (Value × BoundedList low high) :=
  match list.values.getLast? with
  | none => .error (.bounds (.setEmpty list.display))
  | some last =>
      .ok (last, {
        values := list.values.dropLast
        different := list.different.sublist (List.dropLast_sublist _)
        bounded := Nat.le_trans (List.dropLast_sublist _).length_le list.bounded })

/-- Takes out the value, and says whether it was there. -/
def remove (list : BoundedList low high) (value : Value) : Bool × BoundedList low high :=
  (list.contains value, {
    values := list.values.filter fun member => !(member == value)
    different := list.different.filter _
    bounded := Nat.le_trans (List.length_filter_le ..) list.bounded })

def methods : SetMethods (BoundedList low high) where
  push := push
  pop := pop
  remove := remove
  contains := contains
  get list index := list.get index.toInt
  index list argument := do list.get (← argument.toIndex).toInt
  indexed := indexed
  equals list other :=
    low == other.low && capacity low high == other.capacity && list.values == other.values

end BoundedList

/-! ### Indices -/

theorem capacity_le_maxValue (low high : Int64) : (capacity low high : Int) ≤ Int64.maxValue.toInt := by
  have hmax := Int64.toInt_maxValue
  rw [capacity_eq]
  split <;> omega

/-- No bound is behind the last index there is. -/
theorem low_add_capacity_le (low high : Int64) :
    low.toInt + (capacity low high : Int) ≤ Int64.maxValue.toInt + 1 := by
  have hmax := Int64.toInt_maxValue
  have hlow := low.toInt_lt
  have hhigh := high.toInt_lt
  rw [capacity_eq]
  split <;> omega

namespace Value

theorem toInt_indexAt {low : Int64} {position : Nat}
    (hposition : (position : Int) ≤ Int64.maxValue.toInt)
    (hindex : low.toInt + position ≤ Int64.maxValue.toInt) :
    (indexAt low position).toInt = low.toInt + position := by
  have hlow := low.le_toInt
  have hmax := Int64.toInt_maxValue
  have hexact : min (low.toInt + min (position : Int) Int64.maxValue.toInt) Int64.maxValue.toInt =
      low.toInt + position := by omega
  rw [indexAt, hexact]
  exact Int64.toInt_ofInt_of_le (by omega) (by omega)

theorem getElem?_displayMembers (low : Int64) (start : Nat) (members : List Value)
    (position : Nat) :
    (displayMembers low start members)[position]? = members[position]?.map fun member =>
      toString (indexAt low (start + position)).toInt ++ ": " ++ member.display := by
  induction members generalizing start position with
  | nil => rfl
  | cons member rest ih =>
      cases position with
      | zero => rfl
      | succ position =>
          rw [displayMembers, List.getElem?_cons_succ, List.getElem?_cons_succ, ih]
          simp only [Nat.add_assoc, Nat.add_comm 1]

theorem bind_position? {low index : Int64} {values : List Value}
    (hlength : (values.length : Int) ≤ Int64.maxValue.toInt) :
    (position? low index values.length).bind (values[·]?) =
      if low.toInt ≤ index.toInt then values[(index.toInt - low.toInt).toNat]? else none := by
  have hmax := Int64.toInt_maxValue
  unfold position?
  by_cases hlow : low.toInt ≤ index.toInt
  · rw [if_pos hlow]
    by_cases hused : index.toInt - low.toInt < values.length
    · rw [if_pos (by omega), Option.bind_some]
    · rw [if_neg (by omega), Option.bind_none, eq_comm]
      exact List.getElem?_eq_none_iff.2 (by omega)
  · rw [if_neg hlow, if_neg (by omega), Option.bind_none]

theorem sameItems_eq_beq (left right : List Value) : sameItems left right = (left == right) := by
  induction left generalizing right with
  | nil => cases right <;> rfl
  | cons item rest ih =>
      cases right with
      | nil => rfl
      | cons other others => rw [sameItems, ih, List.cons_beq_cons, beq_def]

/-- At most one of pairwise different values is equal to a value. -/
theorem PairwiseDifferent.eraseP_eq_filter {values : List Value}
    (hdifferent : PairwiseDifferent values) (value : Value) :
    values.eraseP (· == value) = values.filter fun member => !(member == value) := by
  induction hdifferent with
  | nil => rfl
  | @cons member rest hmember _ ih =>
      rw [List.eraseP_cons, List.filter_cons]
      cases hfound : member == value with
      | false => simpa using ih
      | true =>
          have hother : ∀ other ∈ rest, (!(other == value)) = true := by
            intro other hmem
            have hdiffers := hmember other hmem
            rw [BEq.congr_left hfound, BEq.comm] at hdiffers
            rw [hdiffers]
            rfl
          simpa using (List.filter_eq_self.2 hother).symm

end Value

/-! ### The refinement -/

/-- The set has the members of the list, and defaults behind them. -/
structure OrderedSetOf.Represents {low high : Int64} (element : ModelType)
    (list : BoundedList low high) (set : OrderedSet) : Prop where
  element_eq : set.element = element
  low_eq : set.low = low
  capacity_eq : set.capacity = TransitionEngine.capacity low high
  values_eq : set.values = list.values
  spare_eq : ∀ slot ∈ set.spare, slot = element.defaultValue

namespace OrderedSetOf

theorem represents_new (element : ModelType) (low high : Int64) :
    (new element low high).Represents element (.empty low high) where
  element_eq := rfl
  low_eq := rfl
  capacity_eq := by simp [new, capacity]
  values_eq := rfl
  spare_eq _ hslot := List.eq_of_mem_replicate hslot

namespace Represents

variable {low high : Int64} {element : ModelType} {set : OrderedSet} {list : BoundedList low high}
  (hrepresents : set.Represents element list)

include hrepresents

theorem indexed_eq : methods.indexed set = list.indexed := by
  have hbounded := list.bounded
  have hcapacity := capacity_le_maxValue low high
  have hhigh := low_add_capacity_le low high
  refine List.ext_getElem? fun position => ?_
  simp only [methods, indexed, BoundedList.indexed, List.getElem?_map, List.getElem?_mapIdx,
    hrepresents.low_eq, hrepresents.values_eq, Option.map_map]
  cases hget : list.values[position]? with
  | none => rfl
  | some value =>
      obtain ⟨hposition, -⟩ := List.getElem?_eq_some_iff.1 hget
      have hindex : (Value.indexAt low position).toInt = low.toInt + position :=
        Value.toInt_indexAt (by omega) (by omega)
      simp only [Option.map_some, Function.comp_apply, hindex]

theorem display_eq : set.display = list.display := by
  rw [BoundedList.display, ← hrepresents.indexed_eq]
  refine congrArg Value.braced (List.ext_getElem? fun position => ?_)
  simp only [Value.getElem?_displayMembers, methods, indexed, List.getElem?_map,
    List.getElem?_mapIdx, Option.map_map, Nat.zero_add]
  rfl

theorem get_eq (index : Int64) : set.get index = list.get index.toInt := by
  have hbounded := list.bounded
  have hcapacity := capacity_le_maxValue low high
  rw [get, used, hrepresents.low_eq, hrepresents.values_eq, hrepresents.display_eq,
    Value.bind_position? (by omega)]
  rfl

theorem index_eq (argument : Value) :
    methods.index set argument = BoundedList.methods.index list argument := by
  simp only [methods, BoundedList.methods, index, hrepresents.get_eq]

theorem contains_eq (value : Value) : set.contains value = list.contains value := by
  rw [contains, BoundedList.contains, hrepresents.values_eq]

theorem equals_eq (other : OrderedSet) :
    methods.equals set other = BoundedList.methods.equals list other := by
  have hcapacity := hrepresents.capacity_eq
  simp only [methods, BoundedList.methods, ← Value.sameItems_eq_beq, ← hcapacity,
    ← hrepresents.values_eq]
  rw [← hrepresents.low_eq]
  rfl

theorem push (value : Value) :
    (methods.perform set (.push value)).1 = (BoundedList.methods.perform list (.push value)).1 ∧
      (methods.perform set (.push value)).2.Represents element
        (BoundedList.methods.perform list (.push value)).2 := by
  have hcontains := hrepresents.contains_eq value
  have hcapacity := hrepresents.capacity_eq
  rw [capacity, hrepresents.values_eq] at hcapacity
  simp only [SetMethods.perform, methods, BoundedList.methods, BoundedList.push]
  by_cases hmem : list.contains value = true
  · rw [push_of_contains (hcontains.trans hmem), dif_pos hmem]
    exact ⟨rfl, hrepresents⟩
  · have hnew : set.contains value = false := hcontains.trans (by simpa using hmem)
    rw [dif_neg hmem]
    cases hspare : set.spare with
    | nil =>
        rw [hspare, List.length_nil] at hcapacity
        rw [push_of_full hnew hspare, dif_neg (by omega), hrepresents.display_eq]
        exact ⟨rfl, hrepresents⟩
    | cons slot rest =>
        rw [hspare, List.length_cons] at hcapacity
        rw [push_of_new hnew hspare, dif_pos (by omega)]
        refine ⟨rfl, { hrepresents with capacity_eq := ?_, values_eq := ?_, spare_eq := ?_ }⟩
        · simp only [capacity, List.length_append, List.length_singleton, hrepresents.values_eq]
          omega
        · rw [hrepresents.values_eq]
        · exact fun slot hslot => hrepresents.spare_eq slot (hspare ▸ List.mem_cons_of_mem _ hslot)

theorem pop :
    (methods.perform set .pop).1 = (BoundedList.methods.perform list .pop).1 ∧
      (methods.perform set .pop).2.Represents element
        (BoundedList.methods.perform list .pop).2 := by
  have hcapacity := hrepresents.capacity_eq
  rw [capacity, hrepresents.values_eq] at hcapacity
  simp only [SetMethods.perform, methods, BoundedList.methods, OrderedSetOf.pop, popWith,
    BoundedList.pop]
  rw [hrepresents.values_eq, hrepresents.display_eq]
  cases hlast : list.values.getLast? with
  | none => exact ⟨rfl, hrepresents⟩
  | some last =>
      have hused : 0 < list.values.length := List.length_pos_of_mem (List.mem_of_getLast? hlast)
      refine ⟨rfl, { hrepresents with capacity_eq := ?_, values_eq := rfl, spare_eq := ?_ }⟩
      · simp only [capacity, List.length_dropLast, List.length_cons]
        omega
      · rw [hrepresents.element_eq]
        exact List.forall_mem_cons.2 ⟨rfl, hrepresents.spare_eq⟩

theorem remove (value : Value) :
    (methods.perform set (.remove value)).1 =
        (BoundedList.methods.perform list (.remove value)).1 ∧
      (methods.perform set (.remove value)).2.Represents element
        (BoundedList.methods.perform list (.remove value)).2 := by
  have hcapacity := hrepresents.capacity_eq
  rw [capacity] at hcapacity
  have herased := list.different.eraseP_eq_filter value
  rw [← hrepresents.values_eq] at herased
  simp only [SetMethods.perform, methods, BoundedList.methods, OrderedSetOf.remove, removeWith,
    BoundedList.remove, ← hrepresents.contains_eq]
  cases hmem : set.contains value with
  | false =>
      have hkept : set.values.eraseP (· == value) = set.values :=
        List.eraseP_of_forall_not (by simpa using contains_eq_false_iff.1 hmem)
      rw [hkept, hrepresents.values_eq] at herased
      exact ⟨rfl, { hrepresents with values_eq := hrepresents.values_eq.trans herased }⟩
  | true =>
      obtain ⟨member, hmember, hfound⟩ := List.any_eq_true.1 hmem
      have hshorter : (set.values.eraseP (· == value)).length = set.values.length - 1 :=
        List.length_eraseP_of_mem hmember hfound
      have hused : 0 < set.values.length := List.length_pos_of_mem hmember
      refine ⟨rfl, { hrepresents with capacity_eq := ?_, values_eq := ?_, spare_eq := ?_ }⟩
      · simp only [capacity, if_true, List.length_append, List.length_singleton, hshorter]
        omega
      · rw [if_pos rfl, herased, hrepresents.values_eq]
      · rw [if_pos rfl, hrepresents.element_eq, List.forall_mem_append]
        exact ⟨hrepresents.spare_eq, List.forall_mem_singleton.2 rfl⟩

/-- The set replies to an operation as the list does, and has its members afterwards. -/
theorem perform (operation : SetOperation) :
    (methods.perform set operation).1 = (BoundedList.methods.perform list operation).1 ∧
      (methods.perform set operation).2.Represents element
        (BoundedList.methods.perform list operation).2 := by
  cases operation with
  | push value => exact hrepresents.push value
  | pop => exact hrepresents.pop
  | remove value => exact hrepresents.remove value
  | contains value =>
      have hcontains : methods.contains set value = BoundedList.methods.contains list value :=
        hrepresents.contains_eq value
      rw [SetMethods.perform, SetMethods.perform, hcontains]
      exact ⟨rfl, hrepresents⟩
  | get index =>
      have hget : methods.get set index = BoundedList.methods.get list index :=
        hrepresents.get_eq index
      rw [SetMethods.perform, SetMethods.perform, hget]
      exact ⟨rfl, hrepresents⟩
  | index argument =>
      rw [SetMethods.perform, SetMethods.perform, hrepresents.index_eq]
      exact ⟨rfl, hrepresents⟩
  | iter =>
      rw [SetMethods.perform, SetMethods.perform, hrepresents.indexed_eq]
      exact ⟨rfl, hrepresents⟩
  | equals other =>
      rw [SetMethods.perform, SetMethods.perform, hrepresents.equals_eq]
      exact ⟨rfl, hrepresents⟩

end Represents

theorem performAll_represents (element : ModelType) (low high : Int64)
    (operations : List SetOperation) :
    (methods.performAll (new element low high) operations).1 =
        (BoundedList.methods.performAll (.empty low high) operations).1 ∧
      (methods.performAll (new element low high) operations).2.Represents element
        (BoundedList.methods.performAll (.empty low high) operations).2 := by
  have hstep {set : OrderedSet} {list : BoundedList low high} {operation operation' : SetOperation}
      (hrepresents : set.Represents element list) (hsame : operation = operation') :
      (methods.perform set operation).1 = (BoundedList.methods.perform list operation').1 ∧
        (methods.perform set operation).2.Represents element
          (BoundedList.methods.perform list operation').2 :=
    hsame ▸ hrepresents.perform operation
  obtain ⟨hreplies, hrepresents⟩ := SetMethods.performAll_simulates
    (R := fun set (list : BoundedList low high) => OrderedSetOf.Represents element list set) hstep
    (List.forall₂_refl operations) (represents_new element low high)
  rw [List.forall₂_eq_eq_eq] at hreplies
  exact ⟨hreplies, hrepresents⟩

/-- An ordered set that started empty is a bounded list, whatever operations were made on it; and
equal ordered sets cannot be told apart by operations. -/
theorem refines_boundedList :
    (∀ (element : ModelType) (low high : Int64) (operations : List SetOperation),
      let (replies, set) := methods.performAll (new element low high) operations
      let (answers, list) := BoundedList.methods.performAll (.empty low high) operations
      let count := high.toInt - low.toInt + 1
      replies = answers ∧ set.low = low ∧ set.values = list.values ∧
        (set.capacity : Int) = (if 0 ≤ count ∧ count ≤ Int64.maxValue.toInt then count else 0) ∧
        set.used ≤ set.capacity ∧ Value.PairwiseDifferent set.values ∧
        ∀ slot ∈ set.slots.drop set.used, slot = element.defaultValue) ∧
    ∀ {left right : OrderedSet}, (Value.orderedSet left == .orderedSet right) = true →
      ∀ {operations operations' : List SetOperation},
        List.Forall₂ SetOperation.Same operations operations' →
          List.Forall₂ SetReply.Same (methods.performAll left operations).1
              (methods.performAll right operations').1 ∧
            (Value.orderedSet (methods.performAll left operations).2 ==
              .orderedSet (methods.performAll right operations').2) = true := by
  constructor
  · intro element low high operations
    obtain ⟨hreplies, hrepresents⟩ := performAll_represents element low high operations
    refine ⟨hreplies, hrepresents.low_eq, hrepresents.values_eq, ?_, ?_, ?_, ?_⟩
    · rw [hrepresents.capacity_eq, capacity_eq]
      split <;> omega
    · exact Nat.le_add_right ..
    · rw [hrepresents.values_eq]
      exact BoundedList.different _
    · rw [slots, used, List.drop_left]
      exact hrepresents.spare_eq
  · intro left right hequal operations operations' hsame
    exact SetMethods.performAll_simulates
      (R := fun left right => (Value.orderedSet left == .orderedSet right) = true)
      (fun hequal hsame => perform_congr hequal hsame) hsame hequal

/-- Fills a pair, pushes once too often, and takes the older member out. -/
def throughPair : List SetOperation :=
  [.push (.number 7), .push (.number 8), .push (.number 7), .push (.number 9),
    .remove (.number 7)]

/-- What is left of the pair cannot be told from a pair of another element type. -/
theorem refines_boundedList_pair :
    let (replies, set) := methods.performAll (new .number 1 2) throughPair
    let other : OrderedSet := ⟨.range 0 9, 1, [.number 8], [.number 0]⟩
    replies = (BoundedList.methods.performAll (.empty 1 2) throughPair).1 ∧
      set.values = [.number 8] ∧
        List.Forall₂ SetReply.Same (methods.performAll set [.index (.number 1), .pop, .pop]).1
          (methods.performAll other [.index (.number 1), .pop, .pop]).1 := by
  obtain ⟨hlist, hequal⟩ := refines_boundedList
  have hsame : List.Forall₂ SetOperation.Same [.index (.number 1), .pop, .pop]
      [.index (.number 1), .pop, .pop] :=
    .cons (.index (by decide)) (.cons .pop (.cons .pop .nil))
  exact ⟨(hlist .number 1 2 throughPair).1, rfl, (hequal (by decide) hsame).1⟩

end OrderedSetOf

end TransitionEngine

import TransitionEngine.Proofs.Value.Refinement
import TransitionEngine.Proofs.Typing.Construction

/-!
# Indices in 64 bits

An index, a position and a number of slots are worked out from each other in 64 bits, where a difference
or a sum may overflow. It never matters: a collection is read and written by its indices as if they were
integers, up to both ends of the range, and no slot is counted twice or left out.
-/

namespace TransitionEngine

/-! ### Arithmetic in 64 bits -/

/-- The difference, unless it overflows. -/
def checkedSub? (left right : Int64) : Option Int64 :=
  if left.toBitVec.ssubOverflow right.toBitVec then none else some (left - right)

/-- The sum, unless it overflows. -/
def checkedAdd? (left right : Int64) : Option Int64 :=
  if left.toBitVec.saddOverflow right.toBitVec then none else some (left + right)

/-- The sum, or the bound that it passes. -/
def saturatingAdd (left right : Int64) : Int64 :=
  (checkedAdd? left right).getD (if 0 ≤ right then Int64.maxValue else Int64.minValue)

/-- The number as a size, which has no sign. -/
def toSize? (number : Int64) : Option Nat :=
  if 0 ≤ number then some number.toNatClampNeg else none

theorem int64?_eq_some_iff {value : Int} {number : Int64} :
    int64? value = some number ↔ number.toInt = value := by
  constructor
  · exact toInt_of_int64?
  · rintro rfl
    exact int64?_toInt number

theorem toInt_ofNat_of_le {number : Nat} (hfits : (number : Int) ≤ Int64.maxValue.toInt) :
    (Int64.ofNat number).toInt = number := by
  rw [Int64.toInt_maxValue] at hfits
  exact Int64.toInt_ofNat_of_lt (by omega)

theorem checkedSub?_eq (left right : Int64) :
    checkedSub? left right = int64? (left.toInt - right.toInt) := by
  have hmin := Int64.toInt_minValue
  have hmax := Int64.toInt_maxValue
  unfold checkedSub?
  split
  · rename_i hoverflow
    simp only [BitVec.ssubOverflow, Int64.toInt_toBitVec, Bool.or_eq_true, decide_eq_true_eq] at hoverflow
    rw [int64?, if_neg (by omega)]
  · rename_i hfits
    have hexact : (left - right).toInt = left.toInt - right.toInt :=
      BitVec.toInt_sub_of_not_ssubOverflow hfits
    exact (int64?_eq_some_iff.2 hexact).symm

theorem checkedAdd?_eq (left right : Int64) :
    checkedAdd? left right = int64? (left.toInt + right.toInt) := by
  have hmin := Int64.toInt_minValue
  have hmax := Int64.toInt_maxValue
  unfold checkedAdd?
  split
  · rename_i hoverflow
    simp only [BitVec.saddOverflow, Int64.toInt_toBitVec, Bool.or_eq_true, decide_eq_true_eq] at hoverflow
    rw [int64?, if_neg (by omega)]
  · rename_i hfits
    have hexact : (left + right).toInt = left.toInt + right.toInt :=
      BitVec.toInt_add_of_not_saddOverflow hfits
    exact (int64?_eq_some_iff.2 hexact).symm

theorem checkedSub?_eq_some_iff {left right difference : Int64} :
    checkedSub? left right = some difference ↔ difference.toInt = left.toInt - right.toInt := by
  rw [checkedSub?_eq, int64?_eq_some_iff]

theorem checkedAdd?_eq_some_iff {left right sum : Int64} :
    checkedAdd? left right = some sum ↔ sum.toInt = left.toInt + right.toInt := by
  rw [checkedAdd?_eq, int64?_eq_some_iff]

/-- A sum with nothing negative can pass the upper bound only. -/
theorem saturatingAdd_of_nonneg (left : Int64) {right : Int64} (hright : 0 ≤ right.toInt) :
    saturatingAdd left right = Int64.ofInt (min (left.toInt + right.toInt) Int64.maxValue.toInt) := by
  have hmin := Int64.toInt_minValue
  have hleft := left.le_toInt
  have hsign : 0 ≤ right := Int64.le_iff_toInt_le.2 hright
  rw [saturatingAdd, checkedAdd?_eq, if_pos hsign]
  by_cases hfits : left.toInt + right.toInt ≤ Int64.maxValue.toInt
  · rw [int64?, if_pos ⟨by omega, hfits⟩, Option.getD_some, Int.min_eq_left hfits]
  · rw [int64?, if_neg (mt And.right hfits), Option.getD_none, Int.min_eq_right (by omega),
      Int64.ofInt_toInt]

/-- A natural number as one of 64 bits, for which the largest stands if there is none. -/
theorem toInt_getD_int64? (number : Nat) :
    ((int64? number).getD Int64.maxValue).toInt = min (number : Int) Int64.maxValue.toInt := by
  have hmin := Int64.toInt_minValue
  by_cases hfits : (number : Int) ≤ Int64.maxValue.toInt
  · rw [int64?_eq_some_iff.2 (toInt_ofNat_of_le hfits), Option.getD_some, toInt_ofNat_of_le hfits,
      Int.min_eq_left hfits]
  · rw [int64?, if_neg (mt And.right hfits), Option.getD_none, Int.min_eq_right (by omega)]

theorem toSize?_eq_some_iff {number : Int64} {size : Nat} :
    toSize? number = some size ↔ (size : Int) = number.toInt := by
  have hsign : 0 ≤ number ↔ 0 ≤ number.toInt := Int64.le_iff_toInt_le
  rw [toSize?, ← Int64.toNat_toInt]
  by_cases hnatural : 0 ≤ number.toInt
  · rw [if_pos (hsign.2 hnatural), Option.some.injEq]
    omega
  · rw [if_neg (mt hsign.1 hnatural)]
    simp only [reduceCtorEq, false_iff]
    omega

/-! ### Positions and numbers of slots -/

/-- The index belongs to this position, counted from `low` on. -/
def IsAt (low index : Int64) (position : Nat) : Prop :=
  (position : Int) = index.toInt - low.toInt

namespace Value

theorem position?_eq_some_iff {low index : Int64} {count position : Nat} :
    position? low index count = some position ↔
      IsAt low index position ∧ (position : Int) ≤ Int64.maxValue.toInt ∧ position < count := by
  unfold position? IsAt
  dsimp only
  split
  · rw [Option.some.injEq]
    omega
  · simp only [reduceCtorEq, false_iff]
    omega

/-- The position is the checked difference of the indices, if that is a size below the count. -/
theorem position?_eq (low index : Int64) (count : Nat) :
    position? low index count = ((checkedSub? index low).bind toSize?).filter (· < count) := by
  ext position
  rw [position?_eq_some_iff, Option.filter_eq_some_iff, Option.bind_eq_some_iff]
  simp only [checkedSub?_eq_some_iff, toSize?_eq_some_iff, decide_eq_true_eq]
  constructor
  · rintro ⟨hat, hmax, hcount⟩
    have hfits := toInt_ofNat_of_le hmax
    exact ⟨⟨_, hfits.trans hat, hfits.symm⟩, hcount⟩
  · rintro ⟨⟨difference, hdifference, hposition⟩, hcount⟩
    refine ⟨hposition.trans hdifference, ?_, hcount⟩
    rw [hposition]
    exact difference.toInt_le

/-- The index is the saturating sum, in which a position that is no 64-bit number counts as the largest. -/
theorem indexAt_eq (low : Int64) (position : Nat) :
    indexAt low position = saturatingAdd low ((int64? position).getD Int64.maxValue) := by
  have hmax := Int64.toInt_maxValue
  have hoffset := toInt_getD_int64? position
  rw [saturatingAdd_of_nonneg low (by omega), hoffset, indexAt]

end Value

theorem slotCount?_eq_some_iff {low high : Int64} {count : Nat} :
    slotCount? low high = some count ↔
      (count : Int) = high.toInt - low.toInt + 1 ∧ (count : Int) ≤ Int64.maxValue.toInt := by
  unfold slotCount?
  dsimp only
  split
  · rw [Option.some.injEq]
    omega
  · simp only [reduceCtorEq, false_iff]
    omega

/-- The number of slots is the checked difference of the bounds and one more, if that is a size. -/
theorem slotCount?_eq (low high : Int64) :
    slotCount? low high = ((checkedSub? high low).bind (checkedAdd? · 1)).bind toSize? := by
  ext count
  simp only [slotCount?_eq_some_iff, Option.bind_eq_some_iff, checkedSub?_eq_some_iff,
    checkedAdd?_eq_some_iff, toSize?_eq_some_iff, Int64.toInt_one]
  constructor
  · rintro ⟨hcount, hmax⟩
    have hfits := toInt_ofNat_of_le hmax
    have hdifference : (Int64.ofInt (high.toInt - low.toInt)).toInt = high.toInt - low.toInt := by
      have hbound := Int64.toInt_maxValue
      exact Int64.toInt_ofInt_of_le (by omega) (by omega)
    exact ⟨_, ⟨_, hdifference, by rw [hfits, hdifference, hcount]⟩, hfits.symm⟩
  · rintro ⟨sum, ⟨difference, hdifference, hsum⟩, hcount⟩
    have hbound := sum.toInt_le
    omega

/-! ### What is found at an index -/

theorem IsAt.position_eq {low index : Int64} {position other : Nat} (hposition : IsAt low index position)
    (hother : IsAt low index other) : position = other :=
  Int.ofNat_inj.1 (hposition.trans hother.symm)

theorem IsAt.index_eq {low index other : Int64} {position : Nat} (hindex : IsAt low index position)
    (hother : IsAt low other position) : index = other := by
  unfold IsAt at hindex hother
  exact Int64.toInt.inj (by omega)

section Lookup

variable {low index : Int64} {members : List Value}
  (hlength : (members.length : Int) ≤ Int64.maxValue.toInt)

include hlength

theorem position?_of_isAt {position : Nat} (hat : IsAt low index position)
    (hposition : position < members.length) :
    Value.position? low index members.length = some position :=
  Value.position?_eq_some_iff.2 ⟨hat, by omega, hposition⟩

theorem found_eq_some_iff {member : Value} :
    (Value.position? low index members.length).bind (members[·]?) = some member ↔
      ∃ position, IsAt low index position ∧ members[position]? = some member := by
  rw [Option.bind_eq_some_iff]
  constructor
  · rintro ⟨position, hposition, hmember⟩
    exact ⟨position, (Value.position?_eq_some_iff.1 hposition).1, hmember⟩
  · rintro ⟨position, hat, hmember⟩
    obtain ⟨hposition, -⟩ := List.getElem?_eq_some_iff.1 hmember
    exact ⟨position, position?_of_isAt hlength hat hposition, hmember⟩

end Lookup

theorem position?_eq_none {low index : Int64} {count : Nat}
    (hnone : ∀ position, IsAt low index position → count ≤ position) :
    Value.position? low index count = none := by
  rw [Option.eq_none_iff_forall_ne_some]
  intro position hposition
  obtain ⟨hat, -, hcount⟩ := Value.position?_eq_some_iff.1 hposition
  exact absurd hcount (Nat.not_lt.2 (hnone position hat))

namespace ArrayOf

/-- An index reaches the item at its position, for reading and for writing, and every other index is
refused. -/
structure IsIndexedExactly (array : ArrayValue) : Prop where
  get_eq_ok_iff (index : Int64) (item : Value) : array.get index = .ok item ↔
    ∃ position, IsAt array.low index position ∧ array.items[position]? = some item
  set_eq_ok_iff (index : Int64) (value : Value) (changed : ArrayValue) :
    array.set index value = .ok changed ↔
      ∃ position, IsAt array.low index position ∧ position < array.items.length ∧
        changed = { array with items := array.items.set position value }
  toOption_get_of_set {index : Int64} {value : Value} {changed : ArrayValue}
    (hset : array.set index value = .ok changed) (other : Int64) :
    (changed.get other).toOption = if other = index then some value else (array.get other).toOption
  refused {index : Int64}
    (hnone : ∀ position, IsAt array.low index position → array.items.length ≤ position) :
    array.get index = .error (.bounds (.noSuchIndex index.toInt (Value.array array).display)) ∧
      ∀ value, array.set index value =
        .error (.bounds (.noSuchIndex index.toInt (Value.array array).display))
  checkedSub?_eq {index : Int64} {position : Nat} (hat : IsAt array.low index position)
    (hposition : position < array.items.length) :
    checkedSub? index array.low = some (Int64.ofNat position)

theorem toOption_get (array : ArrayValue) (index : Int64) :
    (array.get index).toOption =
      (Value.position? array.low index array.items.length).bind (array.items[·]?) := by
  rw [get]
  cases (Value.position? array.low index array.items.length).bind (array.items[·]?) with
  | none => rfl
  | some item => rfl

section Short

variable {array : ArrayValue} (hlength : (array.items.length : Int) ≤ Int64.maxValue.toInt)

include hlength

theorem get_eq_ok_iff {index : Int64} {item : Value} : array.get index = .ok item ↔
    ∃ position, IsAt array.low index position ∧ array.items[position]? = some item := by
  rw [get, ← found_eq_some_iff hlength]
  cases (Value.position? array.low index array.items.length).bind (array.items[·]?) <;> simp

theorem set_eq_ok_iff {index : Int64} {value : Value} {changed : ArrayValue} :
    array.set index value = .ok changed ↔
      ∃ position, IsAt array.low index position ∧ position < array.items.length ∧
        changed = { array with items := array.items.set position value } := by
  rw [set]
  cases hfound : Value.position? array.low index array.items.length with
  | none =>
      simp only [reduceCtorEq, false_iff]
      rintro ⟨position, hat, hposition, -⟩
      rw [position?_of_isAt hlength hat hposition] at hfound
      cases hfound
  | some position =>
      obtain ⟨hat, -, hposition⟩ := Value.position?_eq_some_iff.1 hfound
      rw [Except.ok.injEq]
      constructor
      · exact fun hchanged => ⟨position, hat, hposition, hchanged.symm⟩
      · rintro ⟨other, hother, -, rfl⟩
        rw [hat.position_eq hother]

/-- A write puts the value at the position of the index, and so changes what is found at no other. -/
theorem toOption_get_of_set {index : Int64} {value : Value} {changed : ArrayValue}
    (hset : array.set index value = .ok changed) (other : Int64) :
    (changed.get other).toOption =
      if other = index then some value else (array.get other).toOption := by
  obtain ⟨position, hat, hposition, rfl⟩ := (set_eq_ok_iff hlength).1 hset
  rw [toOption_get, toOption_get, List.length_set]
  by_cases hother : other = index
  · rw [hother, if_pos rfl, position?_of_isAt hlength hat hposition, Option.bind_some]
    exact List.getElem?_set_self hposition
  · rw [if_neg hother]
    cases hfound : Value.position? array.low other array.items.length with
    | none => rfl
    | some found =>
        obtain ⟨hfound, -⟩ := Value.position?_eq_some_iff.1 hfound
        have hne : position ≠ found := by
          rintro rfl
          exact hother (hfound.index_eq hat)
        exact List.getElem?_set_ne hne

theorem isIndexedExactly : array.IsIndexedExactly where
  get_eq_ok_iff _ _ := get_eq_ok_iff hlength
  set_eq_ok_iff _ _ _ := set_eq_ok_iff hlength
  toOption_get_of_set := toOption_get_of_set hlength
  refused hnone := by
    simp only [get, set, position?_eq_none hnone, Option.bind_none, implies_true, and_self]
  checkedSub?_eq {_ position} hat hposition := by
    have hfits : (position : Int) ≤ Int64.maxValue.toInt := by omega
    exact checkedSub?_eq_some_iff.2 ((toInt_ofNat_of_le hfits).trans hat)

end Short

end ArrayOf

namespace OrderedSetOf

/-- The members are numbered from `low` on without reaching the end of the range, and an index is good for
the member that has it and for no other. -/
structure IsIndexedExactly (low : Int64) (set : OrderedSet) : Prop where
  indexed_eq : set.indexed.map (fun (index, value) => (index.toInt, value)) =
    set.values.mapIdx fun position value => (low.toInt + position, value)
  checkedAdd?_eq {position : Nat} (hposition : position < set.used) :
    checkedAdd? low (Int64.ofNat position) = some (Value.indexAt low position)
  get_eq_ok_iff (index : Int64) (value : Value) :
    set.get index = .ok value ↔ (index, value) ∈ set.indexed
  refused {index : Int64} (hnone : ∀ value, (index, value) ∉ set.indexed) :
    set.get index = .error (.bounds (.noSuchIndex index.toInt set.display))

/-- The indices that are given out are those of the positions, if none of them is beyond the range. -/
theorem mem_indexed_iff {set : OrderedSet}
    (hat : ∀ position < set.used, IsAt set.low (Value.indexAt set.low position) position)
    {index : Int64} {value : Value} :
    (index, value) ∈ set.indexed ↔
      ∃ position, IsAt set.low index position ∧ set.values[position]? = some value := by
  rw [List.mem_iff_getElem?]
  refine exists_congr fun position => ?_
  simp only [indexed, List.getElem?_mapIdx, Option.map_eq_some_iff, Prod.mk.injEq]
  constructor
  · rintro ⟨member, hmember, rfl, rfl⟩
    obtain ⟨hposition, -⟩ := List.getElem?_eq_some_iff.1 hmember
    exact ⟨hat position hposition, hmember⟩
  · rintro ⟨hindex, hmember⟩
    obtain ⟨hposition, -⟩ := List.getElem?_eq_some_iff.1 hmember
    exact ⟨value, hmember, (hat position hposition).index_eq hindex, rfl⟩

theorem Represents.isIndexedExactly {low high : Int64} {element : ModelType} {set : OrderedSet}
    {list : BoundedList low high} (hrepresents : set.Represents element list) :
    set.IsIndexedExactly low := by
  have hcapacity := capacity_le_maxValue low high
  have hhigh := low_add_capacity_le low high
  have hused : set.used ≤ TransitionEngine.capacity low high := by
    rw [used, hrepresents.values_eq]
    exact list.bounded
  have hsum {position : Nat} (hposition : position < set.used) :
      (Value.indexAt low position).toInt = low.toInt + position :=
    Value.toInt_indexAt (by omega) (by omega)
  have hfound (index : Int64) (value : Value) :
      (Value.position? set.low index set.used).bind (set.values[·]?) = some value ↔
        (index, value) ∈ set.indexed := by
    rw [mem_indexed_iff]
    · exact found_eq_some_iff (Int.le_trans (Int.ofNat_le.2 hused) hcapacity)
    · intro position hposition
      rw [hrepresents.low_eq, IsAt, hsum hposition]
      omega
  refine ⟨?_, fun hposition => ?_, fun index value => ?_, fun {index} hnone => ?_⟩
  · have hindexed := hrepresents.indexed_eq
    rwa [BoundedList.indexed, ← hrepresents.values_eq] at hindexed
  · rw [checkedAdd?_eq_some_iff, hsum hposition, toInt_ofNat_of_le (by omega)]
  · rw [← hfound, get]
    cases (Value.position? set.low index set.used).bind (set.values[·]?) <;> simp
  · have hmissing : (Value.position? set.low index set.used).bind (set.values[·]?) = none :=
      Option.eq_none_iff_forall_ne_some.2 fun value => mt (hfound index value).1 (hnone value)
    rw [get, hmissing]

end OrderedSetOf

/-! ### Index ranges -/

theorem IsCountable.capacity_eq {low high : Int64} (hcountable : IsCountable low high) :
    (capacity low high : Int) = high.toInt - low.toInt + 1 := by
  unfold IsCountable at hcountable
  rw [TransitionEngine.capacity_eq, if_pos hcountable]
  exact Int.toNat_of_nonneg hcountable.1

theorem IsCountable.exists_checked {low high : Int64} (hcountable : IsCountable low high) :
    ∃ count, (checkedSub? high low).bind (checkedAdd? · 1) = some count ∧
      count.toInt = high.toInt - low.toInt + 1 := by
  obtain ⟨size, hsize⟩ := Option.isSome_iff_exists.1 (isSome_slotCount?_iff.2 hcountable)
  have hexact := (slotCount?_eq_some_iff.1 hsize).1
  rw [slotCount?_eq, Option.bind_eq_some_iff] at hsize
  obtain ⟨count, hcount, hsize⟩ := hsize
  exact ⟨count, hcount, (toSize?_eq_some_iff.1 hsize).symm.trans hexact⟩

namespace ModelType

/-- There is a slot for each index from `low` to `high` and no other. They are counted without overflow,
and a collection starts with so many. -/
structure CountsExactly (element : ModelType) (low high : Int64) : Prop where
  exists_checked : ∃ count, (checkedSub? high low).bind (checkedAdd? · 1) = some count ∧
    count.toInt = high.toInt - low.toInt + 1
  capacity_eq : (capacity low high : Int) = high.toInt - low.toInt + 1
  exists_array : ∃ array, (ModelType.array element low high).defaultValue = .array array ∧
    array.items.length = capacity low high ∧
    ∀ index, array.get index =
      if low ≤ index ∧ index ≤ high then .ok element.defaultValue
      else .error (.bounds (.noSuchIndex index.toInt (Value.array array).display))
  exists_set : ∃ set, (ModelType.orderedSet element low high).defaultValue = .orderedSet set ∧
    set.capacity = capacity low high

theorem get_replicate_default (element : ModelType) {low high : Int64} (hcountable : IsCountable low high)
    (index : Int64) :
    let array : ArrayValue := ⟨low, List.replicate (capacity low high) element.defaultValue⟩
    array.get index =
      if low ≤ index ∧ index ≤ high then .ok element.defaultValue
      else .error (.bounds (.noSuchIndex index.toInt (Value.array array).display)) := by
  intro array
  have hcapacity := hcountable.capacity_eq
  have hlength : array.items.length = capacity low high := List.length_replicate
  have hexact : array.IsIndexedExactly :=
    ArrayOf.isIndexedExactly (by rw [hlength]; exact capacity_le_maxValue low high)
  split
  · rename_i hbetween
    rw [Int64.le_iff_toInt_le, Int64.le_iff_toInt_le] at hbetween
    refine (hexact.get_eq_ok_iff index _).2 ⟨(index.toInt - low.toInt).toNat, ?_, ?_⟩
    · exact Int.toNat_of_nonneg (by omega)
    · exact List.getElem?_replicate_of_lt (by omega)
  · rename_i houtside
    rw [Int64.le_iff_toInt_le, Int64.le_iff_toInt_le] at houtside
    refine (hexact.refused fun position hat => ?_).1
    have hposition : (position : Int) = index.toInt - low.toInt := hat
    rw [hlength]
    omega

theorem countsExactly (element : ModelType) {low high : Int64} (hcountable : IsCountable low high) :
    CountsExactly element low high where
  exists_checked := hcountable.exists_checked
  capacity_eq := hcountable.capacity_eq
  exists_array :=
    ⟨_, by rw [defaultValue], List.length_replicate, get_replicate_default element hcountable⟩
  exists_set := ⟨_, by rw [defaultValue], by simp [OrderedSetOf.capacity]⟩

end ModelType

namespace Value

/-- Positions, indices and numbers of slots are those of checked and saturating arithmetic in 64 bits.
With these an array that is not too long is read and written as by integers, the members of an ordered set
that started empty are numbered and found as by integers, and the collection types that there are have a
slot for each index of their range. -/
theorem indexing_is_exact :
    ((∀ low index count,
        position? low index count = ((checkedSub? index low).bind toSize?).filter (· < count)) ∧
      (∀ low position, indexAt low position =
        saturatingAdd low ((int64? (position : Nat)).getD Int64.maxValue)) ∧
      ∀ low high, slotCount? low high = ((checkedSub? high low).bind (checkedAdd? · 1)).bind toSize?) ∧
    (∀ array : ArrayValue, (array.items.length : Int) ≤ Int64.maxValue.toInt →
      array.IsIndexedExactly) ∧
    (∀ (element : ModelType) (low high : Int64) (operations : List SetOperation),
      (OrderedSetOf.methods.performAll (.new element low high) operations).2.IsIndexedExactly low) ∧
    ∀ element index type : ModelType,
      (element.arrayOf index = .ok type ↔
        ∃ low high, index = .range low high ∧ IsCountable low high ∧
          type = .array element low high) ∧
      (element.orderedSetOf index = .ok type ↔
        ∃ low high, index = .range low high ∧ IsCountable low high ∧
          type = .orderedSet element low high) ∧
      (element.arrayOf index = .ok type ∨ element.orderedSetOf index = .ok type →
        ∃ low high, index = .range low high ∧ element.CountsExactly low high) := by
  refine ⟨⟨position?_eq, indexAt_eq, slotCount?_eq⟩, fun _ => ArrayOf.isIndexedExactly,
    fun element low high operations => ?_, fun element index type => ?_⟩
  · exact (OrderedSetOf.performAll_represents element low high operations).2.isIndexedExactly
  · refine ⟨ModelType.arrayOf_eq_ok_iff, ModelType.orderedSetOf_eq_ok_iff, ?_⟩
    rw [ModelType.arrayOf_eq_ok_iff, ModelType.orderedSetOf_eq_ok_iff]
    rintro (⟨low, high, hindex, hcountable, -⟩ | ⟨low, high, hindex, hcountable, -⟩)
    · exact ⟨low, high, hindex, element.countsExactly hcountable⟩
    · exact ⟨low, high, hindex, element.countsExactly hcountable⟩

/-- Two items at the upper end of the range. -/
def lastPair : ArrayValue :=
  ⟨Int64.maxValue - 1, [.number 5, .number 6]⟩

/-- Two members at the lower end of the range, of which the older one is taken out. -/
def firstPair : OrderedSet :=
  (OrderedSetOf.methods.performAll (.new .number Int64.minValue (Int64.minValue + 1))
    [.push (.number 7), .push (.number 8), .remove (.number 7)]).2

/-- The last index of all finds the second of the items, and the first of all is refused, though the
difference overflows. The member that is left has the first index of all. A range of the last two indices
has two slots. -/
theorem indexing_is_exact_lastPair :
    (lastPair.items.length : Int) ≤ Int64.maxValue.toInt ∧
      lastPair.get Int64.maxValue = .ok (.number 6) ∧
      checkedSub? Int64.minValue lastPair.low = none ∧
      lastPair.get Int64.minValue =
        .error (.bounds (.noSuchIndex Int64.minValue.toInt (Value.array lastPair).display)) ∧
      firstPair.get Int64.minValue = .ok (.number 8) ∧
      ModelType.number.arrayOf (.range (Int64.maxValue - 1) Int64.maxValue) =
        .ok (.array .number (Int64.maxValue - 1) Int64.maxValue) ∧
      capacity (Int64.maxValue - 1) Int64.maxValue = 2 := by
  obtain ⟨-, harrays, hsets, htypes⟩ := indexing_is_exact
  have hlength : (lastPair.items.length : Int) ≤ Int64.maxValue.toInt := by decide
  have harray := harrays lastPair hlength
  have hset : firstPair.IsIndexedExactly Int64.minValue := hsets _ _ _ _
  have hmade : ModelType.number.arrayOf (.range (Int64.maxValue - 1) Int64.maxValue) =
      .ok (.array .number (Int64.maxValue - 1) Int64.maxValue) := rfl
  obtain ⟨low, high, hrange, hcounts⟩ := (htypes _ _ _).2.2 (.inl hmade)
  obtain ⟨rfl, rfl⟩ := ModelType.range.inj hrange
  have hcapacity := hcounts.capacity_eq
  refine ⟨hlength, (harray.get_eq_ok_iff _ _).2 ⟨1, rfl, rfl⟩, by decide, ?_,
    (hset.get_eq_ok_iff _ _).2 (List.mem_singleton.2 rfl), hmade, ?_⟩
  · refine (harray.refused fun position hat => ?_).1
    have hposition : (position : Int) = Int64.minValue.toInt - (Int64.maxValue - 1).toInt := hat
    exact absurd (Int.natCast_nonneg position) (by rw [hposition]; decide)
  · exact Int.ofNat_inj.1 (hcapacity.trans (by decide))

end Value

end TransitionEngine

import Mathlib.Algebra.Group.Nat.Defs
import Mathlib.Data.List.Forall2
import TransitionEngine.Json.Printer

/-!
# The zeros of a document

There are two zeros among the doubles. They are equal, but their texts differ by the sign. So two equal
documents have the same text only if their zeros have the same signs, and then they are the same document.
-/

namespace TransitionEngine

namespace Double

/-- The bits are the sign, the exponent and the fraction. -/
theorem toNat_bits (double : Double) :
    double.bits.toNat =
      double.bits.toNat / 2 ^ 63 * 2 ^ 63 + double.biasedExponent * 2 ^ 52 + double.fraction := by
  have hexponent : double.biasedExponent = double.bits.toNat / 2 ^ 52 % 2 ^ 11 := by
    rw [biasedExponent, UInt64.toNat_and, UInt64.toNat_shiftRight, Nat.shiftRight_eq_div_pow]
    exact Nat.and_two_pow_sub_one_eq_mod _ 11
  have hfraction : double.fraction = double.bits.toNat % 2 ^ 52 := by
    rw [fraction, UInt64.toNat_and]
    exact Nat.and_two_pow_sub_one_eq_mod _ 52
  omega

theorem eq_of_toNat_bits {left right : Double} (hbits : left.bits.toNat = right.bits.toNat) :
    left = right := by
  cases left
  cases right
  congr
  exact UInt64.toNat_inj.1 hbits

def zero : Double :=
  ⟨0, by decide⟩

def negativeZero : Double :=
  ⟨0x8000000000000000, by decide⟩

theorem isZero_iff {double : Double} :
    double.isZero = true ↔ double = zero ∨ double = negativeZero := by
  constructor
  · intro hzero
    have hsignificand : double.significand = 0 := of_decide_eq_true hzero
    have hbits := double.toNat_bits
    unfold significand at hsignificand
    split at hsignificand
    · -- Of the bits the sign alone is left.
      rename_i hexponent
      rw [hexponent, hsignificand, Nat.zero_mul, Nat.add_zero] at hbits
      have hbound := double.bits.toNat_lt
      by_cases hpositive : double.bits.toNat < 2 ^ 63
      · left
        apply eq_of_toNat_bits
        change double.bits.toNat = 0
        omega
      · right
        apply eq_of_toNat_bits
        change double.bits.toNat = 2 ^ 63
        omega
    · exact absurd (Nat.eq_zero_of_add_eq_zero hsignificand).2 (by decide)
  · rintro (rfl | rfl)
    · decide
    · decide

/-- Equal doubles are the same, unless they are the two zeros. -/
theorem eq_or_of_same {left right : Double} (hsame : left.same right = true) :
    left = right ∨ left = zero ∧ right = negativeZero ∨ left = negativeZero ∧ right = zero := by
  rcases Bool.or_eq_true_iff.1 hsame with hequal | hzeros
  · exact .inl (of_decide_eq_true hequal)
  · rw [Bool.and_eq_true_iff, isZero_iff, isZero_iff] at hzeros
    obtain ⟨rfl | rfl, rfl | rfl⟩ := hzeros
    · exact .inl rfl
    · exact .inr (.inl ⟨rfl, rfl⟩)
    · exact .inr (.inr ⟨rfl, rfl⟩)
    · exact .inl rfl

end Double

namespace Json

mutual

/-- Whether each of the zeros among the doubles is negative, in the order of the text. -/
def zeroSigns : Json → List Bool
  | .double value => if value.isZero then [value.isNegative] else []
  | .arr items => itemZeroSigns items
  | .obj fields => fieldZeroSigns fields
  | _ => []

def itemZeroSigns : List Json → List Bool
  | [] => []
  | item :: rest => zeroSigns item ++ itemZeroSigns rest

def fieldZeroSigns : List (String × Json) → List Bool
  | [] => []
  | (_, content) :: rest => zeroSigns content ++ fieldZeroSigns rest

end

theorem itemZeroSigns_eq (items : List Json) : itemZeroSigns items = items.flatMap zeroSigns := by
  induction items with
  | nil => rfl
  | cons item rest ih => rw [itemZeroSigns, ih, List.flatMap_cons]

theorem fieldZeroSigns_eq (fields : List (String × Json)) :
    fieldZeroSigns fields = fields.flatMap fun field => zeroSigns field.2 := by
  induction fields with
  | nil => rfl
  | cons field rest ih => rw [fieldZeroSigns, ih, List.flatMap_cons]

theorem itemTexts_eq (items : List Json) : itemTexts items = items.map compactChars := by
  induction items with
  | nil => rfl
  | cons item rest ih => rw [itemTexts, ih, List.map_cons]

theorem fieldTexts_eq (fields : List (String × Json)) :
    fieldTexts fields =
      fields.map fun field => (quoted field.1 ++ [':']) ++ compactChars field.2 := by
  induction fields with
  | nil => rfl
  | cons field rest ih => rw [fieldTexts, ih, List.map_cons, List.append_assoc, List.singleton_append]

/-! ### Equal documents -/

/-- The relation holds between a document and itself and between the two zeros, either way, and goes from
the parts of documents to the whole. -/
structure Congruence (R : Json → Json → Prop) : Prop where
  refl : ∀ document, R document document
  zeros : R (.double .zero) (.double .negativeZero)
  zerosBack : R (.double .negativeZero) (.double .zero)
  items : ∀ left right, List.Forall₂ R left right → R (.arr left) (.arr right)
  fields : ∀ left right, List.Forall₂ (fun field other => field.1 = other.1 ∧ R field.2 other.2)
    left right → R (.obj left) (.obj right)

namespace Congruence

variable {R : Json → Json → Prop}

mutual

/-- Such a relation holds between equal documents. -/
theorem rel_of_same (hR : Congruence R) : ∀ {left right : Json}, same left right = true → R left right
  | .null, .null, _ => hR.refl _
  | .bool _, .bool _, hsame | .int _, .int _, hsame | .str _, .str _, hsame => by
      rw [eq_of_beq hsame]
      exact hR.refl _
  | .double left, .double right, hsame => by
      obtain rfl | ⟨rfl, rfl⟩ | ⟨rfl, rfl⟩ := Double.eq_or_of_same hsame
      · exact hR.refl _
      · exact hR.zeros
      · exact hR.zerosBack
  | .arr _, .arr _, hsame => hR.items _ _ (hR.forall₂_of_sameItems hsame)
  | .obj _, .obj _, hsame => hR.fields _ _ (hR.forall₂_of_sameFields hsame)

theorem forall₂_of_sameItems (hR : Congruence R) : ∀ {left right : List Json},
    sameItems left right = true → List.Forall₂ R left right
  | [], [], _ => .nil
  | _ :: _, _ :: _, hsame => by
      obtain ⟨hitem, hrest⟩ := Bool.and_eq_true_iff.1 hsame
      exact .cons (hR.rel_of_same hitem) (hR.forall₂_of_sameItems hrest)

theorem forall₂_of_sameFields (hR : Congruence R) : ∀ {left right : List (String × Json)},
    sameFields left right = true →
      List.Forall₂ (fun field other => field.1 = other.1 ∧ R field.2 other.2) left right
  | [], [], _ => .nil
  | (_, _) :: _, (_, _) :: _, hsame => by
      obtain ⟨hfield, hrest⟩ := Bool.and_eq_true_iff.1 hsame
      obtain ⟨hname, hcontent⟩ := Bool.and_eq_true_iff.1 hfield
      exact .cons ⟨eq_of_beq hname, hR.rel_of_same hcontent⟩ (hR.forall₂_of_sameFields hrest)

end

end Congruence

/-! ### What is written for equal documents -/

/-- What is written for the two, whatever is behind, is different unless they are the same. -/
def TellsApart {α β : Type} (write : α → List β) (left right : α) : Prop :=
  ∀ rest others, write left ++ rest = write right ++ others → left = right ∧ rest = others

namespace TellsApart

variable {α β : Type} {write : α → List β}

theorem refl (document : α) : TellsApart write document document :=
  fun _ _ hwritten => ⟨rfl, List.append_cancel_left hwritten⟩

theorem flatMap {left right : List α} (hentries : List.Forall₂ (TellsApart write) left right) :
    TellsApart (List.flatMap write) left right := by
  induction hentries with
  | nil => exact refl []
  | cons hentry _ ih =>
      intro rest others hwritten
      rw [List.flatMap_cons, List.flatMap_cons, List.append_assoc, List.append_assoc] at hwritten
      obtain ⟨rfl, hbehind⟩ := hentry _ _ hwritten
      obtain ⟨rfl, rfl⟩ := ih _ _ hbehind
      exact ⟨rfl, rfl⟩

theorem intercalate {left right : List α} (separator : List β)
    (hentries : List.Forall₂ (TellsApart write) left right) :
    TellsApart (fun entries => separator.intercalate (entries.map write)) left right := by
  induction hentries with
  | nil => exact refl []
  | @cons entry other entries others hentry hrest ih =>
      intro rest behind hwritten
      -- A separator is written only where another entry follows.
      cases hrest with
      | nil =>
          obtain ⟨rfl, rfl⟩ := hentry _ _ (by simpa using hwritten)
          exact ⟨rfl, rfl⟩
      | cons _ _ =>
          simp only [List.map_cons, List.intercalate_cons_cons, List.append_assoc] at hwritten
          obtain ⟨rfl, hbehind⟩ := hentry _ _ hwritten
          obtain ⟨hsame, rfl⟩ := ih _ _ (List.append_cancel_left hbehind)
          exact ⟨congrArg _ hsame, rfl⟩

/-- A field is told apart from another of its name by the content. -/
theorem field {write : Json → List β} (heading : String → List β) {field other : String × Json}
    (hfield : field.1 = other.1 ∧ TellsApart write field.2 other.2) :
    TellsApart (fun field => heading field.1 ++ write field.2) field other := by
  obtain ⟨name, content⟩ := field
  obtain ⟨rfl, hcontent⟩ := hfield
  intro rest others hwritten
  rw [List.append_assoc, List.append_assoc] at hwritten
  obtain ⟨rfl, rfl⟩ := hcontent _ _ (List.append_cancel_left hwritten)
  exact ⟨rfl, rfl⟩

/-- What stands between a fixed opening and a fixed closing. -/
theorem enclosed {left right : α} (opening closing : List β) (hinner : TellsApart write left right) :
    TellsApart (fun inner => opening ++ (write inner ++ closing)) left right := by
  intro rest others hwritten
  simp only [List.append_assoc] at hwritten
  obtain ⟨hsame, hbehind⟩ := hinner _ _ (List.append_cancel_left hwritten)
  exact ⟨hsame, List.append_cancel_left hbehind⟩

end TellsApart

theorem congruence_zeroSigns : Congruence (TellsApart zeroSigns) where
  refl := .refl
  zeros _ _ hwritten := absurd (List.head_eq_of_cons_eq hwritten) (by decide)
  zerosBack _ _ hwritten := absurd (List.head_eq_of_cons_eq hwritten) (by decide)
  items left right hitems rest others hwritten := by
    rw [zeroSigns, zeroSigns, itemZeroSigns_eq, itemZeroSigns_eq] at hwritten
    obtain ⟨rfl, rfl⟩ := TellsApart.flatMap hitems _ _ hwritten
    exact ⟨rfl, rfl⟩
  fields left right hfields rest others hwritten := by
    rw [zeroSigns, zeroSigns, fieldZeroSigns_eq, fieldZeroSigns_eq] at hwritten
    have hentries := hfields.imp fun _ _ => TellsApart.field fun _ => []
    obtain ⟨rfl, rfl⟩ := TellsApart.flatMap hentries _ _ hwritten
    exact ⟨rfl, rfl⟩

theorem congruence_length_zeroSigns :
    Congruence fun left right => left.zeroSigns.length = right.zeroSigns.length where
  refl _ := rfl
  zeros := rfl
  zerosBack := rfl
  items left right hitems := by
    rw [zeroSigns, zeroSigns]
    induction hitems with
    | nil => rfl
    | cons hitem _ ih =>
        rw [itemZeroSigns, itemZeroSigns, List.length_append, List.length_append, hitem, ih]
  fields left right hfields := by
    rw [zeroSigns, zeroSigns]
    induction hfields with
    | nil => rfl
    | cons hfield _ ih =>
        rw [fieldZeroSigns, fieldZeroSigns, List.length_append, List.length_append, hfield.2, ih]

theorem congruence_compactChars : Congruence (TellsApart compactChars) where
  refl := .refl
  -- Of the two texts one begins with a digit and the other with the sign.
  zeros _ _ hwritten := absurd (List.head_eq_of_cons_eq hwritten) (by decide)
  zerosBack _ _ hwritten := absurd (List.head_eq_of_cons_eq hwritten) (by decide)
  items left right hitems rest others hwritten := by
    rw [compactChars, compactChars, itemTexts_eq, itemTexts_eq] at hwritten
    have hentries := (TellsApart.intercalate [','] hitems).enclosed ['['] [']']
    obtain ⟨rfl, rfl⟩ := hentries _ _ hwritten
    exact ⟨rfl, rfl⟩
  fields left right hfields rest others hwritten := by
    rw [compactChars, compactChars, fieldTexts_eq, fieldTexts_eq] at hwritten
    have hfields := hfields.imp fun _ _ => TellsApart.field fun name => quoted name ++ [':']
    have hentries := (TellsApart.intercalate [','] hfields).enclosed ['\x7b'] ['\x7d']
    obtain ⟨rfl, rfl⟩ := hentries _ _ hwritten
    exact ⟨rfl, rfl⟩

/-- Equal documents with one text are the same. -/
theorem compact_eq_iff {left right : Json} (hsame : (left == right) = true) :
    left.compact = right.compact ↔ left = right := by
  refine ⟨fun htext => ?_, fun hequal => by rw [hequal]⟩
  have htexts : compactChars left ++ [] = compactChars right ++ [] := by
    rw [List.append_nil, List.append_nil]
    exact String.ofList_injective htext
  exact (congruence_compactChars.rel_of_same hsame _ _ htexts).1

/-- Equal documents are the same as soon as their zeros have the same signs. -/
theorem zeroSigns_eq_iff {left right : Json} (hsame : (left == right) = true) :
    left.zeroSigns = right.zeroSigns ↔ left = right := by
  refine ⟨fun hsigns => ?_, fun hequal => by rw [hequal]⟩
  exact (congruence_zeroSigns.rel_of_same hsame [] [] (by rw [hsigns])).1

/-- Equal documents have their zeros at the same places. So without negative zeros they are the same. -/
theorem zeroSigns_eq_of_not_mem {left right : Json} (hsame : (left == right) = true)
    (hleft : true ∉ left.zeroSigns) (hright : true ∉ right.zeroSigns) :
    left.zeroSigns = right.zeroSigns := by
  have hnone {signs : List Bool} (hpositive : true ∉ signs) :
      signs = List.replicate signs.length false := by
    refine List.eq_replicate_length.2 fun sign hsign => ?_
    cases sign with
    | false => rfl
    | true => exact absurd hsign hpositive
  rw [hnone hleft, hnone hright, congruence_length_zeroSigns.rel_of_same hsame]

end Json

end TransitionEngine

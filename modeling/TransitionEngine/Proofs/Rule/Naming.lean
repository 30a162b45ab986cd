import TransitionEngine.Proofs.Rule.Remaking

/-!
# The names of instances

The instance of a single rule has the name that was declared. The names of the instances of a family are
generated, from the name of the family and the position of the instance. Both can be read off a generated
name, the position from behind, so families of different names never generate the same one, however large
they become. A single rule, though, may be declared by a name that a family generates.
-/

namespace TransitionEngine

variable {Outside : Type}

/-- The name that a family generates for its instance at this position. -/
def instanceName (family : String) (position : Nat) : String :=
  family ++ "(" ++ toString position ++ ")"

/-- No digit is an opening parenthesis, so from behind the position ends where the first of these stands. -/
theorem takeWhile_reverse_instanceName (family : String) (position : Nat) :
    (instanceName family position).toList.reverse.takeWhile (· ≠ '(') =
      ')' :: (toString position).toList.reverse := by
  have hreverse : (instanceName family position).toList.reverse =
      (')' :: (toString position).toList.reverse) ++ '(' :: family.toList.reverse := by
    simp [instanceName]
  have hdigits : ∀ letter ∈ ')' :: (toString position).toList.reverse,
      decide (letter ≠ '(') = true := by
    refine List.forall_mem_cons.2 ⟨by decide, fun letter hmem => ?_⟩
    rw [List.mem_reverse, Nat.toString_eq_repr, Nat.toList_repr] at hmem
    have hdigit := Nat.isDigit_of_mem_toDigits (by decide) (by decide) hmem
    refine decide_eq_true fun hparenthesis => ?_
    rw [hparenthesis] at hdigit
    exact absurd hdigit (by decide)
  rw [hreverse, List.takeWhile_append_of_pos hdigits]
  simp

/-- A generated name tells its family and its position. -/
theorem instanceName_inj {family other : String} {position index : Nat} :
    instanceName family position = instanceName other index ↔ family = other ∧ position = index := by
  constructor
  · intro hsame
    have hdigits := takeWhile_reverse_instanceName family position
    rw [hsame, takeWhile_reverse_instanceName] at hdigits
    have hdigits : Nat.toDigits 10 index = Nat.toDigits 10 position := by
      simpa only [List.cons.injEq, true_and, List.reverse_inj, Nat.toString_eq_repr,
        Nat.toList_repr] using hdigits
    have hposition : position = index := by
      calc
        position = Nat.ofDigitChars 10 (Nat.toDigits 10 position) 0 :=
          Nat.ofDigitChars_ten_toDigits.symm
        _ = Nat.ofDigitChars 10 (Nat.toDigits 10 index) 0 := by rw [hdigits]
        _ = index := Nat.ofDigitChars_ten_toDigits
    subst hposition
    exact ⟨by simpa [instanceName] using hsame, rfl⟩
  · rintro ⟨rfl, rfl⟩
    rfl

namespace RuleDeclaration

def isFamily (declared : RuleDeclaration Outside) : Bool :=
  match declared.body with
  | .single _ => false
  | .family _ _ => true

/-- The name of the instance at this position, if the declared rule can have one there. -/
def nameAt? (declared : RuleDeclaration Outside) (position : Nat) : Option String :=
  match declared.body with
  | .single _ => if position = 0 then some declared.name else none
  | .family _ _ => some (instanceName declared.name position)

/-- A single rule was declared by a name that a family generates at some position. -/
def IsAmbiguous (rules : List (RuleDeclaration Outside)) (name : String) : Prop :=
  (∃ single ∈ rules, single.isFamily = false ∧ single.name = name) ∧
    ∃ family ∈ rules, family.isFamily = true ∧ ∃ position, instanceName family.name position = name

variable {declared other : RuleDeclaration Outside} {name : String} {position index : Nat}

theorem nameAt?_eq_some_iff :
    declared.nameAt? position = some name ↔
      (declared.isFamily = false ∧ position = 0 ∧ declared.name = name) ∨
        (declared.isFamily = true ∧ instanceName declared.name position = name) := by
  cases hbody : declared.body with
  | single effect => simp [nameAt?, isFamily, hbody]
  | family domain effect => simp [nameAt?, isFamily, hbody]

/-- Different instances of one declared rule have different names. -/
theorem position_eq_of_nameAt? (hname : declared.nameAt? position = some name)
    (hother : declared.nameAt? index = some name) : position = index := by
  rcases nameAt?_eq_some_iff.1 hname with ⟨hsingle, rfl, -⟩ | ⟨hfamily, rfl⟩
  · rcases nameAt?_eq_some_iff.1 hother with ⟨-, rfl, -⟩ | ⟨hfamily, -⟩
    · rfl
    · simp [hsingle] at hfamily
  · rcases nameAt?_eq_some_iff.1 hother with ⟨hsingle, -, -⟩ | ⟨-, hsame⟩
    · simp [hfamily] at hsingle
    · exact (instanceName_inj.1 hsame).2.symm

/-- Instances of rules that were declared by different names share a name only when one of them is that
of a single rule and the other that of a family. -/
theorem isAmbiguous_of_nameAt? {rules : List (RuleDeclaration Outside)} (hmem : declared ∈ rules)
    (hother : other ∈ rules) (hdiffer : declared.name ≠ other.name)
    (hname : declared.nameAt? position = some name) (hsame : other.nameAt? index = some name) :
    IsAmbiguous rules name := by
  rcases nameAt?_eq_some_iff.1 hname with ⟨hsingle, -, rfl⟩ | ⟨hfamily, rfl⟩
  · rcases nameAt?_eq_some_iff.1 hsame with ⟨-, -, heq⟩ | ⟨hfamily, heq⟩
    · exact absurd heq.symm hdiffer
    · exact ⟨⟨declared, hmem, hsingle, rfl⟩, other, hother, hfamily, index, heq⟩
  · rcases nameAt?_eq_some_iff.1 hsame with ⟨hsingle, -, heq⟩ | ⟨-, heq⟩
    · exact ⟨⟨other, hother, hsingle, heq⟩, declared, hmem, hfamily, position, rfl⟩
    · exact absurd (instanceName_inj.1 heq).1.symm hdiffer

end RuleDeclaration

/-- However often a ruleset was made anew, the names of its instances are told by their positions. -/
theorem Ruleset.IsMade.nameAt? {ruleset : Ruleset Outside} (hmade : ruleset.IsMade) {position : Nat}
    {rule : Rule Outside} (hrule : ruleset.rules[position]? = some rule) :
    ruleset.declaration.nameAt? position = some rule.name := by
  obtain ⟨outside, bank, hmade⟩ := hmade
  have hawake : ruleset.awake.rules[position]? = some rule.wake := by
    rw [awake, List.getElem?_map, hrule, Option.map_some]
  rw [← rule.name_wake]
  generalize ruleset.awake = awake, ruleset.declaration = declared at hmade hawake ⊢
  obtain ⟨name, body⟩ := declared
  cases body with
  | single effect =>
      obtain rfl := Except.ok.inj hmade
      rw [List.getElem?_singleton] at hawake
      split at hawake
      · rename_i hposition
        rw [← Option.some.inj hawake]
        exact if_pos hposition
      · cases hawake
  | family domain effect =>
      obtain ⟨elements, -, rfl⟩ := ofDeclaration_family_eq_ok_iff.1 hmade
      rw [List.getElem?_map] at hawake
      obtain ⟨index, hindex, hinstance⟩ := Option.map_eq_some_iff.1 hawake
      obtain ⟨_, hindex⟩ := List.getElem?_eq_some_iff.1 hindex
      have hposition : position = index := by simpa using hindex
      rw [← hinstance, ← hposition]
      rfl

end TransitionEngine

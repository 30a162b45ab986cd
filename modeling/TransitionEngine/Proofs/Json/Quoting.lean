import TransitionEngine.Json.Printer
import TransitionEngine.Json.Reader

/-!
# Reading back what is quoted

What the printer puts between quotes, the reader takes for the text that it was, whatever is behind it. So
no escape makes two texts look alike, and no part of a text is taken for the quote that closes it.
-/

namespace TransitionEngine.Json

namespace Reader

theorem hexValue?_hexDigit {value : Nat} (hvalue : value < 16) :
    hexValue? (hexDigit value) = some value := by
  have hall : ∀ digit < 16, hexValue? (hexDigit digit) = some digit := by decide
  exact hall value hvalue

/-- A control character is given by the last two digits of its code unit. -/
theorem escaped_codeUnit {char : Char} (hcontrol : char.toNat < 0x20) (rest : List Char) :
    escaped ('u' :: '0' :: '0' :: hexDigit (char.toNat / 16) :: hexDigit (char.toNat % 16) :: rest) =
      some (char, rest) := by
  have hzero : hexValue? '0' = some 0 := by decide
  have hhigh : hexValue? (hexDigit (char.toNat / 16)) = some (char.toNat / 16) :=
    hexValue?_hexDigit (by omega)
  have hlow : hexValue? (hexDigit (char.toNat % 16)) = some (char.toNat % 16) :=
    hexValue?_hexDigit (by omega)
  have hunit : codeUnit ('0' :: '0' :: hexDigit (char.toNat / 16) :: hexDigit (char.toNat % 16) ::
      rest) = some (char.toNat, rest) := by
    simp only [codeUnit, hzero, hhigh, hlow, Option.bind_eq_bind, Option.bind_some]
    congr 2
    omega
  rw [escaped, escapedUnit, hunit]
  simp only [Option.bind_eq_bind, Option.bind_some]
  -- The code unit is below all surrogates.
  rw [if_neg (by omega), if_neg (by omega), Char.ofNat_toNat]

theorem stringBody_escape (fuel : Nat) (char : Char) (rest read : List Char) :
    stringBody (fuel + 1) (escape char ++ rest) read = stringBody fuel rest (char :: read) := by
  unfold escape
  split
  case h_8 hquote hbackslash _ _ _ _ _ =>
    split
    · rename_i hcontrol
      simp only [List.cons_append, List.nil_append, stringBody, escaped_codeUnit hcontrol,
        Option.bind_eq_bind, Option.bind_some]
    · rename_i hplain
      simp only [List.singleton_append, stringBody, if_neg hplain]
  all_goals rfl

theorem stringBody_escapes (chars rest : List Char) : ∀ (fuel : Nat) (read : List Char),
    chars.length < fuel →
      stringBody fuel (chars.flatMap escape ++ '"' :: rest) read =
        some (String.ofList (read.reverse ++ chars), rest) := by
  induction chars with
  | nil =>
      intro fuel read hfuel
      obtain ⟨fuel, rfl⟩ := Nat.exists_eq_succ_of_ne_zero (Nat.ne_of_gt hfuel)
      rw [List.flatMap_nil, List.nil_append, stringBody, List.append_nil]
  | cons char chars ih =>
      intro fuel read hfuel
      obtain ⟨fuel, rfl⟩ := Nat.exists_eq_succ_of_ne_zero (Nat.ne_of_gt (Nat.zero_lt_of_lt hfuel))
      rw [List.flatMap_cons, List.append_assoc, stringBody_escape,
        ih fuel (char :: read) (Nat.lt_of_succ_lt_succ hfuel), List.reverse_cons, List.append_assoc,
        List.singleton_append]

theorem length_escape_pos (char : Char) : 0 < (escape char).length := by
  unfold escape
  split
  case h_8 => split <;> exact Nat.succ_pos _
  all_goals exact Nat.succ_pos _

theorem length_le_length_escapes (chars : List Char) :
    chars.length ≤ (chars.flatMap escape).length := by
  induction chars with
  | nil => exact Nat.le_refl 0
  | cons char chars ih =>
      have hchar := length_escape_pos char
      rw [List.flatMap_cons, List.length_append, List.length_cons]
      omega

/-- The reader takes a quoted text off the front, and leaves what is behind it. -/
theorem string_quoted (text : String) (rest : List Char) :
    string (quoted text ++ rest) = some (text, rest) := by
  have hlength := length_le_length_escapes text.toList
  rw [quoted, List.cons_append, List.append_assoc, List.singleton_append, string,
    stringBody_escapes, List.reverse_nil, List.nil_append, String.ofList_toList]
  rw [List.length_append]
  omega

end Reader

theorem quoted_append_inj {left right : String} {rest others : List Char}
    (hwritten : quoted left ++ rest = quoted right ++ others) : left = right ∧ rest = others := by
  have hread := Reader.string_quoted left rest
  rw [hwritten, Reader.string_quoted right others] at hread
  obtain ⟨rfl, rfl⟩ := Prod.mk.inj (Option.some.inj hread)
  exact ⟨rfl, rfl⟩

end TransitionEngine.Json

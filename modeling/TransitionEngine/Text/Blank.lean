/-!
# Blank text

The blank characters are those with the Unicode property `White_Space`.
-/

namespace TransitionEngine.Text

def blankRanges : List (Nat × Nat) :=
  [(0x9, 0xd), (0x20, 0x20), (0x85, 0x85), (0xa0, 0xa0), (0x1680, 0x1680), (0x2000, 0x200a),
    (0x2028, 0x2029), (0x202f, 0x202f), (0x205f, 0x205f), (0x3000, 0x3000)]

def isBlankChar (char : Char) : Bool :=
  blankRanges.any fun (first, last) => first ≤ char.toNat && char.toNat ≤ last

def isBlank (text : String) : Bool :=
  text.toList.all isBlankChar

theorem isBlankChar_of_isWhitespace {char : Char} (hspace : char.isWhitespace = true) :
    isBlankChar char = true := by
  simp only [Char.isWhitespace, Bool.or_eq_true, decide_eq_true_eq] at hspace
  rcases hspace with ((rfl | rfl) | rfl) | rfl <;> decide

end TransitionEngine.Text

import TransitionEngine.Proofs.Json.Integral
import TransitionEngine.Proofs.Json.Quoting
import TransitionEngine.Proofs.Json.Zeros

/-!
# The canonical text tells the document

A number ends only where no digit follows; everything else in the text of a document is closed by itself.
So documents without doubles are told apart by their texts wherever they end or a separator or a bracket
follows, as is the case inside of other documents.
-/

namespace TransitionEngine

namespace Json

/-! ### Numbers -/

/-- What is behind does not begin with a digit, with which a number would go on. -/
def NoDigitFirst (rest : List Char) : Prop :=
  ∀ char ∈ rest.head?, char.isDigit = false

theorem noDigitFirst_nil : NoDigitFirst [] :=
  nofun

theorem noDigitFirst_cons {char : Char} (rest : List Char) (hchar : char.isDigit = false) :
    NoDigitFirst (char :: rest) := by
  rintro _ ⟨⟩
  exact hchar

theorem takeWhile_toDigits_append (number : Nat) {rest : List Char} (hrest : NoDigitFirst rest) :
    (Nat.toDigits 10 number ++ rest).takeWhile Char.isDigit = Nat.toDigits 10 number := by
  have hdigits : ∀ char ∈ Nat.toDigits 10 number, char.isDigit = true :=
    fun _ hmem => Nat.isDigit_of_mem_toDigits (by decide) (by decide) hmem
  rw [List.takeWhile_append_of_pos hdigits]
  cases rest with
  | nil => rw [List.takeWhile_nil, List.append_nil]
  | cons char rest => simp [hrest char rfl]

theorem toDigits_append_inj {left right : Nat} {rest others : List Char}
    (hrest : NoDigitFirst rest) (hothers : NoDigitFirst others)
    (hwritten : Nat.toDigits 10 left ++ rest = Nat.toDigits 10 right ++ others) :
    left = right ∧ rest = others := by
  have hdigits : Nat.toDigits 10 left = Nat.toDigits 10 right := by
    rw [← takeWhile_toDigits_append left hrest, hwritten, takeWhile_toDigits_append right hothers]
  have hsame : left = right := by
    calc
      left = Nat.ofDigitChars 10 (Nat.toDigits 10 left) 0 := Nat.ofDigitChars_ten_toDigits.symm
      _ = Nat.ofDigitChars 10 (Nat.toDigits 10 right) 0 := by rw [hdigits]
      _ = right := Nat.ofDigitChars_ten_toDigits
  subst hsame
  exact ⟨rfl, List.append_cancel_left hwritten⟩

theorem exists_digit (number : Nat) :
    ∃ digit digits, Nat.toDigits 10 number = digit :: digits ∧ digit.isDigit = true := by
  cases hdigits : Nat.toDigits 10 number with
  | nil => exact absurd hdigits Nat.toDigits_ne_nil
  | cons digit digits =>
      have hmem : digit ∈ Nat.toDigits 10 number := hdigits ▸ List.mem_cons_self
      exact ⟨digit, digits, rfl, Nat.isDigit_of_mem_toDigits (by decide) (by decide) hmem⟩

theorem toDigits_append_ne_minus (number : Nat) (rest others : List Char) :
    Nat.toDigits 10 number ++ rest ≠ '-' :: others := by
  intro hwritten
  obtain ⟨digit, digits, hdigits, hdigit⟩ := exists_digit number
  rw [hdigits] at hwritten
  rw [(List.cons.inj hwritten).1] at hdigit
  cases hdigit

theorem toList_toString_ofNat (number : Nat) :
    (toString (Int.ofNat number)).toList = Nat.toDigits 10 number := by
  rw [Int.toString_eq_repr, Int.repr_eq_if]
  simp [Nat.toList_repr]

theorem toList_toString_negSucc (number : Nat) :
    (toString (Int.negSucc number)).toList = '-' :: Nat.toDigits 10 (number + 1) := by
  rw [Int.toString_eq_repr, Int.repr_eq_if]
  simp [Nat.toList_repr]

/-! ### Entries between brackets -/

theorem intercalate_cons (separator : Char) (first : List Char) (rest : List (List Char)) :
    [separator].intercalate (first :: rest) = first ++ rest.flatMap (separator :: ·) := by
  induction rest generalizing first with
  | nil => simp
  | cons second rest ih =>
      rw [List.intercalate_cons_cons, ih, List.flatMap_cons, List.append_assoc, List.singleton_append,
        List.cons_append]

section Entries

variable {α : Type} {write : α → List Char} {closing : Char}

theorem enclosed_cons (entry : α) (entries : List α) (rest : List Char) :
    [','].intercalate ((entry :: entries).map write) ++ closing :: rest =
      write entry ++ (entries.flatMap (',' :: write ·) ++ closing :: rest) := by
  rw [List.map_cons, intercalate_cons, List.flatMap_map, List.append_assoc]

theorem noDigitFirst_flatMap (hclosing : closing.isDigit = false) (entries : List α)
    (rest : List Char) : NoDigitFirst (entries.flatMap (',' :: write ·) ++ closing :: rest) := by
  cases entries with
  | nil => exact noDigitFirst_cons _ hclosing
  | cons entry entries => exact noDigitFirst_cons _ (by decide)

/-- The text begins, and not with this character. -/
def BeginsWithout (closing : Char) (text : List Char) : Prop :=
  ∃ first rest, text = first :: rest ∧ first ≠ closing

theorem BeginsWithout.append_ne {text : List Char} (hbegins : BeginsWithout closing text)
    (rest others : List Char) : text ++ rest ≠ closing :: others := by
  obtain ⟨first, text, rfl, hfirst⟩ := hbegins
  intro hwritten
  exact hfirst (List.cons.inj hwritten).1

end Entries

/-- What is written for the two tells which they are and what is behind, if that begins with no digit. -/
def TellsDelimited {α : Type} (write : α → List Char) (left right : α) : Prop :=
  ∀ rest others, NoDigitFirst rest → NoDigitFirst others →
    write left ++ rest = write right ++ others → left = right ∧ rest = others

namespace TellsDelimited

section Entries

variable {α : Type} {write : α → List Char} {closing : Char} {left right : List α}
  {rest others : List Char}

theorem flatMap (hclosing : closing.isDigit = false) (hcomma : closing ≠ ',')
    (htells : ∀ entry ∈ left, ∀ other ∈ right, TellsDelimited write entry other)
    (hwritten : left.flatMap (',' :: write ·) ++ closing :: rest =
      right.flatMap (',' :: write ·) ++ closing :: others) :
    left = right ∧ rest = others := by
  induction left generalizing right with
  | nil =>
      cases right with
      | nil => exact ⟨rfl, (List.cons.inj hwritten).2⟩
      | cons other right => exact absurd (List.cons.inj hwritten).1 hcomma
  | cons entry left ih =>
      cases right with
      | nil => exact absurd (List.cons.inj hwritten).1.symm hcomma
      | cons other right =>
          rw [List.flatMap_cons, List.flatMap_cons, List.append_assoc, List.append_assoc] at hwritten
          obtain ⟨rfl, hbehind⟩ := htells entry List.mem_cons_self other List.mem_cons_self _ _
            (noDigitFirst_flatMap hclosing left rest) (noDigitFirst_flatMap hclosing right others)
            (List.cons.inj hwritten).2
          obtain ⟨rfl, rfl⟩ := ih (fun entry hentry other hother =>
            htells entry (List.mem_cons_of_mem _ hentry) other (List.mem_cons_of_mem _ hother)) hbehind
          exact ⟨rfl, rfl⟩

/-- The bracket is told from a separator, and from the first entry if no entry begins with it. -/
theorem enclosed (hclosing : closing.isDigit = false) (hcomma : closing ≠ ',')
    (hleft : ∀ entry ∈ left, BeginsWithout closing (write entry))
    (hright : ∀ entry ∈ right, BeginsWithout closing (write entry))
    (htells : ∀ entry ∈ left, ∀ other ∈ right, TellsDelimited write entry other)
    (hwritten : [','].intercalate (left.map write) ++ closing :: rest =
      [','].intercalate (right.map write) ++ closing :: others) :
    left = right ∧ rest = others := by
  cases left with
  | nil =>
      cases right with
      | nil => exact ⟨rfl, (List.cons.inj hwritten).2⟩
      | cons other right =>
          rw [enclosed_cons] at hwritten
          exact absurd hwritten.symm ((hright other List.mem_cons_self).append_ne _ _)
  | cons entry left =>
      cases right with
      | nil =>
          rw [enclosed_cons] at hwritten
          exact absurd hwritten ((hleft entry List.mem_cons_self).append_ne _ _)
      | cons other right =>
          rw [enclosed_cons, enclosed_cons] at hwritten
          refine flatMap hclosing hcomma htells ?_
          rw [List.flatMap_cons, List.flatMap_cons, List.append_assoc, List.append_assoc]
          exact congrArg (',' :: ·) hwritten

end Entries

/-! ### One kind of documents -/

theorem bool (left right : Bool) : TellsDelimited compactChars (.bool left) (.bool right) := by
  intro rest others _ _ hwritten
  cases left <;> cases right
  · exact ⟨rfl, List.append_cancel_left hwritten⟩
  · exact absurd (List.head_eq_of_cons_eq hwritten) (by decide)
  · exact absurd (List.head_eq_of_cons_eq hwritten) (by decide)
  · exact ⟨rfl, List.append_cancel_left hwritten⟩

theorem int (left right : Int) : TellsDelimited compactChars (.int left) (.int right) := by
  intro rest others hrest hothers hwritten
  rw [compactChars, compactChars] at hwritten
  cases left with
  | ofNat left =>
      cases right with
      | ofNat right =>
          rw [toList_toString_ofNat, toList_toString_ofNat] at hwritten
          obtain ⟨rfl, rfl⟩ := toDigits_append_inj hrest hothers hwritten
          exact ⟨rfl, rfl⟩
      | negSucc right =>
          rw [toList_toString_ofNat, toList_toString_negSucc] at hwritten
          exact absurd hwritten (toDigits_append_ne_minus left rest _)
  | negSucc left =>
      cases right with
      | ofNat right =>
          rw [toList_toString_ofNat, toList_toString_negSucc] at hwritten
          exact absurd hwritten.symm (toDigits_append_ne_minus right others _)
      | negSucc right =>
          rw [toList_toString_negSucc, toList_toString_negSucc] at hwritten
          obtain ⟨hsame, rfl⟩ := toDigits_append_inj hrest hothers (List.cons.inj hwritten).2
          obtain rfl := Nat.succ.inj hsame
          exact ⟨rfl, rfl⟩

theorem str (left right : String) : TellsDelimited compactChars (.str left) (.str right) := by
  intro rest others _ _ hwritten
  rw [compactChars, compactChars] at hwritten
  obtain ⟨rfl, rfl⟩ := quoted_append_inj hwritten
  exact ⟨rfl, rfl⟩

theorem arr {left right : List Json}
    (hleft : ∀ item ∈ left, BeginsWithout ']' item.compactChars)
    (hright : ∀ item ∈ right, BeginsWithout ']' item.compactChars)
    (htells : ∀ item ∈ left, ∀ other ∈ right, TellsDelimited compactChars item other) :
    TellsDelimited compactChars (.arr left) (.arr right) := by
  intro rest others _ _ hwritten
  rw [compactChars, compactChars, itemTexts_eq, itemTexts_eq, List.cons_append, List.cons_append,
    List.append_assoc, List.append_assoc] at hwritten
  obtain ⟨rfl, rfl⟩ :=
    enclosed (by decide) (by decide) hleft hright htells (List.cons.inj hwritten).2
  exact ⟨rfl, rfl⟩

theorem field {field other : String × Json}
    (hcontent : TellsDelimited compactChars field.2 other.2) :
    TellsDelimited (fun field => (quoted field.1 ++ [':']) ++ compactChars field.2) field other := by
  obtain ⟨name, content⟩ := field
  obtain ⟨name', content'⟩ := other
  intro rest others hrest hothers hwritten
  simp only [List.append_assoc] at hwritten
  obtain ⟨rfl, hbehind⟩ := quoted_append_inj hwritten
  obtain ⟨rfl, rfl⟩ := hcontent _ _ hrest hothers (List.append_cancel_left hbehind)
  exact ⟨rfl, rfl⟩

theorem obj {left right : List (String × Json)}
    (htells : ∀ field ∈ left, ∀ other ∈ right, TellsDelimited compactChars field.2 other.2) :
    TellsDelimited compactChars (.obj left) (.obj right) := by
  intro rest others _ _ hwritten
  rw [compactChars, compactChars, fieldTexts_eq, fieldTexts_eq, List.cons_append, List.cons_append,
    List.append_assoc, List.append_assoc] at hwritten
  -- A field begins with the quote before its name.
  have hbegins (field : String × Json) :
      BeginsWithout '\x7d' ((quoted field.1 ++ [':']) ++ compactChars field.2) :=
    ⟨_, _, rfl, by decide⟩
  obtain ⟨rfl, rfl⟩ := enclosed (by decide) (by decide) (fun field _ => hbegins field)
    (fun other _ => hbegins other)
    (fun field hfield other hother => .field (htells field hfield other hother))
    (List.cons.inj hwritten).2
  exact ⟨rfl, rfl⟩

end TellsDelimited

/-! ### Documents of different kinds -/

inductive Kind where
  | null
  | bool
  | number
  | text
  | array
  | object

def kind : Json → Kind
  | .null => .null
  | .bool _ => .bool
  | .int _ | .double _ => .number
  | .str _ => .text
  | .arr _ => .array
  | .obj _ => .object

/-- The kind of the documents that begin with the character. -/
def Kind.ofChar? (char : Char) : Option Kind :=
  match char with
  | 'n' => some .null
  | 't' | 'f' => some .bool
  | '"' => some .text
  | '[' => some .array
  | '\x7b' => some .object
  | '-' => some .number
  | _ => if char.isDigit then some .number else none

theorem Kind.ofChar?_of_isDigit {char : Char} (hdigit : char.isDigit = true) :
    ofChar? char = some .number := by
  unfold ofChar?
  split
  case h_8 => exact if_pos hdigit
  all_goals first | rfl | cases hdigit

section Documents

variable {document left right : Json}

theorem exists_first (hintegral : document.isIntegral = true) :
    ∃ first text, document.compactChars = first :: text ∧
      Kind.ofChar? first = some document.kind := by
  cases document with
  | null | str _ | arr _ | obj _ => exact ⟨_, _, rfl, rfl⟩
  | bool value => cases value <;> exact ⟨_, _, rfl, rfl⟩
  | int value =>
      rw [compactChars]
      cases value with
      | ofNat number =>
          rw [toList_toString_ofNat]
          obtain ⟨digit, digits, hdigits, hdigit⟩ := exists_digit number
          exact ⟨digit, digits, hdigits, Kind.ofChar?_of_isDigit hdigit⟩
      | negSucc number =>
          rw [toList_toString_negSucc]
          exact ⟨_, _, rfl, rfl⟩
  | double _ => cases hintegral

theorem beginsWithout_of_isIntegral {closing : Char} (hclosing : Kind.ofChar? closing = none)
    (hintegral : document.isIntegral = true) : BeginsWithout closing document.compactChars := by
  obtain ⟨first, text, htext, hfirst⟩ := exists_first hintegral
  refine ⟨first, text, htext, ?_⟩
  rintro rfl
  rw [hclosing] at hfirst
  cases hfirst

theorem kind_eq_of_written (hleft : left.isIntegral = true) (hright : right.isIntegral = true)
    {rest others : List Char} (hwritten : left.compactChars ++ rest = right.compactChars ++ others) :
    left.kind = right.kind := by
  obtain ⟨first, text, htext, hfirst⟩ := exists_first hleft
  obtain ⟨other, behind, hother, hkind⟩ := exists_first hright
  rw [htext, hother] at hwritten
  rw [(List.cons.inj hwritten).1, hkind] at hfirst
  exact (Option.some.inj hfirst).symm

/-- Documents of different kinds are told apart by the first character. -/
theorem TellsDelimited.of_kind (hleft : left.isIntegral = true) (hright : right.isIntegral = true)
    (htells : left.kind = right.kind → TellsDelimited compactChars left right) :
    TellsDelimited compactChars left right :=
  fun rest others hrest hothers hwritten =>
    htells (kind_eq_of_written hleft hright hwritten) rest others hrest hothers hwritten

mutual

theorem tells_of_isIntegral : ∀ {left right : Json}, left.isIntegral = true →
    right.isIntegral = true → left.kind = right.kind → TellsDelimited compactChars left right
  | .null, .null, _, _, _ => fun _ _ _ _ hwritten => ⟨rfl, List.append_cancel_left hwritten⟩
  | .bool left, .bool right, _, _, _ => .bool left right
  | .int left, .int right, _, _, _ => .int left right
  | .str left, .str right, _, _, _ => .str left right
  | .arr _, .arr _, hleft, hright, _ => by
      have hbegins {items : List Json} (hitems : areIntegral items = true) (item : Json)
          (hitem : item ∈ items) : BeginsWithout ']' item.compactChars :=
        beginsWithout_of_isIntegral (by rfl) (areIntegral_iff.1 hitems item hitem)
      exact .arr (hbegins hleft) (hbegins hright) fun item hitem other hother =>
        tells_of_areIntegral hleft item hitem (areIntegral_iff.1 hright other hother)
  | .obj _, .obj _, hleft, hright, _ =>
      .obj fun field hfield other hother =>
        tells_of_fieldsAreIntegral hleft field hfield (fieldsAreIntegral_iff.1 hright other hother)

theorem tells_of_areIntegral : ∀ {items : List Json}, areIntegral items = true → ∀ item ∈ items,
    ∀ {other : Json}, other.isIntegral = true → TellsDelimited compactChars item other
  | [], _ => List.forall_mem_nil _
  | _ :: _, hintegral => by
      obtain ⟨hitem, hrest⟩ := Bool.and_eq_true_iff.1 hintegral
      refine List.forall_mem_cons.2 ⟨fun hother => ?_, tells_of_areIntegral hrest⟩
      exact .of_kind hitem hother (tells_of_isIntegral hitem hother)

theorem tells_of_fieldsAreIntegral : ∀ {fields : List (String × Json)},
    fieldsAreIntegral fields = true → ∀ field ∈ fields,
      ∀ {other : Json}, other.isIntegral = true → TellsDelimited compactChars field.2 other
  | [], _ => List.forall_mem_nil _
  | (_, _) :: _, hintegral => by
      obtain ⟨hcontent, hrest⟩ := Bool.and_eq_true_iff.1 hintegral
      refine List.forall_mem_cons.2 ⟨fun hother => ?_, tells_of_fieldsAreIntegral hrest⟩
      exact .of_kind hcontent hother (tells_of_isIntegral hcontent hother)

end

/-- Documents without doubles are the same if their texts are. -/
theorem compact_inj (hleft : left.isIntegral = true) (hright : right.isIntegral = true) :
    left.compact = right.compact ↔ left = right := by
  refine ⟨fun htext => ?_, fun hequal => by rw [hequal]⟩
  have htexts : compactChars left ++ [] = compactChars right ++ [] := by
    rw [List.append_nil, List.append_nil]
    exact String.ofList_injective htext
  have htells := TellsDelimited.of_kind hleft hright (tells_of_isIntegral hleft hright)
  exact (htells [] [] noDigitFirst_nil noDigitFirst_nil htexts).1

end Documents

end Json

end TransitionEngine

import TransitionEngine.Proofs.Changeset
import TransitionEngine.Proofs.Json.Zeros

/-!
# Fingerprints of equal states

States are equal when a comparison finds nothing changed between them. Then they are the same but for the
signs of zeros, which the comparison does not see. The fingerprint does, as they are part of the text.
-/

namespace TransitionEngine.SavedState

/-- Nothing changes between two states exactly when they are equal. Equal states have the same canonical
text exactly when their zeros have the same signs, as is always so without negative zeros, and then they
have the same fingerprint. -/
theorem equal_states_hash_equally (left right : SavedState) :
    ((Changeset.between left right).isEmpty = true ↔ (left == right) = true) ∧
      ((left == right) = true →
        (left.toJson.compact = right.toJson.compact ↔
            left.toJson.zeroSigns = right.toJson.zeroSigns) ∧
          (left.toJson.zeroSigns = right.toJson.zeroSigns → left.fingerprint = right.fingerprint) ∧
          (true ∉ left.toJson.zeroSigns → true ∉ right.toJson.zeroSigns →
            left.fingerprint = right.fingerprint)) := by
  refine ⟨Changeset.isEmpty_between_iff_beq, fun hsame => ?_⟩
  have hdocuments : (left.toJson == right.toJson) = true := hsame
  have hsigns : left.toJson.zeroSigns = right.toJson.zeroSigns →
      left.fingerprint = right.fingerprint := by
    intro hsigns
    rw [fingerprint, fingerprint, (Json.zeroSigns_eq_iff hdocuments).1 hsigns]
  refine ⟨?_, hsigns, fun hleft hright => ?_⟩
  · rw [Json.compact_eq_iff hdocuments, Json.zeroSigns_eq_iff hdocuments]
  · exact hsigns (Json.zeroSigns_eq_of_not_mem hdocuments hleft hright)

def gauge (level : Double) : SavedState :=
  ofEntries [("level", .double level), ("count", .int 3)]

/-- The order of the entries does not matter, but the sign of a zero does. -/
theorem equal_states_hash_equally_gauge :
    (gauge .zero).fingerprint =
        (ofEntries [("count", .int 3), ("level", .double .zero)]).fingerprint ∧
      (gauge .negativeZero).fingerprint =
        (ofEntries [("count", .int 3), ("level", .double .negativeZero)]).fingerprint ∧
      (Changeset.between (gauge .zero) (gauge .negativeZero)).isEmpty = true ∧
      (gauge .zero).toJson.compact ≠ (gauge .negativeZero).toJson.compact := by
  obtain ⟨-, hpositive⟩ := equal_states_hash_equally (gauge .zero)
    (ofEntries [("count", .int 3), ("level", .double .zero)])
  obtain ⟨-, -, hpositive⟩ := hpositive rfl
  obtain ⟨-, hnegative⟩ := equal_states_hash_equally (gauge .negativeZero)
    (ofEntries [("count", .int 3), ("level", .double .negativeZero)])
  obtain ⟨-, hnegative, -⟩ := hnegative rfl
  obtain ⟨hempty, hdiffer⟩ := equal_states_hash_equally (gauge .zero) (gauge .negativeZero)
  obtain ⟨htext, -⟩ := hdiffer rfl
  refine ⟨hpositive (by decide) (by decide), hnegative rfl, hempty.2 rfl, ?_⟩
  exact fun hsame => absurd (htext.1 hsame) (by decide)

/-- Two states between which nothing changes may have different fingerprints. -/
theorem equal_states_hash_differently :
    (gauge .zero == gauge .negativeZero) = true ∧
      (Changeset.between (gauge .zero) (gauge .negativeZero)).isEmpty = true ∧
      (gauge .zero).toJson.compact ≠ (gauge .negativeZero).toJson.compact ∧
      (gauge .zero).fingerprint ≠ (gauge .negativeZero).fingerprint := by
  exact ⟨rfl, rfl, by decide, by decide +kernel⟩

end TransitionEngine.SavedState

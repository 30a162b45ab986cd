import TransitionEngine.Rule
import TransitionEngine.Selector.ChaCha

/-!
# Selectors

A selector picks one of the active rules, given as candidates in the order of their ids, or stops. It
may keep a state from one pick to the next.
-/

namespace TransitionEngine

abbrev Selector (Outside State : Type) :=
  State → List RuleId → List (Ruleset Outside) → Option RuleId × State

namespace Selector

variable {Outside : Type}

/-- Picks the first candidate after the previous pick, or the first of all. -/
def roundRobin : Selector Outside (Option RuleId) := fun last candidates _ =>
  let following := last.bind fun last => candidates.find? (last.before ·)
  match following.or candidates.head? with
  | some next => (some next, some next)
  | none => (none, last)

/-- The state of a seeded selector: how many words of its stream it has taken. -/
structure Seeded where
  seed : UInt64
  position : Nat
  deriving DecidableEq

namespace Seeded

def start (seed : UInt64) : Seeded :=
  ⟨seed, 0⟩

/-- Scales a word to a position among `count`. Words that would favour some positions are passed
over; the fuel bounds how many, after which the next word counts whatever it is. -/
def draw (key : Words 8) (count : Nat) (position : Nat) : Nat → Nat × Nat
  | 0 => ((ChaCha.word key position).toNat * count / UInt32.size, position + 1)
  | fuel + 1 =>
      let scaled := (ChaCha.word key position).toNat * count
      let zone := count <<< (31 - count.log2) - 1
      if scaled % UInt32.size ≤ zone then (scaled / UInt32.size, position + 1)
      else draw key count (position + 1) fuel

theorem draw_lt (key : Words 8) {count : Nat} (position fuel : Nat) (hcount : 0 < count) :
    (draw key count position fuel).1 < count := by
  have hscaled (position : Nat) :
      (ChaCha.word key position).toNat * count / UInt32.size < count := by
    have hword := (ChaCha.word key position).toNat_lt
    exact Nat.div_lt_of_lt_mul (Nat.mul_lt_mul_of_pos_right hword hcount)
  induction fuel generalizing position with
  | zero => exact hscaled position
  | succ fuel ih =>
      simp only [draw]
      split
      · exact hscaled position
      · exact ih _

end Seeded

/-- Picks a candidate at random, each alike. Without candidates no word of the stream is taken. -/
def seeded : Selector Outside Seeded := fun state candidates _ =>
  if candidates.isEmpty then (none, state)
  else
    let (pick, position) :=
      Seeded.draw (ChaCha.keyOfSeed state.seed) candidates.length state.position 256
    (candidates[pick]?, { state with position })

/-- Follows a list of picks, whatever the candidates are, and stops at its end. -/
def listed : Selector Outside (List (Option RuleId)) := fun picks _ _ =>
  match picks with
  | [] => (none, [])
  | pick :: rest => (pick, rest)

end Selector

end TransitionEngine

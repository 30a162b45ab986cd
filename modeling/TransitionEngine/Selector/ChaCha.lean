import TransitionEngine.Words

/-!
# A seeded stream of words

The stream of the ChaCha cipher with twelve rounds, read word by word: the word at a position is part
of the block that its position falls into. A small seed is spread over the key by a permuted
congruential generator.
-/

namespace TransitionEngine.ChaCha

def constants : Words 4 :=
  #v[0x61707865, 0x3320646e, 0x79622d32, 0x6b206574]

def turns : Words.Turns := ⟨16, 12, 8, 7⟩

def doubleRound (state : Words 16) : Words 16 :=
  Words.mixSquare turns state (Vector.replicate 16 0)

def doubleRounds : Nat → Words 16 → Words 16
  | 0, state => state
  | count + 1, state => doubleRounds count (doubleRound state)

/-- The block of this number: a 64-bit counter follows the key, and the nonce is zero. -/
def block (key : Words 8) (number : UInt64) : Words 16 :=
  let start : Words 16 :=
    constants ++ key ++ #v[number.toUInt32, (number >>> 32).toUInt32, 0, 0]
  Vector.zipWith (· + ·) start (doubleRounds 6 start)

def word (key : Words 8) (position : Nat) : UInt32 :=
  (block key (position / 16).toUInt64).get ⟨position % 16, Nat.mod_lt _ (by decide)⟩

def advance (state : UInt64) : UInt64 :=
  state * 6364136223846793005 + 11634580027462260723

/-- The word that a state of the seed generator gives out. -/
def output (state : UInt64) : UInt32 :=
  let shifted := (((state >>> 18) ^^^ state) >>> 27).toUInt32
  let amount := (state >>> 59).toUInt32
  (shifted >>> amount) ||| (shifted <<< ((32 - amount) % 32))

def states : Nat → UInt64 → List UInt64
  | 0, _ => []
  | count + 1, state => advance state :: states count (advance state)

def keyOfSeed (seed : UInt64) : Words 8 :=
  let words := (states 8 seed).map output
  Vector.ofFn fun i : Fin 8 => words[i]?.getD 0

end TransitionEngine.ChaCha

/-!
# Mixing words

A hash and a stream cipher both stir sixteen words by additions, exclusive ors and rotations, first
down the four columns of a square and then along its diagonals. They differ in how far they rotate
and in whether words of a block are added on the way.
-/

namespace TransitionEngine

abbrev Words (count : Nat) := Vector UInt32 count

namespace Words

def rotateLeft (word amount : UInt32) : UInt32 :=
  (word <<< amount) ||| (word >>> (32 - amount))

/-- How far the four steps of a mixing rotate to the left, each by less than a word. -/
structure Turns where
  first : UInt32
  second : UInt32
  third : UInt32
  fourth : UInt32

def mix (turns : Turns) (state : Words 16) (a b c d : Fin 16) (early late : UInt32) : Words 16 :=
  let va := state[a] + state[b] + early
  let vd := rotateLeft (state[d] ^^^ va) turns.first
  let vc := state[c] + vd
  let vb := rotateLeft (state[b] ^^^ vc) turns.second
  let va := va + vb + late
  let vd := rotateLeft (vd ^^^ va) turns.third
  let vc := vc + vd
  let vb := rotateLeft (vb ^^^ vc) turns.fourth
  (((state.set a va).set b vb).set c vc).set d vd

/-- A mixing of each column and then of each diagonal, which takes in two words of the block each. -/
def mixSquare (turns : Turns) (state block : Words 16) : Words 16 :=
  let state := mix turns state 0 4 8 12 block[0] block[1]
  let state := mix turns state 1 5 9 13 block[2] block[3]
  let state := mix turns state 2 6 10 14 block[4] block[5]
  let state := mix turns state 3 7 11 15 block[6] block[7]
  let state := mix turns state 0 5 10 15 block[8] block[9]
  let state := mix turns state 1 6 11 12 block[10] block[11]
  let state := mix turns state 2 7 8 13 block[12] block[13]
  mix turns state 3 4 9 14 block[14] block[15]

/-- The order in which the next mixing takes in the words of a block. -/
def reorder (block : Words 16) : Words 16 :=
  #v[block[2], block[6], block[3], block[10], block[7], block[0], block[4], block[13],
    block[1], block[11], block[12], block[5], block[9], block[14], block[15], block[8]]

end Words

end TransitionEngine

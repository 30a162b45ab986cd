import TransitionEngine.Words

/-!
# The BLAKE3 hash

The input is cut into chunks of 1024 bytes, each chunk into blocks of 64 bytes that are compressed in
a row, and the chunks are joined by a binary tree whose left parts are full. Only the root is
compressed with the root flag.
-/

namespace TransitionEngine.Digest.Blake3

def initial : Words 8 :=
  #v[0x6a09e667, 0xbb67ae85, 0x3c6ef372, 0xa54ff53a, 0x510e527f, 0x9b05688c, 0x1f83d9ab, 0x5be0cd19]

def chunkStart : UInt32 := 1
def chunkEnd : UInt32 := 2
def parent : UInt32 := 4
def root : UInt32 := 8

def blockSize : Nat := 64
def chunkSize : Nat := 1024

/-- The rotations to the right by 16, 12, 8 and 7. -/
def turns : Words.Turns := ⟨16, 20, 24, 25⟩

def rounds : Nat → Words 16 → Words 16 → Words 16
  | 0, state, _ => state
  | count + 1, state, block => rounds count (Words.mixSquare turns state block) block.reorder

/-- What one compression takes in: the last step towards a chaining value or the hash. -/
structure Node where
  chaining : Words 8
  block : Words 16
  counter : UInt64
  length : UInt32
  flags : UInt32

/-- The first half of the compressed state. -/
def Node.compress (node : Node) : Words 8 :=
  let value := node.chaining
  let start : Words 16 :=
    #v[value[0], value[1], value[2], value[3], value[4], value[5], value[6], value[7],
      initial[0], initial[1], initial[2], initial[3],
      node.counter.toUInt32, (node.counter >>> 32).toUInt32, node.length, node.flags]
  let final := rounds 7 start node.block
  Vector.ofFn fun i : Fin 8 => final[i.val] ^^^ final[i.val + 8]

def littleEndian (bytes : List UInt8) : UInt32 :=
  bytes.foldr (fun byte word => (word <<< 8) ||| byte.toUInt32) 0

/-- The words of a block of at most 64 bytes, filled up with zeros. -/
def blockWords (bytes : List UInt8) : Words 16 :=
  Vector.ofFn fun i : Fin 16 => littleEndian ((bytes.drop (4 * i)).take 4)

/-- Compresses the blocks of a chunk in a row and leaves the last one open. -/
def chunkFrom (chaining : Words 8) (counter : UInt64) (flags : UInt32) (bytes : List UInt8) : Node :=
  let node : Node :=
    { chaining, counter, flags, block := blockWords (bytes.take blockSize)
      length := (min bytes.length blockSize).toUInt32 }
  if blockSize < bytes.length then
    chunkFrom node.compress counter 0 (bytes.drop blockSize)
  else { node with flags := flags ||| chunkEnd }
termination_by bytes.length
decreasing_by simp only [blockSize, List.length_drop] at *; omega

def parentOf (left right : Words 8) : Node :=
  { chaining := initial
    block := Vector.ofFn fun i : Fin 16 =>
      if h : i.val < 8 then left[i.val] else right[i.val - 8]
    counter := 0
    length := blockSize.toUInt32
    flags := parent }

/-- How many bytes go to the left of a tree: the largest power of two of chunks that leaves some. -/
def leftSize (length : Nat) : Nat :=
  chunkSize <<< ((length - 1) / chunkSize).log2

theorem leftSize_pos (length : Nat) : 0 < leftSize length := by
  rw [leftSize, Nat.shiftLeft_eq]
  exact Nat.mul_pos (by decide) (Nat.two_pow_pos _)

theorem leftSize_lt {length : Nat} (hlength : chunkSize < length) : leftSize length < length := by
  have hchunks : (length - 1) / chunkSize ≠ 0 := by
    simp only [chunkSize] at *
    omega
  have hpow := Nat.log2_self_le hchunks
  have hmul := Nat.le_trans (Nat.mul_le_mul_left chunkSize hpow) (Nat.mul_div_le _ _)
  rw [leftSize, Nat.shiftLeft_eq]
  omega

def tree (counter : UInt64) (bytes : List UInt8) : Node :=
  if chunkSize < bytes.length then
    let size := leftSize bytes.length
    parentOf (tree counter (bytes.take size)).compress
      (tree (counter + (size / chunkSize).toUInt64) (bytes.drop size)).compress
  else chunkFrom initial counter chunkStart bytes
termination_by bytes.length
decreasing_by
  all_goals
    rename_i hlong
    have hlt := leftSize_lt hlong
    have hpos := leftSize_pos bytes.length
    simp only [List.length_take, List.length_drop]
    omega

def hash (bytes : List UInt8) : Words 8 :=
  let node := tree 0 bytes
  { node with flags := node.flags ||| root }.compress

def hexByte (byte : UInt8) : List Char :=
  [Nat.digitChar (byte.toNat / 16), Nat.digitChar (byte.toNat % 16)]

def wordBytes (word : UInt32) : List UInt8 :=
  [word.toUInt8, (word >>> 8).toUInt8, (word >>> 16).toUInt8, (word >>> 24).toUInt8]

/-- The hash of a text's UTF-8 bytes in lower-case hexadecimal. -/
def hexOfText (text : String) : String :=
  String.ofList (((hash text.toUTF8.toList).toList.flatMap wordBytes).flatMap hexByte)

end TransitionEngine.Digest.Blake3

/-!
# Keccak-256

The hash that decides the letter case of a written address. A state holds 25 lanes of 64 bits, the
lane at column `x` and row `y` at index `x + 5 * y`. A round adds to every lane the parity of two
neighbouring columns (`theta`), turns the lanes and moves them around (`rhoPi`), combines each lane
with the next two of its row (`chi`), and adds a constant (`iota`). A message is padded to whole
blocks of 136 bytes, each block is added to the first 17 lanes and followed by 24 rounds, and the
first 32 bytes of the state are the hash.
-/

namespace CodeAtlas.Keccak

/-! ## The state -/

/-- The 25 lanes. -/
abbrev State := Vector UInt64 25

/-- The lane at column `x` and row `y`, both taken modulo five. -/
def lane (s : State) (x y : Nat) : UInt64 :=
  s.get ⟨x % 5 + 5 * (y % 5), by omega⟩

/-- The state with lane `f x y` at column `x` and row `y`. -/
def ofLanes (f : Nat → Nat → UInt64) : State :=
  Vector.ofFn fun i : Fin 25 => f (i.val % 5) (i.val / 5)

/-- A lane turned left by `n` bits. -/
def turn (w : UInt64) (n : Nat) : UInt64 :=
  if n = 0 then w else (w <<< UInt64.ofNat n) ||| (w >>> UInt64.ofNat (64 - n))

/-! ## The rounds -/

/-- By how many bits each lane turns, row by row. -/
def turns : List Nat :=
  [0, 1, 62, 28, 27, 36, 44, 6, 55, 20, 3, 10, 43, 25, 39, 41, 45, 15, 21, 8, 18, 2, 61, 56, 14]

/-- The constants of the 24 rounds. -/
def roundConstants : List UInt64 :=
  [0x0000000000000001, 0x0000000000008082, 0x800000000000808a, 0x8000000080008000,
    0x000000000000808b, 0x0000000080000001, 0x8000000080008081, 0x8000000000008009,
    0x000000000000008a, 0x0000000000000088, 0x0000000080008009, 0x000000008000000a,
    0x000000008000808b, 0x800000000000008b, 0x8000000000008089, 0x8000000000008003,
    0x8000000000008002, 0x8000000000000080, 0x000000000000800a, 0x800000008000000a,
    0x8000000080008081, 0x8000000000008080, 0x0000000080000001, 0x8000000080008008]

/-- The sum of the five lanes of a column. -/
def parity (s : State) (x : Nat) : UInt64 :=
  lane s x 0 ^^^ lane s x 1 ^^^ lane s x 2 ^^^ lane s x 3 ^^^ lane s x 4

/-- Adds to every lane the parity of the column before it and the turned parity of the next. -/
def theta (s : State) : State :=
  ofLanes fun x y => lane s x y ^^^ parity s (x + 4) ^^^ turn (parity s (x + 1)) 1

/-- Turns the lane at column `x` and row `y` and moves it to column `y` and row `2 * x + 3 * y`. The
lane that arrives at column `x` and row `y` comes from column `x + 3 * y` and row `x`. -/
def rhoPi (s : State) : State :=
  ofLanes fun x y =>
    turn (lane s (x + 3 * y) x) (turns.getD ((x + 3 * y) % 5 + 5 * x) 0)

/-- Adds to every lane the part of the lane two further in its row that the next one masks out. -/
def chi (s : State) : State :=
  ofLanes fun x y => lane s x y ^^^ (~~~(lane s (x + 1) y) &&& lane s (x + 2) y)

/-- Adds a constant to the first lane. -/
def iota (s : State) (constant : UInt64) : State :=
  s.set 0 (s[0] ^^^ constant)

/-- All 24 rounds. -/
def permute (s : State) : State :=
  roundConstants.foldl (fun s constant => iota (chi (rhoPi (theta s))) constant) s

/-! ## Messages -/

/-- The number of message bytes in a block. -/
def blockSize : Nat := 136

/-- A message with its padding: a one bit, then zeros, and a one bit at the end of the block. -/
def padded (message : List UInt8) : List UInt8 :=
  match blockSize - message.length % blockSize with
  | 1 => message ++ [0x81]
  | free => message ++ 0x01 :: List.replicate (free - 2) 0x00 ++ [0x80]

/-- The word of up to eight bytes, the first byte in the low bits. -/
def word (bytes : List UInt8) : UInt64 :=
  bytes.foldr (fun byte w => (w <<< 8) ||| byte.toUInt64) 0

/-- The eight bytes of a word, the low bits first. -/
def wordBytes (w : UInt64) : List UInt8 :=
  (List.range 8).map fun i => (w >>> UInt64.ofNat (8 * i)).toUInt8

/-- Adds a block to the first lanes and runs the rounds. -/
def absorb (s : State) (block : List UInt8) : State :=
  permute (ofLanes fun x y => lane s x y ^^^ word ((block.drop (8 * (x + 5 * y))).take 8))

/-- Absorbs whole blocks, `count` of them. -/
def absorbBlocks : Nat → State → List UInt8 → State
  | 0, s, _ => s
  | count + 1, s, bytes =>
    absorbBlocks count (absorb s (bytes.take blockSize)) (bytes.drop blockSize)

/-- The 32 bytes of the hash of a message. -/
def hash (message : List UInt8) : List UInt8 :=
  let bytes := padded message
  let s := absorbBlocks (bytes.length / blockSize) (Vector.replicate 25 0) bytes
  (s.toList.take 4).flatMap wordBytes

end CodeAtlas.Keccak

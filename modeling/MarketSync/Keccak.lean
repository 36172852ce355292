import MarketSync.Word

/-!
# Keccak-256

The sponge over 1600 bits with a rate of 136 bytes and the padding `01 … 80`, whose first 32 bytes
of output are the hash that contracts use. The state is 25 lanes of 64 bits; lane (x, y) stands at
index 5y + x.
-/

namespace MarketSync.Keccak

/-- The 25 lanes of the state. -/
abbrev State := Vector UInt64 25

/-- The lane at an index, taken modulo 25. -/
def lane (s : State) (i : Nat) : UInt64 :=
  s.get ⟨i % 25, Nat.mod_lt i (by decide)⟩

/-- Every lane is computed from its index. -/
def build (f : Nat → UInt64) : State :=
  Vector.ofFn fun i : Fin 25 => f i.val

def rotations : List Nat :=
  [0, 1, 62, 28, 27,
   36, 44, 6, 55, 20,
   3, 10, 43, 25, 39,
   41, 45, 15, 21, 8,
   18, 2, 61, 56, 14]

def roundConstants : List UInt64 :=
  [0x0000000000000001, 0x0000000000008082, 0x800000000000808A, 0x8000000080008000,
   0x000000000000808B, 0x0000000080000001, 0x8000000080008081, 0x8000000000008009,
   0x000000000000008A, 0x0000000000000088, 0x0000000080008009, 0x000000008000000A,
   0x000000008000808B, 0x800000000000008B, 0x8000000000008089, 0x8000000000008003,
   0x8000000000008002, 0x8000000000000080, 0x000000000000800A, 0x800000008000000A,
   0x8000000080008081, 0x8000000000008080, 0x0000000080000001, 0x8000000080008008]

def rotate (w : UInt64) (n : Nat) : UInt64 :=
  if n % 64 = 0 then w
  else (w <<< UInt64.ofNat (n % 64)) ||| (w >>> UInt64.ofNat (64 - n % 64))

def parity (s : State) (x : Nat) : UInt64 :=
  lane s x ^^^ lane s (x + 5) ^^^ lane s (x + 10) ^^^ lane s (x + 15) ^^^ lane s (x + 20)

/-- Every lane takes in the parities of its two neighbouring columns. -/
def theta (s : State) : State :=
  let columns : Vector UInt64 5 := Vector.ofFn fun x : Fin 5 => parity s x.val
  let column (x : Nat) : UInt64 := columns.get ⟨x % 5, Nat.mod_lt x (by decide)⟩
  build fun i => lane s i ^^^ column (i + 4) ^^^ rotate (column (i + 1)) 1

/-- Lanes are rotated and moved: lane (x, y) goes to (y, 2x + 3y). -/
def rhoPi (s : State) : State :=
  build fun i =>
    let source := 5 * (i % 5) + (i % 5 + 3 * (i / 5)) % 5
    rotate (lane s source) (rotations.getD source 0)

/-- Every lane is changed by the next two of its row. -/
def chi (s : State) : State :=
  build fun i =>
    let row := 5 * (i / 5)
    lane s i ^^^ (~~~ lane s (row + (i + 1) % 5) &&& lane s (row + (i + 2) % 5))

def iota (constant : UInt64) (s : State) : State :=
  build fun i => if i = 0 then lane s 0 ^^^ constant else lane s i

def round (s : State) (constant : UInt64) : State :=
  iota constant (chi (rhoPi (theta s)))

/-- The permutation: 24 rounds. -/
def permute (s : State) : State :=
  roundConstants.foldl round s

/-- The number of bytes that enter the state at once. -/
def rate : Nat := 136

/-- The bytes that complete a message to whole blocks. -/
def padding (length : Nat) : Bytes :=
  let missing := rate - length % rate
  if missing = 1 then [0x81] else 0x01 :: (List.replicate (missing - 2) 0x00 ++ [0x80])

/-- The eight bytes of a lane, the lowest first, as a number. -/
def littleEndian (bs : Bytes) : UInt64 :=
  bs.foldr (fun b n => n <<< 8 ||| b.toUInt64) 0

/-- One block of bytes enters the state, which is then permuted. -/
def absorb (s : State) (block : Bytes) : State :=
  permute (build fun i => lane s i ^^^ littleEndian ((block.drop (8 * i)).take 8))

/-- Blocks of `rate` bytes enter one after another. -/
def absorbAll (s : State) (bs : Bytes) : State :=
  if bs.length < rate then s
  else absorbAll (absorb s (bs.take rate)) (bs.drop rate)
termination_by bs.length
decreasing_by simp only [List.length_drop, rate] at *; omega

def laneBytes (w : UInt64) : Bytes :=
  (List.range 8).map fun i => (w >>> UInt64.ofNat (8 * i)).toUInt8

/-- The Keccak-256 hash of a byte string. -/
def hash (message : Bytes) : Bytes32 :=
  let s := absorbAll (build fun _ => 0) (message ++ padding message.length)
  BitVec.ofNat 256 (Bytes.toNumber ((List.range 4).flatMap fun i => laneBytes (lane s i)))

end MarketSync.Keccak

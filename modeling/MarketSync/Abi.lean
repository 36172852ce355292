import MarketSync.Keccak

/-!
# Contract data

Arguments and results of contract calls as bytes. A list of items is written as a head of one word
an item, followed by the tails of the items that do not fit a word; the head word of such an item is
the position of its tail. Reading is lenient: what follows the last word needed is ignored.
-/

namespace MarketSync.Abi

/-- An argument: a word, or a text of any length. -/
inductive Item where
  | word (w : BitVec 256)
  | text (s : String)

def words (ws : List (BitVec 256)) : Bytes :=
  ws.flatMap wordBytes

/-- Bytes behind their length, filled up with zeros to whole words. -/
def sized (bs : Bytes) : Bytes :=
  wordBytes (BitVec.ofNat 256 bs.length) ++ bs ++ List.replicate ((32 - bs.length % 32) % 32) 0

def Item.tail : Item → Bytes
  | .word _ => []
  | .text s => sized (Bytes.ofText s)

/-- The head words of items whose tails begin at `position`. -/
def heads : (position : Nat) → List Item → List (BitVec 256)
  | _, [] => []
  | p, .word w :: items => w :: heads p items
  | p, .text s :: items => BitVec.ofNat 256 p :: heads (p + (Item.text s).tail.length) items

/-- A list of items as one byte string. -/
def encode (items : List Item) : Bytes :=
  words (heads (32 * items.length) items) ++ items.flatMap Item.tail

/-- The hash of a text, encoded as the only item of a list (`hash_string`). -/
def hashText (s : String) : Bytes32 :=
  Keccak.hash (encode [.text s])

def flagWord (b : Bool) : BitVec 256 :=
  if b then 1 else 0

/-! ## Reading -/

/-- The first word of a byte string, and what follows it. -/
def takeWord (bs : Bytes) : Option (BitVec 256 × Bytes) :=
  let front := bs.take 32
  if front.length = 32 then some (BitVec.ofNat 256 (Bytes.toNumber front), bs.drop 32) else none

def takeWords : (count : Nat) → Bytes → Option (List (BitVec 256) × Bytes)
  | 0, bs => some ([], bs)
  | n + 1, bs =>
    match takeWord bs with
    | none => none
    | some (w, rest) => (takeWords n rest).map fun (ws, rest) => (w :: ws, rest)

/-- The only result of a call that answers one word. -/
def readWord (bs : Bytes) : Option (BitVec 256) :=
  (takeWord bs).map Prod.fst

def takeRows (width : Nat) : (count : Nat) → Bytes → Option (List (List (BitVec 256)))
  | 0, _ => some []
  | n + 1, bs =>
    match takeWords width bs with
    | none => none
    | some (row, rest) => (takeRows width n rest).map (row :: ·)

/-- The only result of a call that answers an array of rows: the first word tells where the array
begins, and there its length stands in front of the rows. -/
def readRows (width : Nat) (bs : Bytes) : Option (List (List (BitVec 256))) :=
  match takeWord bs with
  | none => none
  | some (start, _) =>
    match takeWord (bs.drop start.toNat) with
    | none => none
    | some (count, rows) => takeRows width count.toNat rows

/-- The bytes of an array of rows as the only result of a call. -/
def encodeRows (rows : List (List (BitVec 256))) : Bytes :=
  words (32 :: BitVec.ofNat 256 rows.length :: rows.flatten)

end MarketSync.Abi

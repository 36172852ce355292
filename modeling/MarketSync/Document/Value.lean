import MarketSync.Amount
import MarketSync.Text.Hex

/-!
# Document values

What a configuration file or a JSON text holds, whatever its notation: texts, numbers, lists, and
records whose fields keep their order. A record has each field name at most once.
-/

namespace MarketSync.Document

/-- A value of a document. Whole numbers are kept apart from all other numbers, of which only the
text is kept. -/
inductive Value where
  | null
  | flag (b : Bool)
  | whole (n : Int)
  | fraction (text : String)
  | text (s : String)
  | list (items : List Value)
  | record (fields : List (String × Value))

inductive DecodeError where
  | unknownField (name : String) (known : List String)
  | missingField (name : String)
  /-- Neither a whole number of 64 bits nor a text stands where an amount belongs. -/
  | notAmount
  | amount (e : AmountError)
  | hex (e : Text.HexError)
  /-- A value of the wrong kind, or a list of the wrong length. -/
  | mismatch
  deriving DecidableEq

/-- A name in quotation marks as error texts show it. -/
def quoted (name : String) : String :=
  "`" ++ name ++ "`"

/-- The names that would have been accepted. -/
def expectedNames : List String → String
  | [] => "there are no fields"
  | [a] => "expected " ++ quoted a
  | [a, b] => "expected " ++ quoted a ++ " or " ++ quoted b
  | names => "expected one of " ++ ", ".intercalate (names.map quoted)

/-- The wording of a decoding error; a mismatch has none. -/
def DecodeError.message : DecodeError → Option String
  | .unknownField name known =>
    some ("unknown field " ++ quoted name ++ ", " ++ expectedNames known)
  | .missingField name => some ("missing field " ++ quoted name)
  | .notAmount => some "data did not match any variant of untagged enum RawAmount"
  | .amount e => some e.message
  | .hex e => some e.message
  | .mismatch => none

namespace Value

/-! ## Reading single values -/

def asFlag : Value → Except DecodeError Bool
  | .flag b => .ok b
  | _ => .error .mismatch

def asText : Value → Except DecodeError String
  | .text s => .ok s
  | _ => .error .mismatch

/-- An amount: a whole number of 64 bits, or a text. -/
def asAmount : Value → Except DecodeError Uint256
  | .whole n =>
    if 0 ≤ n ∧ n < UInt64.size then .ok (BitVec.ofNat 256 n.toNat) else .error .notAmount
  | .text s => (Amount.parse s).mapError .amount
  | _ => .error .notAmount

/-- Whether a value is made up of other values. -/
def isCompound : Value → Bool
  | .list _ | .record _ => true
  | _ => false

def asByte : Value → Option UInt8
  | .whole n => if 0 ≤ n ∧ n < 256 then some (UInt8.ofNat n.toNat) else none
  | _ => none

/-- Whether elements behind the last one that belongs there are accepted. The element directly
behind it is overlooked unless it is a byte itself; with `exactLists` none may follow that one. -/
def surplusAllowed (exactLists : Bool) : List Value → Bool
  | [] => true
  | v :: vs => v.asByte.isNone && (!exactLists || vs.isEmpty)

/-- A byte string of a fixed width, as a list of numbers. -/
def asByteList (exactLists : Bool) (width : Nat) (items : List Value) :
    Except DecodeError Bytes :=
  match (items.take width).mapM asByte with
  | none => .error .mismatch
  | some bs =>
    if bs.length = width ∧ surplusAllowed exactLists (items.drop width) then .ok bs
    else .error .mismatch

/-- A byte string of a fixed width: hexadecimal text, or a list of numbers. -/
def asBytes (exactLists : Bool) (width : Nat) : Value → Except DecodeError Bytes
  | .text s => (Text.readHexOf width s).mapError .hex
  | .list items => asByteList exactLists width items
  | _ => .error .mismatch

def asAddress (exactLists : Bool) (v : Value) : Except DecodeError Address :=
  (v.asBytes exactLists 20).map fun bs => BitVec.ofNat 160 (Bytes.toNumber bs)

def asBytes32 (exactLists : Bool) (v : Value) : Except DecodeError Bytes32 :=
  (v.asBytes exactLists 32).map fun bs => BitVec.ofNat 256 (Bytes.toNumber bs)

def asOption {α : Type} (read : Value → Except DecodeError α) (v : Value) :
    Except DecodeError (Option α) :=
  match v with
  | .null => .ok none
  | v => (read v).map some

/-- A list, element by element; the first fault counts. -/
def readItems {α : Type} (read : Value → Except DecodeError α) :
    List Value → Except DecodeError (List α)
  | [] => .ok []
  | v :: vs =>
    match read v with
    | .error e => .error e
    | .ok a => (readItems read vs).map (a :: ·)

def asList {α : Type} (read : Value → Except DecodeError α) : Value → Except DecodeError (List α)
  | .list items => readItems read items
  | _ => .error .mismatch

/-! ## Writing single values -/

def ofOption {α : Type} (write : α → Value) : Option α → Value
  | none => .null
  | some a => write a

def ofAmount (n : Uint256) : Value :=
  .text n.text

end Value

end MarketSync.Document

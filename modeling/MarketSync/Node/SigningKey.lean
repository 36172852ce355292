import MarketSync.Text.Hex

/-!
# Signing keys

The private key with which transactions are signed: 32 bytes in hexadecimal that denote a positive
number below the order of the curve.
-/

namespace MarketSync

/-- The order of the group of the curve secp256k1. -/
def groupOrder : Nat :=
  0xFFFFFFFFFFFFFFFFFFFFFFFFFFFFFFFEBAAEDCE6AF48A03BBFD25E8CD0364141

/-- A private key. -/
structure SigningKey where
  secret : Bytes32
  secret_pos : 0 < secret.toNat
  secret_lt : secret.toNat < groupOrder

inductive SigningKeyError where
  | hex (e : Text.HexError)
  /-- The number is zero, or not below the order of the group. -/
  | outOfRange
  deriving DecidableEq, Repr

def SigningKeyError.message : SigningKeyError → String
  | .hex e => e.message
  | .outOfRange => "signature error"

namespace SigningKey

/-- The key of a number in range. -/
def ofSecret (secret : Bytes32) : Except SigningKeyError SigningKey :=
  if h : 0 < secret.toNat ∧ secret.toNat < groupOrder then .ok ⟨secret, h.1, h.2⟩
  else .error .outOfRange

def parse (text : String) : Except SigningKeyError SigningKey :=
  match Bytes32.parse text with
  | .error e => .error (.hex e)
  | .ok secret => ofSecret secret

end SigningKey

end MarketSync

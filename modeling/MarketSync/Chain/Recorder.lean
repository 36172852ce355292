import MarketSync.Chain.Backend

/-!
# Recorded backends

A backend whose state also holds every call made so far, in order, with its result. Recording
changes no result.
-/

namespace MarketSync

/-! ## Records of calls -/

/-- A call that was made, with its result; a call that failed has none. -/
inductive CallRecord where
  | getUint (key : Bytes32) (result : Option Uint256)
  | getBytes32 (key : Bytes32) (result : Option Bytes32)
  | setUint (key : Bytes32) (value : Uint256) (result : Option Unit)
  | setBytes32 (key value : Bytes32) (result : Option Unit)
  | getMarkets (start stop : UInt64) (result : Option (List Listing))
  | createMarket (t : Triple) (marketType : Bytes32) (result : Option Unit)
  deriving DecidableEq

namespace CallRecord

def line {α : Type} (method : Method) (arguments : List String) (render : α → String) :
    Option α → String
  | some a => method.name ++ "(" ++ ",".intercalate arguments ++ ")" ++ render a
  | none => method.name ++ "(" ++ ",".intercalate arguments ++ ") failed"

/-- A call on one line. Reads show their result behind an equality sign, pages their length. -/
def text : CallRecord → String
  | .getUint key result => line .getUint [key.text] (fun n => "=" ++ Uint256.text n) result
  | .getBytes32 key result =>
    line .getBytes32 [key.text] (fun w => "=" ++ Bytes32.text w) result
  | .setUint key value result => line .setUint [key.text, value.text] (fun _ => "") result
  | .setBytes32 key value result => line .setBytes32 [key.text, value.text] (fun _ => "") result
  | .getMarkets start stop result =>
    line .getMarkets [Text.decimal start.toNat, Text.decimal stop.toNat]
      (fun ms => "=" ++ Text.decimal ms.length) result
  | .createMarket t marketType result =>
    line .createMarket
      [t.indexToken.text, t.longToken.text, t.shortToken.text, marketType.text] (fun _ => "") result

end CallRecord

/-! ## Recording -/

/-- A state together with the calls made so far. -/
structure Recorded (σ : Type) where
  state : σ
  calls : List CallRecord

/-- Makes a call and records it with its result. -/
def Recorded.run {σ α : Type} (call : σ → Except CallError α × σ) (record : Option α → CallRecord)
    (r : Recorded σ) : Except CallError α × Recorded σ :=
  let (result, state) := call r.state
  (result, ⟨state, r.calls ++ [record result.toOption]⟩)

def Backend.recorded {σ : Type} (b : Backend σ) : Backend (Recorded σ) where
  store :=
    { getUint := fun key => Recorded.run (b.store.getUint key) (.getUint key)
      getBytes32 := fun key => Recorded.run (b.store.getBytes32 key) (.getBytes32 key)
      setUint := fun key value => Recorded.run (b.store.setUint key value) (.setUint key value)
      setBytes32 := fun key value =>
        Recorded.run (b.store.setBytes32 key value) (.setBytes32 key value) }
  registry :=
    { getMarkets := fun start stop =>
        Recorded.run (b.registry.getMarkets start stop) (.getMarkets start stop) }
  factory :=
    { createMarket := fun t marketType =>
        Recorded.run (b.factory.createMarket t marketType) (.createMarket t marketType) }

end MarketSync

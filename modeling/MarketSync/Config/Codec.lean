import MarketSync.Config.Definition
import MarketSync.Document.Record

/-!
# Configurations as documents

Reading a configuration from a document value and writing it back, as the derived readers and
writers of `ProvisionConfig`, `MarketDefinition` and the other sections do. Every record knows its
fields, so a misspelt or missing one is a fault at every level; only token symbols are free. A field
that is null counts as absent, and an amount that is zero does not.
-/

namespace MarketSync

open Document

/-! ## Reading -/

section Reading

variable (exactLists : Bool)

/-- A token is a record of its address. -/
def tokenFields : List (RecordField (Option Address)) :=
  [.of "address" (Value.asAddress exactLists) fun a _ => some a]

def decodeToken (v : Value) : Except DecodeError Address :=
  match readRecord exactLists (tokenFields exactLists) none v with
  | .error e => .error e
  | .ok draft => required "address" draft

/-- Adds named tokens to a registry. -/
def decodeTokenEntries :
    List (String × Value) → TokenRegistry → Except DecodeError TokenRegistry
  | [], r => .ok r
  | (symbol, v) :: entries, r =>
    match decodeToken exactLists v with
    | .error e => .error e
    | .ok address => decodeTokenEntries entries (r.insert symbol address)

/-- Reads a token registry: a record with any field names. -/
def decodeTokens : Value → Except DecodeError TokenRegistry
  | .record entries => decodeTokenEntries exactLists entries .empty
  | _ => .error .mismatch

structure MarketTokensDraft where
  indexToken : Option String := none
  longToken : Option String := none
  shortToken : Option String := none

def marketTokensFields : List (RecordField MarketTokensDraft) :=
  [.of "index_token" (Value.asOption Value.asText) fun s d => { d with indexToken := s },
   .of "long_token" Value.asText fun s d => { d with longToken := some s },
   .of "short_token" Value.asText fun s d => { d with shortToken := some s }]

def decodeMarketTokens (v : Value) : Except DecodeError MarketTokens :=
  match readRecord exactLists marketTokensFields {} v with
  | .error e => .error e
  | .ok d =>
    match required "long_token" d.longToken, required "short_token" d.shortToken with
    | .error e, _ => .error e
    | .ok _, .error e => .error e
    | .ok long, .ok short => .ok ⟨d.indexToken, long, short⟩

structure DefinitionDraft where
  tokens : Option MarketTokens := none
  swapOnly : Bool := false
  marketType : Option String := none
  amounts : Param → Option Uint256 := fun _ => none
  virtualMarketId : Option Bytes32 := none

def paramField (p : Param) : RecordField DefinitionDraft :=
  .of p.field (Value.asOption Value.asAmount) fun n d =>
    { d with amounts := fun q => if q = p then n else d.amounts q }

/-- The fields of a definition in the order of their declaration. -/
def definitionFields : List (RecordField DefinitionDraft) :=
  [.of "tokens" (decodeMarketTokens exactLists) fun t d => { d with tokens := some t },
   .withDefault "swap_only" Value.asFlag fun b d => { d with swapOnly := b },
   .of "market_type" (Value.asOption Value.asText) fun s d => { d with marketType := s }] ++
  Param.all.map paramField ++
  [.of "token_market_id" (Value.asOption (Value.asBytes32 exactLists)) fun w d =>
    { d with virtualMarketId := w }]

def decodeDefinition (v : Value) : Except DecodeError Definition :=
  match readRecord exactLists (definitionFields exactLists) {} v with
  | .error e => .error e
  | .ok d =>
    (required "tokens" d.tokens).map fun tokens =>
      ⟨tokens, d.swapOnly, d.marketType, d.amounts, d.virtualMarketId⟩

def generalFields : List (RecordField GeneralSection) :=
  [.of "token_transfer_gas_limit" (Value.asOption Value.asAmount) fun n _ => ⟨n⟩]

def decodeGeneral (v : Value) : Except DecodeError GeneralSection :=
  readRecord exactLists generalFields ⟨none⟩ v

def configFields : List (RecordField Config) :=
  [.withDefault "general" (decodeGeneral exactLists) fun g c => { c with general := g },
   .withDefault "tokens" (decodeTokens exactLists) fun t c => { c with tokens := t },
   .withDefault "markets" (Value.asList (decodeDefinition exactLists)) fun m c =>
    { c with markets := m }]

def Config.empty : Config := ⟨⟨none⟩, .empty, []⟩

/-- Reads a configuration. -/
def Config.decode (v : Value) : Except DecodeError Config :=
  readRecord exactLists (configFields exactLists) .empty v

end Reading

/-! ## Writing -/

/-- The token registry as a record. -/
def TokenRegistry.encode (r : TokenRegistry) : Value :=
  .record (r.entries.map fun (symbol, address) =>
    (symbol, .record [("address", .text address.lowerText)]))

def GeneralSection.encode (g : GeneralSection) : Value :=
  .record [("token_transfer_gas_limit", .ofOption .ofAmount g.tokenTransferGasLimit)]

def MarketTokens.encode (t : MarketTokens) : Value :=
  .record [("index_token", .ofOption .text t.indexToken), ("long_token", .text t.longToken),
    ("short_token", .text t.shortToken)]

/-- A definition as a record of all its fields, null where absent. -/
def Definition.encode (d : Definition) : Value :=
  .record <|
    [("tokens", d.tokens.encode), ("swap_only", .flag d.swapOnly),
     ("market_type", .ofOption .text d.marketType)] ++
    Param.all.map (fun p => (p.field, .ofOption .ofAmount (d.amounts p))) ++
    [("token_market_id", .ofOption (fun w => .text w.text) d.virtualMarketId)]

def Config.encode (c : Config) : Value :=
  .record [("general", c.general.encode), ("tokens", c.tokens.encode),
    ("markets", .list (c.markets.map Definition.encode))]

end MarketSync

import MarketSync.Document.Value
import MarketSync.Environment.Placeholder
import MarketSync.Node.Contracts
import MarketSync.Node.SigningKey
import MarketSync.Url.Parser

/-!
# Settings of the connection

How to reach the node and the contracts (`RpcConfig`), as the environment says. Reading (`from_env`)
checks the variables one after another and stops at the first that is malformed; only connecting
needs the contracts to be known and the private key to be valid.
-/

namespace MarketSync

open Document

/-- How to reach the node and the contracts. -/
structure Settings where
  url : String := "http://127.0.0.1:8545"
  /-- The private key as it is written, if transactions are to be signed. -/
  privateKey : Option String := none
  dataStore : Option Address := none
  reader : Option Address := none
  marketFactory : Option Address := none
  /-- How many markets a registry page asks for. -/
  pageSize : UInt64 := 1000
  deriving DecidableEq

inductive SettingsError where
  | urlVariable (e : UrlError)
  | addressVariable (name : String) (e : Text.HexError)
  | pageSizeVariable (e : Text.NumberError)
  | url (text : String) (e : UrlError)
  | privateKey (e : SigningKeyError)
  | notSet (name : String)
  deriving DecidableEq

def SettingsError.message : SettingsError → String
  | .urlVariable e => "Invalid RPC_HTTP_URL: " ++ e.message
  | .addressVariable name e => "Invalid " ++ name ++ ": " ++ e.message
  | .pageSizeVariable e => "Invalid MARKET_PAGE_SIZE: " ++ e.message
  | .url text e => "Invalid RPC URL " ++ text ++ ": " ++ e.message
  | .privateKey e => "Invalid PRIVATE_KEY: " ++ e.message
  | .notSet name => name ++ " is not set"

structure Connection where
  url : Url
  /-- Without a key only reads can succeed. -/
  signer : Option SigningKey
  contracts : Contracts

namespace Settings

/-! ## Reading -/

/-- The address of the node, if its variable is set. -/
def readUrl (env : Environment) : Except SettingsError String :=
  match env.get? "RPC_HTTP_URL" with
  | none => .ok ({} : Settings).url
  | some text =>
    match Url.parse text with
    | .ok _ => .ok text
    | .error e => .error (.urlVariable e)

def readAddress (env : Environment) (name : String) : Except SettingsError (Option Address) :=
  match env.get? name with
  | none => .ok none
  | some text =>
    match Address.parse text with
    | .ok a => .ok (some a)
    | .error e => .error (.addressVariable name e)

def readPageSize (env : Environment) : Except SettingsError UInt64 :=
  match env.get? "MARKET_PAGE_SIZE" with
  | none => .ok ({} : Settings).pageSize
  | some text =>
    match Text.readUnsigned UInt64.size text.toList with
    | .ok n => .ok (UInt64.ofNat n)
    | .error e => .error (.pageSizeVariable e)

/-- The settings in an environment. -/
def ofEnvironment (env : Environment) : Except SettingsError Settings := do
  let url ← readUrl env
  let dataStore ← readAddress env "DATA_STORE_ADDRESS"
  let reader ← readAddress env "READER_ADDRESS"
  let marketFactory ← readAddress env "MARKET_FACTORY_ADDRESS"
  let pageSize ← readPageSize env
  return { url, privateKey := env.get? "PRIVATE_KEY", dataStore, reader, marketFactory, pageSize }

/-- The deployment components whose addresses are known (`provided_components`), in alphabetical
order. -/
def provided (s : Settings) : List String :=
  (s.dataStore.map fun _ => "DataStore").toList ++
    (s.marketFactory.map fun _ => "MarketFactory").toList ++
    (s.reader.map fun _ => "Reader").toList

/-! ## Connecting -/

def nodeUrl (s : Settings) : Except SettingsError Url :=
  match Url.parse s.url with
  | .ok url => .ok url
  | .error e => .error (.url s.url e)

def signer (s : Settings) : Except SettingsError (Option SigningKey) :=
  match s.privateKey with
  | none => .ok none
  | some text =>
    match SigningKey.parse text with
    | .ok key => .ok (some key)
    | .error e => .error (.privateKey e)

/-- The contracts, which all have to be known. -/
def contracts (s : Settings) : Except SettingsError Contracts :=
  match s.dataStore, s.reader, s.marketFactory with
  | none, _, _ => .error (.notSet "DATA_STORE_ADDRESS")
  | some _, none, _ => .error (.notSet "READER_ADDRESS")
  | some _, some _, none => .error (.notSet "MARKET_FACTORY_ADDRESS")
  | some dataStore, some reader, some marketFactory => .ok ⟨dataStore, reader, marketFactory⟩

/-- The connection that the settings describe. -/
def connect (s : Settings) : Except SettingsError Connection := do
  let url ← s.nodeUrl
  let signer ← s.signer
  let contracts ← s.contracts
  return ⟨url, signer, contracts⟩

/-! ## Writing -/

/-- The settings as a record, without the private key. -/
def encode (s : Settings) : Value :=
  let address : Option Address → Value := .ofOption fun a => .text a.lowerText
  .record [("rpc_http_url", .text s.url), ("data_store_address", address s.dataStore),
    ("reader_address", address s.reader), ("market_factory_address", address s.marketFactory),
    ("market_page_size", .whole s.pageSize.toNat)]

end Settings

end MarketSync

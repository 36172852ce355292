import MarketSync.Config.Codec
import MarketSync.Environment.Dotenv
import MarketSync.Files.Folder
import MarketSync.Toml.Reader

/-!
# Loading configurations

A provisioning file is a text with placeholders. Loading (`load_from_str`) expands them, reads the
document, and reads the configuration from the document; the first stage that fails decides the
error. Loading from a file also takes in the environment file beside it, before the provisioning
file is opened.
-/

namespace MarketSync

open Document

inductive LoadError where
  | file (e : FileError)
  /-- The text does not follow the grammar of documents. -/
  | malformed
  /-- The document describes no configuration. -/
  | document (e : DecodeError)
  deriving DecidableEq

/-- What a document error says beyond its kind. -/
def LoadError.detail? : LoadError → Option String
  | .file e => some e.message
  | .malformed => none
  | .document e => e.message

def LoadError.message : LoadError → String
  | .file e => "IO error: " ++ e.message
  | .malformed => "TOML error: the text is no document"
  | .document e => "TOML error: " ++ e.message.getD "the document holds a value of the wrong kind"

namespace Config

/-- Loads a configuration from its text. -/
def load (env : Environment) (text : String) : Except LoadError Config :=
  match Toml.parse (String.ofList (Placeholder.expand env text.toList)) with
  | none => .error .malformed
  | some document => (Config.decode false document).mapError .document

/-- Loads a configuration from the content of its file (`load_from_file`). -/
def loadFile (env : Environment) (content : Except FileError ByteArray) :
    Except LoadError Config :=
  match fileText content with
  | .error e => .error (.file e)
  | .ok text => load env text

end Config

/-- The environment after an environment file, if there is one. -/
def Environment.withFile (env : Environment) :
    (file : Option String) → Except DotenvError Environment
  | some text => Dotenv.load env text
  | none => .ok env

end MarketSync

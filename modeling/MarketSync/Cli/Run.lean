import MarketSync.Cli.Help
import MarketSync.Cli.Options
import MarketSync.Config.Load
import MarketSync.Deploy.Step
import MarketSync.Document.Json
import MarketSync.Node.Settings
import MarketSync.Sync.Assembly

/-!
# A command line run

From options, environment and the content of the provisioning file to what is printed and the exit
code. Everything that can be checked without the node is checked in a fixed order before the node is
reached: the file, the settings, the deployment components, and the connection. Without any market
to provision the run ends after the settings, so it needs neither components nor a connection.
-/

namespace MarketSync.Cli

inductive RunError where
  | load (e : LoadError)
  | settings (e : SettingsError)
  | steps (e : Deploy.StepError)
  | assembly (e : AssemblyError)
  | provision (e : ProvisionError)
  deriving DecidableEq

def RunError.message : RunError → String
  | .load e => e.message
  | .settings e => e.message
  | .steps e => e.message
  | .assembly e => e.message
  | .provision e => e.message

/-- What is left to do once everything is checked that needs no node. -/
inductive Plan where
  /-- There are no markets to provision. -/
  | nothing
  | provision (connection : Connection) (pageSize : UInt64) (config : Config)

/-- The deployment components at hand: those with an address, and the tokens if any are named. -/
def providedBy (settings : Settings) (config : Config) : List String :=
  settings.provided ++ if config.tokens.isEmpty then [] else ["Tokens"]

/-- Checks what needs no node. The environment is the one after the environment file. -/
def plan (o : Options) (env : Environment) (content : Except FileError ByteArray) :
    Except RunError Plan := do
  let config ← (Config.loadFile env content).mapError .load
  let settings ← (Settings.ofEnvironment env).mapError .settings
  if config.markets.isEmpty then return .nothing
  let _ ← (Deploy.order [Deploy.marketsStep] (providedBy settings config)).mapError .steps
  let connection ← settings.connect.mapError .settings
  return .provision connection (o.pageSize.getD settings.pageSize) config

variable {σ : Type}

def Options.mode (o : Options) : WriteMode :=
  if o.dryRun then .dryRun else .apply

def execute (o : Options) (t : Transport σ) (p : Plan) (s : σ) : Except RunError Report × σ :=
  match p with
  | .nothing => (.ok .skip, s)
  | .provision connection pageSize config =>
    let assembly := ((Assembly.empty.withBackend (connection.contracts.backend t)).withPageSize
      pageSize).withMode o.mode
    match assembly.build with
    | .error e => (.error (.assembly e), s)
    | .ok provisioner =>
      match provisioner.run config s with
      | (.error e, s) => (.error (.provision e), s)
      | (.ok report, s) => (.ok report, s)

/-- How a run ends: the exit code, the text for standard output, and the error if it failed. -/
structure Exit where
  code : Nat
  output : String := ""
  error : Option String := none
  deriving DecidableEq, Repr

def Exit.ofRefusal (style : Style) : Refusal → Exit
  | .help => { code := 0, output := help style }
  | .usage => { code := 2 }

/-- The end of a run whose environment file cannot be loaded. -/
def Exit.broken : Exit := { code := 101 }

def Exit.ofResult (o : Options) : Except RunError Report → Exit
  | .error e => { code := 1, error := some e.message }
  | .ok report =>
    { code := 0
      output := if o.json then Document.Json.text report.encode ++ "\n" else "" }

def run (o : Options) (env : Environment) (content : Except FileError ByteArray) (t : Transport σ)
    (s : σ) : Exit × σ :=
  match plan o env content with
  | .error e => (.ofResult o (.error e), s)
  | .ok p =>
    let (result, s) := execute o t p s
    (.ofResult o result, s)

/-- What a run finds when it starts. -/
structure Surroundings where
  arguments : List String
  environment : Environment
  /-- The text of the environment file, if there is one. -/
  environmentFile : Option String
  /-- Whether the output is a terminal. -/
  isTerminal : Bool
  content : (path : String) → Except FileError ByteArray

/-- A run from its start, over a transport. The environment file is loaded before the provisioning
file is opened. -/
def start (u : Surroundings) (t : Transport σ) (s : σ) : Exit × σ :=
  match Options.parse u.arguments with
  | .error refusal => (.ofRefusal (.choose u.environment u.isTerminal) refusal, s)
  | .ok o =>
    match u.environment.withFile u.environmentFile with
    | .error _ => (.broken, s)
    | .ok env => run o env (u.content o.config) t s

end MarketSync.Cli

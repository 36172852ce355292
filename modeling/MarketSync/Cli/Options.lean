import MarketSync.Text.Pieces
import MarketSync.Text.Digits

/-!
# Command line options

Options and flags in any order, each at most once. A value stands behind its option as the next
argument or behind an equality sign, for a short option also without one. Arguments are read from
the left, and the first that is wrong or asks for help decides.
-/

namespace MarketSync.Cli

structure Options where
  config : String := "markets.toml"
  dryRun : Bool := false
  json : Bool := false
  /-- Markets that a registry page asks for, in place of the setting. -/
  pageSize : Option UInt64 := none
  logLevel : Option String := none
  deriving DecidableEq, Repr

inductive Refusal where
  | help
  | usage
  deriving DecidableEq, Repr

/-- The options with a value. -/
inductive ValueOption where
  | config
  | pageSize
  | logLevel
  deriving DecidableEq, Repr

inductive Flag where
  | dryRun
  | json
  deriving DecidableEq, Repr

inductive Argument where
  | value (o : ValueOption)
  | valueWith (o : ValueOption) (text : List Char)
  | flag (f : Flag)
  | help
  /-- The mark behind which no options stand. -/
  | endMark
  | unknown
  deriving DecidableEq, Repr

/-! ## Single arguments -/

/-- An option by its long name. -/
def ofLongName (name : String) : Argument :=
  match name with
  | "config" => .value .config
  | "page-size" => .value .pageSize
  | "log-level" => .value .logLevel
  | "dry-run" => .flag .dryRun
  | "json" => .flag .json
  | "help" => .help
  | _ => .unknown

def ofLong (cs : List Char) : Argument :=
  match Text.splitFirst (· == '=') cs with
  | none => ofLongName (String.ofList cs)
  | some (name, text) =>
    match ofLongName (String.ofList name) with
    | .value o => .valueWith o text
    | _ => .unknown

def ofShort : List Char → Argument
  | 'h' :: _ => .help
  | ['c'] => .value .config
  | 'c' :: '=' :: text => .valueWith .config text
  | 'c' :: text => .valueWith .config text
  | _ => .unknown

/-- What an argument is. -/
def classify : List Char → Argument
  | ['-', '-'] => .endMark
  | '-' :: '-' :: cs => ofLong cs
  | '-' :: cs => ofShort cs
  | _ => .unknown

/-- Whether an argument can be the value of the option in front of it. -/
def isValue : List Char → Bool
  | ['-'] => true
  | '-' :: _ => false
  | _ => true

/-! ## All arguments -/

structure Draft where
  config : Option String := none
  dryRun : Bool := false
  json : Bool := false
  pageSize : Option UInt64 := none
  logLevel : Option String := none

namespace Draft

/-- Takes in a value; an option that is there already is refused. -/
def setValue (d : Draft) (o : ValueOption) (text : List Char) : Option Draft :=
  match o with
  | .config =>
    if d.config.isSome then none else some { d with config := some (String.ofList text) }
  | .logLevel =>
    if d.logLevel.isSome then none else some { d with logLevel := some (String.ofList text) }
  | .pageSize =>
    match d.pageSize, Text.readUnsigned UInt64.size text with
    | none, .ok n => some { d with pageSize := some (UInt64.ofNat n) }
    | _, _ => none

/-- Takes in a flag; one that is there already is refused. -/
def setFlag (d : Draft) (f : Flag) : Option Draft :=
  match f with
  | .dryRun => if d.dryRun then none else some { d with dryRun := true }
  | .json => if d.json then none else some { d with json := true }

/-- The options, with defaults for those that are absent. -/
def options (d : Draft) : Options :=
  { config := d.config.getD ({} : Options).config
    dryRun := d.dryRun
    json := d.json
    pageSize := d.pageSize
    logLevel := d.logLevel }

end Draft

def readArguments (d : Draft) : List (List Char) → Except Refusal Draft
  | [] => .ok d
  | arg :: rest =>
    match classify arg with
    | .help => .error .help
    | .unknown => .error .usage
    | .endMark => if rest.isEmpty then .ok d else .error .usage
    | .flag f =>
      match d.setFlag f with
      | some d => readArguments d rest
      | none => .error .usage
    | .valueWith o text =>
      match d.setValue o text with
      | some d => readArguments d rest
      | none => .error .usage
    | .value o =>
      match rest with
      | [] => .error .usage
      | text :: rest =>
        match isValue text, d.setValue o text with
        | true, some d => readArguments d rest
        | _, _ => .error .usage

/-- Reads the arguments of a command line. -/
def Options.parse (args : List String) : Except Refusal Options :=
  (readArguments {} (args.map String.toList)).map Draft.options

end MarketSync.Cli

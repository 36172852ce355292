import MarketSync.Environment.Placeholder

/-!
# Help

The text that explains the options, plain or with the styles of a terminal: headings are bold and
underlined, and what has to be typed as it stands is bold. Whether there are styles is for the
environment to say, and for the output where the environment says nothing.
-/

namespace MarketSync.Cli

/-! ## Styles -/

/-- How parts of a text are set off. -/
structure Style where
  heading : String → String
  literal : String → String

namespace Style

def plain : Style := ⟨id, id⟩

/-- Sets off by the control sequences of terminals. -/
def terminal : Style where
  heading text := "\x1b[1m\x1b[4m" ++ text ++ "\x1b[0m"
  literal text := "\x1b[1m" ++ text ++ "\x1b[0m"

def isGiven (env : Environment) (name : String) : Bool :=
  (env.get? name).any (!·.isEmpty)

/-- Whether the environment describes a terminal that knows styles. -/
def isKnown (env : Environment) : Bool :=
  (env.get? "TERM").any (· != "dumb") || (env.get? "CLICOLOR").isSome || (env.get? "CI").isSome

/-- The style of an output, which may be a terminal. -/
def choose (env : Environment) (isTerminal : Bool) : Style :=
  if isGiven env "NO_COLOR" then plain
  else if isGiven env "CLICOLOR_FORCE" then terminal
  else if env.get? "CLICOLOR" = some "0" then plain
  else if isTerminal && isKnown env then terminal
  else plain

end Style

/-! ## The text -/

structure OptionHelp where
  short : Option String := none
  long : String
  /-- What stands for the value. -/
  value : Option String := none
  explanation : String

namespace OptionHelp

def usage (o : OptionHelp) (s : Style) : String :=
  let short := o.short.elim "    " fun name => s.literal name ++ ", "
  "  " ++ short ++ s.literal o.long ++ o.value.elim "" fun name => " <" ++ name ++ ">"

/-- One line about an option, whose explanation stands in a column of its own. -/
def line (s : Style) (o : OptionHelp) : String :=
  let gap := 31 - (o.usage .plain).length
  o.usage s ++ String.ofList (List.replicate gap ' ') ++ o.explanation

/-- The options in the order in which they are explained. -/
def all : List OptionHelp :=
  [{ short := some "-c", long := "--config", value := some "CONFIG"
     explanation := "Provisioning file path [default: markets.toml]" },
   { long := "--dry-run"
     explanation := "Read current values and report differences without sending transactions" },
   { long := "--json", explanation := "Print the run report as JSON on stdout" },
   { long := "--page-size", value := some "PAGE_SIZE"
     explanation := "Markets requested per registry page, overrides MARKET_PAGE_SIZE" },
   { long := "--log-level", value := some "LOG_LEVEL", explanation := "Override log level" },
   { short := some "-h", long := "--help", explanation := "Print help" }]

end OptionHelp

def help (s : Style) : String :=
  "\n".intercalate <|
    ["Create markets and synchronize their on-chain configuration", "",
     s.heading "Usage:" ++ " " ++ s.literal "market-provisioner" ++ " [OPTIONS]", "",
     s.heading "Options:"] ++ OptionHelp.all.map (OptionHelp.line s) ++ [""]

end MarketSync.Cli

import MarketSync.Cli.Run

/-!
# The program

Reads the arguments, the environment and the two files, and leaves the rest to the run. No way to a
node is built in, so a run that gets as far as its first request fails there.
-/

namespace MarketSync

/-- The environment of a process from its listing, in which zero bytes end the variables. -/
def Environment.ofListing (listing : String) : Environment :=
  (Text.pieces '\x00' listing.toList).foldl (fun env entry =>
    match Text.splitFirst (· == '=') entry with
    | some (name, value) => env.insert (String.ofList name) (String.ofList value)
    | none => env) .empty

/-- The content of a file. -/
def readContent (path : String) : IO (Except FileError ByteArray) := do
  try
    return .ok (← IO.FS.readBinFile path)
  catch
    | .noFileOrDirectory _ _ _ => return .error .notFound
    | .inappropriateType _ 21 _ => return .error .isDirectory
    | .inappropriateType _ _ _ => return .error .notDirectory
    | .invalidArgument _ _ _ => return .error .nameTooLong
    | _ => return .error .notFound

def readText? (path : String) : IO (Option String) := do
  match fileText (← readContent path) with
  | .ok text => return some text
  | .error _ => return none

end MarketSync

open MarketSync in
def main (args : List String) : IO UInt32 := do
  let path := (Cli.Options.parse args).toOption.elim "" Cli.Options.config
  let content ← readContent path
  let listing ← readText? "/proc/self/environ"
  let (exit, _) := Cli.start
    { arguments := args
      environment := Environment.ofListing (listing.getD "")
      environmentFile := ← readText? ".env"
      isTerminal := ← (← IO.getStdout).isTty
      content := fun _ => content } Transport.offline ()
  IO.print exit.output
  if let some error := exit.error then IO.eprintln s!"Error: {error}"
  return UInt32.ofNat exit.code

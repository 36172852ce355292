import MarketSync.Environment.Placeholder
import MarketSync.Text.Alphanumeric
import MarketSync.Text.Pieces

/-!
# Environment files

A file of lines `NAME=value` that adds variables to an environment. A variable that is set already
keeps its value, so the environment goes before the file and an earlier line before a later one. The
first line that cannot be read ends the file silently. No variable can hold a zero character; a file
that sets one to such a value cannot be loaded.

A value may be quoted, and quotes may reach over several lines. Outside single quotes `$NAME` and
`${NAME}` stand for variables set so far, and nothing where none is set.
-/

namespace MarketSync

inductive DotenvError where
  /-- The value of a variable has a zero character. -/
  | zeroCharacter (name : String)
  deriving DecidableEq, Repr

namespace Dotenv

/-! ## Lines -/

/-- Where a line stands after a character. -/
inductive LineState where
  | complete
  | blank
  | escape
  | single
  | singleEscape
  | double
  | doubleEscape
  deriving DecidableEq, Repr

/-- The state outside quotes after a character that is no blank. -/
def LineState.outside (c : Char) : LineState :=
  if c = '\x5c' then .escape
  else if c = '\x22' then .double
  else if c = '\x27' then .single
  else .complete

def LineState.next : LineState → Char → LineState
  | .blank, c => .outside c
  | .escape, _ => .complete
  | .complete, c =>
    if Text.isBlank c && c != '\n' && c != '\r' then .blank else .outside c
  | .double, c =>
    if c = '\x5c' then .doubleEscape else if c = '\x22' then .complete else .double
  | .doubleEscape, _ => .double
  | .single, c =>
    if c = '\x5c' then .singleEscape else if c = '\x27' then .complete else .single
  | .singleEscape, _ => .single

def skipLine (cs : List Char) : List Char :=
  (cs.dropWhile (· ≠ '\n')).drop 1

/-- The next line without its line break and without a comment behind a blank, and what follows it.
A line goes on over line breaks inside quotes. A file may not end inside a line. -/
def readLine (state : LineState) (read : List Char) :
    List Char → Option (List Char × List Char)
  | [] => if state = .complete then some (read.reverse, []) else none
  | c :: cs =>
    if state = .blank ∧ c = '#' then some (read.reverse, skipLine cs)
    else if c = '\n' ∧ state.next c = .complete then some (read.reverse, cs)
    else readLine (state.next c) (c :: read) cs

/-- Whether the next line is a comment as a whole. -/
def startsComment (cs : List Char) : Bool :=
  ((cs.takeWhile (· ≠ '\n')).dropWhile Text.isBlank).head? == some '#'

/-! ## Values -/

/-- Which form of variable name is being read. -/
inductive Naming where
  | none
  | bare
  | braced
  deriving DecidableEq, Repr

/-- A value while it is read; `read` holds its characters, the last one first. -/
structure Scan where
  single : Bool := false
  double : Bool := false
  escaped : Bool := false
  /-- Only blanks or a comment may follow. -/
  ended : Bool := false
  naming : Naming := .none
  name : List Char := []
  read : List Char := []

def Scan.push (s : Scan) (c : Char) : Scan :=
  { s with read := c :: s.read }

/-- The value that a name stands for. Variables are kept as `NAME=value`, so a name with an equality
sign goes on into the value. -/
def valueFor (env : Environment) (name : List Char) : List Char :=
  match Text.splitFirst (· == '=') name with
  | none => ((env.get? (String.ofList name)).getD "").toList
  | some (name, start) =>
    ((env.get? (String.ofList name)).bind fun v =>
      Text.dropStart? (start ++ ['=']) v.toList).getD []

/-- Puts the value of the variable that was named at the end. -/
def Scan.substitute (s : Scan) (env : Environment) : Scan :=
  { s with
    read := (valueFor env s.name.reverse).reverse ++ s.read
    name := []
    naming := .none }

def Scan.escape (s : Scan) (c : Char) : Option Scan :=
  let s := { s with escaped := false }
  if c = '\x5c' || c = '\x27' || c = '\x22' || c = '$' || c = ' ' then some (s.push c)
  else if c = 'n' then some (s.push '\n')
  else none

def Scan.nameChar (s : Scan) (env : Environment) (c : Char) : Scan :=
  if Text.isAlphanumeric c then { s with name := c :: s.name }
  else if s.naming = .braced then
    if c = '\x7d' then s.substitute env else { s with name := c :: s.name }
  else if c = '\x7b' && s.name.isEmpty then { s with naming := .braced }
  else if c = '$' then { s.substitute env with naming := .bare }
  else (s.substitute env).push c

/-- A character outside single quotes, names and escapes. -/
def Scan.plainChar (s : Scan) (c : Char) : Scan :=
  if c = '$' then { s with naming := .bare }
  else if c = '\x5c' then { s with escaped := true }
  else if s.double then
    if c = '\x22' then { s with double := false } else s.push c
  else if c = '\x27' then { s with single := true }
  else if c = '\x22' then { s with double := true }
  else if c = ' ' || c = '\t' then { s with ended := true }
  else s.push c

/-- The value, if the text may end here. -/
def Scan.finish (s : Scan) (env : Environment) : Option (List Char) :=
  if s.naming = .braced || s.single || s.double then none
  else some (s.substitute env).read.reverse

def readValue (env : Environment) (s : Scan) : List Char → Option (List Char)
  | [] => s.finish env
  | c :: cs =>
    if s.ended then
      if c = ' ' || c = '\t' then readValue env s cs
      else if c = '#' then s.finish env
      else none
    else if s.escaped then
      match s.escape c with
      | some s => readValue env s cs
      | none => none
    else if s.single then
      readValue env (if c = '\x27' then { s with single := false } else s.push c) cs
    else if s.naming ≠ .none then readValue env (s.nameChar env c) cs
    else readValue env (s.plainChar c) cs

/-! ## Assignments -/

/-- The name that a text begins with, and what follows it and blanks. -/
def readName : List Char → Option (List Char × List Char)
  | c :: cs =>
    if Placeholder.isNameStart c then
      let isFurther := fun c => Placeholder.isNameChar c || c == '.'
      some (c :: cs.takeWhile isFurther, (cs.dropWhile isFurther).dropWhile Text.isBlank)
    else none
  | [] => none

/-- The name that is assigned to, and the text of its value. The word `export` may stand in front of
the name. -/
def splitAssignment (cs : List Char) : Option (List Char × List Char) :=
  match readName cs with
  | some (name, '=' :: rest) => some (name, rest.dropWhile Text.isBlank)
  | some (name, rest) =>
    if name = "export".toList then
      match readName rest with
      | some (name, '=' :: rest) => some (name, rest.dropWhile Text.isBlank)
      | _ => none
    else none
  | none => none

/-- What a line says: nothing, or a variable and its value. -/
def readAssignment (env : Environment) (line : List Char) : Option (Option (String × String)) :=
  match Text.trim line with
  | [] => some none
  | '#' :: _ => some none
  | cs =>
    match splitAssignment cs with
    | none => none
    | some (name, text) =>
      if text.isEmpty || text.head? == some '#' then some (some (String.ofList name, ""))
      else (readValue env {} text).map fun v => some (String.ofList name, String.ofList v)

def setIfAbsent (env : Environment) (name value : String) : Except DotenvError Environment :=
  match env.get? name with
  | some _ => .ok env
  | none =>
    if value.contains '\x00' then .error (.zeroCharacter name) else .ok (env.insert name value)

/-- Reads lines until one cannot be read. Each round reads at least one character. -/
def readLines : (fuel : Nat) → Environment → List Char → Except DotenvError Environment
  | 0, env, _ => .ok env
  | _, env, [] => .ok env
  | fuel + 1, env, cs =>
    if startsComment cs then readLines fuel env (skipLine cs)
    else
      match readLine .complete [] cs with
      | none => .ok env
      | some (line, rest) =>
        match readAssignment env line with
        | none => .ok env
        | some none => readLines fuel env rest
        | some (some (name, value)) =>
          match setIfAbsent env name value with
          | .ok env => readLines fuel env rest
          | .error e => .error e

/-- The environment with the variables of a file. A byte order mark in front does not count. -/
def load (env : Environment) (text : String) : Except DotenvError Environment :=
  let cs := match text.toList with
    | '\uFEFF' :: cs => cs
    | cs => cs
  readLines cs.length env cs

end Dotenv

end MarketSync

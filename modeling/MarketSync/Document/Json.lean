import MarketSync.Document.Value

/-!
# JSON text

A document value as JSON on several lines: two blanks for each level, one element a line, and empty
lists and records on the line where they begin.
-/

namespace MarketSync.Document.Json

/-- A character inside a quoted text. -/
def quoteChar (c : Char) : List Char :=
  let n := c.toNat
  if n = 0x22 then ['\x5c', '\x22']
  else if n = 0x5C then ['\x5c', '\x5c']
  else if n = 8 then ['\x5c', 'b']
  else if n = 9 then ['\x5c', 't']
  else if n = 10 then ['\x5c', 'n']
  else if n = 12 then ['\x5c', 'f']
  else if n = 13 then ['\x5c', 'r']
  else if n < 0x20 then
    ['\x5c', 'u', '0', '0', Text.digitChar (n / 16), Text.digitChar (n % 16)]
  else [c]

def quoteText (s : String) : String :=
  String.ofList ('\x22' :: s.toList.flatMap quoteChar ++ ['\x22'])

def wholeText : Int → String
  | .ofNat n => Text.decimal n
  | .negSucc n => "-" ++ Text.decimal (n + 1)

def lineStart (level : Nat) : String :=
  "\n" ++ String.ofList (List.replicate (2 * level) ' ')

mutual

/-- A value whose first line stands at a level. -/
def render (level : Nat) : Value → String
  | .null => "null"
  | .flag true => "true"
  | .flag false => "false"
  | .whole n => wholeText n
  | .fraction text => text
  | .text s => quoteText s
  | .list [] => "[]"
  | .list items => "[" ++ ",".intercalate (renderItems (level + 1) items) ++ lineStart level ++ "]"
  | .record [] => "\x7b\x7d"
  | .record fields =>
    "\x7b" ++ ",".intercalate (renderFields (level + 1) fields) ++ lineStart level ++ "\x7d"

/-- The elements of a list, each on a line of its own. -/
def renderItems (level : Nat) : List Value → List String
  | [] => []
  | v :: vs => (lineStart level ++ render level v) :: renderItems level vs

def renderFields (level : Nat) : List (String × Value) → List String
  | [] => []
  | (name, v) :: fields =>
    (lineStart level ++ quoteText name ++ ": " ++ render level v) :: renderFields level fields

end

/-- A value as JSON text. -/
def text (v : Value) : String :=
  render 0 v

end MarketSync.Document.Json

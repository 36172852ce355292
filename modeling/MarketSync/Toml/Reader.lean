import MarketSync.Toml.Scalar
import MarketSync.Toml.Text
import MarketSync.Toml.Tree

/-!
# TOML: documents

A document is a sequence of lines: headers, pairs of a key and a value, and comments. Values nest at
most 79 deep and keys have at most 79 parts. Every loop is bounded by the length of the text, of
which each round reads at least one character.
-/

namespace MarketSync.Toml

open Document (Value)

/-- How deep values nest, and how many parts a key has. -/
def depthLimit : Nat := 79

/-! ## Keys -/

/-- The characters of keys without quotes. -/
def isKeyChar (c : Char) : Bool :=
  c.isAlphanum || c == '-' || c == '_'

def keyPart : List Char → Option (String × List Char)
  | '\x22' :: cs => (basicText [] cs).map fun (s, rest) => (String.ofList s, rest)
  | '\x27' :: cs => (literalText [] cs).map fun (s, rest) => (String.ofList s, rest)
  | cs =>
    let part := cs.takeWhile isKeyChar
    if part.isEmpty then none else some (String.ofList part, cs.dropWhile isKeyChar)

/-- The parts of a key, with blanks around each: all but the last, and the last. -/
def keyParts : (fuel : Nat) → List Char → Option ((List String × String) × List Char)
  | 0, _ => none
  | fuel + 1, cs =>
    match keyPart (skipSpaces cs) with
    | none => none
    | some (part, rest) =>
      match skipSpaces rest with
      | '.' :: rest =>
        (keyParts fuel rest).map fun ((path, last), rest) => ((part :: path, last), rest)
      | rest => some (([], part), rest)

/-- A key; its last part is set apart from the path in front of it. -/
def readKey (fuel : Nat) (cs : List Char) : Option ((List String × String) × List Char) :=
  match keyParts fuel cs with
  | some (key, rest) => if key.1.length < depthLimit then some (key, rest) else none
  | none => none

/-! ## Values -/

/-- The elements of an array, up to its closing bracket. -/
def arrayItems (item : List Char → Option (Value × List Char)) :
    (fuel : Nat) → List Char → Option (List Value × List Char)
  | 0, _ => none
  | fuel + 1, cs =>
    match skipLines false cs with
    | none => none
    | some (']' :: rest) => some ([], rest)
    | some cs =>
      match item cs with
      | none => none
      | some (v, rest) =>
        match skipLines false rest with
        | some (',' :: rest) => (arrayItems item fuel rest).map fun (vs, rest) => (v :: vs, rest)
        | some (']' :: rest) => some ([v], rest)
        | _ => none

def readPair (item : List Char → Option (Value × List Char)) (fuel : Nat) (cs : List Char) :
    Option ((List String × String) × Value × List Char) :=
  match readKey fuel cs with
  | some (key, '=' :: rest) =>
    (item (skipSpaces rest)).map fun (v, rest) => (key, v, rest)
  | _ => none

/-- The pairs of a table within a line, up to its closing brace. -/
def inlinePairs (item : List Char → Option (Value × List Char)) :
    (fuel : Nat) → Entries → List Char → Option (Entries × List Char)
  | 0, _, _ => none
  | fuel + 1, es, cs =>
    match readPair item fuel cs with
    | none => none
    | some ((path, name), v, rest) =>
      match putValue path name v .header es with
      | none => none
      | some es =>
        match skipSpaces rest with
        | ',' :: rest => inlinePairs item fuel es rest
        | '\x7d' :: rest => some (es, rest)
        | _ => none

def inlineTable (item : List Char → Option (Value × List Char)) (fuel : Nat) (cs : List Char) :
    Option (Value × List Char) :=
  match skipSpaces cs with
  | '\x7d' :: rest => some (.record [], rest)
  | cs => (inlinePairs item fuel [] cs).map fun (es, rest) => (.record (entryValues es), rest)

/-- A value, in which others may nest as deep as `depth`. -/
def readValue (fuel : Nat) : (depth : Nat) → List Char → Option (Value × List Char)
  | depth, cs =>
    match quotedText? cs with
    | some quoted => quoted.map fun (s, rest) => (.text (String.ofList s), rest)
    | none =>
      match cs, depth with
      | '[' :: rest, d + 1 =>
        (arrayItems (readValue fuel d) fuel rest).map fun (vs, rest) => (.list vs, rest)
      | '\x7b' :: rest, d + 1 => inlineTable (readValue fuel d) fuel rest
      | '[' :: _, 0 | '\x7b' :: _, 0 => none
      | cs, _ => readScalar cs

/-! ## Lines -/

/-- What the lines read so far built: the whole document, and the header under which pairs go. -/
structure Draft where
  root : Entries
  header : List String

/-- Puts a value under the header. -/
def Draft.put (d : Draft) (path : List String) (name : String) (v : Value) : Option Draft :=
  (descend false d.header (putValue path name v) .header d.root).map fun root =>
    { d with root := root }

def readHeader (fuel : Nat) (d : Draft) : List Char → Option (Draft × List Char)
  | '[' :: '[' :: cs =>
    match readKey fuel cs with
    | some ((path, name), ']' :: ']' :: rest) =>
      match openItem path name d.root, lineEnd rest with
      | some root, some rest => some (⟨root, path ++ [name]⟩, rest)
      | _, _ => none
    | _ => none
  | '[' :: cs =>
    match readKey fuel cs with
    | some ((path, name), ']' :: rest) =>
      match openTable path name d.root, lineEnd rest with
      | some root, some rest => some (⟨root, path ++ [name]⟩, rest)
      | _, _ => none
    | _ => none
  | _ => none

def readPairLine (fuel : Nat) (d : Draft) (cs : List Char) : Option (Draft × List Char) :=
  match readPair (readValue fuel depthLimit) fuel cs with
  | none => none
  | some ((path, name), v, rest) =>
    match d.put path name v, lineEnd rest with
    | some d, some rest => some (d, rest)
    | _, _ => none

/-- Reads lines to the end of the text. -/
def readLines (whole : Nat) : (fuel : Nat) → Draft → List Char → Option Draft
  | 0, _, _ => none
  | fuel + 1, d, cs =>
    match skipSpaces cs with
    | [] => some d
    | '#' :: cs => (lineEnd ('#' :: cs)).bind (readLines whole fuel d)
    | '[' :: cs =>
      match readHeader whole d ('[' :: cs) with
      | some (d, rest) => readLines whole fuel d rest
      | none => none
    | cs =>
      match newline? cs with
      | some rest => readLines whole fuel d rest
      | none =>
        match readPairLine whole d cs with
        | some (d, rest) => readLines whole fuel d rest
        | none => none

/-- The value of a document, if its text follows the grammar. A byte order mark in front does not
count. -/
def parse (text : String) : Option Value :=
  let cs := match text.toList with
    | '\uFEFF' :: cs => cs
    | cs => cs
  let fuel := cs.length + 1
  (readLines fuel fuel ⟨[], []⟩ cs).map fun d => .record (entryValues d.root)

end MarketSync.Toml

import MarketSync.Document.Value

/-!
# TOML: tables under construction

A table comes into being by its own header, on the way to a table named by a longer header, or by a
key with dots. What was opened in one way may not be opened again in another: a header may take over
a table that only lay on the way, a key with dots may only extend what such keys opened, and a value
is never extended. Names keep the order of their first appearance, except that a header takes a
table that lay on the way to the place of the header.
-/

namespace MarketSync.Toml

open Document (Value)

/-- How a table came into being. -/
inductive TableKind where
  | header
  | onTheWay
  | dotted
  deriving DecidableEq, Repr

/-- A table under construction, an array of such tables, or a finished value. -/
inductive Node where
  | value (v : Value)
  | table (kind : TableKind) (entries : List (String × Node))
  | tables (items : List (List (String × Node)))

abbrev Entries := List (String × Node)

namespace Entries

def find (name : String) (es : Entries) : Option Node :=
  es.lookup name

def put (name : String) (n : Node) : Entries → Entries
  | [] => [(name, n)]
  | (m, o) :: es => if m = name then (name, n) :: es else (m, o) :: put name n es

def remove (name : String) (es : Entries) : Entries :=
  es.filter fun e => e.1 ≠ name

end Entries

/-- A change of a table, which may be refused. -/
abbrev Change := TableKind → Entries → Option Entries

/-- Changes the last table of an array. -/
def changeLast (change : Entries → Option Entries) : List Entries → Option (List Entries)
  | [] => none
  | [es] => (change es).map ([·])
  | es :: rest => (changeLast change rest).map (es :: ·)

/-- Changes the table at the end of a path, opening the tables that are missing on the way. -/
def descend (dotted : Bool) : (path : List String) → Change → Change
  | [], change, kind, es => change kind es
  | name :: path, change, _, es =>
    match es.find name with
    | none =>
      let kind := if dotted then .dotted else .onTheWay
      (descend dotted path change kind []).map fun sub => es.put name (.table kind sub)
    | some (.value _) => none
    | some (.tables items) =>
      (changeLast (descend dotted path change .header) items).map fun items =>
        es.put name (.tables items)
    | some (.table kind sub) =>
      if dotted && kind == .header then none
      else (descend dotted path change kind sub).map fun sub => es.put name (.table kind sub)

def openTable (path : List String) (name : String) (root : Entries) : Option Entries :=
  descend false path (fun _ es =>
    match es.find name with
    | none => some (es ++ [(name, .table .header [])])
    | some (.table .onTheWay sub) => some (es.remove name ++ [(name, .table .header sub)])
    | some _ => none) .header root

def openItem (path : List String) (name : String) (root : Entries) : Option Entries :=
  descend false path (fun _ es =>
    match es.find name with
    | none => some (es ++ [(name, .tables [[]])])
    | some (.tables items) => some (es.put name (.tables (items ++ [[]])))
    | some _ => none) .header root

/-- Puts a value at the end of a path of names with dots between them. -/
def putValue (path : List String) (name : String) (v : Value) (kind : TableKind) (es : Entries) :
    Option Entries :=
  descend true path (fun kind es =>
    if !path.isEmpty && kind != .dotted then none
    else
      match es.find name with
      | none => some (es ++ [(name, .value v)])
      | some _ => none) kind es

mutual

/-- A finished node as a value. -/
def Node.toValue : Node → Value
  | .value v => v
  | .table _ es => .record (entryValues es)
  | .tables items => .list (itemValues items)

def entryValues : Entries → List (String × Value)
  | [] => []
  | (name, n) :: es => (name, n.toValue) :: entryValues es

def itemValues : List Entries → List Value
  | [] => []
  | es :: rest => .record (entryValues es) :: itemValues rest

end

end MarketSync.Toml

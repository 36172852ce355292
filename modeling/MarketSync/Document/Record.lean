import MarketSync.Document.Value

/-!
# Reading records

A record is described by its fields: their names, and what each value contributes to a draft of the
result. Fields are read in the order of the document, so the first fault in the document counts; a
field that is not described is a fault. A record may also be written as the list of its values in
the order of the description.
-/

namespace MarketSync.Document

/-- One field of a record under construction. -/
structure RecordField (σ : Type) where
  name : String
  /-- Whether a list may end before this field. -/
  skippable : Bool := false
  /-- Reads the value and stores it in the draft. -/
  store : Value → σ → Except DecodeError σ

namespace RecordField

def of {σ α : Type} (name : String) (read : Value → Except DecodeError α) (set : α → σ → σ) :
    RecordField σ where
  name := name
  store v draft := (read v).map fun a => set a draft

/-- A field that has a value of its own where it is absent. -/
def withDefault {σ α : Type} (name : String) (read : Value → Except DecodeError α)
    (set : α → σ → σ) : RecordField σ :=
  { RecordField.of name read set with skippable := true }

end RecordField

/-- Reads one named value into the draft. -/
def storeField {σ : Type} (fields : List (RecordField σ)) (entry : String × Value) (draft : σ) :
    Except DecodeError σ :=
  match fields.find? fun f => f.name == entry.1 with
  | some f => f.store entry.2 draft
  | none => .error (.unknownField entry.1 (fields.map (·.name)))

def readFields {σ : Type} (fields : List (RecordField σ)) :
    List (String × Value) → σ → Except DecodeError σ
  | [], draft => .ok draft
  | entry :: entries, draft =>
    match storeField fields entry draft with
    | .error e => .error e
    | .ok draft => readFields fields entries draft

/-- Reads values by position. With `exactLists` no value may be left over. -/
def readPositions {σ : Type} (exactLists : Bool) :
    List (RecordField σ) → List Value → σ → Except DecodeError σ
  | [], rest, draft => if exactLists && !rest.isEmpty then .error .mismatch else .ok draft
  | f :: fs, [], draft => if f.skippable then readPositions exactLists fs [] draft
    else .error .mismatch
  | f :: fs, v :: vs, draft =>
    match f.store v draft with
    | .error e => .error e
    | .ok draft => readPositions exactLists fs vs draft

/-- Reads a record of either form. -/
def readRecord {σ : Type} (exactLists : Bool) (fields : List (RecordField σ)) (draft : σ) :
    Value → Except DecodeError σ
  | .record entries => readFields fields entries draft
  | .list items => readPositions exactLists fields items draft
  | _ => .error .mismatch

def required {α : Type} (name : String) : Option α → Except DecodeError α
  | some a => .ok a
  | none => .error (.missingField name)

end MarketSync.Document

import MarketSync.Proofs.RoundTrip

/-!
# Documents that differ in one place

What a reader makes of a document in which one field is added, taken away or given another value, from what it makes of
the document as it was. A field that no description knows stops the reader wherever it stands. A field that is taken
away leaves the draft as if it had never been read, and a field with another value changes the draft in that place
alone, because fields of other names put their values elsewhere.

* `readFields_unknown` — a field that is not described is a fault.
* `Forgets.readFields_removed` — reading without a field.
* `Owns.readRecord_replaced` — reading with another value in a field, in a record or in the list of its values.
* `readItems_replaced` — reading with another item in a list.
* `Strict` — unknown fields are faults, required fields are missed, and other fields have a default.
* `Strict.through` — a strict object makes the whole strict that is read through it.
* `strict_of_readFields` — readers of records are strict.
-/

namespace MarketSync.Document

section Fields

variable {σ α : Type} {fields : List (RecordField σ)} {entries before after : List (String × Value)} {s t : σ}
  {name key : String} {v : Value}

/-! ## Reading on -/

theorem exists_of_storeField (h : storeField fields (name, v) s = .ok t) :
    ∃ f ∈ fields, f.name = name ∧ ∀ v s, storeField fields (name, v) s = f.store v s := by
  unfold storeField at h
  split at h
  · rename_i f hf
    refine ⟨f, List.mem_of_find?_eq_some hf, by simpa using List.find?_some hf, ?_⟩
    intro v s
    unfold storeField
    rw [hf]
  · cases h

theorem storeField_unknown (h : key ∉ fields.map (·.name)) (v : Value) (s : σ) :
    storeField fields (key, v) s = .error (.unknownField key (fields.map (·.name))) := by
  have hnone : fields.find? (fun f => f.name == key) = none := by
    rw [List.find?_eq_none]
    intro f hf hname
    apply h
    rw [← (beq_iff_eq.1 hname : f.name = key)]
    exact List.mem_map_of_mem hf
  unfold storeField
  rw [hnone]

/-- A document that is read has a first field, which is read first. -/
theorem exists_of_readFields_cons {entry : String × Value}
    (h : readFields fields (entry :: entries) s = .ok t) :
    ∃ s', storeField fields entry s = .ok s' ∧ readFields fields entries s' = .ok t := by
  unfold readFields at h
  split at h
  · cases h
  · rename_i s' hs'
    exact ⟨s', hs', h⟩

theorem readFields_cons_of_ok {entry : String × Value} {s' : σ} (h : storeField fields entry s = .ok s') :
    readFields fields (entry :: entries) s = readFields fields entries s' := by
  rw [readFields, h]

theorem readFields_cons_of_error {entry : String × Value} {e : DecodeError}
    (h : storeField fields entry s = .error e) : readFields fields (entry :: entries) s = .error e := by
  rw [readFields, h]

/-- **A field that is not described is a fault, wherever it stands and whatever its value is.** -/
theorem readFields_unknown (hread : readFields fields (before ++ after) s = .ok t)
    (hkey : key ∉ fields.map (·.name)) (v : Value) :
    readFields fields (before ++ (key, v) :: after) s = .error (.unknownField key (fields.map (·.name))) := by
  induction before generalizing s with
  | nil => exact readFields_cons_of_error (storeField_unknown hkey v s)
  | cons entry before ih =>
    obtain ⟨s', hstore, hrest⟩ := exists_of_readFields_cons hread
    rw [List.cons_append, readFields_cons_of_ok hstore]
    exact ih hrest

/-! ## Fields that are forgotten -/

/-- What the field puts into a draft is undone by `forget` if the field has the name, and is put in all the same if it
has another name. -/
def RecordField.Forgotten (f : RecordField σ) (name : String) (forget : σ → σ) : Prop :=
  ∀ v s t, f.store v s = .ok t →
    (f.name = name → forget t = forget s) ∧ (f.name ≠ name → f.store v (forget s) = .ok (forget t))

/-- `forget` undoes what the field of a name contributes, and nothing else. -/
def Forgets (fields : List (RecordField σ)) (name : String) (forget : σ → σ) : Prop :=
  ∀ f ∈ fields, f.Forgotten name forget

/-- What a setter puts into the draft is undone, or stands apart. -/
theorem RecordField.of_forgotten {n : String} {read : Value → Except DecodeError α} {set : α → σ → σ} {forget : σ → σ}
    (hset : ∀ a s, forget (set a s) = if name = n then forget s else set a (forget s)) :
    (RecordField.of n read set).Forgotten name forget := by
  intro v s t h
  simp only [RecordField.of] at h ⊢
  cases hread : read v with
  | error e =>
    rw [hread] at h
    cases h
  | ok a =>
    rw [hread] at h
    cases h
    constructor
    · intro hname
      rw [hset, if_pos hname.symm]
    · intro hname
      rw [hset, if_neg (Ne.symm hname)]
      rfl

theorem RecordField.withDefault_forgotten {n : String} {read : Value → Except DecodeError α} {set : α → σ → σ}
    {forget : σ → σ} (hset : ∀ a s, forget (set a s) = if name = n then forget s else set a (forget s)) :
    (RecordField.withDefault n read set).Forgotten name forget :=
  @RecordField.of_forgotten σ α name n read set forget hset

variable {forget : σ → σ}

/-- **Without a field a record is read as if the field had been forgotten.** -/
theorem Forgets.readFields_removed (h : Forgets fields name forget) (hread : readFields fields entries s = .ok t) :
    readFields fields (entries.filter fun e => e.1 ≠ name) (forget s) = .ok (forget t) := by
  induction entries generalizing s with
  | nil =>
    cases hread
    rfl
  | cons entry entries ih =>
    obtain ⟨s', hstore, hrest⟩ := exists_of_readFields_cons hread
    obtain ⟨f, hf, hname, heq⟩ := exists_of_storeField hstore
    rw [heq] at hstore
    obtain ⟨own, others⟩ := h f hf entry.2 s s' hstore
    by_cases hentry : entry.1 = name
    · have hforget : forget s = forget s' := (own (hname.trans hentry)).symm
      rw [List.filter_cons_of_neg (by simpa using hentry), hforget]
      exact ih hrest
    · have hstored : storeField fields (entry.1, entry.2) (forget s) = .ok (forget s') := by
        rw [heq]
        exact others (by rwa [hname])
      rw [List.filter_cons_of_pos (by simpa using hentry), readFields_cons_of_ok hstored]
      exact ih hrest

/-- Fields of other names are read as they were. -/
theorem Forgets.readFields_others (h : Forgets fields name forget) (hnone : name ∉ entries.map Prod.fst)
    (hread : readFields fields entries s = .ok t) : readFields fields entries (forget s) = .ok (forget t) := by
  have hall : (entries.filter fun e => e.1 ≠ name) = entries := by
    rw [List.filter_eq_self]
    intro e he
    rw [decide_eq_true_eq]
    rintro rfl
    exact hnone (List.mem_map_of_mem he)
  rw [← hall]
  exact h.readFields_removed hread

/-- By position too, fields of other names are read as they were. -/
theorem Forgets.readPositions_others (h : Forgets fields name forget) (hnone : name ∉ fields.map (·.name))
    {exactLists : Bool} {items : List Value} (hread : readPositions exactLists fields items s = .ok t) :
    readPositions exactLists fields items (forget s) = .ok (forget t) := by
  induction fields generalizing items s with
  | nil =>
    unfold readPositions at hread ⊢
    split at hread
    · cases hread
    · rename_i hlast
      cases hread
      rw [if_neg hlast]
  | cons f fields ih =>
    have htail : Forgets fields name forget := fun g hg => h g (List.mem_cons_of_mem f hg)
    rw [List.map_cons, List.mem_cons, not_or] at hnone
    cases items with
    | nil =>
      unfold readPositions at hread ⊢
      split at hread
      · rename_i hskip
        rw [if_pos hskip]
        exact ih htail hnone.2 hread
      · cases hread
    | cons v items =>
      unfold readPositions at hread ⊢
      split at hread
      · cases hread
      · rename_i s' hstore
        have hstored := (h f List.mem_cons_self v s s' hstore).2 (Ne.symm hnone.1)
        rw [hstored]
        exact ih htail hnone.2 hread

/-! ## Another value in a field -/

/-- The documents that have any value in one field and the same values in all others: records, or the lists of their
values in the order of the names. Of entries of one name the last counts, and an object has only one. -/
inductive FieldOf (names : List String) (name : String) : (Value → Value) → Prop
  | named (before after : List (String × Value)) (last : name ∉ after.map Prod.fst) :
      FieldOf names name fun v => .record (before ++ (name, v) :: after)
  | placed (before after : List Value) (position : names[before.length]? = some name) :
      FieldOf names name fun v => .list (before ++ v :: after)

/-- The field of a name is read by `read`, and what is read is put into the draft by `set`, in a place of its own. -/
structure Owns (fields : List (RecordField σ)) (name : String) (read : Value → Except DecodeError α)
    (set : α → σ → σ) : Prop where
  distinct : (fields.map (·.name)).Nodup
  store : ∀ f ∈ fields, f.name = name → ∀ v s, f.store v s = (read v).map fun a => set a s
  separate : ∀ a, Forgets fields name (set a)

namespace Owns

variable {read : Value → Except DecodeError α} {set : α → σ → σ} {o : Value}

/-- Names being distinct, a field that is described owns its name if what it puts into the draft stands apart. -/
theorem of_describes (distinct : (fields.map (·.name)).Nodup) (hfield : Describes fields name read set)
    (separate : ∀ a, Forgets fields name (set a)) : Owns fields name read set := by
  refine ⟨distinct, ?_, separate⟩
  intro f hf hname v s
  obtain ⟨g, hg, hgname, hstore⟩ := hfield
  rw [List.inj_on_of_nodup_map distinct hf hg (hname.trans hgname.symm)]
  exact hstore v s

theorem tail {f : RecordField σ} (h : Owns (f :: fields) name read set) : Owns fields name read set where
  distinct := (List.nodup_cons.1 h.distinct).2
  store g hg := h.store g (List.mem_cons_of_mem f hg)
  separate a g hg := h.separate a g (List.mem_cons_of_mem f hg)

/-- **In a record, another value in a field is put over what the field contributed.** -/
theorem readFields_replaced (h : Owns fields name read set) (hlast : name ∉ after.map Prod.fst)
    (hread : readFields fields (before ++ (name, o) :: after) s = .ok t) (v : Value) :
    readFields fields (before ++ (name, v) :: after) s = (read v).map fun a => set a t := by
  induction before generalizing s with
  | nil =>
    obtain ⟨s', hstore, hrest⟩ := exists_of_readFields_cons hread
    obtain ⟨f, hf, hname, heq⟩ := exists_of_storeField hstore
    rw [heq] at hstore
    rw [List.nil_append, readFields, heq, h.store f hf hname]
    cases read v with
    | error e => rfl
    | ok a =>
      have hagain : set a s' = set a s := (h.separate a f hf o s s' hstore).1 hname
      show readFields fields after (set a s) = .ok (set a t)
      rw [← hagain]
      exact (h.separate a).readFields_others hlast hrest
  | cons entry before ih =>
    obtain ⟨s', hstore, hrest⟩ := exists_of_readFields_cons hread
    rw [List.cons_append, readFields_cons_of_ok hstore]
    exact ih hrest

/-- **And so it is in a list of values, at the position of the field.** -/
theorem readPositions_replaced {exactLists : Bool} {before after : List Value} (h : Owns fields name read set)
    (hposition : (fields.map (·.name))[before.length]? = some name)
    (hread : readPositions exactLists fields (before ++ o :: after) s = .ok t) (v : Value) :
    readPositions exactLists fields (before ++ v :: after) s = (read v).map fun a => set a t := by
  induction before generalizing fields s with
  | nil =>
    cases fields with
    | nil => cases hposition
    | cons f fields =>
      have hname : f.name = name := by simpa using hposition
      have hnone : name ∉ fields.map (·.name) := by
        rw [← hname]
        exact (List.nodup_cons.1 h.distinct).1
      rw [List.nil_append, readPositions] at hread ⊢
      split at hread
      · cases hread
      · rename_i s' hstore
        rw [h.store f List.mem_cons_self hname]
        cases read v with
        | error e => rfl
        | ok a =>
          have hagain : set a s' = set a s := (h.separate a f List.mem_cons_self o s s' hstore).1 hname
          show readPositions exactLists fields after (set a s) = .ok (set a t)
          rw [← hagain]
          exact (h.tail.separate a).readPositions_others hnone hread
  | cons w before ih =>
    cases fields with
    | nil => cases hposition
    | cons f fields =>
      rw [List.cons_append, readPositions] at hread ⊢
      split at hread
      · cases hread
      · rename_i s' _
        exact ih h.tail (by simpa using hposition) hread

/-- **A document is read with another value in a field as what it was read as, with what that value is read as.** -/
theorem readRecord_replaced {exactLists : Bool} {fill : Value → Value} (h : Owns fields name read set)
    (hfill : FieldOf (fields.map (·.name)) name fill) (hread : readRecord exactLists fields s (fill o) = .ok t)
    (v : Value) : readRecord exactLists fields s (fill v) = (read v).map fun a => set a t := by
  cases hfill with
  | named before after last => exact h.readFields_replaced last hread v
  | placed before after position => exact h.readPositions_replaced position hread v

end Owns

end Fields

/-! ## Readers within readers -/

/-- Where the whole has been read, its part has. -/
theorem exists_of_map_ok {α β : Type} {x : Except DecodeError α} {put : α → β} {b : β} (h : x.map put = .ok b) :
    ∃ a, x = .ok a ∧ put a = b := by
  cases x with
  | error e => cases h
  | ok a => exact ⟨a, rfl, Except.ok.inj h⟩

/-! ## Another item in a list -/

/-- **Another item in a list takes the place of what the item was read as.** -/
theorem readItems_replaced {α : Type} {read : Value → Except DecodeError α} {before after : List Value} {o : Value}
    {all : List α} (hread : Value.readItems read (before ++ o :: after) = .ok all) :
    ∃ front back, front.length = before.length ∧
      ∀ v, Value.readItems read (before ++ v :: after) = (read v).map fun a => front ++ a :: back := by
  induction before generalizing all with
  | nil =>
    rw [List.nil_append, Value.readItems] at hread
    split at hread
    · cases hread
    · cases hback : Value.readItems read after with
      | error e =>
        rw [hback] at hread
        cases hread
      | ok back =>
        refine ⟨[], back, rfl, ?_⟩
        intro v
        rw [List.nil_append, Value.readItems, hback]
        cases read v with
        | error e => rfl
        | ok a => rfl
  | cons w before ih =>
    rw [List.cons_append, Value.readItems] at hread
    split at hread
    · cases hread
    · rename_i b hb
      cases hrest : Value.readItems read (before ++ o :: after) with
      | error e =>
        rw [hrest] at hread
        cases hread
      | ok rest =>
        obtain ⟨front, back, hlength, hitems⟩ := ih hrest
        refine ⟨b :: front, back, by simp [hlength], ?_⟩
        intro v
        rw [List.cons_append, Value.readItems, hb, hitems v]
        cases read v with
        | error e => rfl
        | ok a => rfl

/-! ## Strict objects -/

/-- How an object is read with one field more or less, by a reader of its entries: a key that is not among the known
ones is a fault that names it, a required field that is taken away is missed by its name, and any other field that is
taken away leaves what is given by `without`. -/
structure Strict {α : Type} (read : List (String × Value) → Except DecodeError α) (entries : List (String × Value))
    (known : Option (List String)) (required : List String) (without : String → α) : Prop where
  unknown : ∀ names, known = some names → ∀ key ∉ names, ∀ v before after, entries = before ++ after →
    read (before ++ (key, v) :: after) = .error (.unknownField key names)
  missing : ∀ name ∈ required, read (entries.filter fun e => e.1 ≠ name) = .error (.missingField name)
  default : ∀ name ∉ required, read (entries.filter fun e => e.1 ≠ name) = .ok (without name)

section Strict

variable {α β σ : Type} {entries : List (String × Value)} {required : List String}

/-- Where the whole is read through the object, it is read as strictly. -/
theorem Strict.through {read : List (String × Value) → Except DecodeError α}
    {whole : List (String × Value) → Except DecodeError β} {known : Option (List String)} {without : String → α}
    (h : Strict read entries known required without) {put : α → β} (hwhole : ∀ es, whole es = (read es).map put) :
    Strict whole entries known required fun name => put (without name) where
  unknown names hnames key hkey v before after hsplit := by
    rw [hwhole, h.unknown names hnames key hkey v before after hsplit]
    rfl
  missing name hname := by
    rw [hwhole, h.missing name hname]
    rfl
  default name hname := by
    rw [hwhole, h.default name hname]
    rfl

/-- **Readers of records are strict.** Forgetting a field is what taking it away comes to, and what is made of the
draft at the end decides whether the field is missed. -/
theorem strict_of_readFields {fields : List (RecordField σ)} {start : σ} {forget : String → σ → σ}
    {finish : σ → Except DecodeError α} {read : List (String × Value) → Except DecodeError α} {a : α}
    {without : String → α} (hfinish : ∀ es, read es = (readFields fields es start).bind finish)
    (hread : read entries = .ok a) (hforget : ∀ name, Forgets fields name (forget name))
    (hstart : ∀ name, forget name start = start)
    (hmissing : ∀ t, finish t = .ok a → ∀ name ∈ required, finish (forget name t) = .error (.missingField name))
    (hdefault : ∀ t, finish t = .ok a → ∀ name ∉ required, finish (forget name t) = .ok (without name)) :
    Strict read entries (some (fields.map (·.name))) required without := by
  rw [hfinish] at hread
  cases hfields : readFields fields entries start with
  | error e =>
    rw [hfields] at hread
    cases hread
  | ok t =>
    rw [hfields] at hread
    have hremoved (name : String) : read (entries.filter fun e => e.1 ≠ name) = finish (forget name t) := by
      have hrest := (hforget name).readFields_removed hfields
      rw [hstart] at hrest
      rw [hfinish, hrest]
      rfl
    refine ⟨?_, ?_, ?_⟩
    · intro names hnames key hkey v before after hsplit
      cases hnames
      rw [hsplit] at hfields
      rw [hfinish, readFields_unknown hfields hkey v]
      rfl
    · intro name hname
      rw [hremoved]
      exact hmissing t hread name hname
    · intro name hname
      rw [hremoved]
      exact hdefault t hread name hname

end Strict

end MarketSync.Document

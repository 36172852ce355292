import Mathlib.Data.List.Nodup
import MarketSync.Sync.Entry

/-!
# Slots and what entries leave in them

The store as a function from slots to what they hold. An entry is settled by writing its slot only
where that reads differently; `settleAll` settles a list of entries in order.

* `settleAll_apply` — what a slot holds afterwards depends on the values of the entries that name it.
* `read_settleAll` — the last entry that names a slot decides how the slot reads.
* `settleAll_prefix` — having settled the first few entries before changes nothing in the end.
* `holds_settleAll_iff` — all entries hold afterwards exactly if no slot is named with two values.
* `changed_of_nodup` — entries with different slots take a write if they do not hold at the start.
-/

namespace MarketSync

/-- A slot of the store. Numbers and words lie apart, also under one key. -/
inductive Slot where
  | uint (key : Bytes32)
  | bytes32 (key : Bytes32)
  deriving DecidableEq

namespace Slot

def key : Slot → Bytes32
  | .uint key => key
  | .bytes32 key => key

/-- How a slot reads that was never set. -/
def zero : Slot → SlotValue
  | .uint _ => .uint 0
  | .bytes32 _ => .bytes32 0

end Slot

def SlotValue.slot (v : SlotValue) (key : Bytes32) : Slot :=
  match v with
  | .uint _ => .uint key
  | .bytes32 _ => .bytes32 key

def Entry.slot (e : Entry) : Slot := e.value.slot e.key

@[simp] theorem Entry.key_slot (e : Entry) : e.slot.key = e.key := by
  unfold Entry.slot SlotValue.slot
  split <;> rfl

theorem Entry.key_eq_of_slot_eq {e e' : Entry} (h : e.slot = e'.slot) : e.key = e'.key := by
  rw [← e.key_slot, ← e'.key_slot, h]

/-- What the slots of a store hold; a slot that was never set holds nothing. -/
def Slots : Type := Slot → Option SlotValue

namespace Slots

def read (f : Slots) (s : Slot) : SlotValue := (f s).getD s.zero

def put (f : Slots) (e : Entry) : Slots := fun s => if s = e.slot then some e.value else f s

/-- The slot of an entry reads as its value. -/
def Holds (f : Slots) (e : Entry) : Prop := f.read e.slot = e.value

instance (f : Slots) (e : Entry) : Decidable (f.Holds e) := inferInstanceAs (Decidable (_ = _))

/-- Writes an entry only where its slot reads differently. -/
def settle (f : Slots) (e : Entry) : Slots := if f.Holds e then f else f.put e

def settleAll (f : Slots) (es : List Entry) : Slots := es.foldl settle f

/-- The entries among those settled in order that take a write. -/
def changed (f : Slots) : List Entry → List Entry
  | [] => []
  | e :: es => if f.Holds e then changed f es else e :: changed (f.put e) es

@[simp] theorem settleAll_nil (f : Slots) : f.settleAll [] = f := rfl

@[simp] theorem settleAll_cons (f : Slots) (e : Entry) (es : List Entry) :
    f.settleAll (e :: es) = (f.settle e).settleAll es := rfl

theorem settle_of_holds {f : Slots} {e : Entry} (h : f.Holds e) : f.settle e = f := if_pos h

theorem settle_of_not_holds {f : Slots} {e : Entry} (h : ¬ f.Holds e) : f.settle e = f.put e :=
  if_neg h

theorem holds_put_iff {f : Slots} {e e' : Entry} (h : e'.slot ≠ e.slot) : (f.put e).Holds e' ↔ f.Holds e' := by
  rw [Holds, Holds, read, read, put, if_neg h]

theorem changed_cons (f : Slots) (e : Entry) (es : List Entry) :
    f.changed (e :: es) = (if f.Holds e then [] else [e]) ++ (f.settle e).changed es := by
  by_cases he : f.Holds e
  · simp [changed, he, settle_of_holds he]
  · simp [changed, he, settle_of_not_holds he]

theorem changed_eq_nil_iff (f : Slots) : ∀ es : List Entry, f.changed es = [] ↔ ∀ e ∈ es, f.Holds e
  | [] => by simp [changed]
  | e :: es => by
    by_cases he : f.Holds e
    · simp [changed, he, changed_eq_nil_iff f es]
    · simp [changed, he]

theorem changed_sublist (f : Slots) (es : List Entry) : (f.changed es).Sublist es := by
  induction es generalizing f with
  | nil => exact .slnil
  | cons e es ih =>
    unfold changed
    split
    · exact (ih f).cons e
    · exact (ih _).cons_cons e

/-! ## One slot at a time -/

/-- A value settled in a slot that reads `zero` unless it was set. -/
def settleValue (zero : SlotValue) (o : Option SlotValue) (v : SlotValue) : Option SlotValue :=
  if o.getD zero = v then o else some v

/-- The values with which entries name a slot, in order. -/
def valuesFor (s : Slot) (es : List Entry) : List SlotValue :=
  (es.filter fun e => e.slot = s).map (·.value)

theorem mem_valuesFor {s : Slot} {es : List Entry} {v : SlotValue} :
    v ∈ valuesFor s es ↔ ∃ e ∈ es, e.slot = s ∧ e.value = v := by
  simp [valuesFor, and_assoc]

theorem count_slot (s : Slot) (es : List Entry) : (es.map (·.slot)).count s = (valuesFor s es).length := by
  induction es with
  | nil => rfl
  | cons e es ih =>
    rw [List.map_cons, List.count_cons, ih, valuesFor, valuesFor, List.filter_cons]
    by_cases h : e.slot = s <;> simp [h]

theorem settle_apply (f : Slots) (e : Entry) (s : Slot) :
    f.settle e s = if e.slot = s then settleValue s.zero (f s) e.value else f s := by
  by_cases hs : e.slot = s
  · subst hs
    by_cases he : f.Holds e
    · have hv : (f e.slot).getD e.slot.zero = e.value := he
      simp [settle, he, settleValue, hv]
    · have hv : ¬ (f e.slot).getD e.slot.zero = e.value := he
      simp [settle, he, settleValue, hv, put]
  · have hs' : ¬ s = e.slot := fun h => hs h.symm
    by_cases he : f.Holds e
    · simp [settle, he, hs]
    · simp [settle, he, put, hs, hs']

/-- What a slot holds after entries depends on nothing but the values that name it. -/
theorem settleAll_apply (s : Slot) : ∀ (es : List Entry) (f : Slots),
    f.settleAll es s = (valuesFor s es).foldl (settleValue s.zero) (f s)
  | [], _ => rfl
  | e :: es, f => by
    rw [settleAll_cons, settleAll_apply s es, settle_apply]
    by_cases hs : e.slot = s
    · simp [valuesFor, hs]
    · simp [valuesFor, hs]

/-- Values settled one after another leave the slot alone if it reads as each of them, and else set
it to the last one. -/
theorem foldl_settleValue (zero : SlotValue) : ∀ (vs : List SlotValue) (o : Option SlotValue),
    vs.foldl (settleValue zero) o = if ∀ v ∈ vs, v = o.getD zero then o else vs.getLast?
  | [], o => by simp
  | v :: vs, o => by
    rw [List.foldl_cons, foldl_settleValue zero vs, settleValue]
    by_cases hv : o.getD zero = v
    · rw [if_pos hv]
      by_cases hall : ∀ w ∈ vs, w = o.getD zero
      · rw [if_pos hall, if_pos]
        simpa [hv] using hall
      · rw [if_neg hall, if_neg (fun h => hall fun w hw => h w (by simp [hw]))]
        cases vs with
        | nil => simp at hall
        | cons w ws => rw [List.getLast?_cons_cons]
    · rw [if_neg hv, if_neg (fun h : ∀ w ∈ v :: vs, w = o.getD zero => hv (h v (by simp)).symm)]
      by_cases hall : ∀ w ∈ vs, w = v
      · rw [if_pos (by simpa using hall), List.getLast?_cons]
        cases hl : vs.getLast? with
        | none => rfl
        | some w => simp [hall w (List.mem_of_getLast? hl)]
      · rw [if_neg (by simpa using hall)]
        cases vs with
        | nil => simp at hall
        | cons w ws => rw [List.getLast?_cons_cons]

/-- Having settled a prefix before makes no difference to the outcome. -/
theorem foldl_settleValue_prefix (zero : SlotValue) {pre vs : List SlotValue} (h : pre <+: vs)
    (o : Option SlotValue) :
    vs.foldl (settleValue zero) (pre.foldl (settleValue zero) o) = vs.foldl (settleValue zero) o := by
  by_cases hpre : ∀ v ∈ pre, v = o.getD zero
  · rw [foldl_settleValue zero pre, if_pos hpre]
  · have hvs : ¬ ∀ v ∈ vs, v = o.getD zero := fun h' => hpre fun v hv => h' v (h.subset hv)
    rw [foldl_settleValue zero pre, if_neg hpre, foldl_settleValue zero vs, foldl_settleValue zero vs,
      if_neg hvs]
    by_cases hall : ∀ v ∈ vs, v = (pre.getLast?).getD zero
    · -- the slot was set by the prefix, and everything in the list is the value it was set to
      rw [if_pos hall]
      obtain ⟨v, hv⟩ : ∃ v, pre.getLast? = some v := by
        cases hp : pre.getLast? with
        | none => rw [List.getLast?_eq_none_iff.1 hp] at hpre; simp at hpre
        | some v => exact ⟨v, rfl⟩
      obtain ⟨w, hw⟩ : ∃ w, vs.getLast? = some w := by
        cases hp : vs.getLast? with
        | none => rw [List.getLast?_eq_none_iff.1 hp] at hvs; simp at hvs
        | some w => exact ⟨w, rfl⟩
      rw [hv, hw, hall w (List.mem_of_getLast? hw), hv]
      rfl
    · rw [if_neg hall]

theorem getD_foldl_settleValue (zero : SlotValue) (vs : List SlotValue) (o : Option SlotValue) :
    (vs.foldl (settleValue zero) o).getD zero = vs.getLast?.getD (o.getD zero) := by
  rw [foldl_settleValue]
  cases hl : vs.getLast? with
  | none => simp [List.getLast?_eq_none_iff.1 hl]
  | some v =>
    by_cases hall : ∀ w ∈ vs, w = o.getD zero
    · rw [if_pos hall]
      exact (hall v (List.mem_of_getLast? hl)).symm
    · rw [if_neg hall]
      rfl

/-! ## All slots -/

/-- **Settling is insensitive to a prefix settled before.** -/
theorem settleAll_prefix (f : Slots) {pre es : List Entry} (h : pre <+: es) :
    (f.settleAll pre).settleAll es = f.settleAll es := by
  funext s
  have hv : valuesFor s pre <+: valuesFor s es := (h.filter _).map _
  rw [settleAll_apply, settleAll_apply, settleAll_apply, foldl_settleValue_prefix _ hv]

/-- **The last entry that names a slot decides how it reads.** -/
theorem read_settleAll (f : Slots) (es : List Entry) (s : Slot) :
    (f.settleAll es).read s = (valuesFor s es).getLast?.getD (f.read s) := by
  rw [read, settleAll_apply, getD_foldl_settleValue]
  rfl

theorem settleAll_of_not_named {f : Slots} {es : List Entry} {s : Slot} (h : ∀ e ∈ es, e.slot ≠ s) :
    f.settleAll es s = f s := by
  have hv : valuesFor s es = [] := by simpa [valuesFor] using h
  rw [settleAll_apply, hv]
  rfl

/-- A slot reads as an entry after which none names it with another value. -/
theorem read_settleAll_of_last (f : Slots) (pre : List Entry) {e : Entry} {post : List Entry}
    (last : ∀ e' ∈ post, e'.slot = e.slot → e'.value = e.value) :
    (f.settleAll (pre ++ e :: post)).read e.slot = e.value := by
  have hvalues : valuesFor e.slot (pre ++ e :: post) =
      valuesFor e.slot pre ++ e.value :: valuesFor e.slot post := by
    simp [valuesFor]
  rw [read_settleAll, hvalues, List.getLast?_append, List.getLast?_cons, Option.some_or, Option.getD_some]
  cases hl : (valuesFor e.slot post).getLast? with
  | none => rfl
  | some v =>
    obtain ⟨e', he', hs, rfl⟩ := mem_valuesFor.1 (List.mem_of_getLast? hl)
    exact last e' he' hs

theorem read_settleAll_of_agree (f : Slots) {es : List Entry} {e : Entry} (he : e ∈ es)
    (agree : ∀ e' ∈ es, e'.slot = e.slot → e'.value = e.value) :
    (f.settleAll es).read e.slot = e.value := by
  obtain ⟨pre, post, rfl⟩ := List.append_of_mem he
  exact read_settleAll_of_last f pre fun e' he' => agree e' (by simp [he'])

/-- No slot is named by two entries with different values. -/
def Consistent (es : List Entry) : Prop :=
  ∀ e ∈ es, ∀ e' ∈ es, e'.slot = e.slot → e'.value = e.value

/-- **All entries hold once they are settled exactly if they are consistent.** -/
theorem holds_settleAll_iff (f : Slots) (es : List Entry) :
    (∀ e ∈ es, (f.settleAll es).Holds e) ↔ Consistent es := by
  constructor
  · intro h e he e' he' hs
    rw [← h e he, ← h e' he', hs]
  · intro h e he
    exact read_settleAll_of_agree f he (h e he)

/-! ## Entries with different slots -/

/-- **Entries with different slots take a write if they do not hold at the start.** -/
theorem changed_of_nodup (f : Slots) {es : List Entry} (hnodup : (es.map (·.slot)).Nodup) :
    f.changed es = es.filter fun e => ¬ f.Holds e := by
  induction es generalizing f with
  | nil => rfl
  | cons e es ih =>
    rw [List.map_cons, List.nodup_cons] at hnodup
    obtain ⟨he, hes⟩ := hnodup
    rw [changed, List.filter_cons]
    by_cases hholds : f.Holds e
    · simp [hholds, ih f hes]
    · have hrest : es.filter (fun e' => ¬ (f.put e).Holds e') = es.filter fun e' => ¬ f.Holds e' := by
        refine List.filter_congr fun e' he' => ?_
        have hne : e'.slot ≠ e.slot := fun h => he (h ▸ List.mem_map_of_mem he')
        simp only [holds_put_iff hne]
      simp only [hholds, if_false, not_false_eq_true, decide_true, if_true]
      rw [ih _ hes, hrest]

/-- Such an entry does not hold exactly if its slot is among those that are written. -/
theorem slot_mem_changed_iff (f : Slots) {es : List Entry} (hnodup : (es.map (·.slot)).Nodup) {e : Entry} (he : e ∈ es) :
    e.slot ∈ (f.changed es).map (·.slot) ↔ ¬ f.Holds e := by
  rw [changed_of_nodup f hnodup]
  constructor
  · intro h
    obtain ⟨e', he', hslot⟩ := List.mem_map.1 h
    obtain ⟨hmem, hholds⟩ := List.mem_filter.1 he'
    obtain rfl : e' = e := List.inj_on_of_nodup_map hnodup hmem he hslot
    exact of_decide_eq_true hholds
  · exact fun h => List.mem_map_of_mem (List.mem_filter.2 ⟨he, decide_eq_true h⟩)

end Slots

end MarketSync

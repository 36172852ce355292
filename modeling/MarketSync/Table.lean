/-!
# Tables

A finite table from keys to values. Each key stands once, in the order in which keys were first put
in; a key reads as what was last put there (`get?_insert`).
-/

namespace MarketSync

variable {κ α : Type} [DecidableEq κ]

/-- Replaces the value of a key, or puts a new pair at the end. -/
def putPair (key : κ) (a : α) : List (κ × α) → List (κ × α)
  | [] => [(key, a)]
  | (k, b) :: rest => if k = key then (key, a) :: rest else (k, b) :: putPair key a rest

/-- The value of the first pair with a key. -/
def lookupPair (key : κ) : List (κ × α) → Option α
  | [] => none
  | (k, a) :: rest => if k = key then some a else lookupPair key rest

theorem lookupPair_putPair (key k : κ) (a : α) (l : List (κ × α)) :
    lookupPair k (putPair key a l) = if k = key then some a else lookupPair k l := by
  induction l with
  | nil => simp [putPair, lookupPair, eq_comm]
  | cons p rest ih =>
    obtain ⟨k', b⟩ := p
    by_cases hk : k' = key
    · subst hk
      by_cases h : k' = k
      · simp [putPair, lookupPair, h]
      · have h' : ¬ k = k' := fun e => h e.symm
        simp [putPair, lookupPair, h, h']
    · by_cases h : k' = k
      · subst h
        simp [putPair, lookupPair, hk]
      · simp [putPair, lookupPair, hk, h, ih]

theorem map_fst_putPair (key : κ) (a : α) (l : List (κ × α)) :
    (putPair key a l).map Prod.fst =
      if key ∈ l.map Prod.fst then l.map Prod.fst else l.map Prod.fst ++ [key] := by
  induction l with
  | nil => rfl
  | cons p rest ih =>
    by_cases h : p.1 = key
    · simp [putPair, h]
    · have h' : ¬ key = p.1 := fun e => h e.symm
      by_cases hm : key ∈ rest.map Prod.fst <;> simp [putPair, h, h', ih, hm]

theorem nodup_putPair (key : κ) (a : α) {l : List (κ × α)} (h : (l.map Prod.fst).Nodup) :
    ((putPair key a l).map Prod.fst).Nodup := by
  rw [map_fst_putPair]
  split
  · exact h
  · rename_i hm
    refine List.nodup_append.2 ⟨h, by simp, fun x hx y hy => ?_⟩
    rw [List.mem_singleton.1 hy]
    exact fun e => hm (e ▸ hx)

theorem putPair_of_notMem {key : κ} {l : List (κ × α)} (h : key ∉ l.map Prod.fst) (a : α) :
    putPair key a l = l ++ [(key, a)] := by
  induction l with
  | nil => rfl
  | cons p rest ih =>
    rw [List.map_cons, List.mem_cons, not_or] at h
    rw [putPair, if_neg (Ne.symm h.1), ih h.2, List.cons_append]

theorem lookupPair_eq_none_iff {key : κ} {l : List (κ × α)} : lookupPair key l = none ↔ key ∉ l.map Prod.fst := by
  induction l with
  | nil => simp [lookupPair]
  | cons p rest ih =>
    by_cases h : p.1 = key
    · simp [lookupPair, h]
    · have h' : ¬ key = p.1 := fun e => h e.symm
      simpa [lookupPair, h, h'] using ih

/-- Of elements with different keys the one that is found by a key is the one that has it. -/
theorem find?_key_iff (key : α → κ) {l : List α} (nodup : (l.map key).Nodup) {k : κ} {a : α} :
    l.find? (fun x => key x = k) = some a ↔ a ∈ l ∧ key a = k := by
  induction l with
  | nil => simp
  | cons b l ih =>
    rw [List.map_cons, List.nodup_cons] at nodup
    by_cases hb : key b = k
    · rw [List.find?_cons_of_pos (by simpa using hb), Option.some.injEq]
      constructor
      · rintro rfl
        exact ⟨List.mem_cons_self, hb⟩
      · rintro ⟨hmem, ha⟩
        rcases List.mem_cons.1 hmem with rfl | hmem
        · rfl
        · exact absurd (List.mem_map.2 ⟨a, hmem, ha.trans hb.symm⟩) nodup.1
    · rw [List.find?_cons_of_neg (by simpa using hb), ih nodup.2]
      constructor
      · rintro ⟨hmem, ha⟩
        exact ⟨List.mem_cons_of_mem b hmem, ha⟩
      · rintro ⟨hmem, ha⟩
        rcases List.mem_cons.1 hmem with rfl | hmem
        · exact absurd ha hb
        · exact ⟨hmem, ha⟩

structure Table (κ α : Type) where
  entries : List (κ × α)
  distinct : (entries.map Prod.fst).Nodup

namespace Table

def empty : Table κ α := ⟨[], .nil⟩

def get? (t : Table κ α) (key : κ) : Option α :=
  lookupPair key t.entries

/-- The table with a value put at a key. -/
def insert (t : Table κ α) (key : κ) (a : α) : Table κ α :=
  ⟨putPair key a t.entries, nodup_putPair key a t.distinct⟩

/-- The keys in the order in which they were first put in. -/
def keys (t : Table κ α) : List κ :=
  t.entries.map Prod.fst

def size (t : Table κ α) : Nat :=
  t.entries.length

def isEmpty (t : Table κ α) : Bool :=
  t.entries.isEmpty

omit [DecidableEq κ] in
theorem ext {t t' : Table κ α} (h : t.entries = t'.entries) : t = t' := by
  cases t
  cases h
  rfl

@[simp] theorem get?_empty (k : κ) : (empty : Table κ α).get? k = none := rfl

/-- A key reads as what was last put there. -/
@[simp] theorem get?_insert (t : Table κ α) (key k : κ) (a : α) :
    (t.insert key a).get? k = if k = key then some a else t.get? k :=
  lookupPair_putPair key k a t.entries

/-- The keys are those under which a value is found. -/
theorem get?_eq_none_iff (t : Table κ α) (key : κ) : t.get? key = none ↔ key ∉ t.keys :=
  lookupPair_eq_none_iff

theorem entries_insert_of_notMem (t : Table κ α) {key : κ} (h : key ∉ t.keys) (a : α) :
    (t.insert key a).entries = t.entries ++ [(key, a)] :=
  putPair_of_notMem h a

end Table

end MarketSync

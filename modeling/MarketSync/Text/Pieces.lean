/-!
# Pieces of texts

A text without the blanks at its two ends, which are the characters of the Unicode property
`White_Space`, and texts cut at a character of a class, behind a beginning, or at every separator.
-/

namespace MarketSync.Text

/-! ## Blanks -/

/-- The characters with the property `White_Space`. -/
def isBlank (c : Char) : Bool :=
  let n := c.toNat
  (9 ≤ n && n ≤ 13) || n == 0x20 || n == 0x85 || n == 0xA0 || n == 0x1680 ||
    (0x2000 ≤ n && n ≤ 0x200A) || n == 0x2028 || n == 0x2029 || n == 0x202F ||
    n == 0x205F || n == 0x3000

def trimEnd (cs : List Char) : List Char :=
  (cs.reverse.dropWhile isBlank).reverse

/-- The text without the blanks at its two ends. -/
def trim (cs : List Char) : List Char :=
  trimEnd (cs.dropWhile isBlank)

/-- Splits at the first character of a class, which belongs to neither part. -/
def splitFirst (p : Char → Bool) : List Char → Option (List Char × List Char)
  | [] => none
  | c :: cs => if p c then some ([], cs) else (splitFirst p cs).map fun (a, b) => (c :: a, b)

/-- A text without blanks is not cut. -/
theorem trim_eq_self {cs : List Char} (h : ∀ c ∈ cs, isBlank c = false) : trim cs = cs := by
  have hkeep {ds : List Char} (hds : ∀ c ∈ ds, isBlank c = false) : ds.dropWhile isBlank = ds := by
    cases ds with
    | nil => rfl
    | cons d ds => simp [hds d List.mem_cons_self]
  rw [trim, trimEnd, hkeep h, hkeep fun c hc => h c (List.mem_reverse.1 hc), List.reverse_reverse]

/-- The first part has no character of the class, and one stands between the parts. -/
theorem eq_of_splitFirst {p : Char → Bool} {cs a b : List Char} (h : splitFirst p cs = some (a, b)) :
    (∀ c ∈ a, p c = false) ∧ ∃ m, p m = true ∧ cs = a ++ m :: b := by
  induction cs generalizing a with
  | nil => cases h
  | cons c cs ih =>
    unfold splitFirst at h
    split at h
    · rename_i hc
      cases h
      exact ⟨by simp, c, hc, rfl⟩
    · rename_i hc
      obtain ⟨⟨d, e⟩, hcs, heq⟩ := Option.map_eq_some_iff.1 h
      cases heq
      obtain ⟨hd, m, hm, rfl⟩ := ih hcs
      exact ⟨List.forall_mem_cons.2 ⟨by simpa using hc, hd⟩, m, hm, rfl⟩

theorem splitFirst_append {p : Char → Bool} {a b : List Char} {m : Char} (ha : ∀ c ∈ a, p c = false)
    (hm : p m = true) : splitFirst p (a ++ m :: b) = some (a, b) := by
  induction a with
  | nil => simp [splitFirst, hm]
  | cons c a ih =>
    obtain ⟨hc, ha⟩ := List.forall_mem_cons.1 ha
    simp [splitFirst, hc, ih ha]

theorem splitFirst_eq_none_iff {p : Char → Bool} {cs : List Char} :
    splitFirst p cs = none ↔ ∀ c ∈ cs, p c = false := by
  induction cs with
  | nil => simp [splitFirst]
  | cons c cs ih => by_cases hc : p c <;> simp [splitFirst, hc, ih]

/-- What follows `start`, if the text begins with it. -/
def dropStart? : (start : List Char) → List Char → Option (List Char)
  | [], cs => some cs
  | _ :: _, [] => none
  | s :: ss, c :: cs => if s = c then dropStart? ss cs else none

/-! ## Separators -/

/-- The parts of a text between separators; a text without any is one piece. -/
def pieces (separator : Char) : List Char → List (List Char)
  | [] => [[]]
  | c :: cs =>
    if c = separator then [] :: pieces separator cs
    else
      match pieces separator cs with
      | [] => [[c]]
      | p :: ps => (c :: p) :: ps

def joinPieces (separator : Char) : List (List Char) → List Char
  | [] => []
  | [p] => p
  | p :: ps => p ++ separator :: joinPieces separator ps

end MarketSync.Text

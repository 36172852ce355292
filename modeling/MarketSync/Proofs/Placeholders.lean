import Mathlib.Data.List.Basic
import Mathlib.Data.List.TakeWhile
import MarketSync.Environment.Placeholder

/-!
# Placeholders in texts

A text is a row of pieces, each a character or a placeholder. No placeholder begins within another one, so the pieces of
a text hold exactly the placeholders that occur in it. Expansion (`expand_vars`) replaces the pieces one by one.

* `read?_eq_some_iff` — a placeholder is read where one stands, and only there.
* `occurs_write` — behind the first character of a placeholder the next one begins after its end.
* `exists_pieces` — the pieces of a text, and what expansion makes of them.
* `expansion_exact` — expansion puts the values of variables that are set in place of their placeholders and leaves all
  else; so it depends on the variables that are named and on nothing else.
-/

namespace MarketSync.Placeholder

/-! ## Names -/

/-- A letter or underscore, followed by such characters and digits. -/
inductive IsName : List Char → Prop
  | mk {c : Char} {cs : List Char} (start : isNameStart c) (further : ∀ d ∈ cs, isNameChar d) : IsName (c :: cs)

theorem IsName.forall_isNameChar {name : List Char} (h : IsName name) : ∀ d ∈ name, isNameChar d := by
  obtain ⟨start, further⟩ := h
  intro d hd
  rcases List.mem_cons.1 hd with rfl | hd
  · unfold isNameStart at start
    unfold isNameChar Char.isAlphanum
    rcases Bool.or_eq_true_iff.1 start with hletter | hunderscore
    · simp [hletter]
    · simp [hunderscore]
  · exact further d hd

/-! ## Occurrences -/

/-- The placeholder of a name stands in a text between two parts of it. -/
structure Occurs (cs front name back : List Char) : Prop where
  isName : IsName name
  text_eq : cs = front ++ (write name ++ back)

variable {cs front name back rest : List Char} {c : Char}

/-- **A placeholder is read from a text exactly if the text begins with one.** -/
theorem read?_eq_some_iff : read? cs = some (name, rest) ↔ Occurs cs [] name rest := by
  constructor
  · intro h
    refine ⟨?_, eq_write_of_read? h⟩
    unfold read? at h
    split at h
    · rename_i c cs
      split at h
      · rename_i start
        split at h
        · cases h
          exact .mk start fun d hd => List.mem_takeWhile_imp hd
        · cases h
      · cases h
    · cases h
  · rintro ⟨⟨start, further⟩, rfl⟩
    rename_i c cs
    have hend : isNameChar '\x7d' = false := by decide
    have hafter : (cs ++ '\x7d' :: rest).dropWhile isNameChar = '\x7d' :: rest := by
      rw [List.dropWhile_append_of_pos further, List.dropWhile_cons_of_neg (by simp [hend])]
    have hname : (cs ++ '\x7d' :: rest).takeWhile isNameChar = cs := by
      rw [List.takeWhile_append_of_pos further, List.takeWhile_cons_of_neg (by simp [hend]), List.append_nil]
    simp [read?, write, start, hafter, hname]

theorem occurs_cons : Occurs (c :: cs) (c :: front) name back ↔ Occurs cs front name back := by
  constructor
  · rintro ⟨hname, htext⟩
    exact ⟨hname, List.cons.inj htext |>.2⟩
  · rintro ⟨hname, rfl⟩
    exact ⟨hname, rfl⟩

/-- No placeholder begins within another one. -/
theorem dollar_not_mem_tail (h : IsName name) : '$' ∉ (write name).tail := by
  intro hmem
  simp only [write, List.cons_append, List.tail_cons, List.mem_cons, List.mem_append, List.not_mem_nil, or_false] at hmem
  rcases hmem with hopen | hname | hclose
  · exact absurd hopen (by decide)
  · exact absurd (h.forall_isNameChar _ hname) (by decide)
  · exact absurd hclose (by decide)

/-- **Where a text begins with a placeholder, the others occur behind it.** -/
theorem occurs_write (h : IsName name) {front' name' back' : List Char} :
    Occurs (write name ++ rest) front' name' back' ↔ (front' = [] ∧ name' = name ∧ back' = rest) ∨
      ∃ front, front' = write name ++ front ∧ Occurs rest front name' back' := by
  constructor
  · rintro ⟨hname, htext⟩
    rcases List.append_eq_append_iff.1 htext with ⟨front, hfront, hrest⟩ | ⟨overlap, hwrite, hbehind⟩
    · exact Or.inr ⟨front, hfront, hname, hrest⟩
    · cases front' with
      | nil =>
        have hfirst : read? (write name ++ rest) = some (name, rest) := read?_eq_some_iff.2 ⟨h, rfl⟩
        have hother : read? (write name ++ rest) = some (name', back') := read?_eq_some_iff.2 ⟨hname, htext⟩
        rw [hfirst, Option.some.injEq, Prod.mk.injEq] at hother
        exact Or.inl ⟨rfl, hother.1.symm, hother.2.symm⟩
      | cons d front =>
        cases overlap with
        | nil =>
          rw [List.append_nil] at hwrite
          exact Or.inr ⟨[], by rw [hwrite, List.append_nil], hname, hbehind.symm⟩
        | cons e overlap =>
          -- the other one would begin within the first one
          obtain rfl : e = '$' := (List.cons.inj hbehind).1.symm
          have htail : (write name).tail = front ++ '$' :: overlap := by rw [hwrite, List.cons_append, List.tail_cons]
          exact absurd (htail ▸ by simp) (dollar_not_mem_tail h)
  · rintro (⟨rfl, rfl, rfl⟩ | ⟨front, rfl, hname, rfl⟩)
    · exact ⟨h, rfl⟩
    · exact ⟨hname, (List.append_assoc _ _ _).symm⟩

/-! ## Pieces -/

/-- A part of a text that expansion treats as a whole. -/
inductive Piece where
  | char (c : Char)
  | placeholder (name : List Char)

namespace Piece

def text : Piece → List Char
  | .char c => [c]
  | .placeholder name => write name

/-- What stands for a piece: for a placeholder the value of its variable, if that is set, and else the piece itself. -/
def image (env : Environment) : Piece → List Char
  | .char c => [c]
  | .placeholder name =>
    match env.get? (String.ofList name) with
    | some v => v.toList
    | none => write name

end Piece

open Piece

/-- A row of pieces makes up a text, and the placeholders in it are those that occur in the text, each at its place. -/
structure Pieces (cs : List Char) (ps : List Piece) : Prop where
  text_eq : ps.flatMap text = cs
  occurs_iff : ∀ front name back, Occurs cs front name back ↔
    ∃ before behind, ps = before ++ .placeholder name :: behind ∧
      before.flatMap text = front ∧ behind.flatMap text = back

namespace Pieces

variable {ps : List Piece}

theorem nil : Pieces [] [] := by
  refine ⟨rfl, fun front name back => ⟨?_, ?_⟩⟩
  · rintro ⟨-, htext⟩
    simp [write] at htext
  · rintro ⟨before, behind, hps, -⟩
    simp at hps

/-- A character that no placeholder begins with. -/
theorem char (hread : read? (c :: cs) = none) (h : Pieces cs ps) : Pieces (c :: cs) (.char c :: ps) := by
  refine ⟨by rw [List.flatMap_cons, h.text_eq]; rfl, fun front name back => ⟨?_, ?_⟩⟩
  · intro hoccurs
    cases front with
    | nil =>
      rw [read?_eq_some_iff.2 hoccurs] at hread
      cases hread
    | cons d front =>
      obtain rfl : c = d := (List.cons.inj hoccurs.text_eq).1
      obtain ⟨before, behind, rfl, rfl, rfl⟩ := (h.occurs_iff _ _ _).1 (occurs_cons.1 hoccurs)
      exact ⟨.char c :: before, behind, rfl, rfl, rfl⟩
  · rintro ⟨before, behind, hps, rfl, rfl⟩
    cases before with
    | nil => cases (List.cons.inj hps).1
    | cons p before =>
      obtain ⟨rfl, rfl⟩ := List.cons.inj hps
      exact occurs_cons.2 ((h.occurs_iff _ _ _).2 ⟨before, behind, rfl, rfl, rfl⟩)

theorem placeholder (hname : IsName name) (h : Pieces rest ps) :
    Pieces (write name ++ rest) (.placeholder name :: ps) := by
  refine ⟨by rw [List.flatMap_cons, h.text_eq]; rfl, fun front' name' back' => ?_⟩
  rw [occurs_write hname]
  constructor
  · rintro (⟨rfl, rfl, rfl⟩ | ⟨front, rfl, hoccurs⟩)
    · exact ⟨[], ps, rfl, rfl, h.text_eq⟩
    · obtain ⟨before, behind, rfl, rfl, rfl⟩ := (h.occurs_iff _ _ _).1 hoccurs
      exact ⟨.placeholder name :: before, behind, rfl, rfl, rfl⟩
  · rintro ⟨before, behind, hps, rfl, rfl⟩
    cases before with
    | nil =>
      obtain ⟨hfirst, rfl⟩ := List.cons.inj hps
      cases hfirst
      exact Or.inl ⟨rfl, rfl, h.text_eq⟩
    | cons p before =>
      obtain ⟨rfl, rfl⟩ := List.cons.inj hps
      exact Or.inr ⟨_, rfl, (h.occurs_iff _ _ _).2 ⟨before, behind, rfl, rfl, rfl⟩⟩

theorem exists_occurs (h : Pieces cs ps) (hmem : .placeholder name ∈ ps) : ∃ front back, Occurs cs front name back := by
  obtain ⟨before, behind, hps⟩ := List.append_of_mem hmem
  exact ⟨_, _, (h.occurs_iff _ _ _).2 ⟨before, behind, hps, rfl, rfl⟩⟩

end Pieces

/-! ## Expansion -/

section
variable {env : Environment}

theorem expand_of_read? (h : read? cs = some (name, rest)) :
    expand env cs = image env (.placeholder name) ++ expand env rest := by
  rw [expand]
  split
  · rename_i hread
    rw [h] at hread
    cases hread
    rfl
  · rename_i hread
    rw [h] at hread
    cases hread

theorem expand_cons (h : read? (c :: cs) = none) : expand env (c :: cs) = c :: expand env cs := by
  rw [expand]
  split
  · rename_i hread
    rw [h] at hread
    cases hread
  · rfl

theorem expand_nil : expand env [] = [] := by
  rw [expand]
  rfl

end

/-- **A text has pieces, and expansion replaces them one by one, whatever the variables are.** -/
theorem exists_pieces (cs : List Char) : ∃ ps, Pieces cs ps ∧ ∀ env, expand env cs = ps.flatMap (image env) := by
  induction cs using expand.induct with
  | case1 cs name rest hread ih =>
    obtain ⟨ps, hps, hexpand⟩ := ih
    obtain ⟨hname, rfl⟩ := read?_eq_some_iff.1 hread
    refine ⟨.placeholder name :: ps, hps.placeholder hname, fun env => ?_⟩
    rw [expand_of_read? hread, hexpand env, List.flatMap_cons]
  | case2 => exact ⟨[], .nil, fun env => expand_nil⟩
  | case3 c cs hread ih =>
    obtain ⟨ps, hps, hexpand⟩ := ih
    refine ⟨.char c :: ps, hps.char hread, fun env => ?_⟩
    rw [expand_cons hread, hexpand env, List.flatMap_cons]
    rfl

/-- **Expansion replaces every placeholder whose variable is set by the value of the variable and keeps all else as it
is. It depends on the variables that are named and on no others, and changes nothing if none of them is set.** -/
theorem expansion_exact (cs : List Char) :
    (∃ ps, Pieces cs ps ∧ ∀ env, expand env cs = ps.flatMap (image env)) ∧
    (∀ env env' : Environment,
      (∀ front name back, Occurs cs front name back → env.get? (.ofList name) = env'.get? (.ofList name)) →
      expand env cs = expand env' cs) ∧
    ∀ env : Environment, (∀ front name back, Occurs cs front name back → env.get? (.ofList name) = none) →
      expand env cs = cs := by
  obtain ⟨ps, hps, hexpand⟩ := exists_pieces cs
  refine ⟨⟨ps, hps, hexpand⟩, ?_, ?_⟩
  · intro env env' hagree
    rw [hexpand env, hexpand env']
    refine List.flatMap_congr fun p hp => ?_
    cases p with
    | char c => rfl
    | placeholder name =>
      obtain ⟨front, back, hoccurs⟩ := hps.exists_occurs hp
      rw [image, image, hagree front name back hoccurs]
  · intro env hunset
    have hkept : ∀ p ∈ ps, image env p = p.text := by
      intro p hp
      cases p with
      | char c => rfl
      | placeholder name =>
        obtain ⟨front, back, hoccurs⟩ := hps.exists_occurs hp
        rw [image, hunset front name back hoccurs]
        rfl
    rw [hexpand env, List.flatMap_congr hkept, hps.text_eq]

/-- `${D}{A}${A}${${U}`: placeholders side by side, one that is not closed and one of a variable that is not set. -/
def nested : List Char := "$\x7bD\x7d\x7bA\x7d$\x7bA\x7d$\x7b$\x7bU\x7d".toList

/-- Two variables whose values look like a placeholder or the beginning of one. -/
def misleading : Environment :=
  (Table.empty.insert "D" "$").insert "A" "$\x7bD\x7d"

theorem expand_nested : expand misleading nested = "$\x7bA\x7d$\x7bD\x7d$\x7b$\x7bU\x7d".toList := by
  have hpieces : nested = write ['D'] ++ ('\x7b' :: 'A' :: '\x7d' :: (write ['A'] ++
      ('$' :: '\x7b' :: (write ['U'] ++ [])))) := rfl
  have hread (c : Char) (start : isNameStart c) (rest : List Char) : read? (write [c] ++ rest) = some ([c], rest) :=
    read?_eq_some_iff.2 ⟨.mk start (by simp), rfl⟩
  rw [hpieces, expand_of_read? (hread 'D' rfl _), expand_cons rfl, expand_cons rfl, expand_cons rfl,
    expand_of_read? (hread 'A' rfl _), expand_cons rfl, expand_cons rfl, expand_of_read? (hread 'U' rfl _), expand_nil]
  rfl

/-- What values bring in is not expanded, not even together with the text behind it; a variable that is not named makes
no difference, and where only that is set nothing is replaced. -/
theorem nested_expanded_once :
    expand misleading nested = "$\x7bA\x7d$\x7bD\x7d$\x7b$\x7bU\x7d".toList ∧
    (∀ front name back, Occurs nested front name back →
      misleading.get? (.ofList name) = (misleading.insert "X" "1").get? (.ofList name)) ∧
    expand misleading nested = expand (misleading.insert "X" "1") nested ∧
    (∀ front name back, Occurs nested front name back →
      (Table.empty.insert "X" "1" : Environment).get? (.ofList name) = none) ∧
    expand (Table.empty.insert "X" "1") nested = nested := by
  have hother : ∀ front name back, Occurs nested front name back → String.ofList name ≠ "X" := by
    intro front name back h hname
    obtain rfl : name = ['X'] := String.ofList_injective hname
    have hmem : 'X' ∈ nested := by rw [h.text_eq]; simp [write]
    exact absurd hmem (by decide)
  have hagree : ∀ front name back, Occurs nested front name back →
      misleading.get? (.ofList name) = (misleading.insert "X" "1").get? (.ofList name) := by
    intro front name back h
    rw [Table.get?_insert, if_neg (hother front name back h)]
  have hunset : ∀ front name back, Occurs nested front name back →
      (Table.empty.insert "X" "1" : Environment).get? (.ofList name) = none := by
    intro front name back h
    rw [Table.get?_insert, if_neg (hother front name back h), Table.get?_empty]
  obtain ⟨-, hsame, hkept⟩ := expansion_exact nested
  exact ⟨expand_nested, hagree, hsame _ _ hagree, hunset, hkept _ hunset⟩

end MarketSync.Placeholder

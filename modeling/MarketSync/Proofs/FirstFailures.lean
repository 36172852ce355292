/-!
# The first failure

Where the elements of a list are tried one after another, the first one that fails is the one that counts.

* `failsFirst_cons` — it is the first element, or that one succeeds and it is among the others.
* `exists_failsFirst_iff` — there is one exactly if some element fails.
-/

namespace MarketSync

variable {α β ε : Type} {f : α → Except ε β} {a : α} {l : List α} {e : ε}

/-- An element fails with an error, and all those before it succeed. -/
def FailsFirst (f : α → Except ε β) (l : List α) (e : ε) : Prop :=
  ∃ before a after, l = before ++ a :: after ∧ (∀ b ∈ before, ∃ r, f b = .ok r) ∧ f a = .error e

@[simp] theorem not_failsFirst_nil : ¬ FailsFirst f [] e := by
  rintro ⟨before, a, after, hl, -⟩
  cases before <;> cases hl

theorem failsFirst_cons : FailsFirst f (a :: l) e ↔ f a = .error e ∨ (∃ r, f a = .ok r) ∧ FailsFirst f l e := by
  constructor
  · rintro ⟨before, b, after, hl, hbefore, hb⟩
    cases before with
    | nil =>
      cases hl
      exact Or.inl hb
    | cons c before =>
      cases hl
      obtain ⟨ha, hrest⟩ := List.forall_mem_cons.1 hbefore
      exact Or.inr ⟨ha, before, b, after, rfl, hrest, hb⟩
  · rintro (ha | ⟨ha, before, b, after, rfl, hbefore, hb⟩)
    · exact ⟨[], a, l, rfl, by simp, ha⟩
    · exact ⟨a :: before, b, after, rfl, List.forall_mem_cons.2 ⟨ha, hbefore⟩, hb⟩

theorem failsFirst_cons_of_ok {r : β} (ha : f a = .ok r) : FailsFirst f (a :: l) e ↔ FailsFirst f l e := by
  simp [failsFirst_cons, ha]

theorem failsFirst_cons_of_error {e' : ε} (ha : f a = .error e') : FailsFirst f (a :: l) e ↔ e' = e := by
  simp [failsFirst_cons, ha]

/-- **There is a first failure exactly if there is a failure.** -/
theorem exists_failsFirst_iff : (∃ e, FailsFirst f l e) ↔ ∃ a ∈ l, ∃ e, f a = .error e := by
  induction l with
  | nil => simp
  | cons a l ih =>
    cases ha : f a with
    | error e' => simp [failsFirst_cons_of_error ha, ha]
    | ok r => simp [failsFirst_cons_of_ok ha, ha, ih]

end MarketSync

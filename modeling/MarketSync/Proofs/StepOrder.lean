import MarketSync.Proofs.Scheduling

/-!
# Ordered steps follow their dependencies

In the order of `order_steps` a step that counts all its carriers comes after all of them, and its number never drops
below zero. Where no two steps share a tag, every step does. Where several steps carry one tag, more is counted off than
was counted: a step that names it is ready after some of them, and its number drops below zero if another one is placed
while it still waits.

* `order_placing` — steps are placed one after another unless a dependency is missing.
* `follows_iff` — a step comes after all of its carriers exactly if it counts all of them.
* `OrdersSoundly.of_counts`, `OrdersSoundly.of_carried_once` — which steps are ordered soundly.
* `ordersSoundly_iff` — no others are, unless a dependency is missing or a cycle is reported.
* `shared_tag_unsound` — two steps of one tag can lower a number below zero, or one of them can come too late.
* `order_follows_dependencies` — with distinct tags an order that is found is a permutation in which each step comes
  after those that it names, and no counter ever drops below zero.
-/

namespace MarketSync.Deploy

/-! ## Missing dependencies -/

/-- Every dependency is the tag of a step or provided. -/
def Known (steps : List Step) (provided : List String) : Prop :=
  ∀ s ∈ steps, ∀ d ∈ s.dependencies, d ∈ steps.map (·.tag) ∨ d ∈ provided

theorem checkDependencies_cases (s : Step) (provided : List String) :
    (s.checkDependencies provided = .ok () ∧ ∀ d ∈ s.dependencies, d ∈ provided) ∨
    ∃ d ∈ s.dependencies, d ∉ provided ∧ s.checkDependencies provided = .error (.missingDependency s.tag d) := by
  unfold Step.checkDependencies
  split
  · rename_i d hd
    have hnot := List.find?_some hd
    exact Or.inr ⟨d, List.mem_of_find?_eq_some hd, by simpa using hnot, rfl⟩
  · rename_i hnone
    exact Or.inl ⟨rfl, by simpa using hnone⟩

/-- **The check of a step among others is its own check with their tags provided as well.** -/
theorem checkNames_eq (tags provided : List String) (s : Step) :
    checkNames tags provided s.tag s.dependencies = s.checkDependencies (provided ++ tags) := by
  unfold Step.checkDependencies
  induction s.dependencies with
  | nil => rfl
  | cons d ds ih =>
    have hboth : (!tags.contains d && !provided.contains d) = !(provided ++ tags).contains d := by
      rw [List.contains_append, Bool.not_or, Bool.and_comm]
    rw [checkNames, List.find?_cons, hboth, ih]
    cases (provided ++ tags).contains d <;> rfl

theorem checkAll_cases (tags provided : List String) : ∀ steps : List Step,
    (checkAll tags provided steps = .ok () ∧ ∀ s ∈ steps, ∀ d ∈ s.dependencies, d ∈ tags ∨ d ∈ provided) ∨
    ∃ s ∈ steps, ∃ d ∈ s.dependencies, ¬ (d ∈ tags ∨ d ∈ provided) ∧
      checkAll tags provided steps = .error (.missingDependency s.tag d)
  | [] => Or.inl ⟨rfl, by simp⟩
  | s :: ss => by
    have hmem {d : String} : d ∈ provided ++ tags ↔ d ∈ tags ∨ d ∈ provided := List.mem_append.trans Or.comm
    rw [checkAll, checkNames_eq]
    rcases checkDependencies_cases s (provided ++ tags) with ⟨hs, hmet⟩ | ⟨d, hd, hnot, hs⟩
    · rw [hs]
      rcases checkAll_cases tags provided ss with ⟨hss, hrest⟩ | ⟨s', hs', d, hd, hnot, hss⟩
      · exact Or.inl ⟨hss, List.forall_mem_cons.2 ⟨fun d hd => hmem.1 (hmet d hd), hrest⟩⟩
      · exact Or.inr ⟨s', List.mem_cons_of_mem s hs', d, hd, hnot, hss⟩
    · rw [hs]
      exact Or.inr ⟨s, List.mem_cons_self, d, hd, fun h => hnot (hmem.2 h), rfl⟩

/-- **Steps are placed one after another, unless a dependency of one of them is missing.** -/
theorem order_placing (steps : List Step) (provided : List String) :
    (Known steps provided ∧ Placing (steps.map (·.tag)) [] steps (order steps provided)) ∨
    ¬ Known steps provided ∧ ∃ tag d, order steps provided = .error (.missingDependency tag d) := by
  rw [order]
  rcases checkAll_cases (steps.map (·.tag)) provided steps with ⟨hok, known⟩ | ⟨s, hs, d, hd, hnot, herror⟩
  · rw [hok]
    have haccounted : Accounted (steps.map (·.tag)) [] steps := fun _ _ => Nat.zero_le _
    exact Or.inl ⟨known, placing_schedule haccounted⟩
  · rw [herror]
    exact Or.inr ⟨fun known => hnot (known s hs d hd), s.tag, d, rfl⟩

/-! ## Steps that count all their carriers -/

/-- No number drops below zero, and in an order that is found each step comes after all steps of the list that carry
a tag it names: none of them stands at its place or behind it. -/
structure OrdersSoundly (steps : List Step) (provided : List String) : Prop where
  counted : ∀ tag, order steps provided ≠ .error (.counterBelowZero tag)
  follows : ∀ ordered, order steps provided = .ok ordered → ordered.Perm steps ∧
    ∀ done s rest, ordered = done ++ s :: rest → ∀ s' ∈ s :: rest, s'.tag ∉ s.dependencies

section
variable {steps ordered done rest : List Step} {s : Step} {provided : List String}

theorem placing_of_ok (h : order steps provided = .ok ordered) :
    Known steps provided ∧ Placing (steps.map (·.tag)) [] steps (.ok ordered) := by
  rcases order_placing steps provided with ⟨known, hplacing⟩ | ⟨-, tag, d, herror⟩
  · rw [h] at hplacing
    exact ⟨known, hplacing⟩
  · cases h.symm.trans herror

theorem carriers_done (h : order steps provided = .ok (done ++ s :: rest)) :
    carriers done s = countUnmet (steps.map (·.tag)) s := by
  simpa using (placing_of_ok h).2.met

/-- **In an order that is found a step comes after all of its carriers exactly if it counts all of them.** -/
theorem follows_iff (h : order steps provided = .ok (done ++ s :: rest)) :
    (∀ s' ∈ s :: rest, s'.tag ∉ s.dependencies) ↔ carriers steps s = countUnmet (steps.map (·.tag)) s := by
  rw [← carriers_eq_zero, ← carriers_perm (placing_of_ok h).2.perm, carriers_append, carriers_done h]
  omega

theorem countUnmet_le_carriers (h : order steps provided = .ok (done ++ s :: rest)) :
    countUnmet (steps.map (·.tag)) s ≤ carriers steps s := by
  rw [← carriers_perm (placing_of_ok h).2.perm, carriers_append, carriers_done h]
  exact Nat.le_add_right _ _

/-- **A number that drops below zero is that of a step with more carriers in the list than it counts.** -/
theorem exists_exceeded {tag : String} (h : order steps provided = .error (.counterBelowZero tag)) :
    ∃ s ∈ steps, s.tag = tag ∧ countUnmet (steps.map (·.tag)) s < carriers steps s := by
  rcases order_placing steps provided with ⟨-, hplacing⟩ | ⟨-, _, _, herror⟩
  · rw [h] at hplacing
    exact hplacing.exceeded_inv
  · cases h.symm.trans herror

theorem OrdersSoundly.of_counts (hle : ∀ s ∈ steps, carriers steps s ≤ countUnmet (steps.map (·.tag)) s) :
    OrdersSoundly steps provided where
  counted tag herror := by
    obtain ⟨s, hs, -, hmore⟩ := exists_exceeded herror
    exact absurd (hle s hs) (Nat.not_le_of_lt hmore)
  follows ordered hok := by
    have hperm := (placing_of_ok hok).2.perm
    refine ⟨hperm, ?_⟩
    rintro done s rest rfl
    have hs : s ∈ steps := hperm.subset (by simp)
    exact (follows_iff hok).2 (Nat.le_antisymm (hle s hs) (countUnmet_le_carriers hok))

/-- Steps that share no tag that is named are ordered soundly. -/
theorem OrdersSoundly.of_carried_once
    (once : ∀ s ∈ steps, ∀ d ∈ s.dependencies, (steps.map (·.tag)).count d ≤ 1) : OrdersSoundly steps provided :=
  .of_counts fun s hs => carriers_le_of_carried_once (once s hs) (List.Subset.refl _)

end

/-! ## Steps that share a tag -/

/-- **Steps are ordered soundly exactly if none of them has more carriers than it counts, or a dependency is missing,
or a cycle is reported.** -/
theorem ordersSoundly_iff (steps : List Step) (provided : List String) : OrdersSoundly steps provided ↔
    (∀ s ∈ steps, carriers steps s ≤ countUnmet (steps.map (·.tag)) s) ∨ ¬ Known steps provided ∨
      ∃ waiting, order steps provided = .error (.cycle waiting) := by
  rcases order_placing steps provided with ⟨known, hplacing⟩ | ⟨unknown, tag, d, herror⟩
  · constructor
    · intro hsound
      rcases hplacing.ok_or_error with ⟨ordered, hok⟩ | hcycle | ⟨tag, hbelow⟩
      · obtain ⟨hperm, hfollows⟩ := hsound.follows ordered hok
        refine Or.inl fun s hs => ?_
        obtain ⟨done, rest, rfl⟩ := List.append_of_mem (hperm.mem_iff.2 hs)
        exact Nat.le_of_eq ((follows_iff hok).1 (hfollows done s rest rfl))
      · exact Or.inr (Or.inr hcycle)
      · exact absurd hbelow (hsound.counted tag)
    · rintro (hle | unknown | ⟨waiting, hcycle⟩)
      · exact .of_counts hle
      · exact absurd known unknown
      · exact ⟨by simp [hcycle], by simp [hcycle]⟩
  · exact ⟨fun _ => Or.inr (Or.inl unknown), fun _ => ⟨by simp [herror], by simp [herror]⟩⟩

def plainStep : Step := ⟨"A", [], false⟩
def dependentStep : Step := ⟨"B", ["A"], false⟩

/-- Two steps of one tag: if both are scheduled before the step that names it, its number drops below zero; if one
stands behind that step, it comes after it. -/
theorem shared_tag_unsound :
    order [plainStep, plainStep, dependentStep] [] = .error (.counterBelowZero "B") ∧
    ¬ OrdersSoundly [plainStep, plainStep, dependentStep] [] ∧
    order [plainStep, dependentStep, plainStep] [] = .ok [plainStep, dependentStep, plainStep] ∧
    ¬ OrdersSoundly [plainStep, dependentStep, plainStep] [] := by
  have hbelow : order [plainStep, plainStep, dependentStep] [] = .error (.counterBelowZero "B") := by cbv
  have hearly : order [plainStep, dependentStep, plainStep] [] = .ok [plainStep, dependentStep, plainStep] := by cbv
  refine ⟨hbelow, fun h => h.counted "B" hbelow, hearly, fun h => ?_⟩
  have hfollows := (h.follows _ hearly).2 [plainStep] dependentStep [plainStep] rfl plainStep (by decide)
  exact hfollows (by decide)

/-! ## Steps with distinct tags -/

/-- **No counter drops below zero. An order that is found is a permutation of the steps in which each comes after
those whose tag it names, and all dependencies are known.** -/
theorem order_follows_dependencies {steps : List Step} (provided : List String)
    (distinct : (steps.map (·.tag)).Nodup) :
    (∀ tag, order steps provided ≠ .error (.counterBelowZero tag)) ∧
    ∀ ordered, order steps provided = .ok ordered →
      ordered.Perm steps ∧
      (∀ done s rest, ordered = done ++ s :: rest → ∀ s' ∈ steps, s'.tag ∈ s.dependencies → s' ∈ done) ∧
      Known steps provided := by
  have hsound : OrdersSoundly steps provided :=
    .of_carried_once fun _ _ d _ => List.nodup_iff_count_le_one.1 distinct d
  refine ⟨hsound.counted, ?_⟩
  intro ordered hok
  obtain ⟨hperm, hfollows⟩ := hsound.follows ordered hok
  refine ⟨hperm, ?_, (placing_of_ok hok).1⟩
  intro done s rest hsplit s' hs' hdep
  have hmem : s' ∈ done ++ s :: rest := hsplit ▸ hperm.mem_iff.2 hs'
  rcases List.mem_append.1 hmem with hdone | hbehind
  · exact hdone
  · exact absurd hdep (hfollows done s rest hsplit s' hbehind)

/-! ## The steps of a deployment -/

def tokensStep : Step := ⟨"Tokens", [], false⟩
def dataStoreStep : Step := ⟨"DataStore", [], false⟩
def marketFactoryStep : Step := ⟨"MarketFactory", ["DataStore"], false⟩
def oracleStep : Step := ⟨"Oracle", ["DataStore"], false⟩

def deployment : List Step := [marketsStep, tokensStep, marketFactoryStep, dataStoreStep, oracleStep]

/-- The markets come after what they need. -/
theorem markets_after_dependencies : (deployment.map (·.tag)).Nodup ∧ ∃ ordered,
    order deployment [] = .ok ordered ∧ ordered.Perm deployment ∧
    ∀ done rest, ordered = done ++ marketsStep :: rest →
      marketFactoryStep ∈ done ∧ tokensStep ∈ done ∧ dataStoreStep ∈ done := by
  have distinct : (deployment.map (·.tag)).Nodup := by decide
  have hok : order deployment [] =
      .ok [tokensStep, dataStoreStep, marketFactoryStep, oracleStep, marketsStep] := by cbv
  obtain ⟨-, hsound⟩ := order_follows_dependencies [] distinct
  obtain ⟨hperm, hfollows, -⟩ := hsound _ hok
  refine ⟨distinct, _, hok, hperm, fun done rest hsplit => ?_⟩
  exact ⟨hfollows done marketsStep rest hsplit marketFactoryStep (by decide) (by decide),
    hfollows done marketsStep rest hsplit tokensStep (by decide) (by decide),
    hfollows done marketsStep rest hsplit dataStoreStep (by decide) (by decide)⟩

end MarketSync.Deploy

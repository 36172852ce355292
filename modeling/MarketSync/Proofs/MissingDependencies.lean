import Mathlib.Data.List.Find
import MarketSync.Proofs.DependencyCycles
import MarketSync.Proofs.FirstFailures

/-!
# Missing dependencies

Before any step is scheduled the steps are looked through for a dependency that is neither the tag of one of them nor
provided. A step on its own can be checked as well (`check_dependencies`), against what is provided alone. Both look at
the dependencies in order and report the first one that is missing, so among others a step fails as it does on its own
where the tags of all steps are provided, too.

* `checkAll_eq_error_iff` — of several steps the first one that fails on its own is the one that is reported.
* `order_eq_missing_iff` — nothing else makes an order fail for a missing dependency, and it comes before any cycle.
* `order_single` — a single step is ordered exactly if it can be run.
* `missing_reported_first` — all this of `order`.
-/

namespace MarketSync.Deploy

section
variable {tags provided : List String} {steps : List Step} {s : Step} {e : StepError}

theorem checkAll_eq_error_iff : checkAll tags provided steps = .error e ↔
    FailsFirst (fun s => s.checkDependencies (provided ++ tags)) steps e := by
  induction steps with
  | nil => simp [checkAll]
  | cons s steps ih =>
    rw [checkAll, checkNames_eq]
    cases hs : s.checkDependencies (provided ++ tags) with
    | error e' => simp [failsFirst_cons, hs]
    | ok u => simpa [failsFirst_cons, hs] using ih

theorem eq_missing_of_checkDependencies (h : s.checkDependencies provided = .error e) :
    ∃ d, e = .missingDependency s.tag d := by
  rcases checkDependencies_cases s provided with ⟨hok, -⟩ | ⟨d, -, -, herror⟩
  · rw [hok] at h
    cases h
  · rw [herror] at h
    exact ⟨d, (Except.error.inj h).symm⟩

theorem order_of_checkAll_error (h : checkAll (steps.map (·.tag)) provided steps = .error e) :
    order steps provided = .error e := by
  rw [order, h]

/-- Scheduling does not fail for a missing dependency. -/
theorem order_eq_missing_iff {tag d : String} : order steps provided = .error (.missingDependency tag d) ↔
    checkAll (steps.map (·.tag)) provided steps = .error (.missingDependency tag d) := by
  constructor
  · intro h
    rcases order_placing steps provided with ⟨-, hplacing⟩ | ⟨unknown, -⟩
    · rw [h] at hplacing
      rcases hplacing.ok_or_error with ⟨_, hother⟩ | ⟨_, hother⟩ | ⟨_, hother⟩ <;> cases hother
    · rcases checkAll_cases (steps.map (·.tag)) provided steps with ⟨-, known⟩ | ⟨_, _, _, _, _, herror⟩
      · exact absurd known unknown
      · have hsame := Except.error.inj ((order_of_checkAll_error herror).symm.trans h)
        rw [herror, hsame]
  · exact order_of_checkAll_error

/-- A step that does not name its own tag is scheduled at once. -/
theorem schedule_single (hself : s.tag ∉ s.dependencies) : schedule [⟨s, countUnmet [s.tag] s⟩] = .ok [s] := by
  have hnone : countUnmet [s.tag] s = 0 := by
    rw [countUnmet, List.countP_eq_zero]
    intro d hd htag
    rw [List.contains_iff_mem, List.mem_singleton] at htag
    exact hself (htag ▸ hd)
  have hnext : next [⟨s, 0⟩] = some (⟨s, 0⟩, []) := by
    cases hend : s.runAtTheEnd <;> simp [next, extract, hend]
  have hdone : schedule [] = .ok [] := by
    rw [schedule]
    rfl
  rw [hnone, schedule]
  split
  · rename_i hn
    cases hnext.symm.trans hn
  · rename_i w rest hn
    cases hnext.symm.trans hn
    simp only [release, hdone]
    rfl

/-- **A single step that does not depend on itself is ordered exactly if its dependencies are provided.** -/
theorem order_single (hself : s.tag ∉ s.dependencies) (provided : List String) :
    order [s] provided = (s.checkDependencies provided).map fun _ => [s] := by
  have hcheck : s.checkDependencies (provided ++ [s.tag]) = s.checkDependencies provided := by
    -- its own tag is not among the names that are looked for
    have hfind : (s.dependencies.find? fun d => !(provided ++ [s.tag]).contains d) =
        s.dependencies.find? fun d => !provided.contains d := by
      refine List.find?_congr fun d hd => ?_
      have hne : d ≠ s.tag := fun h => hself (h ▸ hd)
      simp [hne]
    rw [Step.checkDependencies, Step.checkDependencies, hfind]
  rw [order]
  simp only [List.map_cons, List.map_nil, checkAll, checkNames_eq, hcheck]
  cases s.checkDependencies provided with
  | error e => rfl
  | ok u => exact schedule_single hself

end

/-- **An order fails for a missing dependency exactly if some step fails on its own, with what is provided and all tags
of the list. The first such step is the one that is reported, with the error that it gives on its own, whatever cycles
there are. For a single step that does not name itself both checks are the same.** -/
theorem missing_reported_first (steps : List Step) (provided : List String) :
    (∀ tag d, order steps provided = .error (.missingDependency tag d) ↔
      FailsFirst (fun s => s.checkDependencies (provided ++ steps.map (·.tag))) steps (.missingDependency tag d)) ∧
    ((∃ tag d, order steps provided = .error (.missingDependency tag d)) ↔
      ∃ s ∈ steps, ∃ e, s.checkDependencies (provided ++ steps.map (·.tag)) = .error e) ∧
    ∀ s : Step, s.tag ∉ s.dependencies → order [s] provided = (s.checkDependencies provided).map fun _ => [s] := by
  have hiff (tag d : String) : order steps provided = .error (.missingDependency tag d) ↔
      FailsFirst (fun s => s.checkDependencies (provided ++ steps.map (·.tag))) steps (.missingDependency tag d) :=
    order_eq_missing_iff.trans checkAll_eq_error_iff
  refine ⟨hiff, ?_, fun s hself => order_single hself provided⟩
  rw [← exists_failsFirst_iff]
  constructor
  · rintro ⟨tag, d, h⟩
    exact ⟨_, (hiff tag d).1 h⟩
  · rintro ⟨e, hfails⟩
    obtain ⟨_, s, _, _, _, hs⟩ := id hfails
    obtain ⟨d, rfl⟩ := eq_missing_of_checkDependencies hs
    exact ⟨s.tag, d, (hiff s.tag d).2 hfails⟩

/-! ## A cycle behind which a dependency is missing -/

/-- A step of the cycle that names something unknown after the step that it waits for. -/
def unknownStep : Step := ⟨"B", ["A", "Oracle", "Tokens"], false⟩

/-- The missing dependency is reported and not the cycle; on its own the step that creates markets fails likewise. -/
theorem missing_before_cycle : order [stepA, unknownStep] ["Tokens"] = .error (.missingDependency "B" "Oracle") ∧
    marketsStep.tag ∉ marketsStep.dependencies ∧
    order [marketsStep] ["Tokens", "DataStore"] = .error (.missingDependency "Markets" "MarketFactory") := by
  obtain ⟨hiff, -, -⟩ := missing_reported_first [stepA, unknownStep] ["Tokens"]
  obtain ⟨-, -, hsingle⟩ := missing_reported_first [] ["Tokens", "DataStore"]
  have hself : marketsStep.tag ∉ marketsStep.dependencies := by decide
  refine ⟨(hiff "B" "Oracle").2 ⟨[stepA], unknownStep, [], rfl, ?_, by decide⟩, hself, ?_⟩
  · simpa using ⟨(), (by decide : stepA.checkDependencies ["Tokens", "A", "B"] = .ok ())⟩
  · rw [hsingle marketsStep hself]
    decide

end MarketSync.Deploy

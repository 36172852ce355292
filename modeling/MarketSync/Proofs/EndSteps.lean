import MarketSync.Proofs.DependencyCycles

/-!
# Where steps that run at the end are placed

At each place `order_steps` puts the first of the steps whose dependencies are done, a regular one if there is any. A
step that runs at the end is therefore placed before a regular one only while all regular steps that are left wait for
steps that run at the end. Which of these are needed is not looked at: if one that nothing regular depends on stands in
front of one that is needed, it goes first, although it could have waited.

* `order_placed` — the step at each place comes first among those whose dependencies are done.
* `exists_met` — each step that is left waits for one whose dependencies are done, or is one.
* `exists_needed` — in whose stead a step at the end is placed while regular ones are left.
* `afterRegular_iff` — a step at the end that no regular one depends on comes after all regular ones exactly if no
  needed step that stands behind it could have been placed in its stead.
* `end_step_before_regular` — it can come before a regular one.
-/

open Relation

namespace MarketSync.Deploy

def Before (l : List Step) (a b : Step) : Prop :=
  [a, b].Sublist l

/-- A step is placed after those that are done: it depends on none that is left, and of those that are left and
depend on none either it is the first, the regular ones before those that run at the end. -/
structure PlacedNext (steps done : List Step) (s : Step) (rest : List Step) : Prop where
  met : Met steps done s
  first : ∀ u ∈ rest, Met steps done u →
    (s.runAtTheEnd = false ∧ u.runAtTheEnd = true) ∨ (s.runAtTheEnd = u.runAtTheEnd ∧ Before steps s u)

/-- A step that runs at the end and that no regular step depends on, directly or through others. -/
structure Final (steps : List Step) (e : Step) : Prop where
  mem : e ∈ steps
  atTheEnd : e.runAtTheEnd = true
  free : ∀ r, r.runAtTheEnd = false → ¬ TransGen (DependsOn steps) r e

/-- A step that runs at the end and that a regular step depends on, directly or through others. -/
structure Needed (steps : List Step) (n : Step) : Prop where
  atTheEnd : n.runAtTheEnd = true
  regular : ∃ r, r.runAtTheEnd = false ∧ TransGen (DependsOn steps) r n

/-- A step comes after every regular one. -/
def AfterRegular (steps ordered : List Step) (e : Step) : Prop :=
  ∀ r ∈ steps, r.runAtTheEnd = false → Before ordered r e

/-- A step at the end whose tag no step names. -/
theorem Final.of_unnamed {steps : List Step} {e : Step} (mem : e ∈ steps) (atTheEnd : e.runAtTheEnd = true)
    (unnamed : ∀ s ∈ steps, e.tag ∉ s.dependencies) : Final steps e := by
  refine ⟨mem, atTheEnd, fun r _ hreach => ?_⟩
  obtain ⟨s, -, hs, -, hnames⟩ := TransGen.tail'_iff.1 hreach
  exact unnamed s hs hnames

section
variable {steps done rest : List Step} {s u : Step} {provided : List String}

theorem before_iff_mem (nodup : (done ++ s :: rest).Nodup) : Before (done ++ s :: rest) u s ↔ u ∈ done := by
  have hdone : s ∉ done := fun h => (List.nodup_middle.1 nodup).notMem (List.mem_append_left rest h)
  have hrest : s ∉ rest := fun h => (List.nodup_middle.1 nodup).notMem (List.mem_append_right done h)
  constructor
  · intro h
    obtain ⟨l₁, l₂, hcut, h₁, h₂⟩ := List.sublist_append_iff.1 h
    match l₁, hcut with
    | [], hcut =>
      -- the step itself would stand behind its place
      rw [List.nil_append] at hcut
      rw [← hcut] at h₂
      exact absurd (h₂.of_cons_cons.subset (by simp)) hrest
    | x :: xs, hcut =>
      rw [List.cons_append, List.cons.injEq] at hcut
      exact hcut.1 ▸ h₁.subset (by simp)
  · intro h
    exact (List.singleton_sublist.2 h).append (List.singleton_sublist.2 (by simp))

/-- At its place a step is chosen among those that are left: it is ready, and comes before those of them that are. -/
theorem exists_chosen (distinct : (steps.map (·.tag)).Nodup) (hok : order steps provided = .ok (done ++ s :: rest)) :
    Divided steps done.reverse (s :: rest) ∧ ∃ before after, Chosen (steps.map (·.tag)) done.reverse before s after ∧
      (before ++ after).Perm rest ∧ (before ++ s :: after).Sublist steps := by
  have hplacing := (placing_of_ok hok).2
  have divided : Divided steps done.reverse (s :: rest) :=
    ⟨distinct, ((List.reverse_perm done).append_right (s :: rest)).trans hplacing.perm⟩
  refine ⟨divided, ?_⟩
  simpa using hplacing.chosen

theorem ready_of_ok (distinct : (steps.map (·.tag)).Nodup) (hok : order steps provided = .ok (done ++ s :: rest)) :
    s.Ready steps done.reverse := by
  obtain ⟨divided, before, after, chosen, -, -⟩ := exists_chosen distinct hok
  exact (divided.due_iff (divided.left_subset List.mem_cons_self)).1 chosen.due

/-- **At each place stands the first step whose dependencies are done.** -/
theorem order_placed (distinct : (steps.map (·.tag)).Nodup)
    (hok : order steps provided = .ok (done ++ s :: rest)) : PlacedNext steps done s rest := by
  have hreverse {u : Step} : Met steps done.reverse u ↔ Met steps done u := by simp [Met]
  obtain ⟨divided, before, after, chosen, hperm, hleft⟩ := exists_chosen distinct hok
  refine ⟨hreverse.1 (ready_of_ok distinct hok).met, fun u hu hmet => ?_⟩
  -- a step that is placed later names nothing twice either
  have hdue : u.Due (steps.map (·.tag)) done.reverse := by
    obtain ⟨mid, tail, rfl⟩ := List.append_of_mem hu
    have hlater : order steps provided = .ok ((done ++ s :: mid) ++ u :: tail) := by simpa using hok
    refine (divided.due_iff (divided.left_subset (by simp))).2 ⟨(ready_of_ok distinct hlater).once, ?_⟩
    exact hreverse.2 hmet
  rcases List.mem_append.1 (hperm.mem_iff.2 hu) with hbefore | hafter
  · exact Or.inl (chosen.first u hbefore hdue)
  · have hstands : Before steps s u :=
      ((List.singleton_sublist.2 hafter).cons_cons s).trans ((List.sublist_append_right before _).trans hleft)
    cases hs : s.runAtTheEnd with
    | false =>
      cases hu : u.runAtTheEnd with
      | false => exact Or.inr ⟨rfl, hstands⟩
      | true => exact Or.inl ⟨rfl, rfl⟩
    | true => exact Or.inr ⟨(chosen.regular hs u hafter hdue).symm, hstands⟩

/-- **Each step that is left waits for one whose dependencies are done, or is one itself.** -/
theorem exists_met (distinct : (steps.map (·.tag)).Nodup) (hok : order steps provided = .ok (done ++ rest))
    (hu : u ∈ rest) : ∃ v ∈ rest, ReflTransGen (DependsOn steps) u v ∧ Met steps done v := by
  -- by induction on how many steps come before it
  obtain ⟨mid, tail, rfl⟩ := List.append_of_mem hu
  induction hlen : mid.length using Nat.strong_induction_on generalizing u mid tail with
  | _ n ih =>
    by_cases hmet : Met steps done u
    · exact ⟨u, by simp, .refl, hmet⟩
    · simp only [Met, not_forall] at hmet
      obtain ⟨d, hud, hd⟩ := hmet
      have hplaced : PlacedNext steps (done ++ mid) u tail := order_placed distinct (by simpa using hok)
      have hmid : d ∈ mid := (List.mem_append.1 (hplaced.met d hud)).resolve_left hd
      obtain ⟨l, l', rfl⟩ := List.append_of_mem hmid
      obtain ⟨v, hv, hdv, hmetv⟩ := ih l.length (by simp at hlen; omega) l (l' ++ u :: tail) (by simpa using hok)
        (by simp) rfl
      exact ⟨v, by simpa using hv, .head hud hdv, hmetv⟩

theorem mem_done_of_dependsOn (distinct : (steps.map (·.tag)).Nodup)
    (hok : order steps provided = .ok (done ++ rest)) {d : Step} (hs : s ∈ done)
    (hdep : TransGen (DependsOn steps) s d) : d ∈ done := by
  have hnext {a b : Step} (ha : a ∈ done) (hab : DependsOn steps a b) : b ∈ done := by
    obtain ⟨l, l', rfl⟩ := List.append_of_mem ha
    have hplaced : PlacedNext steps l a (l' ++ rest) := order_placed distinct (by simpa using hok)
    exact List.mem_append_left _ (hplaced.met b hab)
  induction hdep with
  | single hsd => exact hnext hs hsd
  | tail _ hbc ih => exact hnext ih hbc

/-- While regular steps are left, a step at the end that none of them depends on is placed in the stead of a needed
one that stands behind it. -/
theorem exists_needed {e r : Step} (distinct : (steps.map (·.tag)).Nodup)
    (hok : order steps provided = .ok (done ++ e :: rest)) (final : Final steps e) (hr : r ∈ rest)
    (hregular : r.runAtTheEnd = false) :
    ∃ n ∈ rest, Needed steps n ∧ Before steps e n ∧ Met steps done n := by
  obtain ⟨v, hv, hreach, hmet⟩ := exists_met distinct hok (List.mem_cons_of_mem e hr)
  have hvia (hend : v.runAtTheEnd = true) : TransGen (DependsOn steps) r v := by
    rcases Relation.reflTransGen_iff_eq_or_transGen.1 hreach with rfl | htrans
    · rw [hregular] at hend
      cases hend
    · exact htrans
  rcases List.mem_cons.1 hv with rfl | hv
  · exact absurd (hvia final.atTheEnd) (final.free r hregular)
  · rcases (order_placed distinct hok).first v hv hmet with ⟨hfalse, -⟩ | ⟨hsame, hstands⟩
    · rw [final.atTheEnd] at hfalse
      cases hfalse
    · have hend : v.runAtTheEnd = true := hsame.symm.trans final.atTheEnd
      exact ⟨v, hv, ⟨hend, r, hregular, hvia hend⟩, hstands, hmet⟩

/-- **A step at the end that no regular one depends on comes after all regular ones exactly if each needed step that
stands behind it, and whose dependencies are done by then, is placed before it.** -/
theorem afterRegular_iff {ordered : List Step} {e : Step} (distinct : (steps.map (·.tag)).Nodup)
    (hok : order steps provided = .ok ordered) (final : Final steps e) :
    AfterRegular steps ordered e ↔ ∀ n, Needed steps n → Before steps e n →
      (∀ d, DependsOn steps n d → Before ordered d e) → Before ordered n e := by
  have hperm : ordered.Perm steps := (placing_of_ok hok).2.perm
  have nodup : ordered.Nodup := hperm.nodup_iff.2 distinct.of_map
  obtain ⟨done, rest, rfl⟩ := List.append_of_mem (hperm.mem_iff.2 final.mem)
  simp only [AfterRegular, before_iff_mem nodup]
  constructor
  · rintro hall n ⟨-, r, hregular, hreach⟩ - -
    obtain ⟨u, hru, -⟩ := TransGen.head'_iff.1 hreach
    exact mem_done_of_dependsOn distinct hok (hall r hru.1 hregular) hreach
  · intro hneeded r hr hregular
    by_contra hnot
    have hleft : r ∈ e :: rest := (List.mem_append.1 (hperm.mem_iff.2 hr)).resolve_left hnot
    have hrest : r ∈ rest := (List.mem_cons.1 hleft).resolve_left fun h => by
      rw [h, final.atTheEnd] at hregular
      cases hregular
    obtain ⟨n, hn, needed, hstands, hmet⟩ := exists_needed distinct hok final hrest hregular
    have hdone : n ∈ done := hneeded n needed hstands hmet
    exact (List.nodup_append.1 nodup).2.2 n hdone n (List.mem_cons_of_mem e hn) rfl

end

/-! ## Steps that wait, and steps that could have waited -/

instance (l : List Step) (a b : Step) : Decidable (Before l a b) :=
  inferInstanceAs (Decidable ([a, b].Sublist l))

def neededStep : Step := ⟨"B", [], true⟩
def regularStep : Step := ⟨"C", ["B"], false⟩
def waitingStep : Step := ⟨"A", ["C"], true⟩
def freeStep : Step := ⟨"A", [], true⟩

/-- The first step of the list waits for the last one, which needs the second: it comes after both. -/
theorem waitingStep_after_regular : ([waitingStep, neededStep, regularStep].map (·.tag)).Nodup ∧
    order [waitingStep, neededStep, regularStep] [] = .ok [neededStep, regularStep, waitingStep] ∧
    Final [waitingStep, neededStep, regularStep] waitingStep ∧
    AfterRegular [waitingStep, neededStep, regularStep] [neededStep, regularStep, waitingStep] waitingStep := by
  have distinct : ([waitingStep, neededStep, regularStep].map (·.tag)).Nodup := by decide
  have hok : order [waitingStep, neededStep, regularStep] [] = .ok [neededStep, regularStep, waitingStep] := by cbv
  have final : Final [waitingStep, neededStep, regularStep] waitingStep :=
    .of_unnamed (by decide) rfl (by decide)
  refine ⟨distinct, hok, final, (afterRegular_iff distinct hok final).2 fun n needed hstands _ => ?_⟩
  -- only the second step runs at the end and stands behind the first one
  have hn : n ∈ [waitingStep, neededStep, regularStep] := hstands.subset (by simp)
  simp only [List.mem_cons, List.not_mem_nil, or_false] at hn
  rcases hn with rfl | rfl | rfl
  · exact absurd hstands (by decide)
  · decide
  · exact absurd needed.atTheEnd (by decide)

/-- The first step waits for nothing and goes first, though no step depends on it and the second one, which a regular
step needs, could have been placed in its stead. -/
theorem end_step_before_regular : ([freeStep, neededStep, regularStep].map (·.tag)).Nodup ∧
    order [freeStep, neededStep, regularStep] [] = .ok [freeStep, neededStep, regularStep] ∧
    Final [freeStep, neededStep, regularStep] freeStep ∧
    ¬ AfterRegular [freeStep, neededStep, regularStep] [freeStep, neededStep, regularStep] freeStep := by
  refine ⟨by decide, by cbv, .of_unnamed (by decide) rfl (by decide), fun h => ?_⟩
  exact absurd (h regularStep (by decide) rfl) (by decide)

end MarketSync.Deploy

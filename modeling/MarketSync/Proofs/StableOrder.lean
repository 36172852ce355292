import MarketSync.Proofs.EndSteps

/-!
# The stable order

At each place of an order stands the first step whose dependencies are done, a regular one if there is any. This law
leaves no choice: of the lists that hold each step once only one obeys it. So a list that obeys it already stays as it
is, an order above all, and also steps in the order of their dependencies with the regular ones in front.

* `StableOrder.unique` — no two lists obey the law.
* `stableOrder_of_ok` — an order that is found obeys it.
* `StableOrder.self`, `InOrder.stableOrder` — lists that obey the law for themselves.
* `exists_ordered_of_perm` — whether an order is found does not hang on how the steps are listed.
* `order_is_stable` — the law, and which lists are left unchanged.
-/

namespace MarketSync.Deploy

/-- Each step stands once, at the place where it is next. -/
structure StableOrder (steps ordered : List Step) : Prop where
  perm : ordered.Perm steps
  placed : ∀ done s rest, ordered = done ++ s :: rest → PlacedNext steps done s rest

/-- Each step comes after those of the list that it depends on, and the regular ones before those that run at the
end. -/
structure InOrder (steps : List Step) : Prop where
  dependencies : ∀ s ∈ steps, ∀ d ∈ steps, d.tag ∈ s.dependencies → Before steps d s
  regularFirst : ∀ r ∈ steps, ∀ e ∈ steps, r.runAtTheEnd = false → e.runAtTheEnd = true → Before steps r e

section
variable {steps ordered l l' done rest rest' : List Step} {s a b : Step} {provided : List String}

/-! ## One list obeys the law -/

theorem Before.asymm (nodup : l.Nodup) (hab : Before l a b) : ¬ Before l b a := by
  intro hba
  obtain ⟨done, rest, rfl⟩ := List.append_of_mem (hab.subset (by simp) : a ∈ l)
  obtain ⟨pre, post, rfl⟩ := List.append_of_mem ((before_iff_mem nodup).1 hba)
  have hsame : (pre ++ b :: post) ++ a :: rest = pre ++ b :: (post ++ a :: rest) := by simp
  rw [hsame] at nodup hab
  have hfirst : a ∈ pre := (before_iff_mem nodup).1 hab
  exact (List.nodup_append.1 nodup).2.2 a hfirst a (by simp) rfl

/-- Of two steps that are both left and whose dependencies are done only one is next. -/
theorem PlacedNext.unique (nodup : steps.Nodup) (ha : PlacedNext steps done a rest) (hb : PlacedNext steps done b rest')
    (hab : b ∈ a :: rest) (hba : a ∈ b :: rest') : a = b := by
  by_contra hne
  have hrest : b ∈ rest := (List.mem_cons.1 hab).resolve_left (Ne.symm hne)
  have hrest' : a ∈ rest' := (List.mem_cons.1 hba).resolve_left hne
  rcases ha.first b hrest hb.met with ⟨hregular, hend⟩ | ⟨hsame, hbefore⟩
  · rcases hb.first a hrest' ha.met with ⟨-, hend'⟩ | ⟨hsame', -⟩
    · exact absurd (hregular.symm.trans hend') nofun
    · exact absurd (hregular.symm.trans (hsame'.symm.trans hend)) nofun
  · rcases hb.first a hrest' ha.met with ⟨hregular', hend'⟩ | ⟨-, hbefore'⟩
    · exact absurd (hregular'.symm.trans (hsame.symm.trans hend')) nofun
    · exact hbefore.asymm nodup hbefore'

/-- **No two lists obey the law.** -/
theorem StableOrder.unique (nodup : steps.Nodup) (h : StableOrder steps l) (h' : StableOrder steps l') : l = l' := by
  -- by induction on what is left behind a part that both have in common
  have hcommon : ∀ (rest done rest' : List Step), l = done ++ rest → l' = done ++ rest' → rest = rest' := by
    intro rest
    induction rest with
    | nil =>
      intro done rest' hl hl'
      have hlength := (h.perm.trans h'.perm.symm).length_eq
      rw [hl, hl', List.length_append, List.length_append] at hlength
      exact (List.eq_nil_of_length_eq_zero (by simpa using hlength.symm)).symm
    | cons s rest ih =>
      intro done rest' hl hl'
      have hperm : (s :: rest).Perm rest' := by
        have hboth := h.perm.trans h'.perm.symm
        rwa [hl, hl', List.perm_append_left_iff] at hboth
      cases rest' with
      | nil => exact absurd hperm.length_eq (by simp)
      | cons s' rest' =>
        obtain rfl := (h.placed done s rest hl).unique nodup (h'.placed done s' rest' hl')
          (hperm.mem_iff.2 List.mem_cons_self) (hperm.mem_iff.1 List.mem_cons_self)
        rw [ih (done ++ [s]) rest' (by simpa using hl) (by simpa using hl')]
  exact hcommon l [] l' rfl rfl

/-! ## Lists that obey the law -/

/-- **An order that is found obeys the law.** -/
theorem stableOrder_of_ok (distinct : (steps.map (·.tag)).Nodup) (hok : order steps provided = .ok ordered) :
    StableOrder steps ordered where
  perm := (placing_of_ok hok).2.perm
  placed _ _ _ hsplit := order_placed distinct (hsplit ▸ hok)

theorem dependsOn_of_perm (h : l.Perm steps) : DependsOn l = DependsOn steps := by
  funext s d
  simp [DependsOn, h.mem_iff]

/-- What obeys the law for some list obeys it for itself. -/
theorem StableOrder.self (h : StableOrder steps ordered) : StableOrder ordered ordered where
  perm := .refl _
  placed := by
    rintro done s rest rfl
    have hmet {u : Step} : Met (done ++ s :: rest) done u ↔ Met steps done u := by
      rw [Met, Met, dependsOn_of_perm h.perm]
    have hnext := h.placed done s rest rfl
    refine ⟨hmet.2 hnext.met, fun u hu humet => ?_⟩
    -- it stands before what is left
    have hbefore : Before (done ++ s :: rest) s u :=
      ((List.singleton_sublist.2 hu).cons_cons s).trans (List.sublist_append_right done _)
    exact (hnext.first u hu (hmet.1 humet)).imp_right fun hsame => ⟨hsame.1, hbefore⟩

theorem InOrder.stableOrder (nodup : steps.Nodup) (h : InOrder steps) : StableOrder steps steps where
  perm := .refl _
  placed := by
    rintro done s rest rfl
    refine ⟨fun d hd => ?_, fun u hu _ => ?_⟩
    · exact (before_iff_mem nodup).1 (h.dependencies s hd.1 d hd.2.1 hd.2.2)
    · have hmem : u ∈ done ++ s :: rest := by simp [hu]
      have hbefore : Before (done ++ s :: rest) s u :=
        ((List.singleton_sublist.2 hu).cons_cons s).trans (List.sublist_append_right done _)
      cases hs : s.runAtTheEnd with
      | false =>
        cases hu : u.runAtTheEnd with
        | false => exact Or.inr ⟨rfl, hbefore⟩
        | true => exact Or.inl ⟨rfl, rfl⟩
      | true =>
        cases hu : u.runAtTheEnd with
        | false => exact absurd (h.regularFirst u hmem s (by simp) hu hs) (hbefore.asymm nodup)
        | true => exact Or.inr ⟨rfl, hbefore⟩

/-! ## Orders of the same steps -/

theorem blocked_of_perm (h : l.Perm steps) : Blocked l s ↔ Blocked steps s := by
  simp only [Blocked, OnCycle, NamesTwice, dependsOn_of_perm h, h.mem_iff]

theorem Known.of_perm (h : l.Perm steps) (known : Known steps provided) : Known l provided := by
  intro s hs d hd
  rw [(h.map _).mem_iff]
  exact known s (h.mem_iff.1 hs) d hd

/-- **Whether an order is found does not hang on how the steps are listed.** -/
theorem exists_ordered_of_perm (distinct : (steps.map (·.tag)).Nodup) (h : l.Perm steps)
    (hok : order steps provided = .ok ordered) : ∃ ordered', order l provided = .ok ordered' := by
  have known : Known steps provided := (placing_of_ok hok).1
  obtain ⟨blocked, -, hmem, hout⟩ := order_blocked distinct known
  obtain ⟨blocked', -, hmem', hout'⟩ := order_blocked ((h.map _).nodup_iff.2 distinct) (known.of_perm h)
  rcases hout with ⟨rfl, -⟩ | ⟨-, herror⟩
  · rcases hout' with ⟨-, hfound⟩ | ⟨hsome, -⟩
    · exact hfound
    · -- a blocked step would be blocked in the other list as well
      obtain ⟨s, hs⟩ := List.exists_mem_of_ne_nil blocked' hsome
      obtain ⟨hl, hblocked⟩ := (hmem' s).1 hs
      cases (hmem s).2 ⟨h.mem_iff.1 hl, (blocked_of_perm h).1 hblocked⟩
  · cases hok.symm.trans herror

/-- A list of the same steps that obeys the law for itself is left unchanged. -/
theorem order_eq_self (distinct : (steps.map (·.tag)).Nodup) (h : l.Perm steps) (stable : StableOrder l l)
    (hok : order steps provided = .ok ordered) : order l provided = .ok l := by
  have hdistinct : (l.map (·.tag)).Nodup := (h.map _).nodup_iff.2 distinct
  obtain ⟨ordered', hok'⟩ := exists_ordered_of_perm distinct h hok
  rw [hok', (stableOrder_of_ok hdistinct hok').unique hdistinct.of_map stable]

end

/-- **At each place of an order stands the step that comes first, the regular ones before those that run at the end, of
those that are left and whose dependencies are done. An order stays as it is if it is ordered again, and so do steps
that are listed in order.** -/
theorem order_is_stable {steps ordered : List Step} {provided : List String} (distinct : (steps.map (·.tag)).Nodup)
    (hok : order steps provided = .ok ordered) :
    (ordered.Perm steps ∧ ∀ done s rest, ordered = done ++ s :: rest → PlacedNext steps done s rest) ∧
    order ordered provided = .ok ordered ∧ (InOrder steps → ordered = steps) := by
  have stable := stableOrder_of_ok distinct hok
  refine ⟨⟨stable.perm, stable.placed⟩, order_eq_self distinct stable.perm stable.self hok, fun inOrder => ?_⟩
  exact stable.unique distinct.of_map (inOrder.stableOrder distinct.of_map)

/-! ## The steps of a deployment, ordered again -/

/-- The steps of the deployment in their order. -/
def orderedDeployment : List Step := [tokensStep, dataStoreStep, marketFactoryStep, oracleStep, marketsStep]

/-- The order of the deployment is the order of itself, and its steps are in order. The factory comes before the markets,
though they are listed first: they wait for it. -/
theorem deployment_ordered_again : (deployment.map (·.tag)).Nodup ∧ order deployment [] = .ok orderedDeployment ∧
    PlacedNext deployment [tokensStep, dataStoreStep] marketFactoryStep [oracleStep, marketsStep] ∧
    order orderedDeployment [] = .ok orderedDeployment ∧ InOrder orderedDeployment ∧
    ∀ ordered, order orderedDeployment [] = .ok ordered → ordered = orderedDeployment := by
  have distinct : (deployment.map (·.tag)).Nodup := by decide
  have distinct' : (orderedDeployment.map (·.tag)).Nodup := by decide
  have hok : order deployment [] = .ok orderedDeployment := by cbv
  have inOrder : InOrder orderedDeployment := ⟨by decide, by decide⟩
  obtain ⟨⟨-, hplaced⟩, hagain, -⟩ := order_is_stable distinct hok
  refine ⟨distinct, hok, hplaced _ _ _ rfl, hagain, inOrder, fun ordered hordered => ?_⟩
  exact (order_is_stable distinct' hordered).2.2 inOrder

end MarketSync.Deploy

import Mathlib.Data.List.Nodup
import Mathlib.Data.List.Perm.Subperm
import MarketSync.Deploy.Step

/-!
# How steps are scheduled

What a step waits for in `order_steps` is counted over the tags that it names. Each step that is placed is counted off
for those that name its tag: it is one of their carriers. A step is due when as many of its carriers are placed as it
counts, whether or not steps share tags. Where they do, a step can have more carriers than it counts; its number then
drops below zero if one of them is placed while it still waits.

* `release_cases` — placing a step lowers the numbers of those that name its tag, unless one of them is zero.
* `next_eq_some`, `next_eq_none` — the next step is the first regular one that is due, or else the first one.
* `placing_schedule` — steps are placed one after another until none is left, none of those left is due, or a number
  drops below zero.
* `Placing.perm`, `Placing.chosen` — where all are placed, each is placed once, chosen at its place.
* `Placing.exceeded_inv` — a number drops below zero only if there are more carriers than are counted.
-/

namespace MarketSync.Deploy

/-! ## The first element with a property -/

section
variable {α : Type} {p : α → Bool}

theorem extract_eq_some : ∀ {l rest : List α} {a : α}, extract p l = some (a, rest) →
    p a = true ∧ ∃ before after, l = before ++ a :: after ∧ rest = before ++ after ∧ ∀ b ∈ before, p b = false
  | [], _, _, h => by simp [extract] at h
  | c :: cs, rest, a, h => by
    unfold extract at h
    split at h
    · rename_i hc
      cases h
      exact ⟨hc, [], cs, rfl, rfl, by simp⟩
    · rename_i hc
      obtain ⟨⟨b, bs⟩, hcs, hb⟩ := Option.map_eq_some_iff.1 h
      cases hb
      obtain ⟨ha, before, after, rfl, rfl, hbefore⟩ := extract_eq_some hcs
      refine ⟨ha, c :: before, after, rfl, rfl, ?_⟩
      simpa [hc] using hbefore

theorem extract_eq_none : ∀ {l : List α}, extract p l = none → ∀ a ∈ l, p a = false
  | [], _ => by simp
  | c :: cs, h => by
    unfold extract at h
    split at h
    · cases h
    · rename_i hc
      have hcs := extract_eq_none (Option.map_eq_none_iff.1 h)
      simpa [hc] using hcs

end

/-! ## Carriers of tags -/

/-- How many steps of a list carry a tag that a step names. -/
def carriers (steps : List Step) (s : Step) : Nat :=
  (steps.map (·.tag)).countP s.dependencies.contains

section
variable {tags : List String} {steps placed l₁ l₂ : List Step} {s : Step}

theorem carriers_eq_zero : carriers steps s = 0 ↔ ∀ s' ∈ steps, s'.tag ∉ s.dependencies := by
  simp [carriers, List.countP_eq_zero]

theorem carriers_cons_of_named {t : Step} (h : s.dependencies.contains t.tag) :
    carriers (t :: steps) s = carriers steps s + 1 :=
  List.countP_cons_of_pos h

theorem carriers_cons_of_unnamed {t : Step} (h : ¬ s.dependencies.contains t.tag) :
    carriers (t :: steps) s = carriers steps s :=
  List.countP_cons_of_neg h

theorem carriers_append : carriers (l₁ ++ l₂) s = carriers l₁ s + carriers l₂ s := by
  simp [carriers, List.countP_append]

theorem carriers_perm (h : l₁.Perm l₂) : carriers l₁ s = carriers l₂ s :=
  (h.map _).countP_eq _

theorem carriers_le_of_sublist (h : l₁.Sublist l₂) : carriers l₁ s ≤ carriers l₂ s :=
  (h.map _).countP_le

/-- The dependencies of a step on other steps, as often as they are named. -/
def Step.inner (tags : List String) (s : Step) : List String :=
  s.dependencies.filter tags.contains

theorem Step.mem_inner {d : String} : d ∈ s.inner tags ↔ d ∈ s.dependencies ∧ d ∈ tags := by
  simp [inner]

theorem Step.length_inner : (s.inner tags).length = countUnmet tags s :=
  List.countP_eq_length_filter.symm

theorem length_named : ((placed.map (·.tag)).filter s.dependencies.contains).length = carriers placed s :=
  List.countP_eq_length_filter.symm

/-- Where no two steps share a tag that a step names, the tags of its carriers are among its dependencies on other
steps. -/
theorem subperm_inner (once : ∀ d ∈ s.dependencies, (placed.map (·.tag)).count d ≤ 1)
    (sub : placed.map (·.tag) ⊆ tags) :
    ((placed.map (·.tag)).filter s.dependencies.contains).Subperm (s.inner tags) := by
  have hnodup : ((placed.map (·.tag)).filter s.dependencies.contains).Nodup := by
    refine List.nodup_iff_count_le_one.2 fun d => ?_
    by_cases hd : d ∈ s.dependencies
    · exact Nat.le_trans (List.filter_sublist.count_le d) (once d hd)
    · rw [List.count_eq_zero_of_not_mem fun h => hd (by simpa using (List.mem_filter.1 h).2)]
      exact Nat.zero_le 1
  refine List.subperm_of_subset hnodup fun d hd => ?_
  obtain ⟨htag, hdep⟩ := List.mem_filter.1 hd
  exact Step.mem_inner.2 ⟨by simpa using hdep, sub htag⟩

/-- A step whose dependencies have one carrier each counts all of them. -/
theorem carriers_le_of_carried_once (once : ∀ d ∈ s.dependencies, (placed.map (·.tag)).count d ≤ 1)
    (sub : placed.map (·.tag) ⊆ tags) : carriers placed s ≤ countUnmet tags s := by
  rw [← length_named, ← Step.length_inner]
  exact (subperm_inner once sub).length_le

end

/-! ## What a step waits for -/

/-- A step that waits after others were placed. -/
def Step.after (tags : List String) (placed : List Step) (s : Step) : Waiting :=
  ⟨s, countUnmet tags s - carriers placed s⟩

@[simp] theorem Step.step_after {tags : List String} {placed : List Step} {s : Step} :
    (s.after tags placed).step = s := rfl

/-- As many carriers of its dependencies are placed as a step counts. -/
def Step.Due (tags : List String) (placed : List Step) (s : Step) : Prop :=
  carriers placed s = countUnmet tags s

/-- Steps that are left count at least the carriers that were placed. -/
def Accounted (tags : List String) (placed left : List Step) : Prop :=
  ∀ s ∈ left, carriers placed s ≤ countUnmet tags s

theorem Accounted.sublist {tags : List String} {placed l₁ l₂ : List Step} (h : Accounted tags placed l₂)
    (sub : l₁.Sublist l₂) : Accounted tags placed l₁ :=
  fun s hs => h s (sub.subset hs)

theorem Accounted.unmet_after {tags : List String} {placed left : List Step} {s : Step}
    (h : Accounted tags placed left) (hs : s ∈ left) : (s.after tags placed).unmet = 0 ↔ s.Due tags placed := by
  have hle := h s hs
  simp only [Step.after, Step.Due]
  omega

/-- A step that is left is released by another one, unless it then has more carriers than it counts. -/
theorem release_cons {tags : List String} {placed : List Step} {s : Step} (t : Step) (ws : List Waiting)
    (hs : carriers placed s ≤ countUnmet tags s) :
    release t.tag (s.after tags placed :: ws) =
      if carriers (t :: placed) s ≤ countUnmet tags s
      then (release t.tag ws).map (s.after tags (t :: placed) :: ·)
      else .error (.counterBelowZero s.tag) := by
  rw [Step.after, Step.after, release]
  by_cases hnamed : s.dependencies.contains t.tag
  · have hcount : carriers (t :: placed) s = carriers placed s + 1 := carriers_cons_of_named hnamed
    rw [if_pos hnamed]
    cases hn : countUnmet tags s - carriers placed s with
    | zero => rw [if_neg (by omega)]
    | succ n =>
      have hlower : countUnmet tags s - carriers (t :: placed) s = n := by omega
      rw [if_pos (by omega), hlower]
  · rw [if_neg hnamed, carriers_cons_of_unnamed hnamed, if_pos hs]

/-- **Placing a step lowers the numbers of those that name its tag, unless one of them is zero.** -/
theorem release_cases {tags : List String} {placed : List Step} (t : Step) : ∀ left : List Step,
    Accounted tags placed left →
    (Accounted tags (t :: placed) left ∧ release t.tag (left.map (Step.after tags placed)) =
      .ok (left.map (Step.after tags (t :: placed)))) ∨
    ∃ s ∈ left, countUnmet tags s < carriers (t :: placed) s ∧
      release t.tag (left.map (Step.after tags placed)) = .error (.counterBelowZero s.tag)
  | [], _ => Or.inl ⟨by simp [Accounted], rfl⟩
  | s :: left, h => by
    obtain ⟨hs, hleft⟩ := List.forall_mem_cons.1 h
    rw [List.map_cons, release_cons t _ hs]
    split
    · rename_i hle
      rcases release_cases t left hleft with ⟨hrest, hok⟩ | ⟨s', hs', hmore, herror⟩
      · exact Or.inl ⟨List.forall_mem_cons.2 ⟨hle, hrest⟩, by rw [hok]; rfl⟩
      · exact Or.inr ⟨s', List.mem_cons_of_mem s hs', hmore, by rw [herror]; rfl⟩
    · rename_i hmore
      exact Or.inr ⟨s, List.mem_cons_self, Nat.lt_of_not_le hmore, rfl⟩

/-! ## Which step is next -/

/-- Of the steps that are left one is chosen: those before it are not due or run at the end while it does not, and if
it runs at the end no regular step is due. -/
structure Chosen (tags : List String) (placed before : List Step) (s : Step) (after : List Step) : Prop where
  due : s.Due tags placed
  first : ∀ s' ∈ before, s'.Due tags placed → s.runAtTheEnd = false ∧ s'.runAtTheEnd = true
  regular : s.runAtTheEnd = true → ∀ s' ∈ after, s'.Due tags placed → s'.runAtTheEnd = true

section
variable {tags : List String} {placed left : List Step}

theorem next_eq_some (h : Accounted tags placed left) {w : Waiting} {rest : List Waiting}
    (hn : next (left.map (Step.after tags placed)) = some (w, rest)) :
    ∃ before s after, left = before ++ s :: after ∧ w = s.after tags placed ∧
      rest = (before ++ after).map (Step.after tags placed) ∧ Chosen tags placed before s after := by
  have hcut {front back : List Waiting} (hl : left.map (Step.after tags placed) = front ++ w :: back) :
      ∃ l s l', left = l ++ s :: l' ∧ w = s.after tags placed ∧ front = l.map (Step.after tags placed) ∧
        back = l'.map (Step.after tags placed) := by
    obtain ⟨l, l₁, rfl, rfl, h₁⟩ := List.map_eq_append_iff.1 hl
    obtain ⟨s, l', rfl, rfl, rfl⟩ := List.map_eq_cons_iff.1 h₁
    exact ⟨l, s, l', rfl, rfl, rfl, rfl⟩
  unfold next at hn
  split at hn
  · rename_i found hf
    cases hn
    obtain ⟨hw, front, back, hl, rfl, hfront⟩ := extract_eq_some hf
    obtain ⟨l, s, l', rfl, rfl, rfl, rfl⟩ := hcut hl
    simp only [Bool.and_eq_true, beq_iff_eq, Bool.not_eq_true', Step.step_after] at hw
    refine ⟨l, s, l', rfl, rfl, by rw [List.map_append], (h.unmet_after (by simp)).1 hw.1, ?_, ?_⟩
    · intro s' hs' hdue
      have hfalse := hfront _ (List.mem_map_of_mem hs')
      refine ⟨hw.2, ?_⟩
      simpa [(h.unmet_after (by simp [hs'])).2 hdue] using hfalse
    · simp [hw.2]
  · rename_i hnone
    obtain ⟨hw, front, back, hl, rfl, hfront⟩ := extract_eq_some hn
    obtain ⟨l, s, l', rfl, rfl, rfl, rfl⟩ := hcut hl
    refine ⟨l, s, l', rfl, rfl, by rw [List.map_append], (h.unmet_after (by simp)).1 (by simpa using hw), ?_, ?_⟩
    · intro s' hs' hdue
      have hfalse := hfront _ (List.mem_map_of_mem hs')
      simp [(h.unmet_after (by simp [hs'])).2 hdue] at hfalse
    · intro _ s' hs' hdue
      have hmem : s' ∈ l ++ s :: l' := by simp [hs']
      have hfalse := extract_eq_none hnone _ (List.mem_map_of_mem hmem)
      simpa [(h.unmet_after hmem).2 hdue] using hfalse

theorem next_eq_none (h : Accounted tags placed left) (hn : next (left.map (Step.after tags placed)) = none) :
    ∀ s ∈ left, ¬ s.Due tags placed := by
  unfold next at hn
  split at hn
  · cases hn
  · intro s hs hdue
    have hfalse := extract_eq_none hn _ (List.mem_map_of_mem hs)
    simp [(h.unmet_after hs).2 hdue] at hfalse

end

/-! ## Schedules -/

/-- How the steps that are left after some were placed are placed: a chosen one first, until there are no more, none of
them is due, or one of them has more carriers than it counts. -/
inductive Placing (tags : List String) : (placed left : List Step) → Except StepError (List Step) → Prop
  | finished {placed} : Placing tags placed [] (.ok [])
  | stuck {placed left} (some : left ≠ []) (none : ∀ s ∈ left, ¬ s.Due tags placed) :
    Placing tags placed left (.error (.cycle (left.map (·.tag))))
  | exceeded {placed before s after s'} (mem : s' ∈ before ++ after)
    (more : countUnmet tags s' < carriers (s :: placed) s') :
    Placing tags placed (before ++ s :: after) (.error (.counterBelowZero s'.tag))
  | placed {placed before s after result} (chosen : Chosen tags placed before s after)
    (rest : Placing tags (s :: placed) (before ++ after) result) :
    Placing tags placed (before ++ s :: after) (result.map (s :: ·))

/-- **Steps are placed one after another.** -/
theorem placing_schedule {tags : List String} {placed left : List Step} (h : Accounted tags placed left) :
    Placing tags placed left (schedule (left.map (Step.after tags placed))) := by
  generalize hws : left.map (Step.after tags placed) = ws
  fun_induction schedule ws generalizing placed left with
  | case1 ws hn hempty =>
    rw [List.isEmpty_iff] at hempty
    obtain rfl : left = [] := List.map_eq_nil_iff.1 (hws.trans hempty)
    exact .finished
  | case2 ws hn hempty =>
    subst hws
    have hne : left ≠ [] := by
      rintro rfl
      exact hempty rfl
    have hstuck := Placing.stuck hne (next_eq_none h hn)
    rwa [List.map_map]
  | case3 ws w rest hn err hr =>
    subst hws
    obtain ⟨before, s, after, rfl, rfl, rfl, chosen⟩ := next_eq_some h hn
    rcases release_cases s (before ++ after) (h.sublist (by simp)) with ⟨-, hok⟩ | ⟨s', hs', hmore, herror⟩
    · cases hok.symm.trans hr
    · cases herror.symm.trans hr
      exact .exceeded hs' hmore
  | case4 ws w rest hn released hr ih =>
    subst hws
    obtain ⟨before, s, after, rfl, rfl, rfl, chosen⟩ := next_eq_some h hn
    rcases release_cases s (before ++ after) (h.sublist (by simp)) with ⟨hrest, hok⟩ | ⟨s', hs', hmore, herror⟩
    · cases hok.symm.trans hr
      exact .placed chosen (ih hrest rfl)
    · cases herror.symm.trans hr

namespace Placing

variable {tags : List String} {placed left out done rest : List Step} {s : Step} {result : Except StepError (List Step)}

/-- A full order, a cycle or a number below zero, and nothing else. -/
theorem ok_or_error (h : Placing tags placed left result) : (∃ out, result = .ok out) ∨
    (∃ waiting, result = .error (.cycle waiting)) ∨ ∃ tag, result = .error (.counterBelowZero tag) := by
  induction h with
  | finished => exact Or.inl ⟨_, rfl⟩
  | stuck => exact Or.inr (Or.inl ⟨_, rfl⟩)
  | exceeded => exact Or.inr (Or.inr ⟨_, rfl⟩)
  | placed chosen rest ih =>
    rcases ih with ⟨out, rfl⟩ | ⟨waiting, rfl⟩ | ⟨tag, rfl⟩
    · exact Or.inl ⟨_, rfl⟩
    · exact Or.inr (Or.inl ⟨_, rfl⟩)
    · exact Or.inr (Or.inr ⟨_, rfl⟩)

theorem eq_nil (h : Placing tags placed left (.ok [])) : left = [] := by
  generalize hout : (.ok [] : Except StepError (List Step)) = result at h
  cases h with
  | finished => rfl
  | stuck => cases hout
  | exceeded => cases hout
  | @placed _ _ _ _ result _ _ => cases result <;> cases hout

/-- The first step is a chosen one, and the others are placed after it. -/
theorem cons_inv (h : Placing tags placed left (.ok (s :: out))) :
    ∃ before after, left = before ++ s :: after ∧ Chosen tags placed before s after ∧
      Placing tags (s :: placed) (before ++ after) (.ok out) := by
  generalize hout : (.ok (s :: out) : Except StepError (List Step)) = result at h
  cases h with
  | finished => cases hout
  | stuck => cases hout
  | exceeded => cases hout
  | @placed _ before s' after result chosen rest =>
    cases result with
    | error e => cases hout
    | ok out' =>
      cases hout
      exact ⟨before, after, rfl, chosen, rest⟩

/-- **All steps are placed, each once.** -/
theorem perm (h : Placing tags placed left (.ok out)) : out.Perm left := by
  induction out generalizing placed left with
  | nil => rw [h.eq_nil]
  | cons s out ih =>
    obtain ⟨before, after, rfl, -, rest⟩ := h.cons_inv
    exact ((ih rest).cons s).trans List.perm_middle.symm

/-- **At its place each step is chosen among those that are left.** -/
theorem chosen (h : Placing tags placed left (.ok (done ++ s :: rest))) :
    ∃ before after, Chosen tags (done.reverse ++ placed) before s after ∧
      (before ++ after).Perm rest ∧ (before ++ s :: after).Sublist left := by
  induction done generalizing placed left with
  | nil =>
    obtain ⟨before, after, rfl, chosen, more⟩ := h.cons_inv
    exact ⟨before, after, chosen, more.perm.symm, .refl _⟩
  | cons first done ih =>
    obtain ⟨before, after, rfl, -, more⟩ := h.cons_inv
    obtain ⟨before', after', chosen, hrest, hsub⟩ := ih more
    refine ⟨before', after', ?_, hrest, hsub.trans ?_⟩
    · simpa using chosen
    · exact (List.Sublist.refl before).append (List.sublist_cons_self first after)

/-- Each step is placed once as many carriers are placed as it counts. -/
theorem met (h : Placing tags placed left (.ok (done ++ s :: rest))) :
    carriers (done ++ placed) s = countUnmet tags s := by
  obtain ⟨before, after, chosen, -, -⟩ := h.chosen
  rw [← chosen.due]
  exact carriers_perm ((List.reverse_perm done).symm.append_right placed)

/-- **A number drops below zero only for a step with more carriers than it counts.** -/
theorem exceeded_inv {tag : String} (h : Placing tags placed left (.error (.counterBelowZero tag))) :
    ∃ s ∈ left, s.tag = tag ∧ countUnmet tags s < carriers (placed ++ left) s := by
  generalize hout : (.error (.counterBelowZero tag) : Except StepError (List Step)) = result at h
  induction h with
  | finished => cases hout
  | stuck => cases hout
  | @exceeded placed before s after s' mem more =>
    cases hout
    have hsub : (placed ++ [s]).Sublist (placed ++ (before ++ s :: after)) :=
      (List.Sublist.refl placed).append (by simp)
    have hmem : (before ++ after).Sublist (before ++ s :: after) := by simp
    refine ⟨s', hmem.subset mem, rfl, Nat.lt_of_lt_of_le more ?_⟩
    rw [carriers_perm (List.perm_append_singleton s placed).symm]
    exact carriers_le_of_sublist hsub
  | @placed placed before s after result _ _ ih =>
    cases result with
    | ok out => cases hout
    | error e =>
      cases hout
      obtain ⟨s', hs', htag, hmore⟩ := ih rfl
      have hmem : (before ++ after).Sublist (before ++ s :: after) := by simp
      have hperm : (s :: placed ++ (before ++ after)).Perm (placed ++ (before ++ s :: after)) :=
        List.perm_middle.symm.trans (List.perm_middle.symm.append_left placed)
      exact ⟨s', hmem.subset hs', htag, Nat.lt_of_lt_of_eq hmore (carriers_perm hperm)⟩

end Placing

end MarketSync.Deploy

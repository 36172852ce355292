import Mathlib.Data.Set.Finite.List
import Mathlib.Order.WellFounded
import Mathlib.Data.Fintype.Card
import MarketSync.Proofs.StepOrder

/-!
# Which steps are never ready

A step is never ready if it lies on a cycle of dependencies, or depends on a step that does. Since a step counts a
dependency as often as it names it, but a scheduled step is counted off once, the same is true of a step that names
a tag of the list twice, and of the steps that depend on it.

* `exists_cycle` — where each element leads to another one, finitely many elements hold a cycle.
* `Divided.due_iff` — a step is due if it names nothing twice and all that it depends on is placed.
* `order_blocked` — an order is found unless a step is blocked; the blocked steps are then the ones reported.
* `reportsCycles_iff` — the steps that are reported are those behind a cycle exactly if all that name a tag twice are.
* `named_twice_reported` — a step that names another one twice is reported as a cycle where there is none.
-/

open Relation

namespace MarketSync.Deploy

/-! ## Cycles -/

/-- A step depends on a step of the list if it names its tag. -/
def DependsOn (steps : List Step) (s s' : Step) : Prop :=
  s ∈ steps ∧ s' ∈ steps ∧ s'.tag ∈ s.dependencies

/-- A step depends on itself, directly or through others. -/
def OnCycle (steps : List Step) (s : Step) : Prop :=
  TransGen (DependsOn steps) s s

/-- A step lies on a cycle or depends on one, directly or through others. -/
def BehindCycle (steps : List Step) (s : Step) : Prop :=
  ∃ s', ReflTransGen (DependsOn steps) s s' ∧ OnCycle steps s'

/-- A step names the tag of a step more than once. -/
def NamesTwice (steps : List Step) (s : Step) : Prop :=
  ∃ s' ∈ steps, 1 < s.dependencies.count s'.tag

/-- A step can never be ready: it depends on a cycle or on a step that names a tag twice, or is one of them. -/
def Blocked (steps : List Step) (s : Step) : Prop :=
  ∃ s' ∈ steps, ReflTransGen (DependsOn steps) s s' ∧ (OnCycle steps s' ∨ NamesTwice steps s')

/-- All steps of the list that a step depends on are done. -/
def Met (steps done : List Step) (s : Step) : Prop :=
  ∀ d, DependsOn steps s d → d ∈ done

/-- **Where each of finitely many elements leads to another one there is a cycle.** -/
theorem exists_cycle {α : Type} {R : α → α → Prop} {l : List α} {P : α → Prop} (within : ∀ a, P a → a ∈ l)
    (leads : ∀ a, P a → ∃ b, P b ∧ R a b) {a : α} (ha : P a) : ∃ b, P b ∧ TransGen R b b := by
  by_contra hacyclic
  have hfinite : Finite { b // P b } := (l.finite_toSet.subset within).to_subtype
  let before (b c : { b // P b }) : Prop := TransGen R c.1 b.1
  have : IsTrans { b // P b } before := ⟨fun _ _ _ hab hbc => hbc.trans hab⟩
  have : Std.Irrefl before := ⟨fun b hb => hacyclic ⟨b.1, b.2, hb⟩⟩
  -- a last element would lead to nothing
  obtain ⟨last, -, hlast⟩ := (Finite.wellFounded_of_trans_of_irrefl before).has_min Set.univ ⟨⟨a, ha⟩, trivial⟩
  obtain ⟨b, hb, hlb⟩ := leads last.1 last.2
  exact hlast ⟨b, hb⟩ trivial (.single hlb)

section
variable {steps : List Step} {s s' : Step}

theorem BehindCycle.of_reaches (hreach : ReflTransGen (DependsOn steps) s s') (h : BehindCycle steps s') :
    BehindCycle steps s := by
  obtain ⟨u, hu, hcycle⟩ := h
  exact ⟨u, hreach.trans hu, hcycle⟩

theorem OnCycle.mem (h : OnCycle steps s) : s ∈ steps := by
  obtain ⟨u, hsu, -⟩ := TransGen.head'_iff.1 h
  exact hsu.1

theorem namesTwice_iff : NamesTwice steps s ↔ ¬ (s.inner (steps.map (·.tag))).Nodup := by
  have hcount {d : String} (hd : d ∈ steps.map (·.tag)) :
      (s.inner (steps.map (·.tag))).count d = s.dependencies.count d :=
    List.count_filter (List.contains_iff_mem.2 hd)
  rw [List.nodup_iff_count_le_one]
  constructor
  · rintro ⟨s', hs', htwice⟩ honce
    have hle := honce s'.tag
    rw [hcount (List.mem_map_of_mem hs')] at hle
    omega
  · intro htwice
    obtain ⟨d, hd⟩ := not_forall.1 htwice
    have hmem : d ∈ s.inner (steps.map (·.tag)) := List.count_pos_iff.1 (by omega)
    have htag := (Step.mem_inner.1 hmem).2
    obtain ⟨s', hs', rfl⟩ := List.mem_map.1 htag
    rw [hcount htag] at hd
    exact ⟨s', hs', by omega⟩

end

/-! ## Which steps are due -/

/-- A step can be placed after others: it names none twice, and all that it depends on are among them. -/
structure Step.Ready (steps placed : List Step) (s : Step) : Prop where
  once : ¬ NamesTwice steps s
  met : Met steps placed s

/-- Steps with distinct tags, divided into those that are placed and those that are left. -/
structure Divided (steps placed left : List Step) : Prop where
  distinct : (steps.map (·.tag)).Nodup
  perm : (placed ++ left).Perm steps

namespace Divided

variable {steps placed left before after : List Step} {s d : Step}

theorem initial (distinct : (steps.map (·.tag)).Nodup) : Divided steps [] steps :=
  ⟨distinct, .refl _⟩

theorem place (h : Divided steps placed (before ++ s :: after)) : Divided steps (s :: placed) (before ++ after) where
  distinct := h.distinct
  perm := by
    refine .trans ?_ h.perm
    rw [← List.append_assoc, List.cons_append, ← List.append_assoc]
    exact List.perm_middle.symm

theorem placed_subset (h : Divided steps placed left) : placed ⊆ steps :=
  fun _ hs => h.perm.subset (List.mem_append_left _ hs)

theorem left_subset (h : Divided steps placed left) : left ⊆ steps :=
  fun _ hs => h.perm.subset (List.mem_append_right _ hs)

theorem tags_subset (h : Divided steps placed left) : placed.map (·.tag) ⊆ steps.map (·.tag) :=
  List.map_subset _ h.placed_subset

theorem nodup_tags (h : Divided steps placed left) : (placed.map (·.tag)).Nodup := by
  have hall := (h.perm.map (·.tag)).nodup_iff.2 h.distinct
  rw [List.map_append] at hall
  exact hall.of_append_left

theorem mem_of_tag (h : Divided steps placed left) (hd : d ∈ steps) (htag : d.tag ∈ placed.map (·.tag)) :
    d ∈ placed := by
  obtain ⟨d', hd', hsame⟩ := List.mem_map.1 htag
  rwa [← List.inj_on_of_nodup_map h.distinct (h.placed_subset hd') hd hsame]

theorem subperm_inner (h : Divided steps placed left) :
    ((placed.map (·.tag)).filter s.dependencies.contains).Subperm (s.inner (steps.map (·.tag))) :=
  Deploy.subperm_inner (fun d _ => List.nodup_iff_count_le_one.1 h.nodup_tags d) h.tags_subset

theorem carriers_le (h : Divided steps placed left) : carriers placed s ≤ countUnmet (steps.map (·.tag)) s := by
  rw [← length_named, ← Step.length_inner]
  exact h.subperm_inner.length_le

/-- **A step is due exactly if it names nothing twice and all that it depends on is placed.** -/
theorem due_iff (h : Divided steps placed left) (hs : s ∈ steps) :
    s.Due (steps.map (·.tag)) placed ↔ s.Ready steps placed := by
  have hsub := h.subperm_inner (s := s)
  have hnamed {t : String} (ht : t ∈ (placed.map (·.tag)).filter s.dependencies.contains) :
      t ∈ placed.map (·.tag) := List.mem_of_mem_filter ht
  rw [Step.Due, ← length_named, ← Step.length_inner]
  constructor
  · intro hlength
    have hperm := hsub.perm_of_length_le hlength.ge
    have honce := hperm.nodup_iff.1 (h.nodup_tags.filter _)
    refine ⟨fun htwice => namesTwice_iff.1 htwice honce, ?_⟩
    intro d hd
    have hinner : d.tag ∈ s.inner (steps.map (·.tag)) :=
      Step.mem_inner.2 ⟨hd.2.2, List.mem_map_of_mem hd.2.1⟩
    exact h.mem_of_tag hd.2.1 (hnamed (hperm.mem_iff.2 hinner))
  · rintro ⟨honce, hmet⟩
    have hnodup : (s.inner (steps.map (·.tag))).Nodup :=
      Decidable.byContradiction fun htwice => honce (namesTwice_iff.2 htwice)
    refine hsub.length_le.antisymm (List.subperm_of_subset hnodup ?_).length_le
    intro t ht
    obtain ⟨hdep, htag⟩ := Step.mem_inner.1 ht
    obtain ⟨d, hd, rfl⟩ := List.mem_map.1 htag
    exact List.mem_filter.2 ⟨List.mem_map_of_mem (hmet d ⟨hs, hd, hdep⟩), List.contains_iff_mem.2 hdep⟩

end Divided

/-! ## Blocked steps are those that are left -/

section
variable {steps placed left : List Step} {s : Step}

/-- What is ready while no placed step is blocked is not blocked. -/
theorem not_blocked_of_ready (ready : s.Ready steps placed) (clear : ∀ u ∈ placed, ¬ Blocked steps u) :
    ¬ Blocked steps s := by
  have hnext {u : Step} (hu : DependsOn steps s u) : ¬ Blocked steps u := clear u (ready.met u hu)
  rintro ⟨s', hs', hreach, hbad⟩
  rcases hreach.cases_head with rfl | ⟨u, hsu, hus'⟩
  · rcases hbad with hcycle | htwice
    · obtain ⟨u, hsu, hus⟩ := TransGen.head'_iff.1 hcycle
      exact hnext hsu ⟨s, hs', hus, Or.inl hcycle⟩
    · exact ready.once htwice
  · exact hnext hsu ⟨s', hs', hus', hbad⟩

/-- If nothing that is left is ready, all of it is blocked. -/
theorem blocked_of_not_ready (divided : Divided steps placed left) (none : ∀ u ∈ left, ¬ u.Ready steps placed)
    (hs : s ∈ left) : Blocked steps s := by
  by_contra hnot
  -- each step that is reached waits for another one, which is reached too
  have hleads : ∀ u, u ∈ left ∧ ReflTransGen (DependsOn steps) s u →
      ∃ v, (v ∈ left ∧ ReflTransGen (DependsOn steps) s v) ∧ DependsOn steps u v := by
    rintro u ⟨hu, hreach⟩
    have honce : ¬ NamesTwice steps u := fun htwice => hnot ⟨u, divided.left_subset hu, hreach, Or.inr htwice⟩
    have hunmet : ¬ Met steps placed u := fun hmet => none u hu ⟨honce, hmet⟩
    simp only [Met, not_forall] at hunmet
    obtain ⟨v, huv, hv⟩ := hunmet
    have hleft : v ∈ left := (List.mem_append.1 (divided.perm.mem_iff.2 huv.2.1)).resolve_left hv
    exact ⟨v, ⟨hleft, hreach.tail huv⟩, huv⟩
  obtain ⟨u, ⟨hu, hreach⟩, hcycle⟩ := exists_cycle (fun _ h => h.1) hleads ⟨hs, .refl⟩
  exact hnot ⟨u, divided.left_subset hu, hreach, Or.inl hcycle⟩

/-- **The steps that are never placed are the blocked ones.** -/
theorem Placing.blocked {result : Except StepError (List Step)}
    (h : Placing (steps.map (·.tag)) placed left result) (divided : Divided steps placed left)
    (clear : ∀ u ∈ placed, ¬ Blocked steps u) :
    ∃ blocked, blocked.Sublist left ∧ (∀ s, s ∈ blocked ↔ s ∈ left ∧ Blocked steps s) ∧
      ((blocked = [] ∧ ∃ out, result = .ok out) ∨
        blocked ≠ [] ∧ result = .error (.cycle (blocked.map (·.tag)))) := by
  induction h with
  | finished => exact ⟨[], .refl _, by simp, Or.inl ⟨rfl, _, rfl⟩⟩
  | @stuck placed left some none =>
    have hnone : ∀ u ∈ left, ¬ u.Ready steps placed :=
      fun u hu hready => none u hu ((divided.due_iff (divided.left_subset hu)).2 hready)
    refine ⟨left, .refl _, ?_, Or.inr ⟨some, rfl⟩⟩
    intro s
    simpa using fun hs => blocked_of_not_ready divided hnone hs
  | exceeded mem more => exact absurd divided.place.carriers_le (Nat.not_le_of_lt more)
  | @placed placed before s after result chosen rest ih =>
    have hready : s.Ready steps placed := (divided.due_iff (divided.left_subset (by simp))).1 chosen.due
    have hclear := not_blocked_of_ready hready clear
    obtain ⟨blocked, hsub, hmem, houtcome⟩ := ih divided.place (List.forall_mem_cons.2 ⟨hclear, clear⟩)
    refine ⟨blocked, hsub.trans ((List.Sublist.refl before).append (List.sublist_cons_self s after)), fun u => ?_, ?_⟩
    · rw [hmem]
      simp only [List.mem_append, List.mem_cons]
      constructor
      · rintro ⟨hu, hblocked⟩
        exact ⟨hu.imp_right Or.inr, hblocked⟩
      · rintro ⟨hu | rfl | hu, hblocked⟩
        · exact ⟨Or.inl hu, hblocked⟩
        · exact absurd hblocked hclear
        · exact ⟨Or.inr hu, hblocked⟩
    · rcases houtcome with ⟨hnil, out, rfl⟩ | ⟨hne, rfl⟩
      · exact Or.inl ⟨hnil, _, rfl⟩
      · exact Or.inr ⟨hne, rfl⟩

end

/-! ## Orders -/

variable {steps : List Step} {provided : List String}

/-- **Where all dependencies are known an order is found, unless steps are blocked: these are then reported in the
order in which they stand.** -/
theorem order_blocked (distinct : (steps.map (·.tag)).Nodup) (known : Known steps provided) :
    ∃ blocked, blocked.Sublist steps ∧ (∀ s, s ∈ blocked ↔ s ∈ steps ∧ Blocked steps s) ∧
      ((blocked = [] ∧ ∃ ordered, order steps provided = .ok ordered) ∨
        blocked ≠ [] ∧ order steps provided = .error (.cycle (blocked.map (·.tag)))) := by
  rcases order_placing steps provided with ⟨-, hplacing⟩ | ⟨hnot, -⟩
  · exact hplacing.blocked (.initial distinct) (by simp)
  · exact absurd known hnot

/-- A cycle is reported exactly where there is one; the steps that are reported are those behind a cycle, in the order
in which they stand, and without a cycle an order is found. -/
structure ReportsCycles (steps : List Step) (provided : List String) : Prop where
  reported_iff : (∃ waiting, order steps provided = .error (.cycle waiting)) ↔ ∃ s ∈ steps, OnCycle steps s
  waiting_eq : ∀ waiting, order steps provided = .error (.cycle waiting) → ∃ behind : List Step,
    behind.Sublist steps ∧ (∀ s ∈ steps, s ∈ behind ↔ BehindCycle steps s) ∧ waiting = behind.map (·.tag)
  ordered : (∀ s ∈ steps, ¬ OnCycle steps s) → ∃ ordered, order steps provided = .ok ordered

/-- **Cycles are reported as they are exactly if every step that names a tag twice is behind a cycle.** -/
theorem reportsCycles_iff (distinct : (steps.map (·.tag)).Nodup) (known : Known steps provided) :
    ReportsCycles steps provided ↔ ∀ s ∈ steps, NamesTwice steps s → BehindCycle steps s := by
  obtain ⟨blocked, hsub, hmem, houtcome⟩ := order_blocked distinct known
  constructor
  · intro h s hs htwice
    have hblocked : s ∈ blocked := (hmem s).2 ⟨hs, s, hs, .refl, Or.inr htwice⟩
    have herror := (houtcome.resolve_left fun hnone => List.not_mem_nil (hnone.1 ▸ hblocked)).2
    obtain ⟨behind, hbehind, hiff, htags⟩ := h.waiting_eq _ herror
    -- tags are distinct, so a step that is reported is one of those behind a cycle
    obtain ⟨s', hs', htag⟩ := List.mem_map.1 (htags ▸ List.mem_map_of_mem hblocked)
    have hsame := List.inj_on_of_nodup_map distinct (hbehind.subset hs') hs htag
    exact (hiff s hs).1 (hsame ▸ hs')
  · intro htwice
    have hbehind {s : Step} (hs : s ∈ steps) : Blocked steps s ↔ BehindCycle steps s := by
      constructor
      · rintro ⟨s', hs', hreach, hcycle | hnames⟩
        · exact ⟨s', hreach, hcycle⟩
        · exact (htwice s' hs' hnames).of_reaches hreach
      · rintro ⟨s', hreach, hcycle⟩
        exact ⟨s', hcycle.mem, hreach, Or.inl hcycle⟩
    have hcycle : blocked ≠ [] ↔ ∃ s ∈ steps, OnCycle steps s := by
      constructor
      · intro hne
        obtain ⟨s, hs⟩ := List.exists_mem_of_ne_nil blocked hne
        obtain ⟨hs, hblocked⟩ := (hmem s).1 hs
        obtain ⟨s', -, hcycle⟩ := (hbehind hs).1 hblocked
        exact ⟨s', hcycle.mem, hcycle⟩
      · rintro ⟨s, hs, hcycle⟩
        exact List.ne_nil_of_mem ((hmem s).2 ⟨hs, s, hs, .refl, Or.inl hcycle⟩)
    rcases houtcome with ⟨hnil, ordered, hok⟩ | ⟨hne, herror⟩
    · refine ⟨?_, by simp [hok], fun _ => ⟨ordered, hok⟩⟩
      rw [← hcycle, hnil]
      simp [hok]
    · refine ⟨by simpa [herror] using hcycle.1 hne, fun waiting hwaiting => ?_, fun hacyclic => ?_⟩
      · rw [herror] at hwaiting
        cases hwaiting
        exact ⟨blocked, hsub, fun s hs => by rw [hmem, hbehind hs, and_iff_right hs], rfl⟩
      · obtain ⟨s, hs, hs'⟩ := hcycle.1 hne
        exact absurd hs' (hacyclic s hs)

/-! ## A cycle, and a tag that is named twice -/

def stepA : Step := ⟨"A", ["B"], false⟩
def stepB : Step := ⟨"B", ["A"], true⟩
def stepC : Step := ⟨"C", ["A", "A"], false⟩

/-- Two steps that depend on each other, one that names the first of them twice, and one without dependencies. -/
def cyclicSteps : List Step := [stepC, stepA, tokensStep, stepB]

/-- All but the last one are behind the cycle. -/
theorem cyclicSteps_reported : (cyclicSteps.map (·.tag)).Nodup ∧ Known cyclicSteps [] ∧
    NamesTwice cyclicSteps stepC ∧ ReportsCycles cyclicSteps [] := by
  have distinct : (cyclicSteps.map (·.tag)).Nodup := by decide
  have known : Known cyclicSteps [] := by
    unfold Known
    decide
  have htwice : NamesTwice cyclicSteps stepC := ⟨stepA, by decide, by decide⟩
  have hab : DependsOn cyclicSteps stepA stepB := ⟨by decide, by decide, by decide⟩
  have hba : DependsOn cyclicSteps stepB stepA := ⟨by decide, by decide, by decide⟩
  have hca : DependsOn cyclicSteps stepC stepA := ⟨by decide, by decide, by decide⟩
  have hcycle : OnCycle cyclicSteps stepA := .tail (.single hab) hba
  refine ⟨distinct, known, htwice, (reportsCycles_iff distinct known).2 fun s hs hnames => ?_⟩
  simp only [cyclicSteps, List.mem_cons, List.not_mem_nil, or_false] at hs
  rcases hs with rfl | rfl | rfl | rfl
  · exact ⟨stepA, .single hca, hcycle⟩
  · exact ⟨stepA, .refl, hcycle⟩
  · obtain ⟨s', -, hcount⟩ := hnames
    simp [tokensStep] at hcount
  · exact ⟨stepA, .single hba, hcycle⟩

def repeatingStep : Step := ⟨"B", ["A", "A"], false⟩

/-- A step that names another one twice is reported as a cycle, though no step depends on itself. -/
theorem named_twice_reported : ([plainStep, repeatingStep].map (·.tag)).Nodup ∧
    Known [plainStep, repeatingStep] [] ∧ (∀ s ∈ [plainStep, repeatingStep], ¬ OnCycle [plainStep, repeatingStep] s) ∧
    order [plainStep, repeatingStep] [] = .error (.cycle ["B"]) ∧ ¬ ReportsCycles [plainStep, repeatingStep] [] := by
  have herror : order [plainStep, repeatingStep] [] = .error (.cycle ["B"]) := by cbv
  have honly {s s' : Step} (h : DependsOn [plainStep, repeatingStep] s s') : s = repeatingStep ∧ s' = plainStep := by
    obtain ⟨hs, hs', hdep⟩ := h
    simp only [List.mem_cons, List.not_mem_nil, or_false] at hs hs'
    rcases hs with rfl | rfl <;> rcases hs' with rfl | rfl <;> simp_all [plainStep, repeatingStep]
  have hacyclic (s : Step) : ¬ OnCycle [plainStep, repeatingStep] s := by
    intro hcycle
    obtain ⟨u, hsu, hus⟩ := TransGen.head'_iff.1 hcycle
    obtain ⟨rfl, rfl⟩ := honly hsu
    -- the step that is named depends on nothing
    rcases hus.cases_head with heq | ⟨v, huv, -⟩
    · exact absurd heq (by decide)
    · exact absurd (honly huv).1 (by decide)
  refine ⟨by decide, ?_, fun s _ => hacyclic s, herror, fun h => ?_⟩
  · unfold Known
    decide
  · obtain ⟨s, -, hcycle⟩ := h.reported_iff.1 ⟨_, herror⟩
    exact hacyclic s hcycle

end MarketSync.Deploy

import Mathlib.Data.List.Induction
import MarketSync.Proofs.KeySeparation
import MarketSync.Proofs.Merging

/-!
# What the entries of a configuration say

`Configured` is what a definition and the general section set for a market, by meaning. The entries of a
market say just that, and where each market is defined once the merged entries are those of the definitions.

* `exists_configured`, `exists_entry` — entries and what is configured correspond.
* `Configured.value_unique` — one meaning has one value, unless it is the cap of a pool with one token.
* `Configured.exists_last` — after an entry none says otherwise, unless the short cap overrides the long one.
* `mergedEntries_of_nodup` — the entries of definitions with different triples stand one after another.
-/

namespace MarketSync

/-! ## The entries of one market -/

/-- What a definition and the general section set for a market. -/
inductive Configured (d : Definition) (g : GeneralSection) (m : Listing) : Key → SlotValue → Prop
  | amount {p n} (set : d.amounts p = some n) : Configured d g m (p.key m) (.uint n)
  | gasLimit {n} (set : g.tokenTransferGasLimit = some n) :
    Configured d g m (.tokenTransferGasLimit m.marketToken) (.uint n)
  | virtualId {w} (set : d.virtualMarketId = some w) :
    Configured d g m (.virtualMarketId m.marketToken) (.bytes32 w)

variable {d : Definition} {g : GeneralSection} {m : Listing} {k : Key} {v v' : SlotValue}

theorem mem_params (p : Param) : p ∈ leadingParams ∨ p ∈ trailingParams := by
  cases p <;> first
    | decide
    | (rename_i x; cases x <;> decide)
    | (rename_i x y; cases x <;> cases y <;> decide)

theorem paramEntry_of_amount {p : Param} {n : Uint256} (set : d.amounts p = some n) :
    paramEntry d m p = some ⟨(p.key m).slot, .uint n, p.label m⟩ := by
  rw [paramEntry, set]
  rfl

/-- The entry of a parameter, of the gas limit or of the virtual id says what is configured. -/
theorem exists_configured_of_param {p : Param} {e : Entry} (h : paramEntry d m p = some e) :
    Configured d g m (p.key m) e.value ∧ e.key = (p.key m).slot := by
  obtain ⟨n, hn, rfl⟩ := Option.map_eq_some_iff.1 h
  exact ⟨.amount hn, rfl⟩

theorem exists_configured {e : Entry} (h : e ∈ marketEntries d m g) :
    ∃ k, Configured d g m k e.value ∧ e.key = k.slot := by
  simp only [marketEntries, List.mem_append, List.mem_filterMap, Option.mem_toList] at h
  rcases h with ((⟨p, -, hp⟩ | hg) | ⟨p, -, hp⟩) | hv
  · exact ⟨_, exists_configured_of_param hp⟩
  · obtain ⟨n, hn, rfl⟩ := Option.map_eq_some_iff.1 hg
    exact ⟨_, .gasLimit hn, rfl⟩
  · exact ⟨_, exists_configured_of_param hp⟩
  · obtain ⟨w, hw, rfl⟩ := Option.map_eq_some_iff.1 hv
    exact ⟨_, .virtualId hw, rfl⟩

theorem exists_entry (h : Configured d g m k v) :
    ∃ e ∈ marketEntries d m g, e.key = k.slot ∧ e.value = v := by
  cases h with
  | @amount p n set =>
    refine ⟨⟨(p.key m).slot, .uint n, p.label m⟩, ?_, rfl, rfl⟩
    simp only [marketEntries, List.mem_append, List.mem_filterMap]
    rcases mem_params p with hp | hp
    · exact Or.inl (Or.inl (Or.inl ⟨p, hp, paramEntry_of_amount set⟩))
    · exact Or.inl (Or.inr ⟨p, hp, paramEntry_of_amount set⟩)
  | @gasLimit n set =>
    refine ⟨⟨(Key.tokenTransferGasLimit m.marketToken).slot, .uint n,
      "market token transfer gas limit " ++ m.marketToken.text⟩, ?_, rfl, rfl⟩
    simp [marketEntries, gasLimitEntry, set]
  | @virtualId w set =>
    refine ⟨⟨(Key.virtualMarketId m.marketToken).slot, .bytes32 w,
      "virtual market id for market " ++ m.marketToken.text⟩, ?_, rfl, rfl⟩
    simp [marketEntries, virtualIdEntry, set]

namespace Configured

theorem market_eq (h : Configured d g m k v) : k.market = m.marketToken := by
  cases h with
  | amount => exact Param.market_key m _
  | gasLimit => rfl
  | virtualId => rfl

/-- **What is configured under one meaning is one value, or the meaning is the cap of a pool with one
token and the short cap is set.** -/
theorem value_unique (h : Configured d g m k v) (h' : Configured d g m k v') : v = v' ∨
    k = (Param.maxPoolAmount .short).key m ∧ ∃ n, d.amounts (.maxPoolAmount .short) = some n := by
  generalize hk : k = k' at h'
  cases h with
  | @amount p n set =>
    cases h' with
    | @amount q n' set' =>
      rcases Param.key_eq_iff.1 hk with rfl | ⟨-, side, side', rfl, rfl⟩
      · rw [set] at set'
        exact Or.inl (congrArg SlotValue.uint (Option.some.inj set'))
      · cases side <;> cases side'
        · rw [set] at set'
          exact Or.inl (congrArg SlotValue.uint (Option.some.inj set'))
        · exact Or.inr ⟨rfl, n', set'⟩
        · exact Or.inr ⟨hk.symm, n, set⟩
        · exact Or.inr ⟨rfl, n, set⟩
    | gasLimit => cases p <;> cases hk
    | virtualId => cases p <;> cases hk
  | gasLimit set =>
    cases h' with
    | @amount q => cases q <;> cases hk
    | gasLimit set' =>
      rw [set] at set'
      exact Or.inl (congrArg SlotValue.uint (Option.some.inj set'))
    | virtualId => cases hk
  | virtualId set =>
    cases h' with
    | @amount q => cases q <;> cases hk
    | gasLimit => cases hk
    | virtualId set' =>
      rw [set] at set'
      exact Or.inl (congrArg SlotValue.bytes32 (Option.some.inj set'))

/-- A value for the meaning of the short cap that is not the short cap. -/
def Overridden (d : Definition) (m : Listing) (k : Key) (v : SlotValue) : Prop :=
  k = (Param.maxPoolAmount .short).key m ∧ ∃ n, d.amounts (.maxPoolAmount .short) = some n ∧ v ≠ .uint n

/-- The entry of the short cap and what comes after it: nothing of which is a cap of the pool. -/
theorem exists_last_short {n : Uint256} (set : d.amounts (.maxPoolAmount .short) = some n) :
    ∃ pre e post, marketEntries d m g = pre ++ e :: post ∧
      e.key = ((Param.maxPoolAmount .short).key m).slot ∧ e.value = .uint n ∧
      ∀ e' ∈ post, ∃ k', Configured d g m k' e'.value ∧ e'.key = k'.slot ∧
        k' ≠ (Param.maxPoolAmount .short).key m := by
  -- the parameters between the short cap and the gas limit
  let rest : List Param := Side.all.map .maxOpenInterest ++ Side.all.map .reserveFactor ++
    PnlCap.all.flatMap fun cap => Side.all.map (.pnlFactor cap)
  have hsplit : leadingParams = [.minCollateralFactor, .maxPoolAmount .long] ++ .maxPoolAmount .short :: rest := rfl
  have hrest : ∀ p ∈ rest ++ trailingParams, ∀ side, p ≠ .maxPoolAmount side := by
    intro p hp side
    have hno : (.maxPoolAmount side) ∉ rest ++ trailingParams := by cases side <;> decide
    exact fun h => hno (h ▸ hp)
  have hparam {p : Param} (hp : p ∈ rest ++ trailingParams) {e : Entry} (h : paramEntry d m p = some e) :
      ∃ k', Configured d g m k' e.value ∧ e.key = k'.slot ∧ k' ≠ (Param.maxPoolAmount .short).key m := by
    obtain ⟨hc, hkey⟩ := exists_configured_of_param (g := g) h
    refine ⟨_, hc, hkey, fun hk => ?_⟩
    rcases Param.key_eq_iff.1 hk with rfl | ⟨-, side, -, rfl, -⟩
    · exact hrest _ hp .short rfl
    · exact hrest _ hp side rfl
  refine ⟨[.minCollateralFactor, .maxPoolAmount .long].filterMap (paramEntry d m),
    ⟨((Param.maxPoolAmount .short).key m).slot, .uint n, (Param.maxPoolAmount .short).label m⟩,
    rest.filterMap (paramEntry d m) ++ (gasLimitEntry g m).toList ++
      trailingParams.filterMap (paramEntry d m) ++ (virtualIdEntry d m).toList, ?_, rfl, rfl, ?_⟩
  · rw [marketEntries, hsplit, List.filterMap_append, List.filterMap_cons_some (paramEntry_of_amount set)]
    simp only [List.append_assoc, List.cons_append]
  · intro e' he'
    simp only [List.mem_append, List.mem_filterMap, Option.mem_toList] at he'
    rcases he' with ((⟨p, hp, h⟩ | hg) | ⟨p, hp, h⟩) | hv
    · exact hparam (List.mem_append.2 (Or.inl hp)) h
    · obtain ⟨n, hn, rfl⟩ := Option.map_eq_some_iff.1 hg
      exact ⟨_, .gasLimit hn, rfl, nofun⟩
    · exact hparam (List.mem_append.2 (Or.inr hp)) h
    · obtain ⟨w, hw, rfl⟩ := Option.map_eq_some_iff.1 hv
      exact ⟨_, .virtualId hw, rfl, nofun⟩

/-- **After some entry for what is configured no other one for the same meaning says otherwise, unless it
is the long cap and the short cap overrides it.** -/
theorem exists_last (h : Configured d g m k v) (kept : ¬ Overridden d m k v) :
    ∃ pre e post, marketEntries d m g = pre ++ e :: post ∧ e.key = k.slot ∧ e.value = v ∧
      ∀ e' ∈ post, ∃ k', Configured d g m k' e'.value ∧ e'.key = k'.slot ∧ (k' = k → e'.value = v) := by
  by_cases hshort : k = (Param.maxPoolAmount .short).key m ∧ ∃ n, d.amounts (.maxPoolAmount .short) = some n
  · obtain ⟨rfl, n, set⟩ := hshort
    have hv : v = .uint n := Decidable.byContradiction fun hne => kept ⟨rfl, n, set, hne⟩
    obtain ⟨pre, e, post, hes, hkey, hvalue, hpost⟩ := exists_last_short (g := g) (m := m) set
    refine ⟨pre, e, post, hes, hkey, hvalue.trans hv.symm, fun e' he' => ?_⟩
    obtain ⟨k', hc, hkey', hne⟩ := hpost e' he'
    exact ⟨k', hc, hkey', fun hk => absurd hk hne⟩
  · obtain ⟨e, he, hkey, hvalue⟩ := exists_entry h
    obtain ⟨pre, post, hes⟩ := List.append_of_mem he
    refine ⟨pre, e, post, hes, hkey, hvalue, fun e' he' => ?_⟩
    obtain ⟨k', hc, hkey'⟩ := exists_configured (g := g) (m := m) (d := d) (e := e') (by simp [hes, he'])
    refine ⟨k', hc, hkey', ?_⟩
    rintro rfl
    exact (hc.value_unique h).resolve_right hshort

end Configured

/-! ## The entries of all markets -/

/-- Definitions of different triples are not merged with each other. -/
theorem entries_groupsOf_of_nodup (g : GeneralSection) (ms : List Listing) {rs : List Resolved}
    (hnodup : (rs.map (·.triple)).Nodup) :
    (groupsOf g ms rs).flatMap (·.entries) = rs.flatMap (definitionEntries g ms) := by
  induction rs using List.reverseRecOn with
  | nil => rfl
  | append_singleton rs r ih =>
    rw [List.map_append, List.nodup_append] at hnodup
    obtain ⟨hrs, -, hne⟩ := hnodup
    have hnew : ∀ group ∈ groupsOf g ms rs, group.triple ≠ r.triple := by
      intro group hgroup
      obtain ⟨t, ht, rfl⟩ := List.mem_map.1 hgroup
      exact hne t (mem_registered.1 ht).1 r.triple (by simp)
    rw [groupsOf_concat, List.flatMap_append, ← ih hrs, List.flatMap_singleton, definitionEntries]
    cases ms.find? fun m => m.triple = r.triple with
    | none => rw [List.append_nil]
    | some m =>
      dsimp only
      rw [addToGroup_of_new hnew, List.flatMap_append, List.flatMap_singleton]

/-- **The merged entries of definitions with different triples are theirs, one definition after another.** -/
theorem mergedEntries_of_nodup {ms : List Listing} {rs : List Resolved} {es : List Entry}
    (hnodup : (rs.map (·.triple)).Nodup) (merged : mergedEntries g ms rs = .ok es) :
    es = rs.flatMap (definitionEntries g ms) :=
  (groupsOf_of_mergedEntries merged).2.trans (entries_groupsOf_of_nodup g ms hnodup)

end MarketSync

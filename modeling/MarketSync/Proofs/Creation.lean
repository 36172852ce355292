import MarketSync.Proofs.Enumeration

/-!
# Creating the markets that are missing

* `createAll_prefix` — creations by a conforming factory happen up to some point, all of them if none fails.
* `createAll_succeeds` — a working factory creates distinct triples without a market.
* `createMissing_prefix`, `createMissing_succeeds` — the creation phase with its second snapshot.
-/

namespace MarketSync

variable {σ : Type} {b : Backend σ} {view : σ → Contents}

/-! ## The creations -/

/-- **Creations happen in order up to some point, and all of them if none fails.** -/
theorem createAll_prefix {factory : Factory σ} (hf : factory.Conforms view) (typeOf : Triple → Bytes32) :
    ∀ (ts : List Triple) {s s' : σ} {result : Except CallError Unit},
      createAll factory typeOf ts s = (result, s') →
      ∃ k, view s' = (view s).register ((ts.take k).map fun t => t.listing (typeOf t)) ∧
        (result = .ok () → ts.take k = ts)
  | [], s, s', result, h => by
    cases h
    exact ⟨0, ((view s).register_nil).symm, fun _ => rfl⟩
  | t :: ts, s, s', result, h => by
    rw [createAll] at h
    split at h
    · rename_i err s₁ hc
      cases h
      have hv := hf.create_error (congrArg Prod.fst hc)
      rw [hc] at hv
      refine ⟨0, ?_, nofun⟩
      rw [hv, List.take_zero, List.map_nil, Contents.register_nil]
    · rename_i s₁ hc
      have hv := hf.create_ok (congrArg Prod.fst hc)
      rw [hc] at hv
      obtain ⟨k, hv', hall⟩ := createAll_prefix hf typeOf ts h
      refine ⟨k + 1, ?_, fun hr => by rw [List.take_succ_cons, hall hr]⟩
      rw [hv', hv, Contents.register_register, List.take_succ_cons, List.map_cons, List.singleton_append]

theorem view_createAll_of_silent {factory : Factory σ} (hf : factory.Silent view)
    (typeOf : Triple → Bytes32) : ∀ (ts : List Triple) (s : σ),
      view (createAll factory typeOf ts s).2 = view s
  | [], _ => rfl
  | t :: ts, s => by
    have hv := hf t (typeOf t) s
    rw [createAll]
    split
    · rename_i err s₁ hc
      rwa [hc] at hv
    · rename_i s₁ hc
      rw [hc] at hv
      exact (view_createAll_of_silent hf typeOf ts s₁).trans hv

theorem createAll_succeeds {factory : Factory σ} (hf : factory.Works view) (typeOf : Triple → Bytes32) :
    ∀ (ts : List Triple) (s : σ), ts.Nodup → (∀ t ∈ ts, t ∉ (view s).markets.map (·.triple)) →
      (createAll factory typeOf ts s).1 = .ok ()
  | [], _, _, _ => rfl
  | t :: ts, s, hnodup, hnew => by
    obtain ⟨ht, hts⟩ := List.nodup_cons.1 hnodup
    have hok : (factory.createMarket t (typeOf t) s).1 = .ok () := hf.create_succeeds (hnew t (by simp))
    rw [createAll]
    split
    · rename_i err s₁ hc
      rw [hc] at hok
      cases hok
    · rename_i s₁ hc
      have hv := hf.create_ok (congrArg Prod.fst hc)
      rw [hc] at hv
      refine createAll_succeeds hf typeOf ts s₁ hts fun u hu => ?_
      have hne : u ≠ t := fun h => ht (h ▸ hu)
      rw [hv]
      simpa [Triple.listing, hne, Ne.symm hne] using hnew u (by simp [hu])

/-! ## The phase -/

/-- **The creation phase creates a first part of what is missing. If it gives a snapshot, that is the
snapshot of the markets it leaves; it leaves out missing ones only where creations are silent.** -/
theorem createMissing_prefix (hr : b.registry.Conforms view)
    (hf : b.factory.Conforms view ∨ b.factory.Silent view) {o : RunOptions} (apply : o.mode = .apply)
    {typeOf : Triple → Bytes32} {missing : List Triple} {s s' : σ}
    {result : Except ProvisionError Snapshot}
    (h : createMissing b o typeOf missing (.ofListings (view s).markets) s = (result, s')) :
    ∃ k, view s' = (view s).register ((missing.take k).map fun t => t.listing (typeOf t)) ∧
      (∀ snapshot, result = .ok snapshot → snapshot = .ofListings (view s').markets) ∧
      (b.factory.Conforms view → ∀ snapshot, result = .ok snapshot → missing.take k = missing) := by
  cases missing with
  | nil =>
    simp only [createMissing, apply] at h
    cases h
    exact ⟨0, ((view s).register_nil).symm, fun snapshot hs => (Except.ok.inj hs).symm, fun _ _ _ => rfl⟩
  | cons t ts =>
    simp only [createMissing, apply] at h
    -- silent creations are a first part of length zero
    have hcreate : ∀ {res s₁}, createAll b.factory typeOf (t :: ts) s = (res, s₁) →
        ∃ k, view s₁ = (view s).register (((t :: ts).take k).map fun t => t.listing (typeOf t)) ∧
          (b.factory.Conforms view → res = .ok () → (t :: ts).take k = t :: ts) := by
      intro res s₁ hc
      by_cases hconf : b.factory.Conforms view
      · obtain ⟨k, hv, hall⟩ := createAll_prefix hconf typeOf (t :: ts) hc
        exact ⟨k, hv, fun _ => hall⟩
      · have hv := view_createAll_of_silent (hf.resolve_left hconf) typeOf (t :: ts) s
        rw [hc] at hv
        exact ⟨0, hv.trans ((view s).register_nil).symm, fun h => absurd h hconf⟩
    split at h
    · rename_i err s₁ hc
      cases h
      obtain ⟨k, hv, -⟩ := hcreate hc
      exact ⟨k, hv, nofun, nofun⟩
    · rename_i s₁ hc
      obtain ⟨k, hv, hall⟩ := hcreate hc
      have hview := view_takeSnapshot hr o.pageSize s₁
      split at h
      · rename_i err s₂ hs
        cases h
        rw [hs] at hview
        exact ⟨k, hview.trans hv, nofun, nofun⟩
      · rename_i snapshot s₂ hs
        cases h
        obtain ⟨hsnap, hview⟩ := takeSnapshot_ok hr hs
        refine ⟨k, hview.trans hv, fun snapshot' he => ?_, fun hconf _ _ => hall hconf rfl⟩
        rw [← Except.ok.inj he, hsnap, hview]

/-- Where nothing fails everything missing is created. -/
theorem createMissing_succeeds (hb : b.Works view) {o : RunOptions} (apply : o.mode = .apply)
    (positive : 0 < o.pageSize) (typeOf : Triple → Bytes32) {missing : List Triple} (s : σ)
    (hnodup : missing.Nodup) (hnew : ∀ t ∈ missing, t ∉ (view s).markets.map (·.triple))
    (count : (view s).markets.length + missing.length < 2 ^ 63) :
    ∃ snapshot s', createMissing b o typeOf missing (.ofListings (view s).markets) s =
      (.ok snapshot, s') := by
  cases missing with
  | nil => exact ⟨.ofListings (view s).markets, s, by simp only [createMissing, apply]⟩
  | cons t ts =>
    have hok := createAll_succeeds hb.factory typeOf (t :: ts) s hnodup hnew
    simp only [createMissing, apply]
    split
    · rename_i err s₁ hc
      rw [hc] at hok
      cases hok
    · rename_i s₁ hc
      obtain ⟨k, hv, hall⟩ := createAll_prefix hb.factory.toConforms typeOf (t :: ts) hc
      rw [hall rfl] at hv
      have hlen : (view s₁).markets.length < 2 ^ 63 := by
        rw [hv, Contents.markets_register, List.length_append, List.length_map]
        exact count
      obtain ⟨s₂, hs, -⟩ := takeSnapshot_succeeds hb.registry positive s₁ hlen
      rw [hs]
      exact ⟨_, _, rfl⟩

end MarketSync

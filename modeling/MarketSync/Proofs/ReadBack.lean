import MarketSync.Proofs.Convergence

/-!
# Configured values read back

A run that succeeds leaves every configured value under its key. No later entry overwrites an earlier one:
keys of different meanings lie apart, unless two of the byte strings hashed for them collide. The long and
the short cap of a pool with one token have one meaning, under which the short cap is the last word.

* `Provisioned.reads_configured` — the slots of the markets after a run hold what is configured.
* `configured_reads_back` — the same as reads from the chain in memory.
* `long_cap_not_read_back` — where a pool has one token its long cap is lost.
-/

namespace MarketSync

/-! ## Keys in use -/

/-- Something is configured under the key for the market of some definition. -/
def KeyInUse (g : GeneralSection) (ms : List Listing) (rs : List Resolved) (k : Key) : Prop :=
  ∃ r ∈ rs, ∃ m v, (ms.find? fun m => m.triple = r.triple) = some m ∧ Configured r.definition g m k v

/-- Keys in use do not collide where they all are one key of one market. -/
theorem not_someCollide_of_one_key {g : GeneralSection} {ms : List Listing} {rs : List Resolved} {t : Triple}
    {key : Listing → Key} (one : ∀ k, KeyInUse g ms rs k →
      ∃ m, (ms.find? fun m => m.triple = t) = some m ∧ k = key m) : ¬ Key.SomeCollide (KeyInUse g ms rs) := by
  rintro ⟨k, k', hk, hk', hne, -⟩
  obtain ⟨m, hm, rfl⟩ := one k hk
  obtain ⟨m', hm', rfl⟩ := one k' hk'
  rw [hm] at hm'
  exact hne (by rw [Option.some.inj hm'])

/-- Listings of different triples have different market tokens. -/
def TokensApart (ms : List Listing) : Prop :=
  ∀ m ∈ ms, ∀ m' ∈ ms, m.triple ≠ m'.triple → m.marketToken ≠ m'.marketToken

theorem exists_entry_of_definition {g : GeneralSection} {ms : List Listing} {r : Resolved} {e : Entry}
    (h : e ∈ definitionEntries g ms r) : ∃ m k, (ms.find? fun m => m.triple = r.triple) = some m ∧
      Configured r.definition g m k e.value ∧ e.key = k.slot := by
  rw [definitionEntries] at h
  split at h
  · rename_i m hm
    obtain ⟨k, hc, hkey⟩ := exists_configured h
    exact ⟨m, k, hm, hc, hkey⟩
  · cases h

/-! ## What is read after a run -/

namespace Provisioned

variable {g : GeneralSection} {rs : List Resolved} {es : List Entry} {before after : Contents} {report : Report}

theorem find_market (h : Provisioned g rs es before after report) {r : Resolved} (hr : r ∈ rs) :
    ∃ m, (after.markets.find? fun m => m.triple = r.triple) = some m := by
  have hmem : r.triple ∈ after.markets.map (·.triple) := by
    rw [h.markets_eq]
    exact mem_triples_registerAll before.markets hr
  exact exists_find_triple hmem

/-- **After a run slots hold what is configured, up to collisions and caps that are overridden.** -/
theorem reads_configured (h : Provisioned g rs es before after report) (hnodup : (rs.map (·.triple)).Nodup)
    (apart : TokensApart after.markets) (hcollide : ¬ Key.SomeCollide (KeyInUse g after.markets rs)) {r : Resolved}
    (hr : r ∈ rs) {m : Listing} (hm : (after.markets.find? fun m => m.triple = r.triple) = some m) {k : Key}
    {v : SlotValue} (hc : Configured r.definition g m k v) (kept : ¬ Configured.Overridden r.definition m k v) :
    after.slots.read (v.slot k.slot) = v := by
  obtain ⟨pre, e, post, hentries, hkey, hvalue, hpost⟩ := hc.exists_last kept
  obtain ⟨rs₁, rs₂, hsplit⟩ := List.append_of_mem hr
  -- an entry for the slot is one for the key
  have hsame {r' : Resolved} (hr' : r' ∈ rs) {m' : Listing}
      (hm' : (after.markets.find? fun m => m.triple = r'.triple) = some m') {k' : Key} {e' : Entry}
      (hc' : Configured r'.definition g m' k' e'.value) (hkey' : e'.key = k'.slot) (hs : e'.slot = e.slot) :
      k' = k := by
    have hslot : k'.slot = k.slot := by rw [← hkey', ← hkey, Entry.key_eq_of_slot_eq hs]
    exact Key.eq_of_slot_eq hcollide ⟨r', hr', m', _, hm', hc'⟩ ⟨r, hr, m, v, hm, hc⟩ hslot
  have hlast : ∀ e' ∈ post ++ rs₂.flatMap (definitionEntries g after.markets), e'.slot = e.slot →
      e'.value = e.value := by
    intro e' he' hs
    rcases List.mem_append.1 he' with he' | he'
    · obtain ⟨k', hc', hkey', hvalue'⟩ := hpost e' he'
      rw [hvalue' (hsame hr hm hc' hkey' hs), hvalue]
    · obtain ⟨r', hr', he'⟩ := List.mem_flatMap.1 he'
      obtain ⟨m', k', hm', hc', hkey'⟩ := exists_entry_of_definition he'
      have hk := hsame (by simp [hsplit, hr']) hm' hc' hkey' hs
      -- a later definition is for another triple, whose market has another token
      have hne : m.triple ≠ m'.triple := by
        rw [hsplit, List.map_append, List.map_cons, List.nodup_append, List.nodup_cons] at hnodup
        rw [(mem_of_find_triple hm).2, (mem_of_find_triple hm').2]
        exact fun he => hnodup.2.1.1 (he ▸ List.mem_map_of_mem hr')
      have htoken := apart m (mem_of_find_triple hm).1 m' (mem_of_find_triple hm').1 hne
      rw [← hc.market_eq, ← hc'.market_eq, hk] at htoken
      exact absurd rfl htoken
  have hes := mergedEntries_of_nodup hnodup h.merged_after
  have hread := Slots.read_settleAll_of_last before.slots
    (rs₁.flatMap (definitionEntries g after.markets) ++ pre) hlast
  rw [h.slots_eq, hes, hsplit, List.flatMap_append, List.flatMap_cons, definitionEntries, hm]
  simp only [Entry.slot, hkey, hvalue, hentries, List.append_assoc, List.cons_append] at hread ⊢
  exact hread

end Provisioned

/-! ## The chain in memory -/

theorem Ledger.getUint_of_read {l : Ledger} {key : Bytes32} {n : Uint256}
    (h : l.slots.read (.uint key) = .uint n) : (l.getUint key).1 = .ok n := by
  rw [Slots.read, Ledger.slots, Slot.zero] at h
  rw [Ledger.getUint]
  cases hp : l.peekUint key with
  | none =>
    rw [hp] at h
    exact congrArg Except.ok (SlotValue.uint.inj h)
  | some n' =>
    rw [hp] at h
    exact congrArg Except.ok (SlotValue.uint.inj h)

theorem Ledger.getBytes32_of_read {l : Ledger} {key w : Bytes32}
    (h : l.slots.read (.bytes32 key) = .bytes32 w) : (l.getBytes32 key).1 = .ok w := by
  rw [Slots.read, Ledger.slots, Slot.zero] at h
  rw [Ledger.getBytes32]
  cases hp : l.peekBytes32 key with
  | none =>
    rw [hp] at h
    exact congrArg Except.ok (SlotValue.bytes32.inj h)
  | some w' =>
    rw [hp] at h
    exact congrArg Except.ok (SlotValue.bytes32.inj h)

/-- What a definition and the general section set for a market is what the slots of a ledger read as. -/
structure ReadsBack (d : Definition) (g : GeneralSection) (m : Listing) (l : Ledger) : Prop where
  /-- The long cap of a pool with one token has to be the short cap, if that is set. -/
  amounts : ∀ p n, d.amounts p = some n →
    (p = .maxPoolAmount .long → m.triple.longToken = m.triple.shortToken →
      ∀ n', d.amounts (.maxPoolAmount .short) = some n' → n' = n) →
    (l.getUint (p.key m).slot).1 = .ok n
  /-- If it is another one, the short cap is read in its place. -/
  shared_cap : m.triple.longToken = m.triple.shortToken → ∀ n, d.amounts (.maxPoolAmount .short) = some n →
    (l.getUint ((Param.maxPoolAmount .long).key m).slot).1 = .ok n
  virtualId : ∀ w, d.virtualMarketId = some w →
    (l.getBytes32 (Key.virtualMarketId m.marketToken).slot).1 = .ok w
  gasLimit : ∀ n, g.tokenTransferGasLimit = some n →
    (l.getUint (Key.tokenTransferGasLimit m.marketToken).slot).1 = .ok n

/-- Only a long cap that is not the short cap of the same pool token is overridden. -/
theorem Configured.not_overridden {d : Definition} {m : Listing} {p : Param} {n : Uint256}
    (set : d.amounts p = some n)
    (kept : p = .maxPoolAmount .long → m.triple.longToken = m.triple.shortToken →
      ∀ n', d.amounts (.maxPoolAmount .short) = some n' → n' = n) :
    ¬ Overridden d m (p.key m) (.uint n) := by
  rintro ⟨hk, n', short, hne⟩
  have hsame : n' = n := by
    rcases Param.key_eq_iff.1 hk with rfl | ⟨shared, side, -, rfl, -⟩
    · exact Option.some.inj (short.symm.trans set)
    · cases side with
      | long => exact kept rfl shared n' short
      | short => exact Option.some.inj (short.symm.trans set)
  exact hne (congrArg SlotValue.uint hsame.symm)

theorem Provisioned.readsBack {g : GeneralSection} {rs : List Resolved} {es : List Entry} {before : Contents}
    {l : Ledger} {report : Report} (h : Provisioned g rs es before l.contents report)
    (hnodup : (rs.map (·.triple)).Nodup) (apart : TokensApart l.markets)
    (hcollide : ¬ Key.SomeCollide (KeyInUse g l.markets rs)) {r : Resolved} (hr : r ∈ rs) {m : Listing}
    (hm : (l.markets.find? fun m => m.triple = r.triple) = some m) : ReadsBack r.definition g m l := by
  have hread {k : Key} {v : SlotValue} (hc : Configured r.definition g m k v)
      (kept : ¬ Configured.Overridden r.definition m k v) : l.slots.read (v.slot k.slot) = v :=
    h.reads_configured hnodup apart hcollide hr hm hc kept
  have hamounts (p : Param) (n : Uint256) (set : r.definition.amounts p = some n)
      (kept : p = .maxPoolAmount .long → m.triple.longToken = m.triple.shortToken →
        ∀ n', r.definition.amounts (.maxPoolAmount .short) = some n' → n' = n) :
      (l.getUint (p.key m).slot).1 = .ok n :=
    Ledger.getUint_of_read (hread (.amount set) (Configured.not_overridden set kept))
  refine ⟨hamounts, fun shared n short => ?_, fun w set => ?_, fun n set => ?_⟩
  · have hkey : (Param.maxPoolAmount .long).key m = (Param.maxPoolAmount .short).key m :=
      Param.key_eq_iff.2 (Or.inr ⟨shared, .long, .short, rfl, rfl⟩)
    rw [hkey]
    exact hamounts _ n short nofun
  · exact Ledger.getBytes32_of_read (hread (.virtualId set) fun hover => nomatch hover.1)
  · exact Ledger.getUint_of_read (hread (.gasLimit set) fun hover => nomatch hover.1)

theorem tokensApart_singleton (m : Listing) : TokensApart [m] := by
  intro a ha b hb hne
  rw [List.mem_singleton.1 ha, List.mem_singleton.1 hb] at hne
  exact absurd rfl hne

/-- The only key in use is that of the pool. -/
theorem not_someCollide_twoCaps (ms : List Listing) :
    ¬ Key.SomeCollide (KeyInUse twoCapsConfig.general ms [twoCapsResolved]) := by
  have hpool (k : Key) (h : KeyInUse twoCapsConfig.general ms [twoCapsResolved] k) :
      ∃ m, (ms.find? fun m => m.triple = twoCapsTriple) = some m ∧ k = .maxPoolAmount m.marketToken 0x11 := by
    obtain ⟨r, hr, m, v, hm, hc⟩ := h
    obtain rfl := List.mem_singleton.1 hr
    refine ⟨m, hm, ?_⟩
    have htriple : m.triple = twoCapsTriple := (mem_of_find_triple hm).2
    cases hc with
    | @amount p n set =>
      cases p <;> try cases set
      case maxPoolAmount side => cases side <;> simp [Param.key, Param.poolToken, htriple, twoCapsTriple]
    | gasLimit set => cases set
    | virtualId set => cases set
  exact not_someCollide_of_one_key hpool

/-- **After a run that succeeds the slots read as configured, unless two different byte strings hashed for
the keys collide. Where a pool has one token and two caps, the short cap is the one that is read.** -/
theorem configured_reads_back {c : Config} {rs : List Resolved} (resolved : resolveAll c.tokens c.markets = .ok rs)
    (hnodup : (rs.map (·.triple)).Nodup) {size : UInt64} {before l : Ledger} {report : Report}
    (run : provision Ledger.backend { pageSize := size } c before = (.ok report, l))
    (apart : TokensApart l.markets) :
    Key.SomeCollide (KeyInUse c.general l.markets rs) ∨ ∀ r ∈ rs, ∃ m,
      (l.markets.find? fun m => m.triple = r.triple) = some m ∧ ReadsBack r.definition c.general m l := by
  obtain ⟨rs', es, resolved', hdone⟩ := provision_ok Ledger.backend_works.conforms rfl run
  obtain rfl := Except.ok.inj (resolved.symm.trans resolved')
  by_cases hcollide : Key.SomeCollide (KeyInUse c.general l.markets rs)
  · exact Or.inl hcollide
  · refine Or.inr fun r hr => ?_
    obtain ⟨m, hm⟩ := hdone.find_market hr
    exact ⟨m, hm, hdone.readsBack hnodup apart hcollide hr hm⟩

/-- The short cap of two for one pool reads back. -/
theorem short_cap_read_back : ∃ report l m,
    provision Ledger.backend {} twoCapsConfig .empty = (.ok report, l) ∧
    (l.markets.find? fun m => m.triple = twoCapsTriple) = some m ∧
    (l.getUint ((Param.maxPoolAmount .short).key m).slot).1 = .ok 2 := by
  obtain ⟨report, l, -, hrun, hmarkets, -⟩ := provisioned_twoCaps
  have hreads := (configured_reads_back resolveAll_twoCaps (by simp) hrun
    (hmarkets ▸ tokensApart_singleton _)).resolve_left (not_someCollide_twoCaps _)
  obtain ⟨m, hm, hread⟩ := hreads twoCapsResolved (by simp)
  exact ⟨report, l, m, hrun, hm, hread.amounts (.maxPoolAmount .short) 2 rfl nofun⟩

/-- The long cap of two for one pool does not: it is set to 1, and its slot reads as 2. -/
theorem long_cap_not_read_back : ∃ report l m,
    provision Ledger.backend {} twoCapsConfig .empty = (.ok report, l) ∧
    resolveAll twoCapsConfig.tokens twoCapsConfig.markets = .ok [twoCapsResolved] ∧
    ([twoCapsResolved].map (·.triple)).Nodup ∧ TokensApart l.markets ∧
    ¬ Key.SomeCollide (KeyInUse twoCapsConfig.general l.markets [twoCapsResolved]) ∧
    (l.markets.find? fun m => m.triple = twoCapsTriple) = some m ∧
    twoCaps.amounts (.maxPoolAmount .long) = some 1 ∧
    (l.getUint ((Param.maxPoolAmount .long).key m).slot).1 = .ok 2 := by
  obtain ⟨report, l, es, hrun, hmarkets, hdone⟩ := provisioned_twoCaps
  have apart : TokensApart l.markets := hmarkets ▸ tokensApart_singleton _
  have hnodup : ([twoCapsResolved].map (·.triple)).Nodup := by simp
  have hr : twoCapsResolved ∈ [twoCapsResolved] := by simp
  obtain ⟨m, hm⟩ := hdone.find_market hr
  have hread := hdone.readsBack hnodup apart (not_someCollide_twoCaps _) hr hm
  have shared : m.triple.longToken = m.triple.shortToken := by
    rw [(mem_of_find_triple hm).2]
    rfl
  exact ⟨report, l, m, hrun, resolveAll_twoCaps, hnodup, apart, not_someCollide_twoCaps _, hm, rfl,
    hread.shared_cap shared 2 rfl⟩

end MarketSync

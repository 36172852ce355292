import MarketSync.Proofs.Expansion
import MarketSync.Proofs.Recording

/-!
# Running again

A run that succeeds leaves contents which the same configuration does not change any more: all markets
are there, and settling the entries once more leads back to the slots as they are. What differs is whether
slots change on the way.

* `Provisioned.rerun` — a run after one that succeeded succeeds and leaves everything as it was.
* `reruns_quiet_iff_consistent` — reruns are without writes exactly if no slot is named with two values.
* `not_consistent_of_shared_pool` — two caps for a pool with one token name one slot with two values.
-/

namespace MarketSync

variable {σ : Type} {b : Backend σ} {view : σ → Contents} {o : RunOptions} {c : Config}

/-! ## What a run that succeeded leaves -/

namespace Provisioned

variable {general : GeneralSection} {rs : List Resolved} {es : List Entry} {before after : Contents}
  {report : Report}

theorem registerAll_after (h : Provisioned general rs es before after report) :
    registerAll after.markets rs = after.markets := by
  rw [h.markets_eq, registerAll_registerAll]

theorem unregistered_after (h : Provisioned general rs es before after report) :
    unregistered after.markets (rs.map (·.triple)) = [] := by
  refine unregistered_eq_nil_iff.2 fun t ht => ?_
  obtain ⟨r, hr, rfl⟩ := List.mem_map.1 ht
  rw [h.markets_eq]
  exact mem_triples_registerAll before.markets hr

theorem merged_after (h : Provisioned general rs es before after report) :
    mergedEntries general after.markets rs = .ok es := by
  rw [h.markets_eq]
  exact h.merged

theorem settled_after (h : Provisioned general rs es before after report) :
    (after.created rs).settleAll es = after := by
  have hcreated : after.created rs = after := by
    rw [Contents.created, h.unregistered_after]
    exact after.register_nil
  have hslots : after.slots.settleAll es = after.slots := by
    rw [h.slots_eq, Slots.settleAll_prefix _ List.prefix_rfl]
  rw [hcreated, Contents.settleAll, hslots]

theorem unblocked_after (h : Provisioned general rs es before after report) : after.Unblocked es := by
  have hsettled := (show (before.created rs).Unblocked es from h.unblocked).settled
  rwa [← h.after_eq] at hsettled

/-- After the run all entries hold exactly if they are consistent. -/
theorem holds_after_iff (h : Provisioned general rs es before after report) :
    (∀ e ∈ es, after.slots.Holds e) ↔ Slots.Consistent es := by
  rw [h.slots_eq, Slots.holds_settleAll_iff]

/-- **A run after one that succeeded succeeds and leaves everything as it was.** -/
theorem rerun (h : Provisioned c.general rs es before after report) (hb : b.Works view)
    (apply : o.mode = .apply) (positive : 0 < o.pageSize)
    (resolved : resolveAll c.tokens c.markets = .ok rs) {s : σ} (hs : view s = after)
    (count : after.markets.length < 2 ^ 63) :
    ∃ report', (provision b o c s).1 = .ok report' ∧ view (provision b o c s).2 = after ∧
      Provisioned c.general rs es after after report' := by
  subst hs
  have hcount : (registerAll (view s).markets rs).length < 2 ^ 63 := by rwa [h.registerAll_after]
  obtain ⟨es', pre, hmerged, -, hok, -⟩ := provision_works hb apply positive resolved s hcount
  rw [h.registerAll_after, h.merged_after] at hmerged
  obtain rfl := Except.ok.inj hmerged
  obtain ⟨report', hreport⟩ := hok h.unblocked_after
  have hrun : provision b o c s = (.ok report', (provision b o c s).2) := by rw [← hreport]
  obtain ⟨rs', es', resolved', hdone⟩ := provision_ok hb.conforms apply hrun
  obtain rfl : rs = rs' := Except.ok.inj (resolved.symm.trans resolved')
  have hmerged := hdone.merged
  rw [h.registerAll_after, h.merged_after] at hmerged
  obtain rfl := Except.ok.inj hmerged
  have hafter := hdone.after_eq
  rw [h.settled_after] at hafter
  rw [hafter] at hdone
  exact ⟨report', hreport, hafter, hdone⟩

end Provisioned

/-! ## A pool with one token -/

/-- **Different caps for the sides of a pool with one token are not consistent.** -/
theorem not_consistent_of_shared_pool {general : GeneralSection} {ms : List Listing} {rs : List Resolved}
    {es : List Entry} (hnodup : (rs.map (·.triple)).Nodup) (merged : mergedEntries general ms rs = .ok es)
    {r : Resolved} (hr : r ∈ rs) {m : Listing} (hm : (ms.find? fun m => m.triple = r.triple) = some m)
    (shared : r.triple.longToken = r.triple.shortToken) {n n' : Uint256}
    (long : r.definition.amounts (.maxPoolAmount .long) = some n)
    (short : r.definition.amounts (.maxPoolAmount .short) = some n') (ne : n ≠ n') :
    ¬ Slots.Consistent es := by
  have htriple := (mem_of_find_triple hm).2
  have hkey : (Param.maxPoolAmount .long).key m = (Param.maxPoolAmount .short).key m :=
    Param.key_eq_iff.2 (Or.inr ⟨by rwa [htriple], .long, .short, rfl, rfl⟩)
  have hmem {e : Entry} (he : e ∈ marketEntries r.definition m general) : e ∈ es := by
    rw [mergedEntries_of_nodup hnodup merged]
    exact List.mem_flatMap.2 ⟨r, hr, by rwa [definitionEntries, hm]⟩
  obtain ⟨e, he, hek, hev⟩ := exists_entry (.amount (g := general) (m := m) long)
  obtain ⟨e', he', hek', hev'⟩ := exists_entry (.amount (g := general) (m := m) short)
  intro hconsistent
  have hslot : e'.slot = e.slot := by
    rw [Entry.slot, Entry.slot, hev, hev', hek, hek', hkey]
    rfl
  have hvalue := hconsistent e (hmem he) e' (hmem he') hslot
  rw [hev, hev'] at hvalue
  exact ne (SlotValue.uint.inj hvalue).symm

/-- A market for swaps between a token and itself, with a cap for each side of its pool. -/
def twoCaps : Definition where
  tokens := ⟨none, "WETH", "WETH"⟩
  swapOnly := true
  marketType := none
  amounts
    | .maxPoolAmount .long => some 1
    | .maxPoolAmount .short => some 2
    | _ => none
  virtualMarketId := none

def twoCapsConfig : Config := ⟨⟨none⟩, Table.empty.insert "WETH" 0x11, [twoCaps]⟩

def twoCapsTriple : Triple := ⟨swapOnlyIndex, 0x11, 0x11⟩

def twoCapsResolved : Resolved := ⟨twoCaps, twoCapsTriple⟩

@[simp] theorem triple_twoCapsResolved : twoCapsResolved.triple = twoCapsTriple := rfl
@[simp] theorem definition_twoCapsResolved : twoCapsResolved.definition = twoCaps := rfl

theorem resolveAll_twoCaps :
    resolveAll twoCapsConfig.tokens twoCapsConfig.markets = .ok [twoCapsResolved] := rfl

theorem registerAll_twoCaps :
    registerAll [] [twoCapsResolved] = [twoCapsTriple.listing twoCaps.typeHash] := by
  have hun : unregistered [] [twoCapsTriple] = [twoCapsTriple] := by decide
  simp [registerAll, creations, hun, creationType]

theorem provisioned_twoCaps : ∃ report l es,
    provision Ledger.backend {} twoCapsConfig .empty = (.ok report, l) ∧
    l.markets = [twoCapsTriple.listing twoCaps.typeHash] ∧
    Provisioned twoCapsConfig.general [twoCapsResolved] es Ledger.empty.contents l.contents report := by
  have count : (registerAll [] [twoCapsResolved]).length < 2 ^ 63 := by
    rw [registerAll_twoCaps, List.length_singleton]
    decide
  obtain ⟨report, l, es, hrun, hdone⟩ := provision_succeeds (o := {}) Ledger.backend_works rfl (by decide)
    resolveAll_twoCaps Ledger.empty count rfl
  exact ⟨report, l, es, hrun, hdone.markets_eq.trans registerAll_twoCaps, hdone⟩

/-! ## The chain in memory -/

/-- The ledger after runs of one configuration, one for each page size. -/
def Ledger.afterRuns (c : Config) : List UInt64 → Ledger → Ledger
  | [], l => l
  | n :: ns, l => afterRuns c ns (provision backend { pageSize := n } c l).2

/-- What a run of a configuration looks like after one that left `l`. The entries of the run are `es`, it
makes the calls `calls` and leaves `after`. -/
structure Rerun (es : List Entry) (l after : Ledger) (report : Report) (calls : List CallRecord) : Prop where
  created_eq : report.marketsCreated = []
  no_creation : calls.filter (·.isCreation) = []
  markets_eq : after.markets = l.markets
  /-- The slot of every entry is read once. -/
  reads_eq : calls.filterMap (·.readSlot?) = es.map (·.slot)
  quiet_iff : calls.filterMap (·.writtenSlot?) = [] ↔ Slots.Consistent es
  converged_iff : report.converged = true ↔ Slots.Consistent es
  uints_eq : ∀ key, after.peekUint key = l.peekUint key
  words_eq : ∀ key, after.peekBytes32 key = l.peekBytes32 key

theorem Provisioned.contents_afterRuns {rs : List Resolved} {es : List Entry} {before : Contents}
    {l : Ledger} {report : Report} (h : Provisioned c.general rs es before l.contents report)
    (resolved : resolveAll c.tokens c.markets = .ok rs) (count : l.markets.length < 2 ^ 63) :
    ∀ (sizes : List UInt64) (l' : Ledger), (∀ n ∈ sizes, 0 < n) → l'.contents = l.contents →
      (Ledger.afterRuns c sizes l').contents = l.contents
  | [], _, _, hl => hl
  | n :: ns, l', positive, hl => by
    obtain ⟨report', -, hafter, -⟩ := h.rerun (o := { pageSize := n }) Ledger.backend_works rfl
      (positive n (by simp)) resolved hl count
    exact h.contents_afterRuns resolved count ns _ (fun m hm => positive m (by simp [hm])) hafter

theorem Report.converged_iff {r : Report} :
    r.converged = true ↔ r.marketsCreated = [] ∧ r.marketsPlanned = [] ∧ r.writer.writes = 0 := by
  simp [Report.converged, and_assoc]

/-- **Reruns succeed, create nothing and read the slot of every entry once; they are without writes exactly
if no slot is named with two values. No rerun makes a slot differ from what the first run left in it.** -/
theorem reruns_quiet_iff_consistent {size : UInt64} {before l : Ledger} {report : Report}
    (run : provision Ledger.backend { pageSize := size } c before = (.ok report, l))
    (count : l.markets.length < 2 ^ 63) :
    ∃ rs es, resolveAll c.tokens c.markets = .ok rs ∧ mergedEntries c.general l.markets rs = .ok es ∧
      ∀ sizes : List UInt64, (∀ n ∈ sizes, 0 < n) → ∀ n : UInt64, 0 < n →
        ∃ report' after calls,
          provision Ledger.backend { pageSize := n } c (Ledger.afterRuns c sizes l) = (.ok report', after) ∧
          provision Ledger.backend.recorded { pageSize := n } c ⟨Ledger.afterRuns c sizes l, []⟩ =
            (.ok report', ⟨after, calls⟩) ∧
          Rerun es l after report' calls := by
  obtain ⟨rs, es, resolved, hdone⟩ := provision_ok Ledger.backend_works.conforms rfl run
  refine ⟨rs, es, resolved, hdone.merged_after, fun sizes positive n hn => ?_⟩
  have hl : (Ledger.afterRuns c sizes l).contents = l.contents :=
    hdone.contents_afterRuns resolved count sizes l positive rfl
  obtain ⟨report', hok, hafter, hagain⟩ := hdone.rerun (o := { pageSize := n })
    Ledger.backend_works rfl hn resolved hl count
  have hcount : (registerAll (Ledger.afterRuns c sizes l).contents.markets rs).length < 2 ^ 63 := by
    rw [hl, hdone.registerAll_after]
    exact count
  obtain ⟨calls, reads, writes, hrecorded, hshows, hwritten⟩ := provision_calls (o := { pageSize := n })
    Ledger.backend_works rfl hn resolved ⟨Ledger.afterRuns c sizes l, []⟩ hcount
  rw [hl, hdone.registerAll_after] at hwritten
  obtain ⟨rfl, rfl⟩ := hwritten report' es hok hdone.merged_after
  rw [hl, hdone.unregistered_after] at hshows
  have hquiet : l.contents.slots.changed es = [] ↔ Slots.Consistent es := by
    rw [Slots.changed_eq_nil_iff, hdone.holds_after_iff]
  have hslots := (Ledger.slots_inj_iff _ _).1 (congrArg Contents.slots hafter)
  refine ⟨report', _, calls, by rw [← hok], by rw [hrecorded, ← hok]; rfl, ?_⟩
  refine
    { created_eq := hagain.created_eq.trans hdone.unregistered_after
      no_creation := hshows.creations_eq
      markets_eq := congrArg Contents.markets hafter
      reads_eq := hshows.reads_eq
      quiet_iff := ?_
      converged_iff := ?_
      uints_eq := hslots.1
      words_eq := hslots.2 }
  · rw [hshows.writes_eq, List.map_eq_nil_iff, hquiet]
  · rw [Report.converged_iff, hagain.created_eq, hagain.planned_eq, hagain.writes_eq, hdone.unregistered_after,
      List.length_eq_zero_iff, hquiet]
    exact ⟨fun h => h.2.2, fun h => ⟨rfl, rfl, h⟩⟩

/-- Two caps for one pool never come to rest: every rerun writes. -/
theorem reruns_of_twoCaps_write : ∃ report l,
    provision Ledger.backend {} twoCapsConfig .empty = (.ok report, l) ∧
    ∀ sizes : List UInt64, (∀ n ∈ sizes, 0 < n) → ∀ n : UInt64, 0 < n → ∃ report' after calls,
      provision Ledger.backend.recorded { pageSize := n } twoCapsConfig
        ⟨Ledger.afterRuns twoCapsConfig sizes l, []⟩ = (.ok report', ⟨after, calls⟩) ∧
      calls.filterMap (·.writtenSlot?) ≠ [] ∧ report'.converged = false := by
  obtain ⟨report, l, -, hrun, hmarkets, -⟩ := provisioned_twoCaps
  have count : l.markets.length < 2 ^ 63 := by
    rw [hmarkets, List.length_singleton]
    decide
  obtain ⟨rs, es, resolved, merged, hreruns⟩ := reruns_quiet_iff_consistent hrun count
  obtain rfl := Except.ok.inj (resolveAll_twoCaps.symm.trans resolved)
  have long : twoCaps.amounts (.maxPoolAmount .long) = some 1 := rfl
  have short : twoCaps.amounts (.maxPoolAmount .short) = some 2 := rfl
  have hfind : (l.markets.find? fun m => m.triple = twoCapsResolved.triple) =
      some (twoCapsTriple.listing twoCaps.typeHash) := by
    rw [hmarkets]
    simp [Triple.listing]
  have hnot : ¬ Slots.Consistent es :=
    not_consistent_of_shared_pool (by simp) merged (by simp) hfind rfl long short (by decide)
  refine ⟨report, l, hrun, fun sizes positive n hn => ?_⟩
  obtain ⟨report', after, calls, -, hrecorded, hrerun⟩ := hreruns sizes positive n hn
  exact ⟨report', after, calls, hrecorded, fun h => hnot (hrerun.quiet_iff.1 h),
    Bool.eq_false_iff.2 fun h => hnot (hrerun.converged_iff.1 h)⟩

end MarketSync

import MarketSync.Proofs.LastDefinition

/-!
# Dry runs

A dry run goes on with the markets it finds, passes over those that are missing and notes what it would write. Where no
slot has two entries, an entry takes a write exactly if its slot reads differently before the run. So what a dry run
notes is what a run that is not dry writes, as far as the markets are there before it.

* `Writer.writeAll_dry` — a dry run notes the entries whose slots read differently and changes nothing.
* `groupsOf_registerAll` — creating what is missing does not touch the groups of the markets that are there.
* `dry_run_predicts` — what a dry run reports, compared to the run that is not dry.
-/

namespace MarketSync

variable {σ : Type} {b : Backend σ} {view : σ → Contents}

/-! ## What a dry run notes -/

namespace Writer

variable {store : Store σ}

/-- In a dry run an entry is read, and noted if its slot reads differently. -/
theorem write_dry (hs : store.Works view) {w : Writer} (dry : w.mode = .dryRun) (e : Entry) (s : σ) :
    ∃ changed w' s', write store w e s = (.ok changed, w', s') ∧ view s' = view s ∧ w'.mode = .dryRun ∧
      w'.pending = w.pending ++ if (view s).slots.Holds e then [] else [e] := by
  have hv := hs.view_present e s
  obtain ⟨present, hok⟩ := hs.present_succeeds e s
  have hpresent := hs.present_ok hok
  obtain ⟨s', hread⟩ : ∃ s', store.present e s = (.ok present, s') := ⟨_, by rw [← hok]⟩
  rw [hread] at hv
  have hmode : w.countRead.mode = .dryRun := dry
  simp only [write, hread, hmode]
  by_cases hp : present = e.value
  · have hholds : (view s).slots.Holds e := hpresent.symm.trans hp
    rw [if_pos hp, if_pos hholds, List.append_nil]
    exact ⟨_, _, _, rfl, hv, dry, rfl⟩
  · have hnot : ¬ (view s).slots.Holds e := fun h => hp (hpresent.trans h)
    rw [if_neg hp, if_neg hnot]
    exact ⟨_, _, _, rfl, hv, dry, rfl⟩

/-- **A dry run notes the entries whose slots read differently and changes nothing.** -/
theorem writeAll_dry (hs : store.Works view) (es : List Entry) {w : Writer} (dry : w.mode = .dryRun) (s : σ) :
    ∃ w' s', writeAll store w es s = (.ok (), w', s') ∧ view s' = view s ∧
      w'.pending = w.pending ++ es.filter fun e => ¬ (view s).slots.Holds e := by
  induction es generalizing w s with
  | nil => exact ⟨w, s, rfl, rfl, by simp⟩
  | cons e es ih =>
    obtain ⟨changed, w₁, s₁, hwrite, hv, hmode, hpending⟩ := write_dry hs dry e s
    obtain ⟨w₂, s₂, hrest, hv₂, hpending₂⟩ := ih hmode s₁
    refine ⟨w₂, s₂, ?_, hv₂.trans hv, ?_⟩
    · rw [writeAll, hwrite]
      exact hrest
    · rw [hpending₂, hpending, hv, List.append_assoc, List.filter_cons]
      by_cases hholds : (view s).slots.Holds e <;> simp [hholds]

end Writer

/-! ## The groups of a dry run -/

theorem groupOf_append {g : GeneralSection} {ms news : List Listing} {rs : List Resolved} {t : Triple}
    (ht : t ∈ ms.map (·.triple)) : groupOf g (ms ++ news) rs t = groupOf g ms rs t := by
  obtain ⟨m, hm⟩ := exists_find_triple ht
  have hentries : ∀ r ∈ rs.filter fun r => r.triple = t,
      definitionEntries g (ms ++ news) r = definitionEntries g ms r := by
    intro r hr
    have hrt : r.triple = t := of_decide_eq_true (List.mem_filter.1 hr).2
    rw [definitionEntries, definitionEntries, hrt, List.find?_append, hm, Option.some_or]
  rw [groupOf, groupOf, List.map_congr_left hentries]

/-- **Creating what is missing does not touch the groups of the markets that are there.** -/
theorem groupsOf_registerAll (g : GeneralSection) (ms : List Listing) (rs : List Resolved) :
    groupsOf g ms rs =
      (groupsOf g (registerAll ms rs) rs).filter fun group => group.triple ∈ ms.map (·.triple) := by
  have hregistered : registered ms (rs.map (·.triple)) =
      (registered (registerAll ms rs) (rs.map (·.triple))).filter fun t => t ∈ ms.map (·.triple) := by
    rw [registered, registered, List.filter_filter]
    refine List.filter_congr fun t _ => ?_
    by_cases ht : t ∈ ms.map (·.triple)
    · simp only [registerAll, List.map_append, List.mem_append, ht, true_or, decide_true, Bool.and_self]
    · simp only [ht, decide_false, Bool.false_and]
  rw [groupsOf, groupsOf, hregistered, List.filter_map]
  refine List.map_congr_left fun t ht => ?_
  exact (groupOf_append (of_decide_eq_true (List.mem_filter.1 ht).2)).symm

/-! ## Dry runs compared -/

variable {o : RunOptions} {general : GeneralSection} {rs : List Resolved} {report : Report} {s s' : σ}

/-- A run that succeeds has a snapshot, and reports how many markets were in it. -/
theorem provisionResolved_ok_found (h : provisionResolved b o general rs s = (.ok report, s')) :
    ∃ found s₁, takeSnapshot b.registry o.pageSize s = (.ok found, s₁) ∧ report.marketsExisting =
      countTriples (rs.map (·.triple)) - (found.missing (rs.map (·.triple))).length := by
  have houtcome := provisionResolved_outcome b o general rs s
  rw [h] at houtcome
  cases houtcome with
  | written enumerated created collected written =>
    refine ⟨_, _, enumerated, ?_⟩
    obtain ⟨w, res, -, ⟨e, -, herr⟩ | ⟨-, hreport⟩⟩ := writeGroups_cases written
    · cases herr
    · rw [Except.ok.inj hreport, Report.started]

/-- What a dry run is, once it has a snapshot. -/
theorem provisionResolved_dry (hb : b.Works view) (dry : o.mode = .dryRun) (general : GeneralSection)
    (rs : List Resolved) {s s₁ : σ} {found : Snapshot}
    (enumerated : takeSnapshot b.registry o.pageSize s = (.ok found, s₁)) :
    ∃ report s', provisionResolved b o general rs s = (.ok report, s') ∧ view s' = view s ∧
      report.marketsPlanned = unregistered (view s).markets (rs.map (·.triple)) ∧
      report.marketsExisting = countTriples (rs.map (·.triple)) -
        (unregistered (view s).markets (rs.map (·.triple))).length ∧
      report.pendingWrites = ((groupsOf general (view s).markets rs).flatMap (·.entries)).filter fun e =>
        ¬ (view s).slots.Holds e := by
  obtain ⟨rfl, hv⟩ := takeSnapshot_ok hb.conforms.registry enumerated
  have collected := collectGroups_planned general (view s).markets rs
  obtain ⟨w, s₂, hwrite, hv₂, hpending⟩ := Writer.writeAll_dry hb.store
    ((groupsOf general (view s).markets rs).flatMap (·.entries)) (w := { mode := o.mode }) dry s₁
  simp only [provisionResolved, enumerated, createMissing, dry, missing_ofListings, Report.started, if_true, collected,
    writeGroups]
  rw [dry] at hwrite
  simp only [hwrite]
  refine ⟨_, s₂, rfl, hv₂.trans hv, rfl, rfl, ?_⟩
  rw [hpending, hv]
  rfl

/-- **Where a run succeeds a dry run in its place succeeds, too. It changes nothing, plans just the markets that the run
creates and reports as many as existing. Where no slot has two entries it notes, in order, the entries that the run
writes for the markets that were there before.** -/
theorem dry_run_predicts {c : Config} {size : UInt64} {before after : Ledger}
    (run : provision Ledger.backend { pageSize := size } c before = (.ok report, after)) :
    ∃ rs groups calls report' after',
      resolveAll c.tokens c.markets = .ok rs ∧
      collectGroups c.general (.ofListings after.markets) [] rs [] = .ok groups ∧
      provision Ledger.backend.recorded { pageSize := size } c ⟨before, []⟩ = (.ok report, ⟨after, calls⟩) ∧
      provision Ledger.backend { pageSize := size, mode := .dryRun } c before = (.ok report', after') ∧
      after'.markets = before.markets ∧ (∀ key, after'.peekUint key = before.peekUint key) ∧
      (∀ key, after'.peekBytes32 key = before.peekBytes32 key) ∧
      report'.marketsPlanned = report.marketsCreated ∧ report'.marketsExisting = report.marketsExisting ∧
      (((groups.flatMap (·.entries)).map (·.slot)).Nodup → report'.pendingWrites =
        ((groups.filter fun group => group.triple ∈ before.markets.map (·.triple)).flatMap (·.entries)).filter fun e =>
          e.slot ∈ calls.filterMap (·.writtenSlot?)) := by
  obtain ⟨rs, es, calls, creations, resolved, hdone, hrecorded, hshows⟩ :=
    provision_ok_calls Ledger.backend_works rfl run
  obtain ⟨hcollected, rfl⟩ := groupsOf_of_mergedEntries hdone.merged_after
  refine ⟨rs, groupsOf c.general after.markets rs, calls, ?_⟩
  by_cases hnil : c.markets = []
  · obtain rfl := resolveAll_of_nil hnil resolved
    rw [provision_of_nil _ _ hnil] at run
    cases run
    exact ⟨.skip, before, resolved, hcollected, hrecorded, provision_of_nil _ _ hnil _, rfl, fun _ => rfl,
      fun _ => rfl, rfl, rfl, fun _ => rfl⟩
  rw [provision_of_resolved _ _ hnil resolved] at run
  obtain ⟨found, l, enumerated, hexisting⟩ := provisionResolved_ok_found run
  obtain ⟨rfl, -⟩ := takeSnapshot_ok Ledger.backend_works.conforms.registry enumerated
  obtain ⟨report', after', hdry, hcontents, hplanned, hexisting', hpending⟩ :=
    provisionResolved_dry (o := { pageSize := size, mode := .dryRun }) Ledger.backend_works rfl c.general rs enumerated
  obtain ⟨huints, hwords⟩ := (Ledger.slots_inj_iff after' before).1 (congrArg Contents.slots hcontents)
  rw [missing_ofListings] at hexisting
  refine ⟨report', after', resolved, hcollected, hrecorded, ?_, congrArg Contents.markets hcontents, huints, hwords,
    ?_, ?_, fun hnodup => ?_⟩
  · rw [provision_of_resolved _ _ hnil resolved, hdry]
  · rw [hplanned, hdone.created_eq]
  · rw [hexisting', hexisting]
  · rw [hpending, groupsOf_registerAll, ← hdone.markets_eq, hshows.writes_eq]
    refine List.filter_congr fun e he => ?_
    obtain ⟨group, hgroup, hentry⟩ := List.mem_flatMap.1 he
    have hmem : e ∈ (groupsOf c.general after.markets rs).flatMap (·.entries) :=
      List.mem_flatMap.2 ⟨group, (List.mem_filter.1 hgroup).1, hentry⟩
    exact decide_eq_decide.2 (Slots.slot_mem_changed_iff _ hnodup hmem).symm

/-! ## One market of two -/

def withVirtualId : Definition := { bareDefinition "WETH" "USDC" none with virtualMarketId := some 5 }

def withCollateral : Definition :=
  { bareDefinition "USDC" "USDC" none with
    amounts := fun
      | .minCollateralFactor => some 7
      | _ => none }

def twoMarketsConfig : Config where
  general := ⟨none⟩
  tokens := (Table.empty.insert "WETH" 0x11).insert "USDC" 0x22
  markets := [withVirtualId, withCollateral]

def twoMarketsResolved : List Resolved := [⟨withVirtualId, wethUsdc⟩, ⟨withCollateral, usdcUsdc⟩]

/-- The entry for the market that is there. -/
def collateralEntry : Entry :=
  ⟨(Param.minCollateralFactor.key ⟨0x99, usdcUsdc⟩).slot, .uint 7, Param.minCollateralFactor.label ⟨0x99, usdcUsdc⟩⟩

/-- The entry for the market that is missing. -/
def virtualIdEntryOfNew : Entry :=
  let m := wethUsdc.listing withVirtualId.typeHash
  ⟨(Key.virtualMarketId m.marketToken).slot, .bytes32 5, "virtual market id for market " ++ m.marketToken.text⟩

/-- The market that is missing is planned, and only the entry for the other one is noted. -/
theorem dry_run_of_twoMarkets : ∃ report after report' after',
    provision Ledger.backend {} twoMarketsConfig oneMarket = (.ok report, after) ∧
    provision Ledger.backend { mode := .dryRun } twoMarketsConfig oneMarket = (.ok report', after') ∧
    after'.markets = oneMarket.markets ∧ report'.marketsPlanned = [wethUsdc] ∧
    report'.pendingWrites = [collateralEntry] := by
  have hun : unregistered oneMarket.markets (twoMarketsResolved.map (·.triple)) = [wethUsdc] := by decide
  have hregister : registerAll oneMarket.markets twoMarketsResolved =
      [⟨0x99, usdcUsdc⟩, wethUsdc.listing withVirtualId.typeHash] := by
    rw [registerAll, hun]
    rfl
  have resolved : resolveAll twoMarketsConfig.tokens twoMarketsConfig.markets = .ok twoMarketsResolved := rfl
  have count : (registerAll oneMarket.markets twoMarketsResolved).length < 2 ^ 63 := by
    rw [hregister]
    decide
  obtain ⟨report, after, -, run, -⟩ := provision_succeeds (o := {}) Ledger.backend_works rfl (by decide)
    resolved oneMarket count rfl
  have hgroups : collectGroups twoMarketsConfig.general
      (.ofListings [⟨0x99, usdcUsdc⟩, wethUsdc.listing withVirtualId.typeHash]) [] twoMarketsResolved [] =
      .ok [⟨wethUsdc, [virtualIdEntryOfNew]⟩, ⟨usdcUsdc, [collateralEntry]⟩] := rfl
  -- the run writes both entries
  obtain ⟨rs, es, calls, creations, resolved', hdone, hrecorded, hshows⟩ :=
    provision_ok_calls Ledger.backend_works rfl run
  obtain rfl := Except.ok.inj (resolved.symm.trans resolved')
  have hmerged := hdone.merged
  have hmarkets : after.markets = _ := hdone.markets_eq.trans hregister
  rw [mergedEntries, show registerAll oneMarket.contents.markets twoMarketsResolved = _ from hregister,
    hgroups] at hmerged
  obtain rfl : [virtualIdEntryOfNew, collateralEntry] = es := Except.ok.inj hmerged
  have hnodup : ([virtualIdEntryOfNew, collateralEntry].map (·.slot)).Nodup := by
    simp [virtualIdEntryOfNew, collateralEntry, Entry.slot, SlotValue.slot]
  have hwritten : collateralEntry.slot ∈ calls.filterMap (·.writtenSlot?) := by
    rw [hshows.writes_eq, Slots.slot_mem_changed_iff _ hnodup (by simp)]
    intro (h : SlotValue.uint 0 = .uint 7)
    cases h
  -- the dry run notes the one for the market that is there
  obtain ⟨rs', groups, calls', report', after', resolved'', collected, hrecorded', hdry, hsame, -, -, hplanned, -,
    hpending⟩ := dry_run_predicts run
  obtain rfl := Except.ok.inj (resolved.symm.trans resolved'')
  obtain rfl : calls = calls' := congrArg (fun out => out.2.calls) (hrecorded.symm.trans hrecorded')
  rw [hmarkets, hgroups] at collected
  obtain rfl := Except.ok.inj collected
  refine ⟨report, after, report', after', run, hdry, hsame, hplanned.trans (hdone.created_eq.trans hun), ?_⟩
  have hexisting : [⟨wethUsdc, [virtualIdEntryOfNew]⟩, ⟨usdcUsdc, [collateralEntry]⟩].filter
      (fun group : MarketGroup => group.triple ∈ oneMarket.markets.map (·.triple)) =
      [⟨usdcUsdc, [collateralEntry]⟩] := rfl
  rw [hpending hnodup, hexisting]
  exact List.filter_cons_of_pos (decide_eq_true hwritten)

end MarketSync

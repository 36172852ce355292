import MarketSync.Proofs.Confinement

/-!
# Markets that are not found

Before any field is looked at, every configured triple is looked up among the markets of the last enumeration. That is
the second one if there were creations; it need not list what the first one did, nor what was created. The first triple
that is not listed ends the run, unless the run is dry: then what is not listed is planned, and passed over.

* `Prelude.lastListed_append` — the markets of the last enumeration are those with which a run goes on.
* `RunCalls.unresolved_iff` — where registry and factory answer, the look-ups fail at the first triple not listed there.
* `groupsOf_filter` — passing over definitions without a market leaves the groups as they are.
* `dry_report` — the fields of a dry run are those of the definitions that are not planned.
* `unresolved_ends_run` — how a run ends if a market is not listed, and what it has called by then.
-/

namespace MarketSync

variable {σ : Type} {b : Backend σ}

/-! ## The last enumeration -/

/-- The markets listed after a call: a page goes on with the list, and with a creation the list is out of date. -/
def CallRecord.relist (listed : List Listing) : CallRecord → List Listing
  | .getMarkets _ _ (some page) => listed ++ page
  | .createMarket _ _ _ => []
  | _ => listed

/-- The markets of the last enumeration among calls: those of the pages after all creations. -/
def lastListed (calls : List CallRecord) : List Listing :=
  calls.foldl CallRecord.relist []

theorem Pages.foldl_relist {size start : UInt64} {calls : List CallRecord} {ms : List Listing}
    (h : Pages size start calls ms) (listed : List Listing) : calls.foldl CallRecord.relist listed = listed ++ ms := by
  induction h generalizing listed with
  | last => rfl
  | @next start page calls rest _ _ ih =>
    rw [List.foldl_cons, ih, ← List.append_assoc]
    rfl

theorem foldl_relist_creationCalls {mode : WriteMode} {rs : List Resolved} {found : List Listing}
    (some : creationCalls mode rs found ≠ []) (listed : List Listing) :
    (creationCalls mode rs found).foldl CallRecord.relist listed = [] := by
  have hcreations : ∀ (ts : List Triple) (listed : List Listing), (ts = [] → listed = []) →
      (ts.map fun t => CallRecord.createMarket t (creationType rs t) (Option.some ())).foldl CallRecord.relist listed =
        [] := by
    intro ts
    induction ts with
    | nil => exact fun listed h => h rfl
    | cons t ts ih => exact fun listed _ => ih [] fun _ => rfl
  unfold creationCalls at some ⊢
  split
  · rename_i apply
    rw [if_pos apply] at some
    exact hcreations _ listed fun hnil => absurd (by rw [hnil]; rfl) some
  · rename_i dry
    exact absurd (if_neg dry) some

theorem foldl_relist_storeCalls {calls : List CallRecord} (store : ∀ call ∈ calls, call.isStoreCall = true)
    (listed : List Listing) : calls.foldl CallRecord.relist listed = listed := by
  induction calls with
  | nil => rfl
  | cons call calls ih =>
    obtain ⟨hcall, hcalls⟩ := List.forall_mem_cons.1 store
    have hsame : CallRecord.relist listed call = listed := by
      cases call with
      | getUint | getBytes32 | setUint | setBytes32 => rfl
      | getMarkets | createMarket => cases hcall
    rw [List.foldl_cons, hsame, ih hcalls]

namespace Prelude

variable {o : RunOptions} {rs : List Resolved} {first rest calls : List CallRecord} {found ms : List Listing}
  {s s' : σ} {ending : Except ProvisionError Unit}

/-- **The markets of the last enumeration are those with which a run goes on.** -/
theorem lastListed_append (h : Prelude o rs first found ms) (store : ∀ call ∈ rest, call.isStoreCall = true) :
    lastListed (first ++ rest) = ms := by
  rw [lastListed, List.foldl_append, foldl_relist_storeCalls store]
  cases h with
  | quiet enumerated => exact enumerated.foldl_relist []
  | creating _ some enumeratedAgain =>
    rw [List.foldl_append, List.foldl_append, foldl_relist_creationCalls some]
    exact enumeratedAgain.foldl_relist []

theorem lastListed_eq (h : Prelude o rs first found ms) : lastListed first = ms := by
  have hnone : ∀ call ∈ ([] : List CallRecord), call.isStoreCall = true := by simp
  simpa using h.lastListed_append hnone

theorem eq_found (h : Prelude o rs first found ms) (dry : o.mode = .dryRun) : ms = found := by
  cases h with
  | quiet => rfl
  | creating _ some => exact absurd (by simp [creationCalls, dry]) some

/-- Where every call before the entries is answered and positions do not run out, all of them are made. -/
theorem ending_eq_ok (h : Prelude o rs first found ms) (follows : Follows b first s calls ending s')
    (answered : ∀ call ∈ calls, call.isStoreCall = false → call ≠ call.failed)
    (within : ending ≠ .error (.enumeration .positionOverflow)) : ending = .ok () := by
  cases ending with
  | ok u => rfl
  | error e =>
    rcases follows.error_cases with rfl | ⟨call, hcall, hmade, -⟩
    · exact absurd rfl within
    · have hother : call.failed.isStoreCall = false := by
        rw [CallRecord.isStoreCall_failed]
        exact h.not_storeCall call hcall
      exact absurd (CallRecord.failed_failed call).symm (answered _ hmade hother)

end Prelude

/-! ## Look-ups that fail -/

/-- A run ends with a market that is not resolved exactly if all calls of its sequence are made and the look-ups end
like that. -/
theorem notResolved_iff {full calls : List CallRecord} {s s' : σ} {ending : Except ProvisionError Unit}
    {lookups : Except ProvisionError (List MarketGroup)} {result : Except ProvisionError Report} {t : Triple}
    (follows : Follows b full s calls ending s')
    (concluded : (result.map fun _ => ()) = ending.bind fun _ => lookups.map fun _ => ()) :
    result = .error (.marketNotResolved t) ↔ ending = .ok () ∧ lookups = .error (.marketNotResolved t) := by
  cases ending with
  | ok u =>
    cases result <;> cases lookups <;> cases concluded <;> simp
  | error e =>
    -- no call fails like that
    have hother : e ≠ .marketNotResolved t := by
      rcases follows.error_cases with rfl | ⟨call, -, -, err, rfl⟩
      · simp
      · cases call <;> simp [CallRecord.stopsWith]
    cases result with
    | ok report => cases concluded
    | error e' =>
      cases concluded
      simpa using hother

namespace RunCalls

variable {o : RunOptions} {general : GeneralSection} {rs : List Resolved} {full calls : List CallRecord}
  {lookups : Except ProvisionError (List MarketGroup)} {s s' : σ} {ending : Except ProvisionError Unit}

/-- **Where registry and factory answer every call, the look-ups fail exactly at the first triple that the last
enumeration does not list.** -/
theorem unresolved_iff (h : RunCalls o general rs full lookups) (apply : o.mode = .apply)
    (follows : Follows b full s calls ending s')
    (answered : ∀ call ∈ calls, call.isStoreCall = false → call ≠ call.failed)
    (within : ending ≠ .error (.enumeration .positionOverflow)) {t : Triple} :
    (ending = .ok () ∧ lookups = .error (.marketNotResolved t)) ↔
      ∃ r, firstUnresolved (lastListed calls) [] rs = some r ∧ r.triple = t := by
  have hplanned (found : List Listing) : plannedTriples o.mode rs found = [] := planned_eq_nil apply _
  cases h with
  | @notFound first found ms e before collected =>
    rw [hplanned, collectGroups_eq] at collected
    obtain rfl := before.ending_eq_ok follows answered within
    rw [follows.eq_of_ok, before.lastListed_eq]
    cases hfirst : firstUnresolved ms [] rs with
    | none =>
      rw [hfirst] at collected
      cases collected
    | some r =>
      rw [hfirst] at collected
      cases collected
      simp
  | @found first found ms groups rest before collected entries =>
    rw [hplanned, collectGroups_eq] at collected
    have hlisted : lastListed calls = ms := by
      rcases follows.split with ⟨s₁, tail, rfl, htail⟩ | hfirst
      · exact before.lastListed_append (htail.forall_eq CallRecord.isStoreCall_failed entries.storeCall)
      · obtain rfl := before.ending_eq_ok hfirst answered within
        rw [hfirst.eq_of_ok, before.lastListed_eq]
    rw [hlisted]
    cases hfirst : firstUnresolved ms [] rs with
    | none => simp
    | some r =>
      rw [hfirst] at collected
      cases collected

theorem no_storeCall_of_error {e : ProvisionError} (h : RunCalls o general rs full (.error e))
    (follows : Follows b full s calls ending s') : ∀ call ∈ calls, call.isStoreCall = false := by
  cases h with
  | notFound before => exact follows.forall_eq CallRecord.isStoreCall_failed before.not_storeCall

end RunCalls

/-! ## Definitions that are passed over -/

/-- Passing over definitions without a market leaves the groups as they are. -/
theorem groupsOf_filter (g : GeneralSection) (ms : List Listing) (rs : List Resolved) :
    groupsOf g ms (rs.filter fun r => r.triple ∈ ms.map (·.triple)) = groupsOf g ms rs := by
  have htriples : registered ms ((rs.filter fun r => r.triple ∈ ms.map (·.triple)).map (·.triple)) =
      registered ms (rs.map (·.triple)) := by
    have hmap : (rs.filter fun r => r.triple ∈ ms.map (·.triple)).map (·.triple) =
        (rs.map (·.triple)).filter fun t => t ∈ ms.map (·.triple) := by
      rw [List.filter_map]
      rfl
    rw [registered, registered, hmap, eraseDups_filter, List.filter_filter]
    simp only [Bool.and_self]
  rw [groupsOf, groupsOf, htriples]
  refine List.map_congr_left fun t ht => ?_
  have hdefinitions : (rs.filter fun r => r.triple ∈ ms.map (·.triple)).filter (fun r => r.triple = t) =
      rs.filter fun r => r.triple = t := by
    rw [List.filter_filter]
    refine List.filter_congr fun r _ => ?_
    by_cases hr : r.triple = t
    · simp only [hr, (mem_registered.1 ht).2, decide_true, Bool.and_self]
    · simp only [hr, decide_false, Bool.false_and]
  rw [groupOf, groupOf, hdefinitions]

/-- The entries of the definitions that are not planned are those of the groups. -/
theorem mergedEntries_unplanned (general : GeneralSection) (ms : List Listing) (rs : List Resolved) :
    mergedEntries general ms (rs.filter fun r => r.triple ∉ unregistered ms (rs.map (·.triple))) =
      .ok ((groupsOf general ms rs).flatMap (·.entries)) := by
  have hlisted : (rs.filter fun r => r.triple ∉ unregistered ms (rs.map (·.triple))) =
      rs.filter fun r => r.triple ∈ ms.map (·.triple) := by
    refine List.filter_congr fun r hr => decide_eq_decide.2 ?_
    rw [mem_unregistered, not_and, Decidable.not_not]
    exact ⟨fun h => h (List.mem_map_of_mem hr), fun h _ => h⟩
  rw [hlisted, mergedEntries, collectGroups_succeeds general fun r hr =>
    Or.inl (of_decide_eq_true (List.mem_filter.1 hr).2), groupsOf_filter]
  rfl

/-! ## The fields of a dry run -/

namespace CallRecord

@[simp] theorem readSlot?_failed (call : CallRecord) : call.failed.readSlot? = call.readSlot? := by
  cases call <;> rfl

theorem readSlot?_of_not_storeCall {call : CallRecord} (h : call.isStoreCall = false) : call.readSlot? = none := by
  cases call <;> first | rfl | cases h

end CallRecord

theorem filterMap_readSlot?_of_not_storeCall {calls : List CallRecord}
    (h : ∀ call ∈ calls, call.isStoreCall = false) : calls.filterMap (·.readSlot?) = [] :=
  List.filterMap_eq_nil_iff.2 fun call hc => CallRecord.readSlot?_of_not_storeCall (h call hc)

theorem EntryCalls.reads_eq {mode : WriteMode} {es : List Entry} {calls : List CallRecord}
    (h : EntryCalls mode es calls) : calls.filterMap (·.readSlot?) = es.map (·.slot) := by
  induction h with
  | nil => rfl
  | @cons e es calls present kind _ ih =>
    have hone : (e.callsFor mode present).filterMap (·.readSlot?) = [e.slot] := by
      have hread : (present.readCall e.key).readSlot? = some e.slot := by
        rw [← kind]
        cases present <;> rfl
      have hwrite : (e.value.writeCall e.key).readSlot? = none := by cases e.value <;> rfl
      rw [Entry.callsFor]
      split <;> simp [hread, hwrite]
    rw [List.filterMap_append, hone, ih]
    rfl

section DryRun

variable {o : RunOptions} {general : GeneralSection} {rs : List Resolved} {full calls : List CallRecord}
  {lookups : Except ProvisionError (List MarketGroup)} {s s' : σ} {ending : Except ProvisionError Unit}

theorem collectGroups_dry (dry : o.mode = .dryRun) (general : GeneralSection) (rs : List Resolved)
    (ms : List Listing) : collectGroups general (.ofListings ms) (plannedTriples o.mode rs ms) rs [] =
      .ok (groupsOf general ms rs) := by
  rw [plannedTriples, if_pos dry, collectGroups_planned]

theorem RunCalls.lookups_of_dry (h : RunCalls o general rs full lookups) (dry : o.mode = .dryRun) :
    ∃ groups, lookups = .ok groups := by
  cases h with
  | notFound before collected =>
    rw [before.eq_found dry, collectGroups_dry dry] at collected
    cases collected
  | found => exact ⟨_, rfl⟩

/-- What a dry run has read are the slots of a first part of the entries, also where it fails. -/
theorem RunCalls.reads_of_dry (h : RunCalls o general rs full lookups) (dry : o.mode = .dryRun)
    (follows : Follows b full s calls ending s') : calls.filterMap (·.readSlot?) <+:
      ((groupsOf general (lastListed calls) rs).flatMap (·.entries)).map (·.slot) := by
  have hnone {first : List CallRecord} {found ms : List Listing} (before : Prelude o rs first found ms)
      (hfirst : Follows b first s calls ending s') : calls.filterMap (·.readSlot?) = [] :=
    filterMap_readSlot?_of_not_storeCall
      (hfirst.forall_eq CallRecord.isStoreCall_failed before.not_storeCall)
  cases h with
  | notFound before =>
    rw [hnone before follows]
    exact List.nil_prefix
  | @found first found ms groups rest before collected entries =>
    rcases follows.split with ⟨s₁, tail, rfl, htail⟩ | hfirst
    · obtain rfl := before.eq_found dry
      rw [collectGroups_dry dry] at collected
      obtain rfl := Except.ok.inj collected
      have hstore := htail.forall_eq CallRecord.isStoreCall_failed entries.storeCall
      rw [before.lastListed_append hstore, List.filterMap_append,
        filterMap_readSlot?_of_not_storeCall before.not_storeCall, List.nil_append, ← entries.reads_eq]
      exact htail.filterMap_prefix CallRecord.readSlot?_failed
    · rw [hnone before hfirst]
      exact List.nil_prefix

/-- **A dry run that succeeds has planned what is not listed, and read and noted no fields but those of the other
definitions.** -/
theorem dry_report (positive : 0 < o.pageSize) (dry : o.mode = .dryRun) {r r' : Recorded σ} {report : Report}
    (h : provisionResolved b.recorded o general rs r = (.ok report, r')) :
    ∃ new, r'.calls = r.calls ++ new ∧
      report.marketsPlanned = unregistered (lastListed new) (rs.map (·.triple)) ∧
      new.filterMap (·.readSlot?) = ((groupsOf general (lastListed new) rs).flatMap (·.entries)).map (·.slot) ∧
      report.pendingWrites.Sublist ((groupsOf general (lastListed new) rs).flatMap (·.entries)) := by
  have houtcome := provisionResolved_outcome b.recorded o general rs r
  rw [h] at houtcome
  cases houtcome with
  | written enumerated created collected written =>
    obtain ⟨listed, first, ms, rest, ending, rfl, before, hcollected, entries, ⟨new, hnew, hfollows⟩, rfl⟩ :=
      written_follows positive enumerated created collected written
    obtain rfl := before.eq_found dry
    rw [collectGroups_dry dry] at hcollected
    obtain rfl := Except.ok.inj hcollected
    obtain rfl := hfollows.eq_of_ok
    obtain ⟨w, res, hw, ⟨e, -, herr⟩ | ⟨-, hreport⟩⟩ := writeGroups_cases written
    · cases herr
    have hlisted := before.lastListed_append entries.storeCall
    obtain rfl := Except.ok.inj hreport
    obtain ⟨noted, hnoted, hsub⟩ := Writer.writeAll_pending _ hw
    refine ⟨_, hnew, ?_, ?_, ?_⟩
    · rw [hlisted, ← missing_ofListings]
      exact if_pos dry
    · rw [hlisted, List.filterMap_append, filterMap_readSlot?_of_not_storeCall before.not_storeCall, entries.reads_eq]
      rfl
    · rw [hlisted]
      exact hnoted ▸ hsub

end DryRun

/-! ## How runs end -/

/-- The triples without a listing are planned, and of all fields just those of the other definitions are read, in the
order of their merged entries `es`, and noted if at all; a run that fails has read a first part of them. -/
structure PlannedSkipped (general : GeneralSection) (rs : List Resolved) (ms : List Listing) (es : List Entry)
    (calls : List CallRecord) (result : Except ProvisionError Report) : Prop where
  merged : mergedEntries general ms (rs.filter fun r => r.triple ∉ unregistered ms (rs.map (·.triple))) = .ok es
  read : calls.filterMap (·.readSlot?) <+: es.map (·.slot)
  reported : ∀ report, result = .ok report → report.marketsPlanned = unregistered ms (rs.map (·.triple)) ∧
    calls.filterMap (·.readSlot?) = es.map (·.slot) ∧ report.pendingWrites.Sublist es

theorem find?_triples (ms : List Listing) (rs : List Resolved) (t : Triple) :
    (rs.map (·.triple)).find? (fun t => t ∉ ms.map (·.triple)) = some t ↔
      ∃ r, firstUnresolved ms [] rs = some r ∧ r.triple = t := by
  have hfirst : firstUnresolved ms [] rs = rs.find? fun r => r.triple ∉ ms.map (·.triple) := by
    simp [firstUnresolved]
  rw [hfirst, List.find?_map, Option.map_eq_some_iff]
  rfl

/-- **Where every definition resolves, a run that is not dry ends with a market that is not resolved exactly if a
configured triple is not in the last enumeration, and names the first such triple; nothing is read or written by then. A
dry run never ends like that. It passes over the fields of what it has planned, and over no others.** -/
theorem unresolved_ends_run (b : Backend σ) (o : RunOptions) (positive : 0 < o.pageSize) {c : Config}
    {rs : List Resolved} (resolved : resolveAll c.tokens c.markets = .ok rs) (s : σ) :
    ∃ result after calls, provision b o c s = (result, after) ∧
      provision b.recorded o c ⟨s, []⟩ = (result, ⟨after, calls⟩) ∧
      (b.registry.ServesLists → result ≠ .error (.enumeration .positionOverflow)) ∧
      (∀ t, result = .error (.marketNotResolved t) → ∀ call ∈ calls, call.isStoreCall = false) ∧
      (o.mode = .apply → (∀ call ∈ calls, call.isStoreCall = false → call ≠ call.failed) →
        result ≠ .error (.enumeration .positionOverflow) → ∀ t, result = .error (.marketNotResolved t) ↔
          (rs.map (·.triple)).find? (fun t => t ∉ (lastListed calls).map (·.triple)) = some t) ∧
      (o.mode = .dryRun → (∀ t, result ≠ .error (.marketNotResolved t)) ∧
        ∃ es, PlannedSkipped c.general rs (lastListed calls) es calls result) := by
  by_cases hnil : c.markets = []
  · obtain rfl := resolveAll_of_nil hnil resolved
    refine ⟨.ok .skip, s, [], provision_of_nil b o hnil s, provision_of_nil b.recorded o hnil _, by simp, by simp,
      fun _ _ _ t => by simp, fun _ => ⟨by simp, [], rfl, List.nil_prefix, ?_⟩⟩
    rintro _ ⟨⟩
    exact ⟨rfl, rfl, .slnil⟩
  obtain ⟨result, after, calls, full, lookups, ending, hrun, hrecorded, hlegal, hfollows, hconcluded⟩ :=
    provision_follows b positive hnil resolved s
  refine ⟨result, after, calls, hrun, hrecorded, fun serves => ?_, fun t ht => ?_,
    fun apply answered within t => ?_, fun dry => ⟨fun t ht => ?_, _, mergedEntries_unplanned c.general _ rs,
      hlegal.reads_of_dry dry hfollows, fun report hreport => ?_⟩⟩
  · have hne := provisionResolved_ne_overflow serves o c.general rs s
    rwa [← provision_of_resolved b o hnil resolved, hrun] at hne
  · obtain ⟨-, rfl⟩ := (notResolved_iff hfollows hconcluded).1 ht
    exact hlegal.no_storeCall_of_error hfollows
  · -- positions run out for the run if they do for its calls
    have hending : ending ≠ .error (.enumeration .positionOverflow) := by
      rintro rfl
      cases result with
      | ok report => cases hconcluded
      | error e => exact within (congrArg Except.error (Except.error.inj hconcluded))
    rw [notResolved_iff hfollows hconcluded, hlegal.unresolved_iff apply hfollows answered hending, find?_triples]
  · obtain ⟨-, hlookups⟩ := (notResolved_iff hfollows hconcluded).1 ht
    obtain ⟨groups, hgroups⟩ := hlegal.lookups_of_dry dry
    rw [hgroups] at hlookups
    cases hlookups
  · subst hreport
    rw [provision_of_resolved b.recorded o hnil resolved] at hrecorded
    obtain ⟨new, hnew, hplanned, hreads, hnoted⟩ := dry_report positive dry hrecorded
    obtain rfl : calls = new := by simpa using hnew
    exact ⟨hplanned, hreads, hnoted⟩

/-! ## A market that vanishes -/

/-- The markets served before and after a first page: the one that was there is gone, and another one is there. -/
def servedAfter (pages : Nat) : ServedList where
  markets := if pages = 0 then [⟨0x99, wethUsdc⟩] else [⟨0x98, usdcUsdc⟩]
  maxPage := none

/-- Serves these lists, counts the pages, and answers everything else without doing anything. -/
def vanishing : Backend Nat where
  store :=
    { getUint := fun _ pages => (.ok 0, pages)
      getBytes32 := fun _ pages => (.ok 0, pages)
      setUint := fun _ _ pages => (.ok (), pages)
      setBytes32 := fun _ _ pages => (.ok (), pages) }
  registry := { getMarkets := fun start stop pages => (.ok ((servedAfter pages).page start stop), pages + 1) }
  factory := { createMarket := fun _ _ pages => (.ok (), pages) }

theorem vanishing_serves : vanishing.registry.ServesLists := by
  intro start stop pages page hpage
  refine ⟨servedAfter pages, ?_, (Except.ok.inj hpage).symm⟩
  rw [servedAfter]
  split <;> decide

/-- The calls of the run: a page, the creation of the market that is not on it, and a page without the other one. -/
def callsToVanished : List CallRecord :=
  [.getMarkets 0 1000 (some [⟨0x99, wethUsdc⟩]), .createMarket usdcUsdc withCollateral.typeHash (some ()),
    .getMarkets 0 1000 (some [⟨0x98, usdcUsdc⟩])]

theorem calls_of_vanishing : (provision vanishing.recorded {} twoMarketsConfig ⟨0, []⟩).2.calls = callsToVanished := by
  have hmissing : (Snapshot.ofListings [⟨0x99, wethUsdc⟩]).missing [wethUsdc, usdcUsdc] = [usdcUsdc] := by decide
  have hfirst : takeSnapshot vanishing.recorded.registry 1000 ⟨0, []⟩ =
      (.ok (.ofListings [⟨0x99, wethUsdc⟩]), ⟨1, callsToVanished.take 1⟩) := takeSnapshot_of_short rfl (by decide)
  have hcreate : createAll vanishing.recorded.factory (creationType twoMarketsResolved) [usdcUsdc]
      ⟨1, callsToVanished.take 1⟩ = (.ok (), ⟨1, callsToVanished.take 2⟩) := rfl
  have hsecond : takeSnapshot vanishing.recorded.registry 1000 ⟨1, callsToVanished.take 2⟩ =
      (.ok (.ofListings [⟨0x98, usdcUsdc⟩]), ⟨2, callsToVanished⟩) := takeSnapshot_of_short rfl (by decide)
  have hlookups : collectGroups twoMarketsConfig.general (.ofListings [⟨0x98, usdcUsdc⟩]) [] twoMarketsResolved [] =
      .error (.marketNotResolved wethUsdc) := rfl
  have htriples : twoMarketsResolved.map (·.triple) = [wethUsdc, usdcUsdc] := rfl
  have resolved : resolveAll twoMarketsConfig.tokens twoMarketsConfig.markets = .ok twoMarketsResolved := rfl
  rw [provision_of_resolved _ _ (by simp [twoMarketsConfig]) resolved]
  simp only [provisionResolved, hfirst, htriples, hmissing, createMissing, hcreate, hsecond, Report.started, hlookups,
    reduceCtorEq, if_false]

/-- The market that was listed first is not resolved, although only the other one was missing, and no field is
touched. -/
theorem vanished_market_ends_run : ∃ after calls,
    provision vanishing.recorded {} twoMarketsConfig ⟨0, []⟩ = (.error (.marketNotResolved wethUsdc), ⟨after, calls⟩) ∧
    wethUsdc ∉ (lastListed calls).map (·.triple) ∧ ∀ call ∈ calls, call.isStoreCall = false := by
  have resolved : resolveAll twoMarketsConfig.tokens twoMarketsConfig.markets = .ok twoMarketsResolved := rfl
  obtain ⟨result, after, calls, -, hrecorded, hwithin, hstore, happly, -⟩ :=
    unresolved_ends_run vanishing {} (by decide) resolved 0
  obtain rfl : calls = callsToVanished := by
    rw [← calls_of_vanishing, hrecorded]
  have hanswered : ∀ call ∈ callsToVanished, call.isStoreCall = false → call ≠ call.failed := by
    simp [callsToVanished, CallRecord.failed]
  have hended := (happly rfl hanswered (hwithin vanishing_serves) wethUsdc).2 (by decide)
  exact ⟨after, _, hended ▸ hrecorded, by decide, hstore wethUsdc hended⟩

end MarketSync

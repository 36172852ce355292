import MarketSync.Proofs.Snapshots
import MarketSync.Proofs.Unresolved
import MarketSync.Proofs.WriterAccounts

/-!
# What a run reports

The report of a run is put together in different phases: what is missing comes from the first enumeration, what is
synchronized from the last one, counts and notes from the writer. Together they account for every configured triple,
every merged entry and every call that changed something. A run has converged (`is_converged`) exactly if nothing was
changed; for a dry run that is said of the run that is not dry and begins where it began.

* `Writer.writeEach_of_writeAll` — entries that are all written are requests of which none fails.
* `length_registered_add` — a distinct triple is registered or not.
* `Writer.writeAll_lockstep`, `changes_of_missing` — a dry run compared, call by call, to one that is not dry.
* `RunAccounts` — what the report of a run accounts for.
-/

namespace MarketSync

variable {σ : Type} {b : Backend σ}

/-! ## Triples -/

theorem length_registered_add (ms : List Listing) (ts : List Triple) :
    (registered ms ts).length + (unregistered ms ts).length = countTriples ts := by
  have hsplit := List.length_eq_length_filter_add (l := ts.eraseDups) fun t => decide (t ∈ ms.map (·.triple))
  rw [countTriples, hsplit, registered, unregistered]
  simp only [decide_not]

theorem length_missing_le (found : Snapshot) (ts : List Triple) : (found.missing ts).length ≤ countTriples ts := by
  rw [Snapshot.missing, missingAfter_eq, countTriples]
  exact List.length_filter_le _ _

theorem length_groupsOf (g : GeneralSection) (ms : List Listing) (rs : List Resolved) :
    (groupsOf g ms rs).length = (registered ms (rs.map (·.triple))).length := by
  rw [groupsOf, List.length_map]

/-! ## Calls -/

namespace CallRecord

theorem isChange_eq (call : CallRecord) : call.isChange = (call.isCreation || call.writtenSlot?.isSome) := by
  cases call <;> rfl

theorem isCreation_of_storeCall {call : CallRecord} (h : call.isStoreCall = true) : call.isCreation = false := by
  cases call <;> first | rfl | cases h

theorem writtenSlot?_of_not_storeCall {call : CallRecord} (h : call.isStoreCall = false) :
    call.writtenSlot? = none := by
  cases call <;> first | rfl | cases h

end CallRecord

/-- The first call of a sequence is made, whether it fails or not. -/
theorem Follows.first_made {call : CallRecord} {full calls : List CallRecord} {s s' : σ}
    {ending : Except ProvisionError Unit} (h : Follows b (call :: full) s calls ending s')
    (within : ¬ call.EndsBeyond) : call ∈ calls ∨ call.failed ∈ calls := by
  cases h with
  | made => exact Or.inl List.mem_cons_self
  | failed => exact Or.inr List.mem_cons_self
  | beyond beyond => exact absurd beyond within

namespace Prelude

variable {o : RunOptions} {rs : List Resolved} {first : List CallRecord} {found ms : List Listing}

/-- Among the calls before any entry the creations are those of what is missing. -/
theorem creations_eq (h : Prelude o rs first found ms) :
    first.filter (·.isCreation) = creationCalls o.mode rs found := by
  have hpages {start : UInt64} {pages : List CallRecord} {listed : List Listing}
      (enumerated : Pages o.pageSize start pages listed) : pages.filter (·.isCreation) = [] := by
    refine List.filter_eq_nil_iff.2 fun call hcall => ?_
    have hchange := (enumerated.not_storeCall call hcall).2
    rw [CallRecord.isChange_eq, Bool.or_eq_false_iff] at hchange
    simp [hchange.1]
  have hcreations : (creationCalls o.mode rs found).filter (·.isCreation) = creationCalls o.mode rs found := by
    unfold creationCalls
    split
    · simp [CallRecord.isCreation]
    · rfl
  cases h with
  | quiet enumerated none => rw [hpages enumerated, none]
  | creating enumerated _ enumeratedAgain =>
    rw [List.filter_append, List.filter_append, hpages enumerated, hpages enumeratedAgain, hcreations, List.nil_append,
      List.append_nil]

theorem creations_append (h : Prelude o rs first found ms) {rest : List CallRecord}
    (store : ∀ call ∈ rest, call.isStoreCall = true) :
    (first ++ rest).filter (·.isCreation) = creationCalls o.mode rs found := by
  have hnone : rest.filter (·.isCreation) = [] := by
    refine List.filter_eq_nil_iff.2 fun call hcall => ?_
    simp [CallRecord.isCreation_of_storeCall (store call hcall)]
  rw [List.filter_append, h.creations_eq, hnone, List.append_nil]

/-- There are no writes among the calls before any entry. -/
theorem length_writes_append (h : Prelude o rs first found ms) (apply : o.mode = .apply) {es : List Entry}
    {results : List (Except CallError Bool)} {rest : List CallRecord} (served : ServedEach o.mode es results rest)
    (answered : gave none results = 0) :
    ((first ++ rest).filterMap (·.writtenSlot?)).length = gave (some true) results := by
  have hnone : first.filterMap (·.writtenSlot?) = [] := by
    refine List.filterMap_eq_nil_iff.2 fun call hcall => ?_
    exact CallRecord.writtenSlot?_of_not_storeCall (h.not_storeCall call hcall)
  rw [List.filterMap_append, hnone, List.nil_append, served.writes_eq apply answered, List.length_map,
    served.length_changedEntries]

end Prelude

/-! ## Entries that are all written -/

namespace Writer

/-- Entries that are all written are requests of which none fails. -/
theorem writeEach_of_writeAll {store : Store σ} : ∀ (es : List Entry) {w w' : Writer} {s s' : σ},
    writeAll store w es s = (.ok (), w', s') →
    ∃ results, writeEach store w es s = (results, w', s') ∧ gave none results = 0
  | [], w, w', s, s', h => by
    cases h
    exact ⟨[], rfl, rfl⟩
  | e :: es, w, w', s, s', h => by
    rw [writeAll] at h
    split at h
    · cases h
    · rename_i changed w₁ s₁ hw
      obtain ⟨results, hrest, hnone⟩ := writeEach_of_writeAll es h
      refine ⟨.ok changed :: results, ?_, ?_⟩
      · simp only [writeEach, hw, hrest]
      · rw [gave_cons, hnone]
        rfl

/-- The calls for entries that are all written, with what the writer has counted and noted. -/
theorem accounts_of_writeAll {mode : WriteMode} {es : List Entry} {w : Writer} {r r' : Recorded σ}
    (h : writeAll b.recorded.store { mode } es r = (.ok (), w, r')) :
    ∃ results new, r'.calls = r.calls ++ new ∧ gave none results = 0 ∧ ServedEach mode es results new ∧
      Accounts mode es results w new := by
  obtain ⟨results, heach, hnone⟩ := writeEach_of_writeAll es h
  obtain ⟨rfl, new, hnew, hserved⟩ := writeEach_served es heach
  exact ⟨results, new, hnew, hnone, hserved, hserved.accounts⟩

theorem calls_writeAll {es : List Entry} {w w' : Writer} {r r' : Recorded σ} {result : Except CallError Unit}
    (h : writeAll b.recorded.store w es r = (result, w', r')) : r.calls ⊆ r'.calls := by
  obtain ⟨full, -, new, hnew, -⟩ := writeAll_follows es h
  rw [hnew]
  exact List.subset_append_left _ _

/-! ## Dry runs compared to others -/

variable {e : Entry} {w w' v : Writer} {r r' : Recorded σ}

/-- An entry whose slot is as it should be is passed over, in a dry run or not. -/
theorem write_of_unchanged (h : write b.recorded.store w e r = (.ok false, w', r')) (v : Writer) :
    ∃ v', write b.recorded.store v e r = (.ok false, v', r') ∧ v'.mode = v.mode := by
  have hmode := mode_write b.recorded.store v e r
  simp only [write] at h hmode ⊢
  cases hread : b.recorded.store.present e r with
  | mk res r₁ =>
    rw [hread] at h hmode
    cases res with
    | error err => cases h
    | ok present =>
      by_cases heq : present = e.value
      · simp only [if_pos heq] at h ⊢
        cases h
        exact ⟨_, rfl, rfl⟩
      · simp only [if_neg heq] at h
        split at h
        · cases h
        · split at h <;> cases h

/-- An entry that a dry run notes is one for which a run that is not dry calls for a write. -/
theorem write_of_noted (h : write b.recorded.store w e r = (.ok true, w', r')) (apply : v.mode = .apply) :
    ∃ call ∈ (write b.recorded.store v e r).2.2.calls, call.isChange = true := by
  simp only [write] at h ⊢
  cases hread : b.recorded.store.present e r with
  | mk res r₁ =>
    rw [hread] at h
    cases res with
    | error err => cases h
    | ok present =>
      by_cases heq : present = e.value
      · simp only [if_pos heq] at h
        cases h
      · simp only [if_neg heq, show v.countRead.mode = .apply from apply]
        cases hput : b.recorded.store.put e r₁ with
        | mk res r₂ =>
          have hmem : e.writeRecord res ∈ r₂.calls := by
            rw [put_record hput]
            simp
          cases res <;> exact ⟨_, hmem, e.isChange_writeRecord _⟩

/-- **A dry run that notes nothing ends where a run that is not dry ends; if it notes something that run calls for a
write.** -/
theorem writeAll_lockstep : ∀ (es : List Entry) {w w' v : Writer} {r r' : Recorded σ}, w.mode = .dryRun →
    v.mode = .apply → writeAll b.recorded.store w es r = (.ok (), w', r') →
    (w'.stats.writes = w.stats.writes ∧ (writeAll b.recorded.store v es r).2.2 = r') ∨
    (w.stats.writes < w'.stats.writes ∧
      ∃ call ∈ (writeAll b.recorded.store v es r).2.2.calls, call.isChange = true)
  | [], w, w', v, r, r', dry, apply, h => by
    cases h
    exact Or.inl ⟨rfl, rfl⟩
  | e :: es, w, w', v, r, r', dry, apply, h => by
    rw [writeAll] at h
    split at h
    · cases h
    · rename_i changed w₁ r₁ hw
      have hmode := mode_write b.recorded.store w e r
      have htally := (write_served hw).1
      rw [hw] at hmode
      have hdry : w₁.mode = .dryRun := hmode.trans dry
      cases changed with
      | false =>
        have hstats : w₁.stats.writes = w.stats.writes := by rw [htally]; rfl
        obtain ⟨v₁, hv, hmode'⟩ := write_of_unchanged hw v
        rw [writeAll, hv, ← hstats]
        exact writeAll_lockstep es hdry (hmode'.trans apply) h
      | true =>
        -- the write comes now, whatever comes later
        have hstats : w₁.stats.writes = w.stats.writes + 1 := by
          rw [htally]
          simp only [tally, dry]
          rfl
        have hlater := writeAll_lockstep es hdry apply h
        obtain ⟨call, hcall, hchange⟩ := write_of_noted hw apply
        refine Or.inr ⟨?_, call, ?_, hchange⟩
        · rcases hlater with ⟨hsame, -⟩ | ⟨hmore, -⟩
          · omega
          · omega
        · rw [writeAll]
          cases hv : write b.recorded.store v e r with
          | mk result out =>
            obtain ⟨v₁, r₂⟩ := out
            rw [hv] at hcall
            cases result with
            | error err => exact hcall
            | ok changed => exact calls_writeAll rfl hcall

end Writer

section Counterpart

variable {o : RunOptions} {general : GeneralSection} {rs : List Resolved} {r r₁ r' : Recorded σ} {report : Report}

theorem snd_writeGroups (b : Backend σ) (o : RunOptions) (report : Report) (groups : List MarketGroup) (s : σ) :
    (writeGroups b o report groups s).2 =
      (Writer.writeAll b.store { mode := o.mode } (groups.flatMap (·.entries)) s).2.2 := by
  rw [writeGroups]
  split
  · rename_i hw
    rw [hw]
  · rename_i hw
    rw [hw]

/-- The creation phase calls for a creation if anything is missing, whatever comes of it. -/
theorem creates_of_missing (apply : o.mode = .apply) {typeOf : Triple → Bytes32} {missing : List Triple}
    (some : missing ≠ []) {found : Snapshot} {result : Except ProvisionError Snapshot}
    (h : createMissing b.recorded o typeOf missing found r = (result, r')) :
    ∃ call ∈ r'.calls, call.isChange = true := by
  obtain ⟨t, ts, rfl⟩ := List.exists_cons_of_ne_nil some
  simp only [createMissing, apply] at h
  cases hc : createAll b.recorded.factory typeOf (t :: ts) r with
  | mk res r₁ =>
    obtain ⟨new, hnew, hfollows⟩ := createAll_follows typeOf (t :: ts) hc
    have hchange : ∃ call ∈ r₁.calls, call.isChange = true := by
      rw [hnew]
      rcases hfollows.first_made (by simp [CallRecord.EndsBeyond]) with hmade | hfailed
      · exact ⟨_, List.mem_append_right _ hmade, rfl⟩
      · exact ⟨_, List.mem_append_right _ hfailed, rfl⟩
    rw [hc] at h
    cases res with
    | error e =>
      cases h
      exact hchange
    | ok u =>
      obtain ⟨call, hcall, hchange⟩ := hchange
      obtain ⟨more, heq, -⟩ := takeSnapshot_recorded b o.pageSize r₁
      have hlater : call ∈ (takeSnapshot b.recorded.registry o.pageSize r₁).2.calls := by
        rw [heq]
        exact List.mem_append_left _ hcall
      refine ⟨call, ?_, hchange⟩
      cases hs : takeSnapshot b.recorded.registry o.pageSize r₁ with
      | mk res r₂ =>
        rw [hs] at hlater
        simp only [hs] at h
        cases res <;> cases h <;> exact hlater

/-- **A run that is not dry calls for a creation if it finds anything missing, however it ends.** -/
theorem changes_of_missing (apply : o.mode = .apply) {found : Snapshot}
    (enumerated : takeSnapshot b.recorded.registry o.pageSize r = (.ok found, r₁))
    (missing : found.missing (rs.map (·.triple)) ≠ []) (general : GeneralSection) :
    ∃ call ∈ (provisionResolved b.recorded o general rs r).2.calls, call.isChange = true := by
  have houtcome := provisionResolved_outcome b.recorded o general rs r
  generalize (provisionResolved b.recorded o general rs r).1 = result at houtcome
  generalize (provisionResolved b.recorded o general rs r).2 = r' at houtcome
  cases houtcome with
  | notEnumerated enumerated' => cases enumerated.symm.trans enumerated'
  | notCreated enumerated' created =>
    cases enumerated.symm.trans enumerated'
    exact creates_of_missing apply missing created
  | notFound enumerated' created collected =>
    cases enumerated.symm.trans enumerated'
    exact creates_of_missing apply missing created
  | written enumerated' created collected written =>
    cases enumerated.symm.trans enumerated'
    obtain ⟨call, hcall, hchange⟩ := creates_of_missing apply missing created
    obtain ⟨w, res, hw, -⟩ := writeGroups_cases written
    exact ⟨call, Writer.calls_writeAll hw hcall, hchange⟩

/-- **A dry run reports convergence and the run that is not dry ends in the same state with the same calls, or it does
not and that run calls for a change.** -/
theorem counterpart_of_dry (dry : o.mode = .dryRun)
    (run : provisionResolved b.recorded o general rs r = (.ok report, r')) :
    (report.converged = true ∧
      (provisionResolved b.recorded { o with mode := .apply } general rs r).2 = r') ∨
    (report.converged = false ∧
      ∃ call ∈ (provisionResolved b.recorded { o with mode := .apply } general rs r).2.calls, call.isChange = true) := by
  have houtcome := provisionResolved_outcome b.recorded o general rs r
  rw [run] at houtcome
  cases houtcome with
  | @written found r₁ snapshot r₂ groups _ _ enumerated created collected written =>
    obtain ⟨w, res, hw, ⟨e, -, herr⟩ | ⟨rfl, hreport⟩⟩ := writeGroups_cases written
    · cases herr
    obtain rfl := Except.ok.inj hreport
    by_cases hmissing : found.missing (rs.map (·.triple)) = []
    · -- nothing is missing, so both runs go on from the first enumeration to the same entries
      simp only [createMissing, dry] at created
      cases created
      have hrun : (provisionResolved b.recorded { o with mode := .apply } general rs r).2 =
          (Writer.writeAll b.recorded.store { mode := .apply } (groups.flatMap (·.entries)) r₁).2.2 := by
        simp only [hmissing, ite_self] at collected
        simp only [provisionResolved, enumerated, hmissing, createMissing, Report.started, ite_self, collected,
          snd_writeGroups]
      have hlockstep := Writer.writeAll_lockstep _ (v := { mode := .apply }) dry rfl hw
      rw [hrun, Report.converged]
      simp only [Report.started, hmissing, ite_self, List.isEmpty_nil, Bool.true_and, beq_iff_eq, beq_eq_false_iff_ne]
      rcases hlockstep with ⟨hsame, hends⟩ | ⟨hmore, hchanges⟩
      · exact Or.inl ⟨hsame, hends⟩
      · refine Or.inr ⟨?_, hchanges⟩
        omega
    · refine Or.inr ⟨?_, changes_of_missing (o := { o with mode := .apply }) rfl enumerated hmissing general⟩
      simp [Report.converged, Report.started, dry, hmissing]

end Counterpart

/-! ## Accounts -/

/-- What the report of a run accounts for: the definitions, their groups of merged entries, and the calls of the run. -/
structure RunAccounts (o : RunOptions) (rs : List Resolved) (groups : List MarketGroup) (calls : List CallRecord)
    (report : Report) : Prop where
  /-- Each merged entry is read once. -/
  reads_eq : report.writer.reads = (groups.flatMap (·.entries)).length
  /-- Each of them is written, or noted, or found as it should be. -/
  reads_split : report.writer.reads = report.writer.writes + report.writer.unchanged
  /-- Each distinct triple is there, or it is created, or planned. -/
  markets_split : report.marketsExisting + report.marketsCreated.length + report.marketsPlanned.length =
    (rs.map (·.triple)).toFinset.card
  apply : o.mode = .apply → report.marketsPlanned = [] ∧ report.pendingWrites = [] ∧
    report.marketsSynced = (rs.map (·.triple)).toFinset.card ∧
    (calls.filterMap (·.writtenSlot?)).length = report.writer.writes ∧
    calls.filter (·.isCreation) = report.marketsCreated.map fun t => .createMarket t (creationType rs t) (some ())
  dryRun : o.mode = .dryRun → report.marketsCreated = [] ∧ report.marketsSynced = report.marketsExisting ∧
    report.writer.writes = report.pendingWrites.length ∧ ∀ call ∈ calls, call.isChange = false

section Accounts

variable {o : RunOptions} {general : GeneralSection} {rs : List Resolved} {groups : List MarketGroup}
  {calls : List CallRecord} {report : Report}

/-- A run that is not dry reports convergence exactly if it called for no change. -/
theorem RunAccounts.converged_iff (h : RunAccounts o rs groups calls report) (apply : o.mode = .apply) :
    report.converged = true ↔ ∀ call ∈ calls, call.isChange = false := by
  obtain ⟨hplanned, -, -, hwrites, hcreations⟩ := h.apply apply
  have hcreated : report.marketsCreated = [] ↔ ∀ call ∈ calls, call.isCreation = false := by
    rw [← List.map_eq_nil_iff (f := fun t => CallRecord.createMarket t (creationType rs t) (some ())), ← hcreations,
      List.filter_eq_nil_iff]
    simp only [Bool.not_eq_true]
  have hwritten : report.writer.writes = 0 ↔ ∀ call ∈ calls, call.writtenSlot? = none := by
    rw [← hwrites, List.length_eq_zero_iff, List.filterMap_eq_nil_iff]
  rw [Report.converged_iff, hcreated, hwritten]
  simp only [CallRecord.isChange_eq, Bool.or_eq_false_iff, Option.isSome_eq_false_iff, Option.isNone_iff_eq_none]
  constructor
  · rintro ⟨hno, -, hnone⟩ call hcall
    exact ⟨hno call hcall, hnone call hcall⟩
  · intro hall
    exact ⟨fun call hcall => (hall call hcall).1, hplanned, fun call hcall => (hall call hcall).2⟩

theorem length_groups {first : List CallRecord} {listed ms : List Listing}
    (before : Prelude o rs first listed ms)
    (collected : collectGroups general (.ofListings ms) (plannedTriples o.mode rs listed) rs [] = .ok groups) :
    (o.mode = .apply → groups.length = countTriples (rs.map (·.triple))) ∧
    (o.mode = .dryRun → groups.length = (registered listed (rs.map (·.triple))).length) := by
  constructor
  · intro apply
    rw [plannedTriples, planned_eq_nil apply] at collected
    obtain ⟨rfl, hregistered⟩ := collectGroups_ok collected
    have hnone : unregistered ms (rs.map (·.triple)) = [] := by
      refine unregistered_eq_nil_iff.2 fun t ht => ?_
      obtain ⟨r, hr, rfl⟩ := List.mem_map.1 ht
      exact hregistered r hr
    have hsum := length_registered_add ms (rs.map (·.triple))
    rw [hnone, List.length_nil] at hsum
    rw [length_groupsOf]
    omega
  · intro dry
    obtain rfl := before.eq_found dry
    rw [collectGroups_dry dry] at collected
    obtain rfl := Except.ok.inj collected
    exact length_groupsOf _ _ _

theorem provisionResolved_accounts (positive : 0 < o.pageSize) {r r' : Recorded σ}
    (run : provisionResolved b.recorded o general rs r = (.ok report, r')) : ∃ groups calls,
    r'.calls = r.calls ++ calls ∧
    collectGroups general (.ofListings (lastListed calls)) report.marketsPlanned rs [] = .ok groups ∧
    RunAccounts o rs groups calls report := by
  have houtcome := provisionResolved_outcome b.recorded o general rs r
  rw [run] at houtcome
  cases houtcome with
  | @written found r₁ snapshot r₂ groups _ _ enumerated created collected written =>
    obtain ⟨listed, first, ms, rfl, before, hsnapshot, pre, hpre, hfollows⟩ :=
      prelude_follows positive enumerated created
    obtain rfl := hsnapshot _ rfl
    obtain rfl : pre = first := hfollows.eq_of_ok
    rw [missing_ofListings] at collected written
    obtain ⟨w, res, hw, ⟨e, -, herr⟩ | ⟨rfl, hreport⟩⟩ := writeGroups_cases written
    · cases herr
    obtain rfl := Except.ok.inj hreport
    obtain ⟨results, new, hnew, hnone, hserved, haccounts⟩ := Writer.accounts_of_writeAll hw
    have hlisted := before.lastListed_append hserved.storeCall
    obtain ⟨happly, hdry⟩ := length_groups before collected
    have hsum := length_registered_add listed (rs.map (·.triple))
    have hsplit := haccounts.reads_split
    rw [hnone, Nat.add_zero] at hsplit
    refine ⟨groups, pre ++ new, by rw [hnew, hpre, List.append_assoc], by rwa [hlisted], ?_⟩
    refine { reads_eq := haccounts.reads_eq, reads_split := hsplit, markets_split := ?_, apply := ?_, dryRun := ?_ }
    · rw [card_triples]
      cases hmode : o.mode with
      | apply =>
        simp only [Report.started, hmode, reduceCtorEq, if_true, if_false, List.length_nil]
        omega
      | dryRun =>
        simp only [Report.started, hmode, reduceCtorEq, if_true, if_false, List.length_nil]
        omega
    · intro apply
      refine ⟨planned_eq_nil apply _, (haccounts.apply apply).1, ?_, ?_, ?_⟩
      · rw [card_triples]
        exact happly apply
      · rw [before.length_writes_append apply hserved hnone, haccounts.writes_eq]
      · rw [before.creations_append hserved.storeCall, creationCalls, if_pos apply, Report.started, if_pos apply]
    · intro dry
      obtain ⟨hquiet, hpending⟩ := haccounts.dryRun dry
      have hexisting : groups.length =
          countTriples (rs.map (·.triple)) - (unregistered listed (rs.map (·.triple))).length := by
        rw [hdry dry]
        omega
      refine ⟨by simp [Report.started, dry], hexisting, ?_, ?_⟩
      · rw [← haccounts.writes_eq, hpending, hserved.length_changedEntries]
      · intro call hcall
        rcases List.mem_append.1 hcall with hfirst | hlater
        · exact before.not_change dry call hfirst
        · exact hquiet call hlater

end Accounts

/-- **The report of a run that succeeds accounts for it, whatever its backend answers: for every merged entry, every
distinct triple and every call for a change. No more triples are ever missing than there are. A run has converged exactly
if it called for no creation and no write, and a dry run exactly if the run in its place that is not dry calls for
none.** -/
theorem report_accounts {o : RunOptions} {c : Config} (nonempty : c.markets ≠ []) {s s' : σ} {report : Report}
    (run : provision b o c s = (.ok report, s')) : ∃ rs groups calls,
    resolveAll c.tokens c.markets = .ok rs ∧
    provision b.recorded o c ⟨s, []⟩ = (.ok report, ⟨s', calls⟩) ∧
    collectGroups c.general (.ofListings (lastListed calls)) report.marketsPlanned rs [] = .ok groups ∧
    RunAccounts o rs groups calls report ∧
    (∀ found : Snapshot, (found.missing (rs.map (·.triple))).length ≤ countTriples (rs.map (·.triple))) ∧
    (report.converged = true ↔
      ∀ call ∈ (provision b.recorded { o with mode := .apply } c ⟨s, []⟩).2.calls, call.isChange = false) := by
  cases hres : resolveAll c.tokens c.markets with
  | error e =>
    rw [provision_of_unresolved b o nonempty hres] at run
    cases run
  | ok rs =>
    have positive : 0 < o.pageSize := by
      by_cases hpos : 0 < o.pageSize
      · exact hpos
      · rw [provision_of_resolved b o nonempty hres, provisionResolved_of_zero b hpos] at run
        cases run
    obtain ⟨calls, hrecorded⟩ := provision_recorded b o c ⟨s, []⟩
    rw [run, Recorded.after, List.nil_append] at hrecorded
    have hresolved := hrecorded
    rw [provision_of_resolved b.recorded o nonempty hres] at hresolved
    obtain ⟨groups, new, hnew, hcollected, haccounts⟩ := provisionResolved_accounts positive hresolved
    obtain rfl : calls = new := by simpa using hnew
    refine ⟨rs, groups, calls, rfl, hrecorded, hcollected, haccounts, fun found => length_missing_le found _, ?_⟩
    rw [provision_of_resolved b.recorded { o with mode := .apply } nonempty hres]
    cases hmode : o.mode with
    | apply =>
      have hsame : { o with mode := .apply } = o := by
        rw [← hmode]
      rw [hsame, hresolved]
      exact haccounts.converged_iff hmode
    | dryRun =>
      rcases counterpart_of_dry hmode hresolved with ⟨hconverged, hends⟩ | ⟨hnot, call, hcall, hchange⟩
      · rw [hends]
        exact iff_of_true hconverged (haccounts.dryRun hmode).2.2.2
      · refine iff_of_false (by simp [hnot]) fun hquiet => ?_
        rw [hquiet call hcall] at hchange
        cases hchange

/-! ## A run that creates one market of two -/

/-- One market is there and the other one is created, by the only call for a creation; both are synchronized. -/
theorem accounts_of_twoMarkets : ∃ report after calls,
    provision Ledger.backend.recorded {} twoMarketsConfig ⟨oneMarket, []⟩ = (.ok report, ⟨after, calls⟩) ∧
    report.marketsExisting = 1 ∧ report.marketsCreated = [wethUsdc] ∧ report.marketsSynced = 2 ∧
    (calls.filter (·.isCreation)).length = 1 ∧
    (calls.filterMap (·.writtenSlot?)).length = report.writer.writes := by
  have hun : unregistered oneMarket.markets (twoMarketsResolved.map (·.triple)) = [wethUsdc] := by decide
  have resolved : resolveAll twoMarketsConfig.tokens twoMarketsConfig.markets = .ok twoMarketsResolved := rfl
  have count : (registerAll oneMarket.markets twoMarketsResolved).length < 2 ^ 63 := by
    rw [registerAll, hun]
    decide
  obtain ⟨report, after, es, run, hdone⟩ := provision_succeeds (o := {}) Ledger.backend_works rfl (by decide)
    resolved oneMarket count rfl
  have hcreated : report.marketsCreated = [wethUsdc] := hdone.created_eq.trans hun
  obtain ⟨rs, groups, calls, resolved', hrecorded, -, haccounts, -⟩ :=
    report_accounts (by simp [twoMarketsConfig]) run
  obtain rfl := Except.ok.inj (resolved.symm.trans resolved')
  have htwo : (twoMarketsResolved.map (·.triple)).toFinset.card = 2 := by decide
  obtain ⟨hplanned, -, hsynced, hwrites, hcreations⟩ := haccounts.apply rfl
  have hsplit := haccounts.markets_split
  rw [hcreated, hplanned, htwo] at hsplit
  refine ⟨report, after, calls, hrecorded, ?_, hcreated, hsynced.trans htwo, ?_, hwrites⟩
  · simp only [List.length_singleton, List.length_nil] at hsplit
    omega
  · rw [hcreations, hcreated]
    rfl

end MarketSync

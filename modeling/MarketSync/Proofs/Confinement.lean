import MarketSync.Proofs.DryRun
import MarketSync.Proofs.Histories

/-!
# What a run leaves alone

A run changes a chain by creations and writes. Wherever it ends, the markets that were there stay in their places,
and a slot holds what it held before unless it is that of an entry for a configured market; then it may hold the
value of such an entry. As long as the store is not called no slot changes.

* `Slots.settleAll_changed` — a slot that settling changes holds the value of an entry for it.
* `mem_groupsOf` — what is merged are entries of definitions.
* `Follows.keeps_eq` — what no call affects is the same after all of them.
* `provision_made` — which calls a run has made: only if it ends with a call of the store has it called it at all.
* `run_confined` — a run is confined to what is configured, whatever calls fail.
-/

namespace MarketSync

variable {σ : Type}

/-! ## Confinement -/

/-- An entry that is produced for a definition whose market is among the listed ones. -/
def Config.Produces (c : Config) (ms : List Listing) (e : Entry) : Prop :=
  ∃ rs, resolveAll c.tokens c.markets = .ok rs ∧ ∃ r ∈ rs, ∃ m,
    (Snapshot.ofListings ms).get? r.triple = some m ∧ e ∈ marketEntries r.definition m c.general

/-- A backend over states that each hold a chain in memory: a call does to it what it does in memory, or it fails and
does nothing. Creations may also do nothing and tell otherwise. -/
structure Backend.Keeps (b : Backend σ) (chain : σ → Ledger) : Prop where
  store : b.store.Conforms fun s => (chain s).contents
  registry : b.registry.Conforms fun s => (chain s).contents
  factory : b.factory.Conforms (fun s => (chain s).contents) ∨ b.factory.Silent fun s => (chain s).contents

/-- Faults of all kinds are like that, but a registry with a list of its own is not. -/
theorem Backend.keeps_withFaults {plan : FaultPlan} (served : plan.served = none) :
    (Ledger.backend.withFaults plan).Keeps fun f => f.state where
  store := Ledger.backend_works.conforms.store.withFaults plan
  registry := Ledger.backend_works.conforms.registry.withFaults served
  factory := by
    by_cases hsilent : plan.creation = .silent
    · exact Or.inr (silent_withFaults Ledger.backend Ledger.contents hsilent)
    · exact Or.inl (Ledger.backend_works.conforms.factory.withFaults hsilent)

/-- What became of a chain in a run that made some calls lies within what is configured. -/
structure Confined (c : Config) (before after : Ledger) (calls : List CallRecord) : Prop where
  markets : before.markets <+: after.markets
  untouched : ∀ slot, (∀ e, c.Produces after.markets e → e.slot ≠ slot) → after.slots slot = before.slots slot
  changed : ∀ slot, after.slots slot ≠ before.slots slot →
    ∃ e, c.Produces after.markets e ∧ e.slot = slot ∧ after.slots slot = some e.value
  /-- A run whose last call is none of the store has ended before the fields are written. -/
  early : (∀ call ∈ calls.getLast?, call.isStoreCall = false) → ∀ slot, after.slots slot = before.slots slot

/-! ## Settled slots -/

/-- **A slot that settling changes holds the value of an entry for it.** -/
theorem Slots.settleAll_changed {f : Slots} {es : List Entry} {slot : Slot} (h : f.settleAll es slot ≠ f slot) :
    ∃ e ∈ es, e.slot = slot ∧ f.settleAll es slot = some e.value := by
  rw [settleAll_apply, foldl_settleValue] at h ⊢
  split at h
  · exact absurd rfl h
  · rename_i hall
    rw [if_neg hall]
    cases hlast : (valuesFor slot es).getLast? with
    | none =>
      rw [List.getLast?_eq_none_iff.1 hlast] at hall
      exact absurd (by simp) hall
    | some v =>
      obtain ⟨e, he, hslot, rfl⟩ := mem_valuesFor.1 (List.mem_of_getLast? hlast)
      exact ⟨e, he, hslot, rfl⟩

theorem mem_mergeEntry {e e' : Entry} {es : List Entry} (h : e' ∈ mergeEntry es e) : e' ∈ es ∨ e' = e := by
  induction es with
  | nil => exact Or.inr (by simpa [mergeEntry] using h)
  | cons f fs ih =>
    unfold mergeEntry at h
    split at h
    · rcases List.mem_cons.1 h with rfl | h
      · exact Or.inr rfl
      · exact Or.inl (List.mem_cons_of_mem f h)
    · rcases List.mem_cons.1 h with rfl | h
      · exact Or.inl List.mem_cons_self
      · exact (ih h).imp_left (List.mem_cons_of_mem f)

theorem mem_mergeEntries {e : Entry} : ∀ {incoming existing : List Entry}, e ∈ mergeEntries existing incoming →
    e ∈ existing ∨ e ∈ incoming
  | [], _, h => Or.inl h
  | e' :: incoming, existing, h => by
    have hmerged : e ∈ mergeEntries (mergeEntry existing e') incoming := h
    rcases mem_mergeEntries hmerged with h | h
    · refine (mem_mergeEntry h).imp_right ?_
      rintro rfl
      exact List.mem_cons_self
    · exact Or.inr (List.mem_cons_of_mem e' h)

theorem mem_mergeLists {e : Entry} {lists : List (List Entry)} (h : e ∈ mergeLists lists) : ∃ es ∈ lists, e ∈ es := by
  induction lists using List.reverseRecOn with
  | nil => cases h
  | append_singleton lists es ih =>
    by_cases hnil : lists = []
    · subst hnil
      exact ⟨es, by simp, h⟩
    · rw [mergeLists_concat hnil] at h
      rcases mem_mergeEntries h with h | h
      · obtain ⟨es', hes', he⟩ := ih h
        exact ⟨es', List.mem_append_left _ hes', he⟩
      · exact ⟨es, by simp, h⟩

/-- **What is merged are entries of definitions.** -/
theorem mem_groupsOf {g : GeneralSection} {ms : List Listing} {rs : List Resolved} {e : Entry}
    (h : e ∈ (groupsOf g ms rs).flatMap (·.entries)) : ∃ r ∈ rs, e ∈ definitionEntries g ms r := by
  obtain ⟨group, hgroup, he⟩ := List.mem_flatMap.1 h
  obtain ⟨t, -, rfl⟩ := List.mem_map.1 hgroup
  obtain ⟨es, hes, hmem⟩ := mem_mergeLists he
  obtain ⟨r, hr, rfl⟩ := List.mem_map.1 hes
  exact ⟨r, (List.mem_filter.1 hr).1, hmem⟩

theorem produces_of_mergedEntries {c : Config} {ms : List Listing} {rs : List Resolved} {es : List Entry}
    (resolved : resolveAll c.tokens c.markets = .ok rs) (merged : mergedEntries c.general ms rs = .ok es) {e : Entry}
    (he : e ∈ es) : c.Produces ms e := by
  rw [(groupsOf_of_mergedEntries merged).2] at he
  obtain ⟨r, hr, hmem⟩ := mem_groupsOf he
  unfold definitionEntries at hmem
  split at hmem
  · rename_i m hm
    exact ⟨rs, resolved, r, hr, m, (get?_ofListings ms r.triple).trans hm, hmem⟩
  · cases hmem

/-! ## What calls leave alone -/

section Calls

variable {b : Backend σ} {chain : σ → Ledger} {full calls : List CallRecord} {s s' : σ}
  {ending : Except ProvisionError Unit}

/-- **What no call affects is the same after all of them.** -/
theorem Follows.keeps_eq {α : Type} {f : σ → α} {p : CallRecord → Bool} (failed : ∀ call, p call.failed = p call)
    (keeps : ∀ call s, p call = false → f (b.answer s call).2 = f s) (h : Follows b full s calls ending s')
    (none : ∀ call ∈ calls, p call = false) : f s' = f s := by
  induction h with
  | done => rfl
  | @made call _ s s₁ _ _ _ _ answered _ ih =>
    rw [List.forall_mem_cons] at none
    have hstep := keeps call s none.1
    rw [answered] at hstep
    exact (ih none.2).trans hstep
  | @failed call _ s e s' _ answered =>
    have hstep := keeps call s (by simpa [failed] using none)
    rwa [answered] at hstep
  | beyond => rfl

namespace Backend.Keeps

theorem contents_read (keeps : b.Keeps chain) (call : CallRecord) (s : σ) (read : call.isChange = false) :
    (chain (b.answer s call).2).contents = (chain s).contents := by
  cases call with
  | getUint key => exact keeps.store.view_present ⟨key, .uint 0, ""⟩ s
  | getBytes32 key => exact keeps.store.view_present ⟨key, .bytes32 0, ""⟩ s
  | getMarkets start stop => exact keeps.registry.view_page start stop s
  | setUint | setBytes32 | createMarket => cases read

theorem slots_other (keeps : b.Keeps chain) (call : CallRecord) (s : σ) (other : call.isStoreCall = false) :
    (chain (b.answer s call).2).slots = (chain s).slots := by
  cases call with
  | getMarkets start stop => exact congrArg Contents.slots (keeps.registry.view_page start stop s)
  | createMarket t type =>
    show (chain (b.factory.createMarket t type s).2).slots = _
    rcases keeps.factory with hf | hf
    · cases hc : (b.factory.createMarket t type s).1 with
      | ok u => exact congrArg Contents.slots (hf.create_ok hc)
      | error e => exact congrArg Contents.slots (hf.create_error hc)
    · exact congrArg Contents.slots (hf t type s)
  | getUint | getBytes32 | setUint | setBytes32 => cases other

end Backend.Keeps

theorem EntryCalls.storeCall {mode : WriteMode} {es : List Entry} (h : EntryCalls mode es calls) :
    ∀ call ∈ calls, call.isStoreCall = true := by
  induction h with
  | nil => simp
  | @cons e es calls present kind rest ih =>
    have hread : (present.readCall e.key).isStoreCall = true := by cases present <;> rfl
    have hwrite : (e.value.writeCall e.key).isStoreCall = true := by cases e.value <;> rfl
    intro call hc
    rcases List.mem_append.1 hc with hc | hc
    · unfold Entry.callsFor at hc
      split at hc
      · simp only [List.mem_cons, List.not_mem_nil, or_false] at hc
        rcases hc with rfl | rfl
        · exact hread
        · exact hwrite
      · rw [List.mem_singleton.1 hc]
        exact hread
    · exact ih call hc

/-- **Only a run that ends with a call of the store has called it at all.** -/
theorem RunCalls.no_storeCall_of_last {o : RunOptions} {general : GeneralSection} {rs : List Resolved}
    {lookups : Except ProvisionError (List MarketGroup)} (h : RunCalls o general rs full lookups)
    (follows : Follows b full s calls ending s') (last : ∀ call ∈ calls.getLast?, call.isStoreCall = false) :
    ∀ call ∈ calls, call.isStoreCall = false := by
  cases h with
  | notFound before => exact follows.forall_eq CallRecord.isStoreCall_failed before.not_storeCall
  | @found first found ms groups rest before lookups entries =>
    rcases follows.split with ⟨s₁, tail, rfl, htail⟩ | hfirst
    · -- calls for entries are calls of the store, so there are none
      have hstore := htail.forall_eq CallRecord.isStoreCall_failed entries.storeCall
      cases tail using List.reverseRecOn with
      | nil => simpa using before.not_storeCall
      | append_singleton tail call =>
        have hlast := last call (by simp [← List.append_assoc])
        have hcall := hstore call (by simp)
        rw [hlast] at hcall
        cases hcall
    · exact hfirst.forall_eq CallRecord.isStoreCall_failed before.not_storeCall

/-- Pages of no size are refused before anything is called. -/
theorem provisionResolved_of_zero (b : Backend σ) {o : RunOptions} (zero : ¬ 0 < o.pageSize)
    (general : GeneralSection) (rs : List Resolved) (s : σ) :
    provisionResolved b o general rs s = (.error (.enumeration .pageSizeZero), s) := by
  have hzero : o.pageSize.toNat = 0 := Nat.eq_zero_of_not_pos zero
  rw [provisionResolved, takeSnapshot, enumerate, dif_pos hzero]

/-- The calls that a run has made. In a dry run none is for a change, and if the last one is none of the store, no other
one is. -/
structure RunMade (b : Backend σ) (o : RunOptions) (c : Config) (s : σ) (calls : List CallRecord) : Prop where
  recorded : provision b.recorded o c ⟨s, []⟩ = ((provision b o c s).1, ⟨(provision b o c s).2, calls⟩)
  follows : ∃ full ending, Follows b full s calls ending (provision b o c s).2
  dry : o.mode = .dryRun → ∀ call ∈ calls, call.isChange = false
  last : (∀ call ∈ calls.getLast?, call.isStoreCall = false) → ∀ call ∈ calls, call.isStoreCall = false

theorem RunMade.nothing {o : RunOptions} {c : Config} {result : Except ProvisionError Report}
    (h : provision b o c s = (result, s)) (hrecorded : provision b.recorded o c ⟨s, []⟩ = (result, ⟨s, []⟩)) :
    RunMade b o c s [] where
  recorded := by rw [h, hrecorded]
  follows := by
    rw [h]
    exact ⟨[], .ok (), .done⟩
  dry := by simp
  last := by simp

/-- **Every run, with pages of any size, has made calls like that.** -/
theorem provision_made (b : Backend σ) (o : RunOptions) (c : Config) (s : σ) : ∃ calls, RunMade b o c s calls := by
  by_cases hnil : c.markets = []
  · exact ⟨[], .nothing (provision_of_nil b o hnil s) (provision_of_nil b.recorded o hnil _)⟩
  cases hres : resolveAll c.tokens c.markets with
  | error e =>
    exact ⟨[], .nothing (provision_of_unresolved b o hnil hres s) (provision_of_unresolved b.recorded o hnil hres _)⟩
  | ok rs =>
    have hrun {τ : Type} (b : Backend τ) (s : τ) := provision_of_resolved b o hnil hres s
    by_cases positive : 0 < o.pageSize
    · obtain ⟨result, after, calls, full, lookups, ending, hdone, hrecorded, hlegal, hfollows, -⟩ :=
        provision_follows b positive hnil hres s
      refine ⟨calls, ?_, ⟨full, ending, ?_⟩,
        fun dry => hfollows.forall_eq CallRecord.isChange_failed (hlegal.not_change dry),
        hlegal.no_storeCall_of_last hfollows⟩
      · rw [hdone, hrecorded]
      · rw [hdone]
        exact hfollows
    · exact ⟨[], .nothing ((hrun b s).trans (provisionResolved_of_zero b positive _ _ s))
        ((hrun b.recorded _).trans (provisionResolved_of_zero _ positive _ _ _))⟩

end Calls

/-! ## Runs -/

section Runs

variable {b : Backend σ} {chain : σ → Ledger} {c : Config}

theorem Confined.of_eq {before after : Ledger} (h : after.contents = before.contents) (calls : List CallRecord) :
    Confined c before after calls := by
  have hmarkets : after.markets = before.markets := congrArg Contents.markets h
  have hslots (slot : Slot) : after.slots slot = before.slots slot := congrFun (congrArg Contents.slots h) slot
  exact ⟨hmarkets ▸ List.prefix_rfl, fun slot _ => hslots slot, fun slot hne => absurd (hslots slot) hne,
    fun _ => hslots⟩

/-- A run that is not dry puts markets behind those there were and settles entries for configured markets. -/
theorem apply_changes (keeps : b.Keeps chain) {o : RunOptions} (apply : o.mode = .apply) (c : Config) (s : σ) :
    (chain s).markets <+: (chain (provision b o c s).2).markets ∧
    ∀ slot, (chain (provision b o c s).2).slots slot ≠ (chain s).slots slot →
      ∃ e, c.Produces (chain (provision b o c s).2).markets e ∧ e.slot = slot ∧
        (chain (provision b o c s).2).slots slot = some e.value := by
  cases hres : resolveAll c.tokens c.markets with
  | error e =>
    have hsame : (provision b o c s).2 = s := by
      unfold provision
      split
      · rfl
      · rw [hres]
    rw [hsame]
    exact ⟨List.prefix_rfl, fun slot hne => absurd rfl hne⟩
  | ok rs =>
    rcases provision_prefix keeps.store keeps.registry keeps.factory apply hres s with
      ⟨k, hv⟩ | ⟨es, pre, merged, hpre, hv⟩
    · have hmarkets : (chain (provision b o c s).2).markets = _ := congrArg Contents.markets hv
      have hslots : (chain (provision b o c s).2).slots = _ := congrArg Contents.slots hv
      rw [hmarkets, hslots]
      exact ⟨List.prefix_append _ _, fun slot hne => absurd rfl hne⟩
    · have hmarkets : (chain (provision b o c s).2).markets = registerAll (chain s).markets rs :=
        congrArg Contents.markets hv
      have hslots : (chain (provision b o c s).2).slots = (chain s).slots.settleAll pre := congrArg Contents.slots hv
      rw [hmarkets, hslots]
      refine ⟨List.prefix_append _ _, fun slot hne => ?_⟩
      obtain ⟨e, he, hslot, hvalue⟩ := Slots.settleAll_changed hne
      exact ⟨e, produces_of_mergedEntries hres merged (hpre.subset he), hslot, hvalue⟩

/-- **Whatever calls fail, and where no call fails, a run is confined to what is configured: it keeps the markets in
their places, changes no slot but those of entries for configured markets, which then hold the value of such an entry,
and changes none before the store is called.** -/
theorem run_confined (keeps : b.Keeps chain) (o : RunOptions) (c : Config) (s : σ) :
    ∃ result after calls, provision b o c s = (result, after) ∧
      provision b.recorded o c ⟨s, []⟩ = (result, ⟨after, calls⟩) ∧ Confined c (chain s) (chain after) calls := by
  obtain ⟨calls, hmade⟩ := provision_made b o c s
  obtain ⟨full, ending, hfollows⟩ := hmade.follows
  refine ⟨(provision b o c s).1, (provision b o c s).2, calls, rfl, hmade.recorded, ?_⟩
  cases hmode : o.mode with
  | dryRun =>
    have hsame := hfollows.keeps_eq (f := fun s => (chain s).contents) CallRecord.isChange_failed
      keeps.contents_read (hmade.dry hmode)
    exact .of_eq hsame calls
  | apply =>
    obtain ⟨hmarkets, hchanged⟩ := apply_changes keeps hmode c s
    refine ⟨hmarkets, fun slot hnone => ?_, hchanged, fun last slot => ?_⟩
    · by_contra hne
      obtain ⟨e, he, hslot, -⟩ := hchanged slot hne
      exact hnone e he hslot
    · have hsame := hfollows.keeps_eq (f := fun s => (chain s).slots) CallRecord.isStoreCall_failed
        keeps.slots_other (hmade.last last)
      exact congrFun hsame slot

end Runs

/-! ## Faults in the middle of a run -/

/-- A chain that refuses the write of an amount. -/
def refusingCollateral : Backend (Faulty Ledger) :=
  Ledger.backend.withFaults { failingWrites := [collateralEntry.key], failingPage := some 5 }

/-- Also then the run is confined to the two markets of its configuration. -/
theorem refused_run_confined : refusingCollateral.Keeps (fun f => f.state) ∧ ∃ result after calls,
    provision refusingCollateral { pageSize := 3 } twoMarketsConfig { state := oneMarket } = (result, after) ∧
    provision refusingCollateral.recorded { pageSize := 3 } twoMarketsConfig ⟨{ state := oneMarket }, []⟩ =
      (result, ⟨after, calls⟩) ∧ Confined twoMarketsConfig oneMarket after.state calls := by
  have keeps : refusingCollateral.Keeps fun f => f.state := Backend.keeps_withFaults rfl
  exact ⟨keeps, run_confined keeps { pageSize := 3 } twoMarketsConfig { state := oneMarket }⟩

end MarketSync

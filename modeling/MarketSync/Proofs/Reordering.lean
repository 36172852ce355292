import Mathlib.Data.List.Perm.Basic
import MarketSync.Proofs.DryRun
import MarketSync.Proofs.Outcomes
import MarketSync.Proofs.ReadBack
import MarketSync.Proofs.Resolution

/-!
# Definitions in another order

Definitions of different markets have entries for different slots, unless two keys collide. So it makes no
difference to the slots in which order they are settled, and none to the number of those that change. Nor does it
matter to a market in which order markets are created: its token is fixed by its triple and its type.

* `resolveAll_perm`, `registerAll_perm` — definitions in another order resolve and create in another order.
* `definitionEntries_of_perm` — each definition has the same entries for the markets that are then registered.
* `apart_definitionEntries` — definitions of different markets name different slots.
* `Slots.settleAll_flatMap_perm`, `Slots.length_changed_perm` — what is left in slots and how many of them change.
* `order_irrelevant` — runs for definitions in another order agree.
-/

namespace MarketSync

/-! ## Lists in another order -/

section Lists
variable {α β : Type}

theorem find?_key_perm [DecidableEq β] (key : α → β) {l l' : List α} (h : l'.Perm l) (nodup : (l.map key).Nodup)
    (k : β) : l'.find? (fun x => key x = k) = l.find? (fun x => key x = k) := by
  refine Option.ext fun a => ?_
  rw [find?_key_iff key ((h.map key).nodup_iff.2 nodup), find?_key_iff key nodup, h.mem_iff]

/-- Lists that stand one after another, at most one of them not empty, can stand in any order. -/
theorem flatMap_eq_of_perm {f : α → List β} {l l' : List α} (h : l'.Perm l)
    (alone : l.Pairwise fun a b => f a = [] ∨ f b = []) : l'.flatMap f = l.flatMap f := by
  induction h with
  | nil => rfl
  | cons a _ ih => rw [List.flatMap_cons, List.flatMap_cons, ih (List.pairwise_cons.1 alone).2]
  | swap a b l =>
    simp only [List.flatMap_cons, ← List.append_assoc]
    have hone := (List.pairwise_cons.1 alone).1 b (by simp)
    rcases hone with h | h <;> simp [h]
  | @trans l₁ l₂ l₃ h₁₂ h₂₃ ih₁₂ ih₂₃ =>
    have hsymm {a b : α} (h : f a = [] ∨ f b = []) : f b = [] ∨ f a = [] := h.symm
    rw [ih₁₂ ((h₂₃.pairwise_iff hsymm).2 alone), ih₂₃ alone]

end Lists

/-! ## Entries for different slots -/

/-- No slot is named by entries of both lists. -/
def Apart (es es' : List Entry) : Prop :=
  ∀ e ∈ es, ∀ e' ∈ es', e.slot ≠ e'.slot

namespace Slots

variable {α : Type} {entries : α → List Entry}

theorem changed_append (f : Slots) (es es' : List Entry) :
    f.changed (es ++ es') = f.changed es ++ (f.settleAll es).changed es' := by
  induction es generalizing f with
  | nil => rfl
  | cons e es ih => rw [List.cons_append, changed_cons, changed_cons, ih, settleAll_cons, List.append_assoc]

/-- Which entries change their slots depends on nothing but the slots that they name. -/
theorem changed_congr {f f' : Slots} {es : List Entry} (h : ∀ e ∈ es, f e.slot = f' e.slot) :
    f.changed es = f'.changed es := by
  induction es generalizing f f' with
  | nil => rfl
  | cons e es ih =>
    obtain ⟨he, hes⟩ := List.forall_mem_cons.1 h
    have hholds : f.Holds e ↔ f'.Holds e := by rw [Holds, Holds, read, read, he]
    have hrest : (f.put e).changed es = (f'.put e).changed es := by
      refine ih fun e' he' => ?_
      simp only [put, hes e' he']
    simp only [changed, hholds, ih hes, hrest]

/-- Of lists with different slots each changes what it would change alone. -/
theorem changed_flatMap (f : Slots) {l : List α} (apart : l.Pairwise fun a b => Apart (entries a) (entries b)) :
    f.changed (l.flatMap entries) = l.flatMap fun a => f.changed (entries a) := by
  induction l with
  | nil => rfl
  | cons a l ih =>
    obtain ⟨ha, hl⟩ := List.pairwise_cons.1 apart
    have hrest : (f.settleAll (entries a)).changed (l.flatMap entries) = f.changed (l.flatMap entries) := by
      refine changed_congr fun e' he' => settleAll_of_not_named fun e he => ?_
      obtain ⟨b, hb, hmem⟩ := List.mem_flatMap.1 he'
      exact ha b hb e he e' hmem
    rw [List.flatMap_cons, List.flatMap_cons, changed_append, hrest, ih hl]

/-- **As many entries change their slots in any order of lists with different slots.** -/
theorem length_changed_perm (f : Slots) {l l' : List α} (h : l'.Perm l)
    (apart : l.Pairwise fun a b => Apart (entries a) (entries b)) :
    (f.changed (l'.flatMap entries)).length = (f.changed (l.flatMap entries)).length := by
  have hsymm {a b : α} (h : Apart (entries a) (entries b)) : Apart (entries b) (entries a) :=
    fun e he e' he' => (h e' he' e he).symm
  have apart' : l'.Pairwise fun a b => Apart (entries a) (entries b) := (h.pairwise_iff hsymm).2 apart
  rw [changed_flatMap f apart, changed_flatMap f apart']
  exact (h.flatMap_right _).length_eq

theorem valuesFor_flatMap (slot : Slot) (l : List α) :
    valuesFor slot (l.flatMap entries) = l.flatMap fun a => valuesFor slot (entries a) := by
  simp only [valuesFor, List.filter_flatMap, List.map_flatMap]

/-- **Lists with different slots leave the same in the slots in any order.** -/
theorem settleAll_flatMap_perm (f : Slots) {l l' : List α} (h : l'.Perm l)
    (apart : l.Pairwise fun a b => Apart (entries a) (entries b)) :
    f.settleAll (l'.flatMap entries) = f.settleAll (l.flatMap entries) := by
  funext slot
  rw [settleAll_apply, settleAll_apply, valuesFor_flatMap, valuesFor_flatMap, flatMap_eq_of_perm h]
  refine apart.imp fun {a b} hab => ?_
  -- a slot that both lists name
  by_contra hboth
  obtain ⟨ha, hb⟩ := not_or.1 hboth
  obtain ⟨v, hv⟩ := List.exists_mem_of_ne_nil _ ha
  obtain ⟨v', hv'⟩ := List.exists_mem_of_ne_nil _ hb
  obtain ⟨e, he, hs, -⟩ := mem_valuesFor.1 hv
  obtain ⟨e', he', hs', -⟩ := mem_valuesFor.1 hv'
  exact hab e he e' he' (hs.trans hs'.symm)

end Slots

/-! ## Definitions in another order -/

/-- What a definition resolves to depends on nothing but the addresses of its symbols. -/
theorem Definition.resolve_congr {tokens tokens' : TokenRegistry}
    (same : ∀ symbol, tokens'.get? symbol = tokens.get? symbol) (d : Definition) :
    d.resolve tokens' = d.resolve tokens := by
  have hfind (symbol : String) : TokenRegistry.find tokens' symbol = TokenRegistry.find tokens symbol := by
    rw [TokenRegistry.find, TokenRegistry.find, same]
  simp only [resolve, resolveIndex, hfind]

/-- **Definitions in another order resolve in another order.** -/
theorem resolveAll_perm {tokens tokens' : TokenRegistry} (same : ∀ symbol, tokens'.get? symbol = tokens.get? symbol)
    {ds ds' : List Definition} (perm : ds'.Perm ds) {rs : List Resolved} (resolved : resolveAll tokens ds = .ok rs) :
    ∃ rs', resolveAll tokens' ds' = .ok rs' ∧ rs'.Perm rs := by
  obtain ⟨rs', hrs', hperm⟩ := List.perm_comp_forall₂ perm (resolveAll_eq_ok_iff.1 resolved)
  refine ⟨rs', resolveAll_eq_ok_iff.2 (hrs'.imp fun d r h => ?_), hperm⟩
  rwa [Definition.resolve_congr same]

section Registration

variable {rs rs' : List Resolved} {ms : List Listing}

theorem creationType_perm (perm : rs'.Perm rs) (distinct : (rs.map (·.triple)).Nodup) :
    creationType rs' = creationType rs := by
  funext t
  rw [creationType, creationType, find?_key_perm (·.triple) perm distinct]

theorem unregistered_perm (ms : List Listing) {ts ts' : List Triple} (perm : ts'.Perm ts) :
    (unregistered ms ts').Perm (unregistered ms ts) := by
  refine (List.perm_ext_iff_of_nodup (nodup_unregistered ms ts') (nodup_unregistered ms ts)).2 fun t => ?_
  rw [mem_unregistered, mem_unregistered, perm.mem_iff]

theorem creations_perm (ms : List Listing) (perm : rs'.Perm rs) (distinct : (rs.map (·.triple)).Nodup) :
    (creations rs' (unregistered ms (rs'.map (·.triple)))).Perm
      (creations rs (unregistered ms (rs.map (·.triple)))) := by
  rw [creations, creations, creationType_perm perm distinct]
  exact (unregistered_perm ms (perm.map _)).map _

/-- **Markets are created in another order.** -/
theorem registerAll_perm (ms : List Listing) (perm : rs'.Perm rs) (distinct : (rs.map (·.triple)).Nodup) :
    (registerAll ms rs').Perm (registerAll ms rs) :=
  (creations_perm ms perm distinct).append_left ms

theorem find?_registerAll_perm (ms : List Listing) (perm : rs'.Perm rs) (distinct : (rs.map (·.triple)).Nodup)
    (t : Triple) : ((registerAll ms rs').find? fun m => m.triple = t) =
      (registerAll ms rs).find? fun m => m.triple = t := by
  have hnodup : ((creations rs (unregistered ms (rs.map (·.triple)))).map (·.triple)).Nodup := by
    rw [map_triple_creations]
    exact nodup_unregistered ms _
  rw [registerAll, registerAll, List.find?_append, List.find?_append,
    find?_key_perm (·.triple) (creations_perm ms perm distinct) hnodup]

/-- **Each definition has the same entries.** -/
theorem definitionEntries_of_perm (g : GeneralSection) (ms : List Listing) (perm : rs'.Perm rs)
    (distinct : (rs.map (·.triple)).Nodup) :
    definitionEntries g (registerAll ms rs') = definitionEntries g (registerAll ms rs) := by
  funext r
  rw [definitionEntries, definitionEntries, find?_registerAll_perm ms perm distinct]

/-- **Definitions of different markets name different slots, unless two keys collide.** -/
theorem apart_definitionEntries {g : GeneralSection} (distinct : (rs.map (·.triple)).Nodup) (tokens : TokensApart ms)
    (hcollide : ¬ Key.SomeCollide (KeyInUse g ms rs)) :
    rs.Pairwise fun r r' => Apart (definitionEntries g ms r) (definitionEntries g ms r') := by
  refine (List.pairwise_map.1 distinct).imp_of_mem fun {r r'} hr hr' hne e he e' he' hslot => ?_
  obtain ⟨m, k, hm, hc, hkey⟩ := exists_entry_of_definition he
  obtain ⟨m', k', hm', hc', hkey'⟩ := exists_entry_of_definition he'
  -- the markets have different tokens, so the keys are different, too
  have htriple : m.triple ≠ m'.triple := by
    rw [(mem_of_find_triple hm).2, (mem_of_find_triple hm').2]
    exact hne
  have hk : k ≠ k' := by
    intro hk
    have htoken := tokens m (mem_of_find_triple hm).1 m' (mem_of_find_triple hm').1 htriple
    rw [← hc.market_eq, ← hc'.market_eq, hk] at htoken
    exact htoken rfl
  have hsame : k.slot = k'.slot := by rw [← hkey, ← hkey', Entry.key_eq_of_slot_eq hslot]
  exact hk (Key.eq_of_slot_eq hcollide ⟨r, hr, m, _, hm, hc⟩ ⟨r', hr', m', _, hm', hc'⟩ hsame)

end Registration

/-! ## Runs for definitions in another order -/

/-- Reports that agree up to the order in which created markets are listed. -/
structure Report.Agree (report report' : Report) : Prop where
  skipped : report'.skipped = report.skipped
  existing : report'.marketsExisting = report.marketsExisting
  created : report'.marketsCreated.Perm report.marketsCreated
  planned : report'.marketsPlanned = report.marketsPlanned
  synced : report'.marketsSynced = report.marketsSynced
  /-- Reads, writes and entries found unchanged. -/
  writer : report'.writer = report.writer
  pending : report'.pendingWrites = report.pendingWrites

/-- Runs that both succeed with reports that agree or both fail with one error. -/
inductive SameOutcome : Except ProvisionError Report → Except ProvisionError Report → Prop
  | ok {report report'} (agree : report.Agree report') : SameOutcome (.ok report) (.ok report')
  | error (e) : SameOutcome (.error e) (.error e)

section Reports

variable {rs rs' : List Resolved} {general : GeneralSection}

theorem countTriples_perm {ts ts' : List Triple} (perm : ts'.Perm ts) : countTriples ts' = countTriples ts := by
  refine ((List.perm_ext_iff_of_nodup (nodup_eraseDups ts') (nodup_eraseDups ts)).2 fun t => ?_).length_eq
  rw [List.mem_eraseDups, List.mem_eraseDups, perm.mem_iff]

theorem length_groupsOf_perm {ms ms' : List Listing} (markets : ms'.Perm ms) (perm : rs'.Perm rs) :
    (groupsOf general ms' rs').length = (groupsOf general ms rs).length := by
  rw [groupsOf, groupsOf, List.length_map, List.length_map]
  refine ((List.perm_ext_iff_of_nodup (nodup_registered ms' _) (nodup_registered ms _)).2 fun t => ?_).length_eq
  rw [mem_registered, mem_registered, (perm.map _).mem_iff, (markets.map _).mem_iff]

/-- **Full reports agree for definitions in another order.** -/
theorem fullReport_perm {before : Contents} (perm : rs'.Perm rs) (distinct : (rs.map (·.triple)).Nodup)
    (apart : rs.Pairwise fun r r' => Apart (definitionEntries general (registerAll before.markets rs) r)
      (definitionEntries general (registerAll before.markets rs) r')) :
    (fullReport general before rs).Agree (fullReport general before rs') := by
  have hcreated := unregistered_perm before.markets (perm.map (·.triple))
  have hentries := entries_groupsOf_of_nodup general (registerAll before.markets rs) distinct
  have hentries' := entries_groupsOf_of_nodup general (registerAll before.markets rs')
    ((perm.map (·.triple)).nodup_iff.2 distinct)
  rw [definitionEntries_of_perm general before.markets perm distinct] at hentries'
  refine ⟨rfl, ?_, hcreated, rfl, length_groupsOf_perm (registerAll_perm _ perm distinct) perm, ?_, rfl⟩
  · simp only [fullReport, countTriples_perm (perm.map _), hcreated.length_eq]
  · simp only [fullReport, hentries, hentries', (perm.flatMap_right _).length_eq,
      Slots.length_changed_perm before.slots perm apart]

end Reports

/-- **Runs for resolved definitions in another order leave the same slots and, up to their order, the same markets.
Their reports agree, or both fail alike.** -/
theorem provisionResolved_perm (general : GeneralSection) {rs rs' : List Resolved} {o : RunOptions} {l : Ledger}
    (perm : rs'.Perm rs) (distinct : (rs.map (·.triple)).Nodup) (apply : o.mode = .apply) (free : l.reverting = [])
    (apart : rs.Pairwise fun r r' => Apart (definitionEntries general (registerAll l.markets rs) r)
      (definitionEntries general (registerAll l.markets rs) r')) :
    ∃ result after result' after',
      provisionResolved Ledger.backend o general rs l = (result, after) ∧
      provisionResolved Ledger.backend o general rs' l = (result', after') ∧
      after'.slots = after.slots ∧ after'.markets.Perm after.markets ∧ SameOutcome result result' ∧
      (Fits o.pageSize (registerAll l.markets rs).length → ∃ report, result = .ok report) := by
  have hmarkets := registerAll_perm l.markets perm distinct
  have distinct' : (rs'.map (·.triple)).Nodup := (perm.map _).nodup_iff.2 distinct
  by_cases fits : Fits o.pageSize (registerAll l.markets rs).length
  · have fits' : Fits o.pageSize (registerAll l.markets rs').length := by rwa [hmarkets.length_eq]
    obtain ⟨after, hrun, hlist, hslots⟩ := provisionResolved_fits Ledger.backend_works apply general rs l fits free
    obtain ⟨after', hrun', hlist', hslots'⟩ :=
      provisionResolved_fits Ledger.backend_works apply general rs' l fits' free
    rw [entries_groupsOf_of_nodup _ _ distinct] at hslots
    rw [entries_groupsOf_of_nodup _ _ distinct', definitionEntries_of_perm general _ perm distinct] at hslots'
    refine ⟨_, after, _, after', hrun, hrun', ?_, ?_, .ok (fullReport_perm perm distinct apart), fun _ => ⟨_, rfl⟩⟩
    · exact hslots'.trans ((l.slots.settleAll_flatMap_perm perm apart).trans hslots.symm)
    · rw [show after.markets = _ from hlist, show after'.markets = _ from hlist']
      exact hmarkets
  · have unfit' : ¬ Fits o.pageSize (registerAll l.markets rs').length := by rwa [hmarkets.length_eq]
    obtain ⟨after, hrun, hslots, hlist⟩ := provisionResolved_unfit Ledger.backend_works apply general rs l fits
    obtain ⟨after', hrun', hslots', hlist'⟩ := provisionResolved_unfit Ledger.backend_works apply general rs' l unfit'
    refine ⟨_, after, _, after', hrun, hrun', hslots'.trans hslots.symm, ?_, .error _, fun h => absurd h fits⟩
    rw [show after.markets = _ from hlist, show after'.markets = _ from hlist']
    split
    · exact hmarkets
    · exact .refl _

/-- **Runs for definitions of different markets, in one order or another, leave the same slots and, up to their order,
the same markets, and either their reports agree or both fail alike; unless two of the keys in use collide. They
succeed if pages have a size and there are fewer than 2^63 markets.** -/
theorem order_irrelevant {c c' : Config} (tokens : ∀ symbol, c'.tokens.get? symbol = c.tokens.get? symbol)
    (general : c'.general = c.general) (perm : c'.markets.Perm c.markets) {rs : List Resolved}
    (resolved : resolveAll c.tokens c.markets = .ok rs) (distinct : (rs.map (·.triple)).Nodup) {o : RunOptions}
    (apply : o.mode = .apply) {l : Ledger} (free : l.reverting = [])
    (apart : TokensApart (registerAll l.markets rs)) :
    Key.SomeCollide (KeyInUse c.general (registerAll l.markets rs) rs) ∨ ∃ result after result' after',
      provision Ledger.backend o c l = (result, after) ∧ provision Ledger.backend o c' l = (result', after') ∧
      (∀ key, after'.peekUint key = after.peekUint key) ∧ (∀ key, after'.peekBytes32 key = after.peekBytes32 key) ∧
      after'.markets.Perm after.markets ∧ SameOutcome result result' ∧
      (0 < o.pageSize → (registerAll l.markets rs).length < 2 ^ 63 → ∃ report, result = .ok report) := by
  by_cases hcollide : Key.SomeCollide (KeyInUse c.general (registerAll l.markets rs) rs)
  · exact Or.inl hcollide
  refine Or.inr ?_
  by_cases hnil : c.markets = []
  · have hnil' : c'.markets = [] := by
      rw [hnil] at perm
      exact perm.eq_nil
    exact ⟨_, l, _, l, provision_of_nil _ o hnil l, provision_of_nil _ o hnil' l, fun _ => rfl, fun _ => rfl, .refl _,
      .ok ⟨rfl, rfl, .refl _, rfl, rfl, rfl, rfl⟩, fun _ _ => ⟨_, rfl⟩⟩
  · have hnil' : c'.markets ≠ [] := by
      intro h
      rw [h] at perm
      exact hnil perm.symm.eq_nil
    obtain ⟨rs', resolved', hperm⟩ := resolveAll_perm tokens perm resolved
    obtain ⟨result, after, result', after', hrun, hrun', hslots, hmarkets, houtcome, hok⟩ :=
      provisionResolved_perm c.general hperm distinct apply free (apart_definitionEntries distinct apart hcollide)
    obtain ⟨huints, hwords⟩ := (Ledger.slots_inj_iff after' after).1 hslots
    refine ⟨result, after, result', after', ?_, ?_, huints, hwords, hmarkets, houtcome,
      fun positive count => hok (.of_lt positive count)⟩
    · rw [provision_of_resolved _ o hnil resolved, hrun]
    · rw [provision_of_resolved _ o hnil' resolved', general, hrun']

/-! ## Two definitions in both orders -/

/-- A definition for a market that is there and one for a market that is missing. -/
def pair : List Definition := [withCollateral, bareDefinition "WETH" "USDC" none]

def pairConfig (ds : List Definition) : Config where
  general := ⟨none⟩
  tokens := (Table.empty.insert "WETH" 0x11).insert "USDC" 0x22
  markets := ds

def createdPair : Listing := wethUsdc.listing (bareDefinition "WETH" "USDC" none).typeHash

/-- A chain with the other one, whose token is the next address. -/
def pairLedger : Ledger := { Ledger.empty with markets := [⟨createdPair.marketToken + 1, usdcUsdc⟩] }

def pairResolved : List Resolved := [⟨withCollateral, usdcUsdc⟩, ⟨bareDefinition "WETH" "USDC" none, wethUsdc⟩]

theorem registerAll_pair : registerAll pairLedger.markets pairResolved =
    [⟨createdPair.marketToken + 1, usdcUsdc⟩, createdPair] := by
  have hun : unregistered pairLedger.markets (pairResolved.map (·.triple)) = [wethUsdc] := by decide
  rw [registerAll, hun]
  rfl

theorem tokensApart_pair : TokensApart (registerAll pairLedger.markets pairResolved) := by
  have hne : createdPair.marketToken + 1 ≠ createdPair.marketToken := by
    generalize createdPair.marketToken = token
    bv_omega
  rw [registerAll_pair]
  intro m hm m' hm' htriple
  simp only [List.mem_cons, List.not_mem_nil, or_false] at hm hm'
  rcases hm with rfl | rfl <;> rcases hm' with rfl | rfl
  · exact absurd rfl htriple
  · exact hne
  · exact hne.symm
  · exact absurd rfl htriple

/-- The only key in use is that of the collateral factor. -/
theorem not_someCollide_pair (ms : List Listing) : ¬ Key.SomeCollide (KeyInUse ⟨none⟩ ms pairResolved) := by
  have hone (k : Key) (h : KeyInUse ⟨none⟩ ms pairResolved k) :
      ∃ m, (ms.find? fun m => m.triple = usdcUsdc) = some m ∧ k = Param.minCollateralFactor.key m := by
    obtain ⟨r, hr, m, v, hm, hc⟩ := h
    simp only [pairResolved, List.mem_cons, List.not_mem_nil, or_false] at hr
    rcases hr with rfl | rfl
    · refine ⟨m, hm, ?_⟩
      cases hc with
      | @amount p n set => cases p <;> first | rfl | cases set
      | gasLimit set => cases set
      | virtualId set => cases set
    · cases hc with
      | amount set => cases set
      | gasLimit set => cases set
      | virtualId set => cases set
  exact not_someCollide_of_one_key hone

/-- The amount is set and the market created in either order. -/
theorem pair_in_both_orders : ∃ report after report' after',
    provision Ledger.backend {} (pairConfig pair) pairLedger = (.ok report, after) ∧
    provision Ledger.backend {} (pairConfig pair.reverse) pairLedger = (.ok report', after') ∧
    (∀ key, after'.peekUint key = after.peekUint key) ∧ (∀ key, after'.peekBytes32 key = after.peekBytes32 key) ∧
    after'.markets.Perm after.markets ∧ report.Agree report' := by
  have tokens (symbol : String) : (pairConfig pair.reverse).tokens.get? symbol = (pairConfig pair).tokens.get? symbol :=
    rfl
  have resolved : resolveAll (pairConfig pair).tokens (pairConfig pair).markets = .ok pairResolved := rfl
  have count : (registerAll pairLedger.markets pairResolved).length < 2 ^ 63 := by
    rw [registerAll_pair]
    decide
  obtain ⟨result, after, result', after', hrun, hrun', huints, hwords, hmarkets, houtcome, hok⟩ :=
    (order_irrelevant (o := {}) tokens rfl (List.reverse_perm pair) resolved (by decide) rfl rfl
      tokensApart_pair).resolve_left (not_someCollide_pair _)
  obtain ⟨report, rfl⟩ := hok (by decide) count
  cases houtcome with
  | ok agree => exact ⟨_, after, _, after', hrun, hrun', huints, hwords, hmarkets, agree⟩

end MarketSync

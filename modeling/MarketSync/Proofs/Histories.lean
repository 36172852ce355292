import Mathlib.Algebra.Group.Nat.Defs
import Mathlib.Logic.Relation
import MarketSync.Proofs.ExactlyOnce
import MarketSync.Proofs.Protocol

/-!
# Histories of a chain

Whatever happens to a chain in memory comes down to operations on it, one after another. That is so for runs,
too, and for any backend through which they reach the chain: it may fail where it likes, and have a registry
and a factory of its own. So what every operation preserves holds in all histories.

* `provision_steps` — a run is a sequence of calls.
* `Change.cases` — an operation leaves the markets, or it adds one for a new triple and records its creation.
* `History.changes` — a history is a sequence of operations.
* `one_market_per_triple` — no triple ever has two markets, none is ever moved, and the token of each is fixed by
  the creation on record.
-/

namespace MarketSync

/-! ## Runs are sequences of calls -/

section Steps

variable {σ : Type} {b : Backend σ}

/-- A call of a backend takes a state to another one, whatever it answers. -/
def Backend.Step (b : Backend σ) (s s' : σ) : Prop := ∃ call, (b.answer s call).2 = s'

/-- Calls one after another. -/
def Backend.Steps (b : Backend σ) : σ → σ → Prop := Relation.ReflTransGen b.Step

/-- Going through a sequence of calls takes one step for each call that is made. -/
theorem Follows.steps {full calls : List CallRecord} {s s' : σ} {ending : Except ProvisionError Unit}
    (h : Follows b full s calls ending s') : b.Steps s s' := by
  induction h with
  | done => exact .refl
  | @made call _ _ _ _ _ _ _ answered _ ih => exact .head ⟨call, congrArg Prod.snd answered⟩ ih
  | @failed call _ _ _ _ _ answered => exact .single ⟨call, congrArg Prod.snd answered⟩
  | beyond => exact .refl

/-- **A run is a sequence of calls, however it ends.** -/
theorem provision_steps (b : Backend σ) (o : RunOptions) (c : Config) (s : σ) :
    b.Steps s (provision b o c s).2 := by
  unfold provision
  split
  · exact .refl
  split
  · exact .refl
  · rename_i rs _
    by_cases positive : 0 < o.pageSize
    · obtain ⟨new, hrecorded⟩ := provisionResolved_recorded b o c.general rs ⟨s, []⟩
      rw [Recorded.after] at hrecorded
      obtain ⟨full, lookups, ending, -, ⟨calls, -, hfollows⟩, -⟩ :=
        provisionResolved_follows positive c.general rs hrecorded
      exact hfollows.steps
    · -- pages of no size are refused before anything is called
      have hzero : o.pageSize.toNat = 0 := Nat.eq_zero_of_not_pos positive
      have hsnap : takeSnapshot b.registry o.pageSize s = (.error .pageSizeZero, s) := by
        rw [takeSnapshot, enumerate, dif_pos hzero]
      rw [provisionResolved, hsnap]
      exact .refl

end Steps

/-! ## Operations on a chain -/

/-- The triple and the type of a market that a call has created. -/
def CallRecord.created? : CallRecord → Option (Triple × Bytes32)
  | .createMarket t type (some ()) => some (t, type)
  | _ => none

def createdBy (calls : List CallRecord) : List (Triple × Bytes32) := calls.filterMap (·.created?)

theorem createdBy_append (calls : List CallRecord) (call : CallRecord) :
    createdBy (calls ++ [call]) = createdBy calls ++ call.created?.toList := by
  unfold createdBy
  rw [List.filterMap_append]
  cases h : call.created? <;> simp [h]

/-- One operation on a chain that keeps a record of the calls it gets. Seeding it and making its keys refuse
writes are not calls. -/
inductive Change : Recorded Ledger → Recorded Ledger → Prop
  | seedUint (key n r) : Change r { r with state := r.state.seedUint key n }
  | seedBytes32 (key w r) : Change r { r with state := r.state.seedBytes32 key w }
  | revertOn (key r) : Change r { r with state := r.state.revertOn key }
  | resetStats (r) : Change r { r with state := r.state.resetStats }
  | call {r r'} (step : Ledger.backend.recorded.Step r r') : Change r r'

variable {r r' r'' : Recorded Ledger}

/-- **An operation leaves the markets and creates nothing, or it puts one market for a new triple at the end and
that is the creation it records.** -/
theorem Change.cases (h : Change r r') :
    (r'.state.markets = r.state.markets ∧ createdBy r'.calls = createdBy r.calls) ∨
    ∃ t type, t ∉ r.state.markets.map (·.triple) ∧ r'.state.markets = r.state.markets ++ [t.listing type] ∧
      createdBy r'.calls = createdBy r.calls ++ [(t, type)] := by
  -- the record of a call that is no creation
  have hquiet (call : CallRecord) (hc : call.created? = none) :
      createdBy (r.calls ++ [call]) = createdBy r.calls := by
    rw [createdBy_append, hc, Option.toList_none, List.append_nil]
  cases h with
  | seedUint | seedBytes32 | revertOn | resetStats => exact Or.inl ⟨rfl, rfl⟩
  | call step =>
    obtain ⟨call, rfl⟩ := step
    cases call with
    | getUint key => exact Or.inl ⟨rfl, hquiet _ rfl⟩
    | getBytes32 key => exact Or.inl ⟨rfl, hquiet _ rfl⟩
    | setUint key n =>
      refine Or.inl ⟨?_, hquiet _ rfl⟩
      show (r.state.setUint key n).2.markets = _
      unfold Ledger.setUint
      split <;> rfl
    | setBytes32 key w =>
      refine Or.inl ⟨?_, hquiet _ rfl⟩
      show (r.state.setBytes32 key w).2.markets = _
      unfold Ledger.setBytes32
      split <;> rfl
    | getMarkets start stop => exact Or.inl ⟨rfl, hquiet _ rfl⟩
    | createMarket t type =>
      have hcall : Ledger.backend.factory.createMarket t type r.state = _ := Ledger.createMarket_eq t type r.state
      simp only [Backend.answer, recordOf]
      rw [create_recorded, hcall]
      by_cases ht : t ∈ r.state.markets.map (·.triple)
      · rw [if_pos ht]
        exact Or.inl ⟨rfl, hquiet _ rfl⟩
      · rw [if_neg ht]
        exact Or.inr ⟨t, type, ht, rfl, createdBy_append _ _⟩

/-- The markets of a chain are those whose creations are on record, and no two of them have one triple. -/
structure Chronicled (r : Recorded Ledger) : Prop where
  markets_eq : r.state.markets = (createdBy r.calls).map fun created => created.1.listing created.2
  nodup : (r.state.markets.map (·.triple)).Nodup

theorem chronicled_empty : Chronicled ⟨.empty, []⟩ := ⟨rfl, .nil⟩

theorem Change.chronicled (h : Change r r') (hr : Chronicled r) : Chronicled r' := by
  rcases h.cases with ⟨hmarkets, hcalls⟩ | ⟨t, type, ht, hmarkets, hcalls⟩
  · refine ⟨?_, ?_⟩
    · rw [hmarkets, hcalls, hr.markets_eq]
    · rw [hmarkets]
      exact hr.nodup
  · refine ⟨?_, ?_⟩
    · rw [hmarkets, hcalls, hr.markets_eq, List.map_append]
      rfl
    · rw [hmarkets, List.map_append]
      refine List.nodup_append.2 ⟨hr.nodup, by simp, ?_⟩
      intro u hu v hv
      simp only [List.map_cons, List.map_nil, List.mem_singleton] at hv
      subst hv
      exact fun he => ht (he ▸ hu)

theorem Change.markets_prefix (h : Change r r') : r.state.markets <+: r'.state.markets := by
  rcases h.cases with ⟨hmarkets, -⟩ | ⟨t, type, -, hmarkets, -⟩
  · exact hmarkets ▸ List.prefix_rfl
  · exact hmarkets ▸ List.prefix_append _ _

theorem chronicled_of_changes (h : Relation.ReflTransGen Change r r') (hr : Chronicled r) : Chronicled r' := by
  induction h with
  | refl => exact hr
  | tail _ change ih => exact change.chronicled ih

theorem markets_prefix_of_changes (h : Relation.ReflTransGen Change r r') :
    r.state.markets <+: r'.state.markets := by
  induction h with
  | refl => exact List.prefix_rfl
  | tail _ change ih => exact ih.trans change.markets_prefix

/-! ## Histories -/

/-- A backend acts on a chain if its calls change that by operations on it and in no other way. What they answer
is left open, and they need not touch the chain at all. -/
def Backend.ActsOn {σ : Type} (b : Backend σ) (chain : σ → Recorded Ledger) : Prop :=
  ∀ s s', b.Step s s' → Relation.ReflTransGen Change (chain s) (chain s')

/-- All faults act on the chain below, also a list that is served in place of its markets. -/
theorem actsOn_withFaults (plan : FaultPlan) : (Ledger.backend.recorded.withFaults plan).ActsOn (·.state) := by
  rintro f - ⟨call, rfl⟩
  -- either the call goes on to the chain, or the chain does not hear of it
  have hbelow : Relation.ReflTransGen Change f.state (Ledger.backend.recorded.answer f.state call).2 :=
    .single (.call ⟨call, rfl⟩)
  cases call with
  | getUint key | getBytes32 key =>
    simp only [Backend.answer, recordOf, Backend.withFaults, Faulty.read]
    split
    · exact .refl
    · exact hbelow
  | setUint key value | setBytes32 key value =>
    simp only [Backend.answer, recordOf, Backend.withFaults, Faulty.write]
    split
    · exact .refl
    · exact hbelow
  | getMarkets start stop =>
    simp only [Backend.answer, recordOf, Backend.withFaults, Faulty.page]
    split
    · exact .refl
    · split
      · exact .refl
      · exact hbelow
  | createMarket t type =>
    simp only [Backend.answer, recordOf, Backend.withFaults, Faulty.create]
    split
    · exact .refl
    · split
      · exact .refl
      · exact hbelow
    · exact hbelow

/-- What operations on a chain and runs that act on it lead to. The runs may be for any configurations, with any
options and through any backends. -/
inductive History : Recorded Ledger → Recorded Ledger → Prop
  | start (r : Recorded Ledger) : History r r
  | change {r r' r'' : Recorded Ledger} (before : History r r') (change : Change r' r'') : History r r''
  | run {r : Recorded Ledger} {σ : Type} {b : Backend σ} {chain : σ → Recorded Ledger} (acts : b.ActsOn chain) (o : RunOptions)
    (c : Config) (s : σ) (before : History r (chain s)) : History r (chain (provision b o c s).2)

/-- **A history is a sequence of operations.** -/
theorem History.changes (h : History r r') : Relation.ReflTransGen Change r r' := by
  induction h with
  | start => exact .refl
  | change _ change ih => exact ih.tail change
  | run acts o c s _ ih => exact ih.trans ((provision_steps _ o c s).lift' _ acts)

/-! ## Market tokens -/

namespace Bytes

theorem drop_bigEndian (w n : Nat) : ∀ k : Nat, (bigEndian (w + k) n).drop k = bigEndian w n
  | 0 => rfl
  | k + 1 => drop_bigEndian w n k

/-- What is above the bytes of a number does not show in them. -/
theorem bigEndian_of_mod (k n : Nat) : ∀ {w : Nat}, w ≤ k → bigEndian w (n % 256 ^ k) = bigEndian w n
  | 0, _ => rfl
  | w + 1, h => by
    have hpow : 256 ^ k = 256 ^ w * (256 * 256 ^ (k - (w + 1))) := by
      rw [← Nat.mul_assoc, ← Nat.pow_succ, ← Nat.pow_add]
      congr 1
      omega
    have hbyte : UInt8.ofNat (n % 256 ^ k / 256 ^ w) = UInt8.ofNat (n / 256 ^ w) := by
      refine UInt8.toNat_inj.1 ?_
      show n % 256 ^ k / 256 ^ w % 256 = n / 256 ^ w % 256
      rw [hpow, Nat.mod_mul_right_div_self, Nat.mod_mul_right_mod]
    rw [bigEndian, bigEndian, bigEndian_of_mod k n (Nat.le_of_succ_le h)]
    exact congrArg (· :: bigEndian w n) hbyte

end Bytes

/-- The low end of a word is made of its last twenty bytes. -/
theorem Address.bytes_ofWord (w : Bytes32) : (Address.ofWord w).bytes = (wordBytes w).drop 12 := by
  have hnat : (Address.ofWord w).toNat = w.toNat % 256 ^ 20 := BitVec.toNat_setWidth 160 w
  rw [Address.bytes, hnat, Bytes.bigEndian_of_mod 20 w.toNat (Nat.le_refl 20), wordBytes,
    Bytes.drop_bigEndian 20 w.toNat 12]

/-! ## The markets of a history -/

/-- **On a chain that was empty at first no triple ever has two markets, whatever happened to it, and the list of
markets only grows at its end. Each market stems from one creation on record, and its token is made of the last
twenty bytes of the salt for the type given there.** -/
theorem one_market_per_triple (before : History ⟨.empty, []⟩ r) (later : History r r') :
    (r.state.markets.map (·.triple)).Nodup ∧ r.state.markets <+: r'.state.markets ∧
      r.state.markets = ((createdBy r.calls).map fun created => created.1.listing created.2) ∧
      ∀ m ∈ r.state.markets, ∃ type, (m.triple, type) ∈ createdBy r.calls ∧
        (∀ type', (m.triple, type') ∈ createdBy r.calls → type' = type) ∧
        m.marketToken.bytes = (wordBytes (m.triple.salt type)).drop 12 := by
  have hr := chronicled_of_changes before.changes chronicled_empty
  refine ⟨hr.nodup, markets_prefix_of_changes later.changes, hr.markets_eq, ?_⟩
  intro m hm
  rw [hr.markets_eq] at hm
  obtain ⟨⟨t, type⟩, hcreated, rfl⟩ := List.mem_map.1 hm
  have hnodup := hr.nodup
  rw [hr.markets_eq, List.map_map] at hnodup
  have htriples : ((createdBy r.calls).map Prod.fst).Nodup := hnodup
  refine ⟨type, hcreated, ?_, ?_⟩
  · intro type' hcreated'
    exact congrArg Prod.snd (List.inj_on_of_nodup_map htriples hcreated' hcreated rfl)
  · simp only [Triple.listing]
    exact Address.bytes_ofWord (t.salt type)

/-! ## A run that does not see the markets -/

/-- A chain on which one market was created by hand. -/
def byHand : Recorded Ledger :=
  (Ledger.backend.recorded.factory.createMarket wethUsdc (marketTypeOf "b") ⟨.empty, []⟩).2

/-- Its backend with an empty list served in place of its markets. -/
def blind : Backend (Faulty (Recorded Ledger)) :=
  Ledger.backend.recorded.withFaults { served := some ⟨[], none⟩ }

/-- The run takes the market for missing and asks for it once more, with another type. -/
theorem provision_blind : ∃ after, provision blind {} repeatedConfig { state := byHand } =
    (.error (.call (.marketExists wethUsdc)), after) ∧
    after.state.calls = byHand.calls ++ [.createMarket wethUsdc (marketTypeOf "a") none] := by
  have hmissing : (Snapshot.ofListings []).missing (repeatedResolved.map (·.triple)) = [wethUsdc, usdcUsdc] := by
    decide
  have hsnap : takeSnapshot blind.registry 1000 { state := byHand } =
      (.ok (.ofListings []), { state := byHand, pages := 1 }) := takeSnapshot_of_short rfl (by decide)
  have resolved : resolveAll repeatedConfig.tokens repeatedConfig.markets = .ok repeatedResolved := rfl
  let calls := byHand.calls ++ [.createMarket wethUsdc (marketTypeOf "a") none]
  have hcreate : createAll blind.factory (creationType repeatedResolved) [wethUsdc, usdcUsdc]
      { state := byHand, pages := 1 } =
      (.error (.marketExists wethUsdc), { state := ⟨byHand.state, calls⟩, pages := 1, creations := 1 }) := rfl
  refine ⟨{ state := ⟨byHand.state, calls⟩, pages := 1, creations := 1 }, ?_, rfl⟩
  rw [provision_of_resolved _ _ (by simp [repeatedConfig]) resolved]
  simp only [provisionResolved, hsnap, hmissing, createMissing, hcreate]

/-- It gets no second market, and the first one stays as it is. -/
theorem one_market_after_blind_run : ∃ after, provision blind {} repeatedConfig { state := byHand } =
    (.error (.call (.marketExists wethUsdc)), after) ∧
    (after.state.state.markets.map (·.triple)).Nodup ∧
    [wethUsdc.listing (marketTypeOf "b")] <+: after.state.state.markets := by
  have created : History ⟨.empty, []⟩ byHand := .change (.start _) (.call ⟨.createMarket wethUsdc (marketTypeOf "b") none, rfl⟩)
  have ran (r : Recorded Ledger) (before : History r byHand) :
      History r (provision blind {} repeatedConfig { state := byHand }).2.state :=
    .run (actsOn_withFaults _) {} repeatedConfig { state := byHand } before
  obtain ⟨after, hrun, -⟩ := provision_blind
  rw [hrun] at ran
  obtain ⟨-, hprefix, -⟩ := one_market_per_triple created (ran byHand (.start _))
  obtain ⟨hnodup, -⟩ := one_market_per_triple (ran _ created) (.start _)
  exact ⟨after, hrun, hnodup, hprefix⟩

end MarketSync

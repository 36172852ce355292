import MarketSync.Proofs.Convergence

/-!
# Running again after faults

A run that is cut short leaves a first part of its creations, or all of them and a first part of its
entries. Neither takes a later run off its course: it still ends with the same markets and the same slots.

* `OnCourse.attempt` — a run with faults stays on course, wherever they strike.
* `recovery_complete` — after any such runs one without faults ends as if it had been the first.
-/

namespace MarketSync

variable {c : Config} {rs : List Resolved} {es : List Entry}

/-! ## On course -/

/-- Contents from which a run leads to the same markets and slots as from those at the start. -/
structure OnCourse (rs : List Resolved) (es : List Entry) (start v : Contents) : Prop where
  markets_eq : registerAll v.markets rs = registerAll start.markets rs
  slots_eq : v.slots.settleAll es = start.slots.settleAll es
  reverting_eq : v.reverting = start.reverting

theorem OnCourse.refl (rs : List Resolved) (es : List Entry) (v : Contents) : OnCourse rs es v v := ⟨rfl, rfl, rfl⟩

variable {start v : Contents}

/-- Having created some of the missing markets is on course. -/
theorem OnCourse.register (h : OnCourse rs es start v) (k : Nat) : OnCourse rs es start
    (v.register (creations rs ((unregistered v.markets (rs.map (·.triple))).take k))) where
  markets_eq := by rw [Contents.markets_register, registerAll_append, h.markets_eq]
  slots_eq := h.slots_eq
  reverting_eq := h.reverting_eq

/-- Having created all of them and settled a first part of the entries is on course. -/
theorem OnCourse.settle (h : OnCourse rs es start v) {pre : List Entry} (hpre : pre <+: es) :
    OnCourse rs es start ((v.created rs).settleAll pre) where
  markets_eq := by
    rw [Contents.markets_settleAll, Contents.markets_created, registerAll_registerAll, h.markets_eq]
  slots_eq := by
    rw [Contents.slots_settleAll, Contents.slots_created, Slots.settleAll_prefix _ hpre, h.slots_eq]
  reverting_eq := h.reverting_eq

/-- **A run stays on course, whatever its calls do: no matter which of them fail, and also if no creation
has an effect.** -/
theorem OnCourse.provision {σ : Type} {b : Backend σ} {view : σ → Contents} {o : RunOptions}
    (hs : b.store.Conforms view) (hr : b.registry.Conforms view)
    (hf : b.factory.Conforms view ∨ b.factory.Silent view) (apply : o.mode = .apply)
    (resolved : resolveAll c.tokens c.markets = .ok rs)
    (merged : mergedEntries c.general (registerAll start.markets rs) rs = .ok es) {s : σ}
    (h : OnCourse rs es start (view s)) : OnCourse rs es start (view (MarketSync.provision b o c s).2) := by
  rcases provision_prefix hs hr hf apply resolved s with ⟨k, hv⟩ | ⟨es', pre, merged', hpre, hv⟩
  · rw [hv]
    exact h.register k
  · rw [h.markets_eq, merged] at merged'
    obtain rfl := Except.ok.inj merged'
    rw [hv]
    exact h.settle hpre

/-! ## Attempts -/

/-- One run on a ledger with faults. -/
structure Attempt where
  pageSize : UInt64
  plan : FaultPlan
  /-- Pages may fail, but those that are served are the ledger's. -/
  served : plan.served = none

def Attempt.run (c : Config) (a : Attempt) (l : Ledger) : Ledger :=
  (provision (Ledger.backend.withFaults a.plan) { pageSize := a.pageSize } c { state := l }).2.state

def Ledger.afterAttempts (c : Config) : List Attempt → Ledger → Ledger
  | [], l => l
  | a :: as, l => afterAttempts c as (a.run c l)

/-- **An attempt stays on course, wherever its faults strike.** -/
theorem OnCourse.attempt (resolved : resolveAll c.tokens c.markets = .ok rs)
    (merged : mergedEntries c.general (registerAll start.markets rs) rs = .ok es) (a : Attempt) {l : Ledger}
    (h : OnCourse rs es start l.contents) : OnCourse rs es start (a.run c l).contents := by
  have hconf := Ledger.backend_works.conforms
  have hfactory : (Ledger.backend.withFaults a.plan).factory.Conforms (fun f => f.state.contents) ∨
      (Ledger.backend.withFaults a.plan).factory.Silent (fun f => f.state.contents) := by
    by_cases hsilent : a.plan.creation = .silent
    · exact Or.inr (silent_withFaults Ledger.backend Ledger.contents hsilent)
    · exact Or.inl (hconf.factory.withFaults hsilent)
  exact OnCourse.provision (o := { pageSize := a.pageSize }) (s := { state := l }) (hconf.store.withFaults a.plan)
    (hconf.registry.withFaults a.served) hfactory rfl resolved merged h

theorem OnCourse.afterAttempts (resolved : resolveAll c.tokens c.markets = .ok rs)
    (merged : mergedEntries c.general (registerAll start.markets rs) rs = .ok es) :
    ∀ (as : List Attempt) {l : Ledger}, OnCourse rs es start l.contents →
      OnCourse rs es start (l.afterAttempts c as).contents
  | [], _, h => h
  | a :: as, _, h => OnCourse.afterAttempts resolved merged as (h.attempt resolved merged a)

/-- **After runs that are hit by any faults, a run without faults succeeds and ends with the markets and
slots with which it would have ended if it had been the only one.** -/
theorem recovery_complete (resolved : resolveAll c.tokens c.markets = .ok rs) {l : Ledger}
    (free : l.reverting = []) (count : (registerAll l.markets rs).length < 2 ^ 63) (attempts : List Attempt)
    {n n' : UInt64} (positive : 0 < n) (positive' : 0 < n') :
    ∃ report recovered report' direct,
      provision Ledger.backend { pageSize := n } c (l.afterAttempts c attempts) = (.ok report, recovered) ∧
      provision Ledger.backend { pageSize := n' } c l = (.ok report', direct) ∧
      recovered.markets = direct.markets ∧ (∀ key, recovered.peekUint key = direct.peekUint key) ∧
      ∀ key, recovered.peekBytes32 key = direct.peekBytes32 key := by
  obtain ⟨report', direct, es, hrun', hdirect⟩ := provision_succeeds (o := { pageSize := n' })
    Ledger.backend_works rfl positive' resolved l count free
  have hcourse := OnCourse.afterAttempts resolved hdirect.merged attempts (OnCourse.refl rs es l.contents)
  obtain ⟨report, recovered, es', hrun, hrecovered⟩ := provision_succeeds (o := { pageSize := n })
    Ledger.backend_works rfl positive resolved (l.afterAttempts c attempts)
    (by rw [hcourse.markets_eq]; exact count) (hcourse.reverting_eq.trans free)
  have hmerged := hrecovered.merged
  rw [hcourse.markets_eq, hdirect.merged] at hmerged
  obtain rfl := Except.ok.inj hmerged
  have hmarkets : recovered.contents.markets = direct.contents.markets := by
    rw [hrecovered.markets_eq, hdirect.markets_eq, hcourse.markets_eq]
  have hslots : recovered.contents.slots = direct.contents.slots := by
    rw [hrecovered.slots_eq, hdirect.slots_eq, hcourse.slots_eq]
  obtain ⟨huints, hwords⟩ := (Ledger.slots_inj_iff recovered direct).1 hslots
  exact ⟨report, recovered, report', direct, hrun, hrun', hmarkets, huints, hwords⟩

/-- The slot of the caps of `twoCaps` in the market that is created for it. -/
def twoCapsSlot : Bytes32 :=
  ((Param.maxPoolAmount .short).key (twoCapsTriple.listing twoCaps.typeHash)).slot

/-- Runs that fail at a creation, create nothing, and fail at a page, at a write and at a read. -/
def twoCapsAttempts : List Attempt :=
  [⟨1, { creation := .failAt 0 }, rfl⟩, ⟨7, { creation := .silent }, rfl⟩,
    ⟨1000, { failingPage := some 1 }, rfl⟩, ⟨1, { failingWrites := [twoCapsSlot] }, rfl⟩,
    ⟨2, { failingReads := [twoCapsSlot] }, rfl⟩]

/-- Faults in every phase of a run do no harm. -/
theorem recovery_of_twoCaps :
    ∃ report recovered report' direct,
      provision Ledger.backend {} twoCapsConfig (Ledger.empty.afterAttempts twoCapsConfig twoCapsAttempts) =
        (.ok report, recovered) ∧
      provision Ledger.backend {} twoCapsConfig .empty = (.ok report', direct) ∧
      recovered.markets = direct.markets ∧ (∀ key, recovered.peekUint key = direct.peekUint key) ∧
      ∀ key, recovered.peekBytes32 key = direct.peekBytes32 key := by
  have count : (registerAll Ledger.empty.markets [twoCapsResolved]).length < 2 ^ 63 := by
    show (registerAll [] [twoCapsResolved]).length < 2 ^ 63
    rw [registerAll_twoCaps, List.length_singleton]
    decide
  exact recovery_complete resolveAll_twoCaps rfl count twoCapsAttempts (by decide) (by decide)

end MarketSync

import MarketSync.Chain.Faults
import MarketSync.Chain.Ledger
import MarketSync.Chain.Recorder
import MarketSync.Proofs.Slots
import MarketSync.Sync.Writer

/-!
# Backends that keep their contract

A backend is seen through a view of its state: the markets, the slots and the keys that refuse writes.
It *conforms* if reads and pages tell what the view holds, a write or creation that succeeds does what
it says, and a call that fails changes nothing. It *works* if moreover no call fails without a reason.

* `Ledger.backend_works` — the chain in memory works.
* `Store.Conforms.withFaults`, `Registry.Conforms.withFaults`, `Factory.Conforms.withFaults` — a backend
  with faults conforms, except where creations silently do nothing (`silent_withFaults`).
-/

namespace MarketSync

structure Contents where
  markets : List Listing
  slots : Slots
  /-- The keys that refuse writes. -/
  reverting : List Bytes32

namespace Contents

def put (c : Contents) (e : Entry) : Contents := { c with slots := c.slots.put e }

def settleAll (c : Contents) (es : List Entry) : Contents := { c with slots := c.slots.settleAll es }

def register (c : Contents) (ms : List Listing) : Contents := { c with markets := c.markets ++ ms }

@[simp] theorem markets_settleAll (c : Contents) (es : List Entry) : (c.settleAll es).markets = c.markets := rfl
@[simp] theorem slots_settleAll (c : Contents) (es : List Entry) :
    (c.settleAll es).slots = c.slots.settleAll es := rfl

@[simp] theorem markets_register (c : Contents) (ms : List Listing) :
    (c.register ms).markets = c.markets ++ ms := rfl

@[simp] theorem settleAll_nil (c : Contents) : c.settleAll [] = c := rfl

@[simp] theorem register_nil (c : Contents) : c.register [] = c := by
  rw [register, List.append_nil]

theorem register_register (c : Contents) (ms news : List Listing) :
    (c.register ms).register news = c.register (ms ++ news) := by
  simp only [register, List.append_assoc]

end Contents

/-- The method that writes values of a kind. -/
def SlotValue.setter : SlotValue → Method
  | .uint _ => .setUint
  | .bytes32 _ => .setBytes32

variable {σ : Type}

/-! ## Contracts -/

/-- Reads tell what a slot holds and writes set it; a write that fails changes nothing. -/
structure Store.Conforms (store : Store σ) (view : σ → Contents) : Prop where
  view_present : ∀ e s, view (store.present e s).2 = view s
  present_ok : ∀ {e s v}, (store.present e s).1 = .ok v → v = (view s).slots.read e.slot
  put_ok : ∀ {e s}, (store.put e s).1 = .ok () → e.key ∉ (view s).reverting ∧
    view (store.put e s).2 = (view s).put e
  put_error : ∀ {e s err}, (store.put e s).1 = .error err → view (store.put e s).2 = view s

/-- Moreover no read fails, and a write fails only at a key that refuses writes. -/
structure Store.Works (store : Store σ) (view : σ → Contents) : Prop extends
    Store.Conforms store view where
  present_succeeds : ∀ e s, ∃ v, (store.present e s).1 = .ok v
  put_succeeds : ∀ {e s}, e.key ∉ (view s).reverting → (store.put e s).1 = .ok ()
  put_reverts : ∀ {e s err}, (store.put e s).1 = .error err → err = .slotReverted e.value.setter e.key

/-- A page holds the markets at its positions. -/
structure Registry.Conforms (registry : Registry σ) (view : σ → Contents) : Prop where
  view_page : ∀ start stop s, view (registry.getMarkets start stop s).2 = view s
  page_ok : ∀ {start stop s page}, (registry.getMarkets start stop s).1 = .ok page →
    page = ((view s).markets.take stop.toNat).drop start.toNat

/-- Moreover no page fails. -/
structure Registry.Works (registry : Registry σ) (view : σ → Contents) : Prop extends
    Registry.Conforms registry view where
  page_succeeds : ∀ start stop s, ∃ page, (registry.getMarkets start stop s).1 = .ok page

/-- A creation puts a new market at the end; one that fails changes nothing. -/
structure Factory.Conforms (factory : Factory σ) (view : σ → Contents) : Prop where
  create_ok : ∀ {t type s}, (factory.createMarket t type s).1 = .ok () →
    view (factory.createMarket t type s).2 = (view s).register [t.listing type]
  create_error : ∀ {t type s err}, (factory.createMarket t type s).1 = .error err →
    view (factory.createMarket t type s).2 = view s

/-- Moreover the creation of a triple without a market succeeds. -/
structure Factory.Works (factory : Factory σ) (view : σ → Contents) : Prop extends
    Factory.Conforms factory view where
  create_succeeds : ∀ {t type s}, t ∉ (view s).markets.map (·.triple) →
    (factory.createMarket t type s).1 = .ok ()

/-- Creations have no effect, whatever they answer. -/
def Factory.Silent (factory : Factory σ) (view : σ → Contents) : Prop :=
  ∀ t type s, view (factory.createMarket t type s).2 = view s

/-- Store, registry and factory conform to one view. -/
structure Backend.Conforms (b : Backend σ) (view : σ → Contents) : Prop where
  store : b.store.Conforms view
  registry : b.registry.Conforms view
  factory : b.factory.Conforms view

/-- Store, registry and factory work for one view. -/
structure Backend.Works (b : Backend σ) (view : σ → Contents) : Prop where
  store : b.store.Works view
  registry : b.registry.Works view
  factory : b.factory.Works view

theorem Backend.Works.conforms {b : Backend σ} {view : σ → Contents} (h : b.Works view) :
    b.Conforms view :=
  ⟨h.store.toConforms, h.registry.toConforms, h.factory.toConforms⟩

/-! ## The chain in memory -/

namespace Ledger

def slots (l : Ledger) : Slots
  | .uint key => (l.peekUint key).map .uint
  | .bytes32 key => (l.peekBytes32 key).map .bytes32

/-- What a ledger holds; its counters are left out. -/
def contents (l : Ledger) : Contents := ⟨l.markets, l.slots, l.reverting⟩

theorem slots_inj_iff (l l' : Ledger) : l.slots = l'.slots ↔
    (∀ key, l.peekUint key = l'.peekUint key) ∧ ∀ key, l.peekBytes32 key = l'.peekBytes32 key := by
  constructor
  · intro h
    refine ⟨fun key => ?_, fun key => ?_⟩
    · exact Option.map_injective (fun _ _ e => SlotValue.uint.inj e) (congrFun h (.uint key))
    · exact Option.map_injective (fun _ _ e => SlotValue.bytes32.inj e) (congrFun h (.bytes32 key))
  · rintro ⟨hu, hw⟩
    funext s
    cases s with
    | uint key => exact congrArg (Option.map SlotValue.uint) (hu key)
    | bytes32 key => exact congrArg (Option.map SlotValue.bytes32) (hw key)

theorem present_eq (e : Entry) (l : Ledger) : backend.store.present e l =
    (.ok (l.slots.read e.slot), { l with stats.reads := l.stats.reads + 1 }) := by
  obtain ⟨key, value, label⟩ := e
  cases value with
  | uint n =>
    simp only [Store.present, backend, getUint, Entry.slot, SlotValue.slot, Slots.read, slots, Slot.zero]
    cases l.peekUint key <;> rfl
  | bytes32 w =>
    simp only [Store.present, backend, getBytes32, Entry.slot, SlotValue.slot, Slots.read, slots, Slot.zero]
    cases l.peekBytes32 key <;> rfl

theorem slots_seedUint (l : Ledger) (key : Bytes32) (n : Uint256) (s : Slot) :
    (l.seedUint key n).slots s = if s = .uint key then some (.uint n) else l.slots s := by
  cases s with
  | uint k =>
    by_cases h : k = key <;> simp [slots, seedUint, peekUint, h]
  | bytes32 k => simp [slots, seedUint, peekBytes32]

theorem slots_seedBytes32 (l : Ledger) (key w : Bytes32) (s : Slot) :
    (l.seedBytes32 key w).slots s = if s = .bytes32 key then some (.bytes32 w) else l.slots s := by
  cases s with
  | uint k => simp [slots, seedBytes32, peekUint]
  | bytes32 k =>
    by_cases h : k = key <;> simp [slots, seedBytes32, peekBytes32, h]

theorem put_of_mem {e : Entry} {l : Ledger} (h : e.key ∈ l.reverting) :
    backend.store.put e l = (.error (.slotReverted e.value.setter e.key), l) := by
  obtain ⟨key, value, label⟩ := e
  cases value with
  | uint n => simpa [Store.put, backend, setUint, SlotValue.setter] using h
  | bytes32 w => simpa [Store.put, backend, setBytes32, SlotValue.setter] using h

theorem put_of_not_mem {e : Entry} {l : Ledger} (h : e.key ∉ l.reverting) :
    ∃ l', backend.store.put e l = (.ok (), l') ∧
      l'.contents = l.contents.put e := by
  obtain ⟨key, value, label⟩ := e
  have hk : key ∉ l.reverting := h
  cases value with
  | uint n =>
    refine ⟨{ l.seedUint key n with stats.writes := l.stats.writes + 1 }, ?_, ?_⟩
    · simp [Store.put, backend, setUint, hk]
    · simp only [contents, Contents.put, Contents.mk.injEq]
      exact ⟨rfl, funext (slots_seedUint l key n), rfl⟩
  | bytes32 w =>
    refine ⟨{ l.seedBytes32 key w with stats.writes := l.stats.writes + 1 }, ?_, ?_⟩
    · simp [Store.put, backend, setBytes32, hk]
    · simp only [contents, Contents.put, Contents.mk.injEq]
      exact ⟨rfl, funext (slots_seedBytes32 l key w), rfl⟩

theorem store_works : backend.store.Works contents where
  view_present e l := by
    rw [present_eq]
    rfl
  present_ok {e l v} h := by
    rw [present_eq] at h
    exact (Except.ok.inj h).symm
  put_ok {e l} h := by
    by_cases hk : e.key ∈ l.reverting
    · rw [put_of_mem hk] at h
      cases h
    · obtain ⟨l', hp, hl'⟩ := put_of_not_mem hk
      rw [hp]
      exact ⟨hk, hl'⟩
  put_error {e l err} h := by
    by_cases hk : e.key ∈ l.reverting
    · rw [put_of_mem hk]
    · obtain ⟨l', hp, -⟩ := put_of_not_mem hk
      rw [hp] at h
      cases h
  present_succeeds e l := ⟨_, by rw [present_eq]⟩
  put_succeeds {e l} h := by
    obtain ⟨l', hp, -⟩ := put_of_not_mem h
    rw [hp]
  put_reverts {e l err} h := by
    by_cases hk : e.key ∈ l.reverting
    · rw [put_of_mem hk] at h
      exact (Except.error.inj h).symm
    · obtain ⟨l', hp, -⟩ := put_of_not_mem hk
      rw [hp] at h
      cases h

theorem registry_works : backend.registry.Works contents where
  view_page _ _ _ := rfl
  page_ok h := (Except.ok.inj h).symm
  page_succeeds _ _ _ := ⟨_, rfl⟩

/-- The factory refuses exactly the triples that have a market. -/
theorem createMarket_eq (t : Triple) (type : Bytes32) (l : Ledger) : createMarket t type l =
    if t ∈ l.markets.map (·.triple) then (.error (.marketExists t), l)
    else (.ok (), { l with
      markets := l.markets ++ [t.listing type]
      stats.marketsCreated := l.stats.marketsCreated + 1 }) := by
  have h : (l.markets.any fun m => m.triple = t) = decide (t ∈ l.markets.map (·.triple)) := by
    rw [Bool.eq_iff_iff]
    simp
  rw [createMarket, h]
  simp only [decide_eq_true_eq]

theorem factory_works : backend.factory.Works contents where
  create_ok {t type l} h := by
    show (createMarket t type l).2.contents = _
    have h' : (createMarket t type l).1 = .ok () := h
    rw [createMarket_eq] at h' ⊢
    split at h'
    · cases h'
    · rename_i hm
      rw [if_neg hm]
      rfl
  create_error {t type l err} h := by
    show (createMarket t type l).2.contents = _
    have h' : (createMarket t type l).1 = .error err := h
    rw [createMarket_eq] at h' ⊢
    split at h'
    · rename_i hm
      rw [if_pos hm]
    · cases h'
  create_succeeds {t type l} h := by
    have hm : t ∉ l.markets.map (·.triple) := h
    show (createMarket t type l).1 = _
    rw [createMarket_eq, if_neg hm]

/-- **The chain in memory works.** -/
theorem backend_works : backend.Works contents := ⟨store_works, registry_works, factory_works⟩

end Ledger

/-! ## Backends with faults -/

section Faults

variable {b : Backend σ} {view : σ → Contents}

theorem present_withFaults (b : Backend σ) (plan : FaultPlan) (e : Entry) (f : Faulty σ) :
    (b.withFaults plan).store.present e f =
      if plan.failingReads.contains e.key then (.error (.readFailed e.key), f)
      else ((b.store.present e f.state).1, { f with state := (b.store.present e f.state).2 }) := by
  obtain ⟨key, value, label⟩ := e
  cases value with
  | uint n =>
    simp only [Store.present, Backend.withFaults, Faulty.read, Faulty.below]
    split <;> rfl
  | bytes32 w =>
    simp only [Store.present, Backend.withFaults, Faulty.read, Faulty.below]
    split <;> rfl

theorem put_withFaults (b : Backend σ) (plan : FaultPlan) (e : Entry) (f : Faulty σ) :
    (b.withFaults plan).store.put e f =
      if plan.failingWrites.contains e.key then (.error (.slotReverted e.value.setter e.key), f)
      else ((b.store.put e f.state).1, { f with state := (b.store.put e f.state).2 }) := by
  obtain ⟨key, value, label⟩ := e
  cases value with
  | uint n => rfl
  | bytes32 w => rfl

theorem Store.Conforms.withFaults (h : b.store.Conforms view) (plan : FaultPlan) :
    (b.withFaults plan).store.Conforms fun f => view f.state where
  view_present e f := by
    rw [present_withFaults]
    split
    · rfl
    · exact h.view_present e f.state
  present_ok {e f v} hv := by
    rw [present_withFaults] at hv
    split at hv
    · cases hv
    · exact h.present_ok hv
  put_ok {e f} hp := by
    rw [put_withFaults] at hp ⊢
    split at hp
    · cases hp
    · rename_i hk
      rw [if_neg hk]
      exact h.put_ok hp
  put_error {e f err} hp := by
    rw [put_withFaults] at hp ⊢
    split at hp
    · rename_i hk
      rw [if_pos hk]
    · rename_i hk
      rw [if_neg hk]
      exact h.put_error hp

/-- A registry that serves no list of its own conforms with pages failing, too. -/
theorem Registry.Conforms.withFaults (h : b.registry.Conforms view) {plan : FaultPlan}
    (served : plan.served = none) : (b.withFaults plan).registry.Conforms fun f => view f.state where
  view_page start stop f := by
    simp only [Backend.withFaults, Faulty.page, served]
    split
    · rfl
    · exact h.view_page start stop f.state
  page_ok {start stop f page} hp := by
    simp only [Backend.withFaults, Faulty.page, served] at hp
    split at hp
    · cases hp
    · exact h.page_ok hp

theorem Factory.Conforms.withFaults (h : b.factory.Conforms view) {plan : FaultPlan}
    (loud : plan.creation ≠ .silent) : (b.withFaults plan).factory.Conforms fun f => view f.state where
  create_ok {t type f} hc := by
    simp only [Backend.withFaults, Faulty.create] at hc ⊢
    cases hp : plan.creation with
    | none =>
      simp only [hp] at hc ⊢
      exact h.create_ok hc
    | silent => exact absurd hp loud
    | failAt index =>
      simp only [hp] at hc ⊢
      split at hc
      · cases hc
      · rename_i hi
        rw [if_neg hi]
        exact h.create_ok hc
  create_error {t type f err} hc := by
    simp only [Backend.withFaults, Faulty.create] at hc ⊢
    cases hp : plan.creation with
    | none =>
      simp only [hp] at hc ⊢
      exact h.create_error hc
    | silent => exact absurd hp loud
    | failAt index =>
      simp only [hp] at hc ⊢
      split at hc
      · rename_i hi
        rw [if_pos hi]
      · rename_i hi
        rw [if_neg hi]
        exact h.create_error hc

theorem silent_withFaults (b : Backend σ) (view : σ → Contents) {plan : FaultPlan}
    (silent : plan.creation = .silent) : (b.withFaults plan).factory.Silent fun f => view f.state := by
  intro t type f
  simp only [Backend.withFaults, Faulty.create, silent]

end Faults

end MarketSync

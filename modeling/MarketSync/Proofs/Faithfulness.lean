import Mathlib.Data.Finset.Card
import Mathlib.Data.List.DropRight
import MarketSync.Proofs.Conformance

/-!
# The chain in memory is a faithful store

A history is a list of operations on a chain (`InMemoryChain`) that was empty at first. What the chain holds, answers
and counts after it is told from the operations and their answers alone.

* `slots_perform`, `mem_reverting_perform`, `markets_perform`, `stats_perform` — what one operation does.
* `Records.perform`, `records` — with every operation the chain goes on to hold what its log says, and so it does after
  every history.
* `Records.slotCount`, `between_append`, `cutPage?_eq` — the number of slots, and the pages.
* `faithful` — what reads, writes, creations and pages answer after a history, and what the counters show.
-/

namespace MarketSync.Ledger

/-! ## Operations -/

/-- What can be done with a chain in memory. -/
inductive Operation where
  | seed (key : Bytes32) (v : SlotValue)
  | peek (s : Slot)
  | read (s : Slot)
  | write (key : Bytes32) (v : SlotValue)
  | revertOn (key : Bytes32)
  | createMarket (t : Triple) (type : Bytes32)
  | getMarkets (start stop : UInt64)
  | resetStats

inductive Answer where
  | done
  | failed (e : CallError)
  /-- What was put into a slot, if anything. -/
  | peeked (o : Option SlotValue)
  | value (v : SlotValue)
  | page (ms : List Listing)

/-- The answer of a call, and the chain after it. -/
def answered {α : Type} (answer : α → Answer) : Except CallError α × Ledger → Answer × Ledger
  | (.ok a, l) => (answer a, l)
  | (.error e, l) => (.failed e, l)

def perform (l : Ledger) : Operation → Answer × Ledger
  | .seed key (.uint n) => (.done, l.seedUint key n)
  | .seed key (.bytes32 w) => (.done, l.seedBytes32 key w)
  | .peek (.uint key) => (.peeked ((l.peekUint key).map .uint), l)
  | .peek (.bytes32 key) => (.peeked ((l.peekBytes32 key).map .bytes32), l)
  | .read (.uint key) => answered (fun n => .value (.uint n)) (l.getUint key)
  | .read (.bytes32 key) => answered (fun w => .value (.bytes32 w)) (l.getBytes32 key)
  | .write key (.uint n) => answered (fun _ => .done) (l.setUint key n)
  | .write key (.bytes32 w) => answered (fun _ => .done) (l.setBytes32 key w)
  | .revertOn key => (.done, l.revertOn key)
  | .createMarket t type => answered (fun _ => .done) (l.createMarket t type)
  | .getMarkets start stop => answered .page (l.getMarkets start stop)
  | .resetStats => (.done, l.resetStats)

def performAll (l : Ledger) (ops : List Operation) : Ledger :=
  ops.foldl (fun l op => (l.perform op).2) l

/-- The operations with their answers. -/
def log (l : Ledger) : List Operation → List (Operation × Answer)
  | [] => []
  | op :: ops => (op, (l.perform op).1) :: (l.perform op).2.log ops

theorem performAll_concat (l : Ledger) (ops : List Operation) (op : Operation) :
    l.performAll (ops ++ [op]) = ((l.performAll ops).perform op).2 := by
  simp [performAll]

theorem log_concat (l : Ledger) (ops : List Operation) (op : Operation) :
    l.log (ops ++ [op]) = l.log ops ++ [(op, ((l.performAll ops).perform op).1)] := by
  induction ops generalizing l with
  | nil => rfl
  | cons first ops ih => rw [List.cons_append, log, ih, log, List.cons_append]; rfl

/-! ## What a log says -/

/-- The slot that an operation sets, with the value: all seeds do, and the writes that succeed. -/
def setting? : Operation × Answer → Option (Slot × SlotValue)
  | (.seed key v, _) => some (v.slot key, v)
  | (.write key v, .done) => some (v.slot key, v)
  | _ => none

def created? : Operation × Answer → Option Listing
  | (.createMarket t type, .done) => some (t.listing type)
  | _ => none

/-- The value that a slot was set to last. -/
def lastSet (events : List (Operation × Answer)) (s : Slot) : Option SlotValue :=
  (((events.filterMap setting?).filter fun set => set.1 = s).map Prod.snd).getLast?

/-- The slots that were set, once for each time. -/
def setSlots (events : List (Operation × Answer)) : List Slot :=
  (events.filterMap setting?).map Prod.fst

/-- The key of a slot for a number. -/
def numberKey? : Slot → Option Bytes32
  | .uint key => some key
  | .bytes32 _ => none

def wordKey? : Slot → Option Bytes32
  | .uint _ => none
  | .bytes32 key => some key

def numberKeys (events : List (Operation × Answer)) : List Bytes32 :=
  (setSlots events).filterMap numberKey?

def wordKeys (events : List (Operation × Answer)) : List Bytes32 :=
  (setSlots events).filterMap wordKey?

def isReset : Operation × Answer → Bool
  | (.resetStats, _) => true
  | _ => false

def isRead : Operation × Answer → Bool
  | (.read _, _) => true
  | _ => false

def isPage : Operation × Answer → Bool
  | (.getMarkets _ _, _) => true
  | _ => false

def isDoneWrite : Operation × Answer → Bool
  | (.write _ _, .done) => true
  | _ => false

def isCreation : Operation × Answer → Bool
  | (.createMarket _ _, .done) => true
  | _ => false

/-- What happened since the counters were last reset, or since the start. -/
def sinceReset (events : List (Operation × Answer)) : List (Operation × Answer) :=
  events.rtakeWhile fun e => !isReset e

/-- What the counters should show after events that none of which resets them. -/
def tally (events : List (Operation × Answer)) : LedgerStats where
  reads := events.countP isRead
  writes := events.countP isDoneWrite
  marketsCreated := events.countP isCreation
  registryPages := events.countP isPage

theorem lastSet_concat (events : List (Operation × Answer)) (e : Operation × Answer) (s : Slot) :
    lastSet (events ++ [e]) s =
      match setting? e with
      | some (s', v) => if s = s' then some v else lastSet events s
      | none => lastSet events s := by
  unfold lastSet
  rw [List.filterMap_append, List.filter_append, List.map_append]
  cases h : setting? e with
  | none => simp [h]
  | some set =>
    by_cases hs : s = set.1
    · simp [h, hs]
    · have hs' : ¬ set.1 = s := fun heq => hs heq.symm
      simp [h, hs, hs']

theorem sinceReset_concat (events : List (Operation × Answer)) (e : Operation × Answer) :
    sinceReset (events ++ [e]) = if isReset e then [] else sinceReset events ++ [e] := by
  rw [sinceReset, List.rtakeWhile_concat]
  cases isReset e <;> rfl

theorem tally_concat (events : List (Operation × Answer)) (e : Operation × Answer) :
    tally (events ++ [e]) = {
      reads := (tally events).reads + (isRead e).toNat
      writes := (tally events).writes + (isDoneWrite e).toNat
      marketsCreated := (tally events).marketsCreated + (isCreation e).toNat
      registryPages := (tally events).registryPages + (isPage e).toNat } := by
  have hone (p : Operation × Answer → Bool) : [e].countP p = (p e).toNat := by
    cases h : p e <;> simp [h]
  simp only [tally, List.countP_append, hone]

/-! ## One operation -/

variable {l : Ledger}

/-- A write to a key that refuses writes fails and leaves the chain as it is; every other one sets the slot, as a seed
does, and is counted. -/
theorem perform_write (l : Ledger) (key : Bytes32) (v : SlotValue) : l.perform (.write key v) =
    if key ∈ l.reverting then (.failed (.slotReverted v.setter key), l)
    else (.done, { (l.perform (.seed key v)).2 with stats := { l.stats with writes := l.stats.writes + 1 } }) := by
  cases v with
  | uint n =>
    by_cases h : key ∈ l.reverting <;> simp [perform, setUint, seedUint, answered, h, SlotValue.setter]
  | bytes32 w =>
    by_cases h : key ∈ l.reverting <;> simp [perform, setBytes32, seedBytes32, answered, h, SlotValue.setter]

theorem perform_read (l : Ledger) (s : Slot) :
    l.perform (.read s) = (.value (l.slots.read s), { l with stats.reads := l.stats.reads + 1 }) := by
  cases s with
  | uint key =>
    simp only [perform, getUint, answered, Slots.read, slots, Slot.zero]
    cases l.peekUint key <;> rfl
  | bytes32 key =>
    simp only [perform, getBytes32, answered, Slots.read, slots, Slot.zero]
    cases l.peekBytes32 key <;> rfl

theorem perform_peek (l : Ledger) (s : Slot) : l.perform (.peek s) = (.peeked (l.slots s), l) := by
  cases s <;> rfl

theorem perform_createMarket (l : Ledger) (t : Triple) (type : Bytes32) : l.perform (.createMarket t type) =
    if t ∈ l.markets.map (·.triple) then (.failed (.marketExists t), l)
    else (.done, { l with
      markets := l.markets ++ [t.listing type]
      stats.marketsCreated := l.stats.marketsCreated + 1 }) := by
  rw [perform, createMarket_eq]
  split <;> rfl

@[simp] theorem markets_seed (l : Ledger) (key : Bytes32) (v : SlotValue) :
    (l.perform (.seed key v)).2.markets = l.markets := by
  cases v <;> rfl

@[simp] theorem reverting_seed (l : Ledger) (key : Bytes32) (v : SlotValue) :
    (l.perform (.seed key v)).2.reverting = l.reverting := by
  cases v <;> rfl

@[simp] theorem stats_seed (l : Ledger) (key : Bytes32) (v : SlotValue) :
    (l.perform (.seed key v)).2.stats = l.stats := by
  cases v <;> rfl

theorem slots_seed (l : Ledger) (key : Bytes32) (v : SlotValue) (s : Slot) :
    (l.perform (.seed key v)).2.slots s = if s = v.slot key then some v else l.slots s := by
  cases v with
  | uint n => exact slots_seedUint l key n s
  | bytes32 w => exact slots_seedBytes32 l key w s

/-- **An operation sets the slot that its log entry says, and no other.** -/
theorem slots_perform (l : Ledger) (op : Operation) (s : Slot) : (l.perform op).2.slots s =
    match setting? (op, (l.perform op).1) with
    | some (s', v) => if s = s' then some v else l.slots s
    | none => l.slots s := by
  cases op with
  | seed key v =>
    rw [slots_seed]
    rfl
  | peek s' =>
    rw [perform_peek]
    rfl
  | read s' =>
    rw [perform_read]
    rfl
  | write key v =>
    rw [perform_write]
    split
    · rfl
    · exact slots_seed l key v s
  | createMarket t type =>
    rw [perform_createMarket]
    split <;> rfl
  | revertOn | getMarkets | resetStats => rfl

theorem mem_reverting_perform (l : Ledger) (op : Operation) (key : Bytes32) :
    key ∈ (l.perform op).2.reverting ↔ key ∈ l.reverting ∨ op = .revertOn key := by
  cases op with
  | seed key' v => simp
  | peek s => simp [perform_peek]
  | read s => simp [perform_read]
  | write key' v =>
    rw [perform_write]
    split <;> simp
  | createMarket t type =>
    rw [perform_createMarket]
    split <;> simp
  | revertOn key' => simp [perform, Ledger.revertOn, or_comm, eq_comm]
  | getMarkets | resetStats => simp [perform, getMarkets, answered, Ledger.resetStats]

/-- **An operation registers the market that its log entry says, at the end of the list.** -/
theorem markets_perform (l : Ledger) (op : Operation) :
    (l.perform op).2.markets = l.markets ++ (created? (op, (l.perform op).1)).toList := by
  cases op with
  | seed key v => simp [created?]
  | peek s => simp [perform_peek, created?]
  | read s => simp [perform_read, created?]
  | write key v =>
    rw [perform_write]
    split <;> simp [created?]
  | createMarket t type =>
    rw [perform_createMarket]
    split <;> simp [created?]
  | revertOn | getMarkets | resetStats =>
    simp [perform, Ledger.revertOn, getMarkets, answered, Ledger.resetStats, created?]

/-- **An operation is counted as what its log entry says.** -/
theorem stats_perform {events : List (Operation × Answer)} (h : l.stats = tally events) (op : Operation) :
    (l.perform op).2.stats =
      if isReset (op, (l.perform op).1) then {} else tally (events ++ [(op, (l.perform op).1)]) := by
  rw [tally_concat, ← h]
  cases op with
  | seed key v => exact stats_seed l key v
  | peek s => rw [perform_peek]; rfl
  | read s => rw [perform_read]; rfl
  | write key v =>
    rw [perform_write]
    split <;> rfl
  | createMarket t type =>
    rw [perform_createMarket]
    split <;> rfl
  | revertOn | getMarkets | resetStats => rfl

/-! ## Histories -/

/-- A chain holds what a log says. -/
structure Records (events : List (Operation × Answer)) (l : Ledger) : Prop where
  slots_eq : ∀ s, l.slots s = lastSet events s
  mem_reverting : ∀ key, key ∈ l.reverting ↔ .revertOn key ∈ events.map Prod.fst
  markets_eq : l.markets = events.filterMap created?
  stats_eq : l.stats = tally (sinceReset events)

/-- **With every operation a chain goes on to hold what its log says.** -/
theorem Records.perform {events : List (Operation × Answer)} (h : Records events l) (op : Operation) :
    Records (events ++ [(op, (l.perform op).1)]) (l.perform op).2 where
  slots_eq s := by
    rw [slots_perform, lastSet_concat, h.slots_eq]
  mem_reverting key := by
    rw [mem_reverting_perform, h.mem_reverting]
    simp [eq_comm]
  markets_eq := by
    rw [markets_perform, h.markets_eq, List.filterMap_append]
    cases hc : created? (op, (l.perform op).1) <;> simp [hc]
  stats_eq := by
    rw [stats_perform h.stats_eq, sinceReset_concat]
    split <;> rfl

/-- **After every history a chain that was empty holds what its log says.** -/
theorem records (ops : List Operation) : Records (empty.log ops) (empty.performAll ops) := by
  -- from the end of the history: its last operation is the step
  induction ops using List.reverseRecOn with
  | nil => exact ⟨fun s => by cases s <;> rfl, fun key => by simp [log, performAll, empty], rfl, rfl⟩
  | append_singleton ops op ih =>
    rw [log_concat, performAll_concat]
    exact ih.perform op

/-! ## Slots that were set -/

theorem lastSet_eq_none_iff (events : List (Operation × Answer)) (s : Slot) :
    lastSet events s = none ↔ s ∉ setSlots events := by
  rw [lastSet, List.getLast?_eq_none_iff, List.map_eq_nil_iff, List.filter_eq_nil_iff, setSlots, List.mem_map]
  simp only [decide_eq_true_eq, not_exists, not_and]

theorem mem_numberKeys (events : List (Operation × Answer)) (key : Bytes32) :
    key ∈ numberKeys events ↔ .uint key ∈ setSlots events := by
  have hkey (s : Slot) : numberKey? s = some key ↔ s = .uint key := by
    cases s <;> simp [numberKey?]
  simp [numberKeys, List.mem_filterMap, hkey]

theorem mem_wordKeys (events : List (Operation × Answer)) (key : Bytes32) :
    key ∈ wordKeys events ↔ .bytes32 key ∈ setSlots events := by
  have hkey (s : Slot) : wordKey? s = some key ↔ s = .bytes32 key := by
    cases s <;> simp [wordKey?]
  simp [wordKeys, List.mem_filterMap, hkey]

/-- A table has as many keys as there are different ones in a list of the same keys. -/
theorem size_eq_card {α : Type} (t : Table Bytes32 α) {keys : List Bytes32} (h : ∀ key, key ∈ t.keys ↔ key ∈ keys) :
    t.size = keys.toFinset.card := by
  have hset : t.keys.toFinset = keys.toFinset := by
    ext key
    rw [List.mem_toFinset, List.mem_toFinset, h]
  calc t.size = t.keys.length := by rw [Table.keys, List.length_map, Table.size]
    _ = t.keys.toFinset.card := (List.toFinset_card_of_nodup t.distinct).symm
    _ = keys.toFinset.card := by rw [hset]

/-- **The slots are counted by the keys of either kind that were ever set.** -/
theorem Records.slotCount {events : List (Operation × Answer)} (h : Records events l) :
    l.slotCount = (numberKeys events).toFinset.card + (wordKeys events).toFinset.card := by
  have hnumber (key : Bytes32) : key ∈ l.uints.keys ↔ key ∈ numberKeys events := by
    rw [mem_numberKeys, ← not_iff_not, ← Table.get?_eq_none_iff, ← lastSet_eq_none_iff, ← h.slots_eq]
    simp [slots, peekUint]
  have hword (key : Bytes32) : key ∈ l.words.keys ↔ key ∈ wordKeys events := by
    rw [mem_wordKeys, ← not_iff_not, ← Table.get?_eq_none_iff, ← lastSet_eq_none_iff, ← h.slots_eq]
    simp [slots, peekBytes32]
  rw [Ledger.slotCount, size_eq_card l.uints hnumber, size_eq_card l.words hword]

/-! ## Pages -/

/-- The markets at the positions from one on and below another. -/
def between (ms : List Listing) (start stop : Nat) : List Listing :=
  (ms.zipIdx.filter fun p => start ≤ p.2 ∧ p.2 < stop).map Prod.fst

/-- What is taken from a list whose positions are counted from `k` on. -/
theorem map_filter_zipIdx (ms : List Listing) (start stop k : Nat) :
    ((ms.zipIdx k).filter fun p => start ≤ p.2 ∧ p.2 < stop).map Prod.fst =
      (ms.take (stop - k)).drop (start - k) := by
  induction ms generalizing k with
  | nil => simp
  | cons m ms ih =>
    rw [List.zipIdx_cons, List.filter_cons]
    by_cases hstop : k < stop
    · have htake : stop - k = stop - (k + 1) + 1 := by omega
      by_cases hstart : start ≤ k
      · have hdrop : start - k = 0 := by omega
        have hdrop' : start - (k + 1) = 0 := by omega
        rw [if_pos (by simp [hstart, hstop]), List.map_cons, ih, htake, List.take_succ_cons, hdrop, hdrop',
          List.drop_zero, List.drop_zero]
      · have hdrop : start - k = start - (k + 1) + 1 := by omega
        rw [if_neg (by simp [hstart]), ih, htake, List.take_succ_cons, hdrop, List.drop_succ_cons]
    · have htake : stop - k = 0 := by omega
      have htake' : stop - (k + 1) = 0 := by omega
      rw [if_neg (by simp [hstop]), ih, htake, htake', List.take_zero, List.take_zero, List.drop_nil, List.drop_nil]

theorem between_eq (ms : List Listing) (start stop : Nat) : between ms start stop = (ms.take stop).drop start :=
  map_filter_zipIdx ms start stop 0

/-- **Pages that meet make one page.** -/
theorem between_append (ms : List Listing) {a b c : Nat} (hab : a ≤ b) (hbc : b ≤ c) :
    between ms a b ++ between ms b c = between ms a c := by
  have hdrop : ms.drop b = (ms.drop a).drop (b - a) := by
    rw [List.drop_drop, Nat.add_sub_cancel' hab]
  have hlength : c - a = (b - a) + (c - b) := by omega
  rw [between_eq, between_eq, between_eq, List.drop_take, List.drop_take, List.drop_take, hdrop, hlength, List.take_add]

/-- A number kept between two bounds; there is none if the bounds cross. -/
def clamp? (n low high : Nat) : Option Nat :=
  if low ≤ high then some (max low (min n high)) else none

/-- The elements of a range, which must lie within the list. -/
def slice? (ms : List Listing) (first last : Nat) : Option (List Listing) :=
  if first ≤ last ∧ last ≤ ms.length then some ((ms.take last).drop first) else none

/-- A page cut out step by step, where each step that has no result ends the reading. -/
def cutPage? (ms : List Listing) (start stop : UInt64) : Option (List Listing) := do
  let first := min start.toNat ms.length
  let last ← clamp? stop.toNat first ms.length
  slice? ms first last

theorem between_clamp (ms : List Listing) (start stop : Nat) :
    between ms (min start ms.length) (max (min start ms.length) (min stop ms.length)) = between ms start stop := by
  unfold between
  congr 1
  refine List.filter_congr fun p hp => ?_
  have hlt : p.2 < ms.length := List.snd_lt_of_mem_zipIdx hp
  refine decide_eq_decide.2 ?_
  omega

/-- **Every page can be cut out.** -/
theorem cutPage?_eq (ms : List Listing) (start stop : UInt64) :
    cutPage? ms start stop = some (between ms start.toNat stop.toNat) := by
  have hfirst : min start.toNat ms.length ≤ ms.length := Nat.min_le_right _ _
  have hlast : max (min start.toNat ms.length) (min stop.toNat ms.length) ≤ ms.length :=
    Nat.max_le.2 ⟨hfirst, Nat.min_le_right _ _⟩
  rw [cutPage?, clamp?, if_pos hfirst]
  simp only [Option.bind_eq_bind, Option.bind_some]
  rw [slice?, if_pos ⟨Nat.le_max_left _ _, hlast⟩, ← between_eq, between_clamp]

/-! ## Every history -/

/-- A chain answers what a log says. -/
structure Faithful (events : List (Operation × Answer)) (l : Ledger) : Prop where
  /-- A read gives the value that the slot was set to last, and zero if it never was. -/
  read : ∀ s, (l.perform (.read s)).1 = .value ((lastSet events s).getD s.zero)
  /-- A look at a slot gives that value, too, and tells when there is none. -/
  peek : ∀ s, (l.perform (.peek s)).1 = .peeked (lastSet events s)
  /-- A write to a key that refuses writes fails and changes nothing at all. -/
  refused : ∀ key v, .revertOn key ∈ events.map Prod.fst →
    l.perform (.write key v) = (.failed (.slotReverted v.setter key), l)
  /-- Every other write succeeds. -/
  written : ∀ key v, .revertOn key ∉ events.map Prod.fst → (l.perform (.write key v)).1 = .done
  /-- A creation fails if there is a market for the triple, and only then. -/
  created : ∀ t type, (l.perform (.createMarket t type)).1 =
    if t ∈ (events.filterMap created?).map (·.triple) then .failed (.marketExists t) else .done
  /-- The slots are counted by the keys of either kind that were ever set. -/
  slotCount : l.slotCount = (numberKeys events).toFinset.card + (wordKeys events).toFinset.card
  /-- The counters show what happened since they were reset. -/
  stats : l.stats = tally (sinceReset events)
  /-- A page is cut out without fail, wherever it starts and stops. -/
  cut : ∀ start stop, cutPage? l.markets start stop =
    some (between (events.filterMap created?) start.toNat stop.toNat)
  /-- A page holds the markets that were created at its positions. -/
  page : ∀ start stop, (l.perform (.getMarkets start stop)).1 =
    .page (between (events.filterMap created?) start.toNat stop.toNat)
  /-- Two pages that meet hold together what one page over both of them holds. -/
  pages_meet : ∀ a b c : UInt64, a ≤ b → b ≤ c → ∃ first second,
    (l.perform (.getMarkets a b)).1 = .page first ∧ (l.perform (.getMarkets b c)).1 = .page second ∧
      (l.perform (.getMarkets a c)).1 = .page (first ++ second)

theorem perform_getMarkets (l : Ledger) (start stop : UInt64) :
    (l.perform (.getMarkets start stop)).1 = .page (between l.markets start.toNat stop.toNat) := by
  rw [between_eq]
  rfl

/-- **After every history a chain that was empty answers what its log says.** -/
theorem faithful (ops : List Operation) : Faithful (empty.log ops) (empty.performAll ops) := by
  have h : Records (empty.log ops) (empty.performAll ops) := records ops
  constructor
  case read =>
    intro s
    rw [perform_read, Slots.read, h.slots_eq]
  case peek =>
    intro s
    rw [perform_peek, h.slots_eq]
  case refused =>
    intro key v hkey
    rw [perform_write, if_pos ((h.mem_reverting key).2 hkey)]
  case written =>
    intro key v hkey
    rw [perform_write, if_neg fun hmem => hkey ((h.mem_reverting key).1 hmem)]
  case created =>
    intro t type
    rw [perform_createMarket, h.markets_eq]
    split <;> rfl
  case slotCount => exact h.slotCount
  case stats => exact h.stats_eq
  case cut =>
    intro start stop
    rw [cutPage?_eq, h.markets_eq]
  case page =>
    intro start stop
    rw [perform_getMarkets, h.markets_eq]
  case pages_meet =>
    intro a b c hab hbc
    refine ⟨_, _, perform_getMarkets _ a b, perform_getMarkets _ b c, ?_⟩
    rw [perform_getMarkets, between_append _ (UInt64.le_iff_toNat_le.1 hab) (UInt64.le_iff_toNat_le.1 hbc)]

/-- A number is seeded, its key refuses writes from then on, and a word is written under another key: the refused
write leaves the number and the counters alone. -/
theorem faithful_after_refusal :
    let ops : List Operation := [.seed 1 (.uint 5), .revertOn 1, .write 1 (.uint 7), .write 2 (.bytes32 9)]
    ((empty.performAll ops).perform (.read (.uint 1))).1 = .value (.uint 5) ∧
      (empty.performAll ops).slotCount = 2 ∧ (empty.performAll ops).stats = { writes := 1 } := by
  intro ops
  have h := faithful ops
  exact ⟨h.read (.uint 1), h.slotCount, h.stats⟩

end MarketSync.Ledger

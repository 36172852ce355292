import MarketSync.Proofs.ExactlyOnce
import MarketSync.Proofs.Merging
import MarketSync.Proofs.ReadBack

/-!
# The last definition wins

A triple may be defined any number of times, each definition setting what it likes. After a run the slot of a setting
holds what the last definition of the triple that sets it says, and a slot that none sets is as it was before. Of two
keys with one slot two byte strings that are hashed for them collide; up to that, a slot has one entry in the merged
entries or none, and what a run does with it follows from there.

* `entriesAt_marketEntries` — a definition has at most one entry for a setting.
* `entriesAt_groupsOf` — so have the merged entries of a run, and it is that of the last definition.
* `last_definition_wins` — what a run on the chain in memory leaves in a slot, and how often it calls for it.
-/

namespace MarketSync

/-! ## Settings -/

/-- What a definition may set for its market: an amount, or the virtual market id. -/
inductive Setting where
  | amount (p : Param)
  | virtualId
  deriving DecidableEq

namespace Setting

def key (m : Listing) : Setting → Key
  | .amount p => p.key m
  | .virtualId => .virtualMarketId m.marketToken

def slot (m : Listing) : Setting → Slot
  | .amount p => .uint (p.key m).slot
  | .virtualId => .bytes32 (Key.virtualMarketId m.marketToken).slot

def valueIn (d : Definition) : Setting → Option SlotValue
  | .amount p => (d.amounts p).map .uint
  | .virtualId => d.virtualMarketId.map .bytes32

def entryIn (d : Definition) (m : Listing) : Setting → Option Entry
  | .amount p => paramEntry d m p
  | .virtualId => virtualIdEntry d m

/-- The caps of a pool with one token share a slot; every other setting has one of its own. -/
def HasOwnSlot (t : Triple) : Setting → Prop
  | .amount (.maxPoolAmount _) => t.longToken ≠ t.shortToken
  | _ => True

variable {d : Definition} {m : Listing} {x y : Setting} {e : Entry}

@[simp] theorem key_slot (x : Setting) (m : Listing) : (x.slot m).key = (x.key m).slot := by
  cases x <;> rfl

@[simp] theorem market_key (x : Setting) (m : Listing) : (x.key m).market = m.marketToken := by
  cases x with
  | amount p => exact Param.market_key m p
  | virtualId => rfl

theorem map_value_entryIn (d : Definition) (m : Listing) (x : Setting) :
    (x.entryIn d m).map (·.value) = x.valueIn d := by
  cases x with
  | amount p => simp [entryIn, valueIn, paramEntry, Function.comp_def]
  | virtualId => simp [entryIn, valueIn, virtualIdEntry, Function.comp_def]

theorem slot_of_entryIn (h : x.entryIn d m = some e) : e.slot = x.slot m := by
  cases x with
  | amount p =>
    obtain ⟨n, -, rfl⟩ := Option.map_eq_some_iff.1 h
    rfl
  | virtualId =>
    obtain ⟨w, -, rfl⟩ := Option.map_eq_some_iff.1 h
    rfl

/-- No other setting of the market means the same. -/
theorem key_inj (own : x.HasOwnSlot m.triple) (h : y.key m = x.key m) : y = x := by
  cases x with
  | virtualId =>
    cases y with
    | amount q => cases q <;> cases h
    | virtualId => rfl
  | amount p =>
    cases y with
    | virtualId => cases p <;> cases h
    | amount q =>
      rcases Param.key_eq_iff.1 h with rfl | ⟨shared, -, side, -, rfl⟩
      · rfl
      · exact absurd shared own

theorem key_ne_gasLimit (x : Setting) (m : Listing) : x.key m ≠ .tokenTransferGasLimit m.marketToken := by
  cases x with
  | amount p => cases p <;> nofun
  | virtualId => nofun

end Setting

/-- The keys that a definition and the general section may set for a market. -/
inductive MarketKey (m : Listing) : Key → Prop
  | setting (x : Setting) : MarketKey m (x.key m)
  | gasLimit : MarketKey m (.tokenTransferGasLimit m.marketToken)

theorem Configured.marketKey {d : Definition} {g : GeneralSection} {m : Listing} {k : Key} {v : SlotValue}
    (h : Configured d g m k v) : MarketKey m k := by
  cases h with
  | @amount p => exact .setting (.amount p)
  | gasLimit => exact .gasLimit
  | virtualId => exact .setting .virtualId

/-- A key of the market of some definition. -/
def KeyFor (ms : List Listing) (rs : List Resolved) (k : Key) : Prop :=
  ∃ r ∈ rs, ∃ m, (ms.find? fun m => m.triple = r.triple) = some m ∧ MarketKey m k

/-! ## The entries of one definition -/

section Definition

variable {d : Definition} {g : GeneralSection} {m : Listing} {x : Setting}

theorem filter_params (x : Setting) : (leadingParams ++ trailingParams).filter (fun p => Setting.amount p = x) =
    match x with
    | .amount p => [p]
    | .virtualId => [] := by
  cases x with
  | virtualId => rfl
  | amount p =>
    cases p <;> first
      | rfl
      | (rename_i y; cases y <;> rfl)
      | (rename_i y z; cases y <;> cases z <;> rfl)

theorem entriesAt_params {key : Bytes32} (hkey : ∀ p, (p.key m).slot = key ↔ Setting.amount p = x)
    (ps : List Param) : entriesAt key (ps.filterMap (paramEntry d m)) =
      (ps.filter fun p => Setting.amount p = x).filterMap (paramEntry d m) := by
  induction ps with
  | nil => rfl
  | cons p ps ih =>
    cases hp : paramEntry d m p with
    | none =>
      rw [List.filterMap_cons_none hp, ih, List.filter_cons]
      split
      · rw [List.filterMap_cons_none hp]
      · rfl
    | some e =>
      have he : e.key = (p.key m).slot := by
        obtain ⟨n, -, rfl⟩ := Option.map_eq_some_iff.1 hp
        rfl
      rw [List.filterMap_cons_some hp, entriesAt_cons, he, ih, List.filter_cons]
      by_cases hx : Setting.amount p = x
      · rw [if_pos ((hkey p).2 hx), if_pos (by simpa using hx), List.filterMap_cons_some hp]
      · rw [if_neg fun h => hx ((hkey p).1 h), if_neg (by simpa using hx)]

/-- **A definition has at most one entry under the key of a setting: its own for that.** -/
theorem entriesAt_marketEntries (own : x.HasOwnSlot m.triple)
    (apart : ∀ k, MarketKey m k → k.slot = (x.key m).slot → k = x.key m) :
    entriesAt (x.key m).slot (marketEntries d m g) = (x.entryIn d m).toList := by
  have hparams : ∀ p, (p.key m).slot = (x.key m).slot ↔ Setting.amount p = x := by
    intro p
    constructor
    · exact fun h => x.key_inj own (apart _ (.setting (.amount p)) h)
    · rintro rfl
      rfl
  have hgas : entriesAt (x.key m).slot (gasLimitEntry g m).toList = [] := by
    cases hg : gasLimitEntry g m with
    | none => rfl
    | some e =>
      obtain ⟨n, -, rfl⟩ := Option.map_eq_some_iff.1 hg
      have hne : (Key.tokenTransferGasLimit m.marketToken).slot ≠ (x.key m).slot :=
        fun h => x.key_ne_gasLimit m (apart _ .gasLimit h).symm
      rw [Option.toList_some, entriesAt_cons, if_neg hne]
      rfl
  have hid : entriesAt (x.key m).slot (virtualIdEntry d m).toList =
      if x = .virtualId then (virtualIdEntry d m).toList else [] := by
    cases hv : virtualIdEntry d m with
    | none => simp [entriesAt]
    | some e =>
      obtain ⟨w, -, rfl⟩ := Option.map_eq_some_iff.1 hv
      rw [Option.toList_some, entriesAt_cons]
      by_cases hx : x = .virtualId
      · rw [if_pos hx, if_pos (by rw [hx]; rfl)]
        rfl
      · have hne : (Key.virtualMarketId m.marketToken).slot ≠ (x.key m).slot :=
          fun h => hx (x.key_inj own (apart _ (.setting .virtualId) h)).symm
        rw [if_neg hx, if_neg hne]
        rfl
  have hboth := congrArg (List.filterMap (paramEntry d m)) (filter_params x)
  rw [List.filter_append, List.filterMap_append] at hboth
  rw [marketEntries, entriesAt_append, entriesAt_append, entriesAt_append, entriesAt_params hparams,
    entriesAt_params hparams, hgas, hid, List.append_nil, hboth]
  cases x with
  | amount p => cases hp : paramEntry d m p <;> simp [Setting.entryIn, hp]
  | virtualId => rfl

end Definition

/-! ## The entries of a run -/

section Run

variable {g : GeneralSection} {ms : List Listing} {rs : List Resolved} {r : Resolved} {m : Listing} {x : Setting}

/-- The value that the last definition of a triple gives to a setting, of those that set it. -/
def lastValue (rs : List Resolved) (t : Triple) (x : Setting) : Option SlotValue :=
  ((rs.filter fun r => r.triple = t).filterMap fun r => x.valueIn r.definition).getLast?

/-- The entry of that definition. -/
def lastEntry (rs : List Resolved) (m : Listing) (x : Setting) : Option Entry :=
  ((rs.filter fun r => r.triple = m.triple).filterMap fun r => x.entryIn r.definition m).getLast?

theorem map_value_lastEntry (rs : List Resolved) (m : Listing) (x : Setting) :
    (lastEntry rs m x).map (·.value) = lastValue rs m.triple x := by
  rw [lastEntry, lastValue, ← List.getLast?_map, List.map_filterMap]
  simp only [Setting.map_value_entryIn]

theorem slot_of_lastEntry {e : Entry} (h : lastEntry rs m x = some e) : e.slot = x.slot m := by
  obtain ⟨r, -, he⟩ := List.mem_filterMap.1 (List.mem_of_getLast? h)
  exact Setting.slot_of_entryIn he

variable (hcollide : ¬ Key.SomeCollide (KeyFor ms rs)) (apart : TokensApart ms) (hr : r ∈ rs)
  (hm : (ms.find? fun m => m.triple = r.triple) = some m) (own : x.HasOwnSlot r.triple)
include hcollide apart hr hm own

/-- Only definitions of the triple have entries for its settings, and each of them its own one. -/
theorem entriesAt_definitionEntries {r' : Resolved} (hr' : r' ∈ rs) :
    entriesAt (x.key m).slot (definitionEntries g ms r') =
      if r'.triple = m.triple then (x.entryIn r'.definition m).toList else [] := by
  have htriple := (mem_of_find_triple hm).2
  have hkey : KeyFor ms rs (x.key m) := ⟨r, hr, m, hm, .setting x⟩
  by_cases ht : r'.triple = m.triple
  · rw [if_pos ht, definitionEntries, ht, htriple, hm]
    refine entriesAt_marketEntries (htriple ▸ own) ?_
    intro k hk hslot
    exact Key.eq_of_slot_eq hcollide ⟨r, hr, m, hm, hk⟩ hkey hslot
  · rw [if_neg ht, entriesAt, List.filter_eq_nil_iff]
    intro e he hslot
    obtain ⟨m', k, hm', hc, hk⟩ := exists_entry_of_definition he
    have hsame : k = x.key m :=
      Key.eq_of_slot_eq hcollide ⟨r', hr', m', hm', hc.marketKey⟩ hkey (hk.symm.trans (of_decide_eq_true hslot))
    -- markets of different triples have different tokens, which stand in their keys
    have hne : m'.triple ≠ m.triple := by rwa [(mem_of_find_triple hm').2]
    refine apart m' (mem_of_find_triple hm').1 m (mem_of_find_triple hm).1 hne ?_
    rw [← hc.market_eq, hsame, Setting.market_key]

/-- In the group of a triple the entry of its last definition is left, and there is none in other groups. -/
theorem entriesAt_groupOf (t : Triple) : entriesAt (x.key m).slot (groupOf g ms rs t).entries =
    if t = m.triple then (lastEntry rs m x).toList else [] := by
  have hentries {r' : Resolved} (hr' : r' ∈ rs.filter fun r => r.triple = t) :
      entriesAt (x.key m).slot (definitionEntries g ms r') =
        if t = m.triple then (x.entryIn r'.definition m).toList else [] := by
    obtain ⟨hmem, htriple⟩ := List.mem_filter.1 hr'
    rw [entriesAt_definitionEntries hcollide apart hr hm own hmem, of_decide_eq_true htriple]
  have hflat : ((rs.filter fun r => r.triple = t).map (definitionEntries g ms)).flatMap
      (entriesAt (x.key m).slot) = (rs.filter fun r => r.triple = t).flatMap fun r' =>
        if t = m.triple then (x.entryIn r'.definition m).toList else [] := by
    rw [List.flatMap_map]
    exact List.flatMap_congr fun r' hr' => hentries hr'
  rw [groupOf, entriesAt_mergeLists, hflat]
  · by_cases ht : t = m.triple
    · subst ht
      simp only [if_true]
      rw [lastEntry, List.filterMap_eq_flatMap_toList]
    · simp [ht]
  · intro es hes
    obtain ⟨r', hr', rfl⟩ := List.mem_map.1 hes
    rw [hentries hr']
    split
    · cases x.entryIn r'.definition m <;> simp
    · simp

/-- **In the merged entries of a run the entry of the last definition is left.** -/
theorem entriesAt_groupsOf : entriesAt (x.key m).slot ((groupsOf g ms rs).flatMap (·.entries)) =
    (lastEntry rs m x).toList := by
  have htriple := (mem_of_find_triple hm).2
  have hmem : m.triple ∈ registered ms (rs.map (·.triple)) :=
    mem_registered.2 ⟨htriple ▸ List.mem_map_of_mem hr, List.mem_map_of_mem (mem_of_find_triple hm).1⟩
  obtain ⟨pre, post, hsplit⟩ := List.append_of_mem hmem
  have hnodup := nodup_registered ms (rs.map (·.triple))
  rw [hsplit, List.nodup_append, List.nodup_cons] at hnodup
  obtain ⟨-, ⟨hpost, -⟩, hpre⟩ := hnodup
  have hgroups : entriesAt (x.key m).slot ((groupsOf g ms rs).flatMap (·.entries)) =
      (registered ms (rs.map (·.triple))).flatMap fun t => if t = m.triple then (lastEntry rs m x).toList else [] := by
    rw [groupsOf, List.flatMap_map, entriesAt, List.filter_flatMap]
    exact List.flatMap_congr fun t _ => entriesAt_groupOf hcollide apart hr hm own t
  -- the triple of the market stands once among those of the groups
  have hother {ts : List Triple} (hts : ∀ t ∈ ts, t ≠ m.triple) :
      (ts.flatMap fun t => if t = m.triple then (lastEntry rs m x).toList else []) = [] := by
    rw [List.flatMap_eq_nil_iff]
    exact fun t ht => if_neg (hts t ht)
  rw [hgroups, hsplit, List.flatMap_append, List.flatMap_cons, if_pos rfl, hother, hother, List.nil_append,
    List.append_nil]
  · exact fun t ht he => hpost (he ▸ ht)
  · exact fun t ht => hpre t ht m.triple (by simp)

end Run

/-! ## What a run does with the slot of a setting -/

/-- The values with which the merged entries of a run name the slot of a setting. -/
theorem valuesFor_groupsOf {g : GeneralSection} {ms : List Listing} {rs : List Resolved} {r : Resolved} {m : Listing}
    {x : Setting} (hcollide : ¬ Key.SomeCollide (KeyFor ms rs)) (apart : TokensApart ms) (hr : r ∈ rs)
    (hm : (ms.find? fun m => m.triple = r.triple) = some m) (own : x.HasOwnSlot r.triple) :
    Slots.valuesFor (x.slot m) ((groupsOf g ms rs).flatMap (·.entries)) = (lastValue rs r.triple x).toList := by
  have hat := entriesAt_groupsOf (g := g) hcollide apart hr hm own
  have hslot {e : Entry} (hs : e.slot = x.slot m) : e.key = (x.key m).slot := by
    rw [← e.key_slot, hs, Setting.key_slot]
  have hfilter : ((groupsOf g ms rs).flatMap (·.entries)).filter (fun e => e.slot = x.slot m) =
      (lastEntry rs m x).toList := by
    have hsame : ((groupsOf g ms rs).flatMap (·.entries)).filter (fun e => e.slot = x.slot m) =
        (entriesAt (x.key m).slot ((groupsOf g ms rs).flatMap (·.entries))).filter fun e => e.slot = x.slot m := by
      rw [entriesAt, List.filter_filter]
      refine List.filter_congr fun e _ => ?_
      by_cases hs : e.slot = x.slot m
      · simp [hs, hslot hs]
      · simp [hs]
    rw [hsame, hat]
    refine List.filter_eq_self.2 fun e he => ?_
    simpa using slot_of_lastEntry (Option.mem_toList.1 he)
  rw [Slots.valuesFor, hfilter, ← (mem_of_find_triple hm).2, ← map_value_lastEntry]
  cases lastEntry rs m x <;> rfl

/-- What a read of a slot of the chain in memory answers. -/
def Ledger.readSlot (l : Ledger) : Slot → Except CallError SlotValue
  | .uint key => (l.getUint key).1.map .uint
  | .bytes32 key => (l.getBytes32 key).1.map .bytes32

theorem Ledger.readSlot_eq (l : Ledger) (s : Slot) : l.readSlot s = .ok (l.slots.read s) := by
  cases s with
  | uint key => exact congrArg Prod.fst (present_eq ⟨key, .uint 0, ""⟩ l)
  | bytes32 key => exact congrArg Prod.fst (present_eq ⟨key, .bytes32 0, ""⟩ l)

/-- What a run from `before` to `after` that makes some calls does with a slot that should hold a value, if any. -/
structure SlotOutcome (s : Slot) (value : Option SlotValue) (before after : Ledger) (calls : List CallRecord) :
    Prop where
  /-- The slot reads as the value; it is read once and written at most once. -/
  set : ∀ v, value = some v → after.readSlot s = .ok v ∧ (calls.filterMap (·.readSlot?)).count s = 1 ∧
    (calls.filterMap (·.writtenSlot?)).count s ≤ 1
  /-- Without a value the slot is left as it was. -/
  unset : value = none → after.slots s = before.slots s ∧ s ∉ calls.filterMap (·.readSlot?) ∧
    s ∉ calls.filterMap (·.writtenSlot?)

/-- A slot that entries name with one value or none. -/
theorem slotOutcome_of_valuesFor {s : Slot} {value : Option SlotValue} {es : List Entry} {before after : Ledger}
    {calls creations : List CallRecord} (hslots : after.slots = before.slots.settleAll es)
    (hshows : Shows calls creations (es.map (·.slot)) ((before.slots.changed es).map (·.slot)))
    (hvalues : Slots.valuesFor s es = value.toList) : SlotOutcome s value before after calls := by
  have hreads : (calls.filterMap (·.readSlot?)).count s = value.toList.length := by
    rw [hshows.reads_eq, Slots.count_slot, hvalues]
  have hwrites : (calls.filterMap (·.writtenSlot?)).count s ≤ value.toList.length := by
    rw [hshows.writes_eq, ← hvalues, ← Slots.count_slot]
    exact ((Slots.changed_sublist _ es).map _).count_le s
  refine ⟨?_, ?_⟩
  · rintro v rfl
    refine ⟨?_, hreads, hwrites⟩
    rw [Ledger.readSlot_eq, hslots, Slots.read_settleAll, hvalues]
    rfl
  · rintro rfl
    refine ⟨?_, List.count_eq_zero.1 hreads, List.count_eq_zero.1 (Nat.le_zero.1 hwrites)⟩
    rw [hslots, Slots.settleAll_apply, hvalues]
    rfl

/-- **After a run that succeeds every slot of a setting holds what the last definition of the triple that sets it says,
and slots that none sets are as they were, unless two different byte strings hashed for the keys collide.** -/
theorem last_definition_wins {c : Config} {rs : List Resolved} (resolved : resolveAll c.tokens c.markets = .ok rs)
    {size : UInt64} {before after : Ledger} {report : Report}
    (run : provision Ledger.backend { pageSize := size } c before = (.ok report, after))
    (apart : TokensApart after.markets) :
    ∃ calls, provision Ledger.backend.recorded { pageSize := size } c ⟨before, []⟩ = (.ok report, ⟨after, calls⟩) ∧
      (Key.SomeCollide (KeyFor after.markets rs) ∨ ∀ r ∈ rs, ∃ m,
        (after.markets.find? fun m => m.triple = r.triple) = some m ∧
        ∀ x : Setting, x.HasOwnSlot r.triple →
          SlotOutcome (x.slot m) (lastValue rs r.triple x) before after calls) := by
  obtain ⟨rs', es, calls, creations, resolved', hdone, hrecorded, hshows⟩ :=
    provision_ok_calls Ledger.backend_works rfl run
  obtain rfl := Except.ok.inj (resolved.symm.trans resolved')
  refine ⟨calls, hrecorded, ?_⟩
  by_cases hcollide : Key.SomeCollide (KeyFor after.markets rs)
  · exact Or.inl hcollide
  · refine Or.inr fun r hr => ?_
    obtain ⟨m, hm⟩ := hdone.find_market hr
    refine ⟨m, hm, fun x own => ?_⟩
    have hes := (groupsOf_of_mergedEntries hdone.merged_after).2
    have hvalues := valuesFor_groupsOf (g := c.general) hcollide apart hr hm own
    exact slotOutcome_of_valuesFor hdone.slots_eq hshows (hes ▸ hvalues)

/-! ## A market under two names -/

/-- A definition of a market by the first of two names of its long token. -/
def underFirstName : Definition :=
  { bareDefinition "WETH" "USDC" none with
    amounts := fun
      | .minCollateralFactor => some 1
      | .reserveFactor .long => some 5
      | _ => none }

def underOtherName : Definition :=
  { bareDefinition "WETH9" "USDC" none with
    amounts := fun
      | .minCollateralFactor => some 2
      | _ => none }

def twoNamesConfig : Config where
  general := ⟨none⟩
  tokens := ((Table.empty.insert "WETH" 0x11).insert "WETH9" 0x11).insert "USDC" 0x22
  markets := [underFirstName, underOtherName]

def twoNamesResolved : List Resolved := [⟨underFirstName, wethUsdc⟩, ⟨underOtherName, wethUsdc⟩]

/-- One value is that of the second definition, another one that of the first, and what neither sets is not set. -/
theorem last_of_two_names_wins : ∃ report after calls m,
    provision Ledger.backend.recorded {} twoNamesConfig ⟨.empty, []⟩ = (.ok report, ⟨after, calls⟩) ∧
    (after.markets.find? fun m => m.triple = wethUsdc) = some m ∧
    (Key.SomeCollide (KeyFor after.markets twoNamesResolved) ∨
      after.readSlot ((Setting.amount .minCollateralFactor).slot m) = .ok (.uint 2) ∧
      after.readSlot ((Setting.amount (.reserveFactor .long)).slot m) = .ok (.uint 5) ∧
      after.slots (Setting.virtualId.slot m) = none) := by
  have hun : unregistered [] (twoNamesResolved.map (·.triple)) = [wethUsdc] := by decide
  have hregister : registerAll [] twoNamesResolved = creations twoNamesResolved [wethUsdc] := by
    rw [registerAll, hun, List.nil_append]
  have resolved : resolveAll twoNamesConfig.tokens twoNamesConfig.markets = .ok twoNamesResolved := rfl
  have count : (registerAll Ledger.empty.markets twoNamesResolved).length < 2 ^ 63 := by
    show (registerAll [] twoNamesResolved).length < 2 ^ 63
    rw [hregister]
    decide
  obtain ⟨report, after, es, run, hdone⟩ := provision_succeeds (o := {}) Ledger.backend_works rfl (by decide)
    resolved Ledger.empty count rfl
  have hmarkets : after.markets = creations twoNamesResolved [wethUsdc] := hdone.markets_eq.trans hregister
  obtain ⟨calls, hrecorded, hdecided⟩ := last_definition_wins resolved run (hmarkets ▸ tokensApart_singleton _)
  have hr : (⟨underFirstName, wethUsdc⟩ : Resolved) ∈ twoNamesResolved := by simp [twoNamesResolved]
  obtain ⟨m, hm⟩ := hdone.find_market hr
  refine ⟨report, after, calls, m, hrecorded, hm, hdecided.imp_right fun hall => ?_⟩
  obtain ⟨m', hm', hslots⟩ := hall _ hr
  obtain rfl : m = m' := Option.some.inj (hm.symm.trans hm')
  have hmin := (hslots (.amount .minCollateralFactor) trivial).set (.uint 2) rfl
  have hreserve := (hslots (.amount (.reserveFactor .long)) trivial).set (.uint 5) rfl
  have hid := (hslots .virtualId trivial).unset rfl
  exact ⟨hmin.1, hreserve.1, hid.1⟩

end MarketSync

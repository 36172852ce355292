import MarketSync.Proofs.ExactlyOnce

/-!
# The table of fields

The rows that a definition and the general section may give, in the order in which they are written and with every name,
key and label in full. The entries of a market (`market_entries`) are the rows whose value is present. Each value stands
in one row, so changing it alone leaves the entries before that row and after it as they are.

* `fieldTable_eq` — the table lists the parameters in the order of writing, with the gas limit between them.
* `exists_row` — every value has one row.
* `entries_split` — what the entries are around a row, for all definitions that agree on the other rows.
* `entries_follow_table` — the entries of a market are the present rows of the table.
-/

namespace MarketSync

/-! ## Rows -/

/-- Where the value of a row is found. -/
inductive FieldSource where
  | amount (p : Param)
  | gasLimit
  | virtualId
  deriving DecidableEq

namespace FieldSource

def name : FieldSource → String
  | .amount p => p.field
  | .gasLimit => "token_transfer_gas_limit"
  | .virtualId => "token_market_id"

/-- The value itself: the virtual market id is a word, all others are numbers. -/
def valueIn (d : Definition) (g : GeneralSection) : FieldSource → Option SlotValue
  | .amount p => (d.amounts p).map .uint
  | .gasLimit => g.tokenTransferGasLimit.map .uint
  | .virtualId => d.virtualMarketId.map .bytes32

end FieldSource

structure FieldRow where
  name : String
  source : FieldSource
  key : Key
  label : String

def FieldRow.entry (d : Definition) (g : GeneralSection) (row : FieldRow) : Option Entry :=
  (row.source.valueIn d g).map fun v => ⟨row.key.slot, v, row.label⟩

/-- The table for a registered market. -/
def fieldTable (m : Listing) : List FieldRow :=
  let market := m.marketToken
  let long := m.triple.longToken
  let short := m.triple.shortToken
  let text := market.text
  [⟨"min_collateral_factor", .amount .minCollateralFactor, .minCollateralFactor market,
      "min collateral factor " ++ text⟩,
    ⟨"max_long_token_pool_amount", .amount (.maxPoolAmount .long), .maxPoolAmount market long,
      "max pool amount " ++ text ++ " " ++ long.text⟩,
    ⟨"max_short_token_pool_amount", .amount (.maxPoolAmount .short), .maxPoolAmount market short,
      "max pool amount " ++ text ++ " " ++ short.text⟩,
    ⟨"max_open_interest_for_longs", .amount (.maxOpenInterest .long), .maxOpenInterest market .long,
      "max open interest " ++ text ++ " " ++ "long"⟩,
    ⟨"max_open_interest_for_shorts", .amount (.maxOpenInterest .short), .maxOpenInterest market .short,
      "max open interest " ++ text ++ " " ++ "short"⟩,
    ⟨"reserve_factor_longs", .amount (.reserveFactor .long), .reserveFactor market .long,
      "reserve factor " ++ text ++ " " ++ "long"⟩,
    ⟨"reserve_factor_shorts", .amount (.reserveFactor .short), .reserveFactor market .short,
      "reserve factor " ++ text ++ " " ++ "short"⟩,
    ⟨"max_pnl_factor_for_traders_longs", .amount (.pnlFactor .maxForTraders .long),
      .maxPnlFactor .maxForTraders market .long, "max pnl factor for traders " ++ text ++ " " ++ "long"⟩,
    ⟨"max_pnl_factor_for_traders_shorts", .amount (.pnlFactor .maxForTraders .short),
      .maxPnlFactor .maxForTraders market .short, "max pnl factor for traders " ++ text ++ " " ++ "short"⟩,
    ⟨"max_pnl_factor_for_adl_longs", .amount (.pnlFactor .maxForAdl .long),
      .maxPnlFactor .maxForAdl market .long, "max pnl factor for adl " ++ text ++ " " ++ "long"⟩,
    ⟨"max_pnl_factor_for_adl_shorts", .amount (.pnlFactor .maxForAdl .short),
      .maxPnlFactor .maxForAdl market .short, "max pnl factor for adl " ++ text ++ " " ++ "short"⟩,
    ⟨"min_pnl_factor_after_adl_longs", .amount (.pnlFactor .minAfterAdl .long),
      .maxPnlFactor .minAfterAdl market .long, "min pnl factor after adl " ++ text ++ " " ++ "long"⟩,
    ⟨"min_pnl_factor_after_adl_shorts", .amount (.pnlFactor .minAfterAdl .short),
      .maxPnlFactor .minAfterAdl market .short, "min pnl factor after adl " ++ text ++ " " ++ "short"⟩,
    ⟨"max_pnl_factor_for_deposits_longs", .amount (.pnlFactor .maxForDeposits .long),
      .maxPnlFactor .maxForDeposits market .long, "max pnl factor for deposits " ++ text ++ " " ++ "long"⟩,
    ⟨"max_pnl_factor_for_deposits_shorts", .amount (.pnlFactor .maxForDeposits .short),
      .maxPnlFactor .maxForDeposits market .short, "max pnl factor for deposits " ++ text ++ " " ++ "short"⟩,
    ⟨"max_pnl_factor_for_withdrawals_longs", .amount (.pnlFactor .maxForWithdrawals .long),
      .maxPnlFactor .maxForWithdrawals market .long, "max pnl factor for withdrawals " ++ text ++ " " ++ "long"⟩,
    ⟨"max_pnl_factor_for_withdrawals_shorts", .amount (.pnlFactor .maxForWithdrawals .short),
      .maxPnlFactor .maxForWithdrawals market .short, "max pnl factor for withdrawals " ++ text ++ " " ++ "short"⟩,
    ⟨"token_transfer_gas_limit", .gasLimit, .tokenTransferGasLimit market,
      "market token transfer gas limit " ++ text⟩,
    ⟨"position_fee_factor", .amount .positionFeeFactor, .positionFeeFactor market,
      "position fee factor for " ++ text⟩,
    ⟨"position_impact_exponent_factor", .amount .positionImpactExponentFactor,
      .positionImpactExponentFactor market, "position impact exponent factor for " ++ text⟩,
    ⟨"swap_fee_factor", .amount .swapFeeFactor, .swapFeeFactor market, "swap fee factor for " ++ text⟩,
    ⟨"swap_impact_exponent_factor", .amount .swapImpactExponentFactor, .swapImpactExponentFactor market,
      "swap impact exponent factor for " ++ text⟩,
    ⟨"funding_factor", .amount .fundingFactor, .fundingFactor market, "funding factor for " ++ text⟩,
    ⟨"borrowing_factor_for_longs", .amount (.borrowingFactor .long), .borrowingFactor market .long,
      "borrowing factor for longs for " ++ text⟩,
    ⟨"funding_exponent_factor", .amount .fundingExponentFactor, .fundingExponentFactor market,
      "funding exponent factor for " ++ text⟩,
    ⟨"borrowing_factor_for_shorts", .amount (.borrowingFactor .short), .borrowingFactor market .short,
      "borrowing factor for shorts for " ++ text⟩,
    ⟨"borrowing_exponent_factor_for_longs", .amount (.borrowingExponentFactor .long),
      .borrowingExponentFactor market .long, "borrowing exponent factor for longs for " ++ text⟩,
    ⟨"borrowing_exponent_factor_for_shorts", .amount (.borrowingExponentFactor .short),
      .borrowingExponentFactor market .short, "borrowing exponent factor for shorts for " ++ text⟩,
    ⟨"positive_position_impact_factor", .amount (.positionImpactFactor .positive),
      .positionImpactFactor market .positive, "positive position impact factor for " ++ text⟩,
    ⟨"negative_position_impact_factor", .amount (.positionImpactFactor .negative),
      .positionImpactFactor market .negative, "negative position impact factor for " ++ text⟩,
    ⟨"positive_max_position_impact_factor", .amount (.maxPositionImpactFactor .positive),
      .maxPositionImpactFactor market .positive, "positive max position impact factor for " ++ text⟩,
    ⟨"negative_max_position_impact_factor", .amount (.maxPositionImpactFactor .negative),
      .maxPositionImpactFactor market .negative, "negative max position impact factor for " ++ text⟩,
    ⟨"positive_swap_impact_factor", .amount (.swapImpactFactor .positive),
      .swapImpactFactor market .positive, "positive swap impact factor for " ++ text⟩,
    ⟨"negative_swap_impact_factor", .amount (.swapImpactFactor .negative),
      .swapImpactFactor market .negative, "negative swap impact factor for " ++ text⟩,
    ⟨"token_market_id", .virtualId, .virtualMarketId market, "virtual market id for market " ++ text⟩]

/-! ## The order of the rows -/

def paramRow (m : Listing) (p : Param) : FieldRow := ⟨p.field, .amount p, p.key m, p.label m⟩

def gasLimitRow (m : Listing) : FieldRow :=
  ⟨"token_transfer_gas_limit", .gasLimit, .tokenTransferGasLimit m.marketToken,
    "market token transfer gas limit " ++ m.marketToken.text⟩

def virtualIdRow (m : Listing) : FieldRow :=
  ⟨"token_market_id", .virtualId, .virtualMarketId m.marketToken,
    "virtual market id for market " ++ m.marketToken.text⟩

variable {d d' : Definition} {g g' : GeneralSection} {m : Listing}

theorem fieldTable_eq (m : Listing) : fieldTable m =
    leadingParams.map (paramRow m) ++ [gasLimitRow m] ++ trailingParams.map (paramRow m) ++ [virtualIdRow m] := rfl

theorem row_cases {row : FieldRow} (h : row ∈ fieldTable m) :
    (∃ p, row = paramRow m p) ∨ row = gasLimitRow m ∨ row = virtualIdRow m := by
  rw [fieldTable_eq] at h
  simp only [List.mem_append, List.mem_map, List.mem_singleton] at h
  rcases h with ((⟨p, -, rfl⟩ | rfl) | ⟨p, -, rfl⟩) | rfl
  · exact Or.inl ⟨p, rfl⟩
  · exact Or.inr (Or.inl rfl)
  · exact Or.inl ⟨p, rfl⟩
  · exact Or.inr (Or.inr rfl)

theorem name_of_mem {row : FieldRow} (h : row ∈ fieldTable m) : row.name = row.source.name := by
  rcases row_cases h with ⟨p, rfl⟩ | rfl | rfl <;> rfl

/-- Every value has its place in the table, and only one. -/
theorem count_source (m : Listing) (source : FieldSource) :
    ((fieldTable m).map (·.source)).count source = 1 := by
  cases source with
  | gasLimit => rfl
  | virtualId => rfl
  | amount p =>
    cases p <;> first
      | rfl
      | (rename_i x; cases x <;> rfl)
      | (rename_i x y; cases x <;> cases y <;> rfl)

theorem exists_row (m : Listing) (source : FieldSource) : ∃ before row after,
    fieldTable m = before ++ row :: after ∧ row.source = source ∧ ∀ other ∈ before ++ after, other.source ≠ source := by
  have hcount := count_source m source
  have hmem : source ∈ (fieldTable m).map (·.source) := List.count_pos_iff.1 (by omega)
  obtain ⟨row, hrow, hsource⟩ := List.mem_map.1 hmem
  obtain ⟨before, after, hsplit⟩ := List.append_of_mem hrow
  refine ⟨before, row, after, hsplit, hsource, ?_⟩
  rw [hsplit, List.map_append, List.map_cons, List.count_append, hsource, List.count_cons_self] at hcount
  intro other hother heq
  rcases List.mem_append.1 hother with h | h
  · have hpos : 0 < (before.map (·.source)).count source := List.count_pos_iff.2 (List.mem_map.2 ⟨other, h, heq⟩)
    omega
  · have hpos : 0 < (after.map (·.source)).count source := List.count_pos_iff.2 (List.mem_map.2 ⟨other, h, heq⟩)
    omega

/-! ## The entries of the rows -/

theorem entry_paramRow (p : Param) : (paramRow m p).entry d g = paramEntry d m p := by
  simp only [FieldRow.entry, paramRow, FieldSource.valueIn, paramEntry, Option.map_map]
  rfl

theorem entry_gasLimitRow : (gasLimitRow m).entry d g = gasLimitEntry g m := by
  simp only [FieldRow.entry, gasLimitRow, FieldSource.valueIn, gasLimitEntry, Option.map_map]
  rfl

theorem entry_virtualIdRow : (virtualIdRow m).entry d g = virtualIdEntry d m := by
  simp only [FieldRow.entry, virtualIdRow, FieldSource.valueIn, virtualIdEntry, Option.map_map]
  rfl

/-- **The entries of a market are the present rows of its table, in order.** -/
theorem marketEntries_eq (d : Definition) (m : Listing) (g : GeneralSection) :
    marketEntries d m g = (fieldTable m).filterMap (·.entry d g) := by
  have hparams : (fun p => (paramRow m p).entry d g) = paramEntry d m := by
    funext p
    exact entry_paramRow p
  rw [marketEntries, fieldTable_eq]
  simp only [List.filterMap_append, List.filterMap_map, Function.comp_def, hparams, List.filterMap_cons,
    List.filterMap_nil, entry_gasLimitRow, entry_virtualIdRow]
  cases gasLimitEntry g m <;> cases virtualIdEntry d m <;> rfl

theorem word_iff {row : FieldRow} {e : Entry} (h : row.entry d g = some e) :
    (∃ w, e.value = .bytes32 w) ↔ row.source = .virtualId := by
  obtain ⟨v, hv, rfl⟩ := Option.map_eq_some_iff.1 h
  cases hsource : row.source with
  | amount p =>
    rw [hsource] at hv
    obtain ⟨n, -, rfl⟩ := Option.map_eq_some_iff.1 hv
    simp
  | gasLimit =>
    rw [hsource] at hv
    obtain ⟨n, -, rfl⟩ := Option.map_eq_some_iff.1 hv
    simp
  | virtualId =>
    rw [hsource] at hv
    obtain ⟨w, -, rfl⟩ := Option.map_eq_some_iff.1 hv
    simp

/-- What the entries are around a row. -/
theorem entries_split {before after : List FieldRow} {row : FieldRow} (split : fieldTable m = before ++ row :: after) :
    marketEntries d m g =
      before.filterMap (·.entry d g) ++ (row.entry d g).toList ++ after.filterMap (·.entry d g) := by
  rw [marketEntries_eq, split, List.filterMap_append, List.filterMap_cons]
  cases row.entry d g <;> simp

theorem filterMap_entry_congr {rows : List FieldRow}
    (same : ∀ row ∈ rows, row.source.valueIn d' g' = row.source.valueIn d g) :
    rows.filterMap (·.entry d' g') = rows.filterMap (·.entry d g) := by
  refine List.filterMap_congr fun row hrow => ?_
  rw [FieldRow.entry, same row hrow]
  rfl

/-! ## The whole expansion -/

/-- **The entries of a market are the present rows of the table, in its order, each value being the one that its row
names and standing in one row only; a word stands in the row of the virtual market id only. A value that alone is
changed, set or cleared changes, adds or removes the entry of its row and leaves the entries before it and after it as
they are.** -/
theorem entries_follow_table (d : Definition) (m : Listing) (g : GeneralSection) :
    marketEntries d m g = (fieldTable m).filterMap (·.entry d g) ∧
      (fieldTable m).length = 35 ∧
      (∀ source, ((fieldTable m).map (·.source)).count source = 1) ∧
      (∀ row ∈ fieldTable m, row.name = row.source.name) ∧
      (∀ row ∈ fieldTable m, ∀ e, row.entry d g = some e → ((∃ w, e.value = .bytes32 w) ↔ row.source = .virtualId)) ∧
      ∀ source d' g', (∀ other, other ≠ source → other.valueIn d' g' = other.valueIn d g) →
        ∃ row before after, row ∈ fieldTable m ∧ row.source = source ∧
          marketEntries d m g = before ++ (row.entry d g).toList ++ after ∧
          marketEntries d' m g' = before ++ (row.entry d' g').toList ++ after := by
  refine ⟨marketEntries_eq d m g, rfl, count_source m, fun row hrow => name_of_mem hrow,
    fun row _ e he => word_iff he, ?_⟩
  intro source d' g' same
  obtain ⟨before, row, after, hsplit, hsource, hother⟩ := exists_row m source
  have hbefore : before.filterMap (·.entry d' g') = before.filterMap (·.entry d g) := by
    refine filterMap_entry_congr fun other h => same _ ?_
    exact hother other (List.mem_append.2 (Or.inl h))
  have hafter : after.filterMap (·.entry d' g') = after.filterMap (·.entry d g) := by
    refine filterMap_entry_congr fun other h => same _ ?_
    exact hother other (List.mem_append.2 (Or.inr h))
  have hrow : row ∈ fieldTable m := by simp [hsplit]
  refine ⟨row, _, _, hrow, hsource, entries_split hsplit, ?_⟩
  rw [entries_split hsplit, hbefore, hafter]

/-- A definition that sets a factor for long positions to zero, and nothing else. -/
def zeroReserve : Definition :=
  { bareDefinition "WETH" "USDC" none with
    amounts := fun
      | .reserveFactor .long => some 0
      | _ => none }

/-- Setting a factor to zero adds one entry, which says so. -/
theorem explicit_zero_adds_entry : ∃ before after,
    marketEntries (bareDefinition "WETH" "USDC" none) ⟨0x99, wethUsdc⟩ ⟨some 7⟩ = before ++ after ∧
    marketEntries zeroReserve ⟨0x99, wethUsdc⟩ ⟨some 7⟩ = before ++
      ⟨(Key.reserveFactor 0x99 .long).slot, .uint 0, "reserve factor " ++ Address.text 0x99 ++ " " ++ "long"⟩ :: after := by
  obtain ⟨-, -, -, -, -, hchange⟩ :=
    entries_follow_table (bareDefinition "WETH" "USDC" none) ⟨0x99, wethUsdc⟩ ⟨some 7⟩
  have same : ∀ other, other ≠ FieldSource.amount (.reserveFactor .long) →
      other.valueIn zeroReserve ⟨some 7⟩ = other.valueIn (bareDefinition "WETH" "USDC" none) ⟨some 7⟩ := by
    intro other hne
    cases other with
    | amount p =>
      have hunset : zeroReserve.amounts p = none := by
        unfold zeroReserve
        dsimp only
        split
        · exact absurd rfl hne
        · rfl
      rw [FieldSource.valueIn, hunset]
      rfl
    | gasLimit => rfl
    | virtualId => rfl
  obtain ⟨row, before, after, hrow, hsource, hbare, hzero⟩ := hchange _ zeroReserve ⟨some 7⟩ same
  rcases row_cases hrow with ⟨p, rfl⟩ | rfl | rfl
  · cases hsource
    refine ⟨before, after, ?_, ?_⟩
    · rw [hbare, show FieldRow.entry _ _ _ = none from rfl, Option.toList_none, List.append_nil]
    · rw [hzero, show FieldRow.entry _ _ _ = some _ from rfl, Option.toList_some, List.append_assoc]
      rfl
  · cases hsource
  · cases hsource

end MarketSync

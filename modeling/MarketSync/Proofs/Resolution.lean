import Mathlib.Data.List.Forall2
import Mathlib.Tactic.MkIffOfInductiveProp
import MarketSync.Chain.Ledger
import MarketSync.Chain.Recorder
import MarketSync.Proofs.FirstFailures
import MarketSync.Proofs.Runs

/-!
# How definitions resolve

A token registry is what is left of registrations in order: a symbol stands for the address that it was registered with
last. A definition names its tokens by symbols, which `resolve_triple` looks up. The first of them that cannot be
resolved is its fault, where the index token comes first and the short token last; the index symbol of a market for
swaps only is not looked at. Of several definitions the fault of the first one counts, and it is found before anything
is called.

* `TokenRegistry.get?_ofRegistrations_eq_some_iff`, `TokenRegistry.exists_ofRegistrations` — what is registered last
  counts, and every registry is left by registrations.
* `Definition.resolve_eq_ok_iff`, `Definition.resolve_eq_error_iff` — the triple of a definition, and its fault.
* `resolveAll_eq_ok_iff`, `resolveAll_eq_error_iff` — definitions in order.
* `faults_found_first` — a run with a faulty definition does nothing but report the first fault.
-/

namespace MarketSync

/-! ## Registrations -/

/-- A symbol was registered with an address, and not once more after that. -/
def LastRegistered (regs : List (String × Address)) (symbol : String) (a : Address) : Prop :=
  ∃ before after, regs = before ++ (symbol, a) :: after ∧ ∀ reg ∈ after, reg.1 ≠ symbol

def NeverRegistered (regs : List (String × Address)) (symbol : String) : Prop :=
  ∀ reg ∈ regs, reg.1 ≠ symbol

theorem neverRegistered_cons {regs : List (String × Address)} {reg : String × Address} {symbol : String} :
    NeverRegistered (reg :: regs) symbol ↔ reg.1 ≠ symbol ∧ NeverRegistered regs symbol :=
  List.forall_mem_cons

theorem lastRegistered_cons {regs : List (String × Address)} {reg : String × Address} {symbol : String}
    {a : Address} : LastRegistered (reg :: regs) symbol a ↔
      LastRegistered regs symbol a ∨ NeverRegistered regs symbol ∧ reg = (symbol, a) := by
  constructor
  · rintro ⟨before, after, hregs, hafter⟩
    cases before with
    | nil =>
      cases hregs
      exact Or.inr ⟨hafter, rfl⟩
    | cons first before =>
      cases hregs
      exact Or.inl ⟨before, after, rfl, hafter⟩
  · rintro (⟨before, after, rfl, hafter⟩ | ⟨hnone, rfl⟩)
    · exact ⟨reg :: before, after, rfl, hafter⟩
    · exact ⟨[], regs, rfl, hnone⟩

namespace TokenRegistry

def ofRegistrations (regs : List (String × Address)) : TokenRegistry :=
  regs.foldl (fun tokens reg => tokens.insert reg.1 reg.2) .empty

variable {regs : List (String × Address)} {symbol : String} {a : Address} {e : ResolveError}

theorem get?_foldl_insert (tokens : TokenRegistry) (found : Option Address) :
    (regs.foldl (fun tokens reg => tokens.insert reg.1 reg.2) tokens).get? symbol = found ↔
      (∃ a, LastRegistered regs symbol a ∧ some a = found) ∨
        NeverRegistered regs symbol ∧ tokens.get? symbol = found := by
  induction regs generalizing tokens with
  | nil => simp [LastRegistered, NeverRegistered]
  | cons reg regs ih =>
    obtain ⟨symbol', a'⟩ := reg
    rw [List.foldl_cons, ih, Table.get?_insert]
    simp only [lastRegistered_cons, neverRegistered_cons]
    by_cases hsymbol : symbol = symbol'
    · subst hsymbol
      simp [or_and_right, exists_or, and_assoc]
    · simp [hsymbol, Ne.symm hsymbol]

/-- **A symbol stands for the address that it was registered with last.** -/
theorem get?_ofRegistrations_eq_some_iff :
    (ofRegistrations regs).get? symbol = some a ↔ LastRegistered regs symbol a := by
  simp [ofRegistrations, get?_foldl_insert]

theorem get?_ofRegistrations_eq_none_iff : (ofRegistrations regs).get? symbol = none ↔ NeverRegistered regs symbol := by
  simp [ofRegistrations, get?_foldl_insert]

/-- **Every registry is left by registrations.** -/
theorem exists_ofRegistrations (tokens : TokenRegistry) : ∃ regs, tokens = ofRegistrations regs := by
  -- pairs with new keys are put in one behind another
  have hentries : ∀ (regs : List (String × Address)) (tokens : TokenRegistry),
      ((tokens.entries ++ regs).map Prod.fst).Nodup →
      (regs.foldl (fun tokens reg => tokens.insert reg.1 reg.2) tokens).entries = tokens.entries ++ regs := by
    intro regs
    induction regs with
    | nil => simp
    | cons reg regs ih =>
      intro tokens distinct
      have hnew : reg.1 ∉ tokens.keys := by
        rw [List.map_append, List.map_cons, List.nodup_middle, List.nodup_cons] at distinct
        exact fun hmem => distinct.1 (List.mem_append_left _ hmem)
      have hinsert := tokens.entries_insert_of_notMem hnew reg.2
      rw [List.foldl_cons, ih _ (by simpa [hinsert] using distinct), hinsert]
      simp
  exact ⟨tokens.entries, Table.ext (hentries tokens.entries .empty tokens.distinct).symm⟩

theorem find_eq_ok_iff : (ofRegistrations regs).find symbol = .ok a ↔ LastRegistered regs symbol a := by
  rw [← get?_ofRegistrations_eq_some_iff, find]
  cases (ofRegistrations regs).get? symbol <;> simp

theorem find_eq_error_iff :
    (ofRegistrations regs).find symbol = .error e ↔ NeverRegistered regs symbol ∧ e = .unknownToken symbol := by
  rw [← get?_ofRegistrations_eq_none_iff, find]
  cases (ofRegistrations regs).get? symbol <;> simp [eq_comm]

end TokenRegistry

/-! ## Definitions -/

namespace Definition

/-- The index token that a definition names: none, which is the zero address, if it is for swaps only. -/
@[mk_iff]
inductive IndexIs (regs : List (String × Address)) (d : Definition) : Address → Prop
  | swapOnly (swapOnly : d.swapOnly = true) : IndexIs regs d 0
  | token {symbol a} (traded : d.swapOnly = false) (named : d.tokens.indexToken = some symbol)
    (last : LastRegistered regs symbol a) : IndexIs regs d a

/-- A triple is that of a definition: each token is the one registered last for its symbol. -/
@[mk_iff]
structure Identifies (regs : List (String × Address)) (d : Definition) (t : Triple) : Prop where
  index : d.IndexIs regs t.indexToken
  long : LastRegistered regs d.tokens.longToken t.longToken
  short : LastRegistered regs d.tokens.shortToken t.shortToken

/-- Why the index token of a definition is not known. -/
@[mk_iff]
inductive IndexFault (regs : List (String × Address)) (d : Definition) : ResolveError → Prop
  | missing (traded : d.swapOnly = false) (named : d.tokens.indexToken = none) : IndexFault regs d .missingIndexToken
  | unknown {symbol} (traded : d.swapOnly = false) (named : d.tokens.indexToken = some symbol)
    (never : NeverRegistered regs symbol) : IndexFault regs d (.unknownToken symbol)

/-- The fault of a definition: its first token that is not known, in the order index, long, short. -/
@[mk_iff]
inductive Fault (regs : List (String × Address)) (d : Definition) : ResolveError → Prop
  | index {e} (fault : d.IndexFault regs e) : Fault regs d e
  | long {index} (known : d.IndexIs regs index) (never : NeverRegistered regs d.tokens.longToken) :
    Fault regs d (.unknownToken d.tokens.longToken)
  | short {index long} (known : d.IndexIs regs index) (longKnown : LastRegistered regs d.tokens.longToken long)
    (never : NeverRegistered regs d.tokens.shortToken) : Fault regs d (.unknownToken d.tokens.shortToken)

variable {regs : List (String × Address)} {d : Definition} {a : Address} {t : Triple} {e : ResolveError}

theorem resolveIndex_eq_ok_iff : d.resolveIndex (.ofRegistrations regs) = .ok a ↔ d.IndexIs regs a := by
  rw [resolveIndex, indexIs_iff]
  cases d.swapOnly with
  | true =>
    have hzero : swapOnlyIndex = a ↔ a = 0 := eq_comm
    simp [hzero]
  | false => cases d.tokens.indexToken <;> simp [TokenRegistry.find_eq_ok_iff]

theorem resolveIndex_eq_error_iff : d.resolveIndex (.ofRegistrations regs) = .error e ↔ d.IndexFault regs e := by
  rw [resolveIndex, indexFault_iff]
  cases d.swapOnly with
  | true => simp
  | false =>
    cases d.tokens.indexToken with
    | none => simp [eq_comm]
    | some symbol => simp [TokenRegistry.find_eq_error_iff]

/-- **The triple of a definition.** -/
theorem resolve_eq_ok_iff : d.resolve (.ofRegistrations regs) = .ok t ↔ d.Identifies regs t := by
  obtain ⟨index, long, short⟩ := t
  rw [identifies_iff, resolve]
  simp only [← resolveIndex_eq_ok_iff, ← TokenRegistry.find_eq_ok_iff]
  split <;> simp [*]

/-- **The fault of a definition.** -/
theorem resolve_eq_error_iff : d.resolve (.ofRegistrations regs) = .error e ↔ d.Fault regs e := by
  rw [fault_iff, resolve]
  simp only [← resolveIndex_eq_ok_iff, ← resolveIndex_eq_error_iff, ← TokenRegistry.find_eq_ok_iff,
    ← TokenRegistry.find_eq_error_iff]
  split <;> simp [*]

end Definition

/-! ## Definitions in order -/

theorem resolveAll_eq_ok_iff {tokens : TokenRegistry} : ∀ {ds : List Definition} {rs : List Resolved},
    resolveAll tokens ds = .ok rs ↔
      List.Forall₂ (fun d r => d.resolve tokens = .ok r.triple ∧ r.definition = d) ds rs
  | [], rs => by
    rw [List.forall₂_nil_left_iff, resolveAll, Except.ok.injEq]
    exact eq_comm
  | d :: ds, rs => by
    rw [resolveAll, List.forall₂_cons_left_iff]
    cases hd : d.resolve tokens with
    | error e => simp
    | ok t =>
      constructor
      · intro h
        cases hds : resolveAll tokens ds with
        | error e =>
          rw [hds] at h
          cases h
        | ok rest =>
          rw [hds] at h
          exact ⟨⟨d, t⟩, rest, ⟨rfl, rfl⟩, resolveAll_eq_ok_iff.1 hds, (Except.ok.inj h).symm⟩
      · rintro ⟨⟨d', t'⟩, rest, ⟨ht, rfl⟩, hrest, rfl⟩
        rw [resolveAll_eq_ok_iff.2 hrest, Except.ok.inj ht]
        rfl

theorem definitions_of_resolveAll {tokens : TokenRegistry} {ds : List Definition} {rs : List Resolved}
    (h : resolveAll tokens ds = .ok rs) :
    rs.map (·.definition) = ds ∧ ∀ r ∈ rs, r.definition.resolve tokens = .ok r.triple := by
  have heach := resolveAll_eq_ok_iff.1 h
  clear h
  induction heach with
  | nil => exact ⟨rfl, by simp⟩
  | cons hd _ ih =>
    obtain ⟨hresolved, rfl⟩ := hd
    exact ⟨by rw [List.map_cons, ih.1], List.forall_mem_cons.2 ⟨hresolved, ih.2⟩⟩

/-- **Of several definitions the fault of the first one counts.** -/
theorem resolveAll_eq_error_iff {tokens : TokenRegistry} {ds : List Definition} {e : ResolveError} :
    resolveAll tokens ds = .error e ↔ FailsFirst (fun d => d.resolve tokens) ds e := by
  induction ds with
  | nil => simp [resolveAll]
  | cons d ds ih =>
    rw [resolveAll]
    cases hd : d.resolve tokens with
    | error e' =>
      rw [failsFirst_cons_of_error (f := fun d : Definition => d.resolve tokens) hd]
      simp
    | ok t =>
      rw [failsFirst_cons_of_ok (f := fun d : Definition => d.resolve tokens) hd, ← ih]
      cases resolveAll tokens ds <;> simp [Except.map]

/-- **A fault in any definition is found before anything is called: nothing happens but that the first fault is
reported. Without faults the run is that for the triples of the definitions.** -/
theorem faults_found_first {σ : Type} (b : Backend σ) (o : RunOptions) {c : Config} (nonempty : c.markets ≠ [])
    (s : σ) :
    (∃ regs, c.tokens = .ofRegistrations regs) ∧ ∀ regs, c.tokens = .ofRegistrations regs →
      (∀ (d : Definition) e, d.resolve c.tokens = .error e ↔ d.Fault regs e) ∧
      (∀ (d : Definition) t, d.resolve c.tokens = .ok t ↔ d.Identifies regs t) ∧
      ((∃ d ∈ c.markets, ∃ e, d.Fault regs e) →
        ∃ before d after e, c.markets = before ++ d :: after ∧ (∀ d' ∈ before, ∃ t, d'.Identifies regs t) ∧
          d.Fault regs e ∧ provision b o c s = (.error (.resolve e), s) ∧
          provision b.recorded o c ⟨s, []⟩ = (.error (.resolve e), ⟨s, []⟩)) ∧
      ((∀ d ∈ c.markets, ∃ t, d.Identifies regs t) →
        ∃ rs, rs.map (·.definition) = c.markets ∧ (∀ r ∈ rs, r.definition.Identifies regs r.triple) ∧
          provision b o c s = provisionResolved b o c.general rs s) := by
  refine ⟨TokenRegistry.exists_ofRegistrations c.tokens, fun regs htokens => ?_⟩
  have hok (d : Definition) (t : Triple) : d.resolve c.tokens = .ok t ↔ d.Identifies regs t := by
    rw [htokens]
    exact Definition.resolve_eq_ok_iff
  have herror (d : Definition) (e : ResolveError) : d.resolve c.tokens = .error e ↔ d.Fault regs e := by
    rw [htokens]
    exact Definition.resolve_eq_error_iff
  have hfaults := exists_failsFirst_iff (f := fun d : Definition => d.resolve c.tokens) (l := c.markets)
  refine ⟨herror, hok, ?_, fun hall => ?_⟩
  · rintro ⟨d, hd, e, hfault⟩
    obtain ⟨e', hfirst⟩ := hfaults.2 ⟨d, hd, e, (herror d e).2 hfault⟩
    have unresolved := resolveAll_eq_error_iff.2 hfirst
    obtain ⟨before, d', after, hmarkets, hbefore, hd'⟩ := hfirst
    refine ⟨before, d', after, e', hmarkets, fun d'' hd'' => ?_, (herror d' e').1 hd',
      provision_of_unresolved b o nonempty unresolved s, provision_of_unresolved b.recorded o nonempty unresolved _⟩
    obtain ⟨t, ht⟩ := hbefore d'' hd''
    exact ⟨t, (hok d'' t).1 ht⟩
  · cases resolved : resolveAll c.tokens c.markets with
    | error e =>
      obtain ⟨d, hd, e', hfault⟩ := hfaults.1 ⟨e, resolveAll_eq_error_iff.1 resolved⟩
      obtain ⟨t, ht⟩ := hall d hd
      cases ((hok d t).2 ht).symm.trans hfault
    | ok rs =>
      obtain ⟨hdefinitions, hresolved⟩ := definitions_of_resolveAll resolved
      exact ⟨rs, hdefinitions, fun r hr => (hok _ _).1 (hresolved r hr), provision_of_resolved b o nonempty resolved s⟩

/-! ## A token registered again -/

/-- Two tokens, the first of which is then registered with another address. -/
def registeredAgain : List (String × Address) := [("WETH", 0x11), ("USDC", 0x22), ("WETH", 0x33)]

/-- A definition for swaps only that names an index token which is not known. -/
def goldSwaps : Definition where
  tokens := ⟨some "GOLD", "WETH", "USDC"⟩
  swapOnly := true
  marketType := none
  amounts _ := none
  virtualMarketId := none

/-- A definition that needs an index token and names none; nor is its long token known. -/
def indexless : Definition := { goldSwaps with tokens := ⟨none, "GOLD", "USDC"⟩, swapOnly := false }

def indexlessConfig : Config := ⟨⟨none⟩, .ofRegistrations registeredAgain, [goldSwaps, indexless]⟩

/-- The first definition has a triple, with the later of two addresses. That the second one has none is found before
anything is called for the first. -/
theorem fault_of_indexless :
    goldSwaps.Identifies registeredAgain ⟨0, 0x33, 0x22⟩ ∧ indexless.Fault registeredAgain .missingIndexToken ∧
    provision Ledger.backend.recorded {} indexlessConfig ⟨.empty, []⟩ =
      (.error (.resolve .missingIndexToken), ⟨.empty, []⟩) := by
  have nonempty : indexlessConfig.markets ≠ [] := by simp [indexlessConfig]
  obtain ⟨herror, hok, hfault, -⟩ :=
    (faults_found_first Ledger.backend {} nonempty .empty).2 registeredAgain rfl
  have hindexless : indexless.Fault registeredAgain .missingIndexToken := (herror indexless _).1 rfl
  refine ⟨(hok goldSwaps _).1 rfl, hindexless, ?_⟩
  obtain ⟨before, d, after, e, -, -, -, -, hrun⟩ :=
    hfault ⟨indexless, by simp [indexlessConfig], _, hindexless⟩
  have hfirst : (provision Ledger.backend.recorded {} indexlessConfig ⟨.empty, []⟩).1 =
      .error (.resolve .missingIndexToken) := rfl
  rw [hrun] at hfirst
  cases hfirst
  exact hrun

end MarketSync

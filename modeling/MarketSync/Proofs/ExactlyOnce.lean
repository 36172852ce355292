import MarketSync.Proofs.Recording

/-!
# Every missing market is created exactly once

The triples that need a market are those that no listing has, each once and in the order in which the
configuration first names them. A run on the chain in memory calls for the creation of just these, each with
the type of its first definition, none of the calls fails, and nothing but a key that refuses writes stops
the run.

* `creationType_of_mem` — the type of a market is that of the first definition of its triple.
* `creates_missing_exactly_once` — the creations of a run, its markets, and how it can fail.
-/

namespace MarketSync

theorem creationType_of_mem {rs : List Resolved} {t : Triple} (ht : t ∈ rs.map (·.triple)) :
    ∃ r, (rs.find? fun r => r.triple = t) = some r ∧ creationType rs t = r.definition.typeHash := by
  obtain ⟨r, hr, hrt⟩ := List.mem_map.1 ht
  obtain ⟨first, hfirst⟩ := Option.isSome_iff_exists.1
    (List.find?_isSome.2 ⟨r, hr, by simpa using hrt⟩ : (rs.find? fun r => r.triple = t).isSome = true)
  exact ⟨first, hfirst, by rw [creationType, hfirst]⟩

/-- **A run creates exactly the markets that are missing, each once, and appends them in order. Nothing but
an entry whose key refuses writes makes it fail.** -/
theorem creates_missing_exactly_once {c : Config} {rs : List Resolved}
    (resolved : resolveAll c.tokens c.markets = .ok rs) {l : Ledger} {n : UInt64} (positive : 0 < n)
    (count : (registerAll l.markets rs).length < 2 ^ 63) :
    ∃ result after calls, provision Ledger.backend { pageSize := n } c l = (result, after) ∧
      provision Ledger.backend.recorded { pageSize := n } c ⟨l, []⟩ = (result, ⟨after, calls⟩) ∧
      calls.filter (·.isCreation) = ((unregistered l.markets (rs.map (·.triple))).map fun t =>
        .createMarket t (creationType rs t) (some ())) ∧
      after.markets = l.markets ++ ((unregistered l.markets (rs.map (·.triple))).map fun t =>
        t.listing (creationType rs t)) ∧
      (∀ t ∈ unregistered l.markets (rs.map (·.triple)), ∃ r,
        (rs.find? fun r => r.triple = t) = some r ∧ creationType rs t = r.definition.typeHash) ∧
      ∃ es, mergedEntries c.general after.markets rs = .ok es ∧ ∀ err, result = .error err →
        ∃ e ∈ es, e.key ∈ l.reverting ∧ err = .call (.slotReverted e.value.setter e.key) := by
  obtain ⟨calls, reads, writes, hrecorded, hshows, -⟩ := provision_calls (o := { pageSize := n })
    Ledger.backend_works rfl positive resolved ⟨l, []⟩ count
  obtain ⟨es, pre, hmerged, hcontents, -, herror⟩ := provision_works (o := { pageSize := n })
    Ledger.backend_works rfl positive resolved l count
  obtain ⟨result, after, hrun⟩ : ∃ result after,
    provision Ledger.backend { pageSize := n } c l = (result, after) := ⟨_, _, rfl⟩
  rw [hrun] at hrecorded hcontents herror
  have hmarkets : after.markets = registerAll l.markets rs := congrArg Contents.markets hcontents
  refine ⟨result, after, calls, hrun, hrecorded, hshows.creations_eq, hmarkets, fun t ht => ?_, es, ?_, herror⟩
  · exact creationType_of_mem (mem_unregistered.1 ht).1
  · rw [hmarkets]
    exact hmerged

/-! ## A triple that is defined twice -/

def bareDefinition (long short : String) (marketType : Option String) : Definition where
  tokens := ⟨none, long, short⟩
  swapOnly := true
  marketType := marketType
  amounts _ := none
  virtualMarketId := none

def wethUsdc : Triple := ⟨swapOnlyIndex, 0x11, 0x22⟩
def usdcUsdc : Triple := ⟨swapOnlyIndex, 0x22, 0x22⟩

/-- Three definitions of two markets, the first market with two types. -/
def repeatedConfig : Config where
  general := ⟨none⟩
  tokens := (Table.empty.insert "WETH" 0x11).insert "USDC" 0x22
  markets := [bareDefinition "WETH" "USDC" (some "a"), bareDefinition "USDC" "USDC" none,
    bareDefinition "WETH" "USDC" (some "b")]

def repeatedResolved : List Resolved :=
  [⟨bareDefinition "WETH" "USDC" (some "a"), wethUsdc⟩, ⟨bareDefinition "USDC" "USDC" none, usdcUsdc⟩,
    ⟨bareDefinition "WETH" "USDC" (some "b"), wethUsdc⟩]

/-- A ledger on which the second of the markets is registered. -/
def oneMarket : Ledger := { Ledger.empty with markets := [⟨0x99, usdcUsdc⟩] }

/-- The other one is created once, with the type that is named first. -/
theorem repeated_triple_created_once : ∃ result after calls,
    provision Ledger.backend.recorded { pageSize := 1 } repeatedConfig ⟨oneMarket, []⟩ =
      (result, ⟨after, calls⟩) ∧
    calls.filter (·.isCreation) = [.createMarket wethUsdc (marketTypeOf "a") (some ())] := by
  have hun : unregistered oneMarket.markets (repeatedResolved.map (·.triple)) = [wethUsdc] := by decide
  have count : (registerAll oneMarket.markets repeatedResolved).length < 2 ^ 63 := by
    rw [registerAll, hun]
    decide
  have resolved : resolveAll repeatedConfig.tokens repeatedConfig.markets = .ok repeatedResolved := rfl
  obtain ⟨result, after, calls, -, hrun, hcreations, -⟩ :=
    creates_missing_exactly_once resolved (n := 1) (by decide) count
  rw [hun] at hcreations
  exact ⟨result, after, calls, hrun, hcreations⟩

end MarketSync

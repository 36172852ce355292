import MarketSync.Proofs.CallSequences
import MarketSync.Proofs.Convergence

/-!
# The order in which a run makes its calls

Each phase of a run goes through its part of a full sequence of calls, up to the first call that fails.

* `enumerateFrom_follows`, `createMissing_follows`, `Writer.writeAll_follows` — the phases.
* `provisionResolved_follows` — a run goes through a full sequence, whatever its backend answers.
* `calls_in_order` — what that says of the calls that are recorded.
-/

namespace MarketSync

variable {σ : Type} {b : Backend σ}

/-! ## Recorded calls -/

/-- How a part of a run ends, apart from what it gives. -/
def endingOf {ε α : Type} (f : ε → ProvisionError) : Except ε α → Except ProvisionError Unit
  | .ok _ => .ok ()
  | .error e => .error (f e)

theorem endingOf_map {ε α β : Type} (f : ε → ProvisionError) (g : α → β) (result : Except ε α) :
    endingOf f (result.map g) = endingOf f result := by
  cases result <;> rfl

/-- What was recorded between two states went through a sequence of calls. -/
def Recorded.Follows (b : Backend σ) (full : List CallRecord) (r : Recorded σ) (ending : Except ProvisionError Unit)
    (r' : Recorded σ) : Prop :=
  ∃ new, r'.calls = r.calls ++ new ∧ MarketSync.Follows b full r.state new ending r'.state

namespace Recorded.Follows

variable {full full' : List CallRecord} {r r₁ r' : Recorded σ} {ending : Except ProvisionError Unit}

theorem nil (r : Recorded σ) : Recorded.Follows b [] r (.ok ()) r := ⟨[], (List.append_nil _).symm, .done⟩

theorem append (h : Recorded.Follows b full r (.ok ()) r₁) (h' : Recorded.Follows b full' r₁ ending r') :
    Recorded.Follows b (full ++ full') r ending r' := by
  obtain ⟨new, hnew, hfollows⟩ := h
  obtain ⟨new', hnew', hfollows'⟩ := h'
  refine ⟨new ++ new', ?_, hfollows.append hfollows'⟩
  rw [hnew', hnew, List.append_assoc]

theorem append_error {e : ProvisionError} (h : Recorded.Follows b full r (.error e) r') (full' : List CallRecord) :
    Recorded.Follows b (full ++ full') r (.error e) r' := by
  obtain ⟨new, hnew, hfollows⟩ := h
  exact ⟨new, hnew, hfollows.append_error full'⟩

end Recorded.Follows

/-- One recorded call. If it fails it could have had any answer. -/
theorem follows_call {α : Type} (call : σ → Except CallError α × σ) (record : Option α → CallRecord)
    (f : CallError → ProvisionError) (default : α) (within : ∀ a, ¬ (record (some a)).EndsBeyond)
    (answer : ∀ a s, b.answer s (record (some a)) = recordOf record (call s))
    (failed : ∀ a, (record (some a)).failed = record none) (stops : ∀ a e, (record (some a)).stopsWith e = f e)
    {r r' : Recorded σ} {result : Except CallError α} (h : Recorded.run call record r = (result, r')) :
    Recorded.Follows b [record (some (result.toOption.getD default))] r (endingOf f result) r' := by
  have hcall : call r.state = (result, r'.state) := by
    cases h
    rfl
  have hcalls : r'.calls = r.calls ++ [record result.toOption] := by
    cases h
    rfl
  refine ⟨[record result.toOption], hcalls, ?_⟩
  cases result with
  | ok a =>
    refine .made (within a) ?_ .done
    rw [answer, hcall]
    rfl
  | error e =>
    have hfailed : Follows b [record (some default)] r.state [(record (some default)).failed]
        (.error ((record (some default)).stopsWith e)) r'.state := by
      refine .failed (within default) ?_
      rw [answer, hcall]
      rfl
    rwa [failed, stops] at hfailed

/-! ## Enumerations -/

theorem not_add_lt {start size : UInt64} (h : start.toNat + size.toNat < UInt64.size) : ¬ start + size < start := by
  rw [UInt64.lt_iff_toNat_lt, toNat_add_of_lt h]
  omega

theorem add_lt_of_beyond {start size : UInt64} (positive : 0 < size.toNat)
    (h : ¬ start.toNat + size.toNat < UInt64.size) : start + size < start := by
  have hstart := start.toNat_lt
  have hsize := size.toNat_lt
  rw [UInt64.size] at h
  rw [UInt64.lt_iff_toNat_lt, UInt64.toNat_add]
  omega

theorem follows_page {start size : UInt64} (h : start.toNat + size.toNat < UInt64.size) {r r' : Recorded σ}
    {result : Except CallError (List Listing)}
    (hp : b.recorded.registry.getMarkets start (start + size) r = (result, r')) :
    Recorded.Follows b [.getMarkets start (start + size) (some (result.toOption.getD []))] r
      (endingOf (fun e => .enumeration (.call e)) result) r' :=
  follows_call (b.registry.getMarkets start (start + size)) (.getMarkets start (start + size)) _ []
    (fun _ => not_add_lt h) (fun _ _ => rfl) (fun _ => rfl) (fun _ _ => rfl) hp

theorem enumerateFrom_follows {size : UInt64} (positive : 0 < size.toNat) (start : UInt64) (r : Recorded σ)
    {r' : Recorded σ} {result : Except EnumerationError (List Listing)}
    (h : enumerateFrom b.recorded.registry size positive start r = (result, r')) :
    ∃ full ms, Pages size start full ms ∧ (∀ ms', result = .ok ms' → ms' = ms) ∧
      Recorded.Follows b full r (endingOf .enumeration result) r' := by
  fun_induction enumerateFrom b.recorded.registry size positive start r generalizing r' result with
  | case1 start r hfit err r₁ hp =>
    cases h
    exact ⟨_, [], exists_pages positive start, by simp, follows_page hfit hp⟩
  | case2 start r hfit page r₁ hp hshort =>
    cases h
    exact ⟨_, page, .last hshort, fun _ h => (Except.ok.inj h).symm, follows_page hfit hp⟩
  | case3 start r hfit page r₁ hp hfull err r₂ hrest ih =>
    cases h
    obtain ⟨full, ms, hpages, -, hfollows⟩ := ih hrest
    exact ⟨_, page ++ ms, .next (Nat.le_of_not_lt hfull) hpages, by simp, (follows_page hfit hp).append hfollows⟩
  | case4 start r hfit page r₁ hp hfull rest r₂ hrest ih =>
    cases h
    obtain ⟨full, ms, hpages, hms, hfollows⟩ := ih hrest
    obtain rfl := hms rest rfl
    exact ⟨_, page ++ rest, .next (Nat.le_of_not_lt hfull) hpages, fun _ h => (Except.ok.inj h).symm,
      (follows_page hfit hp).append hfollows⟩
  | case5 start r hfit =>
    cases h
    refine ⟨_, [], exists_pages positive start, by simp, [], (List.append_nil _).symm, .beyond ?_⟩
    exact add_lt_of_beyond positive hfit

theorem takeSnapshot_follows {size : UInt64} (positive : 0 < size) {r r' : Recorded σ}
    {result : Except EnumerationError Snapshot} (h : takeSnapshot b.recorded.registry size r = (result, r')) :
    ∃ full ms, Pages size 0 full ms ∧ (∀ found, result = .ok found → found = .ofListings ms) ∧
      Recorded.Follows b full r (endingOf .enumeration result) r' := by
  have hpos : 0 < size.toNat := positive
  rw [takeSnapshot, enumerate, dif_neg (Nat.pos_iff_ne_zero.1 hpos)] at h
  split at h
  · rename_i e r₁ he
    cases h
    obtain ⟨full, ms, hpages, -, hfollows⟩ := enumerateFrom_follows hpos 0 r he
    exact ⟨full, ms, hpages, by simp, hfollows⟩
  · rename_i ms' r₁ he
    cases h
    obtain ⟨full, ms, hpages, hms, hfollows⟩ := enumerateFrom_follows hpos 0 r he
    obtain rfl := hms ms' rfl
    exact ⟨full, ms', hpages, fun _ h => (Except.ok.inj h).symm, hfollows⟩

/-! ## Creations -/

theorem createAll_follows (typeOf : Triple → Bytes32) : ∀ (ts : List Triple) {r r' : Recorded σ}
    {result : Except CallError Unit}, createAll b.recorded.factory typeOf ts r = (result, r') →
    Recorded.Follows b (ts.map fun t => .createMarket t (typeOf t) (some ())) r (endingOf .call result) r'
  | [], r, r', result, h => by
    cases h
    exact .nil r
  | t :: ts, r, r', result, h => by
    have hcreate {res : Except CallError Unit} {r₁ : Recorded σ}
        (hc : b.recorded.factory.createMarket t (typeOf t) r = (res, r₁)) :=
      follows_call (b := b) (b.factory.createMarket t (typeOf t)) (.createMarket t (typeOf t)) .call ()
        (fun _ h => h) (fun _ _ => rfl) (fun _ => rfl) (fun _ _ => rfl) hc
    rw [createAll] at h
    split at h
    · rename_i e r₁ hc
      cases h
      exact (hcreate hc).append_error _
    · rename_i r₁ hc
      exact (hcreate hc).append (createAll_follows typeOf ts h)

/-- From the first snapshot on: the creations, and after them the second snapshot. -/
theorem createMissing_follows {o : RunOptions} (positive : 0 < o.pageSize) {rs : List Resolved}
    {pages : List CallRecord} {found : List Listing} (enumerated : Pages o.pageSize 0 pages found)
    {r r' : Recorded σ} {result : Except ProvisionError Snapshot}
    (h : createMissing b.recorded o (creationType rs) (unregistered found (rs.map (·.triple))) (.ofListings found) r =
      (result, r')) :
    ∃ more ms, Prelude o rs (pages ++ more) found ms ∧ (∀ snapshot, result = .ok snapshot →
      snapshot = .ofListings ms) ∧ Recorded.Follows b more r (endingOf id result) r' := by
  by_cases hnone : creationCalls o.mode rs found = []
  · -- nothing is created, and the first snapshot stays
    have hsame : (.ok (.ofListings found), r) = (result, r') := by
      rw [← h]
      cases hmode : o.mode with
      | dryRun => simp only [createMissing, hmode]
      | apply =>
        have hmissing : unregistered found (rs.map (·.triple)) = [] := by
          simpa [creationCalls, hmode] using hnone
        simp only [createMissing, hmode, hmissing]
    cases hsame
    refine ⟨[], found, ?_, fun _ h => (Except.ok.inj h).symm, .nil r⟩
    rw [List.append_nil]
    exact .quiet enumerated hnone
  · have hmode : o.mode = .apply := Decidable.byContradiction fun hdry => hnone (if_neg hdry)
    have hcalls : creationCalls o.mode rs found = (unregistered found (rs.map (·.triple))).map fun t =>
        .createMarket t (creationType rs t) (some ()) := if_pos hmode
    obtain ⟨t, ts, hmissing⟩ : ∃ t ts, unregistered found (rs.map (·.triple)) = t :: ts := by
      cases hm : unregistered found (rs.map (·.triple)) with
      | nil => simp [hcalls, hm] at hnone
      | cons t ts => exact ⟨t, ts, rfl⟩
    have hcreate {res : Except CallError Unit} {r₁ : Recorded σ}
        (hc : createAll b.recorded.factory (creationType rs) (t :: ts) r = (res, r₁)) :
        Recorded.Follows b (creationCalls o.mode rs found) r (endingOf .call res) r₁ := by
      rw [hcalls, hmissing]
      exact createAll_follows (creationType rs) (t :: ts) hc
    have hprelude {again : List CallRecord} {ms : List Listing} (hagain : Pages o.pageSize 0 again ms) :
        Prelude o rs (pages ++ (creationCalls o.mode rs found ++ again)) found ms := by
      rw [← List.append_assoc]
      exact .creating enumerated hnone hagain
    simp only [createMissing, hmode, hmissing] at h
    split at h
    · rename_i e r₁ hc
      cases h
      exact ⟨_, _, hprelude (exists_pages positive 0), by simp, (hcreate hc).append_error _⟩
    · rename_i r₁ hc
      obtain ⟨res, r₂, hs⟩ : ∃ res r₂, takeSnapshot b.recorded.registry o.pageSize r₁ = (res, r₂) := ⟨_, _, rfl⟩
      obtain ⟨again, ms, hagain, hsnap, hfollows⟩ := takeSnapshot_follows positive hs
      have hboth := (hcreate hc).append hfollows
      rw [hs] at h
      cases res with
      | error e =>
        cases h
        exact ⟨_, ms, hprelude hagain, by simp, hboth⟩
      | ok snapshot =>
        cases h
        refine ⟨_, ms, hprelude hagain, fun _ h => ?_, hboth⟩
        rw [← Except.ok.inj h, hsnap snapshot rfl]

/-! ## Entries -/

theorem eq_of_map_ok {α : Type} {wrap : α → SlotValue} {res : Except CallError α} {v : SlotValue}
    (h : res.map wrap = .ok v) (default : α) : v = wrap (res.toOption.getD default) := by
  cases res with
  | error e => cases h
  | ok a => exact (Except.ok.inj h).symm

theorem present_follows {e : Entry} {r r' : Recorded σ} {result : Except CallError SlotValue}
    (h : b.recorded.store.present e r = (result, r')) :
    ∃ present, present.slot e.key = e.slot ∧ (∀ v, result = .ok v → v = present) ∧
      Recorded.Follows b [present.readCall e.key] r (endingOf .call result) r' := by
  obtain ⟨key, value, label⟩ := e
  cases value with
  | uint n =>
    obtain ⟨res, r₁, hcall⟩ : ∃ res r₁, b.recorded.store.getUint key r = (res, r₁) := ⟨_, _, rfl⟩
    simp only [Store.present, hcall] at h
    cases h
    refine ⟨.uint (res.toOption.getD 0), rfl, fun _ hv => eq_of_map_ok hv 0, ?_⟩
    rw [endingOf_map]
    exact follows_call (b.store.getUint key) (.getUint key) .call 0 (fun _ h => h) (fun _ _ => rfl) (fun _ => rfl)
      (fun _ _ => rfl) hcall
  | bytes32 w =>
    obtain ⟨res, r₁, hcall⟩ : ∃ res r₁, b.recorded.store.getBytes32 key r = (res, r₁) := ⟨_, _, rfl⟩
    simp only [Store.present, hcall] at h
    cases h
    refine ⟨.bytes32 (res.toOption.getD 0), rfl, fun _ hv => eq_of_map_ok hv 0, ?_⟩
    rw [endingOf_map]
    exact follows_call (b.store.getBytes32 key) (.getBytes32 key) .call 0 (fun _ h => h) (fun _ _ => rfl)
      (fun _ => rfl) (fun _ _ => rfl) hcall

theorem put_follows {e : Entry} {r r' : Recorded σ} {result : Except CallError Unit}
    (h : b.recorded.store.put e r = (result, r')) :
    Recorded.Follows b [e.value.writeCall e.key] r (endingOf .call result) r' := by
  obtain ⟨key, value, label⟩ := e
  cases value with
  | uint n =>
    exact follows_call (b.store.setUint key n) (.setUint key n) .call () (fun _ h => h) (fun _ _ => rfl)
      (fun _ => rfl) (fun _ _ => rfl) h
  | bytes32 w =>
    exact follows_call (b.store.setBytes32 key w) (.setBytes32 key w) .call () (fun _ h => h) (fun _ _ => rfl)
      (fun _ => rfl) (fun _ _ => rfl) h

namespace Writer

theorem write_follows {w w' : Writer} {e : Entry} {r r' : Recorded σ} {result : Except CallError Bool}
    (h : write b.recorded.store w e r = (result, w', r')) :
    ∃ present, present.slot e.key = e.slot ∧
      Recorded.Follows b (e.callsFor w.mode present) r (endingOf .call result) r' := by
  obtain ⟨res, r₁, hread⟩ : ∃ res r₁, b.recorded.store.present e r = (res, r₁) := ⟨_, _, rfl⟩
  obtain ⟨present, hkind, hpresent, hfollows⟩ := present_follows hread
  refine ⟨present, hkind, ?_⟩
  simp only [write, hread] at h
  cases res with
  | error err =>
    cases h
    exact hfollows.append_error _
  | ok v =>
    obtain rfl := hpresent v rfl
    by_cases hv : v = e.value
    · simp only [if_pos hv] at h
      cases h
      rw [Entry.callsFor, if_neg fun hw => hw.2 hv]
      exact hfollows
    · simp only [if_neg hv] at h
      cases hmode : w.mode with
      | dryRun =>
        have hdry : w.countRead.mode = .dryRun := hmode
        simp only [hdry] at h
        cases h
        rw [Entry.callsFor, if_neg (by simp)]
        exact hfollows
      | apply =>
        have happly : w.countRead.mode = .apply := hmode
        simp only [happly] at h
        obtain ⟨res, r₂, hput⟩ : ∃ res r₂, b.recorded.store.put e r₁ = (res, r₂) := ⟨_, _, rfl⟩
        rw [hput] at h
        rw [Entry.callsFor, if_pos ⟨rfl, hv⟩]
        cases res <;> cases h <;> exact hfollows.append (put_follows hput)

theorem writeAll_follows : ∀ (es : List Entry) {w w' : Writer} {r r' : Recorded σ} {result : Except CallError Unit},
    writeAll b.recorded.store w es r = (result, w', r') →
    ∃ full, EntryCalls w.mode es full ∧ Recorded.Follows b full r (endingOf .call result) r'
  | [], w, w', r, r', result, h => by
    cases h
    exact ⟨[], .nil, .nil r⟩
  | e :: es, w, w', r, r', result, h => by
    have hm := mode_write b.recorded.store w e r
    rw [writeAll] at h
    split at h
    · rename_i err w₁ r₁ he
      cases h
      obtain ⟨present, hkind, hfollows⟩ := write_follows he
      obtain ⟨more, hmore⟩ := exists_entryCalls w.mode es
      exact ⟨_, .cons present hkind hmore, hfollows.append_error more⟩
    · rename_i changed w₁ r₁ he
      rw [he] at hm
      obtain ⟨present, hkind, hfollows⟩ := write_follows he
      obtain ⟨full, hfull, hfollows'⟩ := writeAll_follows es h
      rw [show w₁.mode = w.mode from hm] at hfull
      exact ⟨_, .cons present hkind hfull, hfollows.append hfollows'⟩

end Writer

/-! ## Runs -/

/-- Everything before the entries, from the first page on. -/
theorem prelude_follows {o : RunOptions} (positive : 0 < o.pageSize) {rs : List Resolved} {r r₁ r' : Recorded σ}
    {found : Snapshot} {result : Except ProvisionError Snapshot}
    (enumerated : takeSnapshot b.recorded.registry o.pageSize r = (.ok found, r₁))
    (created : createMissing b.recorded o (creationType rs) (found.missing (rs.map (·.triple))) found r₁ =
      (result, r')) :
    ∃ listed first ms, found = .ofListings listed ∧ Prelude o rs first listed ms ∧
      (∀ snapshot, result = .ok snapshot → snapshot = .ofListings ms) ∧
      Recorded.Follows b first r (endingOf id result) r' := by
  obtain ⟨pages, listed, hpages, hfound, hfollows⟩ := takeSnapshot_follows positive enumerated
  obtain rfl := hfound _ rfl
  rw [missing_ofListings] at created
  obtain ⟨more, ms, hbefore, hsnapshot, hfollows'⟩ := createMissing_follows positive hpages created
  exact ⟨listed, _, ms, rfl, hbefore, hsnapshot, hfollows.append hfollows'⟩

/-- A run that reaches the entries: everything before them, and then the calls for them. -/
theorem written_follows {o : RunOptions} (positive : 0 < o.pageSize) {general : GeneralSection} {rs : List Resolved}
    {r r₁ r₂ r' : Recorded σ} {found snapshot : Snapshot} {groups : List MarketGroup} {report : Report}
    {result : Except ProvisionError Report}
    (enumerated : takeSnapshot b.recorded.registry o.pageSize r = (.ok found, r₁))
    (created : createMissing b.recorded o (creationType rs) (found.missing (rs.map (·.triple))) found r₁ =
      (.ok snapshot, r₂))
    (collected : collectGroups general snapshot
      (if o.mode = .dryRun then found.missing (rs.map (·.triple)) else []) rs [] = .ok groups)
    (written : writeGroups b.recorded o report groups r₂ = (result, r')) :
    ∃ listed first ms rest ending, found = .ofListings listed ∧ Prelude o rs first listed ms ∧
      collectGroups general (.ofListings ms) (plannedTriples o.mode rs listed) rs [] = .ok groups ∧
      EntryCalls o.mode (groups.flatMap (·.entries)) rest ∧ Recorded.Follows b (first ++ rest) r ending r' ∧
      ending = result.map fun _ => () := by
  obtain ⟨listed, first, ms, rfl, hbefore, hsnapshot, hfollows⟩ := prelude_follows positive enumerated created
  obtain rfl := hsnapshot _ rfl
  rw [missing_ofListings] at collected
  obtain ⟨w, res, hw, hres⟩ := writeGroups_cases written
  obtain ⟨rest, hentries, hfollows'⟩ := Writer.writeAll_follows _ hw
  refine ⟨listed, first, ms, rest, _, rfl, hbefore, collected, hentries, hfollows.append hfollows', ?_⟩
  rcases hres with ⟨e, rfl, rfl⟩ | ⟨rfl, rfl⟩ <;> rfl

/-- **A run goes through a full sequence of calls, whatever its backend answers. It ends with the error of the call
that stopped it, or else with that of the look-ups.** -/
theorem provisionResolved_follows {o : RunOptions} (positive : 0 < o.pageSize) (general : GeneralSection)
    (rs : List Resolved) {r r' : Recorded σ} {result : Except ProvisionError Report}
    (h : provisionResolved b.recorded o general rs r = (result, r')) :
    ∃ full lookups ending, RunCalls o general rs full lookups ∧ Recorded.Follows b full r ending r' ∧
      (result.map fun _ => ()) = ending.bind fun _ => lookups.map fun _ => () := by
  have houtcome := provisionResolved_outcome b.recorded o general rs r
  rw [h] at houtcome
  cases houtcome with
  | notEnumerated enumerated =>
    obtain ⟨pages, ms, hpages, -, hfollows⟩ := takeSnapshot_follows positive enumerated
    obtain ⟨more, ms', hbefore⟩ := exists_prelude positive rs hpages
    obtain ⟨more', lookups, hfull⟩ := exists_runCalls general hbefore
    exact ⟨_, lookups, _, hfull, (hfollows.append_error more).append_error more', rfl⟩
  | notCreated enumerated created =>
    obtain ⟨listed, first, ms, rfl, hbefore, -, hfollows⟩ := prelude_follows positive enumerated created
    obtain ⟨more, lookups, hfull⟩ := exists_runCalls general hbefore
    exact ⟨_, lookups, _, hfull, hfollows.append_error more, rfl⟩
  | notFound enumerated created collected =>
    obtain ⟨listed, first, ms, rfl, hbefore, hsnapshot, hfollows⟩ := prelude_follows positive enumerated created
    obtain rfl := hsnapshot _ rfl
    rw [missing_ofListings] at collected
    exact ⟨_, _, _, .notFound hbefore collected, hfollows, rfl⟩
  | written enumerated created collected written =>
    obtain ⟨listed, first, ms, rest, ending, -, hbefore, hlookups, hentries, hfollows, rfl⟩ :=
      written_follows positive enumerated created collected written
    refine ⟨_, _, _, .found hbefore hlookups hentries, hfollows, ?_⟩
    cases result <;> rfl

/-! ## Registries that serve lists -/

/-- Every page is one of some list of fewer than 2^63 markets. -/
def Registry.ServesLists (registry : Registry σ) : Prop :=
  ∀ start stop s page, (registry.getMarkets start stop s).1 = .ok page →
    ∃ served : ServedList, served.markets.length < 2 ^ 63 ∧ page = served.page start stop

theorem ServedList.length_page_le (served : ServedList) (start stop : UInt64) :
    (served.page start stop).length ≤ served.markets.length - start.toNat := by
  simp only [ServedList.page, List.length_take, List.length_drop]
  omega

/-- After a full page positions are within the list that it is from, so they do not run out. -/
theorem enumerateFrom_ne_overflow {registry : Registry σ} (serves : registry.ServesLists) {size : UInt64}
    (positive : 0 < size.toNat) (start : UInt64) (s : σ)
    (hstart : start.toNat = 0 ∨ size.toNat ≤ start.toNat ∧ start.toNat < 2 ^ 63) :
    (enumerateFrom registry size positive start s).1 ≠ .error .positionOverflow := by
  fun_induction enumerateFrom registry size positive start s with
  | case1 => simp
  | case2 => simp
  | case3 start s h page s₁ hp hfull err s₂ hrest ih =>
    obtain ⟨served, hcount, hpage⟩ := serves _ _ _ _ (congrArg Prod.fst hp)
    have hlen := served.length_page_le start (start + size)
    rw [← hpage] at hlen
    rw [hrest] at ih
    refine ih (Or.inr ?_)
    rw [toNat_add_of_lt h]
    omega
  | case4 => simp
  | case5 start s h =>
    have hsize := size.toNat_lt
    rw [UInt64.size] at h
    omega

theorem takeSnapshot_ne_overflow {registry : Registry σ} (serves : registry.ServesLists) (size : UInt64) (s : σ) :
    (takeSnapshot registry size s).1 ≠ .error .positionOverflow := by
  have henum : (enumerate registry size s).1 ≠ .error .positionOverflow := by
    unfold enumerate
    split
    · simp
    · exact enumerateFrom_ne_overflow serves _ 0 s (Or.inl rfl)
  unfold takeSnapshot
  split
  · rename_i e s₁ he
    rw [he] at henum
    intro h
    exact henum (congrArg Except.error (Except.error.inj h))
  · simp

theorem createMissing_ne_overflow (serves : b.registry.ServesLists) (o : RunOptions) (typeOf : Triple → Bytes32)
    (missing : List Triple) (found : Snapshot) (s : σ) :
    (createMissing b o typeOf missing found s).1 ≠ .error (.enumeration .positionOverflow) := by
  unfold createMissing
  split
  · simp
  · simp
  · split
    · simp
    · rename_i s₁ hc
      have hsnap := takeSnapshot_ne_overflow serves o.pageSize s₁
      split
      · rename_i e s₂ hs
        rw [hs] at hsnap
        intro h
        exact hsnap (congrArg Except.error (ProvisionError.enumeration.inj (Except.error.inj h)))
      · simp

theorem collectGroups_error {general : GeneralSection} {snapshot : Snapshot} {planned : List Triple} :
    ∀ {rs : List Resolved} {groups : List MarketGroup} {e : ProvisionError},
      collectGroups general snapshot planned rs groups = .error e → ∃ t, e = .marketNotResolved t
  | [], _, _, h => by cases h
  | r :: rs, groups, e, h => by
    rw [collectGroups] at h
    split at h
    · exact collectGroups_error h
    · split at h
      · exact collectGroups_error h
      · cases h
        exact ⟨r.triple, rfl⟩

theorem provisionResolved_ne_overflow (serves : b.registry.ServesLists) (o : RunOptions) (general : GeneralSection)
    (rs : List Resolved) (s : σ) :
    (provisionResolved b o general rs s).1 ≠ .error (.enumeration .positionOverflow) := by
  have houtcome := provisionResolved_outcome b o general rs s
  intro h
  rw [h] at houtcome
  generalize (provisionResolved b o general rs s).2 = s' at houtcome
  cases houtcome with
  | notEnumerated enumerated =>
    have hne := takeSnapshot_ne_overflow serves o.pageSize s
    rw [enumerated] at hne
    exact hne rfl
  | @notCreated found s₁ _ _ enumerated created =>
    have hne := createMissing_ne_overflow serves o (creationType rs) (found.missing (rs.map (·.triple))) found s₁
    rw [created] at hne
    exact hne rfl
  | notFound enumerated created collected =>
    obtain ⟨t, ht⟩ := collectGroups_error collected
    cases ht
  | written enumerated created collected written =>
    obtain ⟨w, res, -, ⟨e, -, he⟩ | ⟨-, he⟩⟩ := writeGroups_cases written
    · cases he
    · cases he

/-! ## The calls of a run -/

/-- A run for definitions that all resolve, with the sequence that its calls go through. -/
theorem provision_follows (b : Backend σ) {o : RunOptions} (positive : 0 < o.pageSize) {c : Config}
    (nonempty : c.markets ≠ []) {rs : List Resolved} (resolved : resolveAll c.tokens c.markets = .ok rs) (s : σ) :
    ∃ result after calls full lookups ending, provision b o c s = (result, after) ∧
      provision b.recorded o c ⟨s, []⟩ = (result, ⟨after, calls⟩) ∧ RunCalls o c.general rs full lookups ∧
      Follows b full s calls ending after ∧
      (result.map fun _ => ()) = ending.bind fun _ => lookups.map fun _ => () := by
  obtain ⟨calls, hrecorded⟩ := provision_recorded b o c ⟨s, []⟩
  obtain ⟨result, after, hrun⟩ : ∃ result after, provision b o c s = (result, after) := ⟨_, _, rfl⟩
  rw [hrun, Recorded.after, List.nil_append] at hrecorded
  have hresolved := hrecorded
  rw [provision_of_resolved b.recorded o nonempty resolved] at hresolved
  obtain ⟨full, lookups, ending, hlegal, ⟨new, hnew, hfollows⟩, hconcluded⟩ :=
    provisionResolved_follows positive c.general rs hresolved
  obtain rfl : calls = new := by simpa using hnew
  exact ⟨result, after, calls, full, lookups, ending, hrun, hrecorded, hlegal, hfollows, hconcluded⟩

/-- The calls of a run, how it ends and the state it leaves. Without definitions, and where one of them does not
resolve, nothing is called. -/
inductive Course (b : Backend σ) (o : RunOptions) (c : Config) (s : σ) :
    List CallRecord → Except ProvisionError Report → σ → Prop
  | skipped (none : c.markets = []) : Course b o c s [] (.ok .skip) s
  | unresolved {e} (some : c.markets ≠ []) (resolved : resolveAll c.tokens c.markets = .error e) :
    Course b o c s [] (.error (.resolve e)) s
  | conducted {rs full lookups calls ending result s'} (some : c.markets ≠ [])
    (resolved : resolveAll c.tokens c.markets = .ok rs) (legal : RunCalls o c.general rs full lookups)
    (follows : Follows b full s calls ending s')
    (concluded : (result.map fun _ => ()) = ending.bind fun _ => lookups.map fun _ => ()) :
    Course b o c s calls result s'

/-- **Whatever a backend answers, the calls of a run go through a full sequence up to the first that fails, and its
error is that of the run. The store is called after everything else, and only if all markets are found; a dry
run changes nothing; and where the registry serves lists positions do not run out.** -/
theorem calls_in_order (b : Backend σ) (o : RunOptions) (positive : 0 < o.pageSize) (c : Config) (s : σ) :
    ∃ result after calls, provision b o c s = (result, after) ∧
      provision b.recorded o c ⟨s, []⟩ = (result, ⟨after, calls⟩) ∧ Course b o c s calls result after ∧
      (∀ pre call post, calls = pre ++ call :: post → call.isStoreCall = true →
        ∃ rs first found ms groups, resolveAll c.tokens c.markets = .ok rs ∧ Prelude o rs first found ms ∧
          first <+: pre ∧
          collectGroups c.general (.ofListings ms) (plannedTriples o.mode rs found) rs [] = .ok groups) ∧
      (o.mode = .dryRun → ∀ call ∈ calls, call.isChange = false) ∧
      (b.registry.ServesLists → result ≠ .error (.enumeration .positionOverflow)) := by
  by_cases hnil : c.markets = []
  · refine ⟨.ok .skip, s, [], provision_of_nil b o hnil s, provision_of_nil b.recorded o hnil _, .skipped hnil,
      ?_, by simp, by simp⟩
    intro pre call post hcalls
    simp at hcalls
  cases hres : resolveAll c.tokens c.markets with
  | error e =>
    refine ⟨_, s, [], provision_of_unresolved b o hnil hres s, provision_of_unresolved b.recorded o hnil hres _,
      .unresolved hnil hres, ?_, by simp, by simp⟩
    intro pre call post hcalls
    simp at hcalls
  | ok rs =>
    obtain ⟨result, after, calls, full, lookups, ending, hrun, hrecorded, hlegal, hfollows, hconcluded⟩ :=
      provision_follows b positive hnil hres s
    refine ⟨result, after, calls, hrun, hrecorded, .conducted hnil hres hlegal hfollows hconcluded, ?_, ?_, ?_⟩
    · intro pre call post hcalls hstore
      obtain ⟨first, found, ms, groups, hbefore⟩ := hlegal.prefix_of_storeCall hfollows hcalls hstore
      exact ⟨rs, first, found, ms, groups, rfl, hbefore⟩
    · intro dry
      exact hfollows.forall_eq CallRecord.isChange_failed (hlegal.not_change dry)
    · intro serves
      have hne := provisionResolved_ne_overflow serves o c.general rs s
      rwa [← provision_of_resolved b o hnil hres, hrun] at hne

/-! ## A run whose second enumeration fails -/

/-- Creations without effect, and a second page that fails. -/
def secondPageFails : Backend (Faulty Ledger) :=
  Ledger.backend.withFaults { creation := .silent, failingPage := some 1 }

/-- The calls of the run: a page, a creation, and the page that fails. -/
def callsToSecondPage : List CallRecord :=
  [.getMarkets 0 1000 (some []), .createMarket twoCapsTriple twoCaps.typeHash (some ()), .getMarkets 0 1000 none]

theorem provision_secondPageFails : ∃ after,
    provision secondPageFails.recorded {} twoCapsConfig ⟨{ state := .empty }, []⟩ =
      (.error (.enumeration (.call (.pageFailed 1))), ⟨after, callsToSecondPage⟩) := by
  let l : Ledger := { Ledger.empty with stats.registryPages := 1 }
  have hmissing : (Snapshot.ofListings []).missing [twoCapsTriple] = [twoCapsTriple] := by decide
  have hfirst : takeSnapshot secondPageFails.recorded.registry 1000 ⟨{ state := .empty }, []⟩ =
      (.ok (.ofListings []), ⟨{ state := l, pages := 1 }, callsToSecondPage.take 1⟩) :=
    takeSnapshot_of_short rfl (by decide)
  have hcreate : createAll secondPageFails.recorded.factory (creationType [twoCapsResolved]) [twoCapsTriple]
      ⟨{ state := l, pages := 1 }, callsToSecondPage.take 1⟩ =
      (.ok (), ⟨{ state := l, pages := 1, creations := 1 }, callsToSecondPage.take 2⟩) := rfl
  have hsecond : takeSnapshot secondPageFails.recorded.registry 1000
      ⟨{ state := l, pages := 1, creations := 1 }, callsToSecondPage.take 2⟩ =
      (.error (.call (.pageFailed 1)), ⟨{ state := l, pages := 2, creations := 1 }, callsToSecondPage⟩) :=
    takeSnapshot_of_error (by decide) rfl
  refine ⟨{ state := l, pages := 2, creations := 1 }, ?_⟩
  rw [provision_of_resolved _ _ (by simp [twoCapsConfig]) resolveAll_twoCaps]
  simp only [provisionResolved, hfirst, List.map_cons, List.map_nil, triple_twoCapsResolved, hmissing, createMissing,
    hcreate, hsecond]

/-- One market is missing: it is asked for between two enumerations, the second of which fails and ends the run. -/
theorem calls_of_secondPageFails : ∃ after,
    provision secondPageFails.recorded {} twoCapsConfig ⟨{ state := .empty }, []⟩ =
      (.error (.enumeration (.call (.pageFailed 1))), ⟨after, callsToSecondPage⟩) ∧
    Course secondPageFails {} twoCapsConfig { state := .empty } callsToSecondPage
      (.error (.enumeration (.call (.pageFailed 1)))) after := by
  obtain ⟨result, after, calls, -, hrecorded, hcourse, -⟩ :=
    calls_in_order secondPageFails {} (by decide) twoCapsConfig { state := .empty }
  obtain ⟨after', hrun⟩ := provision_secondPageFails
  rw [hrun] at hrecorded
  cases hrecorded
  exact ⟨_, hrun, hcourse⟩

end MarketSync

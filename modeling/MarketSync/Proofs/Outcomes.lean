import MarketSync.Proofs.Runs

/-!
# Reports and failures of runs

Where every call does its work a run can only fail because positions run out before the last page. Whether they do
depends on nothing but the page size and the number of markets. The report of a run that succeeds depends on nothing
but what was there before and what is configured.

* `takeSnapshot_eq_ite` — an enumeration succeeds exactly if the pages of all markets fit.
* `Writer.writeAll_works` — entries are all written where no key refuses writes, and each is counted.
* `provisionResolved_fits` — so does a run, for the markets that there are at its end, and then its report says what
  there was to do.
* `provisionResolved_unfit` — otherwise it fails at the first or the second enumeration.
-/

namespace MarketSync

variable {σ : Type} {b : Backend σ} {r : Registry σ} {view : σ → Contents} {o : RunOptions}

/-! ## Pages that fit -/

/-- Where the first short page ends, if pages of a size are read from a position on and there are so many markets. -/
def lastEnd (size count start : Nat) : Nat :=
  start + ((count - start) / size + 1) * size

theorem lastEnd_of_short {size count start : Nat} (short : count - start < size) :
    lastEnd size count start = start + size := by
  rw [lastEnd, Nat.div_eq_of_lt short, Nat.zero_add, Nat.one_mul]

theorem lastEnd_of_full {size count start : Nat} (positive : 0 < size) (full : size ≤ count - start) :
    lastEnd size count start = lastEnd size count (start + size) := by
  rw [lastEnd, lastEnd, Nat.div_eq_sub_div positive full, ← Nat.sub_sub, Nat.succ_mul ((count - start - size) / size + 1)]
  omega

theorem add_le_lastEnd (size count start : Nat) : start + size ≤ lastEnd size count start := by
  rw [lastEnd, Nat.succ_mul]
  omega

theorem lastEnd_mono {size n count : Nat} (start : Nat) (h : n ≤ count) :
    lastEnd size n start ≤ lastEnd size count start :=
  Nat.add_le_add_left (Nat.mul_le_mul_right _ (Nat.succ_le_succ (Nat.div_le_div_right (Nat.sub_le_sub_right h _)))) _

/-- Pages of a size can be asked for up to the first short one, if there are so many markets. -/
def Fits (size : UInt64) (count : Nat) : Prop :=
  0 < size.toNat ∧ lastEnd size.toNat count 0 < UInt64.size

instance (size : UInt64) (count : Nat) : Decidable (Fits size count) := inferInstanceAs (Decidable (_ ∧ _))

theorem Fits.mono {size : UInt64} {n count : Nat} (h : Fits size count) (hle : n ≤ count) : Fits size n :=
  ⟨h.1, Nat.lt_of_le_of_lt (lastEnd_mono 0 hle) h.2⟩

/-- Fewer than 2^63 markets fit into pages of any size. -/
theorem Fits.of_lt {size : UInt64} {count : Nat} (positive : 0 < size) (hlt : count < 2 ^ 63) : Fits size count := by
  have hsize := size.toNat_lt
  refine ⟨positive, ?_⟩
  by_cases hshort : count - 0 < size.toNat
  · rw [lastEnd_of_short hshort, UInt64.size]
    omega
  · have hdiv := Nat.div_mul_le_self (count - 0) size.toNat
    rw [lastEnd, Nat.succ_mul, UInt64.size]
    omega

/-- Why an enumeration with pages of a size fails though no page does. -/
def pageFault (size : UInt64) : EnumerationError :=
  if size.toNat = 0 then .pageSizeZero else .positionOverflow

/-- Pages are read from a position on exactly if the last one ends at a position. -/
theorem enumerateFrom_cases (hr : r.Works view) {size : UInt64} (positive : 0 < size.toNat) (start : UInt64) (s : σ) :
    (lastEnd size.toNat (view s).markets.length start.toNat < UInt64.size ∧
      ∃ ms, (enumerateFrom r size positive start s).1 = .ok ms) ∨
    (UInt64.size ≤ lastEnd size.toNat (view s).markets.length start.toNat ∧
      (enumerateFrom r size positive start s).1 = .error .positionOverflow) := by
  -- how many markets a page holds
  have hlength {start : UInt64} {s s₁ : σ} {page : List Listing} (h : start.toNat + size.toNat < UInt64.size)
      (hp : r.getMarkets start (start + size) s = (.ok page, s₁)) :
      page.length = min size.toNat ((view s).markets.length - start.toNat) := by
    rw [hr.page_ok (congrArg Prod.fst hp), toNat_add_of_lt h, List.length_drop, List.length_take]
    omega
  -- behind a full page the same pages are left
  have hsame {start : UInt64} {s s₁ : σ} {page : List Listing} (h : start.toNat + size.toNat < UInt64.size)
      (hp : r.getMarkets start (start + size) s = (.ok page, s₁)) (hfull : ¬ page.length < size.toNat) :
      lastEnd size.toNat (view s₁).markets.length (start + size).toNat =
        lastEnd size.toNat (view s).markets.length start.toNat := by
    have hv := hr.view_page start (start + size) s
    rw [hp] at hv
    rw [hlength h hp] at hfull
    rw [hv, toNat_add_of_lt h, ← lastEnd_of_full positive (by omega)]
  fun_induction enumerateFrom r size positive start s with
  | case1 start s h err s₁ hp =>
    obtain ⟨page, hok⟩ := hr.page_succeeds start (start + size) s
    rw [hp] at hok
    cases hok
  | case2 start s h page s₁ hp hshort =>
    rw [hlength h hp] at hshort
    refine Or.inl ⟨?_, page, rfl⟩
    rw [lastEnd_of_short (by omega)]
    exact h
  | case3 start s h page s₁ hp hfull err s₂ hrest ih =>
    rw [hrest, hsame h hp hfull] at ih
    rcases ih with ⟨-, ms, hok⟩ | hfail
    · cases hok
    · exact Or.inr hfail
  | case4 start s h page s₁ hp hfull rest s₂ hrest ih =>
    rw [hrest, hsame h hp hfull] at ih
    rcases ih with ⟨hlt, -⟩ | ⟨-, herror⟩
    · exact Or.inl ⟨hlt, page ++ rest, rfl⟩
    · cases herror
  | case5 start s h =>
    exact Or.inr ⟨Nat.le_trans (Nat.le_of_not_lt h) (add_le_lastEnd _ _ _), rfl⟩

theorem enumerate_cases (hr : r.Works view) (size : UInt64) (s : σ) :
    (Fits size (view s).markets.length ∧ ∃ ms, (enumerate r size s).1 = .ok ms) ∨
    (¬ Fits size (view s).markets.length ∧ (enumerate r size s).1 = .error (pageFault size)) := by
  unfold enumerate
  by_cases hzero : size.toNat = 0
  · rw [dif_pos hzero, pageFault, if_pos hzero]
    exact Or.inr ⟨fun fits => absurd fits.1 (by omega), rfl⟩
  · rw [dif_neg hzero, pageFault, if_neg hzero]
    have hpos := Nat.pos_of_ne_zero hzero
    exact (enumerateFrom_cases hr hpos 0 s).imp (fun h => ⟨⟨hpos, h.1⟩, h.2⟩)
      fun h => ⟨fun fits => absurd fits.2 (Nat.not_lt_of_le h.1), h.2⟩

/-- **An enumeration succeeds exactly if its pages fit.** -/
theorem takeSnapshot_eq_ite (hr : r.Works view) (size : UInt64) (s : σ) : ∃ s', view s' = view s ∧
    takeSnapshot r size s = (if Fits size (view s).markets.length then .ok (.ofListings (view s).markets)
      else .error (pageFault size), s') := by
  have hview := view_enumerate hr.toConforms size s
  refine ⟨(enumerate r size s).2, hview, ?_⟩
  unfold takeSnapshot
  rcases enumerate_cases hr size s with ⟨fits, ms, hok⟩ | ⟨unfit, herror⟩
  · have hms := enumerate_ok hr.toConforms hok
    have hrun : enumerate r size s = (.ok ms, (enumerate r size s).2) := by rw [← hok]
    rw [hrun, if_pos fits, hms]
  · have hrun : enumerate r size s = (.error (pageFault size), (enumerate r size s).2) := by rw [← herror]
    rw [hrun, if_neg unfit]

/-! ## Runs that fit -/

/-- Creations on a working backend are all made, and the snapshot after them is that of all markets, if it fits. -/
theorem createMissing_eq_ite (hb : b.Works view) (apply : o.mode = .apply) (typeOf : Triple → Bytes32)
    {missing : List Triple} (s : σ) (hnodup : missing.Nodup)
    (hnew : ∀ t ∈ missing, t ∉ (view s).markets.map (·.triple)) (fits : Fits o.pageSize (view s).markets.length) :
    ∃ s', view s' = (view s).register (missing.map fun t => t.listing (typeOf t)) ∧
      createMissing b o typeOf missing (.ofListings (view s).markets) s =
        (if Fits o.pageSize (view s').markets.length then .ok (.ofListings (view s').markets)
          else .error (.enumeration (pageFault o.pageSize)), s') := by
  cases missing with
  | nil =>
    have hnone := (view s).register_nil
    refine ⟨s, hnone.symm, ?_⟩
    simp only [createMissing, apply, if_pos fits]
  | cons t ts =>
    obtain ⟨result, s₁, hc⟩ : ∃ result s₁, createAll b.factory typeOf (t :: ts) s = (result, s₁) := ⟨_, _, rfl⟩
    have hok := createAll_succeeds hb.factory typeOf (t :: ts) s hnodup hnew
    rw [hc] at hok
    subst hok
    obtain ⟨k, hv, hall⟩ := createAll_prefix hb.factory.toConforms typeOf (t :: ts) hc
    rw [hall rfl] at hv
    obtain ⟨s₂, hv₂, hsnap⟩ := takeSnapshot_eq_ite hb.registry o.pageSize s₁
    refine ⟨s₂, hv₂.trans hv, ?_⟩
    by_cases hfits : Fits o.pageSize (view s₁).markets.length
    · simp only [createMissing, apply, hc, hsnap, hv₂, if_pos hfits]
    · simp only [createMissing, apply, hc, hsnap, hv₂, if_neg hfits]

/-- The phases of a run on a working backend up to the writing of entries. -/
theorem phases_of_works (hb : b.Works view) (apply : o.mode = .apply) (rs : List Resolved) (s : σ)
    (fits : Fits o.pageSize (view s).markets.length) : ∃ s₁ s₂,
    takeSnapshot b.registry o.pageSize s = (.ok (.ofListings (view s).markets), s₁) ∧
    view s₂ = (view s).created rs ∧
    createMissing b o (creationType rs) ((Snapshot.ofListings (view s).markets).missing (rs.map (·.triple)))
      (.ofListings (view s).markets) s₁ =
      (if Fits o.pageSize (registerAll (view s).markets rs).length
        then .ok (.ofListings (registerAll (view s).markets rs))
        else .error (.enumeration (pageFault o.pageSize)), s₂) := by
  obtain ⟨s₁, hv, enumerated⟩ := takeSnapshot_eq_ite hb.registry o.pageSize s
  rw [if_pos fits] at enumerated
  obtain ⟨s₂, hv₂, created⟩ := createMissing_eq_ite hb apply (creationType rs) s₁
    (nodup_unregistered (view s).markets (rs.map (·.triple)))
    (by rw [hv]; exact fun t ht => (mem_unregistered.1 ht).2) (by rwa [hv])
  rw [hv] at hv₂ created
  have hcreated : view s₂ = (view s).created rs := hv₂
  rw [hcreated, Contents.markets_created] at created
  refine ⟨s₁, s₂, enumerated, hcreated, ?_⟩
  rw [missing_ofListings, created]

/-- **A run for markets that do not fit fails at the first or the second enumeration, before any slot changes.** -/
theorem provisionResolved_unfit (hb : b.Works view) (apply : o.mode = .apply) (general : GeneralSection)
    (rs : List Resolved) (s : σ) (unfit : ¬ Fits o.pageSize (registerAll (view s).markets rs).length) :
    ∃ s', provisionResolved b o general rs s = (.error (.enumeration (pageFault o.pageSize)), s') ∧
      (view s').slots = (view s).slots ∧ (view s').markets =
        if Fits o.pageSize (view s).markets.length then registerAll (view s).markets rs else (view s).markets := by
  by_cases fits : Fits o.pageSize (view s).markets.length
  · obtain ⟨s₁, s₂, enumerated, hv, created⟩ := phases_of_works hb apply rs s fits
    rw [if_neg unfit] at created
    refine ⟨s₂, ?_, by rw [hv, Contents.slots_created], by rw [hv, if_pos fits, Contents.markets_created]⟩
    simp only [provisionResolved, enumerated, created]
  · obtain ⟨s₁, hv, enumerated⟩ := takeSnapshot_eq_ite hb.registry o.pageSize s
    rw [if_neg fits] at enumerated
    refine ⟨s₁, ?_, by rw [hv], by rw [hv, if_neg fits]⟩
    rw [provisionResolved, enumerated]

/-- Entries that are all written: each took a read, those that change a slot a write, and the others are counted as
unchanged. Nothing is noted. -/
theorem Writer.writeAll_stats {store : Store σ} (hs : store.Conforms view) : ∀ (es : List Entry) {w w' : Writer}
    {s s' : σ}, w.mode = .apply → writeAll store w es s = (.ok (), w', s') →
    w'.pending = w.pending ∧ w'.stats.reads = w.stats.reads + es.length ∧
      w'.stats.writes = w.stats.writes + ((view s).slots.changed es).length ∧
      w'.stats.unchanged = w.stats.unchanged + (es.length - ((view s).slots.changed es).length)
  | [], w, w', s, s', _, h => by
    cases h
    exact ⟨rfl, rfl, rfl, rfl⟩
  | e :: es, w, w', s, s', apply, h => by
    have hm := mode_write store w e s
    rw [writeAll] at h
    split at h
    · cases h
    · rename_i changed w₁ s₁ he
      rw [he] at hm
      obtain ⟨hv, -, -, hw⟩ := write_ok hs apply he
      obtain ⟨hpending, hreads, hwrites, hunchanged⟩ := writeAll_stats hs es (hm.trans apply) h
      have hle := ((view s₁).slots.changed_sublist es).length_le
      rw [hv] at hwrites hunchanged hle
      rw [hpending, hreads, hwrites, hunchanged, Slots.changed_cons, List.length_append, List.length_cons, hw]
      simp only [Contents.slots_settleAll, Slots.settleAll_cons, Slots.settleAll_nil] at hle ⊢
      by_cases hh : (view s).slots.Holds e
      · simp only [if_pos hh, countUnchanged, countRead, List.length_nil, true_and]
        omega
      · simp only [if_neg hh, countWrite, countRead, List.length_singleton, true_and]
        omega

theorem Writer.writeAll_works {store : Store σ} (hs : store.Works view) {es : List Entry} {s : σ}
    (free : (view s).Unblocked es) : ∃ w s', writeAll store { mode := .apply } es s = (.ok (), w, s') ∧
      view s' = (view s).settleAll es ∧ w.pending = [] ∧
      w.stats = ⟨es.length, ((view s).slots.changed es).length, es.length - ((view s).slots.changed es).length⟩ := by
  have hok := writeAll_succeeds hs (w := { mode := .apply }) rfl free
  obtain ⟨result, w, s', hw⟩ : ∃ result w s', writeAll store { mode := .apply } es s = (result, w, s') := ⟨_, _, _, rfl⟩
  rw [hw] at hok
  subst hok
  obtain ⟨pre, -, hv, hall⟩ := writeAll_prefix hs.toConforms es rfl hw
  obtain ⟨hpending, hreads, hwrites, hunchanged⟩ := writeAll_stats hs.toConforms es rfl hw
  rw [hall rfl] at hv
  simp only [Nat.zero_add] at hreads hwrites hunchanged
  refine ⟨w, s', hw, hv, hpending, ?_⟩
  rw [← hunchanged, ← hreads, ← hwrites]

/-- The report of a run that creates all that is missing and settles all entries. -/
def fullReport (general : GeneralSection) (before : Contents) (rs : List Resolved) : Report :=
  let groups := groupsOf general (registerAll before.markets rs) rs
  let es := groups.flatMap (·.entries)
  let changed := before.slots.changed es
  { marketsExisting := countTriples (rs.map (·.triple)) - (unregistered before.markets (rs.map (·.triple))).length
    marketsCreated := unregistered before.markets (rs.map (·.triple))
    marketsSynced := groups.length
    writer := ⟨es.length, changed.length, es.length - changed.length⟩ }

/-- **A run for markets that fit succeeds where no key refuses writes, and reports what there was to do.** -/
theorem provisionResolved_fits (hb : b.Works view) (apply : o.mode = .apply) (general : GeneralSection)
    (rs : List Resolved) (s : σ) (fits : Fits o.pageSize (registerAll (view s).markets rs).length)
    (free : (view s).reverting = []) : ∃ s',
    provisionResolved b o general rs s = (.ok (fullReport general (view s) rs), s') ∧
    (view s').markets = registerAll (view s).markets rs ∧ (view s').slots = (view s).slots.settleAll
      ((groupsOf general (registerAll (view s).markets rs) rs).flatMap (·.entries)) := by
  have hfits : Fits o.pageSize (view s).markets.length := fits.mono (by simp [registerAll])
  obtain ⟨s₁, s₂, enumerated, hv, created⟩ := phases_of_works hb apply rs s hfits
  rw [if_pos fits] at created
  have collected : collectGroups general (.ofListings (registerAll (view s).markets rs)) [] rs [] = .ok _ :=
    collectGroups_succeeds general fun r hr => Or.inl (mem_triples_registerAll (view s).markets hr)
  have hfree : (view s₂).Unblocked ((groupsOf general (registerAll (view s).markets rs) rs).flatMap (·.entries)) := by
    intro e _ hk
    rw [hv, Contents.reverting_created, free] at hk
    cases hk
  obtain ⟨w, s', hw, hv', hpending, hstats⟩ := Writer.writeAll_works hb.store hfree
  rw [hv] at hv'
  rw [hv, Contents.slots_created] at hstats
  refine ⟨s', ?_, congrArg Contents.markets hv', congrArg Contents.slots hv'⟩
  simp only [provisionResolved, Report.started, enumerated, created, apply, reduceCtorEq, if_false, if_true, collected,
    writeGroups, hw]
  simp only [fullReport, missing_ofListings, hpending, hstats]

end MarketSync

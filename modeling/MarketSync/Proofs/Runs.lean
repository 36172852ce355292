import MarketSync.Proofs.Creation
import MarketSync.Proofs.Merging
import MarketSync.Proofs.Writing

/-!
# What a run does

`RunOutcome` lists the ways in which a run can end, phase by phase. From it follow, for runs that are not
dry and a view to which the backend conforms:

* `provision_prefix` — whatever happens, a first part of the missing markets is created; once all of them
  are, a first part of the merged entries is settled.
* `provision_ok` — a run that succeeds creates all and settles all.
* `provision_works` — on a working backend only a key that refuses writes stops a run.

A configuration without markets is no special case in them: it has no definitions and no entries.
-/

namespace MarketSync

variable {σ : Type} {b : Backend σ} {view : σ → Contents} {o : RunOptions}

/-! ## The ways in which a run can end -/

/-- How a run for resolved definitions ends: without a snapshot, without all creations, with a market
that is not found, or in its last phase, the writing of entries. -/
inductive RunOutcome (b : Backend σ) (o : RunOptions) (general : GeneralSection) (rs : List Resolved)
    (s : σ) : Except ProvisionError Report → σ → Prop
  | notEnumerated {e s'} (enumerated : takeSnapshot b.registry o.pageSize s = (.error e, s')) :
    RunOutcome b o general rs s (.error (.enumeration e)) s'
  | notCreated {found s₁ e s'} (enumerated : takeSnapshot b.registry o.pageSize s = (.ok found, s₁))
    (created : createMissing b o (creationType rs) (found.missing (rs.map (·.triple))) found s₁ =
      (.error e, s')) : RunOutcome b o general rs s (.error e) s'
  | notFound {found s₁ snapshot s' e}
    (enumerated : takeSnapshot b.registry o.pageSize s = (.ok found, s₁))
    (created : createMissing b o (creationType rs) (found.missing (rs.map (·.triple))) found s₁ =
      (.ok snapshot, s'))
    (collected : collectGroups general snapshot
      (if o.mode = .dryRun then found.missing (rs.map (·.triple)) else []) rs [] = .error e) :
    RunOutcome b o general rs s (.error e) s'
  | written {found s₁ snapshot s₂ groups result s'}
    (enumerated : takeSnapshot b.registry o.pageSize s = (.ok found, s₁))
    (created : createMissing b o (creationType rs) (found.missing (rs.map (·.triple))) found s₁ =
      (.ok snapshot, s₂))
    (collected : collectGroups general snapshot
      (if o.mode = .dryRun then found.missing (rs.map (·.triple)) else []) rs [] = .ok groups)
    (written : writeGroups b o (.started o (rs.map (·.triple)) (found.missing (rs.map (·.triple)))) groups s₂ =
      (result, s')) : RunOutcome b o general rs s result s'

theorem provisionResolved_outcome (b : Backend σ) (o : RunOptions) (general : GeneralSection)
    (rs : List Resolved) (s : σ) : RunOutcome b o general rs s
      (provisionResolved b o general rs s).1 (provisionResolved b o general rs s).2 := by
  rw [provisionResolved]
  split
  · rename_i e s₁ enumerated
    exact .notEnumerated enumerated
  · rename_i found s₁ enumerated
    dsimp only
    split
    · rename_i e s₂ created
      exact .notCreated enumerated created
    · rename_i snapshot s₂ created
      split
      · rename_i e collected
        exact .notFound enumerated created collected
      · rename_i groups collected
        exact .written enumerated created collected rfl

/-- The writing phase succeeds or fails with the writer. -/
theorem writeGroups_cases {report : Report} {groups : List MarketGroup} {s s' : σ}
    {result : Except ProvisionError Report} (h : writeGroups b o report groups s = (result, s')) :
    ∃ w written, Writer.writeAll b.store { mode := o.mode } (groups.flatMap (·.entries)) s =
        (written, w, s') ∧
      ((∃ e, written = .error e ∧ result = .error (.call e)) ∨ written = .ok () ∧ result = .ok { report with
        marketsSynced := groups.length
        writer := w.stats
        pendingWrites := w.pending }) := by
  rw [writeGroups] at h
  split at h
  · rename_i e w s₁ hw
    cases h
    exact ⟨w, _, hw, Or.inl ⟨e, rfl, rfl⟩⟩
  · rename_i w s₁ hw
    cases h
    exact ⟨w, _, hw, Or.inr ⟨rfl, rfl⟩⟩

/-! ## Runs that are not dry -/

/-- What a run that is not dry makes of what it finds, if nothing stops it. -/
def Contents.created (c : Contents) (rs : List Resolved) : Contents :=
  c.register (creations rs (unregistered c.markets (rs.map (·.triple))))

@[simp] theorem Contents.markets_created (c : Contents) (rs : List Resolved) :
    (c.created rs).markets = registerAll c.markets rs := rfl

@[simp] theorem Contents.slots_created (c : Contents) (rs : List Resolved) : (c.created rs).slots = c.slots := rfl

@[simp] theorem Contents.reverting_created (c : Contents) (rs : List Resolved) :
    (c.created rs).reverting = c.reverting := rfl

theorem planned_eq_nil (apply : o.mode = .apply) (ts : List Triple) :
    (if o.mode = .dryRun then ts else []) = [] := by
  rw [apply]
  rfl

/-- The first snapshot and the creations after it. -/
theorem creation_phase (hr : b.registry.Conforms view)
    (hf : b.factory.Conforms view ∨ b.factory.Silent view) (apply : o.mode = .apply)
    {rs : List Resolved} {s s₁ s₂ : σ} {found : Snapshot} {result : Except ProvisionError Snapshot}
    (enumerated : takeSnapshot b.registry o.pageSize s = (.ok found, s₁))
    (created : createMissing b o (creationType rs) (found.missing (rs.map (·.triple))) found s₁ =
      (result, s₂)) :
    ∃ k, view s₂ = (view s).register
        (creations rs ((unregistered (view s).markets (rs.map (·.triple))).take k)) ∧
      (∀ snapshot, result = .ok snapshot → snapshot = .ofListings (view s₂).markets) ∧
      (b.factory.Conforms view → ∀ snapshot, result = .ok snapshot → view s₂ = (view s).created rs) := by
  obtain ⟨rfl, hv⟩ := takeSnapshot_ok hr enumerated
  rw [missing_ofListings, ← hv] at created
  obtain ⟨k, hv₂, hsnap, hall⟩ := createMissing_prefix hr hf apply created
  rw [hv] at hv₂ hall
  refine ⟨k, hv₂, hsnap, fun hconf snapshot hok => ?_⟩
  rw [hv₂, hall hconf snapshot hok]
  rfl

/-- **Whatever happens, a first part of the missing markets is created; once all of them are, a first part
of the merged entries is settled.** -/
theorem provisionResolved_prefix (hs : b.store.Conforms view) (hr : b.registry.Conforms view)
    (hf : b.factory.Conforms view ∨ b.factory.Silent view) (apply : o.mode = .apply)
    (general : GeneralSection) (rs : List Resolved) (s : σ) :
    (∃ k, view (provisionResolved b o general rs s).2 = (view s).register
      (creations rs ((unregistered (view s).markets (rs.map (·.triple))).take k))) ∨
    ∃ es pre, mergedEntries general (registerAll (view s).markets rs) rs = .ok es ∧ pre <+: es ∧
      view (provisionResolved b o general rs s).2 = ((view s).created rs).settleAll pre := by
  have houtcome := provisionResolved_outcome b o general rs s
  generalize (provisionResolved b o general rs s).1 = result at houtcome
  generalize (provisionResolved b o general rs s).2 = s' at houtcome
  cases houtcome with
  | @notEnumerated _ _ enumerated =>
    have hv := view_takeSnapshot hr o.pageSize s
    rw [enumerated] at hv
    exact Or.inl ⟨0, hv.trans ((view s).register_nil).symm⟩
  | notCreated enumerated created =>
    obtain ⟨k, hv, -, -⟩ := creation_phase hr hf apply enumerated created
    exact Or.inl ⟨k, hv⟩
  | notFound enumerated created collected =>
    obtain ⟨k, hv, -, -⟩ := creation_phase hr hf apply enumerated created
    exact Or.inl ⟨k, hv⟩
  | @written found s₁ snapshot s₂ groups result s' enumerated created collected written =>
    obtain ⟨k, hv, hsnap, -⟩ := creation_phase hr hf apply enumerated created
    rw [planned_eq_nil apply, hsnap snapshot rfl, hv] at collected
    -- entries are only collected where every market is found, so none was left out
    have hregistered := (collectGroups_ok collected).2
    have hcreated : view s₂ = (view s).created rs := by
      have hself := registerAll_eq_self hregistered
      rw [Contents.markets_register, registerAll_append] at hself
      rw [hv, Contents.created, Contents.register, Contents.register, ← hself]
      rfl
    rw [← hv, hcreated, Contents.markets_created] at collected
    obtain ⟨w, res, hw, -⟩ := writeGroups_cases written
    obtain ⟨pre, hpre, hv', -⟩ := Writer.writeAll_prefix hs _ apply hw
    refine Or.inr ⟨_, pre, ?_, hpre, by rw [hv', hcreated]⟩
    rw [mergedEntries, collected]
    rfl

/-- A run has done all there was to do: it created what was missing and settled all merged entries. -/
structure Provisioned (general : GeneralSection) (rs : List Resolved) (es : List Entry)
    (before after : Contents) (report : Report) : Prop where
  merged : mergedEntries general (registerAll before.markets rs) rs = .ok es
  unblocked : before.Unblocked es
  after_eq : after = (before.created rs).settleAll es
  created_eq : report.marketsCreated = unregistered before.markets (rs.map (·.triple))
  planned_eq : report.marketsPlanned = []
  reads_eq : report.writer.reads = es.length
  writes_eq : report.writer.writes = (before.slots.changed es).length

section

variable {general : GeneralSection} {rs : List Resolved} {es : List Entry} {before after : Contents}
  {report : Report}

theorem Provisioned.markets_eq (h : Provisioned general rs es before after report) :
    after.markets = registerAll before.markets rs := by
  rw [h.after_eq, Contents.markets_settleAll, Contents.markets_created]

theorem Provisioned.slots_eq (h : Provisioned general rs es before after report) :
    after.slots = before.slots.settleAll es := by
  rw [h.after_eq, Contents.slots_settleAll, Contents.slots_created]

end

/-- **A run that succeeds creates everything missing and settles all merged entries.** -/
theorem provisionResolved_ok (hb : b.Conforms view) (apply : o.mode = .apply) {general : GeneralSection}
    {rs : List Resolved} {s s' : σ} {report : Report}
    (h : provisionResolved b o general rs s = (.ok report, s')) :
    ∃ es, Provisioned general rs es (view s) (view s') report := by
  have houtcome := provisionResolved_outcome b o general rs s
  rw [h] at houtcome
  cases houtcome with
  | @written found s₁ snapshot s₂ groups result s' enumerated created collected written =>
    obtain ⟨k, hv, hsnap, hall⟩ := creation_phase hb.registry (Or.inl hb.factory) apply enumerated created
    have hcreated := hall hb.factory snapshot rfl
    rw [planned_eq_nil apply, hsnap snapshot rfl, hcreated, Contents.markets_created] at collected
    obtain ⟨w, res, hw, ⟨e, -, herr⟩ | ⟨rfl, hreport⟩⟩ := writeGroups_cases written
    · cases herr
    · obtain ⟨pre, -, hv', hpre⟩ := Writer.writeAll_prefix hb.store _ apply hw
      obtain ⟨hunblocked, hreads, hwrites⟩ := Writer.writeAll_ok hb.store _ apply hw
      rw [hpre rfl, hcreated] at hv'
      rw [hcreated] at hunblocked hwrites
      obtain ⟨rfl, -⟩ := takeSnapshot_ok hb.registry enumerated
      rw [missing_ofListings] at hreport
      have hrep := Except.ok.inj hreport
      refine ⟨_, by rw [mergedEntries, collected]; rfl, hunblocked, hv', ?_, ?_, ?_, ?_⟩
      · rw [hrep]
        exact if_pos apply
      · rw [hrep]
        exact planned_eq_nil apply _
      · rw [hrep, hreads]
        exact Nat.zero_add _
      · rw [hrep, hwrites]
        exact Nat.zero_add _

/-! ## Runs on a working backend -/

/-- **On a working backend a run reaches its last phase.** -/
theorem provisionResolved_written (hb : b.Works view) (apply : o.mode = .apply) (positive : 0 < o.pageSize)
    (general : GeneralSection) (rs : List Resolved) (s : σ)
    (count : (registerAll (view s).markets rs).length < 2 ^ 63) :
    ∃ s₁ snapshot s₂ report groups,
      takeSnapshot b.registry o.pageSize s = (.ok (.ofListings (view s).markets), s₁) ∧
      createMissing b o (creationType rs) (unregistered (view s).markets (rs.map (·.triple)))
        (.ofListings (view s).markets) s₁ = (.ok snapshot, s₂) ∧
      view s₂ = (view s).created rs ∧
      collectGroups general (.ofListings (registerAll (view s).markets rs)) [] rs [] = .ok groups ∧
      provisionResolved b o general rs s = writeGroups b o report groups s₂ := by
  have hlen : (view s).markets.length + (unregistered (view s).markets (rs.map (·.triple))).length < 2 ^ 63 := by
    simpa [registerAll, creations] using count
  obtain ⟨s₁, enumerated, hv⟩ := takeSnapshot_succeeds hb.registry positive s (by omega)
  obtain ⟨snapshot, s₂, created⟩ := createMissing_succeeds hb apply positive (creationType rs)
    s₁ (nodup_unregistered (view s).markets (rs.map (·.triple)))
    (by rw [hv]; exact fun t ht => (mem_unregistered.1 ht).2) (by rwa [hv])
  rw [hv, ← missing_ofListings] at created
  obtain ⟨k, -, hsnap, hall⟩ := creation_phase hb.conforms.registry (Or.inl hb.conforms.factory) apply
    enumerated created
  have hcreated := hall hb.conforms.factory snapshot rfl
  have hsnap' := hsnap snapshot rfl
  rw [hcreated, Contents.markets_created] at hsnap'
  have collected : collectGroups general (.ofListings (registerAll (view s).markets rs)) [] rs [] = .ok _ :=
    collectGroups_succeeds general fun r hr => Or.inl (mem_triples_registerAll (view s).markets hr)
  rw [missing_ofListings] at created
  refine ⟨s₁, snapshot, s₂, .started o (rs.map (·.triple)) (unregistered (view s).markets (rs.map (·.triple))), _,
    enumerated, created, hcreated, collected, ?_⟩
  have hplanned : (Report.started o (rs.map (·.triple))
      (unregistered (view s).markets (rs.map (·.triple)))).marketsPlanned = [] := planned_eq_nil apply _
  simp only [provisionResolved, enumerated, missing_ofListings, created, hsnap', hplanned, collected]

/-- On a working backend everything missing is created, and nothing but a key that refuses writes stops
the entries. -/
theorem provisionResolved_works (hb : b.Works view) (apply : o.mode = .apply) (positive : 0 < o.pageSize)
    (general : GeneralSection) (rs : List Resolved) (s : σ)
    (count : (registerAll (view s).markets rs).length < 2 ^ 63) :
    ∃ es pre, mergedEntries general (registerAll (view s).markets rs) rs = .ok es ∧
      view (provisionResolved b o general rs s).2 = ((view s).created rs).settleAll pre ∧
      ((view s).Unblocked es → ∃ report, (provisionResolved b o general rs s).1 = .ok report) ∧
      ∀ err, (provisionResolved b o general rs s).1 = .error err →
        ∃ e ∈ es, e.key ∈ (view s).reverting ∧ err = .call (.slotReverted e.value.setter e.key) := by
  obtain ⟨s₁, snapshot, s₂, report, groups, -, -, hcreated, collected, hrun⟩ :=
    provisionResolved_written hb apply positive general rs s count
  obtain ⟨result, s', written⟩ : ∃ result s', writeGroups b o report groups s₂ = (result, s') := ⟨_, _, rfl⟩
  obtain ⟨w, res, hw, hres⟩ := writeGroups_cases written
  obtain ⟨pre, -, hv, -⟩ := Writer.writeAll_prefix hb.store.toConforms _ apply hw
  rw [hrun, written]
  refine ⟨_, pre, by rw [mergedEntries, collected]; rfl, by rw [hv, hcreated], fun hu => ?_, fun err herr => ?_⟩
  · have hok := Writer.writeAll_succeeds hb.store (w := { mode := o.mode }) (s := s₂) apply
      (by rw [hcreated]; exact hu)
    rw [hw] at hok
    rcases hres with ⟨e, he, -⟩ | ⟨-, hreport⟩
    · rw [he] at hok
      cases hok
    · exact ⟨_, hreport⟩
  · rcases hres with ⟨e, rfl, he⟩ | ⟨-, hreport⟩
    · obtain ⟨-, e', he', hk, rfl⟩ := Writer.writeAll_reverts hb.store _ apply hw
      rw [hcreated] at hk
      rw [he] at herr
      exact ⟨e', he', hk, (Except.error.inj herr).symm⟩
    · rw [hreport] at herr
      cases herr

/-! ## Runs for a configuration -/

variable {c : Config} {rs : List Resolved}

theorem provision_of_nil (b : Backend σ) (o : RunOptions) (empty : c.markets = []) (s : σ) :
    provision b o c s = (.ok .skip, s) := by
  rw [provision, empty]
  rfl

theorem provision_of_resolved (b : Backend σ) (o : RunOptions) (nonempty : c.markets ≠ [])
    (resolved : resolveAll c.tokens c.markets = .ok rs) (s : σ) :
    provision b o c s = provisionResolved b o c.general rs s := by
  rw [provision, if_neg (by simpa using nonempty), resolved]

theorem provision_of_unresolved (b : Backend σ) (o : RunOptions) {e : ResolveError} (nonempty : c.markets ≠ [])
    (unresolved : resolveAll c.tokens c.markets = .error e) (s : σ) :
    provision b o c s = (.error (.resolve e), s) := by
  rw [provision, if_neg (by simpa using nonempty), unresolved]

theorem resolveAll_of_nil (empty : c.markets = []) (resolved : resolveAll c.tokens c.markets = .ok rs) :
    rs = [] := by
  rw [empty] at resolved
  exact (Except.ok.inj resolved).symm

theorem provisioned_nil (general : GeneralSection) (v : Contents) :
    Provisioned general [] [] v v .skip where
  merged := rfl
  unblocked e he := by cases he
  after_eq := by
    rw [Contents.created, Contents.settleAll_nil]
    exact v.register_nil.symm
  created_eq := rfl
  planned_eq := rfl
  reads_eq := rfl
  writes_eq := rfl

/-- **Whatever happens, a first part of the missing markets is created; once all of them are, a first part
of the merged entries is settled.** -/
theorem provision_prefix (hs : b.store.Conforms view) (hr : b.registry.Conforms view)
    (hf : b.factory.Conforms view ∨ b.factory.Silent view) (apply : o.mode = .apply)
    (resolved : resolveAll c.tokens c.markets = .ok rs) (s : σ) :
    (∃ k, view (provision b o c s).2 = (view s).register
      (creations rs ((unregistered (view s).markets (rs.map (·.triple))).take k))) ∨
    ∃ es pre, mergedEntries c.general (registerAll (view s).markets rs) rs = .ok es ∧ pre <+: es ∧
      view (provision b o c s).2 = ((view s).created rs).settleAll pre := by
  by_cases hnil : c.markets = []
  · rw [provision_of_nil b o hnil]
    exact Or.inl ⟨0, ((view s).register_nil).symm⟩
  · rw [provision_of_resolved b o hnil resolved]
    exact provisionResolved_prefix hs hr hf apply c.general rs s

/-- **A run that succeeds creates everything missing and settles all merged entries.** -/
theorem provision_ok (hb : b.Conforms view) (apply : o.mode = .apply) {s s' : σ} {report : Report}
    (h : provision b o c s = (.ok report, s')) :
    ∃ rs es, resolveAll c.tokens c.markets = .ok rs ∧
      Provisioned c.general rs es (view s) (view s') report := by
  by_cases hnil : c.markets = []
  · rw [provision_of_nil b o hnil] at h
    cases h
    exact ⟨[], [], by rw [hnil]; rfl, provisioned_nil _ _⟩
  · cases hres : resolveAll c.tokens c.markets with
    | error e =>
      rw [provision, if_neg (by simpa using hnil), hres] at h
      cases h
    | ok rs =>
      rw [provision_of_resolved b o hnil hres] at h
      obtain ⟨es, hdone⟩ := provisionResolved_ok hb apply h
      exact ⟨rs, es, rfl, hdone⟩

/-- **On a working backend everything missing is created, and nothing but a key that refuses writes stops
the entries.** -/
theorem provision_works (hb : b.Works view) (apply : o.mode = .apply) (positive : 0 < o.pageSize)
    (resolved : resolveAll c.tokens c.markets = .ok rs) (s : σ)
    (count : (registerAll (view s).markets rs).length < 2 ^ 63) :
    ∃ es pre, mergedEntries c.general (registerAll (view s).markets rs) rs = .ok es ∧
      view (provision b o c s).2 = ((view s).created rs).settleAll pre ∧
      ((view s).Unblocked es → ∃ report, (provision b o c s).1 = .ok report) ∧
      ∀ err, (provision b o c s).1 = .error err →
        ∃ e ∈ es, e.key ∈ (view s).reverting ∧ err = .call (.slotReverted e.value.setter e.key) := by
  by_cases hnil : c.markets = []
  · obtain rfl := resolveAll_of_nil hnil resolved
    rw [provision_of_nil b o hnil]
    exact ⟨[], [], rfl, (provisioned_nil c.general (view s)).after_eq, fun _ => ⟨_, rfl⟩, nofun⟩
  · rw [provision_of_resolved b o hnil resolved]
    exact provisionResolved_works hb apply positive c.general rs s count

/-- **Where no key refuses writes a run on a working backend succeeds.** -/
theorem provision_succeeds (hb : b.Works view) (apply : o.mode = .apply) (positive : 0 < o.pageSize)
    (resolved : resolveAll c.tokens c.markets = .ok rs) (s : σ)
    (count : (registerAll (view s).markets rs).length < 2 ^ 63) (free : (view s).reverting = []) :
    ∃ report s' es, provision b o c s = (.ok report, s') ∧
      Provisioned c.general rs es (view s) (view s') report := by
  obtain ⟨es, pre, -, -, hok, -⟩ := provision_works hb apply positive resolved s count
  obtain ⟨report, hreport⟩ := hok fun e _ hk => by
    rw [free] at hk
    cases hk
  have hrun : provision b o c s = (.ok report, (provision b o c s).2) := by rw [← hreport]
  obtain ⟨rs', es', resolved', hdone⟩ := provision_ok hb.conforms apply hrun
  obtain rfl : rs = rs' := Except.ok.inj (resolved.symm.trans resolved')
  exact ⟨report, _, es', hrun, hdone⟩

end MarketSync

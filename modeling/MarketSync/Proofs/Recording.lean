import MarketSync.Proofs.Runs

/-!
# What recorded calls show

A recorded backend answers as the backend below it does and adds the calls it makes to those before.
`Shows` says which creations are among recorded calls and which slots they read and write.

* `Backend.Works.recorded` — recording leaves a working backend working.
* `provision_recorded` — recording changes neither the result of a run nor what the run leaves behind.
* `provision_calls` — the creations of a run on a working backend are those of the missing triples; a run
  that succeeds reads the slot of every merged entry once and writes those that change.
-/

namespace MarketSync

variable {σ : Type} {b : Backend σ} {view : σ → Contents}

/-! ## Creations, reads and writes among calls -/

namespace CallRecord

def isCreation : CallRecord → Bool
  | .createMarket _ _ _ => true
  | _ => false

def readSlot? : CallRecord → Option Slot
  | .getUint key _ => some (.uint key)
  | .getBytes32 key _ => some (.bytes32 key)
  | _ => none

def writtenSlot? : CallRecord → Option Slot
  | .setUint key _ _ => some (.uint key)
  | .setBytes32 key _ _ => some (.bytes32 key)
  | _ => none

end CallRecord

/-- The creations among calls, and the slots that the calls read and write, each in order. -/
structure Shows (calls creations : List CallRecord) (reads writes : List Slot) : Prop where
  creations_eq : calls.filter (·.isCreation) = creations
  reads_eq : calls.filterMap (·.readSlot?) = reads
  writes_eq : calls.filterMap (·.writtenSlot?) = writes

theorem Shows.nil : Shows [] [] [] [] := ⟨rfl, rfl, rfl⟩

theorem Shows.append {calls calls' creations creations' : List CallRecord} {reads reads' writes writes' : List Slot}
    (h : Shows calls creations reads writes) (h' : Shows calls' creations' reads' writes') :
    Shows (calls ++ calls') (creations ++ creations') (reads ++ reads') (writes ++ writes') where
  creations_eq := by rw [List.filter_append, h.creations_eq, h'.creations_eq]
  reads_eq := by rw [List.filterMap_append, h.reads_eq, h'.reads_eq]
  writes_eq := by rw [List.filterMap_append, h.writes_eq, h'.writes_eq]

/-! ## Single calls -/

/-- The outcome of something done to the state, with more calls recorded. -/
def Recorded.after {α : Type} (r : Recorded σ) (out : α × σ) (new : List CallRecord) : α × Recorded σ :=
  (out.1, ⟨out.2, r.calls ++ new⟩)

theorem present_recorded (b : Backend σ) (e : Entry) (r : Recorded σ) :
    ∃ new, b.recorded.store.present e r = r.after (b.store.present e r.state) new ∧
      Shows new [] [e.slot] [] := by
  obtain ⟨key, value, label⟩ := e
  cases value with
  | uint n => exact ⟨[.getUint key _], rfl, ⟨rfl, rfl, rfl⟩⟩
  | bytes32 w => exact ⟨[.getBytes32 key _], rfl, ⟨rfl, rfl, rfl⟩⟩

theorem put_recorded (b : Backend σ) (e : Entry) (r : Recorded σ) :
    ∃ new, b.recorded.store.put e r = r.after (b.store.put e r.state) new ∧ Shows new [] [] [e.slot] := by
  obtain ⟨key, value, label⟩ := e
  cases value with
  | uint n => exact ⟨[.setUint key n _], rfl, ⟨rfl, rfl, rfl⟩⟩
  | bytes32 w => exact ⟨[.setBytes32 key w _], rfl, ⟨rfl, rfl, rfl⟩⟩

theorem page_recorded (b : Backend σ) (start stop : UInt64) (r : Recorded σ) :
    ∃ new, b.recorded.registry.getMarkets start stop r =
      r.after (b.registry.getMarkets start stop r.state) new ∧ Shows new [] [] [] :=
  ⟨[.getMarkets start stop _], rfl, ⟨rfl, rfl, rfl⟩⟩

theorem create_recorded (b : Backend σ) (t : Triple) (type : Bytes32) (r : Recorded σ) :
    b.recorded.factory.createMarket t type r = r.after (b.factory.createMarket t type r.state)
      [.createMarket t type (b.factory.createMarket t type r.state).1.toOption] := rfl

/-- **Recording leaves a working backend working.** -/
theorem Backend.Works.recorded (h : b.Works view) : b.recorded.Works fun r => view r.state where
  store :=
    { view_present := fun e r => by
        obtain ⟨new, heq, -⟩ := present_recorded b e r
        rw [heq]
        exact h.store.view_present e r.state
      present_ok := fun {e r v} hv => by
        obtain ⟨new, heq, -⟩ := present_recorded b e r
        rw [heq] at hv
        exact h.store.present_ok hv
      put_ok := fun {e r} hp => by
        obtain ⟨new, heq, -⟩ := put_recorded b e r
        rw [heq] at hp ⊢
        exact h.store.put_ok hp
      put_error := fun {e r err} hp => by
        obtain ⟨new, heq, -⟩ := put_recorded b e r
        rw [heq] at hp ⊢
        exact h.store.put_error hp
      present_succeeds := fun e r => by
        obtain ⟨new, heq, -⟩ := present_recorded b e r
        rw [heq]
        exact h.store.present_succeeds e r.state
      put_succeeds := fun {e r} hk => by
        obtain ⟨new, heq, -⟩ := put_recorded b e r
        rw [heq]
        exact h.store.put_succeeds hk
      put_reverts := fun {e r err} hp => by
        obtain ⟨new, heq, -⟩ := put_recorded b e r
        rw [heq] at hp
        exact h.store.put_reverts hp }
  registry :=
    { view_page := fun start stop r => h.registry.view_page start stop r.state
      page_ok := fun hp => h.registry.page_ok hp
      page_succeeds := fun start stop r => h.registry.page_succeeds start stop r.state }
  factory :=
    { create_ok := fun hc => h.factory.create_ok hc
      create_error := fun hc => h.factory.create_error hc
      create_succeeds := fun ht => h.factory.create_succeeds ht }

/-! ## Phases -/

theorem enumerateFrom_recorded (b : Backend σ) (size : UInt64) (positive : 0 < size.toNat) (start : UInt64)
    (r : Recorded σ) :
    ∃ new, enumerateFrom b.recorded.registry size positive start r =
      r.after (enumerateFrom b.registry size positive start r.state) new ∧ Shows new [] [] [] := by
  generalize hs : r.state = s
  fun_induction enumerateFrom b.registry size positive start s generalizing r with
  | case1 start s h err s₁ hp =>
    obtain ⟨new, heq, hnew⟩ := page_recorded b start (start + size) r
    rw [hs, hp] at heq
    refine ⟨new, ?_, hnew⟩
    rw [enumerateFrom, dif_pos h, heq]
    rfl
  | case2 start s h page s₁ hp hshort =>
    obtain ⟨new, heq, hnew⟩ := page_recorded b start (start + size) r
    rw [hs, hp] at heq
    refine ⟨new, ?_, hnew⟩
    rw [enumerateFrom, dif_pos h, heq]
    simp only [Recorded.after, if_pos hshort]
  | case3 start s h page s₁ hp hfull err s₂ hrest ih =>
    obtain ⟨new, heq, hnew⟩ := page_recorded b start (start + size) r
    rw [hs, hp] at heq
    obtain ⟨new', heq', hnew'⟩ := ih ⟨s₁, r.calls ++ new⟩ rfl
    refine ⟨new ++ new', ?_, hnew.append hnew'⟩
    rw [hrest] at heq'
    rw [enumerateFrom, dif_pos h, heq]
    simp only [Recorded.after, if_neg hfull, heq', List.append_assoc]
  | case4 start s h page s₁ hp hfull rest s₂ hrest ih =>
    obtain ⟨new, heq, hnew⟩ := page_recorded b start (start + size) r
    rw [hs, hp] at heq
    obtain ⟨new', heq', hnew'⟩ := ih ⟨s₁, r.calls ++ new⟩ rfl
    refine ⟨new ++ new', ?_, hnew.append hnew'⟩
    rw [hrest] at heq'
    rw [enumerateFrom, dif_pos h, heq]
    simp only [Recorded.after, if_neg hfull, heq', List.append_assoc]
  | case5 start s h =>
    refine ⟨[], ?_, .nil⟩
    rw [enumerateFrom, dif_neg h, Recorded.after, List.append_nil, ← hs]

theorem takeSnapshot_recorded (b : Backend σ) (size : UInt64) (r : Recorded σ) :
    ∃ new, takeSnapshot b.recorded.registry size r = r.after (takeSnapshot b.registry size r.state) new ∧
      Shows new [] [] [] := by
  have henum : ∃ new, enumerate b.recorded.registry size r =
      r.after (enumerate b.registry size r.state) new ∧ Shows new [] [] [] := by
    unfold enumerate
    split
    · exact ⟨[], by rw [Recorded.after, List.append_nil], .nil⟩
    · exact enumerateFrom_recorded b size _ 0 r
  obtain ⟨new, heq, hnew⟩ := henum
  refine ⟨new, ?_, hnew⟩
  rw [takeSnapshot, takeSnapshot, heq, Recorded.after]
  cases enumerate b.registry size r.state with
  | mk result s => cases result <;> rfl

/-- Creations that all succeed show as such, each triple with its type. -/
theorem createAll_recorded (b : Backend σ) (typeOf : Triple → Bytes32) : ∀ (ts : List Triple) (r : Recorded σ),
    ∃ new creations, createAll b.recorded.factory typeOf ts r =
        r.after (createAll b.factory typeOf ts r.state) new ∧ Shows new creations [] [] ∧
      ((createAll b.factory typeOf ts r.state).1 = .ok () →
        creations = ts.map fun t => .createMarket t (typeOf t) (some ()))
  | [], r => ⟨[], [], by rw [createAll, createAll, Recorded.after, List.append_nil], .nil, fun _ => rfl⟩
  | t :: ts, r => by
    rw [createAll, createAll, create_recorded, Recorded.after]
    cases b.factory.createMarket t (typeOf t) r.state with
    | mk result s =>
      cases result with
      | error err => exact ⟨[_], [_], rfl, ⟨rfl, rfl, rfl⟩, fun h => by cases h⟩
      | ok u =>
        obtain ⟨new, creations, heq, hnew, hall⟩ :=
          createAll_recorded b typeOf ts ⟨s, r.calls ++ [.createMarket t (typeOf t) (some ())]⟩
        have hcall : Shows [.createMarket t (typeOf t) (some ())]
          [.createMarket t (typeOf t) (some ())] [] [] := ⟨rfl, rfl, rfl⟩
        refine ⟨_, _, ?_, hcall.append hnew, fun hok => ?_⟩
        · simp only [Except.toOption, heq, Recorded.after, List.append_assoc]
        · rw [hall hok, List.map_cons, List.singleton_append]

/-- The creation phase shows the creations of everything missing if it gives a snapshot. -/
theorem createMissing_recorded (b : Backend σ) (o : RunOptions) (typeOf : Triple → Bytes32)
    (missing : List Triple) (found : Snapshot) (r : Recorded σ) :
    ∃ new creations, createMissing b.recorded o typeOf missing found r =
        r.after (createMissing b o typeOf missing found r.state) new ∧ Shows new creations [] [] ∧
      (o.mode = .apply → ∀ snapshot, (createMissing b o typeOf missing found r.state).1 = .ok snapshot →
        creations = missing.map fun t => .createMarket t (typeOf t) (some ())) := by
  have hnone : r.after (.ok found, r.state) [] = ((.ok found, r) : Except ProvisionError Snapshot × _) := by
    rw [Recorded.after, List.append_nil]
  cases hmode : o.mode with
  | dryRun => exact ⟨[], [], by simp only [createMissing, hmode, hnone], .nil, fun h => by cases h⟩
  | apply =>
    cases missing with
    | nil => exact ⟨[], [], by simp only [createMissing, hmode, hnone], .nil, fun _ _ _ => rfl⟩
    | cons t ts =>
      obtain ⟨new, creations, heq, hnew, hall⟩ := createAll_recorded b typeOf (t :: ts) r
      simp only [createMissing, hmode, heq, Recorded.after]
      cases hc : createAll b.factory typeOf (t :: ts) r.state with
      | mk result s =>
        rw [hc] at hall
        cases result with
        | error err => exact ⟨new, creations, rfl, hnew, fun _ _ h => by cases h⟩
        | ok u =>
          obtain ⟨new', heq', hnew'⟩ := takeSnapshot_recorded b o.pageSize ⟨s, r.calls ++ new⟩
          refine ⟨new ++ new', creations, ?_, ?_, fun _ _ _ => hall rfl⟩
          · simp only [heq', Recorded.after, List.append_assoc]
            cases takeSnapshot b.registry o.pageSize s with
            | mk result s => cases result <;> rfl
          · rw [← List.append_nil creations]
            exact hnew.append hnew'

namespace Writer

/-- A write reads its slot once, and writes it if it tells so. -/
theorem write_recorded (b : Backend σ) (w : Writer) (e : Entry) (r : Recorded σ) :
    ∃ new writes, write b.recorded.store w e r =
        ((write b.store w e r.state).1, r.after (write b.store w e r.state).2 new) ∧
      Shows new [] [e.slot] writes ∧
      (w.mode = .apply → ∀ changed, (write b.store w e r.state).1 = .ok changed →
        writes = if changed then [e.slot] else []) := by
  obtain ⟨new, heq, hnew⟩ := present_recorded b e r
  simp only [write, heq, Recorded.after]
  cases b.store.present e r.state with
  | mk result s =>
    cases result with
    | error err => exact ⟨new, [], rfl, hnew, fun _ _ h => by cases h⟩
    | ok present =>
      by_cases hp : present = e.value
      · simp only [if_pos hp]
        exact ⟨new, [], rfl, hnew, fun _ changed h => by rw [← Except.ok.inj h]; rfl⟩
      · simp only [if_neg hp]
        cases hmode : w.countRead.mode with
        | dryRun => exact ⟨new, [], rfl, hnew, fun h => by cases h.symm.trans hmode⟩
        | apply =>
          obtain ⟨new', heq', hnew'⟩ := put_recorded b e ⟨s, r.calls ++ new⟩
          simp only [heq', Recorded.after]
          cases b.store.put e s with
          | mk result s =>
            have hboth := hnew.append hnew'
            cases result with
            | error err => exact ⟨_, _, by simp only [List.append_assoc], hboth, fun _ _ h => by cases h⟩
            | ok u =>
              refine ⟨_, _, by simp only [List.append_assoc], hboth, fun _ changed h => ?_⟩
              rw [← Except.ok.inj h]
              rfl

/-- Entries that are all written show one read each, and a write where a slot changes. -/
theorem writeAll_recorded (b : Backend σ) (view : σ → Contents) : ∀ (es : List Entry) (w : Writer) (r : Recorded σ),
    ∃ new reads writes, writeAll b.recorded.store w es r =
        ((writeAll b.store w es r.state).1, r.after (writeAll b.store w es r.state).2 new) ∧
      Shows new [] reads writes ∧
      (b.store.Conforms view → w.mode = .apply → (writeAll b.store w es r.state).1 = .ok () →
        reads = es.map (·.slot) ∧ writes = ((view r.state).slots.changed es).map (·.slot))
  | [], w, r =>
    ⟨[], [], [], by rw [writeAll, writeAll, Recorded.after, List.append_nil], .nil, fun _ _ _ => ⟨rfl, rfl⟩⟩
  | e :: es, w, r => by
    obtain ⟨new, writes, heq, hnew, hwrites⟩ := write_recorded b w e r
    have hm := mode_write b.store w e r.state
    rw [writeAll, writeAll, heq, Recorded.after]
    cases hw : write b.store w e r.state with
    | mk result out =>
      obtain ⟨w', s⟩ := out
      rw [hw] at hwrites hm
      cases result with
      | error err => exact ⟨new, [e.slot], writes, rfl, hnew, fun _ _ h => by cases h⟩
      | ok changed =>
        obtain ⟨new', reads', writes', heq', hnew', hall⟩ :=
          writeAll_recorded b view es w' ⟨s, r.calls ++ new⟩
        refine ⟨_, _, _, ?_, hnew.append hnew', fun hs apply hok => ?_⟩
        · simp only [heq', Recorded.after, List.append_assoc]
        · obtain ⟨rfl, rfl⟩ := hall hs (hm.trans apply) hok
          obtain ⟨hv, -, hchanged, -⟩ := write_ok hs apply hw
          rw [hwrites apply changed rfl, hv, Slots.changed_cons, List.map_append]
          refine ⟨rfl, ?_⟩
          by_cases hh : (view r.state).slots.Holds e
          · rw [if_neg (fun h => hchanged.1 h hh), if_pos hh]
            rfl
          · rw [if_pos (hchanged.2 hh), if_neg hh]
            rfl

end Writer

theorem writeGroups_recorded (b : Backend σ) (view : σ → Contents) (o : RunOptions) (report : Report)
    (groups : List MarketGroup) (r : Recorded σ) :
    ∃ new reads writes, writeGroups b.recorded o report groups r =
        r.after (writeGroups b o report groups r.state) new ∧ Shows new [] reads writes ∧
      (b.store.Conforms view → o.mode = .apply →
        ∀ report', (writeGroups b o report groups r.state).1 = .ok report' →
        reads = (groups.flatMap (·.entries)).map (·.slot) ∧
          writes = ((view r.state).slots.changed (groups.flatMap (·.entries))).map (·.slot)) := by
  obtain ⟨new, reads, writes, heq, hnew, hall⟩ :=
    Writer.writeAll_recorded b view (groups.flatMap (·.entries)) { mode := o.mode } r
  rw [writeGroups, writeGroups, heq, Recorded.after]
  cases hw : Writer.writeAll b.store { mode := o.mode } (groups.flatMap (·.entries)) r.state with
  | mk result out =>
    obtain ⟨w, s⟩ := out
    rw [hw] at hall
    cases result with
    | error err => exact ⟨new, reads, writes, rfl, hnew, fun _ _ _ h => by cases h⟩
    | ok u => exact ⟨new, reads, writes, rfl, hnew, fun hs apply _ _ => hall hs apply rfl⟩

/-! ## Runs -/

theorem provisionResolved_recorded (b : Backend σ) (o : RunOptions) (general : GeneralSection)
    (rs : List Resolved) (r : Recorded σ) :
    ∃ new, provisionResolved b.recorded o general rs r =
      r.after (provisionResolved b o general rs r.state) new := by
  obtain ⟨new, heq, -⟩ := takeSnapshot_recorded b o.pageSize r
  rw [provisionResolved, provisionResolved, heq, Recorded.after]
  rcases takeSnapshot b.registry o.pageSize r.state with ⟨_ | found, s⟩
  · exact ⟨new, rfl⟩
  · obtain ⟨new', -, heq', -⟩ := createMissing_recorded b o (creationType rs)
      (found.missing (rs.map (·.triple))) found ⟨s, r.calls ++ new⟩
    simp only [heq', Recorded.after]
    obtain ⟨result, s', hcreate⟩ : ∃ result s',
      createMissing b o (creationType rs) (found.missing (rs.map (·.triple))) found s = (result, s') := ⟨_, _, rfl⟩
    simp only [hcreate]
    cases result with
    | error err => exact ⟨new ++ new', by simp only [List.append_assoc]⟩
    | ok snapshot =>
      dsimp only
      split
      · exact ⟨new ++ new', by simp only [List.append_assoc]⟩
      · rename_i groups _
        obtain ⟨new'', -, -, heq'', -⟩ := writeGroups_recorded b (fun _ => ⟨[], fun _ => none, []⟩) o
          (.started o (rs.map (·.triple)) (found.missing (rs.map (·.triple)))) groups ⟨s', r.calls ++ new ++ new'⟩
        refine ⟨new ++ new' ++ new'', heq''.trans ?_⟩
        simp only [Recorded.after, List.append_assoc]

/-- **Recording changes neither the result of a run nor what the run leaves behind.** -/
theorem provision_recorded (b : Backend σ) (o : RunOptions) (c : Config) (r : Recorded σ) :
    ∃ new, provision b.recorded o c r = r.after (provision b o c r.state) new := by
  rw [provision, provision]
  split
  · exact ⟨[], by rw [Recorded.after, List.append_nil]⟩
  · split
    · exact ⟨[], by rw [Recorded.after, List.append_nil]⟩
    · exact provisionResolved_recorded b o c.general _ r

/-- **The creations of a run on a working backend are those of the unregistered triples, all of them
successful. A run that succeeds reads the slot of every merged entry once and writes those that change.** -/
theorem provision_calls (hb : b.Works view) {o : RunOptions} (apply : o.mode = .apply)
    (positive : 0 < o.pageSize) {c : Config} {rs : List Resolved}
    (resolved : resolveAll c.tokens c.markets = .ok rs) (r : Recorded σ)
    (count : (registerAll (view r.state).markets rs).length < 2 ^ 63) :
    ∃ new reads writes, provision b.recorded o c r = r.after (provision b o c r.state) new ∧
      Shows new ((unregistered (view r.state).markets (rs.map (·.triple))).map fun t =>
        .createMarket t (creationType rs t) (some ())) reads writes ∧
      ∀ report es, (provision b o c r.state).1 = .ok report →
        mergedEntries c.general (registerAll (view r.state).markets rs) rs = .ok es →
        reads = es.map (·.slot) ∧ writes = ((view r.state).slots.changed es).map (·.slot) := by
  by_cases hnil : c.markets = []
  · obtain rfl := resolveAll_of_nil hnil resolved
    rw [provision_of_nil _ o hnil, provision_of_nil _ o hnil]
    refine ⟨[], [], [], by rw [Recorded.after, List.append_nil], .nil, fun report es _ hes => ?_⟩
    rw [← Except.ok.inj hes]
    exact ⟨rfl, rfl⟩
  obtain ⟨new, heq⟩ := provisionResolved_recorded b o c.general rs r
  rw [provision_of_resolved _ o hnil resolved, provision_of_resolved _ o hnil resolved]
  obtain ⟨r₁, snapshot, r₂, report, groups, enumerated, created, hcreated, collected, hrun⟩ :=
    provisionResolved_written hb.recorded apply positive c.general rs r count
  obtain ⟨new₁, heq₁, hnew₁⟩ := takeSnapshot_recorded b o.pageSize r
  obtain ⟨new₂, creations, heq₂, hnew₂, hcreations⟩ := createMissing_recorded b o (creationType rs)
    (unregistered (view r.state).markets (rs.map (·.triple))) (.ofListings (view r.state).markets) r₁
  obtain ⟨new₃, reads, writes, heq₃, hnew₃, hwritten⟩ := writeGroups_recorded b view o report groups r₂
  rw [enumerated] at heq₁
  rw [created] at heq₂
  obtain rfl := hcreations apply snapshot (congrArg Prod.fst heq₂).symm
  have hcalls₁ : r₁.calls = r.calls ++ new₁ := congrArg (fun out => out.2.calls) heq₁
  have hcalls₂ : r₂.calls = r₁.calls ++ new₂ := congrArg (fun out => out.2.calls) heq₂
  rw [hrun, heq₃] at heq
  have hcalls : r₂.calls ++ new₃ = r.calls ++ new := congrArg (fun out => out.2.calls) heq
  rw [hcalls₂, hcalls₁, List.append_assoc, List.append_assoc] at hcalls
  obtain rfl := List.append_cancel_left hcalls
  refine ⟨new₁ ++ (new₂ ++ new₃), reads, writes, by rw [hrun, heq₃, heq], ?_, fun report' es hok hes => ?_⟩
  · have hall := hnew₁.append (hnew₂.append hnew₃)
    rwa [List.nil_append, List.append_nil] at hall
  · have hsame : (writeGroups b o report groups r₂.state).1 = .ok report' :=
      (congrArg Prod.fst heq).trans hok
    obtain ⟨rfl, rfl⟩ := hwritten hb.store.toConforms apply report' hsame
    rw [mergedEntries, collected] at hes
    rw [← Except.ok.inj hes, hcreated]
    exact ⟨rfl, rfl⟩

/-- A recorded run that succeeds does all there is to do, and its calls show just that. -/
theorem provisionResolved_ok_calls (hb : b.Works view) {o : RunOptions} (apply : o.mode = .apply)
    {general : GeneralSection} {rs : List Resolved} {r r' : Recorded σ} {report : Report}
    (h : provisionResolved b.recorded o general rs r = (.ok report, r')) :
    ∃ es new creations, Provisioned general rs es (view r.state) (view r'.state) report ∧
      r'.calls = r.calls ++ new ∧
      Shows new creations (es.map (·.slot)) (((view r.state).slots.changed es).map (·.slot)) := by
  obtain ⟨es, hdone⟩ := provisionResolved_ok hb.recorded.conforms apply h
  have houtcome := provisionResolved_outcome b.recorded o general rs r
  rw [h] at houtcome
  cases houtcome with
  | @written found r₁ snapshot r₂ groups result r' enumerated created collected written =>
    obtain ⟨k, -, hsnap, hall⟩ := creation_phase hb.recorded.conforms.registry
      (Or.inl hb.recorded.conforms.factory) apply enumerated created
    have hcreated := hall hb.recorded.conforms.factory snapshot rfl
    rw [planned_eq_nil apply, hsnap snapshot rfl, hcreated, Contents.markets_created] at collected
    have hmerged := hdone.merged
    rw [mergedEntries, collected] at hmerged
    obtain rfl := Except.ok.inj hmerged
    obtain ⟨new₁, heq₁, hnew₁⟩ := takeSnapshot_recorded b o.pageSize r
    obtain ⟨new₂, creations, heq₂, hnew₂, -⟩ := createMissing_recorded b o (creationType rs)
      (found.missing (rs.map (·.triple))) found r₁
    obtain ⟨new₃, reads, writes, heq₃, hnew₃, hwritten⟩ := writeGroups_recorded b view o _ groups r₂
    rw [enumerated] at heq₁
    rw [created] at heq₂
    rw [written] at heq₃
    have hcalls₁ : r₁.calls = r.calls ++ new₁ := congrArg (fun out => out.2.calls) heq₁
    have hcalls₂ : r₂.calls = r₁.calls ++ new₂ := congrArg (fun out => out.2.calls) heq₂
    have hcalls₃ : r'.calls = r₂.calls ++ new₃ := congrArg (fun out => out.2.calls) heq₃
    obtain ⟨rfl, rfl⟩ := hwritten hb.store.toConforms apply report (congrArg Prod.fst heq₃).symm
    have hshows := hnew₁.append (hnew₂.append hnew₃)
    rw [hcreated, Contents.slots_created] at hshows
    refine ⟨_, new₁ ++ (new₂ ++ new₃), _, hdone, ?_, hshows⟩
    rw [hcalls₃, hcalls₂, hcalls₁, List.append_assoc, List.append_assoc]

/-- **A run that succeeds reads the slot of every merged entry once and writes those that change.** -/
theorem provision_ok_calls (hb : b.Works view) {o : RunOptions} (apply : o.mode = .apply) {c : Config} {s s' : σ}
    {report : Report} (h : provision b o c s = (.ok report, s')) :
    ∃ rs es calls creations, resolveAll c.tokens c.markets = .ok rs ∧
      Provisioned c.general rs es (view s) (view s') report ∧
      provision b.recorded o c ⟨s, []⟩ = (.ok report, ⟨s', calls⟩) ∧
      Shows calls creations (es.map (·.slot)) (((view s).slots.changed es).map (·.slot)) := by
  by_cases hnil : c.markets = []
  · rw [provision_of_nil b o hnil] at h
    cases h
    refine ⟨[], [], [], [], ?_, provisioned_nil _ _, provision_of_nil b.recorded o hnil _, .nil⟩
    rw [hnil]
    rfl
  · obtain ⟨rs, -, resolved, -⟩ := provision_ok hb.conforms apply h
    obtain ⟨calls, hrecorded⟩ := provision_recorded b o c ⟨s, []⟩
    rw [h, Recorded.after, List.nil_append] at hrecorded
    have hrun := hrecorded
    rw [provision_of_resolved b.recorded o hnil resolved] at hrun
    obtain ⟨es, new, creations, hdone, hnew, hshows⟩ := provisionResolved_ok_calls hb apply hrun
    obtain rfl : calls = new := by simpa using hnew
    exact ⟨rs, es, calls, creations, resolved, hdone, hrecorded, hshows⟩

end MarketSync

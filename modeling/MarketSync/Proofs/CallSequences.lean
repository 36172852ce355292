import MarketSync.Chain.Recorder
import MarketSync.Proofs.Registration
import MarketSync.Proofs.Slots

/-!
# Sequences of calls

`RunCalls` describes the full sequences of calls of a run, in which every call succeeds: pages until one of them is
short, the creations of what is missing, pages once more if anything was created, and for each entry a read and,
where what it reads differs, a write. `Follows` goes through a sequence on a backend and stops at the first call
that fails.

* `Follows.append`, `Follows.append_error` — sequences one after another, up to the first failure.
* `exists_runCalls` — whatever comes before the entries, there is a full sequence that begins with it.
* `RunCalls.prefix_of_storeCall` — the store is called last.
* `RunCalls.not_change` — a dry run changes nothing.
-/

namespace MarketSync

variable {σ : Type} {b : Backend σ}

/-! ## Going through calls -/

namespace CallRecord

/-- The same call without an answer. -/
def failed : CallRecord → CallRecord
  | .getUint key _ => .getUint key none
  | .getBytes32 key _ => .getBytes32 key none
  | .setUint key value _ => .setUint key value none
  | .setBytes32 key value _ => .setBytes32 key value none
  | .getMarkets start stop _ => .getMarkets start stop none
  | .createMarket t type _ => .createMarket t type none

/-- With what a run ends that an error of the call stops. -/
def stopsWith : CallRecord → CallError → ProvisionError
  | .getMarkets _ _ _, e => .enumeration (.call e)
  | _, e => .call e

/-- A page that would end beyond the last position: its end wraps around. -/
def EndsBeyond : CallRecord → Prop
  | .getMarkets start stop _ => stop < start
  | _ => False

def isStoreCall : CallRecord → Bool
  | .getMarkets _ _ _ | .createMarket _ _ _ => false
  | _ => true

/-- Whether a call is for a change: a creation or a write. -/
def isChange : CallRecord → Bool
  | .setUint _ _ _ | .setBytes32 _ _ _ | .createMarket _ _ _ => true
  | _ => false

@[simp] theorem isStoreCall_failed (call : CallRecord) : call.failed.isStoreCall = call.isStoreCall := by
  cases call <;> rfl

@[simp] theorem isChange_failed (call : CallRecord) : call.failed.isChange = call.isChange := by
  cases call <;> rfl

@[simp] theorem failed_failed (call : CallRecord) : call.failed.failed = call.failed := by
  cases call <;> rfl

end CallRecord

/-- The outcome of a call with the record of the call in place of the answer. -/
def recordOf {α : Type} (record : Option α → CallRecord) (out : Except CallError α × σ) :
    Except CallError CallRecord × σ :=
  (out.1.map fun a => record (some a), out.2)

/-- Makes the call that a record names and records it with its own answer. -/
def Backend.answer (b : Backend σ) (s : σ) : CallRecord → Except CallError CallRecord × σ
  | .getUint key _ => recordOf (.getUint key) (b.store.getUint key s)
  | .getBytes32 key _ => recordOf (.getBytes32 key) (b.store.getBytes32 key s)
  | .setUint key value _ => recordOf (.setUint key value) (b.store.setUint key value s)
  | .setBytes32 key value _ => recordOf (.setBytes32 key value) (b.store.setBytes32 key value s)
  | .getMarkets start stop _ => recordOf (.getMarkets start stop) (b.registry.getMarkets start stop s)
  | .createMarket t type _ => recordOf (.createMarket t type) (b.factory.createMarket t type s)

/-- Going through a sequence of calls in order. Each is made and answered as its record tells; the first one that
fails ends it with its error, and a page that would end beyond the last position ends it without being asked
for. What is left is the calls that were made, how it ended and the state. -/
inductive Follows (b : Backend σ) :
    List CallRecord → σ → List CallRecord → Except ProvisionError Unit → σ → Prop
  | done {s} : Follows b [] s [] (.ok ()) s
  | made {call full s s₁ calls ending s'} (within : ¬ call.EndsBeyond)
    (answered : b.answer s call = (.ok call, s₁)) (rest : Follows b full s₁ calls ending s') :
    Follows b (call :: full) s (call :: calls) ending s'
  | failed {call full s e s'} (within : ¬ call.EndsBeyond) (answered : b.answer s call = (.error e, s')) :
    Follows b (call :: full) s [call.failed] (.error (call.stopsWith e)) s'
  | beyond {call full s} (beyond : call.EndsBeyond) :
    Follows b (call :: full) s [] (.error (.enumeration .positionOverflow)) s

namespace Follows

variable {full full' calls calls' : List CallRecord} {s s₁ s' : σ} {ending : Except ProvisionError Unit}

theorem append (h : Follows b full s calls (.ok ()) s₁) (h' : Follows b full' s₁ calls' ending s') :
    Follows b (full ++ full') s (calls ++ calls') ending s' := by
  generalize hend : (.ok () : Except ProvisionError Unit) = first at h
  induction h with
  | done => exact h'
  | made within answered _ ih => exact .made within answered (ih h' hend)
  | failed => cases hend
  | beyond => cases hend

theorem append_error {e : ProvisionError} (h : Follows b full s calls (.error e) s') (full' : List CallRecord) :
    Follows b (full ++ full') s calls (.error e) s' := by
  generalize hend : (.error e : Except ProvisionError Unit) = ending at h ⊢
  induction h with
  | done => cases hend
  | made within answered _ ih => exact .made within answered (ih hend)
  | failed within answered => exact .failed within answered
  | beyond beyond => exact .beyond beyond

/-- What is the same for all calls of the sequence, answered or not, is the same for all that are made. -/
theorem forall_eq (h : Follows b full s calls ending s') {p : CallRecord → Bool}
    (failed : ∀ call, p call.failed = p call) {v : Bool} (hfull : ∀ call ∈ full, p call = v) :
    ∀ call ∈ calls, p call = v := by
  induction h with
  | done => simp
  | made _ _ _ ih =>
    simp only [List.forall_mem_cons] at hfull ⊢
    exact ⟨hfull.1, ih hfull.2⟩
  | failed =>
    simp only [List.forall_mem_cons] at hfull
    simpa [failed] using hfull.1
  | beyond => simp

/-- Where nothing fails all calls are made. -/
theorem eq_of_ok (h : Follows b full s calls (.ok ()) s') : calls = full := by
  generalize hend : (.ok () : Except ProvisionError Unit) = ending at h
  induction h with
  | done => rfl
  | made _ _ _ ih => rw [ih hend]
  | failed => cases hend
  | beyond => cases hend

/-- Positions ran out, or some call was made that failed. -/
theorem error_cases {e : ProvisionError} (h : Follows b full s calls (.error e) s') :
    e = .enumeration .positionOverflow ∨ ∃ call ∈ full, call.failed ∈ calls ∧ ∃ err, e = call.stopsWith err := by
  generalize hend : (.error e : Except ProvisionError Unit) = ending at h
  induction h with
  | done => cases hend
  | made _ _ _ ih =>
    refine (ih hend).imp_right ?_
    rintro ⟨call, hcall, hfailed, hstops⟩
    exact ⟨call, List.mem_cons_of_mem _ hcall, List.mem_cons_of_mem _ hfailed, hstops⟩
  | @failed call _ _ err =>
    cases hend
    exact Or.inr ⟨call, List.mem_cons_self, List.mem_cons_self, err, rfl⟩
  | beyond =>
    cases hend
    exact Or.inl rfl

/-- What can be read off calls without their answers is, of the calls that were made, a first part. -/
theorem filterMap_prefix {α : Type} {f : CallRecord → Option α} (failed : ∀ call, f call.failed = f call)
    (h : Follows b full s calls ending s') : calls.filterMap f <+: full.filterMap f := by
  induction h with
  | done => exact List.prefix_rfl
  | @made call full _ _ calls _ _ _ _ _ ih =>
    rw [← List.singleton_append, ← List.singleton_append (l := full), List.filterMap_append, List.filterMap_append]
    exact (List.prefix_append_right_inj _).2 ih
  | @failed call full =>
    rw [← List.singleton_append (l := full), List.filterMap_append]
    refine ⟨full.filterMap f, ?_⟩
    simp only [List.filterMap_cons, failed]
  | beyond => exact List.nil_prefix

/-- Of two parts of a sequence the second is only reached where all of the first was made. -/
theorem split (h : Follows b (full ++ full') s calls ending s') :
    (∃ s₁ rest, calls = full ++ rest ∧ Follows b full' s₁ rest ending s') ∨ Follows b full s calls ending s' := by
  induction full generalizing s calls with
  | nil => exact Or.inl ⟨s, calls, rfl, h⟩
  | cons call full ih =>
    cases h with
    | made within answered rest =>
      rcases ih rest with ⟨s₁, tail, rfl, htail⟩ | hfull
      · exact Or.inl ⟨s₁, tail, rfl, htail⟩
      · exact Or.inr (.made within answered hfull)
    | failed within answered => exact Or.inr (.failed within answered)
    | beyond beyond => exact Or.inr (.beyond beyond)

end Follows

/-! ## Full sequences -/

/-- The pages of an enumeration from a position on and the markets they hold: all pages but the last are full. -/
inductive Pages (size : UInt64) : UInt64 → List CallRecord → List Listing → Prop
  | last {start page} (short : page.length < size.toNat) :
    Pages size start [.getMarkets start (start + size) (some page)] page
  | next {start page calls rest} (full : size.toNat ≤ page.length) (more : Pages size (start + size) calls rest) :
    Pages size start (.getMarkets start (start + size) (some page) :: calls) (page ++ rest)

def SlotValue.readCall (key : Bytes32) : SlotValue → CallRecord
  | .uint n => .getUint key (some n)
  | .bytes32 w => .getBytes32 key (some w)

def SlotValue.writeCall (key : Bytes32) : SlotValue → CallRecord
  | .uint n => .setUint key n (some ())
  | .bytes32 w => .setBytes32 key w (some ())

/-- The calls for an entry that find a value: a read of its key and at once, but in no dry run, a write of its
value if that is another one. -/
def Entry.callsFor (mode : WriteMode) (e : Entry) (present : SlotValue) : List CallRecord :=
  present.readCall e.key :: if mode = .apply ∧ present ≠ e.value then [e.value.writeCall e.key] else []

/-- The calls for entries in their order; each entry finds some value of its own kind. -/
inductive EntryCalls (mode : WriteMode) : List Entry → List CallRecord → Prop
  | nil : EntryCalls mode [] []
  | cons {e es calls} (present : SlotValue) (kind : present.slot e.key = e.slot) (rest : EntryCalls mode es calls) :
    EntryCalls mode (e :: es) (e.callsFor mode present ++ calls)

/-- The creations of what is missing among listed markets, one call each; a dry run has none. -/
def creationCalls (mode : WriteMode) (rs : List Resolved) (found : List Listing) : List CallRecord :=
  if mode = .apply then (unregistered found (rs.map (·.triple))).map fun t =>
    .createMarket t (creationType rs t) (some ())
  else []

/-- What a dry run leaves to be created. -/
def plannedTriples (mode : WriteMode) (rs : List Resolved) (found : List Listing) : List Triple :=
  if mode = .dryRun then unregistered found (rs.map (·.triple)) else []

/-- The calls before any entry: an enumeration that finds markets, the creations, and if there are any a second
enumeration. The markets at the end are those with which the run goes on. -/
inductive Prelude (o : RunOptions) (rs : List Resolved) : List CallRecord → List Listing → List Listing → Prop
  | quiet {pages found} (enumerated : Pages o.pageSize 0 pages found) (none : creationCalls o.mode rs found = []) :
    Prelude o rs pages found found
  | creating {pages found again ms} (enumerated : Pages o.pageSize 0 pages found)
    (some : creationCalls o.mode rs found ≠ []) (enumeratedAgain : Pages o.pageSize 0 again ms) :
    Prelude o rs (pages ++ creationCalls o.mode rs found ++ again) found ms

/-- The full sequence of calls of a run, and what the look-ups of all definitions give before any entry: if a
market is not found there are no calls for entries. -/
inductive RunCalls (o : RunOptions) (general : GeneralSection) (rs : List Resolved) :
    List CallRecord → Except ProvisionError (List MarketGroup) → Prop
  | notFound {first found ms e} (before : Prelude o rs first found ms)
    (lookups : collectGroups general (.ofListings ms) (plannedTriples o.mode rs found) rs [] = .error e) :
    RunCalls o general rs first (.error e)
  | found {first found ms groups rest} (before : Prelude o rs first found ms)
    (lookups : collectGroups general (.ofListings ms) (plannedTriples o.mode rs found) rs [] = .ok groups)
    (entries : EntryCalls o.mode (groups.flatMap (·.entries)) rest) :
    RunCalls o general rs (first ++ rest) (.ok groups)

/-! ## Sequences can be completed -/

theorem exists_pages {size : UInt64} (positive : 0 < size) (start : UInt64) :
    Pages size start [.getMarkets start (start + size) (some [])] [] :=
  .last positive

theorem exists_prelude {o : RunOptions} (positive : 0 < o.pageSize) (rs : List Resolved) {pages : List CallRecord}
    {found : List Listing} (enumerated : Pages o.pageSize 0 pages found) :
    ∃ more ms, Prelude o rs (pages ++ more) found ms := by
  by_cases hnone : creationCalls o.mode rs found = []
  · refine ⟨[], found, ?_⟩
    rw [List.append_nil]
    exact .quiet enumerated hnone
  · refine ⟨creationCalls o.mode rs found ++ [.getMarkets 0 (0 + o.pageSize) (some [])], [], ?_⟩
    rw [← List.append_assoc]
    exact .creating enumerated hnone (exists_pages positive 0)

theorem exists_entryCalls (mode : WriteMode) : ∀ es : List Entry, ∃ calls, EntryCalls mode es calls
  | [] => ⟨[], .nil⟩
  | e :: es => by
    obtain ⟨calls, h⟩ := exists_entryCalls mode es
    exact ⟨_, .cons e.value rfl h⟩

theorem exists_runCalls {o : RunOptions} (general : GeneralSection) {rs : List Resolved} {first : List CallRecord}
    {found ms : List Listing} (before : Prelude o rs first found ms) :
    ∃ more lookups, RunCalls o general rs (first ++ more) lookups := by
  cases hl : collectGroups general (.ofListings ms) (plannedTriples o.mode rs found) rs [] with
  | error e =>
    refine ⟨[], .error e, ?_⟩
    rw [List.append_nil]
    exact .notFound before hl
  | ok groups =>
    obtain ⟨rest, hrest⟩ := exists_entryCalls o.mode (groups.flatMap (·.entries))
    exact ⟨rest, .ok groups, .found before hl hrest⟩

/-! ## What is called when -/

theorem Pages.not_storeCall {size start : UInt64} {calls : List CallRecord} {ms : List Listing}
    (h : Pages size start calls ms) : ∀ call ∈ calls, call.isStoreCall = false ∧ call.isChange = false := by
  induction h with
  | last => simp [CallRecord.isStoreCall, CallRecord.isChange]
  | next _ _ ih => simpa [CallRecord.isStoreCall, CallRecord.isChange] using ih

theorem creationCalls_not_storeCall (mode : WriteMode) (rs : List Resolved) (found : List Listing) :
    ∀ call ∈ creationCalls mode rs found, call.isStoreCall = false := by
  intro call hc
  unfold creationCalls at hc
  split at hc
  · obtain ⟨t, -, rfl⟩ := List.mem_map.1 hc
    rfl
  · cases hc

namespace Prelude

variable {o : RunOptions} {rs : List Resolved} {first : List CallRecord} {found ms : List Listing}

theorem not_storeCall (h : Prelude o rs first found ms) : ∀ call ∈ first, call.isStoreCall = false := by
  intro call hc
  cases h with
  | quiet enumerated => exact (enumerated.not_storeCall call hc).1
  | creating enumerated _ enumeratedAgain =>
    simp only [List.mem_append] at hc
    rcases hc with (hc | hc) | hc
    · exact (enumerated.not_storeCall call hc).1
    · exact creationCalls_not_storeCall o.mode rs found call hc
    · exact (enumeratedAgain.not_storeCall call hc).1

theorem not_change (h : Prelude o rs first found ms) (dry : o.mode = .dryRun) :
    ∀ call ∈ first, call.isChange = false := by
  intro call hc
  cases h with
  | quiet enumerated => exact (enumerated.not_storeCall call hc).2
  | creating _ some => exact absurd (by simp [creationCalls, dry]) some

end Prelude

theorem EntryCalls.not_change {es : List Entry} {calls : List CallRecord} (h : EntryCalls .dryRun es calls) :
    ∀ call ∈ calls, call.isChange = false := by
  induction h with
  | nil => simp
  | @cons e es calls present kind rest ih =>
    have hcalls : e.callsFor .dryRun present = [present.readCall e.key] := by simp [Entry.callsFor]
    have hread : (present.readCall e.key).isChange = false := by cases present <;> rfl
    rw [hcalls, List.singleton_append, List.forall_mem_cons]
    exact ⟨hread, ih⟩

namespace RunCalls

variable {o : RunOptions} {general : GeneralSection} {rs : List Resolved} {full calls : List CallRecord}
  {lookups : Except ProvisionError (List MarketGroup)} {s s' : σ} {ending : Except ProvisionError Unit}

theorem not_change (h : RunCalls o general rs full lookups) (dry : o.mode = .dryRun) :
    ∀ call ∈ full, call.isChange = false := by
  cases h with
  | notFound before => exact before.not_change dry
  | found before lookups entries =>
    rw [dry] at entries
    intro call hc
    rcases List.mem_append.1 hc with hc | hc
    · exact before.not_change dry call hc
    · exact entries.not_change call hc

/-- A call of the store comes after everything before the entries, and only if all look-ups succeeded. -/
theorem prefix_of_storeCall (h : RunCalls o general rs full lookups) (follows : Follows b full s calls ending s')
    {pre post : List CallRecord} {call : CallRecord} (hcalls : calls = pre ++ call :: post)
    (store : call.isStoreCall = true) :
    ∃ first found ms groups, Prelude o rs first found ms ∧ first <+: pre ∧
      collectGroups general (.ofListings ms) (plannedTriples o.mode rs found) rs [] = .ok groups := by
  have hmem : call ∈ calls := by simp [hcalls]
  have hbefore {first calls : List CallRecord} {found ms : List Listing} (before : Prelude o rs first found ms)
      (follows : Follows b first s calls ending s') (hmem : call ∈ calls) : False := by
    have hnot := follows.forall_eq CallRecord.isStoreCall_failed before.not_storeCall call hmem
    rw [store] at hnot
    cases hnot
  cases h with
  | notFound before => exact (hbefore before follows hmem).elim
  | @found first found ms groups rest before lookups entries =>
    rcases follows.split with ⟨s₁, tail, htail, -⟩ | hfirst
    · refine ⟨first, found, ms, groups, before, ?_, lookups⟩
      rw [htail] at hcalls
      rcases List.append_eq_append_iff.1 hcalls with ⟨l, hpre, -⟩ | ⟨l, hl, hpost⟩
      · exact ⟨l, hpre.symm⟩
      · -- a call of the store is not among the calls before the entries
        cases l with
        | nil => simp [hl]
        | cons c l =>
          have hcall : call = c := (List.cons.inj hpost).1
          have hnot := before.not_storeCall call (by simp [hl, hcall])
          rw [store] at hnot
          cases hnot
    · exact (hbefore before hfirst hmem).elim

end RunCalls

end MarketSync

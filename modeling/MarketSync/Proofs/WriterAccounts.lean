import MarketSync.Proofs.Protocol

/-!
# What a writer has counted

A writer serves requests one after another, to make a slot hold a number (`set_uint_if_different`) or a word
(`set_bytes32_if_different`), and goes on after requests that fail. What one request adds to its counts and notes
depends on the result alone, and with the result go the calls that the store received: `Served` lists the cases. From
there follow, for any sequence of requests, what the counts are and which calls were made.

* `write_served` — one request: the writer after it, and its calls.
* `writeEach_served` — a sequence of requests.
* `writeEach_recorded` — recording the calls changes nothing.
* `Accounts` — what the writer has counted and noted, and what the store was called for.
-/

namespace MarketSync

variable {σ : Type} {b : Backend σ}

/-! ## One request -/

def Entry.readRecord (e : Entry) : Except CallError SlotValue → CallRecord
  | .ok present => present.readCall e.key
  | .error _ => (e.value.readCall e.key).failed

def Entry.writeRecord (e : Entry) : Except CallError Unit → CallRecord
  | .ok () => e.value.writeCall e.key
  | .error _ => (e.value.writeCall e.key).failed

/-- What a request may give, and the calls that are made for it. -/
inductive Served (mode : WriteMode) (e : Entry) : Except CallError Bool → List CallRecord → Prop
  | unread {err} : Served mode e (.error err) [e.readRecord (.error err)]
  | equal : Served mode e (.ok false) [e.readRecord (.ok e.value)]
  | noted {present} (dry : mode = .dryRun) (kind : present.slot e.key = e.slot) (different : present ≠ e.value) :
    Served mode e (.ok true) [e.readRecord (.ok present)]
  | refused {present err} (apply : mode = .apply) (kind : present.slot e.key = e.slot)
    (different : present ≠ e.value) :
    Served mode e (.error err) [e.readRecord (.ok present), e.writeRecord (.error err)]
  | changed {present} (apply : mode = .apply) (kind : present.slot e.key = e.slot) (different : present ≠ e.value) :
    Served mode e (.ok true) [e.readRecord (.ok present), e.writeRecord (.ok ())]

theorem present_record {e : Entry} {r r' : Recorded σ} {result : Except CallError SlotValue}
    (h : b.recorded.store.present e r = (result, r')) :
    r'.calls = r.calls ++ [e.readRecord result] ∧ ∀ v, result = .ok v → v.slot e.key = e.slot := by
  obtain ⟨key, value, label⟩ := e
  cases value with
  | uint n =>
    cases hget : b.store.getUint key r.state with
    | mk res s =>
      simp only [Store.present, Backend.recorded, Recorded.run, hget] at h
      cases res <;> cases h
      · exact ⟨rfl, by simp [Except.map]⟩
      · refine ⟨rfl, ?_⟩
        rintro _ ⟨⟩
        rfl
  | bytes32 w =>
    cases hget : b.store.getBytes32 key r.state with
    | mk res s =>
      simp only [Store.present, Backend.recorded, Recorded.run, hget] at h
      cases res <;> cases h
      · exact ⟨rfl, by simp [Except.map]⟩
      · refine ⟨rfl, ?_⟩
        rintro _ ⟨⟩
        rfl

theorem put_record {e : Entry} {r r' : Recorded σ} {result : Except CallError Unit}
    (h : b.recorded.store.put e r = (result, r')) : r'.calls = r.calls ++ [e.writeRecord result] := by
  obtain ⟨key, value, label⟩ := e
  cases value with
  | uint n =>
    cases hset : b.store.setUint key n r.state with
    | mk res s =>
      simp only [Store.put, Backend.recorded, Recorded.run, hset] at h
      cases res <;> cases h <;> rfl
  | bytes32 w =>
    cases hset : b.store.setBytes32 key w r.state with
    | mk res s =>
      simp only [Store.put, Backend.recorded, Recorded.run, hset] at h
      cases res <;> cases h <;> rfl

namespace Writer

/-- A writer after a request for an entry that gave a result. -/
def tally (w : Writer) (e : Entry) : Except CallError Bool → Writer
  | .error _ => w.countRead
  | .ok false => w.countRead.countUnchanged
  | .ok true =>
    match w.mode with
    | .apply => w.countRead.countWrite
    | .dryRun => (w.countRead.note e).countWrite

theorem write_served {w w' : Writer} {e : Entry} {r r' : Recorded σ} {result : Except CallError Bool}
    (h : write b.recorded.store w e r = (result, w', r')) :
    w' = w.tally e result ∧ ∃ new, r'.calls = r.calls ++ new ∧ Served w.mode e result new := by
  cases hread : b.recorded.store.present e r with
  | mk res r₁ =>
    obtain ⟨hcalls, hkind⟩ := present_record hread
    simp only [write, hread] at h
    cases res with
    | error err =>
      cases h
      exact ⟨rfl, _, hcalls, .unread⟩
    | ok present =>
      by_cases heq : present = e.value
      · simp only [if_pos heq] at h
        cases h
        subst heq
        exact ⟨rfl, _, hcalls, .equal⟩
      · simp only [if_neg heq] at h
        cases hmode : w.mode with
        | dryRun =>
          simp only [show w.countRead.mode = .dryRun from hmode] at h
          cases h
          refine ⟨?_, _, hcalls, .noted rfl (hkind present rfl) heq⟩
          simp only [tally, hmode]
        | apply =>
          simp only [show w.countRead.mode = .apply from hmode] at h
          cases hput : b.recorded.store.put e r₁ with
          | mk res r₂ =>
            have hboth : r₂.calls = r.calls ++ [e.readRecord (.ok present), e.writeRecord res] := by
              rw [put_record hput, hcalls, List.append_assoc]
              rfl
            rw [hput] at h
            cases res with
            | error err =>
              cases h
              exact ⟨rfl, _, hboth, .refused rfl (hkind present rfl) heq⟩
            | ok u =>
              cases h
              refine ⟨?_, _, hboth, .changed rfl (hkind present rfl) heq⟩
              simp only [tally, hmode]

/-! ## Sequences of requests -/

/-- Serves requests one after another; one that fails does not stop the others. -/
def writeEach (store : Store σ) (w : Writer) : List Entry → σ → List (Except CallError Bool) × Writer × σ
  | [], s => ([], w, s)
  | e :: es, s =>
    match write store w e s with
    | (result, w, s) =>
      match writeEach store w es s with
      | (results, w, s) => (result :: results, w, s)

def tallyAll (w : Writer) : List Entry → List (Except CallError Bool) → Writer
  | e :: es, result :: results => (w.tally e result).tallyAll es results
  | _, _ => w

theorem writeEach_recorded (b : Backend σ) : ∀ (es : List Entry) (w : Writer) (r : Recorded σ), ∃ new,
    writeEach b.recorded.store w es r =
      ((writeEach b.store w es r.state).1, r.after (writeEach b.store w es r.state).2 new)
  | [], w, r => ⟨[], by rw [writeEach, writeEach, Recorded.after, List.append_nil]⟩
  | e :: es, w, r => by
    obtain ⟨new, -, heq, -, -⟩ := write_recorded b w e r
    rw [writeEach, writeEach, heq]
    cases write b.store w e r.state with
    | mk result out =>
      obtain ⟨w', s⟩ := out
      obtain ⟨new', heq'⟩ := writeEach_recorded b es w' ⟨s, r.calls ++ new⟩
      refine ⟨new ++ new', ?_⟩
      simp only [Recorded.after, heq', List.append_assoc]

end Writer

/-- What requests give one after another, and the calls that are made for them. -/
inductive ServedEach (mode : WriteMode) : List Entry → List (Except CallError Bool) → List CallRecord → Prop
  | nil : ServedEach mode [] [] []
  | cons {e es result results new calls} (one : Served mode e result new) (rest : ServedEach mode es results calls) :
    ServedEach mode (e :: es) (result :: results) (new ++ calls)

theorem Writer.writeEach_served : ∀ (es : List Entry) {w w' : Writer} {r r' : Recorded σ}
    {results : List (Except CallError Bool)}, writeEach b.recorded.store w es r = (results, w', r') →
    w' = w.tallyAll es results ∧ ∃ new, r'.calls = r.calls ++ new ∧ ServedEach w.mode es results new
  | [], w, w', r, r', results, h => by
    cases h
    exact ⟨rfl, [], (List.append_nil _).symm, .nil⟩
  | e :: es, w, w', r, r', results, h => by
    have hmode := mode_write b.recorded.store w e r
    rw [writeEach] at h
    cases hw : write b.recorded.store w e r with
    | mk result out =>
      obtain ⟨w₁, r₁⟩ := out
      obtain ⟨htally, new, hnew, hone⟩ := write_served hw
      rw [hw] at h hmode
      cases hrest : writeEach b.recorded.store w₁ es r₁ with
      | mk results' out =>
        obtain ⟨w₂, r₂⟩ := out
        obtain ⟨htallies, new', hnew', hothers⟩ := writeEach_served es hrest
        simp only [hrest] at h
        cases h
        refine ⟨?_, new ++ new', ?_, .cons hone ?_⟩
        · rw [htallies, htally]
          rfl
        · rw [hnew', hnew, List.append_assoc]
        · rwa [show w₁.mode = w.mode from hmode] at hothers

/-! ## Counts and notes -/

/-- How many requests gave an answer, or failed and gave none. -/
def gave (answer : Option Bool) (results : List (Except CallError Bool)) : Nat :=
  (results.map Except.toOption).count answer

/-- The entries whose requests were answered with `true`. -/
def changedEntries (es : List Entry) (results : List (Except CallError Bool)) : List Entry :=
  ((es.zip results).filter fun (_, result) => result.toOption = some true).map (·.1)

theorem gave_cons (answer : Option Bool) (result : Except CallError Bool) (results : List (Except CallError Bool)) :
    gave answer (result :: results) = gave answer results + if result.toOption = answer then 1 else 0 := by
  simp only [gave, List.map_cons, List.count_cons, beq_iff_eq]

theorem changedEntries_cons (e : Entry) (es : List Entry) (result : Except CallError Bool)
    (results : List (Except CallError Bool)) : changedEntries (e :: es) (result :: results) =
      (if result.toOption = some true then [e] else []) ++ changedEntries es results := by
  unfold changedEntries
  by_cases h : result.toOption = some true <;> simp [h]

/-- A request is answered with `true` or with `false`, or it fails. -/
theorem gave_add_gave (results : List (Except CallError Bool)) :
    gave (some true) results + gave (some false) results + gave none results = results.length := by
  induction results with
  | nil => rfl
  | cons result results ih =>
    simp only [gave_cons, List.length_cons]
    rcases result with err | _ | _ <;> simp [Except.toOption] <;> omega

namespace ServedEach

variable {mode : WriteMode} {es : List Entry} {results : List (Except CallError Bool)} {calls : List CallRecord}

theorem length_eq (h : ServedEach mode es results calls) : results.length = es.length := by
  induction h with
  | nil => rfl
  | cons _ _ ih => simp [ih]

theorem length_changedEntries (h : ServedEach mode es results calls) :
    (changedEntries es results).length = gave (some true) results := by
  induction h with
  | nil => rfl
  | cons _ _ ih =>
    rw [changedEntries_cons, gave_cons, List.length_append, ih]
    split
    · simp only [List.length_singleton]
      omega
    · simp only [List.length_nil]
      omega

/-- The writer after the requests, starting with any. -/
theorem tallyAll_eq (h : ServedEach mode es results calls) (w : Writer) (hmode : w.mode = mode) :
    (w.tallyAll es results).stats = ⟨w.stats.reads + es.length, w.stats.writes + gave (some true) results,
      w.stats.unchanged + gave (some false) results⟩ ∧
    (w.tallyAll es results).pending = w.pending ++ if mode = .dryRun then changedEntries es results else [] := by
  induction h generalizing w with
  | nil => simp [Writer.tallyAll, gave, changedEntries]
  | @cons e es result results new calls one rest ih =>
    have hstep : (w.tally e result).mode = mode ∧
        (w.tally e result).stats = ⟨w.stats.reads + 1, w.stats.writes + (if result.toOption = some true then 1 else 0),
          w.stats.unchanged + if result.toOption = some false then 1 else 0⟩ ∧
        (w.tally e result).pending =
          w.pending ++ if mode = .dryRun ∧ result.toOption = some true then [e] else [] := by
      rcases result with err | _ | _
      · exact ⟨hmode, rfl, by simp [Writer.tally, Writer.countRead, Except.toOption]⟩
      · exact ⟨hmode, rfl, by simp [Writer.tally, Writer.countRead, Writer.countUnchanged, Except.toOption]⟩
      · cases mode <;> simp [Writer.tally, hmode, Writer.countRead, Writer.countWrite, Writer.note, Except.toOption]
    obtain ⟨hmode', hstats, hpending⟩ := hstep
    obtain ⟨hstats', hpending'⟩ := ih (w.tally e result) hmode'
    rw [Writer.tallyAll, hstats', hpending', hstats, hpending, gave_cons, gave_cons, changedEntries_cons]
    constructor
    · simp only [List.length_cons, WriterStats.mk.injEq]
      omega
    · by_cases hdry : mode = .dryRun
      · simp [hdry]
      · simp [hdry]

end ServedEach

/-! ## Calls -/

def CallRecord.isDoneWrite : CallRecord → Bool
  | .setUint _ _ (some ()) | .setBytes32 _ _ (some ()) => true
  | _ => false

/-- A read of the slot of an entry that found another value there, and a write of the entry, made or refused. -/
def Entry.Corrects (e : Entry) (read write : CallRecord) : Prop :=
  ∃ present : SlotValue, present.slot e.key = e.slot ∧ present ≠ e.value ∧ read = present.readCall e.key ∧
    (write = e.value.writeCall e.key ∨ write = (e.value.writeCall e.key).failed)

namespace Entry

variable (e : Entry)

theorem readRecord_cases (result : Except CallError SlotValue) : (∃ key n, e.readRecord result = .getUint key n) ∨
    ∃ key w, e.readRecord result = .getBytes32 key w := by
  unfold readRecord
  rcases result with err | present
  · cases e.value with
    | uint => exact Or.inl ⟨_, _, rfl⟩
    | bytes32 => exact Or.inr ⟨_, _, rfl⟩
  · cases present with
    | uint => exact Or.inl ⟨_, _, rfl⟩
    | bytes32 => exact Or.inr ⟨_, _, rfl⟩

theorem readSlot?_readRecord {result : Except CallError SlotValue}
    (kind : ∀ v, result = .ok v → v.slot e.key = e.slot) : (e.readRecord result).readSlot? = some e.slot := by
  cases result with
  | error err =>
    unfold readRecord Entry.slot
    cases e.value <;> rfl
  | ok present =>
    rw [← kind present rfl]
    cases present <;> rfl

@[simp] theorem readSlot?_writeRecord (result : Except CallError Unit) : (e.writeRecord result).readSlot? = none := by
  unfold writeRecord
  cases result <;> cases e.value <;> rfl

@[simp] theorem writtenSlot?_readRecord (result : Except CallError SlotValue) :
    (e.readRecord result).writtenSlot? = none := by
  rcases e.readRecord_cases result with ⟨_, _, h⟩ | ⟨_, _, h⟩ <;> rw [h] <;> rfl

@[simp] theorem writtenSlot?_writeRecord (result : Except CallError Unit) :
    (e.writeRecord result).writtenSlot? = some e.slot := by
  unfold writeRecord Entry.slot
  cases result <;> cases e.value <;> rfl

@[simp] theorem isChange_readRecord (result : Except CallError SlotValue) : (e.readRecord result).isChange = false := by
  rcases e.readRecord_cases result with ⟨_, _, h⟩ | ⟨_, _, h⟩ <;> rw [h] <;> rfl

@[simp] theorem isChange_writeRecord (result : Except CallError Unit) : (e.writeRecord result).isChange = true := by
  unfold writeRecord
  cases result <;> cases e.value <;> rfl

@[simp] theorem isStoreCall_readRecord (result : Except CallError SlotValue) :
    (e.readRecord result).isStoreCall = true := by
  rcases e.readRecord_cases result with ⟨_, _, h⟩ | ⟨_, _, h⟩ <;> rw [h] <;> rfl

@[simp] theorem isStoreCall_writeRecord (result : Except CallError Unit) :
    (e.writeRecord result).isStoreCall = true := by
  unfold writeRecord
  cases result <;> cases e.value <;> rfl

@[simp] theorem isDoneWrite_readRecord (result : Except CallError SlotValue) :
    (e.readRecord result).isDoneWrite = false := by
  rcases e.readRecord_cases result with ⟨_, _, h⟩ | ⟨_, _, h⟩ <;> rw [h] <;> rfl

@[simp] theorem isDoneWrite_writeRecord (result : Except CallError Unit) :
    (e.writeRecord result).isDoneWrite = result.toOption.isSome := by
  unfold writeRecord
  cases result <;> cases e.value <;> rfl

end Entry

namespace Served

variable {mode : WriteMode} {e : Entry} {result : Except CallError Bool} {new : List CallRecord}

theorem reads_eq (h : Served mode e result new) : new.filterMap (·.readSlot?) = [e.slot] := by
  have hread (present : SlotValue) (kind : present.slot e.key = e.slot) :
      (e.readRecord (.ok present)).readSlot? = some e.slot := by
    refine e.readSlot?_readRecord fun v hv => ?_
    cases hv
    exact kind
  cases h with
  | unread => simp [e.readSlot?_readRecord]
  | equal => simp [hread e.value rfl]
  | noted _ kind => simp [hread _ kind]
  | refused _ kind => simp [hread _ kind]
  | changed _ kind => simp [hread _ kind]

/-- A request makes its write if and only if it is answered with `true`, unless that is a dry run. -/
theorem doneWrites_eq (h : Served mode e result new) (apply : mode = .apply) :
    new.filter (·.isDoneWrite) = if result.toOption = some true then [e.value.writeCall e.key] else [] := by
  cases h with
  | unread => simp [Except.toOption]
  | equal => simp [Except.toOption]
  | noted dry => exact absurd (apply.symm.trans dry) (by decide)
  | refused => simp [Except.toOption]
  | changed =>
    simp only [List.filter_cons, e.isDoneWrite_readRecord, e.isDoneWrite_writeRecord]
    rfl

/-- A request that does not fail calls for a write if and only if it is answered with `true`, unless that is a dry
run. -/
theorem writes_eq (h : Served mode e result new) (apply : mode = .apply) (answered : result.toOption ≠ none) :
    new.filterMap (·.writtenSlot?) = if result.toOption = some true then [e.slot] else [] := by
  cases h with
  | unread => simp [Except.toOption] at answered
  | equal => simp [Except.toOption]
  | noted dry => exact absurd (apply.symm.trans dry) (by decide)
  | refused => simp [Except.toOption] at answered
  | changed => simp [Except.toOption]

theorem storeCall (h : Served mode e result new) : ∀ call ∈ new, call.isStoreCall = true := by
  cases h <;> simp

theorem not_change (h : Served mode e result new) (dry : mode = .dryRun) :
    ∀ call ∈ new, call.isChange = false := by
  cases h with
  | unread => simp
  | equal => simp
  | noted => simp
  | refused apply => exact absurd (apply.symm.trans dry) (by decide)
  | changed apply => exact absurd (apply.symm.trans dry) (by decide)

/-- Nothing comes before a write but the read that it corrects. -/
theorem corrects (h : Served mode e result new) {pre post : List CallRecord} {call : CallRecord}
    (split : new = pre ++ call :: post) (change : call.isChange = true) :
    ∃ read, pre = [read] ∧ e.Corrects read call := by
  have hread (result : Except CallError SlotValue) : call ≠ e.readRecord result := by
    rintro rfl
    rw [e.isChange_readRecord] at change
    cases change
  -- the first call is a read, so the write is the second one
  rcases pre with _ | ⟨first, pre⟩
  · cases h <;> exact absurd (List.cons.inj split).1.symm (hread _)
  · cases h with
    | unread => simp at split
    | equal => simp at split
    | noted => simp at split
    | @refused present err _ kind different =>
      obtain ⟨rfl, hrest⟩ := List.cons.inj split
      rcases pre with _ | ⟨second, pre⟩
      · obtain ⟨rfl, -⟩ := List.cons.inj hrest
        exact ⟨_, rfl, present, kind, different, rfl, Or.inr rfl⟩
      · simp at hrest
    | @changed present _ kind different =>
      obtain ⟨rfl, hrest⟩ := List.cons.inj split
      rcases pre with _ | ⟨second, pre⟩
      · obtain ⟨rfl, -⟩ := List.cons.inj hrest
        exact ⟨_, rfl, present, kind, different, rfl, Or.inl rfl⟩
      · simp at hrest

end Served

namespace ServedEach

variable {mode : WriteMode} {es : List Entry} {results : List (Except CallError Bool)} {calls : List CallRecord}

theorem reads_eq (h : ServedEach mode es results calls) :
    calls.filterMap (·.readSlot?) = es.map (·.slot) := by
  induction h with
  | nil => rfl
  | cons one _ ih => rw [List.filterMap_append, one.reads_eq, ih, List.map_cons, List.singleton_append]

theorem doneWrites_eq (h : ServedEach mode es results calls) (apply : mode = .apply) :
    calls.filter (·.isDoneWrite) = (changedEntries es results).map fun e => e.value.writeCall e.key := by
  induction h with
  | nil => rfl
  | @cons e _ result _ _ _ one _ ih =>
    rw [List.filter_append, one.doneWrites_eq apply, ih, changedEntries_cons, List.map_append]
    split <;> rfl

theorem writes_eq (h : ServedEach mode es results calls) (apply : mode = .apply) (answered : gave none results = 0) :
    calls.filterMap (·.writtenSlot?) = (changedEntries es results).map (·.slot) := by
  induction h with
  | nil => rfl
  | @cons e _ result _ _ _ one _ ih =>
    rw [gave_cons] at answered
    have hone : result.toOption ≠ none := by
      intro hnone
      rw [if_pos hnone] at answered
      omega
    rw [List.filterMap_append, one.writes_eq apply hone, ih (by omega), changedEntries_cons, List.map_append]
    split <;> rfl

theorem forall_call {p : CallRecord → Prop} (h : ServedEach mode es results calls)
    (one : ∀ e result new, Served mode e result new → ∀ call ∈ new, p call) : ∀ call ∈ calls, p call := by
  induction h with
  | nil => simp
  | cons hone _ ih =>
    intro call hcall
    rcases List.mem_append.1 hcall with h | h
    · exact one _ _ _ hone call h
    · exact ih call h

theorem storeCall (h : ServedEach mode es results calls) : ∀ call ∈ calls, call.isStoreCall = true :=
  h.forall_call fun _ _ _ one => one.storeCall

theorem not_change (h : ServedEach mode es results calls) (dry : mode = .dryRun) :
    ∀ call ∈ calls, call.isChange = false :=
  h.forall_call fun _ _ _ one => one.not_change dry

/-- Just before each write stands the read that it corrects. -/
theorem corrects (h : ServedEach mode es results calls) {pre post : List CallRecord} {call : CallRecord}
    (split : calls = pre ++ call :: post) (change : call.isChange = true) :
    ∃ e ∈ es, ∃ before read, pre = before ++ [read] ∧ e.Corrects read call := by
  induction h generalizing pre with
  | nil => simp at split
  | @cons e es _ _ new calls one _ ih =>
    -- a write of the requests after the first, or of the first one
    have hlater (pre' : List CallRecord) (hpre : pre = new ++ pre') (hcalls : calls = pre' ++ call :: post) :
        ∃ e' ∈ e :: es, ∃ before read, pre = before ++ [read] ∧ e'.Corrects read call := by
      obtain ⟨e', he', before, read, rfl, hcorrects⟩ := ih hcalls
      refine ⟨e', List.mem_cons_of_mem _ he', new ++ before, read, ?_, hcorrects⟩
      rw [hpre, List.append_assoc]
    rcases List.append_eq_append_iff.1 split with ⟨pre', hpre, hcalls⟩ | ⟨rest, hnew, hrest⟩
    · exact hlater pre' hpre hcalls
    · rcases rest with _ | ⟨first, rest⟩
      · rw [List.append_nil] at hnew
        exact hlater [] (by rw [hnew, List.append_nil]) hrest.symm
      · obtain ⟨rfl, -⟩ := List.cons.inj hrest
        obtain ⟨read, rfl, hcorrects⟩ := one.corrects hnew change
        exact ⟨e, List.mem_cons_self, [], read, rfl, hcorrects⟩

end ServedEach

/-! ## Accounts -/

/-- What a writer has counted and noted after requests, by their results, and what the store was called for. -/
structure Accounts (mode : WriteMode) (es : List Entry) (results : List (Except CallError Bool)) (w : Writer)
    (calls : List CallRecord) : Prop where
  length_eq : results.length = es.length
  reads_eq : w.stats.reads = es.length
  /-- Each request is a write, or it finds what it should, or it fails. -/
  reads_split : w.stats.reads = w.stats.writes + w.stats.unchanged + gave none results
  writes_eq : gave (some true) results = w.stats.writes
  unchanged_eq : gave (some false) results = w.stats.unchanged
  slots_read : calls.filterMap (·.readSlot?) = es.map (·.slot)
  /-- Just before each write, made or refused, its slot was found to hold another value. -/
  corrects : ∀ pre call post, calls = pre ++ call :: post → call.isChange = true →
    ∃ e ∈ es, ∃ before read, pre = before ++ [read] ∧ e.Corrects read call
  /-- The writes that were made are those of the requests that were answered with `true`, and are counted. -/
  apply : mode = .apply → w.pending = [] ∧
    calls.filter (·.isDoneWrite) = ((changedEntries es results).map fun e => e.value.writeCall e.key) ∧
    (calls.filter (·.isDoneWrite)).length = w.stats.writes
  /-- A dry run writes nothing and notes the entries whose requests were answered with `true`. -/
  dryRun : mode = .dryRun → (∀ call ∈ calls, call.isChange = false) ∧ w.pending = changedEntries es results

theorem ServedEach.accounts {mode : WriteMode} {es : List Entry} {results : List (Except CallError Bool)}
    {calls : List CallRecord} (h : ServedEach mode es results calls) :
    Accounts mode es results (({ mode } : Writer).tallyAll es results) calls := by
  obtain ⟨hstats, hpending⟩ := h.tallyAll_eq { mode } rfl
  simp only [Nat.zero_add, List.nil_append] at hstats hpending
  generalize ({ mode } : Writer).tallyAll es results = w at hstats hpending
  have hlength := h.length_eq
  have hsum := gave_add_gave results
  refine
    { length_eq := hlength, slots_read := h.reads_eq, corrects := fun _ _ _ => h.corrects,
      reads_eq := by rw [hstats], writes_eq := by rw [hstats], unchanged_eq := by rw [hstats],
      reads_split := ?_, apply := ?_, dryRun := ?_ }
  · simp only [hstats]
    omega
  · intro apply
    have hwrites := h.doneWrites_eq apply
    refine ⟨by simp [hpending, apply], hwrites, ?_⟩
    rw [hwrites, List.length_map, h.length_changedEntries, hstats]
  · intro dry
    exact ⟨h.not_change dry, by simp [hpending, dry]⟩

/-- **Whatever a store answers, the counts and notes of a writer are those of the results that it gave, and the calls
that it made are accounted for. One more request that fails counts as a read and leaves everything else.** -/
theorem writer_accounts (b : Backend σ) (mode : WriteMode) (es : List Entry) (s : σ) : ∃ results w calls s',
    Writer.writeEach b.store { mode } es s = (results, w, s') ∧
    Writer.writeEach b.recorded.store { mode } es ⟨s, []⟩ = (results, w, ⟨s', calls⟩) ∧
    Accounts mode es results w calls ∧
    ∀ e err w' after, Writer.write b.store w e s' = (.error err, w', after) →
      w' = { w with stats := { w.stats with reads := w.stats.reads + 1 } } := by
  obtain ⟨calls, hrecorded⟩ := Writer.writeEach_recorded b es { mode } ⟨s, []⟩
  cases hrun : Writer.writeEach b.store { mode } es s with
  | mk results out =>
    obtain ⟨w, s'⟩ := out
    rw [hrun, Recorded.after, List.nil_append] at hrecorded
    obtain ⟨htally, new, hnew, hserved⟩ := Writer.writeEach_served es hrecorded
    obtain rfl : calls = new := by simpa using hnew
    refine ⟨results, w, calls, s', rfl, hrecorded, ?_, ?_⟩
    · rw [show w = _ from htally]
      exact hserved.accounts
    · intro e err w' after hfails
      obtain ⟨more, -, heq, -⟩ := Writer.write_recorded b w e ⟨s', []⟩
      rw [hfails] at heq
      exact (Writer.write_served heq).1

/-! ## A store with a slot that refuses writes -/

/-- A ledger on which the second of three slots refuses writes. -/
def refusingLedger : Ledger := { Ledger.empty with reverting := [2] }

/-- Requests for a slot that holds its value, one that refuses writes, and one that takes them. -/
def threeRequests : List Entry := [⟨1, .uint 0, "a"⟩, ⟨2, .uint 5, "b"⟩, ⟨3, .bytes32 7, "c"⟩]

/-- One slot is as it should be, one write is refused and one is made; the refused write is not counted. -/
theorem accounts_of_three_requests : ∃ w calls s',
    Writer.writeEach Ledger.backend.recorded.store { mode := .apply } threeRequests ⟨refusingLedger, []⟩ =
      ([.ok false, .error (.slotReverted .setUint 2), .ok true], w, ⟨s', calls⟩) ∧
    w.stats = ⟨3, 1, 1⟩ ∧ w.pending = [] ∧ calls.filter (·.isDoneWrite) = [.setBytes32 3 7 (some ())] := by
  obtain ⟨results, w, calls, s', -, hrun, haccounts, -⟩ :=
    writer_accounts Ledger.backend .apply threeRequests refusingLedger
  have hresults : results = [.ok false, .error (.slotReverted .setUint 2), .ok true] :=
    (congrArg Prod.fst hrun).symm
  subst hresults
  obtain ⟨hpending, hwrites, -⟩ := haccounts.apply rfl
  have hreads : w.stats.reads = 3 := haccounts.reads_eq
  have hwritten : w.stats.writes = 1 := haccounts.writes_eq.symm
  have hunchanged : w.stats.unchanged = 1 := haccounts.unchanged_eq.symm
  refine ⟨w, calls, s', hrun, ?_, hpending, hwrites⟩
  calc
    w.stats = ⟨w.stats.reads, w.stats.writes, w.stats.unchanged⟩ := rfl
    _ = ⟨3, 1, 1⟩ := by rw [hreads, hwritten, hunchanged]

end MarketSync

import MarketSync.Proofs.Conformance

/-!
# Writing entries to a conforming store

* `write_ok`, `write_error` — one entry: a write that succeeds settles it, one that fails changes nothing.
* `writeAll_prefix` — whatever happens, a list of entries is settled up to some point.
* `writeAll_ok` — if all goes well, all of it, with one read an entry and a write where a slot changes.
* `writeAll_succeeds`, `writeAll_reverts` — on a working store only a key that refuses writes stands in
  the way, and only where its slot would have to change.
-/

namespace MarketSync

/-- No slot would have to change whose key refuses writes. -/
def Contents.Unblocked (c : Contents) (es : List Entry) : Prop :=
  ∀ e ∈ es, e.key ∈ c.reverting → c.slots.Holds e

/-- The first entry is not blocked, and after it the others are not. -/
theorem Contents.unblocked_cons {c : Contents} {e : Entry} {es : List Entry} :
    c.Unblocked (e :: es) ↔ (e.key ∈ c.reverting → c.slots.Holds e) ∧ (c.settleAll [e]).Unblocked es := by
  -- a slot that refuses writes is not the one that is written
  have hkeep (hblock : e.key ∈ c.reverting → c.slots.Holds e) {e' : Entry} (hk : e'.key ∈ c.reverting) :
      (c.slots.settle e).Holds e' ↔ c.slots.Holds e' := by
    by_cases hh : c.slots.Holds e
    · rw [Slots.settle_of_holds hh]
    · have hne : e'.slot ≠ e.slot := fun hs => hh (hblock (by rwa [← Entry.key_eq_of_slot_eq hs]))
      rw [Slots.settle_of_not_holds hh, Slots.holds_put_iff hne]
  constructor
  · intro h
    have hblock := h e (by simp)
    exact ⟨hblock, fun e' he' hk => (hkeep hblock hk).2 (h e' (by simp [he']) hk)⟩
  · rintro ⟨hblock, hrest⟩ e' he' hk
    rcases List.mem_cons.1 he' with rfl | he'
    · exact hblock hk
    · exact (hkeep hblock hk).1 (hrest e' he' hk)

/-- Settling entries changes no slot whose key refuses writes, unless it is blocked. -/
theorem Contents.Unblocked.settled {c : Contents} {es : List Entry} (h : c.Unblocked es) :
    (c.settleAll es).Unblocked es := by
  intro e he hk
  refine Slots.read_settleAll_of_agree c.slots he fun e' he' hs => ?_
  have hk' : e'.key ∈ c.reverting := by rwa [Entry.key_eq_of_slot_eq hs]
  have hread := h e' he' hk'
  rw [Slots.Holds, hs] at hread
  rw [← hread]
  exact h e he hk

namespace Writer

variable {σ : Type} {store : Store σ} {view : σ → Contents}

/-! ## One entry -/

/-- A write that succeeds settles the entry; answer and counts tell whether it had to change the slot. -/
theorem write_ok (hs : store.Conforms view) {w w' : Writer} {e : Entry} {s s' : σ} {changed : Bool}
    (apply : w.mode = .apply) (h : write store w e s = (.ok changed, w', s')) :
    view s' = (view s).settleAll [e] ∧
      (e.key ∈ (view s).reverting → (view s).slots.Holds e) ∧
      (changed = true ↔ ¬ (view s).slots.Holds e) ∧
      w' = if (view s).slots.Holds e then w.countRead.countUnchanged else w.countRead.countWrite := by
  have hv := hs.view_present e s
  have hmode : w.countRead.mode = .apply := apply
  simp only [write, hmode] at h
  split at h
  · cases h
  · rename_i present s₁ hread
    have hpresent := hs.present_ok (congrArg Prod.fst hread)
    rw [hread] at hv
    split at h
    · rename_i heq
      cases h
      have hholds : (view s).slots.Holds e := by rw [Slots.Holds, ← hpresent, heq]
      refine ⟨?_, fun _ => hholds, by simp [hholds], by rw [if_pos hholds]⟩
      rw [Contents.settleAll, Slots.settleAll_cons, Slots.settle_of_holds hholds]
      exact hv
    · rename_i hne
      have hnot : ¬ (view s).slots.Holds e := by rwa [Slots.Holds, ← hpresent]
      split at h
      · cases h
      · rename_i s₂ hput
        cases h
        obtain ⟨hkey, hput'⟩ := hs.put_ok (congrArg Prod.fst hput)
        rw [hput] at hput'
        rw [hv] at hkey hput'
        refine ⟨?_, fun hk => absurd hk hkey, by simp [hnot], by rw [if_neg hnot]⟩
        rw [Contents.settleAll, Slots.settleAll_cons, Slots.settle_of_not_holds hnot]
        exact hput'

theorem write_error (hs : store.Conforms view) {w w' : Writer} {e : Entry} {s s' : σ} {err : CallError}
    (apply : w.mode = .apply) (h : write store w e s = (.error err, w', s')) : view s' = view s := by
  have hv := hs.view_present e s
  have hmode : w.countRead.mode = .apply := apply
  simp only [write, hmode] at h
  split at h
  · rename_i err s₁ hread
    cases h
    rwa [hread] at hv
  · rename_i present s₁ hread
    rw [hread] at hv
    split at h
    · cases h
    · split at h
      · rename_i err s₂ hput
        cases h
        have hput' := hs.put_error (congrArg Prod.fst hput)
        rw [hput] at hput'
        exact hput'.trans hv
      · cases h

/-- On a working store a write fails only at a key that refuses it, and only if the slot would have to
change. -/
theorem write_reverts (hs : store.Works view) {w w' : Writer} {e : Entry} {s s' : σ} {err : CallError}
    (apply : w.mode = .apply) (h : write store w e s = (.error err, w', s')) :
    err = .slotReverted e.value.setter e.key ∧ e.key ∈ (view s).reverting ∧
      ¬ (view s).slots.Holds e := by
  have hv := hs.view_present e s
  have hmode : w.countRead.mode = .apply := apply
  simp only [write, hmode] at h
  split at h
  · rename_i err s₁ hread
    obtain ⟨v, hok⟩ := hs.present_succeeds e s
    rw [hread] at hok
    cases hok
  · rename_i present s₁ hread
    have hpresent := hs.present_ok (congrArg Prod.fst hread)
    rw [hread] at hv
    split at h
    · cases h
    · rename_i hne
      split at h
      · rename_i err s₂ hput
        cases h
        refine ⟨hs.put_reverts (congrArg Prod.fst hput), ?_, by rwa [Slots.Holds, ← hpresent]⟩
        rw [← hv]
        refine Decidable.byContradiction fun hk => ?_
        have hok := hs.put_succeeds hk
        rw [hput] at hok
        cases hok
      · cases h

theorem mode_write (store : Store σ) (w : Writer) (e : Entry) (s : σ) :
    (write store w e s).2.1.mode = w.mode := by
  simp only [write]
  split
  · rfl
  · split
    · rfl
    · split
      · rfl
      · split <;> rfl

theorem pending_write (store : Store σ) (w : Writer) (e : Entry) (s : σ) :
    (write store w e s).2.1.pending = w.pending ∨ (write store w e s).2.1.pending = w.pending ++ [e] := by
  simp only [write]
  split
  · exact Or.inl rfl
  · split
    · exact Or.inl rfl
    · split
      · exact Or.inr rfl
      · left
        split <;> rfl

/-! ## Lists of entries -/

/-- What is noted are some of the entries, in order. -/
theorem writeAll_pending : ∀ (es : List Entry) {w w' : Writer} {s s' : σ}
    {result : Except CallError Unit}, writeAll store w es s = (result, w', s') →
    ∃ noted, w'.pending = w.pending ++ noted ∧ noted.Sublist es
  | [], w, w', s, s', result, h => by
    cases h
    exact ⟨[], (List.append_nil _).symm, .slnil⟩
  | e :: es, w, w', s, s', result, h => by
    have hone : ∃ noted, (write store w e s).2.1.pending = w.pending ++ noted ∧ noted.Sublist [e] := by
      rcases pending_write store w e s with hp | hp
      · exact ⟨[], hp.trans (List.append_nil _).symm, List.nil_sublist _⟩
      · exact ⟨[e], hp, .refl _⟩
    obtain ⟨noted, hnoted, hsub⟩ := hone
    rw [writeAll] at h
    split at h
    · rename_i err w₁ s₁ he
      cases h
      rw [he] at hnoted
      exact ⟨noted, hnoted, hsub.trans (List.singleton_sublist.2 List.mem_cons_self)⟩
    · rename_i changed w₁ s₁ he
      rw [he] at hnoted
      obtain ⟨more, hmore, hsub'⟩ := writeAll_pending es h
      refine ⟨noted ++ more, ?_, hsub.append hsub'⟩
      rw [hmore, hnoted, List.append_assoc]

/-- **Whatever happens, entries are settled up to some point, and all of them if nothing fails.** -/
theorem writeAll_prefix (hs : store.Conforms view) : ∀ (es : List Entry) {w w' : Writer} {s s' : σ}
    {result : Except CallError Unit}, w.mode = .apply → writeAll store w es s = (result, w', s') →
    ∃ pre, pre <+: es ∧ view s' = (view s).settleAll pre ∧
      (result = .ok () → pre = es)
  | [], w, w', s, s', result, _, h => by
    cases h
    exact ⟨[], List.prefix_rfl, rfl, fun _ => rfl⟩
  | e :: es, w, w', s, s', result, apply, h => by
    have hm := mode_write store w e s
    rw [writeAll] at h
    split at h
    · rename_i err w₁ s₁ he
      cases h
      exact ⟨[], List.nil_prefix, write_error hs apply he, fun h => by cases h⟩
    · rename_i changed w₁ s₁ he
      rw [he] at hm
      obtain ⟨hv, -, -⟩ := write_ok hs apply he
      obtain ⟨pre, hpre, hv', hall⟩ := writeAll_prefix hs es (hm.trans apply) h
      refine ⟨e :: pre, List.cons_prefix_cons.2 ⟨rfl, hpre⟩, ?_, fun hr => by rw [hall hr]⟩
      rw [hv', hv]
      rfl

/-- Entries all written: nothing was blocked, each took one read, and the changed ones a write. -/
theorem writeAll_ok (hs : store.Conforms view) : ∀ (es : List Entry) {w w' : Writer} {s s' : σ},
    w.mode = .apply → writeAll store w es s = (.ok (), w', s') →
    (view s).Unblocked es ∧ w'.stats.reads = w.stats.reads + es.length ∧
      w'.stats.writes = w.stats.writes + ((view s).slots.changed es).length
  | [], w, w', s, s', _, h => by
    cases h
    exact ⟨fun e he => absurd he List.not_mem_nil, rfl, rfl⟩
  | e :: es, w, w', s, s', apply, h => by
    have hm := mode_write store w e s
    rw [writeAll] at h
    split at h
    · cases h
    · rename_i changed w₁ s₁ he
      rw [he] at hm
      obtain ⟨hv, hblock, -, hw⟩ := write_ok hs apply he
      obtain ⟨hunblocked, hreads, hwrites⟩ := writeAll_ok hs es (hm.trans apply) h
      rw [hv] at hunblocked hwrites
      have hstep : w₁.stats.reads = w.stats.reads + 1 ∧ w₁.stats.writes = w.stats.writes +
          (if (view s).slots.Holds e then ([] : List Entry) else [e]).length := by
        rw [hw]
        split <;> exact ⟨rfl, rfl⟩
      refine ⟨Contents.unblocked_cons.2 ⟨hblock, hunblocked⟩, ?_, ?_⟩
      · rw [hreads, List.length_cons, hstep.1]
        omega
      · rw [hwrites, Slots.changed_cons, List.length_append, ← Nat.add_assoc, ← hstep.2]
        rfl

/-- The blocked entry at which a list of entries stops on a working store. -/
theorem writeAll_reverts (hs : store.Works view) : ∀ (es : List Entry) {w w' : Writer} {s s' : σ}
    {err : CallError}, w.mode = .apply → writeAll store w es s = (.error err, w', s') →
    ¬ (view s).Unblocked es ∧ ∃ e ∈ es, e.key ∈ (view s).reverting ∧
      err = .slotReverted e.value.setter e.key
  | [], w, w', s, s', err, _, h => by cases h
  | e :: es, w, w', s, s', err, apply, h => by
    have hm := mode_write store w e s
    rw [writeAll] at h
    split at h
    · rename_i err' w₁ s₁ he
      cases h
      obtain ⟨herr, hk, hnot⟩ := write_reverts hs apply he
      exact ⟨fun hu => hnot (hu e (by simp) hk), e, by simp, hk, herr⟩
    · rename_i changed w₁ s₁ he
      rw [he] at hm
      obtain ⟨hv, hblock, -⟩ := write_ok hs.toConforms apply he
      obtain ⟨hblocked, e', he', hk', herr⟩ := writeAll_reverts hs es (hm.trans apply) h
      rw [hv] at hblocked hk'
      exact ⟨fun hu => hblocked (Contents.unblocked_cons.1 hu).2, e', by simp [he'], hk', herr⟩

/-- **On a working store entries are written unless one of them is blocked.** -/
theorem writeAll_succeeds (hs : store.Works view) {es : List Entry} {w : Writer} {s : σ}
    (apply : w.mode = .apply) (hu : (view s).Unblocked es) : (writeAll store w es s).1 = .ok () := by
  cases hr : (writeAll store w es s).1 with
  | ok u => rfl
  | error err =>
    have h : writeAll store w es s = (.error err, (writeAll store w es s).2) := by rw [← hr]
    exact absurd hu (writeAll_reverts hs es apply h).1

end Writer

end MarketSync

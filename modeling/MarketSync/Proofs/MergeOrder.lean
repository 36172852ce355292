import MarketSync.Proofs.Merging

/-!
# Where merged entries stand

Merging (`merge_entries`) looks for the first entry with a key and puts the incoming one in its place, or at the end. So
keys never move: those that were there keep their positions, and new ones follow in the order in which they first come
in. Which entry stands at a position is decided by whether its key stands earlier, too.

* `map_key_mergeEntries` — the keys after merging.
* `getElem?_mergeEntries` — the entry at every position.
* `mergeEntries_self` — merging entries with different keys into themselves changes nothing.
* `merges_in_place` — all of it together, and what follows for lists merged one after another.
-/

namespace MarketSync

/-- The last entry for a key. -/
def lastAt (key : Bytes32) (es : List Entry) : Option Entry := (entriesAt key es).getLast?

/-- The keys that come in and are not there, each once, in the order in which they first appear. -/
def newKeys (existing incoming : List Entry) : List Bytes32 :=
  (incoming.map (·.key)).eraseDups.filter fun key => key ∉ existing.map (·.key)

/-! ## Keys -/

theorem map_key_mergeEntry (e : Entry) (es : List Entry) : (mergeEntry es e).map (·.key) =
    if e.key ∈ es.map (·.key) then es.map (·.key) else es.map (·.key) ++ [e.key] := by
  induction es with
  | nil => rfl
  | cons f fs ih =>
    unfold mergeEntry
    by_cases hf : f.key = e.key
    · simp [hf]
    · have hne : ¬ e.key = f.key := fun h => hf h.symm
      rw [if_neg hf, List.map_cons, ih]
      by_cases he : e.key ∈ fs.map (·.key) <;> simp [he, hne]

/-- One entry more comes in: its key is new, or it is there. -/
theorem newKeys_cons (existing : List Entry) (e : Entry) (incoming : List Entry) :
    existing.map (·.key) ++ newKeys existing (e :: incoming) =
      (mergeEntry existing e).map (·.key) ++ newKeys (mergeEntry existing e) incoming := by
  have hmerged := map_key_mergeEntry e existing
  unfold newKeys
  rw [List.map_cons, List.eraseDups_cons, List.filter_cons, eraseDups_filter, List.filter_filter]
  by_cases he : e.key ∈ existing.map (·.key)
  · rw [if_pos he] at hmerged
    have hsame : ∀ key, (decide (key ∉ existing.map (·.key)) && !key == e.key) =
        decide (key ∉ existing.map (·.key)) := by
      intro key
      by_cases hkey : key = e.key
      · simp [hkey, he]
      · simp [hkey]
    simp only [hmerged, he, not_true_eq_false, decide_false, Bool.false_eq_true, if_false, hsame]
  · rw [if_neg he] at hmerged
    have hsame : ∀ key, (decide (key ∉ existing.map (·.key)) && !key == e.key) =
        decide (key ∉ existing.map (·.key) ++ [e.key]) := by
      intro key
      by_cases hkey : key = e.key <;> simp [hkey]
    simp only [hmerged, he, not_false_eq_true, decide_true, if_true, hsame, List.append_assoc, List.singleton_append]

/-- **Keys keep their positions, and new ones follow in the order in which they first come in.** -/
theorem map_key_mergeEntries (existing incoming : List Entry) : (mergeEntries existing incoming).map (·.key) =
    existing.map (·.key) ++ newKeys existing incoming := by
  induction incoming generalizing existing with
  | nil => exact (List.append_nil _).symm
  | cons e incoming ih =>
    have hstep : mergeEntries existing (e :: incoming) = mergeEntries (mergeEntry existing e) incoming := rfl
    rw [hstep, ih, newKeys_cons]

theorem nodup_mergeEntries {existing : List Entry} (hnodup : (existing.map (·.key)).Nodup) (incoming : List Entry) :
    ((mergeEntries existing incoming).map (·.key)).Nodup := by
  rw [map_key_mergeEntries, List.nodup_append]
  refine ⟨hnodup, (nodup_eraseDups _).filter _, ?_⟩
  intro key hkey key' hnew heq
  have hnot : key' ∉ existing.map (·.key) := of_decide_eq_true (List.mem_filter.1 hnew).2
  exact hnot (heq ▸ hkey)

/-! ## Positions -/

/-- The entry at a position is the one for its key that has as many before it as the key stands earlier. -/
theorem getElem?_eq_entriesAt : ∀ {es : List Entry} {i : Nat} {key : Bytes32}, (es.map (·.key))[i]? = some key →
    es[i]? = (entriesAt key es)[((es.map (·.key)).take i).count key]?
  | [], i, key, h => by simp at h
  | e :: es, 0, key, h => by
    have hkey : e.key = key := by simpa using h
    simp [entriesAt_cons, hkey]
  | e :: es, i + 1, key, h => by
    have hrest : (es.map (·.key))[i]? = some key := by simpa using h
    have ih := getElem?_eq_entriesAt hrest
    by_cases hkey : e.key = key
    · simp [entriesAt_cons, hkey, ih]
    · simp [entriesAt_cons, hkey, ih]

theorem entriesAt_eq_nil {key : Bytes32} {es : List Entry} (h : key ∉ es.map (·.key)) : entriesAt key es = [] := by
  simpa [entriesAt] using h

/-- A key that has a position after merging has as many entries before that position as there were. -/
theorem getElem?_existing {existing incoming : List Entry} {i : Nat} {key : Bytes32}
    (h : ((mergeEntries existing incoming).map (·.key))[i]? = some key) : existing[i]? =
      (entriesAt key existing)[(((mergeEntries existing incoming).map (·.key)).take i).count key]? := by
  rw [map_key_mergeEntries] at h ⊢
  by_cases hi : i < existing.length
  · have hkeys : i < (existing.map (·.key)).length := by simpa using hi
    rw [List.getElem?_append_left hkeys] at h
    rw [List.take_append_of_le_length (Nat.le_of_lt hkeys)]
    exact getElem?_eq_entriesAt h
  · have hkeys : (existing.map (·.key)).length ≤ i := by simpa using hi
    rw [List.getElem?_append_right hkeys] at h
    have hnew : key ∉ existing.map (·.key) := of_decide_eq_true (List.mem_filter.1 (List.mem_of_getElem? h)).2
    rw [entriesAt_eq_nil hnew, List.getElem?_eq_none (Nat.le_of_not_lt hi)]
    rfl

/-- **At the first position of a key stands the last entry that comes in for it, or else the one that was there. A later
entry for a key stays as it was.** -/
theorem getElem?_mergeEntries {existing incoming : List Entry} {i : Nat} {key : Bytes32}
    (h : ((mergeEntries existing incoming).map (·.key))[i]? = some key) : (mergeEntries existing incoming)[i]? =
      if key ∈ ((mergeEntries existing incoming).map (·.key)).take i then existing[i]?
      else (lastAt key incoming).or existing[i]? := by
  have hthere := getElem?_existing h
  have hmerged := getElem?_eq_entriesAt h
  rw [entriesAt_mergeEntries] at hmerged
  rw [hmerged, hthere, lastAt]
  generalize hcount : (((mergeEntries existing incoming).map (·.key)).take i).count key = earlier
  cases earlier with
  | zero =>
    rw [if_neg (List.count_eq_zero.1 hcount)]
    cases (entriesAt key incoming).getLast? <;> simp
  | succ earlier =>
    have hmem : key ∈ ((mergeEntries existing incoming).map (·.key)).take i := by
      refine List.count_pos_iff.1 ?_
      omega
    rw [if_pos hmem]
    cases (entriesAt key incoming).getLast? <;> simp

/-! ## Entries with different keys -/

theorem entriesAt_of_nodup {es : List Entry} (hnodup : (es.map (·.key)).Nodup) {i : Nat} {e : Entry}
    (h : es[i]? = some e) : entriesAt e.key es = [e] := by
  induction es generalizing i with
  | nil => simp at h
  | cons f fs ih =>
    rw [List.map_cons, List.nodup_cons] at hnodup
    rw [entriesAt_cons]
    cases i with
    | zero =>
      obtain rfl : f = e := by simpa using h
      rw [if_pos rfl, entriesAt_eq_nil hnodup.1]
    | succ i =>
      have hfs : fs[i]? = some e := by simpa using h
      have hne : f.key ≠ e.key := by
        intro heq
        exact hnodup.1 (heq ▸ List.mem_map_of_mem (List.mem_of_getElem? hfs))
      rw [if_neg hne, ih hnodup.2 hfs]

/-- **Entries with different keys merged into themselves stay as they are.** -/
theorem mergeEntries_self {es : List Entry} (hnodup : (es.map (·.key)).Nodup) : mergeEntries es es = es := by
  have hnone : newKeys es es = [] := by
    simp [newKeys, List.filter_eq_nil_iff, List.mem_eraseDups]
  have hkeys : (mergeEntries es es).map (·.key) = es.map (·.key) := by
    rw [map_key_mergeEntries, hnone, List.append_nil]
  refine List.ext_getElem? ?_
  intro i
  cases hi : es[i]? with
  | none =>
    have hlength : (mergeEntries es es).length = es.length := by simpa using congrArg List.length hkeys
    rw [List.getElem?_eq_none_iff] at hi ⊢
    omega
  | some e =>
    have hkey : ((mergeEntries es es).map (·.key))[i]? = some e.key := by
      rw [hkeys, List.getElem?_map, hi]
      rfl
    rw [getElem?_mergeEntries hkey, lastAt, entriesAt_of_nodup hnodup hi, hi]
    split <;> rfl

/-! ## Lists merged one after another -/

/-- **After merging the keys that were there stand where they stood, and the new ones follow, each once, in the order in
which they first come in. At the first position of a key stands the last entry that came in for it, or else the old one,
and any later entry for a key is the old one. So keys that are different stay so; merging two lists one after the other is
merging them in one; and entries with different keys merged into themselves stay as they are.** -/
theorem merges_in_place (existing incoming : List Entry) :
    (mergeEntries existing incoming).map (·.key) = existing.map (·.key) ++ newKeys existing incoming ∧
    (∀ i key, ((mergeEntries existing incoming).map (·.key))[i]? = some key →
      (mergeEntries existing incoming)[i]? =
        if key ∈ ((mergeEntries existing incoming).map (·.key)).take i then existing[i]?
        else (lastAt key incoming).or existing[i]?) ∧
    ((existing.map (·.key)).Nodup → ((mergeEntries existing incoming).map (·.key)).Nodup) ∧
    (∀ more, mergeEntries (mergeEntries existing incoming) more = mergeEntries existing (incoming ++ more)) ∧
    ((existing.map (·.key)).Nodup → mergeEntries existing existing = existing) := by
  refine ⟨map_key_mergeEntries existing incoming, ?_, ?_, ?_, ?_⟩
  · intro i key h
    exact getElem?_mergeEntries h
  · intro hnodup
    exact nodup_mergeEntries hnodup incoming
  · intro more
    exact (List.foldl_append ..).symm
  · exact mergeEntries_self

/-- Entries of which two are for one key. -/
def storedTwice : List Entry := [⟨1, .uint 10, "first"⟩, ⟨2, .uint 20, "second"⟩, ⟨1, .uint 11, "first again"⟩]

/-- Entries that come in, the last two for a key that is not there. -/
def comingTwice : List Entry := [⟨1, .uint 12, "first at last"⟩, ⟨3, .bytes32 30, "third"⟩, ⟨3, .uint 31, "third again"⟩]

/-- The first entry for a key that stands twice is taken over, the other one stays, and of two for a new key the last one
is left. Without the repetition keys stay different, and merging the entries into themselves changes nothing. -/
theorem merge_of_repeated :
    (mergeEntries storedTwice comingTwice)[0]? = some ⟨1, .uint 12, "first at last"⟩ ∧
    (mergeEntries storedTwice comingTwice)[2]? = some ⟨1, .uint 11, "first again"⟩ ∧
    (mergeEntries storedTwice comingTwice)[3]? = some ⟨3, .uint 31, "third again"⟩ ∧
    (storedTwice.tail.map (·.key)).Nodup ∧ ((mergeEntries storedTwice.tail comingTwice).map (·.key)).Nodup ∧
    mergeEntries storedTwice.tail storedTwice.tail = storedTwice.tail := by
  obtain ⟨-, hposition, -⟩ := merges_in_place storedTwice comingTwice
  obtain ⟨-, -, hdifferent, -, hself⟩ := merges_in_place storedTwice.tail comingTwice
  have hnodup : (storedTwice.tail.map (·.key)).Nodup := by decide
  refine ⟨?_, ?_, ?_, hnodup, hdifferent hnodup, hself hnodup⟩
  · rw [hposition 0 1 (by decide)]
    decide
  · rw [hposition 2 1 (by decide)]
    decide
  · rw [hposition 3 3 (by decide)]
    decide

end MarketSync

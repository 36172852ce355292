import MarketSync.Proofs.Registration

/-!
# Merging the entries of a market

A market may be defined several times. The entries of its first definition are taken as they are, and those of each
further one are merged into them by key. What stands under one key then comes from the last definition that has an
entry for it.

* `entriesAt_mergeEntries` — merging puts the last incoming entry for a key in place of the first one there is.
* `entriesAt_mergeLists` — of several lists merged in order the last entry for a key is left.
* `collectGroups_eq` — the groups of a run in closed form, and the definition at which collecting them fails.
-/

namespace MarketSync

/-! ## The entries for one key -/

def entriesAt (key : Bytes32) (es : List Entry) : List Entry := es.filter fun e => e.key = key

theorem entriesAt_cons (key : Bytes32) (e : Entry) (es : List Entry) :
    entriesAt key (e :: es) = if e.key = key then e :: entriesAt key es else entriesAt key es := by
  simp [entriesAt, List.filter_cons]

theorem entriesAt_append (key : Bytes32) (es es' : List Entry) :
    entriesAt key (es ++ es') = entriesAt key es ++ entriesAt key es' := List.filter_append es es'

theorem entriesAt_mergeEntry (key : Bytes32) (e : Entry) (es : List Entry) :
    entriesAt key (mergeEntry es e) = if e.key = key then e :: (entriesAt key es).tail else entriesAt key es := by
  induction es with
  | nil => exact entriesAt_cons key e []
  | cons f fs ih =>
    unfold mergeEntry
    by_cases hf : f.key = e.key
    · rw [if_pos hf, entriesAt_cons, entriesAt_cons, hf]
      split <;> rfl
    · rw [if_neg hf, entriesAt_cons, entriesAt_cons, ih]
      by_cases he : e.key = key
      · have hfkey : f.key ≠ key := fun h => hf (h.trans he.symm)
        rw [if_neg hfkey, if_neg hfkey]
      · rw [if_neg he, if_neg he]

/-- **Merging puts the last incoming entry for a key in place of the first one there is.** -/
theorem entriesAt_mergeEntries (key : Bytes32) (incoming existing : List Entry) :
    entriesAt key (mergeEntries existing incoming) =
      match (entriesAt key incoming).getLast? with
      | none => entriesAt key existing
      | some e => e :: (entriesAt key existing).tail := by
  induction incoming generalizing existing with
  | nil => rfl
  | cons e es ih =>
    have hstep : mergeEntries existing (e :: es) = mergeEntries (mergeEntry existing e) es := rfl
    rw [hstep, ih, entriesAt_mergeEntry, entriesAt_cons]
    by_cases he : e.key = key
    · rw [if_pos he, if_pos he, List.getLast?_cons]
      cases (entriesAt key es).getLast? <;> rfl
    · rw [if_neg he, if_neg he]

/-! ## Several lists -/

/-- Lists of entries merged into the first of them, in order. -/
def mergeLists : List (List Entry) → List Entry
  | [] => []
  | es :: lists => lists.foldl mergeEntries es

theorem mergeLists_concat {lists : List (List Entry)} (nonempty : lists ≠ []) (es : List Entry) :
    mergeLists (lists ++ [es]) = mergeEntries (mergeLists lists) es := by
  cases lists with
  | nil => exact absurd rfl nonempty
  | cons first lists => simp [mergeLists, List.foldl_append]

/-- **Of several lists with at most one entry each for a key, the last entry is left.** -/
theorem entriesAt_mergeLists {key : Bytes32} {lists : List (List Entry)}
    (once : ∀ es ∈ lists, (entriesAt key es).length ≤ 1) :
    entriesAt key (mergeLists lists) = (lists.flatMap (entriesAt key)).getLast?.toList := by
  cases lists with
  | nil => rfl
  | cons es lists =>
    -- at any time what was merged holds the last of the entries seen
    have hmerge : ∀ (lists : List (List Entry)) (es seen : List Entry), entriesAt key es = seen.getLast?.toList →
        entriesAt key (lists.foldl mergeEntries es) = (seen ++ lists.flatMap (entriesAt key)).getLast?.toList := by
      intro lists
      induction lists with
      | nil =>
        intro es seen hes
        simpa using hes
      | cons new lists ih =>
        intro es seen hes
        rw [List.foldl_cons, List.flatMap_cons, ← List.append_assoc]
        refine ih _ _ ?_
        rw [entriesAt_mergeEntries, List.getLast?_append, hes]
        cases hnew : (entriesAt key new).getLast? with
        | none => rfl
        | some e => cases seen.getLast? <;> rfl
    refine hmerge lists es (entriesAt key es) ?_
    have hone := once es (by simp)
    match entriesAt key es, hone with
    | [], _ => rfl
    | [e], _ => rfl

/-! ## The groups of a run -/

/-- The triples that some listing has, each once, in the order in which they first appear. -/
def registered (ms : List Listing) (ts : List Triple) : List Triple :=
  ts.eraseDups.filter fun t => t ∈ ms.map (·.triple)

theorem mem_registered {ms : List Listing} {ts : List Triple} {t : Triple} :
    t ∈ registered ms ts ↔ t ∈ ts ∧ t ∈ ms.map (·.triple) := by
  simp [registered, List.mem_eraseDups]

theorem nodup_registered (ms : List Listing) (ts : List Triple) : (registered ms ts).Nodup :=
  (nodup_eraseDups ts).filter _

/-- One triple more changes nothing if it is there already or has no listing, and else is the last one. -/
theorem registered_concat (ms : List Listing) (ts : List Triple) (t : Triple) :
    registered ms (ts ++ [t]) =
      if t ∈ ms.map (·.triple) ∧ t ∉ ts then registered ms ts ++ [t] else registered ms ts := by
  unfold registered
  rw [List.eraseDups_append, List.filter_append]
  by_cases hts : t ∈ ts
  · have hnone : [t].removeAll ts = [] := by simp [hts, List.removeAll]
    rw [if_neg fun h => h.2 hts, hnone]
    exact List.append_nil _
  · have hone : ([t].removeAll ts).eraseDups = [t] := by simp [hts, List.removeAll, List.eraseDups_cons]
    rw [hone]
    by_cases hms : t ∈ ms.map (·.triple)
    · rw [if_pos ⟨hms, hts⟩]
      simp only [List.filter_cons, hms, decide_true, if_true, List.filter_nil]
    · rw [if_neg fun h => hms h.1]
      simp only [List.filter_cons, hms, decide_false, Bool.false_eq_true, if_false, List.filter_nil, List.append_nil]

/-- The entries of one definition for the listed markets. -/
def definitionEntries (g : GeneralSection) (ms : List Listing) (r : Resolved) : List Entry :=
  match ms.find? fun m => m.triple = r.triple with
  | some m => marketEntries r.definition m g
  | none => []

theorem addToGroup_of_new {t : Triple} {es : List Entry} : ∀ {groups : List MarketGroup},
    (∀ group ∈ groups, group.triple ≠ t) → addToGroup t es groups = groups ++ [⟨t, es⟩]
  | [], _ => rfl
  | group :: groups, h => by
    rw [addToGroup, if_neg (h group (by simp)), addToGroup_of_new fun group' hg => h group' (by simp [hg])]
    rfl

variable (g : GeneralSection) (ms : List Listing)

/-- The entries of all definitions of a triple, merged. -/
def groupOf (rs : List Resolved) (t : Triple) : MarketGroup :=
  ⟨t, mergeLists ((rs.filter fun r => r.triple = t).map (definitionEntries g ms))⟩

def groupsOf (rs : List Resolved) : List MarketGroup :=
  (registered ms (rs.map (·.triple))).map (groupOf g ms rs)

variable {g ms} {rs : List Resolved} {r : Resolved} {t : Triple}

theorem groupOf_concat_of_ne (h : r.triple ≠ t) : groupOf g ms (rs ++ [r]) t = groupOf g ms rs t := by
  simp [groupOf, List.filter_append, h]

theorem groupOf_concat_self (h : r.triple ∈ rs.map (·.triple)) : groupOf g ms (rs ++ [r]) r.triple =
    ⟨r.triple, mergeEntries (groupOf g ms rs r.triple).entries (definitionEntries g ms r)⟩ := by
  obtain ⟨r', hr', htriple⟩ := List.mem_map.1 h
  have hmem : r' ∈ rs.filter fun r' => r'.triple = r.triple := List.mem_filter.2 ⟨hr', by simpa using htriple⟩
  have nonempty : (rs.filter fun r' => r'.triple = r.triple).map (definitionEntries g ms) ≠ [] := by
    intro hnil
    rw [List.map_eq_nil_iff.1 hnil] at hmem
    cases hmem
  simp [groupOf, List.filter_append, mergeLists_concat nonempty]

theorem groupOf_concat_new (h : r.triple ∉ rs.map (·.triple)) : groupOf g ms (rs ++ [r]) r.triple =
    ⟨r.triple, definitionEntries g ms r⟩ := by
  have hnone : (rs.filter fun r' => r'.triple = r.triple) = [] := by
    rw [List.filter_eq_nil_iff]
    intro r' hr' htriple
    exact h (of_decide_eq_true htriple ▸ List.mem_map_of_mem hr')
  simp [groupOf, List.filter_append, hnone, mergeLists]

/-- Among groups of different triples just the one of the triple is merged into. -/
theorem addToGroup_map {f f' : Triple → MarketGroup} {es : List Entry} : ∀ {ts : List Triple}, ts.Nodup → t ∈ ts →
    (∀ u, (f u).triple = u) → f' t = ⟨t, mergeEntries (f t).entries es⟩ → (∀ u, u ≠ t → f' u = f u) →
    addToGroup t es (ts.map f) = ts.map f'
  | [], _, ht, _, _, _ => by cases ht
  | u :: ts, hnodup, ht, htriple, hself, hother => by
    rw [List.nodup_cons] at hnodup
    rw [List.map_cons, List.map_cons, addToGroup, htriple]
    by_cases hu : u = t
    · subst hu
      have hrest : ts.map f' = ts.map f :=
        List.map_congr_left fun v hv => hother v fun he => hnodup.1 (he ▸ hv)
      rw [if_pos rfl, hself, hrest]
    · have hts : t ∈ ts := (List.mem_cons.1 ht).resolve_left fun h => hu h.symm
      rw [if_neg hu, hother u hu, addToGroup_map hnodup.2 hts htriple hself hother]

/-- One definition more: its entries go to the group of its triple, if that has a listing. -/
theorem groupsOf_concat (g : GeneralSection) (ms : List Listing) (rs : List Resolved) (r : Resolved) :
    groupsOf g ms (rs ++ [r]) =
      match ms.find? fun m => m.triple = r.triple with
      | some m => addToGroup r.triple (marketEntries r.definition m g) (groupsOf g ms rs)
      | none => groupsOf g ms rs := by
  unfold groupsOf
  rw [List.map_append, List.map_singleton, registered_concat]
  have hother {ts : List Triple} (hts : r.triple ∉ ts) :
      ts.map (groupOf g ms (rs ++ [r])) = ts.map (groupOf g ms rs) :=
    List.map_congr_left fun t ht => groupOf_concat_of_ne fun he => hts (he ▸ ht)
  cases hm : ms.find? fun m => m.triple = r.triple with
  | none =>
    have hnot := not_mem_triples_of_find hm
    rw [if_neg fun h => hnot h.1, hother fun h => hnot (mem_registered.1 h).2]
  | some m =>
    have hmem := mem_triples_of_find hm
    have hentries : definitionEntries g ms r = marketEntries r.definition m g := by rw [definitionEntries, hm]
    dsimp only
    by_cases hr : r.triple ∈ rs.map (·.triple)
    · rw [if_neg fun h => h.2 hr]
      refine (addToGroup_map (nodup_registered _ _) (mem_registered.2 ⟨hr, hmem⟩) (fun _ => rfl) ?_ ?_).symm
      · rw [groupOf_concat_self hr, hentries]
      · exact fun u hu => groupOf_concat_of_ne hu.symm
    · have hnew : r.triple ∉ registered ms (rs.map (·.triple)) := fun h => hr (mem_registered.1 h).1
      have hgroups : ∀ group ∈ (registered ms (rs.map (·.triple))).map (groupOf g ms rs), group.triple ≠ r.triple := by
        intro group hgroup he
        obtain ⟨u, hu, rfl⟩ := List.mem_map.1 hgroup
        exact hnew (he ▸ hu)
      rw [if_pos ⟨hmem, hr⟩, List.map_append, hother hnew, addToGroup_of_new hgroups, List.map_singleton,
        groupOf_concat_new hr, hentries]

/-- The first definition whose market is neither listed nor planned. -/
def firstUnresolved (ms : List Listing) (planned : List Triple) (rs : List Resolved) : Option Resolved :=
  rs.find? fun r => r.triple ∉ ms.map (·.triple) ∧ r.triple ∉ planned

/-- **Groups are collected in closed form, or collecting them fails at the first definition whose market is neither
listed nor planned.** -/
theorem collectGroups_eq (g : GeneralSection) (ms : List Listing) (planned : List Triple) (rs : List Resolved) :
    collectGroups g (.ofListings ms) planned rs [] =
      match firstUnresolved ms planned rs with
      | some r => .error (.marketNotResolved r.triple)
      | none => .ok (groupsOf g ms rs) := by
  -- what was collected so far are the groups of the definitions so far
  have hcollect : ∀ rest seen : List Resolved,
      collectGroups g (.ofListings ms) planned rest (groupsOf g ms seen) =
        match firstUnresolved ms planned rest with
        | some r => .error (.marketNotResolved r.triple)
        | none => .ok (groupsOf g ms (seen ++ rest)) := by
    intro rest
    induction rest with
    | nil =>
      intro seen
      rw [List.append_nil]
      rfl
    | cons r rest ih =>
      intro seen
      have hstep := groupsOf_concat g ms seen r
      have hseen : seen ++ r :: rest = (seen ++ [r]) ++ rest := by simp
      rw [collectGroups, get?_ofListings, hseen, firstUnresolved, List.find?_cons]
      cases hm : ms.find? fun m => m.triple = r.triple with
      | some m =>
        have hmem := mem_triples_of_find hm
        simp only [hm] at hstep
        simp only [hmem, not_true_eq_false, false_and, decide_false]
        rw [← hstep]
        exact ih (seen ++ [r])
      | none =>
        have hnot := not_mem_triples_of_find hm
        simp only [hm] at hstep
        by_cases hplanned : r.triple ∈ planned
        · simp only [hnot, hplanned, List.contains_eq_mem, not_true_eq_false, and_false, decide_false, decide_true,
            if_true]
          rw [← hstep]
          exact ih (seen ++ [r])
        · simp [hnot, hplanned, List.contains_eq_mem]
  exact hcollect rs []

/-- The entries of resolved definitions for the listed markets, merged market by market. -/
def mergedEntries (general : GeneralSection) (ms : List Listing) (rs : List Resolved) :
    Except ProvisionError (List Entry) :=
  (collectGroups general (.ofListings ms) [] rs []).map fun groups => groups.flatMap (·.entries)

theorem collectGroups_succeeds (g : GeneralSection) {ms : List Listing} {planned : List Triple} {rs : List Resolved}
    (h : ∀ r ∈ rs, r.triple ∈ ms.map (·.triple) ∨ r.triple ∈ planned) :
    collectGroups g (.ofListings ms) planned rs [] = .ok (groupsOf g ms rs) := by
  have hnone : firstUnresolved ms planned rs = none := by
    rw [firstUnresolved, List.find?_eq_none]
    intro r hr hne
    obtain ⟨hms, hplanned⟩ := of_decide_eq_true hne
    exact (h r hr).elim hms hplanned
  rw [collectGroups_eq, hnone]

theorem collectGroups_planned (g : GeneralSection) (ms : List Listing) (rs : List Resolved) :
    collectGroups g (.ofListings ms) (unregistered ms (rs.map (·.triple))) rs [] = .ok (groupsOf g ms rs) := by
  refine collectGroups_succeeds g fun r hr => ?_
  by_cases hlisted : r.triple ∈ ms.map (·.triple)
  · exact Or.inl hlisted
  · exact Or.inr (mem_unregistered.2 ⟨List.mem_map_of_mem hr, hlisted⟩)

theorem collectGroups_ok {groups : List MarketGroup} (h : collectGroups g (.ofListings ms) [] rs [] = .ok groups) :
    groups = groupsOf g ms rs ∧ ∀ r ∈ rs, r.triple ∈ ms.map (·.triple) := by
  rw [collectGroups_eq] at h
  cases hfirst : firstUnresolved ms [] rs with
  | some r =>
    rw [hfirst] at h
    cases h
  | none =>
    rw [hfirst] at h
    refine ⟨(Except.ok.inj h).symm, fun r hr => ?_⟩
    simpa using List.find?_eq_none.1 hfirst r hr

theorem groupsOf_of_mergedEntries {es : List Entry} (merged : mergedEntries g ms rs = .ok es) :
    collectGroups g (.ofListings ms) [] rs [] = .ok (groupsOf g ms rs) ∧
      es = (groupsOf g ms rs).flatMap (·.entries) := by
  rw [mergedEntries] at merged
  cases hcollect : collectGroups g (.ofListings ms) [] rs [] with
  | error e =>
    rw [hcollect] at merged
    cases merged
  | ok groups =>
    rw [hcollect] at merged
    obtain ⟨rfl, -⟩ := collectGroups_ok hcollect
    exact ⟨rfl, (Except.ok.inj merged).symm⟩

end MarketSync

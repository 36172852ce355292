import MarketSync.Sync.Provision

/-!
# Registered and unregistered triples

Snapshots seen through the list of listings they were taken of: a look-up finds the first listing of a
triple, and what is missing are the desired triples without a listing.

* `get?_ofListings`, `missing_ofListings` — snapshots and lists agree.
* `unregistered_append` — creating the first few unregistered triples leaves the others, in order.
* `registerAll_append` — and creating the others then gives the list that creating all at once gives.
-/

namespace MarketSync

/-! ## Lists without repetitions -/

theorem nodup_eraseDups {α : Type} [BEq α] [LawfulBEq α] : ∀ l : List α, l.eraseDups.Nodup
  | [] => .nil
  | a :: l => by
    rw [List.eraseDups_cons, List.nodup_cons]
    refine ⟨fun h => ?_, nodup_eraseDups _⟩
    simpa using (List.mem_filter.1 (List.mem_eraseDups.1 h)).2
termination_by l => l.length
decreasing_by exact Nat.lt_succ_of_le (List.length_filter_le _ _)

theorem eraseDups_filter {α : Type} [BEq α] [LawfulBEq α] (p : α → Bool) : ∀ l : List α,
    (l.filter p).eraseDups = l.eraseDups.filter p
  | [] => rfl
  | a :: l => by
    have hcomm : (l.filter fun b => !b == a).filter p = (l.filter p).filter fun b => !b == a := by
      rw [List.filter_filter, List.filter_filter]
      exact List.filter_congr fun b _ => Bool.and_comm _ _
    rw [List.eraseDups_cons, List.filter_cons, List.filter_cons]
    by_cases ha : p a = true
    · rw [if_pos ha, if_pos ha, List.eraseDups_cons, ← eraseDups_filter p _, hcomm]
    · have hne : (l.filter p).filter (fun b => !b == a) = l.filter p :=
        List.filter_eq_self.2 fun b hb => by
          have hab : b ≠ a := fun h => ha (h ▸ (List.mem_filter.1 hb).2)
          simpa using hab
      rw [if_neg ha, if_neg ha, ← eraseDups_filter p _, hcomm, hne]
termination_by l => l.length
decreasing_by all_goals exact Nat.lt_succ_of_le (List.length_filter_le _ _)

theorem filter_not_mem_take {α : Type} [DecidableEq α] {l : List α} (h : l.Nodup) (k : Nat) :
    (l.filter fun a => a ∉ l.take k) = l.drop k := by
  obtain ⟨-, -, hne⟩ := List.nodup_append.1 (l.take_append_drop k ▸ h)
  conv => lhs; rhs; rw [← List.take_append_drop k l]
  have htake : ((l.take k).filter fun a => a ∉ l.take k) = [] := by
    simp [List.filter_eq_nil_iff]
  have hdrop : ((l.drop k).filter fun a => a ∉ l.take k) = l.drop k :=
    List.filter_eq_self.2 fun a ha => by
      simpa using fun hm => hne a hm a ha rfl
  rw [List.filter_append, htake, hdrop, List.nil_append]

/-! ## The listing of a triple -/

section Lookup

variable {ms : List Listing} {t : Triple} {m : Listing}

theorem mem_of_find_triple (h : (ms.find? fun m => m.triple = t) = some m) : m ∈ ms ∧ m.triple = t :=
  ⟨List.mem_of_find?_eq_some h, by simpa using List.find?_some h⟩

theorem mem_triples_of_find (h : (ms.find? fun m => m.triple = t) = some m) : t ∈ ms.map (·.triple) :=
  List.mem_map.2 ⟨m, mem_of_find_triple h⟩

theorem exists_find_triple (h : t ∈ ms.map (·.triple)) : ∃ m, (ms.find? fun m => m.triple = t) = some m := by
  obtain ⟨m, hm, htriple⟩ := List.mem_map.1 h
  exact Option.isSome_iff_exists.1 (List.find?_isSome.2 ⟨m, hm, by simpa using htriple⟩)

theorem not_mem_triples_of_find (h : (ms.find? fun m => m.triple = t) = none) : t ∉ ms.map (·.triple) := by
  simpa using h

end Lookup

/-! ## Snapshots of lists -/

theorem find?_firstPerTriple (t : Triple) : ∀ ms : List Listing,
    (firstPerTriple ms).find? (fun m => m.triple = t) = ms.find? fun m => m.triple = t
  | [] => rfl
  | m :: ms => by
    by_cases hm : m.triple = t
    · simp [firstPerTriple, hm]
    · have hf : ∀ n : Listing, (n.triple ≠ m.triple ∧ n.triple = t) ↔ n.triple = t :=
        fun n => and_iff_right_of_imp fun hn hnm => hm (hnm ▸ hn)
      simp only [firstPerTriple, List.find?_cons, hm, decide_false, List.find?_filter, decide_eq_true_eq, hf]
      exact find?_firstPerTriple t ms

theorem get?_ofListings (ms : List Listing) (t : Triple) :
    (Snapshot.ofListings ms).get? t = ms.find? fun m => m.triple = t :=
  find?_firstPerTriple t ms

theorem contains_ofListings (ms : List Listing) (t : Triple) :
    (Snapshot.ofListings ms).contains t = true ↔ t ∈ ms.map (·.triple) := by
  rw [Snapshot.contains, get?_ofListings, List.find?_isSome]
  simp

/-- The triples that no listing has, each once, in the order in which they first appear. -/
def unregistered (ms : List Listing) (ts : List Triple) : List Triple :=
  ts.eraseDups.filter fun t => t ∉ ms.map (·.triple)

theorem mem_unregistered {ms : List Listing} {ts : List Triple} {t : Triple} :
    t ∈ unregistered ms ts ↔ t ∈ ts ∧ t ∉ ms.map (·.triple) := by
  simp [unregistered, List.mem_eraseDups]

theorem nodup_unregistered (ms : List Listing) (ts : List Triple) : (unregistered ms ts).Nodup :=
  (nodup_eraseDups ts).filter _

theorem unregistered_eq_nil_iff {ms : List Listing} {ts : List Triple} :
    unregistered ms ts = [] ↔ ∀ t ∈ ts, t ∈ ms.map (·.triple) := by
  rw [List.eq_nil_iff_forall_not_mem]
  simp only [mem_unregistered, not_and, Decidable.not_not]

theorem missingAfter_eq (s : Snapshot) : ∀ (ts seen : List Triple),
    s.missingAfter seen ts = ts.eraseDups.filter fun t => !(s.contains t || seen.contains t)
  | [], _ => rfl
  | t :: ts, seen => by
    rw [Snapshot.missingAfter, List.eraseDups_cons, List.filter_cons]
    cases ht : s.contains t || seen.contains t with
    | true =>
      rw [if_pos rfl, missingAfter_eq s ts seen, if_neg (by simp), ← eraseDups_filter,
        ← eraseDups_filter, List.filter_filter]
      congr 1
      refine List.filter_congr fun u _ => ?_
      by_cases hu : u = t
      · rw [hu, ht]
        rfl
      · simp [hu]
    | false =>
      rw [if_neg (by simp), missingAfter_eq s ts (t :: seen), if_pos (by simp), ← eraseDups_filter,
        ← eraseDups_filter, List.filter_filter]
      congr 2
      refine List.filter_congr fun u _ => ?_
      by_cases hu : u = t
      · simp [hu]
      · simp [hu]

/-- **What a snapshot lacks are the unregistered triples.** -/
theorem missing_ofListings (ms : List Listing) (ts : List Triple) :
    (Snapshot.ofListings ms).missing ts = unregistered ms ts := by
  rw [Snapshot.missing, missingAfter_eq, unregistered]
  refine List.filter_congr fun t _ => ?_
  rw [Bool.eq_iff_iff]
  simp only [List.contains_nil, Bool.or_false, Bool.not_eq_true', ← Bool.not_eq_true,
    contains_ofListings, decide_eq_true_eq]

/-! ## Creating what is unregistered -/

/-- Once the first few unregistered triples have a listing, the others are left, in their order. -/
theorem unregistered_append {ms news : List Listing} {ts : List Triple} (k : Nat)
    (hnews : news.map (·.triple) = (unregistered ms ts).take k) :
    unregistered (ms ++ news) ts = (unregistered ms ts).drop k := by
  rw [← filter_not_mem_take (nodup_unregistered ms ts) k, unregistered, unregistered, List.filter_filter]
  refine List.filter_congr fun t _ => ?_
  rw [← unregistered, ← hnews, List.map_append]
  simp only [List.mem_append, not_or, Bool.decide_and, Bool.and_comm]

/-- The listings of triples that are created with the types of their first definitions. -/
def creations (rs : List Resolved) (ts : List Triple) : List Listing :=
  ts.map fun t => t.listing (creationType rs t)

/-- A market list after every resolved definition has its market. -/
def registerAll (ms : List Listing) (rs : List Resolved) : List Listing :=
  ms ++ creations rs (unregistered ms (rs.map (·.triple)))

@[simp] theorem map_triple_creations (rs : List Resolved) (ts : List Triple) :
    (creations rs ts).map (·.triple) = ts := by
  have hid : ((·.triple) ∘ fun t : Triple => t.listing (creationType rs t)) = id := rfl
  rw [creations, List.map_map, hid, List.map_id]

theorem mem_triples_registerAll (ms : List Listing) {rs : List Resolved} {r : Resolved} (hr : r ∈ rs) :
    r.triple ∈ (registerAll ms rs).map (·.triple) := by
  by_cases h : r.triple ∈ ms.map (·.triple)
  · simp only [registerAll, List.map_append, List.mem_append]
    exact Or.inl h
  · simp only [registerAll, List.map_append, List.mem_append, map_triple_creations]
    exact Or.inr (mem_unregistered.2 ⟨List.mem_map_of_mem hr, h⟩)

theorem registerAll_eq_self {ms : List Listing} {rs : List Resolved}
    (h : ∀ r ∈ rs, r.triple ∈ ms.map (·.triple)) : registerAll ms rs = ms := by
  have hnil : unregistered ms (rs.map (·.triple)) = [] :=
    unregistered_eq_nil_iff.2 fun t ht => by
      obtain ⟨r, hr, rfl⟩ := List.mem_map.1 ht
      exact h r hr
  rw [registerAll, hnil]
  simp [creations]

theorem registerAll_registerAll (ms : List Listing) (rs : List Resolved) :
    registerAll (registerAll ms rs) rs = registerAll ms rs :=
  registerAll_eq_self fun _ hr => mem_triples_registerAll ms hr

/-- **Creating the first few and then the others is creating all at once.** -/
theorem registerAll_append (ms : List Listing) (rs : List Resolved) (k : Nat) :
    registerAll (ms ++ creations rs ((unregistered ms (rs.map (·.triple))).take k)) rs = registerAll ms rs := by
  rw [registerAll, unregistered_append k (map_triple_creations rs _), registerAll, List.append_assoc,
    creations, creations, ← List.map_append, List.take_append_drop]
  rfl

end MarketSync

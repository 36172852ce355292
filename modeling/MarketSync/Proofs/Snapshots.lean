import Mathlib.Data.Finset.Card
import Mathlib.Data.List.Perm.Subperm
import MarketSync.Proofs.Registration

/-!
# Snapshots and what they lack

A snapshot keeps the first listing of each triple (`from_markets`), and what it lacks (`missing`) are the desired
triples without one. The two together cover what is desired: every desired triple is in the snapshot or missing, never
both, and once each missing one has a listing nothing is missing any more.

* `firstPerTriple_append` — listings behind others count where their triple is new.
* `size_ofListings` — the size is the number of distinct triples.
* `pairwise_idxOf_unregistered` — missing triples stand in the order in which they first appear.
* `find?_triple_of_sublist` — listings of other triples, wherever they are put in, leave a look-up alone.
* `snapshot_and_missing` — all of this at once.
-/

namespace MarketSync

/-! ## What a snapshot holds -/

theorem map_triple_firstPerTriple (ms : List Listing) :
    (firstPerTriple ms).map (·.triple) = (ms.map (·.triple)).eraseDups := by
  induction ms with
  | nil => rfl
  | cons m ms ih =>
    have hothers : ((firstPerTriple ms).filter fun n => n.triple ≠ m.triple).map (·.triple) =
        ((firstPerTriple ms).map (·.triple)).filter fun t => !t == m.triple := by
      rw [List.filter_map]
      congr 1
      apply List.filter_congr
      intro n hn
      simp [beq_eq_decide]
    rw [firstPerTriple, List.map_cons, hothers, ih, List.map_cons, List.eraseDups_cons, eraseDups_filter]

theorem card_triples (ts : List Triple) : ts.toFinset.card = countTriples ts := by
  have hsame : ts.eraseDups.toFinset = ts.toFinset := by
    ext t
    simp [List.mem_eraseDups]
  rw [countTriples, ← hsame, List.toFinset_card_of_nodup (nodup_eraseDups ts)]

theorem size_ofListings (ms : List Listing) :
    (Snapshot.ofListings ms).size = (ms.map (·.triple)).toFinset.card := by
  have hlength : (Snapshot.ofListings ms).size = ((firstPerTriple ms).map (·.triple)).length := by
    rw [List.length_map]
    rfl
  rw [card_triples, countTriples, hlength, map_triple_firstPerTriple]

/-- Listings behind others count where their triple is new. -/
theorem firstPerTriple_append (ms news : List Listing) : firstPerTriple (ms ++ news) =
    firstPerTriple ms ++ (firstPerTriple news).filter (fun n => n.triple ∉ ms.map (·.triple)) := by
  induction ms with
  | nil => simp [firstPerTriple]
  | cons m ms ih =>
    rw [List.cons_append, firstPerTriple, ih, firstPerTriple, List.filter_append, List.filter_filter, List.cons_append]
    congr 2
    apply List.filter_congr
    intro n hn
    simp [List.mem_cons, not_or]

/-- **Listings of triples that are there change nothing.** -/
theorem ofListings_append_of_known {ms news : List Listing} (h : ∀ n ∈ news, n.triple ∈ ms.map (·.triple)) :
    Snapshot.ofListings (ms ++ news) = Snapshot.ofListings ms := by
  have hnone : (firstPerTriple news).filter (fun n => n.triple ∉ ms.map (·.triple)) = [] := by
    rw [List.filter_eq_nil_iff]
    intro n hn hnew
    have hmem : n.triple ∈ (news.map (·.triple)).eraseDups := by
      rw [← map_triple_firstPerTriple]
      exact List.mem_map_of_mem hn
    obtain ⟨n', hn', htriple⟩ := List.mem_map.1 (List.mem_eraseDups.1 hmem)
    apply of_decide_eq_true hnew
    rw [← htriple]
    exact h n' hn'
  simp only [Snapshot.ofListings, firstPerTriple_append, hnone, List.append_nil]

/-! ## The order of what is missing -/

/-- Without repetitions, elements keep the order in which they first appear. -/
theorem pairwise_idxOf_eraseDups {α : Type} [DecidableEq α] (l : List α) :
    l.eraseDups.Pairwise (fun a b => l.idxOf a < l.idxOf b) := by
  induction l with
  | nil => exact .nil
  | cons a l ih =>
    have hother {b : α} (hb : b ∈ (l.filter fun b => !b == a).eraseDups) : b ≠ a := by
      simpa using (List.mem_filter.1 (List.mem_eraseDups.1 hb)).2
    rw [List.eraseDups_cons, List.pairwise_cons]
    constructor
    · intro b hb
      rw [List.idxOf_cons_self, List.idxOf_cons_ne _ (hother hb).symm]
      omega
    · rw [eraseDups_filter]
      apply (ih.filter _).imp_of_mem
      intro b c hb hc hlt
      rw [← eraseDups_filter] at hb hc
      rw [List.idxOf_cons_ne _ (hother hb).symm, List.idxOf_cons_ne _ (hother hc).symm]
      omega

/-- Missing triples stand in the order in which they first appear among the desired ones. -/
theorem pairwise_idxOf_unregistered (ms : List Listing) (ts : List Triple) :
    (unregistered ms ts).Pairwise (fun t u => ts.idxOf t < ts.idxOf u) :=
  (pairwise_idxOf_eraseDups ts).filter _

/-! ## Putting in what is missing -/

/-- The listings of a triple are found in place if as many of them are in a longer list. -/
theorem find?_triple_of_sublist {ms all : List Listing} (hsub : ms.Sublist all) {t : Triple}
    (hcount : (all.map (·.triple)).count t = (ms.map (·.triple)).count t) :
    (all.find? fun m => m.triple = t) = ms.find? fun m => m.triple = t := by
  have hlength (l : List Listing) : (l.filter fun m => m.triple = t).length = (l.map (·.triple)).count t := by
    rw [← List.countP_eq_length_filter, List.count, List.countP_map]
    apply List.countP_congr
    intro m hm
    simp
  have hfilter : (ms.filter fun m => m.triple = t) = all.filter fun m => m.triple = t := by
    apply (hsub.filter _).eq_of_length
    rw [hlength, hlength, hcount]
  rw [← List.head?_filter, ← List.head?_filter, hfilter]

variable {ms all : List Listing} {ts : List Triple}

/-- Listings for the missing triples leave every other look-up alone. -/
theorem get?_ofListings_of_sublist (hsub : ms.Sublist all)
    (hperm : (all.map (·.triple)).Perm (ms.map (·.triple) ++ unregistered ms ts)) {t : Triple}
    (ht : t ∉ unregistered ms ts) : (Snapshot.ofListings all).get? t = (Snapshot.ofListings ms).get? t := by
  rw [get?_ofListings, get?_ofListings]
  apply find?_triple_of_sublist hsub
  rw [hperm.count_eq, List.count_append, List.count_eq_zero_of_not_mem ht, Nat.add_zero]

/-- Once each missing triple has a listing nothing is missing. -/
theorem unregistered_eq_nil_of_perm
    (hperm : (all.map (·.triple)).Perm (ms.map (·.triple) ++ unregistered ms ts)) : unregistered all ts = [] := by
  rw [unregistered_eq_nil_iff]
  intro t ht
  rw [hperm.mem_iff, List.mem_append]
  by_cases hms : t ∈ ms.map (·.triple)
  · exact Or.inl hms
  · exact Or.inr (mem_unregistered.2 ⟨ht, hms⟩)

/-! ## Both parts -/

/-- **What is desired is in the snapshot or missing.** A look-up finds the first listing of a triple, the size counts
distinct triples, and listings of known triples change nothing. What is missing has no repetitions, stands in the order
in which it first appears, and is what is desired and not in the snapshot. With one listing more for each missing triple,
wherever they are put in, nothing is missing, and only the missing triples are looked up with another result. -/
theorem snapshot_and_missing (ms : List Listing) (ts : List Triple) :
    let snapshot := Snapshot.ofListings ms
    let missing := snapshot.missing ts
    (∀ t, snapshot.get? t = ms.find? fun m => m.triple = t) ∧
    snapshot.size = (ms.map (·.triple)).toFinset.card ∧
    (∀ news : List Listing, (∀ n ∈ news, n.triple ∈ ms.map (·.triple)) → .ofListings (ms ++ news) = snapshot) ∧
    missing.Nodup ∧ missing.Pairwise (fun t u => ts.idxOf t < ts.idxOf u) ∧ (∀ t ∈ missing, t ∈ ts) ∧
    (∀ t ∈ ts, t ∈ missing ↔ snapshot.contains t = false) ∧
    ∀ all : List Listing, ms.Sublist all → (all.map (·.triple)).Perm (ms.map (·.triple) ++ missing) →
      (Snapshot.ofListings all).missing ts = [] ∧
      ∀ t ∉ missing, (Snapshot.ofListings all).get? t = snapshot.get? t := by
  intro snapshot missing
  have hmissing : missing = unregistered ms ts := missing_ofListings ms ts
  rw [hmissing]
  refine ⟨get?_ofListings ms, size_ofListings ms, ?_, nodup_unregistered ms ts, pairwise_idxOf_unregistered ms ts,
    ?_, ?_, ?_⟩
  · intro news hknown
    exact ofListings_append_of_known hknown
  · intro t ht
    exact (mem_unregistered.1 ht).1
  · intro t ht
    rw [mem_unregistered, ← Bool.not_eq_true, contains_ofListings]
    exact and_iff_right ht
  · intro all hsub hperm
    constructor
    · rw [missing_ofListings]
      exact unregistered_eq_nil_of_perm hperm
    · intro t ht
      exact get?_ofListings_of_sublist hsub hperm ht

def swapTriple (token : Address) : Triple := ⟨swapOnlyIndex, token, 0xc1⟩

/-- A registry that lists one triple twice, and three desired triples of which two are missing. -/
theorem missing_put_in_front : let ms : List Listing := [⟨0xaa, swapTriple 1⟩, ⟨0xbb, swapTriple 1⟩]
    let ts := [swapTriple 3, swapTriple 1, swapTriple 2, swapTriple 3]
    let all : List Listing := [⟨0xcc, swapTriple 2⟩, ⟨0xaa, swapTriple 1⟩, ⟨0xdd, swapTriple 3⟩, ⟨0xbb, swapTriple 1⟩]
    (Snapshot.ofListings ms).missing ts = [swapTriple 3, swapTriple 2] ∧ ms.Sublist all ∧
    (all.map (·.triple)).Perm (ms.map (·.triple) ++ (Snapshot.ofListings ms).missing ts) ∧
    (Snapshot.ofListings all).missing ts = [] ∧
    (Snapshot.ofListings all).get? (swapTriple 1) = (Snapshot.ofListings ms).get? (swapTriple 1) := by
  intro ms ts all
  have hmissing : (Snapshot.ofListings ms).missing ts = [swapTriple 3, swapTriple 2] := by decide
  have hsub : ms.Sublist all := by decide
  have hperm : (all.map (·.triple)).Perm (ms.map (·.triple) ++ (Snapshot.ofListings ms).missing ts) := by
    rw [hmissing]
    decide
  have hall := (snapshot_and_missing ms ts).2.2.2.2.2.2.2 all hsub hperm
  refine ⟨hmissing, hsub, hperm, hall.1, hall.2 (swapTriple 1) ?_⟩
  rw [hmissing]
  decide

end MarketSync

import Mathlib.Algebra.Group.Nat.Defs
import MarketSync.Chain.Enumeration
import MarketSync.Proofs.Conformance
import MarketSync.Proofs.Registration

/-!
# Enumerating a conforming registry

* `enumerate_ok` — an enumeration that succeeds gives the whole registry, whatever the page size.
* `enumerate_succeeds` — it succeeds where no page fails and the registry holds fewer than 2^63 markets.
* `takeSnapshot_ok`, `takeSnapshot_succeeds` — the same of snapshots.
-/

namespace MarketSync

variable {σ : Type} {r : Registry σ} {view : σ → Contents}

/-! ## Pages of a list -/

theorem page_eq_drop {α : Type} {l : List α} {start size : Nat}
    (h : ((l.take (start + size)).drop start).length < size) :
    (l.take (start + size)).drop start = l.drop start := by
  rw [List.drop_take, Nat.add_sub_cancel_left] at h ⊢
  refine List.take_of_length_le ?_
  rw [List.length_take] at h
  omega

theorem page_append_drop {α : Type} (l : List α) (start size : Nat) :
    (l.take (start + size)).drop start ++ l.drop (start + size) = l.drop start := by
  rw [List.drop_take, Nat.add_sub_cancel_left, ← List.drop_drop, List.take_append_drop]

/-! ## The markets from a position on -/

theorem toNat_add_of_lt {start size : UInt64} (h : start.toNat + size.toNat < UInt64.size) :
    (start + size).toNat = start.toNat + size.toNat := by
  rw [UInt64.toNat_add, Nat.mod_eq_of_lt h]

theorem view_enumerateFrom (hr : r.Conforms view) (size : UInt64) (positive : 0 < size.toNat)
    (start : UInt64) (s : σ) : view (enumerateFrom r size positive start s).2 = view s := by
  fun_induction enumerateFrom r size positive start s with
  | case1 start s h err s₁ hp =>
    have hv := hr.view_page start (start + size) s
    rwa [hp] at hv
  | case2 start s h page s₁ hp _ =>
    have hv := hr.view_page start (start + size) s
    rwa [hp] at hv
  | case3 start s h page s₁ hp _ err s₂ hrest ih =>
    have hv := hr.view_page start (start + size) s
    rw [hp] at hv
    rw [hrest] at ih
    exact ih.trans hv
  | case4 start s h page s₁ hp _ rest s₂ hrest ih =>
    have hv := hr.view_page start (start + size) s
    rw [hp] at hv
    rw [hrest] at ih
    exact ih.trans hv
  | case5 => rfl

theorem enumerateFrom_ok (hr : r.Conforms view) {size : UInt64} {positive : 0 < size.toNat}
    {start : UInt64} {s : σ} {ms : List Listing}
    (hok : (enumerateFrom r size positive start s).1 = .ok ms) :
    ms = (view s).markets.drop start.toNat := by
  fun_induction enumerateFrom r size positive start s generalizing ms with
  | case1 => cases hok
  | case2 start s h page s₁ hp hshort =>
    obtain rfl : page = ms := Except.ok.inj hok
    have hpage := hr.page_ok (congrArg Prod.fst hp)
    rw [toNat_add_of_lt h] at hpage
    rw [hpage] at hshort ⊢
    exact page_eq_drop hshort
  | case3 => cases hok
  | case4 start s h page s₁ hp _ rest s₂ hrest ih =>
    obtain rfl : page ++ rest = ms := Except.ok.inj hok
    have hpage := hr.page_ok (congrArg Prod.fst hp)
    have hv := hr.view_page start (start + size) s
    rw [hp] at hv
    have htail := ih (congrArg Prod.fst hrest)
    rw [hv, toNat_add_of_lt h] at htail
    rw [toNat_add_of_lt h] at hpage
    rw [hpage, htail, page_append_drop]
  | case5 => cases hok

/-- The next position stays within the list after a full page, so it never runs beyond 2^64. -/
theorem enumerateFrom_succeeds (hr : r.Works view) {size : UInt64} (positive : 0 < size.toNat)
    (start : UInt64) (s : σ) (count : (view s).markets.length < 2 ^ 63)
    (hstart : start.toNat = 0 ∨ size.toNat ≤ start.toNat ∧ start.toNat ≤ (view s).markets.length) :
    ∃ ms, (enumerateFrom r size positive start s).1 = .ok ms := by
  fun_induction enumerateFrom r size positive start s with
  | case1 start s h err s₁ hp =>
    obtain ⟨page, hok⟩ := hr.page_succeeds start (start + size) s
    rw [hp] at hok
    cases hok
  | case2 start s h page s₁ hp _ => exact ⟨page, rfl⟩
  | case3 start s h page s₁ hp hfull err s₂ hrest ih =>
    have hv := hr.view_page start (start + size) s
    have hpage := hr.page_ok (congrArg Prod.fst hp)
    rw [hp] at hv
    rw [hv, toNat_add_of_lt h] at ih
    rw [hpage, toNat_add_of_lt h, List.length_drop, List.length_take] at hfull
    obtain ⟨ms, hok⟩ := ih count (Or.inr (by omega))
    rw [hrest] at hok
    cases hok
  | case4 start s h page s₁ hp _ rest s₂ hrest ih => exact ⟨page ++ rest, rfl⟩
  | case5 start s h =>
    have hsize := size.toNat_lt
    rw [UInt64.size] at h
    omega

/-! ## Whole registries -/

theorem view_enumerate (hr : r.Conforms view) (size : UInt64) (s : σ) :
    view (enumerate r size s).2 = view s := by
  unfold enumerate
  split
  · rfl
  · exact view_enumerateFrom hr size _ 0 s

/-- **An enumeration that succeeds gives the whole registry.** -/
theorem enumerate_ok (hr : r.Conforms view) {size : UInt64} {s : σ} {ms : List Listing}
    (hok : (enumerate r size s).1 = .ok ms) : ms = (view s).markets := by
  unfold enumerate at hok
  split at hok
  · cases hok
  · exact enumerateFrom_ok hr hok

/-- **Where no page fails an enumeration succeeds.** -/
theorem enumerate_succeeds (hr : r.Works view) {size : UInt64} (positive : 0 < size) (s : σ)
    (count : (view s).markets.length < 2 ^ 63) : (enumerate r size s).1 = .ok (view s).markets := by
  have hpos : 0 < size.toNat := positive
  have hex : ∃ ms, (enumerate r size s).1 = .ok ms := by
    unfold enumerate
    rw [dif_neg (Nat.pos_iff_ne_zero.1 hpos)]
    exact enumerateFrom_succeeds hr hpos 0 s count (Or.inl rfl)
  obtain ⟨ms, hok⟩ := hex
  rw [hok, enumerate_ok hr.toConforms hok]

theorem view_takeSnapshot (hr : r.Conforms view) (size : UInt64) (s : σ) :
    view (takeSnapshot r size s).2 = view s := by
  have hv := view_enumerate hr size s
  unfold takeSnapshot
  split
  · rename_i err s₁ he
    rwa [he] at hv
  · rename_i ms s₁ he
    rwa [he] at hv

theorem takeSnapshot_ok (hr : r.Conforms view) {size : UInt64} {s s' : σ} {found : Snapshot}
    (h : takeSnapshot r size s = (.ok found, s')) :
    found = .ofListings (view s).markets ∧ view s' = view s := by
  have hv := view_takeSnapshot hr size s
  rw [h] at hv
  refine ⟨?_, hv⟩
  unfold takeSnapshot at h
  split at h
  · cases h
  · rename_i ms s₁ he
    have hms := enumerate_ok hr (congrArg Prod.fst he)
    rw [hms] at h
    exact (Except.ok.inj (congrArg Prod.fst h)).symm

theorem takeSnapshot_succeeds (hr : r.Works view) {size : UInt64} (positive : 0 < size) (s : σ)
    (count : (view s).markets.length < 2 ^ 63) :
    ∃ s', takeSnapshot r size s = (.ok (.ofListings (view s).markets), s') ∧ view s' = view s := by
  have hok := enumerate_succeeds hr positive s count
  have hv := view_enumerate hr.toConforms size s
  refine ⟨(enumerate r size s).2, ?_, hv⟩
  unfold takeSnapshot
  split
  · rename_i err s₁ he
    rw [he] at hok
    cases hok
  · rename_i ms s₁ he
    rw [he] at hok
    rw [Except.ok.inj hok, he]

/-! ## A first page that decides -/

theorem takeSnapshot_of_short {size : UInt64} {s s' : σ} {page : List Listing}
    (hp : r.getMarkets 0 size s = (.ok page, s')) (short : page.length < size.toNat) :
    takeSnapshot r size s = (.ok (.ofListings page), s') := by
  have hpos : size.toNat ≠ 0 := by omega
  have hfit : (0 : UInt64).toNat + size.toNat < UInt64.size := by
    rw [UInt64.toNat_zero, Nat.zero_add]
    exact size.toNat_lt
  rw [takeSnapshot, enumerate, dif_neg hpos, enumerateFrom, dif_pos hfit, UInt64.zero_add, hp]
  simp only [if_pos short]

theorem takeSnapshot_of_error {size : UInt64} (positive : 0 < size) {s s' : σ} {e : CallError}
    (hp : r.getMarkets 0 size s = (.error e, s')) :
    takeSnapshot r size s = (.error (.call e), s') := by
  have hpos : 0 < size.toNat := positive
  have hfit : (0 : UInt64).toNat + size.toNat < UInt64.size := by
    rw [UInt64.toNat_zero, Nat.zero_add]
    exact size.toNat_lt
  rw [takeSnapshot, enumerate, dif_neg (Nat.pos_iff_ne_zero.1 hpos), enumerateFrom, dif_pos hfit, UInt64.zero_add, hp]

end MarketSync

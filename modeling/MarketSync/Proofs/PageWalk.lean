import Mathlib.Algebra.Group.Nat.Defs
import MarketSync.Chain.Faults
import MarketSync.Chain.Ledger
import MarketSync.Chain.Recorder
import MarketSync.Proofs.Enumeration

/-!
# The pages of a list

A registry that serves a list of markets answers an enumeration (`fetch_onchain_markets`) page by page, perhaps with
fewer markets a page than were asked for. Then the first page is short and the enumeration takes it for the last one.

* `ServedList.page_eq` — pages are served as pages of the markets that are found, which are all of them or the
  first ones.
* `enumerateFrom_skip` — where the first pages are answered the enumeration goes on behind them.
* `enumeration_of_list` — what an enumeration finds, which calls it makes and how it ends where a call fails.
-/

namespace MarketSync

variable {σ : Type}

/-! ## Positions -/

/-- The position at which the page of a number begins. -/
def pageStart (size : UInt64) (i : Nat) : UInt64 :=
  .ofNat (i * size.toNat)

theorem pageStart_zero (size : UInt64) : pageStart size 0 = 0 := by
  rw [pageStart, Nat.zero_mul]
  rfl

theorem pageStart_succ (size : UInt64) (i : Nat) : pageStart size (i + 1) = pageStart size i + size := by
  rw [pageStart, pageStart, Nat.succ_mul, UInt64.ofNat_add, UInt64.ofNat_toNat]

theorem toNat_pageStart {size : UInt64} {i : Nat} (h : i * size.toNat < UInt64.size) :
    (pageStart size i).toNat = i * size.toNat :=
  UInt64.toNat_ofNat_of_lt' h

/-! ## Answers -/

namespace Registry

/-- The state of a registry that was asked for the first pages one after another. -/
def afterPages (registry : Registry σ) (size : UInt64) (s : σ) : Nat → σ
  | 0 => s
  | i + 1 => (registry.getMarkets (pageStart size i) (pageStart size (i + 1)) (registry.afterPages size s i)).2

/-- What it answers when it is then asked for the next page. -/
def pageAnswer (registry : Registry σ) (size : UInt64) (s : σ) (i : Nat) : Except CallError (List Listing) :=
  (registry.getMarkets (pageStart size i) (pageStart size (i + 1)) (registry.afterPages size s i)).1

/-- Whatever it answers, other than with an error, is that page of a list. -/
def Serves (registry : Registry σ) (served : ServedList) (size : UInt64) (s : σ) : Prop :=
  ∀ i page, registry.pageAnswer size s i = .ok page →
    page = served.page (pageStart size i) (pageStart size (i + 1))

theorem getMarkets_pageStart (registry : Registry σ) (size : UInt64) (s : σ) (i : Nat) :
    registry.getMarkets (pageStart size i) (pageStart size i + size) (registry.afterPages size s i) =
      (registry.pageAnswer size s i, registry.afterPages size s (i + 1)) := by
  rw [← pageStart_succ]
  rfl

end Registry

/-! ## What is served -/

namespace ServedList

/-- How many markets a page of a size holds at most. -/
def width (served : ServedList) (size : UInt64) : Nat :=
  match served.maxPage with
  | some most => min size.toNat most.toNat
  | none => size.toNat

/-- The markets that an enumeration finds: all of them, or those of the first page if that is cut. -/
def found (served : ServedList) (size : UInt64) : List Listing :=
  if served.width size < size.toNat then served.markets.take (served.width size) else served.markets

/-- How many pages an enumeration asks for: one more than there are full ones, or one if that is cut. -/
def pageCount (served : ServedList) (size : UInt64) : Nat :=
  if served.width size < size.toNat then 1 else served.markets.length / size.toNat + 1

/-- The call for a page, with its answer. -/
def pageCall (served : ServedList) (size : UInt64) (i : Nat) : CallRecord :=
  .getMarkets (pageStart size i) (pageStart size (i + 1))
    (some (served.page (pageStart size i) (pageStart size (i + 1))))

variable {served : ServedList} {size : UInt64} {i : Nat}

theorem width_le : served.width size ≤ size.toNat := by
  unfold width
  split <;> omega

theorem length_found_le (size : UInt64) : (served.found size).length ≤ served.markets.length := by
  unfold found
  split
  · exact List.length_take_le' _ _
  · exact Nat.le_refl _

theorem pageCount_eq : served.pageCount size = (served.found size).length / size.toNat + 1 := by
  unfold pageCount found
  split
  · rename_i hcut
    rw [List.length_take, Nat.div_eq_of_lt (by omega)]
  · rfl

/-- No page ends beyond the last position: the markets before it are fewer than 2^63, unless it is the first one. -/
theorem pageEnd_lt (count : served.markets.length < 2 ^ 63) (hi : i < served.pageCount size) :
    (i + 1) * size.toNat < 2 ^ 64 := by
  have hsize := size.toNat_lt
  have hlen := served.length_found_le size
  have hfull : i * size.toNat ≤ (served.found size).length := by
    rw [pageCount_eq] at hi
    exact Nat.le_trans (Nat.mul_le_mul_right _ (Nat.le_of_lt_succ hi)) (Nat.div_mul_le_self _ _)
  rw [Nat.succ_mul]
  cases i with
  | zero => omega
  | succ i =>
    have hfirst : size.toNat ≤ (i + 1) * size.toNat := Nat.le_mul_of_pos_left _ (Nat.succ_pos i)
    omega

theorem toNat_pageStart_of_lt (count : served.markets.length < 2 ^ 63) (hi : i < served.pageCount size) :
    (pageStart size i).toNat = i * size.toNat := by
  have hend := pageEnd_lt count hi
  rw [Nat.succ_mul] at hend
  exact toNat_pageStart (Nat.lt_of_le_of_lt (Nat.le_add_right _ _) hend)

theorem pageStart_add_lt (count : served.markets.length < 2 ^ 63) (hi : i < served.pageCount size) :
    (pageStart size i).toNat + size.toNat < UInt64.size := by
  rw [toNat_pageStart_of_lt count hi, ← Nat.succ_mul]
  exact pageEnd_lt count hi

/-- **A page is one of the markets that are found.** -/
theorem page_eq (count : served.markets.length < 2 ^ 63) (hi : i < served.pageCount size) :
    served.page (pageStart size i) (pageStart size (i + 1)) =
      ((served.found size).drop (i * size.toNat)).take size.toNat := by
  have hpage : served.page (pageStart size i) (pageStart size (i + 1)) =
      (served.markets.drop (i * size.toNat)).take (served.width size) := by
    rw [page, toNat_pageStart_of_lt count hi, toNat_pageStart (pageEnd_lt count hi), Nat.succ_mul,
      Nat.add_sub_cancel_left]
    rfl
  rw [hpage]
  unfold found
  split
  · rename_i hcut
    obtain rfl : i = 0 := by
      rw [pageCount, if_pos hcut] at hi
      omega
    rw [Nat.zero_mul, List.drop_zero, List.drop_zero, List.take_take, Nat.min_eq_right width_le]
  · rename_i hfull
    rw [Nat.le_antisymm width_le (Nat.le_of_not_lt hfull)]

theorem length_page_lt_iff (positive : 0 < size.toNat) (count : served.markets.length < 2 ^ 63)
    (hi : i < served.pageCount size) :
    (served.page (pageStart size i) (pageStart size (i + 1))).length < size.toNat ↔ i + 1 = served.pageCount size := by
  rw [page_eq count hi, List.length_take, List.length_drop, pageCount_eq, Nat.add_right_cancel_iff]
  rw [pageCount_eq, Nat.lt_succ_iff, Nat.le_div_iff_mul_le positive] at hi
  rw [eq_comm, Nat.div_eq_iff positive]
  omega

end ServedList

/-! ## Enumerations -/

/-- What comes of an enumeration that goes on behind some markets. -/
def behind (ms : List Listing) (out : Except EnumerationError (List Listing) × σ) :
    Except EnumerationError (List Listing) × σ :=
  (out.1.map (ms ++ ·), out.2)

@[simp] theorem behind_nil (out : Except EnumerationError (List Listing) × σ) : behind [] out = out := by
  obtain ⟨result, s⟩ := out
  cases result <;> rfl

theorem behind_behind (ms ms' : List Listing) (out : Except EnumerationError (List Listing) × σ) :
    behind ms (behind ms' out) = behind (ms ++ ms') out := by
  obtain ⟨result, s⟩ := out
  cases result with
  | error e => rfl
  | ok rest => simp only [behind, Except.map, List.append_assoc]

section
variable {b : Backend σ} {served : ServedList} {size : UInt64} {s : σ} {calls : List CallRecord} {i : Nat}

theorem getMarkets_recorded (b : Backend σ) (size : UInt64) (s : σ) (calls : List CallRecord) (i : Nat) :
    b.recorded.registry.getMarkets (pageStart size i) (pageStart size i + size)
        ⟨b.registry.afterPages size s i, calls⟩ =
      (b.registry.pageAnswer size s i, ⟨b.registry.afterPages size s (i + 1),
        calls ++ [.getMarkets (pageStart size i) (pageStart size (i + 1))
          (b.registry.pageAnswer size s i).toOption]⟩) := by
  have hcall := b.registry.getMarkets_pageStart size s i
  rw [pageStart_succ]
  simp only [Backend.recorded, Recorded.run, hcall]

theorem enumerateFrom_of_error (positive : 0 < size.toNat) (count : served.markets.length < 2 ^ 63)
    (hi : i < served.pageCount size) {e : CallError} (failed : b.registry.pageAnswer size s i = .error e) :
    enumerateFrom b.recorded.registry size positive (pageStart size i) ⟨b.registry.afterPages size s i, calls⟩ =
      (.error (.call e), ⟨b.registry.afterPages size s (i + 1),
        calls ++ [.getMarkets (pageStart size i) (pageStart size (i + 1)) none]⟩) := by
  rw [enumerateFrom, dif_pos (ServedList.pageStart_add_lt count hi), getMarkets_recorded, failed]
  rfl

variable (serves : b.registry.Serves served size s)
include serves

theorem enumerateFrom_last (positive : 0 < size.toNat) (count : served.markets.length < 2 ^ 63)
    (hi : i + 1 = served.pageCount size) (answered : ∃ page, b.registry.pageAnswer size s i = .ok page) :
    enumerateFrom b.recorded.registry size positive (pageStart size i) ⟨b.registry.afterPages size s i, calls⟩ =
      (.ok ((served.found size).drop (i * size.toNat)),
        ⟨b.registry.afterPages size s (i + 1), calls ++ [served.pageCall size i]⟩) := by
  obtain ⟨page, hpage⟩ := answered
  obtain rfl := serves i page hpage
  have hlt : i < served.pageCount size := by omega
  have hshort := (ServedList.length_page_lt_iff positive count hlt).2 hi
  rw [enumerateFrom, dif_pos (ServedList.pageStart_add_lt count hlt), getMarkets_recorded, hpage]
  simp only [if_pos hshort]
  rw [ServedList.page_eq count hlt, List.length_take] at hshort
  rw [ServedList.pageCall, ServedList.page_eq count hlt, List.take_of_length_le (by omega)]
  rfl

theorem enumerateFrom_page (positive : 0 < size.toNat) (count : served.markets.length < 2 ^ 63)
    (hi : i + 1 < served.pageCount size) (answered : ∃ page, b.registry.pageAnswer size s i = .ok page) :
    enumerateFrom b.recorded.registry size positive (pageStart size i) ⟨b.registry.afterPages size s i, calls⟩ =
      behind (((served.found size).drop (i * size.toNat)).take size.toNat)
        (enumerateFrom b.recorded.registry size positive (pageStart size (i + 1))
          ⟨b.registry.afterPages size s (i + 1), calls ++ [served.pageCall size i]⟩) := by
  obtain ⟨page, hpage⟩ := answered
  obtain rfl := serves i page hpage
  have hlt : i < served.pageCount size := by omega
  have hfull : ¬ (served.page (pageStart size i) (pageStart size (i + 1))).length < size.toNat := by
    rw [ServedList.length_page_lt_iff positive count hlt]
    omega
  rw [enumerateFrom, dif_pos (ServedList.pageStart_add_lt count hlt), getMarkets_recorded, hpage]
  simp only [if_neg hfull, ← pageStart_succ, Except.toOption]
  rw [← ServedList.page_eq count hlt]
  simp only [ServedList.pageCall, behind]
  cases enumerateFrom b.recorded.registry size positive (pageStart size (i + 1)) _ with
  | mk result r => cases result <;> rfl

/-- **Where the first pages are answered the enumeration goes on behind them.** -/
theorem enumerateFrom_skip (positive : 0 < size.toNat) (count : served.markets.length < 2 ^ 63) (calls : List CallRecord) :
    ∀ k, k < served.pageCount size → (∀ i < k, ∃ page, b.registry.pageAnswer size s i = .ok page) →
    enumerateFrom b.recorded.registry size positive 0 ⟨s, calls⟩ =
      behind ((served.found size).take (k * size.toNat))
        (enumerateFrom b.recorded.registry size positive (pageStart size k)
          ⟨b.registry.afterPages size s k, calls ++ (List.range k).map (served.pageCall size)⟩)
  | 0, _, _ => by
    rw [Nat.zero_mul, List.take_zero, behind_nil, pageStart_zero, List.range_zero, List.map_nil, List.append_nil]
    rfl
  | k + 1, hk, answered => by
    have hskip := enumerateFrom_skip positive count calls k (by omega) fun i hi => answered i (by omega)
    rw [hskip, enumerateFrom_page serves positive count hk (answered k (by omega)), behind_behind, ← List.take_add,
      ← Nat.succ_mul, List.range_succ, List.map_append, List.map_singleton, List.append_assoc]

end

/-! ## Snapshots -/

theorem enumerate_of_pos (registry : Registry σ) {size : UInt64} (positive : 0 < size.toNat) (s : σ) :
    enumerate registry size s = enumerateFrom registry size positive 0 s := by
  rw [enumerate, dif_neg (Nat.pos_iff_ne_zero.1 positive)]

theorem takeSnapshot_eq (registry : Registry σ) {size : UInt64} (positive : 0 < size.toNat) (s : σ) :
    takeSnapshot registry size s = ((enumerateFrom registry size positive 0 s).1.map Snapshot.ofListings,
      (enumerateFrom registry size positive 0 s).2) := by
  rw [takeSnapshot, enumerate_of_pos registry positive]
  cases enumerateFrom registry size positive 0 s with
  | mk result s' => cases result <;> rfl

theorem takeSnapshot_size_zero (registry : Registry σ) (s : σ) :
    takeSnapshot registry 0 s = (.error .pageSizeZero, s) := by
  rw [takeSnapshot, enumerate, dif_pos UInt64.toNat_zero]

section
variable {b : Backend σ} {served : ServedList} {size : UInt64} {r : Recorded σ}

theorem takeSnapshot_answered (positive : 0 < size.toNat) (count : served.markets.length < 2 ^ 63)
    (serves : b.registry.Serves served size r.state)
    (answered : ∀ i < served.pageCount size, ∃ page, b.registry.pageAnswer size r.state i = .ok page) :
    takeSnapshot b.recorded.registry size r = (.ok (.ofListings (served.found size)),
      ⟨b.registry.afterPages size r.state (served.pageCount size),
        r.calls ++ (List.range (served.pageCount size)).map (served.pageCall size)⟩) := by
  obtain ⟨k, hk⟩ : ∃ k, served.pageCount size = k + 1 := ⟨_, ServedList.pageCount_eq⟩
  rw [takeSnapshot_eq _ positive, enumerateFrom_skip serves positive count r.calls k (by omega) fun i hi =>
    answered i (by omega), enumerateFrom_last serves positive count hk.symm (answered k (by omega))]
  simp only [behind, Except.map, List.take_append_drop, hk, List.range_succ, List.map_append, List.map_singleton,
    List.append_assoc]

/-- Where a page fails nothing is left of those before it but the calls. -/
theorem takeSnapshot_failed (positive : 0 < size.toNat) (count : served.markets.length < 2 ^ 63)
    (serves : b.registry.Serves served size r.state) {k : Nat} (hk : k < served.pageCount size) {e : CallError}
    (answered : ∀ i < k, ∃ page, b.registry.pageAnswer size r.state i = .ok page)
    (failed : b.registry.pageAnswer size r.state k = .error e) :
    takeSnapshot b.recorded.registry size r = (.error (.call e),
      ⟨b.registry.afterPages size r.state (k + 1), r.calls ++ (List.range k).map (served.pageCall size) ++
        [.getMarkets (pageStart size k) (pageStart size (k + 1)) none]⟩) := by
  rw [takeSnapshot_eq _ positive, enumerateFrom_skip serves positive count r.calls k hk answered,
    enumerateFrom_of_error positive count hk failed]
  rfl

/-- **A registry that serves a list is enumerated page by page, up to the first page that is not full. If all calls
succeed the snapshot is that of the markets found; where one fails the enumeration ends with its error. No page ends
beyond the last position, and pages of no size are not asked for.** -/
theorem enumeration_of_list (count : served.markets.length < 2 ^ 63) (serves : b.registry.Serves served size r.state) :
    (size = 0 → takeSnapshot b.recorded.registry size r = (.error .pageSizeZero, r)) ∧
    (0 < size →
      (∀ i < served.pageCount size, (i + 1) * size.toNat < 2 ^ 64) ∧
      ((∀ i < served.pageCount size, ∃ page, b.registry.pageAnswer size r.state i = .ok page) →
        takeSnapshot b.recorded.registry size r = (.ok (.ofListings (served.found size)),
          ⟨b.registry.afterPages size r.state (served.pageCount size),
            r.calls ++ (List.range (served.pageCount size)).map (served.pageCall size)⟩)) ∧
      ∀ k < served.pageCount size, ∀ e, (∀ i < k, ∃ page, b.registry.pageAnswer size r.state i = .ok page) →
        b.registry.pageAnswer size r.state k = .error e →
        takeSnapshot b.recorded.registry size r = (.error (.call e),
          ⟨b.registry.afterPages size r.state (k + 1), r.calls ++ (List.range k).map (served.pageCall size) ++
            [.getMarkets (pageStart size k) (pageStart size (k + 1)) none]⟩)) := by
  refine ⟨?_, fun hsize => ?_⟩
  · rintro rfl
    exact takeSnapshot_size_zero _ _
  · have positive : 0 < size.toNat := UInt64.lt_iff_toNat_lt.1 hsize
    exact ⟨fun i hi => ServedList.pageEnd_lt count hi, takeSnapshot_answered positive count serves,
      fun k hk e answered failed => takeSnapshot_failed positive count serves hk answered failed⟩

end

/-! ## A list in place of the registry -/

section
variable {plan : FaultPlan} {served : ServedList} (hserved : plan.served = some served)
include hserved

/-- Only the pages asked for are counted. -/
theorem afterPages_withFaults (b : Backend σ) (size : UInt64) (f : Faulty σ) :
    ∀ i, (b.withFaults plan).registry.afterPages size f i = { f with pages := f.pages + i }
  | 0 => rfl
  | i + 1 => by
    rw [Registry.afterPages, afterPages_withFaults b size f i]
    simp only [Backend.withFaults, Faulty.page, hserved]
    split <;> rfl

/-- Every page but the failing one is a page of the list. -/
theorem pageAnswer_withFaults (b : Backend σ) (size : UInt64) (f : Faulty σ) (i : Nat) :
    (b.withFaults plan).registry.pageAnswer size f i =
      if plan.failingPage = some (f.pages + i) then .error (.pageFailed (f.pages + i))
      else .ok (served.page (pageStart size i) (pageStart size (i + 1))) := by
  rw [Registry.pageAnswer, afterPages_withFaults hserved]
  simp only [Backend.withFaults, Faulty.page, hserved]
  split <;> rfl

theorem serves_withFaults (b : Backend σ) (size : UInt64) (f : Faulty σ) :
    (b.withFaults plan).registry.Serves served size f := by
  intro i page hpage
  rw [pageAnswer_withFaults hserved] at hpage
  split at hpage
  · cases hpage
  · exact (Except.ok.inj hpage).symm

end

/-- A list of three markets, two of them for one triple. -/
def threeListings : ServedList :=
  ⟨[⟨11, ⟨1, 2, 3⟩⟩, ⟨12, ⟨1, 2, 3⟩⟩, ⟨13, ⟨0, 2, 3⟩⟩], none⟩

/-- A chain that serves it, with a page that may fail. -/
def servesThree (failing : Option Nat) : Backend (Faulty Ledger) :=
  Ledger.backend.withFaults { served := some threeListings, failingPage := failing }

/-- Two markets a page: the second page is the last one, and if it fails nothing is found. -/
theorem threeListings_enumerated :
    takeSnapshot (servesThree none).recorded.registry 2 ⟨{ state := .empty }, []⟩ =
      (.ok (.ofListings threeListings.markets), ⟨{ state := .empty, pages := 2 },
        [.getMarkets 0 2 (some [⟨11, ⟨1, 2, 3⟩⟩, ⟨12, ⟨1, 2, 3⟩⟩]), .getMarkets 2 4 (some [⟨13, ⟨0, 2, 3⟩⟩])]⟩) ∧
    takeSnapshot (servesThree (some 1)).recorded.registry 2 ⟨{ state := .empty }, []⟩ =
      (.error (.call (.pageFailed 1)), ⟨{ state := .empty, pages := 2 },
        [.getMarkets 0 2 (some [⟨11, ⟨1, 2, 3⟩⟩, ⟨12, ⟨1, 2, 3⟩⟩]), .getMarkets 2 4 none]⟩) := by
  have hcount : threeListings.markets.length < 2 ^ 63 := by decide
  have hserves (failing : Option Nat) : (servesThree failing).registry.Serves threeListings 2 { state := .empty } :=
    serves_withFaults rfl _ _ _
  have hanswer (failing : Option Nat) (i : Nat) :
      (servesThree failing).registry.pageAnswer 2 { state := .empty } i =
        if failing = some (0 + i) then .error (.pageFailed (0 + i))
        else .ok (threeListings.page (pageStart 2 i) (pageStart 2 (i + 1))) :=
    pageAnswer_withFaults rfl _ _ _ i
  have hwalk (failing : Option Nat) := (enumeration_of_list (r := ⟨_, []⟩) hcount (hserves failing)).2 (by decide)
  constructor
  · exact (hwalk none).2.1 fun i _ => ⟨_, hanswer none i⟩
  · refine (hwalk (some 1)).2.2 1 (by decide) (.pageFailed 1) (fun i hi => ?_) (hanswer (some 1) 1)
    obtain rfl : i = 0 := by omega
    exact ⟨_, hanswer (some 1) 0⟩

end MarketSync

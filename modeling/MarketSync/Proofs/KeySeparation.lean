import Mathlib.Algebra.Group.Nat.Defs
import MarketSync.Config.Param

/-!
# Keys lie apart

A storage key (`hash_data`) is the hash of words, the first of which is itself the hash of a name. Encodings lose
nothing, so two meanings that share a slot are equal, or two byte strings hashed for them are a collision.

* `wordBytes_injective`, `words_injective`, `encode_text_injective` — nothing is lost before hashing.
* `Key.eq_or_collide` — meanings with one slot are equal or exhibit a collision.
* `Key.SomeCollide` — among the keys of a set there is a collision; where there is none a slot has one key.
* `Triple.saltPreimage_injective` — nothing of a triple and its market type is lost before hashing.
* `hashes_apart` — keys, texts and salts with one hash are equal or exhibit a collision.
* `Param.key_eq_iff` — two parameters mean the same only as the two caps of a pool with one token.
-/

namespace MarketSync

/-! ## Encodings -/

namespace Bytes

theorem bigEndian_mod : ∀ (w : Nat) {m n : Nat}, bigEndian w m = bigEndian w n → m % 256 ^ w = n % 256 ^ w
  | 0, _, _, _ => by rw [Nat.pow_zero, Nat.mod_one, Nat.mod_one]
  | w + 1, m, n, h => by
    simp only [bigEndian, List.cons.injEq] at h
    obtain ⟨hhead, htail⟩ := h
    have hbyte : m / 256 ^ w % 256 = n / 256 ^ w % 256 := congrArg UInt8.toNat hhead
    rw [Nat.pow_succ, Nat.mod_mul, Nat.mod_mul, bigEndian_mod w htail, hbyte]

theorem toList_loop (bs : ByteArray) (i : Nat) (r : Bytes) :
    ByteArray.toList.loop bs i r = r.reverse ++ bs.data.toList.drop i := by
  fun_induction ByteArray.toList.loop bs i r with
  | case1 i r h ih =>
    have hi : i < bs.data.toList.length := h
    have hget : bs.get! i = bs.data.toList[i] := by
      show bs.data[i]! = _
      simp [h]
    rw [ih, List.drop_eq_getElem_cons hi, List.reverse_cons, hget, List.append_assoc, List.singleton_append]
  | case2 i r h =>
    have hi : bs.data.toList.length ≤ i := Nat.le_of_not_lt h
    rw [List.drop_eq_nil_of_le hi, List.append_nil]

theorem ofText_eq (s : String) : ofText s = s.toByteArray.data.toList := by
  rw [ofText, ByteArray.toList, toList_loop]
  rfl

theorem ofText_injective {s t : String} (h : ofText s = ofText t) : s = t := by
  rw [ofText_eq, ofText_eq] at h
  exact String.toByteArray_inj.1 (ByteArray.ext (Array.toList_inj.1 h))

end Bytes

@[simp] theorem length_wordBytes (w : BitVec 256) : (wordBytes w).length = 32 :=
  Bytes.length_bigEndian 32 w.toNat

theorem wordBytes_injective {v w : BitVec 256} (h : wordBytes v = wordBytes w) : v = w := by
  have hmod := Bytes.bigEndian_mod 32 h
  have hv : v.toNat < 256 ^ 32 := v.isLt
  have hw : w.toNat < 256 ^ 32 := w.isLt
  rw [Nat.mod_eq_of_lt hv, Nat.mod_eq_of_lt hw] at hmod
  exact BitVec.eq_of_toNat_eq hmod

namespace Abi

theorem words_cons (w : BitVec 256) (ws : List (BitVec 256)) : words (w :: ws) = wordBytes w ++ words ws := rfl

theorem words_injective : ∀ {vs ws : List (BitVec 256)}, words vs = words ws → vs = ws
  | [], [], _ => rfl
  | [], w :: ws, h => by
    have hlen := congrArg List.length h
    simp [words] at hlen
    omega
  | v :: vs, [], h => by
    have hlen := congrArg List.length h
    simp [words] at hlen
  | v :: vs, w :: ws, h => by
    rw [words_cons, words_cons] at h
    obtain ⟨hhead, htail⟩ := List.append_inj h (by simp)
    rw [wordBytes_injective hhead, words_injective htail]

/-- The length in front tells the bytes from what fills them up. -/
theorem sized_injective {as bs : Bytes} (h : sized as = sized bs) : as = bs := by
  have hhead : wordBytes (.ofNat 256 as.length) = wordBytes (.ofNat 256 bs.length) := by
    rw [sized, sized, List.append_assoc, List.append_assoc] at h
    exact (List.append_inj h (by simp)).1
  have hmod := congrArg BitVec.toNat (wordBytes_injective hhead)
  have hlen := congrArg List.length h
  simp only [sized, List.length_append, length_wordBytes, List.length_replicate, BitVec.toNat_ofNat] at hlen hmod
  -- lengths that agree as words and up to the filling agree
  have hsame : as.length = bs.length := by omega
  rw [sized, sized, hsame] at h
  exact List.append_cancel_left (List.append_cancel_right h)

theorem encode_text_injective {s t : String} (h : encode [.text s] = encode [.text t]) : s = t := by
  have htext (u : String) : encode [.text u] = words [32] ++ sized (Bytes.ofText u) := by
    simp [encode, heads, Item.tail]
  rw [htext, htext] at h
  exact Bytes.ofText_injective (sized_injective (List.append_cancel_left h))

end Abi

/-! ## Meanings -/

@[simp] theorem Address.word_inj {a b : Address} : a.word = b.word ↔ a = b := by
  refine ⟨fun h => ?_, congrArg _⟩
  have hnat := congrArg BitVec.toNat h
  simp only [Address.word, BitVec.toNat_setWidth] at hnat
  have ha := a.isLt
  have hb := b.isLt
  exact BitVec.eq_of_toNat_eq (by omega)

@[simp] theorem Side.word_inj {s t : Side} : s.word = t.word ↔ s = t := by
  cases s <;> cases t <;> decide

@[simp] theorem Sign.word_inj {s t : Sign} : s.word = t.word ↔ s = t := by
  cases s <;> cases t <;> decide

theorem PnlCap.name_injective {c d : PnlCap} (h : c.name = d.name) : c = d := by
  cases c <;> cases d <;> first | rfl | exact absurd h (by decide)

namespace Key

/-- The byte strings that are hashed for a storage key. -/
def hashed (k : Key) : List Bytes :=
  k.preimage :: Abi.encode [.text k.name] ::
    match k with
    | .maxPnlFactor cap _ _ => [Abi.encode [.text cap.name]]
    | _ => []

/-- Two different byte strings with one hash are among those hashed for two keys. -/
def Collide (k k' : Key) : Prop :=
  ∃ a ∈ k.hashed, ∃ b ∈ k'.hashed, a ≠ b ∧ Keccak.hash a = Keccak.hash b

/-- Texts hashed for two keys are equal, or a collision, if their hashes are. -/
theorem text_eq_or_collide {k k' : Key} {s t : String} (hs : Abi.encode [.text s] ∈ k.hashed)
    (ht : Abi.encode [.text t] ∈ k'.hashed) (h : Abi.hashText s = Abi.hashText t) : s = t ∨ Collide k k' := by
  by_cases he : Abi.encode [.text s] = Abi.encode [.text t]
  · exact Or.inl (Abi.encode_text_injective he)
  · exact Or.inr ⟨_, hs, _, ht, he, h⟩

/-- Keys with one slot agree in name and arguments, or exhibit a collision. -/
theorem parts_eq_or_collide {k k' : Key} (h : k.slot = k'.slot) :
    (k.name = k'.name ∧ k.arguments = k'.arguments) ∨ Collide k k' := by
  by_cases hp : k.preimage = k'.preimage
  · obtain ⟨hname, harguments⟩ := List.cons.inj (Abi.words_injective hp)
    have hmem (k : Key) : Abi.encode [.text k.name] ∈ k.hashed := by simp [hashed]
    exact (text_eq_or_collide (hmem k) (hmem k') hname).imp_left fun hname => ⟨hname, harguments⟩
  · exact Or.inr ⟨_, List.mem_cons_self, _, List.mem_cons_self, hp, h⟩

/-- Name and arguments determine a key, up to the caps on profit and loss, which are arguments as hashes. -/
theorem eq_of_parts {k k' : Key} (hname : k.name = k'.name) (harguments : k.arguments = k'.arguments)
    (hcap : ∀ {c d market market' side side'}, k = .maxPnlFactor c market side →
      k' = .maxPnlFactor d market' side' → c.hash = d.hash → c = d) : k = k' := by
  cases k <;> cases k' <;> first
    | (simp [name] at hname; done)
    | (simpa [arguments] using harguments)
    | skip
  case maxPnlFactor.maxPnlFactor c market side d market' side' =>
    simp only [arguments, List.cons.injEq, Address.word_inj, Side.word_inj, and_true] at harguments
    obtain ⟨hhash, rfl, rfl⟩ := harguments
    rw [hcap rfl rfl hhash]

/-- **Keys with one slot are equal, or exhibit a collision.** -/
theorem eq_or_collide {k k' : Key} (h : k.slot = k'.slot) : k = k' ∨ Collide k k' := by
  rcases parts_eq_or_collide h with ⟨hname, harguments⟩ | hcollide
  · by_cases hc : Collide k k'
    · exact Or.inr hc
    · refine Or.inl (eq_of_parts hname harguments ?_)
      rintro c d market market' side side' rfl rfl hhash
      refine PnlCap.name_injective ((text_eq_or_collide ?_ ?_ hhash).resolve_right hc)
      · simp [hashed]
      · simp [hashed]
  · exact Or.inr hcollide

/-- Two of the byte strings hashed for different keys of a set collide. -/
def SomeCollide (keys : Key → Prop) : Prop :=
  ∃ k k', keys k ∧ keys k' ∧ k ≠ k' ∧ Collide k k'

theorem eq_of_slot_eq {keys : Key → Prop} (hcollide : ¬ SomeCollide keys) {k k' : Key} (hk : keys k) (hk' : keys k')
    (h : k.slot = k'.slot) : k = k' := by
  refine Decidable.byContradiction fun hne => hcollide ⟨k, k', hk, hk', hne, ?_⟩
  exact (eq_or_collide h).resolve_left hne

/-- The market, or the token of the market, that a key is for. -/
def market : Key → Address
  | .minCollateralFactor a | .maxPoolAmount a _ | .maxOpenInterest a _ | .reserveFactor a _
  | .maxPnlFactor _ a _ | .tokenTransferGasLimit a | .positionFeeFactor a
  | .positionImpactExponentFactor a | .swapFeeFactor a | .swapImpactExponentFactor a
  | .fundingFactor a | .fundingExponentFactor a | .borrowingFactor a _ | .borrowingExponentFactor a _
  | .positionImpactFactor a _ | .maxPositionImpactFactor a _ | .swapImpactFactor a _
  | .virtualMarketId a => a

end Key

namespace Param

@[simp] theorem market_key (m : Listing) (p : Param) : (p.key m).market = m.marketToken := by
  cases p <;> rfl

/-- **Two parameters of a market mean the same only as the two caps of a pool with one token.** -/
theorem key_eq_iff {m : Listing} {p q : Param} : p.key m = q.key m ↔ p = q ∨
    m.triple.longToken = m.triple.shortToken ∧ ∃ side side', p = .maxPoolAmount side ∧ q = .maxPoolAmount side' := by
  cases p <;> cases q <;> try (simp [key]; done)
  case maxPoolAmount.maxPoolAmount side side' =>
    cases side <;> cases side' <;> simp [key, poolToken, eq_comm]

end Param

/-! ## Salts -/

namespace Triple

/-- The bytes whose hash is the salt of a market with a type. -/
def saltPreimage (t : Triple) (type : Bytes32) : Bytes :=
  Abi.encode [.text "GMX_MARKET", .word t.indexToken.word, .word t.longToken.word, .word t.shortToken.word, .word type]

theorem salt_eq (t : Triple) (type : Bytes32) : t.salt type = Keccak.hash (t.saltPreimage type) := rfl

/-- Triple and type stand in the head, each at its own place; what follows is the same for all. -/
theorem saltPreimage_eq (t : Triple) (type : Bytes32) : t.saltPreimage type =
    Abi.words [160, t.indexToken.word, t.longToken.word, t.shortToken.word, type] ++
      Abi.sized (Bytes.ofText "GMX_MARKET") := by
  simp [saltPreimage, Abi.encode, Abi.heads, Abi.Item.tail]

theorem saltPreimage_injective {t t' : Triple} {type type' : Bytes32}
    (h : t.saltPreimage type = t'.saltPreimage type') : t = t' ∧ type = type' := by
  rw [saltPreimage_eq, saltPreimage_eq] at h
  have hwords := Abi.words_injective (List.append_cancel_right h)
  simp only [List.cons.injEq, Address.word_inj, and_true, true_and] at hwords
  obtain ⟨hindex, hlong, hshort, htype⟩ := hwords
  cases t
  cases t'
  simp_all

end Triple

/-! ## Hashes of all kinds -/

/-- Two different byte strings with one hash. -/
def Keccak.Collision (a b : Bytes) : Prop := a ≠ b ∧ hash a = hash b

/-- **Two keys with one slot, two texts with one hash and two markets with one salt are the same, or a collision is
found among the byte strings that are hashed for them.** -/
theorem hashes_apart :
    (∀ k k' : Key, k.slot = k'.slot → k = k' ∨ ∃ a ∈ k.hashed, ∃ b ∈ k'.hashed, Keccak.Collision a b) ∧
    (∀ s s' : String, Abi.hashText s = Abi.hashText s' →
      s = s' ∨ Keccak.Collision (Abi.encode [.text s]) (Abi.encode [.text s'])) ∧
    ∀ (t t' : Triple) (type type' : Bytes32), t.salt type = t'.salt type' →
      (t = t' ∧ type = type') ∨ Keccak.Collision (t.saltPreimage type) (t'.saltPreimage type') := by
  refine ⟨fun k k' h => Key.eq_or_collide h, fun s s' h => ?_, fun t t' type type' h => ?_⟩
  · by_cases he : Abi.encode [.text s] = Abi.encode [.text s']
    · exact Or.inl (Abi.encode_text_injective he)
    · exact Or.inr ⟨he, h⟩
  · by_cases hp : t.saltPreimage type = t'.saltPreimage type'
    · exact Or.inl (Triple.saltPreimage_injective hp)
    · rw [Triple.salt_eq, Triple.salt_eq] at h
      exact Or.inr ⟨hp, h⟩

/-- A pool whose two sides are the token at address 1. -/
def oneTokenPool : Listing := ⟨0x99, swapOnlyIndex, 1, 1⟩

/-- The caps of a pool with one token share a slot and are one key. The limit of the long side has the words of such a
cap for the token at address 1, and shares its slot only with a collision. -/
theorem caps_of_one_token :
    ((Param.maxPoolAmount .long).key oneTokenPool).slot = ((Param.maxPoolAmount .short).key oneTokenPool).slot ∧
    ((Param.maxPoolAmount .long).key oneTokenPool = (Param.maxPoolAmount .short).key oneTokenPool ∨
      ∃ a ∈ ((Param.maxPoolAmount .long).key oneTokenPool).hashed,
        ∃ b ∈ ((Param.maxPoolAmount .short).key oneTokenPool).hashed, Keccak.Collision a b) ∧
    (Key.maxPoolAmount 0x99 1).arguments = (Key.maxOpenInterest 0x99 .long).arguments ∧
    ((Key.maxPoolAmount 0x99 1).slot = (Key.maxOpenInterest 0x99 .long).slot →
      ∃ a ∈ (Key.maxPoolAmount 0x99 1).hashed, ∃ b ∈ (Key.maxOpenInterest 0x99 .long).hashed, Keccak.Collision a b) := by
  refine ⟨rfl, hashes_apart.1 _ _ rfl, by decide, fun h => ?_⟩
  exact (hashes_apart.1 _ _ h).resolve_left (by decide)

end MarketSync

import MarketSync.Node.Contracts
import MarketSync.Proofs.Printing

/-!
# Nothing is lost on the way to a node and back

A call of `RpcChain` is sent as the selector of its method and its arguments, each filled up to 32 bytes, in the order
of the signature. An array of markets comes back behind two words, four addresses to a market. Both are spelled out here
byte by byte, next to the words with which the program works.

* `ContractCall.data_eq`, `ContractCall.data_injective` — what is sent, and that no two calls are sent alike.
* `Abi.readRows_encodeRows`, `Listing.readAll_spelledAll` — an answer is read as what was encoded.
* `Contracts.sends` — each operation sends its call, once, to its contract.
* `Contracts.lossless` — calls and answers, over any transport.
-/

namespace MarketSync

/-! ## Bytes -/

theorem Bytes.bigEndian_of_lt {w n : ℕ} (h : n < 256 ^ w) (k : ℕ) :
    bigEndian (k + w) n = List.replicate k 0 ++ bigEndian w n := by
  induction k with
  | zero => rw [Nat.zero_add, List.replicate_zero, List.nil_append]
  | succ k ih =>
    have hle : 256 ^ w ≤ 256 ^ (k + w) := Nat.pow_le_pow_right (by decide) (by omega)
    have hzero : n / Nat.pow 256 (k + w) = 0 := Nat.div_eq_of_lt (Nat.lt_of_lt_of_le h hle)
    rw [Nat.succ_add, bigEndian, ih, hzero, List.replicate_succ, List.cons_append]
    rfl

theorem wordBytes_ofNat {n : ℕ} (h : n < 2 ^ 256) : wordBytes (BitVec.ofNat 256 n) = Bytes.bigEndian 32 n := by
  rw [wordBytes, BitVec.toNat_ofNat, Nat.mod_eq_of_lt h]

theorem position_lt (n : UInt64) : n.toNat < 2 ^ 256 :=
  Nat.lt_trans n.toNat_lt (by decide)

/-- An address as a word stands behind twelve zeros. -/
theorem Address.wordBytes_word (a : Address) : wordBytes a.word = List.replicate 12 0 ++ a.bytes := by
  have hlt : a.toNat < 256 ^ 20 := a.isLt
  have hsame : a.word.toNat = a.toNat := BitVec.toNat_setWidth_of_le (by decide)
  rw [wordBytes, hsame, Address.bytes]
  exact Bytes.bigEndian_of_lt hlt 12

theorem Address.ofWord_word (a : Address) : ofWord a.word = a := by
  rw [ofWord, word, BitVec.setWidth_setWidth_of_le a (by decide), BitVec.setWidth_eq]

/-! ## Calls -/

inductive Argument where
  | word (w : Bytes32)
  | number (n : ℕ)
  | address (a : Address)

def Argument.type : Argument → String
  | .word _ => "bytes32"
  | .number _ => "uint256"
  | .address _ => "address"

def Argument.bytes : Argument → Bytes
  | .word w => wordBytes w
  | .number n => Bytes.bigEndian 32 n
  | .address a => List.replicate 12 0 ++ a.bytes

@[simp] theorem Argument.length_bytes (a : Argument) : a.bytes.length = 32 := by
  cases a <;> simp [bytes, Address.bytes]

namespace ContractCall

/-- The arguments of a call in the order in which its method declares them. -/
def declared : ContractCall → List Argument
  | .getUint key => [.word key]
  | .getBytes32 key => [.word key]
  | .setUint key value => [.word key, .number value.toNat]
  | .setBytes32 key value => [.word key, .word value]
  | .getMarkets dataStore start stop => [.address dataStore, .number start.toNat, .number stop.toNat]
  | .createMarket t marketType =>
    [.address t.indexToken, .address t.longToken, .address t.shortToken, .word marketType]

theorem signature_eq (call : ContractCall) : call.method.signature =
    call.method.name ++ "(" ++ ",".intercalate (call.declared.map Argument.type) ++ ")" := by
  cases call <;> rfl

theorem words_arguments (call : ContractCall) :
    Abi.words call.arguments = call.declared.flatMap Argument.bytes := by
  have hnumber (n : UInt64) : wordBytes (BitVec.ofNat 256 n.toNat) = Bytes.bigEndian 32 n.toNat :=
    wordBytes_ofNat (position_lt n)
  cases call with
  | getUint | getBytes32 | setUint | setBytes32 => rfl
  | getMarkets dataStore start stop =>
    simp only [arguments, declared, Abi.words, List.flatMap_cons, Argument.bytes, Address.wordBytes_word, hnumber]
    rfl
  | createMarket t marketType =>
    simp only [arguments, declared, Abi.words, List.flatMap_cons, Argument.bytes, Address.wordBytes_word]
    rfl

/-- **A call is sent as its selector and the bytes of its arguments.** -/
theorem data_eq (call : ContractCall) :
    call.data = call.method.selector ++ call.declared.flatMap Argument.bytes := by
  rw [data, words_arguments]

end ContractCall

/-! ## No two calls are sent alike -/

@[simp] theorem Method.length_selector (m : Method) : m.selector.length = 4 := by
  simp [selector]

-- methods with the same number of arguments send the same number of bytes: only the hashes tell them apart

theorem Method.selector_getUint_ne : Method.getUint.selector ≠ Method.getBytes32.selector := by
  decide +kernel

theorem Method.selector_setUint_ne : Method.setUint.selector ≠ Method.setBytes32.selector := by
  decide +kernel

def Method.arity : Method → ℕ
  | .getUint | .getBytes32 => 1
  | .setUint | .setBytes32 => 2
  | .getMarkets => 3
  | .createMarket => 4

/-- Methods with as many arguments are told apart by their selectors. -/
theorem Method.eq_of_selector {m m' : Method} (harity : m.arity = m'.arity) (h : m.selector = m'.selector) :
    m = m' := by
  have hcases : m = m' ∨ (m = .getUint ∧ m' = .getBytes32) ∨ (m = .getBytes32 ∧ m' = .getUint) ∨
      (m = .setUint ∧ m' = .setBytes32) ∨ (m = .setBytes32 ∧ m' = .setUint) := by
    cases m <;> cases m' <;> simp [arity] at harity ⊢
  rcases hcases with heq | ⟨rfl, rfl⟩ | ⟨rfl, rfl⟩ | ⟨rfl, rfl⟩ | ⟨rfl, rfl⟩
  · exact heq
  · exact absurd h selector_getUint_ne
  · exact absurd h.symm selector_getUint_ne
  · exact absurd h selector_setUint_ne
  · exact absurd h.symm selector_setUint_ne

namespace ContractCall

theorem length_arguments (call : ContractCall) : call.arguments.length = call.method.arity := by
  cases call <;> rfl

theorem number_inj {m n : UInt64} : BitVec.ofNat 256 m.toNat = BitVec.ofNat 256 n.toNat ↔ m = n := by
  constructor
  · intro h
    have hnat := congrArg BitVec.toNat h
    rw [BitVec.toNat_ofNat, BitVec.toNat_ofNat, Nat.mod_eq_of_lt (position_lt m),
      Nat.mod_eq_of_lt (position_lt n)] at hnat
    exact UInt64.toNat_inj.1 hnat
  · rintro rfl
    rfl

theorem eq_of_arguments {a b : ContractCall} (hmethod : a.method = b.method)
    (harguments : a.arguments = b.arguments) : a = b := by
  cases a <;> cases b <;> cases hmethod
  case createMarket.createMarket.refl t type t' type' =>
    obtain ⟨index, long, short⟩ := t
    obtain ⟨index', long', short'⟩ := t'
    simpa [arguments, and_assoc] using harguments
  all_goals simpa [arguments, number_inj] using harguments

/-- **Two calls that are sent alike are the same method with the same arguments.** -/
theorem data_injective {a b : ContractCall} (h : a.data = b.data) : a = b := by
  have hlength : a.method.selector.length = b.method.selector.length := by
    rw [Method.length_selector, Method.length_selector]
  obtain ⟨hselector, hwords⟩ := List.append_inj h hlength
  have harguments : a.arguments = b.arguments := Abi.words_injective hwords
  have harity : a.method.arity = b.method.arity := by
    rw [← length_arguments, ← length_arguments, harguments]
  have hmethod : a.method = b.method := Method.eq_of_selector harity hselector
  exact eq_of_arguments hmethod harguments

end ContractCall

/-! ## Answers -/

namespace Abi

theorem takeWord_append (w : BitVec 256) (bs : Bytes) : takeWord (wordBytes w ++ bs) = some (w, bs) := by
  have htake : (wordBytes w ++ bs).take 32 = wordBytes w := List.take_left' (length_wordBytes w)
  have hdrop : (wordBytes w ++ bs).drop 32 = bs := List.drop_left' (length_wordBytes w)
  simp only [takeWord, htake, hdrop, length_wordBytes, if_true, toNumber_wordBytes, BitVec.ofNat_toNat,
    BitVec.setWidth_eq]

theorem words_append (vs ws : List (BitVec 256)) : words (vs ++ ws) = words vs ++ words ws :=
  List.flatMap_append

theorem takeWords_append (ws : List (BitVec 256)) (bs : Bytes) :
    takeWords ws.length (words ws ++ bs) = some (ws, bs) := by
  induction ws with
  | nil => rfl
  | cons w ws ih =>
    rw [words_cons, List.append_assoc, List.length_cons, takeWords, takeWord_append]
    simp only [ih, Option.map_some]

theorem takeRows_flatten {width : ℕ} {rows : List (List (BitVec 256))} (h : ∀ row ∈ rows, row.length = width) :
    takeRows width rows.length (words rows.flatten) = some rows := by
  induction rows with
  | nil => rfl
  | cons row rows ih =>
    obtain ⟨hrow, hrows⟩ := List.forall_mem_cons.1 h
    have hwords : takeWords width (words row ++ words rows.flatten) = some (row, words rows.flatten) :=
      hrow ▸ takeWords_append row (words rows.flatten)
    rw [List.flatten_cons, words_append, List.length_cons, takeRows, hwords]
    simp only [ih hrows, Option.map_some]

/-- **Rows that were encoded are read as they were.** -/
theorem readRows_encodeRows {width : ℕ} {rows : List (List (BitVec 256))} (hcount : rows.length < 2 ^ 256)
    (h : ∀ row ∈ rows, row.length = width) : readRows width (encodeRows rows) = some rows := by
  have hdrop (bs : Bytes) : (wordBytes 32 ++ bs).drop (32 : BitVec 256).toNat = bs :=
    List.drop_left' (length_wordBytes 32)
  have hlength : (BitVec.ofNat 256 rows.length).toNat = rows.length := by
    rw [BitVec.toNat_ofNat, Nat.mod_eq_of_lt hcount]
  rw [encodeRows, words_cons, words_cons, readRows, takeWord_append]
  simp only [hdrop, takeWord_append, hlength]
  exact takeRows_flatten h

theorem readWord_wordBytes (w : BitVec 256) : readWord (wordBytes w) = some w := by
  rw [readWord, ← List.append_nil (wordBytes w), takeWord_append]
  rfl

end Abi

namespace Listing

/-- A market as an answer spells it: its token, then the tokens of its triple. -/
def spelled (m : Listing) : Bytes :=
  [m.marketToken, m.triple.indexToken, m.triple.longToken, m.triple.shortToken].flatMap fun a =>
    (Argument.address a).bytes

/-- Markets as an answer spells them: where the array begins, its length, and the markets one after another. -/
def spelledAll (ms : List Listing) : Bytes :=
  Bytes.bigEndian 32 32 ++ Bytes.bigEndian 32 ms.length ++ ms.flatMap spelled

theorem words_row (m : Listing) : Abi.words m.row = m.spelled := by
  simp only [row, spelled, Abi.words, List.flatMap_cons, Argument.bytes, Address.wordBytes_word]
  rfl

theorem words_rows (ms : List Listing) : Abi.words (ms.map row).flatten = ms.flatMap spelled := by
  induction ms with
  | nil => rfl
  | cons m ms ih => rw [List.map_cons, List.flatten_cons, Abi.words_append, words_row, ih, List.flatMap_cons]

theorem encodeRows_row {ms : List Listing} (hcount : ms.length < 2 ^ 256) :
    Abi.encodeRows (ms.map row) = spelledAll ms := by
  have hstart : wordBytes 32 = Bytes.bigEndian 32 32 := rfl
  rw [Abi.encodeRows, Abi.words_cons, Abi.words_cons, words_rows, List.length_map, wordBytes_ofNat hcount, hstart,
    spelledAll, List.append_assoc]

theorem ofRow?_row (m : Listing) : ofRow? m.row = some m := by
  simp only [row, ofRow?, Address.ofWord_word]

theorem mapM_ofRow?_row (ms : List Listing) : (ms.map row).mapM ofRow? = some ms := by
  induction ms with
  | nil => rfl
  | cons m ms ih => simp [ofRow?_row, ih]

/-- **Markets that were encoded are read as they were, in order and with no field exchanged.** -/
theorem readAll_spelledAll {ms : List Listing} (hcount : ms.length < 2 ^ 256) :
    readAll (spelledAll ms) = some ms := by
  have hwidth : ∀ r ∈ ms.map row, r.length = 4 := by
    intro r hr
    obtain ⟨m, -, rfl⟩ := List.mem_map.1 hr
    rfl
  have hcount' : (ms.map row).length < 2 ^ 256 := by
    rwa [List.length_map]
  rw [readAll, ← encodeRows_row hcount, Abi.readRows_encodeRows hcount' hwidth, Option.bind_some, mapM_ofRow?_row]

end Listing

theorem Text.readHex_of_readHexOf {width : ℕ} {text : String} {bs : Bytes} (h : readHexOf width text = .ok bs) :
    readHex text = .ok bs := by
  simp only [readHexOf] at h
  split at h
  · cases h
  · split at h
    · cases h
    · rename_i heven _
      rw [readHex, if_neg heven, h]

/-- The hexadecimal text of an answer is read as the answer. -/
theorem replyBytes_hexText (bs : Bytes) : replyBytes (.text bs.hexText) = some bs := by
  rw [replyBytes, Text.readHex_of_readHexOf (Text.readHexOf_hexText bs)]
  rfl

/-! ## Over a transport -/

variable {σ α : Type}

/-- A transport that writes down each request that is made. -/
def Transport.recorded (t : Transport σ) : Transport (σ × List Request) where
  request r s := ((t.request r s.1).1, (t.request r s.1).2, s.2 ++ [r])
  receipt hash s := ((t.receipt hash s.1).1, (t.receipt hash s.1).2, s.2)

namespace Contracts

variable (c : Contracts) (t : Transport σ)

def requests (operation : Backend (σ × List Request) → σ × List Request → Except CallError α × σ × List Request)
    (s : σ) : List Request :=
  (operation (c.backend t.recorded) (s, [])).2.2

/-- Each operation makes one request, to the contract it is for, with its call as the data. -/
structure Sends (s : σ) : Prop where
  getUint : ∀ key, c.requests t (·.store.getUint key) s = [⟨.query, c.dataStore, (ContractCall.getUint key).data⟩]
  getBytes32 : ∀ key,
    c.requests t (·.store.getBytes32 key) s = [⟨.query, c.dataStore, (ContractCall.getBytes32 key).data⟩]
  setUint : ∀ key value, c.requests t (·.store.setUint key value) s =
    [⟨.transaction, c.dataStore, (ContractCall.setUint key value).data⟩]
  setBytes32 : ∀ key value, c.requests t (·.store.setBytes32 key value) s =
    [⟨.transaction, c.dataStore, (ContractCall.setBytes32 key value).data⟩]
  getMarkets : ∀ start stop, c.requests t (·.registry.getMarkets start stop) s =
    [⟨.query, c.reader, (ContractCall.getMarkets c.dataStore start stop).data⟩]
  createMarket : ∀ triple type, c.requests t (·.factory.createMarket triple type) s =
    [⟨.transaction, c.marketFactory, (ContractCall.createMarket triple type).data⟩]

theorem snd_query (call : ContractCall) (read : Bytes → Option α) (s : σ) :
    (c.query t call read s).2 = (t.request ⟨.query, c.address call, call.data⟩ s).2 := by
  unfold query
  obtain ⟨reply, s'⟩ := t.request ⟨.query, c.address call, call.data⟩ s
  cases reply with
  | result v =>
    dsimp only
    cases (replyBytes v).bind read <;> rfl
  | rejected | lost => rfl

/-- A transaction makes its request, after which it asks for a receipt at most. -/
theorem snd_submit (call : ContractCall) (s : σ) :
    let s' := (t.request ⟨.transaction, c.address call, call.data⟩ s).2
    (c.submit t call s).2 = s' ∨ ∃ hash, (c.submit t call s).2 = (t.receipt hash s').2 := by
  unfold submit
  obtain ⟨reply, s'⟩ := t.request ⟨.transaction, c.address call, call.data⟩ s
  cases reply with
  | result v =>
    dsimp only
    cases replyHash v with
    | none => exact .inl rfl
    | some hash =>
      refine .inr ⟨hash, ?_⟩
      dsimp only
      obtain ⟨outcome, s''⟩ := t.receipt hash s'
      cases outcome with
      | none => rfl
      | some success => cases success <;> rfl
  | rejected | lost => exact .inl rfl

theorem query_recorded (call : ContractCall) (read : Bytes → Option α) (s : σ) :
    (c.query t.recorded call read (s, [])).2.2 = [⟨.query, c.address call, call.data⟩] := by
  rw [snd_query]
  rfl

theorem submit_recorded (call : ContractCall) (s : σ) :
    (c.submit t.recorded call (s, [])).2.2 = [⟨.transaction, c.address call, call.data⟩] := by
  rcases c.snd_submit t.recorded call (s, []) with h | ⟨hash, h⟩
  · rw [h]
    rfl
  · rw [h]
    rfl

/-- **Each operation sends its call, once, to its contract.** -/
theorem sends (s : σ) : c.Sends t s where
  getUint key := c.query_recorded t (.getUint key) Abi.readWord s
  getBytes32 key := c.query_recorded t (.getBytes32 key) Abi.readWord s
  setUint key value := c.submit_recorded t (.setUint key value) s
  setBytes32 key value := c.submit_recorded t (.setBytes32 key value) s
  getMarkets start stop := c.query_recorded t (.getMarkets c.dataStore start stop) Listing.readAll s
  createMarket triple type := c.submit_recorded t (.createMarket triple type) s

theorem query_of_result (call : ContractCall) {read : Bytes → Option α} {s : σ} {v : Document.Value} {bs : Bytes} {a : α}
    (hreply : (t.request ⟨.query, c.address call, call.data⟩ s).1 = .result v) (hbytes : replyBytes v = some bs)
    (hread : read bs = some a) : (c.query t call read s).1 = .ok a := by
  unfold query
  cases hr : t.request ⟨.query, c.address call, call.data⟩ s with
  | mk reply s' =>
    obtain rfl : reply = .result v := by
      rw [← hreply, hr]
    simp only [hbytes, Option.bind_some, hread]

/-- Calls and answers pass through a transport as they are. -/
structure Lossless : Prop where
  /-- Each operation makes one request, to the contract it is for, with its call as the data. -/
  sends : ∀ s, c.Sends t s
  /-- A signature names the method and the types of its arguments in order. -/
  signature : ∀ call : ContractCall, call.method.signature =
    call.method.name ++ "(" ++ ",".intercalate (call.declared.map Argument.type) ++ ")"
  /-- The data of a call is the selector of its method and the arguments in that order. -/
  data : ∀ call : ContractCall, call.data = call.method.selector ++ call.declared.flatMap Argument.bytes
  /-- A selector has four bytes, the first ones of the hash of the signature. -/
  selector : ∀ m : Method, m.selector <+: wordBytes (Keccak.hash (Bytes.ofText m.signature)) ∧ m.selector.length = 4
  /-- An argument has 32 bytes. -/
  argument_length : ∀ a : Argument, a.bytes.length = 32
  /-- Calls with the same data are the same method with the same arguments. -/
  apart : ∀ a b : ContractCall, a.data = b.data → a = b
  /-- The hexadecimal text of bytes is an answer that holds them. -/
  text : ∀ bs, replyBytes (.text bs.hexText) = some bs
  /-- A number that is answered is the result. -/
  number : ∀ key s v (n : Uint256),
    (t.request ⟨.query, c.dataStore, (ContractCall.getUint key).data⟩ s).1 = .result v →
    replyBytes v = some (Bytes.bigEndian 32 n.toNat) → ((c.backend t).store.getUint key s).1 = .ok n
  /-- A word that is answered is the result. -/
  word : ∀ key s v (w : Bytes32),
    (t.request ⟨.query, c.dataStore, (ContractCall.getBytes32 key).data⟩ s).1 = .result v →
    replyBytes v = some (wordBytes w) → ((c.backend t).store.getBytes32 key s).1 = .ok w
  /-- Markets that are answered are the result, in order and with no field exchanged. -/
  markets : ∀ start stop s v (ms : List Listing), ms.length < 2 ^ 256 →
    (t.request ⟨.query, c.reader, (ContractCall.getMarkets c.dataStore start stop).data⟩ s).1 = .result v →
    replyBytes v = some (Listing.spelledAll ms) → ((c.backend t).registry.getMarkets start stop s).1 = .ok ms

/-- **Calls and answers pass through every transport without loss.** -/
theorem lossless : c.Lossless t where
  sends s := c.sends t s
  signature := ContractCall.signature_eq
  data := ContractCall.data_eq
  selector m := ⟨List.take_prefix 4 _, m.length_selector⟩
  argument_length := Argument.length_bytes
  apart _ _ h := ContractCall.data_injective h
  text := replyBytes_hexText
  number key _ _ n hreply hbytes :=
    c.query_of_result t (.getUint key) hreply hbytes (Abi.readWord_wordBytes n)
  word key _ _ w hreply hbytes :=
    c.query_of_result t (.getBytes32 key) hreply hbytes (Abi.readWord_wordBytes w)
  markets start stop _ _ _ hcount hreply hbytes :=
    c.query_of_result t (.getMarkets c.dataStore start stop) hreply hbytes (Listing.readAll_spelledAll hcount)

/-- A node with one answer to everything, two markets of which one has the tokens of the other the other way round. -/
theorem lossless_two_markets :
    let ms : List Listing := [⟨0xa1, 1, 2, 3⟩, ⟨0xa2, 1, 3, 2⟩]
    let t : Transport Unit := ⟨fun _ s => (.result (.text (Listing.spelledAll ms).hexText), s), fun _ s => (none, s)⟩
    ((backend ⟨7, 8, 9⟩ t).registry.getMarkets 0 1000 ()).1 = .ok ms := by
  intro ms t
  have h : (⟨7, 8, 9⟩ : Contracts).Lossless t := lossless _ t
  exact h.markets 0 1000 () _ ms (by decide) rfl (h.text _)

end Contracts

end MarketSync

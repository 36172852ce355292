import MarketSync.Document.Json
import MarketSync.Proofs.Printing
import MarketSync.Toml.Text

/-!
# Reading JSON texts

A small reader of JSON: the text is cut into tokens, and the tokens are put together. It takes any layout, every escape
that names one character, and whole numbers without leading zeros; other numbers it does not take. It gives back every
document that is printed, so the layout, the quotation marks and the escapes of the printer are those of JSON.

* `Plain.cut` — the text of a value is cut into the tokens of that value.
* `Plain.joined` — the tokens of a value are put together to that value.
* `read_text` — what is printed is read back.
-/

namespace MarketSync.Document.Json

/-! ## Texts in quotation marks -/

/-- Reads a character of a text in quotation marks, plain or as an escape. -/
def readCharacter : List Char → Option (Char × List Char)
  | '\x5c' :: 'u' :: a :: b :: c :: d :: cs => (Toml.scalar? [a, b, c, d]).map (·, cs)
  | '\x5c' :: '/' :: cs => some ('/', cs)
  | '\x5c' :: c :: cs => (Toml.escape? c).map (·, cs)
  | c :: cs => if c.toNat < 0x20 ∨ c = '\x5c' then none else some (c, cs)
  | [] => none

theorem readCharacter_length {cs rest : List Char} {c : Char} (h : readCharacter cs = some (c, rest)) :
    rest.length < cs.length := by
  unfold readCharacter at h
  split at h
  · obtain ⟨_, -, heq⟩ := Option.map_eq_some_iff.1 h
    cases heq
    simp only [List.length_cons]
    omega
  · cases h
    simp only [List.length_cons]
    omega
  · obtain ⟨_, -, heq⟩ := Option.map_eq_some_iff.1 h
    cases heq
    simp only [List.length_cons]
    omega
  · split at h <;> cases h
    simp
  · cases h

/-- Reads the rest of a text in quotation marks, behind the first one. -/
def readQuoted (cs : List Char) : Option (List Char × List Char) :=
  if cs.head? = some '\x22' then some ([], cs.tail)
  else
    match _h : readCharacter cs with
    | some (c, rest) => (readQuoted rest).map fun (es, behind) => (c :: es, behind)
    | none => none
termination_by cs.length
decreasing_by exact readCharacter_length _h

theorem readQuoted_length {cs es rest : List Char} (h : readQuoted cs = some (es, rest)) :
    rest.length < cs.length := by
  fun_induction readQuoted cs generalizing es rest with
  | case1 cs hend =>
    cases h
    cases cs with
    | nil => cases hend
    | cons c cs => simp
  | case2 cs _ c behind hc ih =>
    obtain ⟨⟨es', rest'⟩, hrest, heq⟩ := Option.map_eq_some_iff.1 h
    cases heq
    exact Nat.lt_trans (ih hrest) (readCharacter_length hc)
  | case3 => cases h

/-- **A character is read as it is printed.** -/
theorem readCharacter_quoteChar (c : Char) (cs : List Char) : readCharacter (quoteChar c ++ cs) = some (c, cs) := by
  have hsame {n : ℕ} (h : c.toNat = n) : c = Char.ofNat n := by rw [← h, Char.ofNat_toNat]
  unfold quoteChar
  dsimp only
  split_ifs with hquote hslash h8 h9 h10 h12 h13 hcontrol
  · rw [hsame hquote]
    rfl
  · rw [hsame hslash]
    rfl
  · rw [hsame h8]
    rfl
  · rw [hsame h9]
    rfl
  · rw [hsame h10]
    rfl
  · rw [hsame h12]
    rfl
  · rw [hsame h13]
    rfl
  · have hscalar : ∀ n < 0x20, Toml.scalar? ['0', '0', Text.digitChar (n / 16), Text.digitChar (n % 16)] =
        some (Char.ofNat n) := by decide
    simp only [List.cons_append, List.nil_append, readCharacter, hscalar c.toNat hcontrol, Char.ofNat_toNat]
    rfl
  · have hbackslash : c ≠ '\x5c' := by
      rintro rfl
      exact hslash rfl
    have hplain : ¬ (c.toNat < 0x20 ∨ c = '\x5c') := not_or.2 ⟨hcontrol, hbackslash⟩
    unfold readCharacter
    split
    case h_4 heq =>
      cases heq
      exact if_neg hplain
    case h_5 heq => cases heq
    all_goals
      rename_i heq
      cases heq
      exact absurd rfl hbackslash

theorem quoteChar_head (c : Char) (cs : List Char) : (quoteChar c ++ cs).head? ≠ some '\x22' := by
  unfold quoteChar
  dsimp only
  split_ifs with hquote
  case neg =>
    intro hhead
    cases hhead
    exact hquote rfl
  all_goals simp

/-- **A text is read as it is printed.** -/
theorem readQuoted_printed (es cs : List Char) :
    readQuoted (es.flatMap quoteChar ++ '\x22' :: cs) = some (es, cs) := by
  induction es with
  | nil =>
    rw [readQuoted]
    rfl
  | cons e es ih =>
    rw [List.flatMap_cons, List.append_assoc, readQuoted, if_neg (quoteChar_head e _)]
    split
    · rename_i c rest hread
      rw [readCharacter_quoteChar] at hread
      cases hread
      rw [ih]
      rfl
    · rename_i hnone
      rw [readCharacter_quoteChar] at hnone
      cases hnone

/-! ## Tokens -/

/-- A piece of a JSON text: a mark, or a value that is not made up of others. -/
inductive Token where
  | openList
  | closeList
  | openRecord
  | closeRecord
  | comma
  | colon
  | single (v : Value)

def isBlank (c : Char) : Bool :=
  c == ' ' || c == '\t' || c == '\n' || c == '\x0d'

def mark? : Char → Option Token
  | '[' => some .openList
  | ']' => some .closeList
  | '\x7b' => some .openRecord
  | '\x7d' => some .closeRecord
  | ',' => some .comma
  | ':' => some .colon
  | _ => none

/-- Characters of numbers and of the words without quotation marks. -/
def isWordChar (c : Char) : Bool :=
  c.isAlphanum || c == '-' || c == '+' || c == '.'

def natural? (cs : List Char) : Option ℕ :=
  (Text.readDigits 10 cs).filter fun n => Text.digits 10 n = cs

def word? : List Char → Option Value
  | ['n', 'u', 'l', 'l'] => some .null
  | ['t', 'r', 'u', 'e'] => some (.flag true)
  | ['f', 'a', 'l', 's', 'e'] => some (.flag false)
  | '-' :: cs =>
    match natural? cs with
    | some (n + 1) => some (.whole (.negSucc n))
    | _ => none
  | cs => (natural? cs).map fun (n : ℕ) => .whole n

/-- Cuts a text into tokens. -/
def tokens : List Char → Option (List Token)
  | [] => some []
  | c :: cs =>
    if isBlank c then tokens cs
    else if c = '\x22' then
      match _h : readQuoted cs with
      | some (es, rest) => (tokens rest).map (.single (.text (String.ofList es)) :: ·)
      | none => none
    else
      match mark? c with
      | some t => (tokens cs).map (t :: ·)
      | none =>
        (word? (c :: cs.takeWhile isWordChar)).bind fun v =>
          (tokens (cs.dropWhile isWordChar)).map (.single v :: ·)
termination_by cs => cs.length
decreasing_by
  · simp
  · have := readQuoted_length _h
    simp only [List.length_cons]
    omega
  · simp
  · have := Toml.dropWhile_length_le isWordChar cs
    simp only [List.length_cons]
    omega

mutual

def tokensOf : Value → List Token
  | .list items => .openList :: (itemTokens items ++ [.closeList])
  | .record fields => .openRecord :: (fieldTokens fields ++ [.closeRecord])
  | v => [.single v]

def itemTokens : List Value → List Token
  | [] => []
  | [v] => tokensOf v
  | v :: vs => tokensOf v ++ .comma :: itemTokens vs

def fieldTokens : List (String × Value) → List Token
  | [] => []
  | [(name, v)] => .single (.text name) :: .colon :: tokensOf v
  | (name, v) :: fields => .single (.text name) :: .colon :: (tokensOf v ++ .comma :: fieldTokens fields)

end

/-! ## Putting tokens together -/

mutual

def readValue : ℕ → List Token → Option (Value × List Token)
  | _ + 1, .single v :: ts => some (v, ts)
  | _ + 1, .openList :: .closeList :: ts => some (.list [], ts)
  | fuel + 1, .openList :: ts => (readItems fuel ts).map fun (items, rest) => (.list items, rest)
  | _ + 1, .openRecord :: .closeRecord :: ts => some (.record [], ts)
  | fuel + 1, .openRecord :: ts => (readFields fuel ts).map fun (fields, rest) => (.record fields, rest)
  | _, _ => none

/-- Reads the elements of a list up to its end, one at least. -/
def readItems : ℕ → List Token → Option (List Value × List Token)
  | fuel + 1, ts =>
    match readValue fuel ts with
    | some (v, .comma :: rest) => (readItems fuel rest).map fun (vs, behind) => (v :: vs, behind)
    | some (v, .closeList :: rest) => some ([v], rest)
    | _ => none
  | 0, _ => none

/-- Reads the fields of a record up to its end, one at least. -/
def readFields : ℕ → List Token → Option (List (String × Value) × List Token)
  | fuel + 1, .single (.text name) :: .colon :: ts =>
    match readValue fuel ts with
    | some (v, .comma :: rest) => (readFields fuel rest).map fun (fields, behind) => ((name, v) :: fields, behind)
    | some (v, .closeRecord :: rest) => some ([(name, v)], rest)
    | _ => none
  | _, _ => none

end

def read (s : String) : Except Unit Value :=
  match tokens s.toList with
  | none => .error ()
  | some ts =>
    -- each step takes a token at least
    match readValue ts.length ts with
    | some (v, []) => .ok v
    | _ => .error ()

/-- Values without other numbers than whole ones. -/
inductive Plain : Value → Prop
  | null : Plain .null
  | flag (b : Bool) : Plain (.flag b)
  | whole (n : ℤ) : Plain (.whole n)
  | text (s : String) : Plain (.text s)
  | list {items : List Value} (elements : ∀ v ∈ items, Plain v) : Plain (.list items)
  | record {fields : List (String × Value)} (values : ∀ f ∈ fields, Plain f.2) : Plain (.record fields)

attribute [simp] Plain.null Plain.flag Plain.whole Plain.text

@[simp] theorem plain_list {items : List Value} : Plain (.list items) ↔ ∀ v ∈ items, Plain v :=
  ⟨fun | .list elements => elements, .list⟩

@[simp] theorem plain_record {fields : List (String × Value)} : Plain (.record fields) ↔ ∀ f ∈ fields, Plain f.2 :=
  ⟨fun | .record values => values, .record⟩

/-! ## The tokens of a printed value -/

/-- A text that does not go on with a word. -/
def Stops (cs : List Char) : Prop :=
  ∀ c ∈ cs.head?, isWordChar c = false

section
variable {cs rest : List Char} {ts us : List Token} {c : Char}

theorem tokens_blank (h : isBlank c) : tokens (c :: cs) = tokens cs := by
  rw [tokens, if_pos h]

theorem tokens_mark {t : Token} (h : mark? c = some t) (hcs : tokens cs = some ts) :
    tokens (c :: cs) = some (t :: ts) := by
  have hother : isBlank c = false ∧ c ≠ '\x22' := by
    unfold mark? at h
    split at h <;> first | decide | cases h
  rw [tokens, if_neg (by simp [hother.1]), if_neg hother.2, h, hcs]
  rfl

theorem tokens_quoteText (s : String) (hrest : tokens rest = some ts) :
    tokens ((quoteText s).toList ++ rest) = some (.single (.text s) :: ts) := by
  have hread := readQuoted_printed s.toList rest
  rw [quoteText, String.toList_ofList, List.cons_append, List.cons_append, List.append_assoc, List.singleton_append,
    tokens, if_neg (by decide), if_pos rfl]
  split
  · rename_i es behind hsome
    cases hread.symm.trans hsome
    rw [hrest, String.ofList_toList]
    rfl
  · rename_i hnone
    cases hread.symm.trans hnone

theorem stops_cons (h : isWordChar c = false) : Stops (c :: cs) := by
  rintro d ⟨⟩
  exact h

theorem Stops.takeWhile_eq_nil (h : Stops rest) : rest.takeWhile isWordChar = [] := by
  cases rest with
  | nil => rfl
  | cons d rest => exact List.takeWhile_cons_of_neg (by simp [h d rfl])

theorem Stops.dropWhile_eq_self (h : Stops rest) : rest.dropWhile isWordChar = rest := by
  cases rest with
  | nil => rfl
  | cons d rest => exact List.dropWhile_cons_of_neg (by simp [h d rfl])

theorem isWordChar_apart (h : isWordChar c) : isBlank c = false ∧ c ≠ '\x22' ∧ mark? c = none := by
  refine ⟨?_, ?_, ?_⟩
  · by_contra hblank
    simp only [isBlank, Bool.not_eq_false, Bool.or_eq_true, beq_iff_eq] at hblank
    rcases hblank with ((rfl | rfl) | rfl) | rfl <;> revert h <;> decide
  · rintro rfl
    revert h
    decide
  · unfold mark?
    split <;> first | rfl | (revert h; decide)

/-- A word is cut off where it stops. -/
theorem tokens_word {word : List Char} {v : Value} (hne : word ≠ []) (hword : word? word = some v)
    (hchars : word.all isWordChar = true) (hstop : Stops rest) (hrest : tokens rest = some ts) :
    tokens (word ++ rest) = some (.single v :: ts) := by
  cases word with
  | nil => exact absurd rfl hne
  | cons c cs =>
    obtain ⟨hc, hcs⟩ := List.forall_mem_cons.1 (List.all_eq_true.1 hchars)
    obtain ⟨hblank, hquote, hmark⟩ := isWordChar_apart hc
    rw [List.cons_append, tokens, if_neg (by simp [hblank]), if_neg hquote, hmark, List.takeWhile_append_of_pos hcs,
      List.dropWhile_append_of_pos hcs, hstop.takeWhile_eq_nil, hstop.dropWhile_eq_self, List.append_nil]
    simp only [hword, hrest]
    rfl

theorem toList_lineStart (level : ℕ) : (lineStart level).toList = '\n' :: List.replicate (2 * level) ' ' := by
  simp [lineStart]

theorem tokens_lineStart (level : ℕ) : tokens ((lineStart level).toList ++ rest) = tokens rest := by
  have hblanks (n : ℕ) : tokens (List.replicate n ' ' ++ rest) = tokens rest := by
    induction n with
    | zero => rfl
    | succ n ih => rw [List.replicate_succ, List.cons_append, tokens_blank (by decide), ih]
  rw [toList_lineStart, List.cons_append, tokens_blank (by decide), hblanks]

theorem stops_lineStart (level : ℕ) : Stops ((lineStart level).toList ++ rest) := by
  rw [toList_lineStart]
  exact stops_cons (by decide)

end

/-! ## Numbers -/

section
variable {n : ℕ} {c : Char}

theorem natural?_digits (n : ℕ) : natural? (Text.digits 10 n) = some n := by
  have hread : Text.readDigits 10 (Text.digits 10 n) = some n :=
    Text.readDigits_eq_some_iff.2 ⟨.printed (by decide) (by decide) n, rfl, Text.Numeral.value_printed _ _ n⟩
  simp [natural?, hread]

theorem isDigit_of_mem (hc : c ∈ Text.digits 10 n) : Text.IsDigit 10 c :=
  Text.isDigit_of_mem_digits (by decide) (by decide) n c hc

theorem isWordChar_of_mem (hc : c ∈ Text.digits 10 n) : isWordChar c := by
  have hall : ∀ n < 128, Text.IsDigit 10 (Char.ofNat n) → isWordChar (Char.ofNat n) := by decide
  have hdigit := isDigit_of_mem hc
  exact Text.forall_ascii (P := fun c => Text.IsDigit 10 c → isWordChar c) hall hdigit.lt hdigit

theorem toList_ofNat (n : ℕ) : (wholeText (.ofNat n)).toList = Text.digits 10 n := by
  simp [wholeText, Text.decimal]

theorem toList_negSucc (n : ℕ) : (wholeText (.negSucc n)).toList = '-' :: Text.digits 10 (n + 1) := by
  simp [wholeText, Text.decimal]

/-- **A whole number is a word that is read as that number.** -/
theorem word?_wholeText (n : ℤ) : word? (wholeText n).toList = some (.whole n) := by
  cases n with
  | ofNat n =>
    have hfirst {c : Char} {cs : List Char} (heq : Text.digits 10 n = c :: cs) : Text.IsDigit 10 c :=
      isDigit_of_mem (heq ▸ List.mem_cons_self)
    rw [toList_ofNat]
    unfold word?
    split
    case h_5 =>
      rw [natural?_digits]
      rfl
    -- no word begins with a digit
    all_goals
      rename_i heq
      exact absurd (hfirst heq) (by decide)
  | negSucc n => rw [toList_negSucc, word?, natural?_digits]

theorem isWordChar_of_mem_wholeText {n : ℤ} (hc : c ∈ (wholeText n).toList) : isWordChar c := by
  cases n with
  | ofNat n =>
    rw [toList_ofNat] at hc
    exact isWordChar_of_mem hc
  | negSucc n =>
    rw [toList_negSucc] at hc
    rcases List.mem_cons.1 hc with rfl | hdigit
    · decide
    · exact isWordChar_of_mem hdigit

theorem wholeText_ne_nil (n : ℤ) : (wholeText n).toList ≠ [] := by
  cases n with
  | ofNat n =>
    rw [toList_ofNat]
    exact Text.digits_ne_nil n
  | negSucc n => simp [toList_negSucc]

end

/-! ## Printing and reading -/

/-- The text of a value is cut into its tokens, wherever it stands. -/
def Cut (v : Value) : Prop :=
  ∀ (level : ℕ) {rest : List Char} {ts : List Token}, Stops rest → tokens rest = some ts →
    tokens ((render level v).toList ++ rest) = some (tokensOf v ++ ts)

section
variable {rest : List Char} {ts : List Token}

theorem tokens_renderItems {items : List Value} (h : ∀ v ∈ items, Cut v) (level : ℕ) (hstop : Stops rest)
    (hrest : tokens rest = some ts) :
    tokens ((",".intercalate (renderItems level items)).toList ++ rest) = some (itemTokens items ++ ts) := by
  induction items with
  | nil => simpa [renderItems, itemTokens] using hrest
  | cons v items ih =>
    obtain ⟨hv, hitems⟩ := List.forall_mem_cons.1 h
    cases items with
    | nil =>
      rw [renderItems, renderItems, String.intercalate_singleton, String.toList_append, List.append_assoc,
        tokens_lineStart, hv level hstop hrest, itemTokens]
    | cons w items =>
      have hmore := tokens_mark (rfl : mark? ',' = some .comma) (ih hitems)
      have hsplit : (",".intercalate (renderItems level (v :: w :: items))).toList ++ rest =
          (lineStart level).toList ++ ((render level v).toList ++
            ',' :: ((",".intercalate (renderItems level (w :: items))).toList ++ rest)) := by
        simp [renderItems]
      rw [hsplit, tokens_lineStart, hv level (stops_cons (by decide)) hmore]
      simp [itemTokens]

theorem tokens_renderFields {fields : List (String × Value)} (h : ∀ f ∈ fields, Cut f.2) (level : ℕ)
    (hstop : Stops rest) (hrest : tokens rest = some ts) :
    tokens ((",".intercalate (renderFields level fields)).toList ++ rest) = some (fieldTokens fields ++ ts) := by
  induction fields with
  | nil => simpa [renderFields, fieldTokens] using hrest
  | cons f fields ih =>
    obtain ⟨name, v⟩ := f
    obtain ⟨hv, hfields⟩ := List.forall_mem_cons.1 h
    have hnamed {behind : List Char} {us : List Token} (hus : tokens behind = some us) :
        tokens ((quoteText name).toList ++ ':' :: ' ' :: behind) = some (.single (.text name) :: .colon :: us) := by
      have hblank : tokens (' ' :: behind) = some us := by rw [tokens_blank (by decide), hus]
      exact tokens_quoteText name (tokens_mark rfl hblank)
    cases fields with
    | nil =>
      have hsplit : (",".intercalate (renderFields level [(name, v)])).toList ++ rest =
          (lineStart level).toList ++ ((quoteText name).toList ++ ':' :: ' ' :: ((render level v).toList ++ rest)) := by
        simp [renderFields]
      rw [hsplit, tokens_lineStart, hnamed (hv level hstop hrest)]
      simp [fieldTokens]
    | cons g fields =>
      have hmore := tokens_mark (rfl : mark? ',' = some .comma) (ih hfields)
      have hsplit : (",".intercalate (renderFields level ((name, v) :: g :: fields))).toList ++ rest =
          (lineStart level).toList ++ ((quoteText name).toList ++ ':' :: ' ' :: ((render level v).toList ++
            ',' :: ((",".intercalate (renderFields level (g :: fields))).toList ++ rest))) := by
        simp [renderFields]
      rw [hsplit, tokens_lineStart, hnamed (hv level (stops_cons (by decide)) hmore)]
      simp [fieldTokens]

end

/-- **The text of a value is cut into the tokens of that value.** -/
theorem Plain.cut {v : Value} (h : Plain v) : Cut v := by
  induction h with
  | null =>
    intro level rest ts hstop hrest
    rw [render]
    exact tokens_word (by decide) rfl rfl hstop hrest
  | flag b =>
    intro level rest ts hstop hrest
    cases b with
    | false =>
      rw [render]
      exact tokens_word (by decide) rfl rfl hstop hrest
    | true =>
      rw [render]
      exact tokens_word (by decide) rfl rfl hstop hrest
  | whole n =>
    intro level rest ts hstop hrest
    rw [render]
    have hchars : (wholeText n).toList.all isWordChar = true :=
      List.all_eq_true.2 fun _ hc => isWordChar_of_mem_wholeText hc
    exact tokens_word (wholeText_ne_nil n) (word?_wholeText n) hchars hstop hrest
  | text s =>
    intro level rest ts hstop hrest
    rw [render]
    exact tokens_quoteText s hrest
  | @list items elements ih =>
    intro level rest ts hstop hrest
    have hclose := tokens_mark (rfl : mark? ']' = some .closeList) hrest
    cases items with
    | nil =>
      rw [render]
      exact tokens_mark (rfl : mark? '[' = some .openList) hclose
    | cons v items =>
      have hlines : tokens ((lineStart level).toList ++ ']' :: rest) = some (.closeList :: ts) := by
        rw [tokens_lineStart, hclose]
      have hitems := tokens_renderItems ih (level + 1) (stops_lineStart level) hlines
      have hsplit : (render level (.list (v :: items))).toList ++ rest =
          '[' :: ((",".intercalate (renderItems (level + 1) (v :: items))).toList ++
            ((lineStart level).toList ++ ']' :: rest)) := by
        simp [render]
      rw [hsplit, tokens_mark (rfl : mark? '[' = some .openList) hitems]
      simp [tokensOf]
  | @record fields values ih =>
    intro level rest ts hstop hrest
    have hclose := tokens_mark (rfl : mark? '\x7d' = some .closeRecord) hrest
    cases fields with
    | nil =>
      rw [render]
      exact tokens_mark (rfl : mark? '\x7b' = some .openRecord) hclose
    | cons f fields =>
      have hlines : tokens ((lineStart level).toList ++ '\x7d' :: rest) = some (.closeRecord :: ts) := by
        rw [tokens_lineStart, hclose]
      have hfields := tokens_renderFields ih (level + 1) (stops_lineStart level) hlines
      have hsplit : (render level (.record (f :: fields))).toList ++ rest =
          '\x7b' :: ((",".intercalate (renderFields (level + 1) (f :: fields))).toList ++
            ((lineStart level).toList ++ '\x7d' :: rest)) := by
        simp [render]
      rw [hsplit, tokens_mark (rfl : mark? '\x7b' = some .openRecord) hfields]
      simp [tokensOf]

/-- A value is put together from its tokens, whatever stands behind them. -/
def Joined (v : Value) : Prop :=
  ∀ {fuel : ℕ} {ts : List Token}, (tokensOf v).length ≤ fuel → readValue fuel (tokensOf v ++ ts) = some (v, ts)

section
variable {fuel : ℕ} {ts rest : List Token}

/-- The first element of a list that is read is not its end. -/
theorem readValue_openList {items : List Value} (h : readItems fuel ts = some (items, rest)) :
    readValue (fuel + 1) (.openList :: ts) = some (.list items, rest) := by
  have hfirst : ∀ us, ts = .closeList :: us → False := by
    rintro us rfl
    cases fuel <;> simp [readItems, readValue] at h
  rw [readValue]
  · rw [h]
    rfl
  · exact hfirst

theorem readValue_openRecord {fields : List (String × Value)} (h : readFields fuel ts = some (fields, rest)) :
    readValue (fuel + 1) (.openRecord :: ts) = some (.record fields, rest) := by
  have hfirst : ∀ us, ts = .closeRecord :: us → False := by
    rintro us rfl
    cases fuel <;> simp [readFields] at h
  rw [readValue]
  · rw [h]
    rfl
  · exact hfirst

theorem readItems_itemTokens {v : Value} {items : List Value} (h : ∀ w ∈ v :: items, Joined w)
    (hfuel : (itemTokens (v :: items)).length < fuel) :
    readItems fuel (itemTokens (v :: items) ++ .closeList :: ts) = some (v :: items, ts) := by
  induction items generalizing v fuel with
  | nil =>
    obtain ⟨fuel, rfl⟩ := Nat.exists_eq_succ_of_ne_zero (Nat.ne_zero_of_lt hfuel)
    simp only [itemTokens] at hfuel ⊢
    rw [readItems, h v List.mem_cons_self (by omega)]
  | cons w items ih =>
    obtain ⟨fuel, rfl⟩ := Nat.exists_eq_succ_of_ne_zero (Nat.ne_zero_of_lt hfuel)
    obtain ⟨hv, hitems⟩ := List.forall_mem_cons.1 h
    simp only [itemTokens, List.length_append, List.length_cons] at hfuel ⊢
    rw [List.append_assoc, List.cons_append, readItems, hv (by omega)]
    dsimp only
    rw [ih hitems (by omega)]
    rfl

theorem readFields_fieldTokens {f : String × Value} {fields : List (String × Value)}
    (h : ∀ g ∈ f :: fields, Joined g.2) (hfuel : (fieldTokens (f :: fields)).length < fuel) :
    readFields fuel (fieldTokens (f :: fields) ++ .closeRecord :: ts) = some (f :: fields, ts) := by
  induction fields generalizing f fuel with
  | nil =>
    obtain ⟨fuel, rfl⟩ := Nat.exists_eq_succ_of_ne_zero (Nat.ne_zero_of_lt hfuel)
    simp only [fieldTokens, List.length_cons] at hfuel ⊢
    rw [List.cons_append, List.cons_append, readFields, h f List.mem_cons_self (by omega)]
  | cons g fields ih =>
    obtain ⟨fuel, rfl⟩ := Nat.exists_eq_succ_of_ne_zero (Nat.ne_zero_of_lt hfuel)
    obtain ⟨hf, hfields⟩ := List.forall_mem_cons.1 h
    simp only [fieldTokens, List.length_append, List.length_cons] at hfuel ⊢
    rw [List.cons_append, List.cons_append, List.append_assoc, List.cons_append, readFields, hf (by omega)]
    dsimp only
    rw [ih hfields (by omega)]
    rfl

end

/-- **The tokens of a value are put together to that value.** -/
theorem Plain.joined {v : Value} (h : Plain v) : Joined v := by
  induction h with
  | null | flag | whole | text =>
    intro fuel ts hfuel
    obtain ⟨fuel, rfl⟩ := Nat.exists_eq_succ_of_ne_zero (Nat.ne_zero_of_lt hfuel)
    rfl
  | @list items elements ih =>
    intro fuel ts hfuel
    obtain ⟨fuel, rfl⟩ := Nat.exists_eq_succ_of_ne_zero (Nat.ne_zero_of_lt hfuel)
    rw [tokensOf, List.cons_append, List.append_assoc, List.singleton_append]
    cases items with
    | nil => rfl
    | cons v items =>
      simp only [tokensOf, List.length_cons, List.length_append] at hfuel
      exact readValue_openList (readItems_itemTokens ih (by omega))
  | @record fields values ih =>
    intro fuel ts hfuel
    obtain ⟨fuel, rfl⟩ := Nat.exists_eq_succ_of_ne_zero (Nat.ne_zero_of_lt hfuel)
    rw [tokensOf, List.cons_append, List.append_assoc, List.singleton_append]
    cases fields with
    | nil => rfl
    | cons f fields =>
      simp only [tokensOf, List.length_cons, List.length_append] at hfuel
      exact readValue_openRecord (readFields_fieldTokens ih (by omega))

/-- **What is printed is read back.** -/
theorem read_text {v : Value} (h : Plain v) : read (text v) = .ok v := by
  have htokens : tokens (text v).toList = some (tokensOf v) := by
    have hend : tokens [] = some [] := by rw [tokens]
    have hstop : Stops [] := nofun
    simpa [text] using h.cut 0 hstop hend
  have hvalue : readValue (tokensOf v).length (tokensOf v ++ []) = some (v, []) := h.joined (Nat.le_refl _)
  rw [List.append_nil] at hvalue
  rw [read, htokens]
  dsimp only
  rw [hvalue]

end MarketSync.Document.Json

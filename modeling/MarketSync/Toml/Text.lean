import MarketSync.Text.Digits

/-!
# TOML: blanks, comments and quoted texts

Each reader takes the text from where it stands and returns what it read and the rest, or nothing
if the text does not follow the grammar. A quoted text is read without its opening quotes.
-/

namespace MarketSync.Toml

def isSpace (c : Char) : Bool :=
  c == ' ' || c == '\t'

def skipSpaces (cs : List Char) : List Char :=
  cs.dropWhile isSpace

/-- Characters that comments and quoted texts may hold: no control characters but the tab. -/
def isPlain (c : Char) : Bool :=
  c == '\t' || (0x20 ≤ c.toNat && c.toNat != 0x7F)

def newline? : List Char → Option (List Char)
  | '\n' :: cs => some cs
  | '\r' :: '\n' :: cs => some cs
  | _ => none

/-- What follows the end of a line, after blanks and a comment. -/
def lineEnd (cs : List Char) : Option (List Char) :=
  let rest := match skipSpaces cs with
    | '#' :: comment => comment.dropWhile isPlain
    | rest => rest
  match rest with
  | [] => some []
  | rest => newline? rest

/-- Skips blanks, line breaks and comments. -/
def skipLines : (inComment : Bool) → List Char → Option (List Char)
  | true, [] => some []
  | true, '\n' :: cs => skipLines false cs
  | true, '\r' :: '\n' :: cs => skipLines false cs
  | true, c :: cs => if isPlain c then skipLines true cs else none
  | false, '#' :: cs => skipLines true cs
  | false, '\n' :: cs => skipLines false cs
  | false, '\r' :: '\n' :: cs => skipLines false cs
  | false, ' ' :: cs => skipLines false cs
  | false, '\t' :: cs => skipLines false cs
  | false, cs => some cs

/-! ## Quoted texts -/

/-- The character that hexadecimal digits name, if there is one. -/
def scalar? (digits : List Char) : Option Char :=
  (Text.readDigits 16 digits).bind fun n => if n.isValidChar then some (Char.ofNat n) else none

def escape? : Char → Option Char
  | 'b' => some '\x08'
  | 't' => some '\t'
  | 'n' => some '\n'
  | 'f' => some '\x0c'
  | 'r' => some '\r'
  | '\x22' => some '\x22'
  | '\x5c' => some '\x5c'
  | _ => none

/-- Reads the rest of an escape, behind the backslash. -/
def readEscape : List Char → Option (Char × List Char)
  | 'u' :: a :: b :: c :: d :: cs => (scalar? [a, b, c, d]).map (·, cs)
  | 'U' :: a :: b :: c :: d :: e :: f :: g :: h :: cs =>
    (scalar? [a, b, c, d, e, f, g, h]).map (·, cs)
  | c :: cs => (escape? c).map (·, cs)
  | [] => none

theorem readEscape_length {cs rest : List Char} {c : Char} (h : readEscape cs = some (c, rest)) :
    rest.length < cs.length := by
  unfold readEscape at h
  split at h
  all_goals
    first
    | (obtain ⟨_, _, he⟩ := Option.map_eq_some_iff.1 h
       cases he
       simp only [List.length_cons]
       omega)
    | cases h

theorem dropWhile_length_le (p : Char → Bool) (cs : List Char) :
    (cs.dropWhile p).length ≤ cs.length := by
  induction cs with
  | nil => simp
  | cons c cs ih => by_cases h : p c <;> simp [h]; omega

/-- The text of a line in double quotes; `read` holds what is read so far, the last character
first. -/
def basicText (read : List Char) : List Char → Option (List Char × List Char)
  | [] => none
  | c :: cs =>
    if c = '\x22' then some (read.reverse, cs)
    else if c = '\x5c' then
      match _h : readEscape cs with
      | some (e, rest) => basicText (e :: read) rest
      | none => none
    else if isPlain c then basicText (c :: read) cs
    else none
termination_by cs => cs.length
decreasing_by
  all_goals simp only [List.length_cons]
  · have := readEscape_length _h; omega
  · omega

def literalText (read : List Char) : List Char → Option (List Char × List Char)
  | [] => none
  | c :: cs =>
    if c = '\x27' then some (read.reverse, cs)
    else if isPlain c then literalText (c :: read) cs
    else none

/-- The end of a text of several lines: three quotes, in front of which up to two belong to the
text. -/
def closing? (quote : Char) : List Char → Option (List Char × List Char)
  | a :: b :: c :: d :: e :: cs =>
    if a = quote ∧ b = quote ∧ c = quote then
      if d = quote then
        if e = quote then some ([quote, quote], cs) else some ([quote], e :: cs)
      else some ([], d :: e :: cs)
    else none
  | [a, b, c, d] =>
    if a = quote ∧ b = quote ∧ c = quote then
      if d = quote then some ([quote], []) else some ([], [d])
    else none
  | [a, b, c] => if a = quote ∧ b = quote ∧ c = quote then some ([], []) else none
  | _ => none

/-- What a backslash at the end of a line joins: blanks, a line break, and all blanks and line
breaks behind it. A carriage return stands only in front of a line feed. -/
def skipJoined : List Char → List Char
  | '\n' :: cs => skipJoined cs
  | '\r' :: '\n' :: cs => skipJoined cs
  | ' ' :: cs => skipJoined cs
  | '\t' :: cs => skipJoined cs
  | cs => cs

theorem skipJoined_length_le (cs : List Char) : (skipJoined cs).length ≤ cs.length := by
  fun_induction skipJoined cs with
  | case1 cs ih => exact Nat.le_succ_of_le ih
  | case2 cs ih => exact Nat.le_succ_of_le (Nat.le_succ_of_le ih)
  | case3 cs ih => exact Nat.le_succ_of_le ih
  | case4 cs ih => exact Nat.le_succ_of_le ih
  | case5 cs => exact Nat.le_refl _

theorem newline?_length {cs rest : List Char} (h : newline? cs = some rest) :
    rest.length < cs.length := by
  unfold newline? at h
  split at h
  · cases h; simp
  · cases h; simp only [List.length_cons]; omega
  · cases h

def basicLines (read : List Char) (cs : List Char) : Option (List Char × List Char) :=
  match closing? '\x22' cs with
  | some (quotes, rest) => some (read.reverse ++ quotes, rest)
  | none =>
    match _hn : newline? cs with
    | some rest => basicLines ('\n' :: read) rest
    | none =>
      match cs with
      | [] => none
      | c :: cs =>
        if c = '\x5c' then
          match _hj : newline? (skipSpaces cs) with
          | some rest => basicLines read (skipJoined rest)
          | none =>
            match _he : readEscape cs with
            | some (e, rest) => basicLines (e :: read) rest
            | none => none
        else if isPlain c then basicLines (c :: read) cs
        else none
termination_by cs.length
decreasing_by
  · exact newline?_length _hn
  · have h₁ := newline?_length _hj
    have h₂ := dropWhile_length_le isSpace cs
    have h₃ := skipJoined_length_le rest
    simp only [skipSpaces, List.length_cons] at *
    omega
  · have := readEscape_length _he
    simp only [List.length_cons]
    omega
  · simp

def literalLines (read : List Char) (cs : List Char) : Option (List Char × List Char) :=
  match closing? '\x27' cs with
  | some (quotes, rest) => some (read.reverse ++ quotes, rest)
  | none =>
    match _hn : newline? cs with
    | some rest => literalLines ('\n' :: read) rest
    | none =>
      match cs with
      | [] => none
      | c :: cs => if isPlain c then literalLines (c :: read) cs else none
termination_by cs.length
decreasing_by
  · exact newline?_length _hn
  · simp

def skipNewline (cs : List Char) : List Char :=
  (newline? cs).getD cs

/-- A quoted text of any kind, from its first quote on. -/
def quotedText? : List Char → Option (Option (List Char × List Char))
  | '\x22' :: '\x22' :: '\x22' :: cs => some (basicLines [] (skipNewline cs))
  | '\x22' :: cs => some (basicText [] cs)
  | '\x27' :: '\x27' :: '\x27' :: cs => some (literalLines [] (skipNewline cs))
  | '\x27' :: cs => some (literalText [] cs)
  | _ => none

end MarketSync.Toml

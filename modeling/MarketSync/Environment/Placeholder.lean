import MarketSync.Table

/-!
# Placeholders

A text may name variables as `${NAME}`, a name being an ASCII letter or underscore followed by such
characters and digits. Expansion (`expand_vars`) replaces each placeholder whose variable is set by
the variable's value and leaves everything else as it is. It goes through the text once: a value is
never expanded again.
-/

namespace MarketSync

/-- The variables of a process by name. -/
abbrev Environment := Table String String

namespace Placeholder

def isNameStart (c : Char) : Bool :=
  c.isAlpha || c == '_'

def isNameChar (c : Char) : Bool :=
  c.isAlphanum || c == '_'

/-- The name of the placeholder that a text begins with, and what follows it. -/
def read? : List Char → Option (List Char × List Char)
  | '$' :: '\x7b' :: c :: cs =>
    if isNameStart c then
      match cs.dropWhile isNameChar with
      | '\x7d' :: rest => some (c :: cs.takeWhile isNameChar, rest)
      | _ => none
    else none
  | _ => none

def write (name : List Char) : List Char :=
  '$' :: '\x7b' :: name ++ ['\x7d']

/-- A text that begins with a placeholder is the placeholder followed by the rest. -/
theorem eq_write_of_read? {cs name rest : List Char} (h : read? cs = some (name, rest)) :
    cs = write name ++ rest := by
  unfold read? at h
  split at h
  · rename_i c cs
    split at h
    · split at h
      · rename_i after hd
        cases h
        have hs := List.takeWhile_append_dropWhile (p := isNameChar) (l := cs)
        rw [hd] at hs
        simp only [write, List.cons_append, List.append_assoc, List.nil_append]
        rw [hs]
      · cases h
    · cases h
  · cases h

theorem read?_length {cs name rest : List Char} (h : read? cs = some (name, rest)) :
    rest.length < cs.length := by
  rw [eq_write_of_read? h]
  simp only [write, List.length_append, List.length_cons]
  omega

/-- What stands for a placeholder: the value of its variable, or itself if that is not set. -/
def value (env : Environment) (name : List Char) : List Char :=
  match env.get? (String.ofList name) with
  | some v => v.toList
  | none => write name

/-- Expands the placeholders of a text. -/
def expand (env : Environment) (cs : List Char) : List Char :=
  match _h : read? cs with
  | some (name, rest) => value env name ++ expand env rest
  | none =>
    match cs with
    | [] => []
    | c :: cs => c :: expand env cs
termination_by cs.length
decreasing_by
  · exact read?_length _h
  · simp

end Placeholder

end MarketSync

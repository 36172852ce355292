/-!
# Files in folders

What stands at a path. A path is walked from the left, from the folder a process is in or from the
outermost folder if the path begins with a slash, so the first part that cannot be passed decides
why there is no file. A file has no parts below it, not even itself or the folder above.
-/

namespace MarketSync

inductive FileError where
  | notFound
  | notDirectory
  | isDirectory
  | nameTooLong
  | notText
  deriving DecidableEq, Repr

def FileError.message : FileError → String
  | .notFound => "No such file or directory (os error 2)"
  | .notDirectory => "Not a directory (os error 20)"
  | .isDirectory => "Is a directory (os error 21)"
  | .nameTooLong => "File name too long (os error 36)"
  | .notText => "stream did not contain valid UTF-8"

def fileText (content : Except FileError ByteArray) : Except FileError String :=
  match content with
  | .error e => .error e
  | .ok bytes =>
    match String.fromUTF8? bytes with
    | some text => .ok text
    | none => .error .notText

/-- What stands at a path: a file, or a folder with names in it. -/
inductive Place where
  | file (content : ByteArray)
  | folder (entries : List (String × Place))

namespace Place

def maxName : Nat := 255

def maxPath : Nat := 4095

def parts (path : String) : List String :=
  path.splitOn "/"

/-- Walks along names. The folders around the place have the innermost one first; the outermost one
is around itself. -/
def walk (around : List Place) (here : Place) : List String → Except FileError Place
  | [] => .ok here
  | name :: names =>
    match here with
    | .file _ => .error .notDirectory
    | .folder entries =>
      if name = "" ∨ name = "." then walk around here names
      else if name = ".." then walk around.tail (around.head?.getD here) names
      else if maxName < name.utf8ByteSize then .error .nameTooLong
      else
        match entries.lookup name with
        | some place => walk (here :: around) place names
        | none => .error .notFound

/-- What stands at a path, for a process that is in a folder. -/
def find (around : List Place) (here : Place) (path : String) : Except FileError Place :=
  if path.isEmpty then .error .notFound
  else if maxPath < path.utf8ByteSize then .error .nameTooLong
  else
    match parts path with
    | "" :: names => walk [] (around.getLast?.getD here) names
    | names => walk around here names

/-- The content of the file at a path. -/
def read (around : List Place) (here : Place) (path : String) : Except FileError ByteArray :=
  match find around here path with
  | .ok (.file content) => .ok content
  | .ok (.folder _) => .error .isDirectory
  | .error e => .error e

end Place

end MarketSync

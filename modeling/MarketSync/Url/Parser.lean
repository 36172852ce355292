import MarketSync.Url.Host

/-!
# Addresses of resources

Scheme, host and port of an absolute address. Blanks and controls around the text and line breaks
inside it do not count. Web schemes need a host, whatever the number of slashes in front of it; an
address of another scheme has one only behind two slashes.
-/

namespace MarketSync

/-- What of an address is needed to reach the resource. -/
structure Url where
  scheme : String
  host : Option Host
  /-- The port that is given, or else the one that belongs to the scheme. -/
  port : Option Nat

namespace Url

/-- The kinds of schemes, which differ in how hosts are read. -/
inductive SchemeKind where
  | web
  | file
  | other
  deriving DecidableEq, Repr

def schemeKind (scheme : String) : SchemeKind :=
  if ["http", "https", "ws", "wss", "ftp"].contains scheme then .web
  else if scheme == "file" then .file
  else .other

def defaultPort (scheme : String) : Option Nat :=
  match scheme with
  | "http" | "ws" => some 80
  | "https" | "wss" => some 443
  | "ftp" => some 21
  | _ => none

/-- The characters of a text that count. -/
def significant (text : String) : List Char :=
  let around (c : Char) : Bool := c.toNat ≤ 0x20
  let trimmed := ((text.toList.dropWhile around).reverse.dropWhile around).reverse
  trimmed.filter fun c => !(c == '\t' || c == '\n' || c == '\x0d')

/-- The scheme in small letters, and what follows its colon. -/
def splitScheme (cs : List Char) : Option (String × List Char) :=
  let isPart (c : Char) : Bool := c.isAlphanum || c == '+' || c == '-' || c == '.'
  match cs with
  | [] => none
  | c :: _ =>
    if c.isAlpha then
      match cs.dropWhile isPart with
      | ':' :: rest => some (String.ofList ((cs.takeWhile isPart).map Char.toLower), rest)
      | _ => none
    else none

/-! ## The part with the host -/

/-- Characters behind the part with the host. A backslash is one in web addresses. -/
def endsAuthority (kind : SchemeKind) (c : Char) : Bool :=
  c == '/' || c == '?' || c == '#' || (kind == .web && c == '\x5c')

/-- The text in front of the last at sign before the end of the part, and what follows the sign. -/
def splitUser (kind : SchemeKind) (cs : List Char) : Option (List Char) × List Char :=
  let within := cs.takeWhile fun c => !endsAuthority kind c
  let behind := cs.dropWhile fun c => !endsAuthority kind c
  match Text.splitFirst (· == '@') within.reverse with
  | none => (none, cs)
  | some (host, user) => (some user.reverse, host.reverse ++ behind)

/-- The text of the host, which ends at a colon outside brackets, and what follows it. -/
def splitHost (kind : SchemeKind) (bracketed : Bool) : List Char → List Char × List Char
  | [] => ([], [])
  | c :: cs =>
    if (c == ':' && !bracketed) || endsAuthority kind c then ([], c :: cs)
    else
      let bracketed := c == '[' || (bracketed && c != ']')
      let (host, rest) := splitHost kind bracketed cs
      (c :: host, rest)

/-- The number behind a colon; a colon without digits gives none. -/
def readPort (sofar : Option Nat) : List Char → Except UrlError (Option Nat)
  | [] => .ok sofar
  | c :: cs =>
    match Text.digitIn 10 c with
    | some d =>
      let n := sofar.getD 0 * 10 + d
      if n < UInt16.size then readPort (some n) cs else .error .portNumber
    | none => if "/\x5c?#".contains c then .ok sofar else .error .portNumber

def portAfter : List Char → Except UrlError (Option Nat)
  | ':' :: cs => readPort none cs
  | _ => .ok none

/-- Whether there is a user. A lone colon is an empty name with an empty password. -/
def hasUser : Option (List Char) → Bool
  | none | some [] | some [':'] => false
  | some _ => true

/-- Reads the host of a web address, or an opaque one. -/
def readHost (kind : SchemeKind) (cs : List Char) : Except UrlError Host :=
  match kind with
  | .other => Host.parseOpaque cs
  | _ => if cs.isEmpty then .error .emptyHost else Host.parse cs

/-- Reads what follows the two slashes. An empty host may have neither a user nor a port. -/
def readAuthority (scheme : String) (kind : SchemeKind) (cs : List Char) : Except UrlError Url :=
  let (user, rest) := splitUser kind cs
  if user = some [] ∧ rest.head?.any (endsAuthority kind) then .error .emptyHost
  else
    let (hostText, rest) := splitHost kind false rest
    match readHost kind hostText with
    | .error e => .error e
    | .ok host =>
      if host.isEmpty ∧ rest.head? = some ':' then .error .emptyHost
      else
        match portAfter rest with
        | .error e => .error e
        | .ok port =>
          if host.isEmpty && hasUser user then .error .emptyHost
          else
            .ok ⟨scheme, if host.isEmpty then none else some host, port.or (defaultPort scheme)⟩

/-! ## Files -/

def isDrive : List Char → Bool
  | [letter, mark] => letter.isAlpha && (mark == ':' || mark == '|')
  | _ => false

def isSlash (c : Char) : Bool :=
  c == '/' || c == '\x5c'

def endsPath (c : Char) : Bool :=
  c == '?' || c == '#'

def pathParts (cs : List Char) : List (List Char) :=
  let path := cs.takeWhile fun c => !endsPath c
  (Text.pieces '/' (path.map fun c => if isSlash c then '/' else c)).drop 1

/-- Whether a part of a path is one of some texts, in either case. -/
def isOneOf (texts : List String) (part : List Char) : Bool :=
  texts.contains (String.ofList (part.map Char.toLower))

def isHere : List Char → Bool :=
  isOneOf [".", "%2e"]

def isAbove : List Char → Bool :=
  isOneOf ["..", ".%2e", "%2e.", "%2e%2e"]

/-- Whether a path comes to a drive where it is in no folder. The folders it is in have the innermost
one first; one that is named like a drive is never left. -/
def reachesDrive (folders : List (List Char)) : List (List Char) → Bool
  | [] => false
  | p :: ps =>
    if isAbove p then
      reachesDrive (if folders.head?.any isDrive then folders else folders.tail) ps
    else if isHere p then reachesDrive folders ps
    else folders.isEmpty && isDrive p || reachesDrive (p :: folders) ps

/-- Reads what follows the two slashes of a file address. The computer itself is no host, and
neither is any computer for a file on a drive. -/
def readFileHost (cs : List Char) : Except UrlError Url :=
  let isPart (c : Char) : Bool := !(isSlash c || endsPath c)
  let none : Url := ⟨"file", none, none⟩
  let hostText := cs.takeWhile isPart
  if hostText.isEmpty || isDrive hostText then .ok none
  else
    match Host.parse hostText with
    | .error e => .error e
    | .ok (.domain "localhost") => .ok none
    | .ok host =>
      .ok (if reachesDrive [] (pathParts (cs.dropWhile isPart)) then none
        else ⟨"file", some host, .none⟩)

/-! ## Reading -/

def parse (text : String) : Except UrlError Url :=
  match splitScheme (significant text) with
  | none => .error .relative
  | some (scheme, rest) =>
    match schemeKind scheme with
    | .web => readAuthority scheme .web (rest.dropWhile isSlash)
    | .file =>
      match rest with
      | a :: b :: cs =>
        if isSlash a && isSlash b then readFileHost cs else .ok ⟨scheme, none, none⟩
      | _ => .ok ⟨scheme, none, none⟩
    | .other =>
      match rest with
      | '/' :: '/' :: cs => readAuthority scheme .other cs
      | _ => .ok ⟨scheme, none, none⟩

end Url

end MarketSync

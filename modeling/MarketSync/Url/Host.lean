import MarketSync.Url.Domain
import MarketSync.Url.Ipv4
import MarketSync.Url.Ipv6

/-!
# Hosts

The host of an address: a domain name, or a network address of four or of sixteen bytes. A host in
brackets is of sixteen bytes, and a domain name whose last part is a number is of four. Schemes of
other than web and file addresses have opaque hosts, which are taken as they are written.
-/

namespace MarketSync

inductive UrlError where
  | relative
  | emptyHost
  | domainName
  | portNumber
  | ipv4
  | ipv6
  | domainCharacter
  deriving DecidableEq, Repr

def UrlError.message : UrlError → String
  | .relative => "relative URL without a base"
  | .emptyHost => "empty host"
  | .domainName => "invalid international domain name"
  | .portNumber => "invalid port number"
  | .ipv4 => "invalid IPv4 address"
  | .ipv6 => "invalid IPv6 address"
  | .domainCharacter => "invalid domain character"

inductive Host where
  | domain (name : String)
  | ipv4 (address : Ipv4)
  | ipv6 (address : Ipv6)

namespace Host

/-- The host as text, with brackets around an address of sixteen bytes. -/
def text : Host → String
  | .domain name => name
  | .ipv4 address => address.text
  | .ipv6 address => "[" ++ address.text ++ "]"

/-- A host that begins with a bracket. -/
def readBracketed (rest : List Char) : Except UrlError Host :=
  if rest.getLast? = some ']' then
    match Ipv6.parse rest.dropLast with
    | some address => .ok (.ipv6 address)
    | none => .error .ipv6
  else .error .ipv6

/-- Reads the host of a web or file address. -/
def parse : List Char → Except UrlError Host
  | '[' :: rest => readBracketed rest
  | cs =>
    match Domain.toAscii (Bytes.ofText (String.ofList cs)) with
    | none => .error .domainName
    | some [] => .error .emptyHost
    | some name =>
      if Ipv4.endsInNumber name then
        match Ipv4.parse name with
        | some address => .ok (.ipv4 address)
        | none => .error .ipv4
      else .ok (.domain (String.ofList name))

/-- Characters that no opaque host may contain. -/
def isForbiddenOpaque (c : Char) : Bool :=
  "\x00\t\n\x0d #/:<>?@[\x5c]^|".contains c

/-- Reads an opaque host; it may be empty. -/
def parseOpaque : List Char → Except UrlError Host
  | '[' :: rest => readBracketed rest
  | cs =>
    if cs.any isForbiddenOpaque then .error .domainCharacter
    else
      let bytes := Bytes.ofText (String.ofList cs)
      .ok (.domain (String.ofList (bytes.flatMap Domain.escapeByte)))

def isEmpty : Host → Bool
  | .domain name => name.isEmpty
  | _ => false

end Host

end MarketSync

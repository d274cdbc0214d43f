import BlobDisk.Net.Address
import BlobDisk.Url.Domain
import BlobDisk.Url.Percent

/-!
# Hosts in addresses

* `Url.Fault`: why a text is no address;
* `Host.parse`: the host of an address of the web, a name or a number;
* `Host.parseOpaque`: the host of any other address.
-/

namespace BlobDisk

/-- Why a text is no address. -/
inductive Url.Fault
  | emptyHost
  | badDomain
  | badPort
  | badIpv4
  | badIpv6
  | badDomainCharacter
  | relative
deriving DecidableEq, Repr

/-- The text that reports the fault. -/
def Url.Fault.message : Url.Fault → String
  | emptyHost => "empty host"
  | badDomain => "invalid international domain name"
  | badPort => "invalid port number"
  | badIpv4 => "invalid IPv4 address"
  | badIpv6 => "invalid IPv6 address"
  | badDomainCharacter => "invalid domain character"
  | relative => "relative URL without a base"

/-- A host: a name, or an address. -/
inductive Host
  | domain (text : String)
  | address (ip : IpAddress)
deriving DecidableEq, Repr

namespace Host

/-- The host as it stands in an address. -/
def text : Host → String
  | domain t => t
  | address (.v4 a b c d) => (IpAddress.v4 a b c d).text
  | address (.v6 groups) => "[" ++ (IpAddress.v6 groups).text ++ "]"

/-- A number in base eight, ten or sixteen; `some none` is a number of more than 32 bits. -/
def number? (part : List Char) : Option (Option Nat) :=
  let read (base : Nat) (body : List Char) : Option (Option Nat) :=
    let (ns, after) := IpAddress.digits base body
    let n := IpAddress.ofDigits base ns
    if after ≠ [] then none else if n < 0x100000000 then some (some n) else some none
  match part with
  | [] => none
  | '0' :: 'x' :: body => read 16 body
  | '0' :: 'X' :: body => read 16 body
  | '0' :: d :: body => read 8 (d :: body)
  | body => read 10 body

/-- The parts between full stops, without an empty last one. -/
def parts (name : List Char) : List (List Char) :=
  let all := Pieces.split '.' name
  if all.getLast? = some [] then all.dropLast else all

/-- Whether the last part of a name is a number, so that the name has to be an address. -/
def endsInNumber (name : List Char) : Bool :=
  match (parts name).getLast? with
  | some last => (last ≠ [] && last.all Char.isDigit) || (number? last).isSome
  | none => false

/-- The address that a name of numbers denotes. -/
def ipv4? (name : List Char) : Option IpAddress := do
  let numbers ← (parts name).mapM fun part => (number? part).join
  let last ← numbers.getLast?
  let front := numbers.dropLast
  if 3 < front.length ∨ Nat.pow 2 (32 - 8 * front.length) ≤ last ∨ front.any (255 < ·) then none
  else
    let high := front.foldl (fun (acc : Nat × Nat) n => (acc.1 + n * Nat.pow 2 acc.2, acc.2 - 8)) (0, 24)
    some (IpAddress.ofBits (high.1 + last))

/-- The address of version 6 between brackets. -/
def bracketed (text : List Char) : Except Url.Fault Host :=
  if text.getLast? = some ']' then
    match IpAddress.parseV6? (text.drop 1).dropLast with
    | some ip => .ok (.address ip)
    | none => .error .badIpv6
  else .error .badIpv6

/-- The host of an address of the web. -/
def parse (text : List Char) : Except Url.Fault Host :=
  if text.head? = some '[' then bracketed text
  else
    match Domain.ascii? (Utf8.decodeLossy (Percent.decode text)) with
    | none => .error .badDomain
    | some [] => .error .emptyHost
    | some name =>
      if endsInNumber name then
        match ipv4? name with
        | some ip => .ok (.address ip)
        | none => .error .badIpv4
      else .ok (.domain (String.ofList name))

/-- The host of an address of another scheme, whose meaning is not known. -/
def parseOpaque (text : List Char) : Except Url.Fault Host :=
  if text.head? = some '[' then bracketed text
  else if text.any fun c => c = '\x00' || " #/:<>?@[\\]^|".toList.contains c then
    .error .badDomainCharacter
  else .ok (.domain (String.ofList (Percent.encode Percent.isControl text)))

end Host

end BlobDisk

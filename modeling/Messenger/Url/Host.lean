import Messenger.Text.Percent
import Messenger.Text.Utf8
import Messenger.Url.Ipv4
import Messenger.Url.Ipv6

set_option autoImplicit false

/-! # Hosts

The host of a web address is a domain name or an address of one of two versions. A name is decoded
from percent-encoding and brought into ASCII before it is looked at, so a host has one form however
it was written. -/

namespace Messenger.Url

/-- Why a text is no absolute address. -/
inductive Fault where
  /-- There is no scheme, and nothing to be relative to. -/
  | relative
  | emptyHost
  | invalidDomain
  | invalidPort
  | invalidIpv4
  | invalidIpv6
  /-- The host of an address of an unknown scheme holds a character that separates parts. -/
  | invalidCharacter
deriving DecidableEq, Repr

/-- The wording of a fault. -/
def Fault.message : Fault → String
  | .relative => "relative URL without a base"
  | .emptyHost => "empty host"
  | .invalidDomain => "invalid international domain name"
  | .invalidPort => "invalid port number"
  | .invalidIpv4 => "invalid IPv4 address"
  | .invalidIpv6 => "invalid IPv6 address"
  | .invalidCharacter => "invalid domain character"

/-- A host. -/
inductive Host where
  | domain (name : List Char)
  | ipv4 (address : Ipv4)
  | ipv6 (address : Ipv6)
deriving DecidableEq, Repr

/-- The value, or a fault. -/
def orFault {α : Type} (fault : Fault) : Option α → Except Fault α
  | some a => .ok a
  | none => .error fault

namespace Host

/-- The host in brackets that a text is, if it begins with one. -/
def bracketed? (cs : List Char) : Option (Except Fault Host) :=
  match cs with
  | '[' :: cs => some <|
    if cs.getLast? = some ']' then (orFault .invalidIpv6 (Ipv6.parse? cs.dropLast)).map .ipv6
    else .error .invalidIpv6
  | _ => none

/-- The host that a text of a web address is. -/
def parse (cs : List Char) : Except Fault Host :=
  match bracketed? cs with
  | some h => h
  | none => do
    let decoded ← orFault .invalidDomain
      (Text.ofUtf8? (Text.Percent.decode (cs.flatMap Text.utf8Char)))
    let name ← orFault .invalidDomain (Domain.toAscii? decoded.toList)
    if name.isEmpty then .error .emptyHost
    if Ipv4.endsInNumber name then (orFault .invalidIpv4 (Ipv4.parse? name)).map .ipv4
    else .ok (.domain name)

/-- The characters that no host of an address of an unknown scheme holds. -/
def separators : List Char := "\x00\t\n\r #/:<>?@[\\]^|".toList

/-- Check the host of an address of an unknown scheme, which is otherwise taken as it is. -/
def check (cs : List Char) : Except Fault Unit :=
  match bracketed? cs with
  | some h => h.map fun _ => ()
  | none => if cs.any separators.contains then .error .invalidCharacter else .ok ()

/-- A host as text. -/
def chars : Host → List Char
  | .domain name => name
  | .ipv4 a => a.chars
  | .ipv6 a => '[' :: a.chars ++ [']']

end Host
end Messenger.Url

import Courier.MailAddress.CharName
import Courier.Text.Compose

/-!
# Bracketed hosts

A host between brackets is an address of four octets, or one of the longer kind behind its tag.
`checkHost` says what is wrong with a host that is neither.
-/

namespace Courier.MailAddress

open Courier.Text

/-- Why an octet is refused. -/
inductive OctetFault where
  | empty
  | long (text : String)
  | leadingZero (text : String)
  | large (n : Nat)
deriving DecidableEq, Repr

/-- What a caller is told. -/
def OctetFault.message : OctetFault → String
  | empty => "Empty octet not permitted"
  | long text => "At most 3 characters permitted in " ++ quoted text
  | leadingZero text => "Leading zeros are not permitted in " ++ quoted text
  | large n => "Octet " ++ toString n ++ " (> 255) not permitted"

/-- Why a bracketed host is refused. -/
inductive HostFault where
  | octetCount (host : String)
  | octet (fault : OctetFault) (host : String)
  | fewGroups (host : String)
  | noTag
  | characters (cs : List Char)
  | unknownTag
deriving DecidableEq, Repr

/-- What a caller is told. -/
def HostFault.message : HostFault → String
  | octetCount host => notFour ("Expected 4 octets in " ++ quoted host)
  | octet fault host => notFour (fault.message ++ " in " ++ quoted host)
  | fewGroups host =>
    "The IPv6 address in brackets after the @-sign is not valid (At least 3 parts expected in " ++
      quoted host ++ ")."
  | noTag =>
    "The part after the @-sign in brackets is not an IPv4 address and has no address literal tag."
  | characters cs =>
    "The part after the @-sign contains invalid characters in brackets: " ++ describeAll cs ++ "."
  | unknownTag =>
    "The part after the @-sign contains an invalid address literal tag in brackets."
where
  /-- The refusal of what looks like four octets. -/
  notFour (reason : String) : String :=
    "The address in brackets after the @-sign is not valid: It is not an IPv4 address (" ++
      reason ++ ") or is missing an address literal tag."

/-- What is wrong with an octet. -/
def octetFault? (cs : List Char) : Option OctetFault :=
  if cs.isEmpty then some .empty
  else if 3 < cs.length then some (.long (String.ofList cs))
  else if cs.head? == some '0' && cs != ['0'] then some (.leadingZero (String.ofList cs))
  else
    let n := cs.foldl (fun n c => 10 * n + (c.toNat - 48)) 0
    if 255 < n then some (.large n) else none

/-- Accept a host, or say what is wrong with it. -/
def checkHost (cs : List Char) : Except HostFault Unit :=
  if !cs.isEmpty && cs.all fun c => c.isDigit || c == '.' then
    let octets := splitOn (· == '.') cs
    if octets.length != 4 then .error (.octetCount (String.ofList cs))
    else match octets.findSome? octetFault? with
      | some fault => .error (.octet fault (String.ofList cs))
      | none => .ok ()
  else if "IPv6:".toList.isPrefixOf cs then
    let groups := cs.drop 5
    if (splitOn (· == ':') groups).length < 3 then .error (.fewGroups (String.ofList groups))
    else .ok ()
  else if !cs.contains ':' then .error .noTag
  else
    let bad := cs.filter fun c =>
      !(33 ≤ c.toNat && c.toNat ≤ 90) && !(94 ≤ c.toNat && c.toNat ≤ 126)
    if bad.isEmpty then .error .unknownTag else .error (.characters bad)

end Courier.MailAddress

import ContainerClients.Text.Cut
import ContainerClients.Uri.Percent

/-!
# Hosts in brackets

The authority of a URI may hold an address in brackets.  What stands there has to be an IPv6
address or an address of a future version.

* `isIpv4`, `isIpv6` — the two address forms.
* `isFutureAddress` — `v`, a hexadecimal version, a point and more.
* `HostFault` — what is wrong with an authority.
* `checkAuthority` — the check of an authority's brackets.
-/

namespace ContainerClients.Uri

open ContainerClients.Text

/-- **What is wrong with an authority.** -/
inductive HostFault where
  /-- brackets that do not match or do not stand where a host stands -/
  | brackets
  /-- a future address that is not written as one -/
  | futureAddress
  /-- an IPv4 address in brackets -/
  | bracketedIpv4
  /-- text in brackets that is no address -/
  | notAnAddress (host : String)
  /-- an authority with a character that compatibility decomposition turns into a delimiter -/
  | disguisedDelimiter (authority : String)
deriving DecidableEq, Repr

/-- One of the four numbers of an IPv4 address: at most three digits, without a leading zero, below
256. -/
def isOctet (s : List Char) : Bool :=
  !s.isEmpty && s.all Char.isDigit && s.length ≤ 3 && !(s.length > 1 && s.head? == some '0')
    && s.foldl (fun n c => 10 * n + (c.toNat - 48)) 0 ≤ 255

/-- **IPv4 addresses.** -/
def isIpv4 (s : List Char) : Bool :=
  let parts := pieces '.' s
  parts.length == 4 && parts.all isOctet

/-- A group of an IPv6 address: one to four hexadecimal digits. -/
def isGroup (s : List Char) : Bool :=
  !s.isEmpty && s.length ≤ 4 && s.all fun c => (hexValue? c).isSome

/-- The groups of an IPv6 address, a final IPv4 address counted as two groups. -/
def ipv6Parts? (s : List Char) : Option (List (List Char)) :=
  let parts := pieces ':' s
  match parts.getLast? with
  | some last =>
    if parts.length < 3 then none
    else if last.contains '.' then
      if isIpv4 last then some (parts.dropLast ++ [['0'], ['0']]) else none
    else some parts
  | none => none

/-- The groups on one side of a `::`.  The outermost may be empty only when it is alone. -/
def isSide (groups : List (List Char)) : Bool := groups == [[]] || groups.all isGroup

/-- The groups before and behind the first `::`, if there is one: an empty group that is neither
the first nor the last. -/
def cutAtGap : List (List Char) → Option (List (List Char) × List (List Char))
  | [] => none
  | [_] => none
  | first :: [] :: second :: rest => some ([first], second :: rest)
  | first :: rest => (cutAtGap rest).map fun sides => (first :: sides.1, sides.2)

/-- The number of groups on one side that are written. -/
def written (groups : List (List Char)) : Nat := if groups == [[]] then 0 else groups.length

/-- **IPv6 addresses**: eight groups, or fewer around one `::`, with an optional zone behind `%`. -/
def isIpv6 (s : List Char) : Bool :=
  let (address, zoneOk) := match cutFirst '%' s with
    | some (address, zone) => (address, !zone.isEmpty && !zone.contains '%')
    | none => (s, true)
  zoneOk && !s.contains '/' && match ipv6Parts? address with
    | none => false
    | some parts =>
      parts.length ≤ 9 && match cutAtGap parts with
        | some (before, behind) =>
          isSide before && isSide behind && written before + written behind ≤ 7
        | none => parts.length == 8 && parts.all isGroup

/-- **Addresses of a future version.** -/
def isFutureAddress (s : List Char) : Bool :=
  match s with
  | 'v' :: rest =>
    let version := rest.takeWhile fun c => (hexValue? c).isSome
    !version.isEmpty && match rest.drop version.length with
      | '.' :: address => !address.isEmpty && !address.contains '\n'
      | _ => false
  | _ => false

/-- The text in brackets has to be an address. -/
def checkHost (host : List Char) : Except HostFault PUnit :=
  if host.head? == some 'v' then
    if isFutureAddress host then .ok ⟨⟩ else .error .futureAddress
  else if isIpv4 host then .error .bracketedIpv4
  else if isIpv6 host then .ok ⟨⟩
  else .error (.notAnAddress (String.ofList host))

/-- **The brackets of an authority.**  Behind the last `@`, nothing stands before the `[`, and
behind the `]` nothing or a port. -/
def checkAuthority (authority : List Char) : Except HostFault PUnit :=
  let opened := authority.contains '['
  let closed := authority.contains ']'
  if opened != closed then .error .brackets
  else if !opened then .ok ⟨⟩
  else
    let host := match cutLast '@' authority with
      | some (_, behind) => behind
      | none => authority
    match cutFirst '[' host with
    | some (before, bracketed) =>
      if !before.isEmpty then .error .brackets
      else match cutFirst ']' bracketed with
        | some (name, port) =>
          if port.isEmpty || port.head? == some ':' then checkHost name else .error .brackets
        | none => checkHost bracketed
    | none => checkHost ((cutFirst ':' host).elim host (·.1))

/-- Characters that compatibility decomposition turns into text with one of `/?#@:`. -/
def disguised : CodePoints :=
  [(0x2047, 0x2049), (0x2100, 0x2101), (0x2105, 0x2106), (0x2A74, 0x2A74), (0xFE13, 0xFE13),
   (0xFE16, 0xFE16), (0xFE55, 0xFE56), (0xFE5F, 0xFE5F), (0xFE6B, 0xFE6B), (0xFF03, 0xFF03),
   (0xFF0F, 0xFF0F), (0xFF1A, 0xFF1A), (0xFF1F, 0xFF20)]

/-- An authority must not hide a delimiter in a compatibility character. -/
def checkDisguise (authority : List Char) : Except HostFault PUnit :=
  if authority.any disguised.has then .error (.disguisedDelimiter (String.ofList authority))
  else .ok ⟨⟩

end ContainerClients.Uri

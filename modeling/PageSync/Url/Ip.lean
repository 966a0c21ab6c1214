import PageSync.Text.Numeral

/-!
# Url/Ip — the written form of internet addresses

An address of version 4 is four octets in decimal, without leading zeros. An address of version 6 is
eight groups of hexadecimal digits, the last two of which may be written as an address of version 4;
one run of zero groups may be left out between two colons, and a zone may follow a percent sign.
-/

namespace PageSync.Url

/-- Whether a text is an octet. -/
def isOctet (cs : List Char) : Bool :=
  !cs.isEmpty && cs.all Char.isDigit && cs.length ≤ 3 && (cs == ['0'] || cs.head? ≠ some '0') &&
    Text.decimalValue cs ≤ 255

/-- Whether a text is an address of version 4. -/
def isIpv4 (cs : List Char) : Bool :=
  let octets := cs.splitOn '.'
  octets.length == 4 && octets.all isOctet

/-- Whether a character is a hexadecimal digit. -/
def isHexDigit (c : Char) : Bool :=
  c.isDigit || ('a' ≤ c && c ≤ 'f') || ('A' ≤ c && c ≤ 'F')

/-- Whether a text is a group of an address of version 6. -/
def isGroup (cs : List Char) : Bool :=
  !cs.isEmpty && cs.length ≤ 4 && cs.all isHexDigit

/-- The groups of an address, with an address of version 4 at the end as two of them. -/
def groupsOf? (cs : List Char) : Option (List (List Char)) :=
  let parts := cs.splitOn ':'
  let last := parts.getLast?.getD []
  if parts.length < 3 then none
  else if last.contains '.' then
    if isIpv4 last then some (parts.dropLast ++ [['0'], ['0']]) else none
  else some parts

/-- The places of empty groups between the first group and the last one. -/
def gapsOf (groups : List (List Char)) : List Nat :=
  (List.range groups.length).filter fun i =>
    i ≠ 0 && i + 1 ≠ groups.length && (groups[i]?.getD []).isEmpty

/-- Whether groups on one side of a gap are well written: an empty group may only stand alone, at
the very end of the address. -/
def isSide (groups : List (List Char)) : Bool :=
  groups == [[]] || groups.all isGroup

/-- Whether groups are an address. -/
def areGroups (groups : List (List Char)) : Bool :=
  match gapsOf groups with
  | [] => groups.length == 8 && groups.all isGroup
  | [gap] =>
    let before := groups.take gap
    let after := groups.drop (gap + 1)
    let count := (before ++ after).countP fun g => !g.isEmpty
    isSide before && isSide after && count ≤ 7
  | _ => false

/-- An address without its zone, if what stands for the zone can be one. -/
def withoutZone? (cs : List Char) : Option (List Char) :=
  match cs.splitOn '%' with
  | [address] => some address
  | [_, []] => none
  | [address, _] => some address
  | _ => none

/-- Whether a text is an address of version 6. -/
def isIpv6 (cs : List Char) : Bool :=
  if cs.contains '/' then false
  else
    match (withoutZone? cs).bind groupsOf? with
    | some groups => groups.length ≤ 9 && areGroups groups
    | none => false

end PageSync.Url

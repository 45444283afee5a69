import MailConnection.Host.Ipv4
import MailConnection.Text.Quoted

/-!
# IPv6 addresses

An address is eight groups of one to four hexadecimal digits with colons between
them.  One run of zero groups may be left out (`::`), the last two groups may be
a dotted quad, and a zone identifier may follow after `%`.  The zone is any
non-empty text without `%` and `/`.
-/

namespace MailConnection.Host.Ipv6

/-- One to four hexadecimal digits. -/
def isGroup (cs : List Char) : Bool :=
  cs != [] && cs.length ≤ 4 && cs.all fun c => (Text.hexValue? c).isSome

/-- The groups of an address, a dotted quad at the end counting as two. -/
def groups? (cs : List Char) : Option (List (List Char)) :=
  let groups := Text.segments ':' cs
  let last := groups.getLastD []
  if groups.length < 3 then none
  else if last.contains '.' then
    if Ipv4.isAddress last then some (groups.dropLast ++ [['0'], ['0']]) else none
  else some groups

/-- The groups on one side of `::`, where a lone empty one stands for none at all. -/
def sideCount? (groups : List (List Char)) : Option Nat :=
  if groups = [[]] then some 0
  else if groups.all isGroup then some groups.length
  else none

/-- The places strictly inside a row of groups where a group is empty. -/
def innerGaps (groups : List (List Char)) : List Nat :=
  (List.range groups.length).filter fun i =>
    0 < i && i + 1 < groups.length && groups[i]? == some []

/-- Whether a row of groups is an address: all eight of them, or at most seven
with one gap among them. -/
def areGroups (groups : List (List Char)) : Bool :=
  match innerGaps groups with
  | [] => groups.length == 8 && groups.all isGroup
  | [gap] =>
    groups.length ≤ 9 &&
      match sideCount? (groups.take gap), sideCount? (groups.drop (gap + 1)) with
      | some high, some low => high + low ≤ 7
      | _, _ => false
  | _ => false

/-- An address without a zone. -/
def isPlainAddress (cs : List Char) : Bool :=
  match groups? cs with
  | some groups => areGroups groups
  | none => false

/-- A non-empty zone identifier. -/
def isZone (cs : List Char) : Bool := cs != [] && !cs.contains '%'

/-- An address, possibly with a zone. -/
def isAddress (cs : List Char) : Bool :=
  !cs.contains '/' && isPlainAddress (Text.before '%' cs) &&
    (match Text.after? '%' cs with
      | none => true
      | some zone => isZone zone)

end MailConnection.Host.Ipv6

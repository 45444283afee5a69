import MailConnection.Host.Ipv6

/-!
# Hosts

The address of an account is a host name, an IPv4 address or an IPv6 address.
In a connection string an IPv6 address stands in brackets, the `%` before its
zone escaped; the other two stand as they are.  An empty address is an empty
host.

`classify` says which of these a text is, or what is wrong with it, and `render`
writes it.
-/

namespace MailConnection.Host

/-! ## Host names -/

/-- Letters, digits and hyphens, the first and the last one no hyphen. -/
def isPlainLabel (cs : List Char) : Bool :=
  cs.all (fun c => c.isAlphanum || c == '-') &&
    cs.head?.any Char.isAlphanum && cs.getLast?.any Char.isAlphanum

/-- A label of a host name.  A line feed may end it. -/
def isLabel (cs : List Char) : Bool :=
  isPlainLabel cs || (cs.getLast? == some '\n' && isPlainLabel cs.dropLast)

/-- The labels of a host name; one point at the end is dropped. -/
def labels (cs : List Char) : List (List Char) :=
  Text.segments '.' (if cs.getLast? = some '.' then cs.dropLast else cs)

/-- Whether the last of several labels starts with a letter. -/
def hasLetterOnTop (labels : List (List Char)) : Bool :=
  labels.length ≤ 1 || (labels.getLastD []).head?.any Char.isAlpha

/-! ## All hosts -/

/-- What is wrong with an address. -/
inductive Defect where
  | literal
  | name
  | topLabel
deriving DecidableEq, Repr

/-- The text without one pair of brackets around it. -/
def unbracket (cs : List Char) : List Char :=
  if cs.head? = some '[' ∧ cs.getLast? = some ']' then (cs.drop 1).dropLast else cs

/-- A host as it is written. -/
inductive Form where
  | name (text : List Char)
  | literal (text : List Char)
deriving DecidableEq, Repr

/-- The host that an address is, or what is wrong with it.  A colon makes it an
IPv6 address. -/
def classify (cs : List Char) : Except Defect Form :=
  if cs = [] then .ok (.name [])
  else if ':' ∈ cs then
    if Ipv6.isAddress (unbracket cs) then .ok (.literal (unbracket cs)) else .error .literal
  else if Ipv4.isAddress cs then .ok (.name cs)
  else if !(labels cs).all isLabel then .error .name
  else if !hasLetterOnTop (labels cs) then .error .topLabel
  else .ok (.name cs)

/-- A host as it stands in a connection string. -/
def Form.render : Form → List Char
  | .name text => text
  | .literal text =>
    '[' :: text.flatMap (fun c => if c = '%' then ['%', '2', '5'] else [c]) ++ [']']

end MailConnection.Host

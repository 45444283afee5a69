import MailConnection.Text.Split

/-!
# IPv4 addresses

A dotted quad: four decimal numbers up to 255, with points between them.  A
number has no leading zero.
-/

namespace MailConnection.Host.Ipv4

/-- A decimal number up to 255 without leading zeros. -/
def isOctet (cs : List Char) : Bool :=
  cs != [] && cs.all Char.isDigit && cs.length ≤ 3 &&
    (cs == ['0'] || cs.head? != some '0') && Nat.ofDigitChars 10 cs 0 ≤ 255

/-- Four octets with points between them. -/
def isAddress (cs : List Char) : Bool :=
  let octets := Text.segments '.' cs
  octets.length == 4 && octets.all isOctet

end MailConnection.Host.Ipv4

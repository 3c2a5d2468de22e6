/-!
The two families of internet addresses. A family fixes how wide an address is, into how many components its text is
cut, and how one component is written; everything else in the library is stated for both families at once.
-/

namespace Inet

inductive Family where
  | v4
  | v6
  deriving DecidableEq, Repr, Ord

namespace Family

def name : Family → String
  | v4 => "IPv4"
  | v6 => "IPv6"

def addressLabel : Family → String
  | v4 => "Ipv4Address"
  | v6 => "Ipv6Address"

def octetCount : Family → Nat
  | v4 => 4
  | v6 => 16

theorem octetCount_pos (f : Family) : 0 < f.octetCount := by
  cases f <;> decide

def width (f : Family) : Nat := 8 * f.octetCount

def componentCount : Family → Nat
  | v4 => 4
  | v6 => 8

def componentBase : Family → Nat
  | v4 => 256
  | v6 => 65536

def radix : Family → Nat
  | v4 => 10
  | v6 => 16

def maxDigits : Family → Nat
  | v4 => 3
  | v6 => 4

end Family

end Inet

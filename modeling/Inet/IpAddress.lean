import Inet.Address.Mask
import Inet.Address.Scan
import Inet.Address.Text
import Inet.AnyFamily

/-!
Addresses of either family.
-/

namespace Inet

abbrev IpAddress := AnyFamily Address

namespace IpAddress

def parse : String → Except ParseError IpAddress := AnyFamily.parse Address.parse

def text (x : IpAddress) : String := x.content.text

def octets (x : IpAddress) : List UInt8 := x.content.octets.toList

def prefixLength? (x : IpAddress) : Option Nat := x.content.prefixLength?

def isUnspecified (x : IpAddress) : Bool := x.content.isUnspecified

end IpAddress

end Inet

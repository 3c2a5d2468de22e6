import Inet.Address.Scan
import Inet.Address.Text
import Inet.Block
import Inet.Family.Detect

/-!
The text of a block is an address, optionally followed by a slash and either a decimal prefix length or a mask
written as an address. Without a slash the block holds that one address. A block with a contiguous mask is written
with its prefix length, any other with its mask.
-/

namespace Inet

namespace Block

variable {f : Family}

/-- The largest prefix length that is told apart from larger ones. -/
def prefixCap : Nat := 4294967295

def parseMask (f : Family) (text : String) : Except ParseError (Address f) :=
  if text.isEmpty then .error .missingMask
  else match Numeral.capped? prefixCap text.toList with
    | some length => (Address.prefixMask? f length).mapError PrefixLengthError.toParseError
    | none => Address.parse f text

def parse (f : Family) (text : String) : Except ParseError (Block f) := do
  let (before, rest?) := splitAtSlash text
  -- A faulty address is reported before a faulty mask.
  let a ← Address.parse f before
  match rest? with
  | none => return single a
  | some rest => return ofMask a (← parseMask f rest)

def text (b : Block f) : String :=
  match b.prefixLength? with
  | some length => s!"{b.value.text}/{length}"
  | none => s!"{b.value.text}/{b.mask.text}"

end Block

end Inet

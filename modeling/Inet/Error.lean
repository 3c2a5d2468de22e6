import Inet.Family

/-!
What can go wrong, by cause: reading a text, choosing a prefix length, taking an address from a fixed number of
octets, reading one from a stream. Positions are byte offsets into the text that was being read.
-/

namespace Inet

inductive ParseError where
  | invalidComponent (start : Nat)
  | unexpectedCharacter (character : Char) (position : Nat)
  | nonAscii (position : Nat)
  | unknownFamily
  | malformed (family : Family)
  | componentCount (family : Family) (count : Nat)
  | octetOverflow (value : Nat)
  | repeatedGap
  | missingAddress
  | missingMask
  | prefixOverflow (length max : Nat)
  deriving DecidableEq, Repr

def ParseError.message : ParseError → String
  | invalidComponent start => s!"Invalid address component at idx={start}"
  | unexpectedCharacter character position => s!"Encountered unexpected character '{character}' at idx={position}"
  | nonAscii position => s!"Encountered non-ASCII character at idx={position}"
  | unknownFamily => "Input is not valid IP"
  | malformed family => s!"Address is not valid {family.name}"
  | componentCount family count =>
    s!"{family.name} Address has '{count}' components but expected {family.componentCount}"
  | octetOverflow value => s!"{Family.v4.name} component is '{value}' while allowed range is 0..=255"
  | repeatedGap => s!"{Family.v6.name} contains more than 1 zero abbreviation"
  | missingAddress => "Address is not specified"
  | missingMask => "Mask is not specified"
  | prefixOverflow length max => s!"Prefix '{length}' is greater than {max}"

structure PrefixLengthError where
  length : Nat
  max : Nat
  deriving DecidableEq, Repr

def PrefixLengthError.message (e : PrefixLengthError) : String := s!"Prefix '{e.length}' is greater than {e.max}"

def PrefixLengthError.toParseError (e : PrefixLengthError) : ParseError := .prefixOverflow e.length e.max

structure LengthError where
  expected : Nat
  actual : Nat
  deriving DecidableEq, Repr

def LengthError.message (e : LengthError) : String := s!"Expected {e.expected} bytes but got {e.actual}"

structure ReadError where
  needed : Nat
  remaining : Nat
  deriving DecidableEq, Repr

def ReadError.message (e : ReadError) : String :=
  s!"Buffer has {e.remaining} bytes remaining but address requires {e.needed}"

structure SpaceError where
  free : Nat
  needed : Nat
  deriving DecidableEq, Repr

def SpaceError.message (e : SpaceError) : String :=
  s!"advance out of bounds: the len is {e.free} but advancing by {e.needed}"

end Inet

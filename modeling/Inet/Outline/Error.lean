import Inet.Outline.Quoted
import Inet.Outline.Value

/-!
Outlines of errors. Errors of the two families that share a cause have names of their own.
-/

namespace Inet

open Outline

def ParseError.outline : ParseError → Outline
  | invalidComponent start => group "InvalidComponent" .round [number start]
  | unexpectedCharacter character position =>
    group "UnexpectedCharacter" .round [atom (quoted character), number position]
  | nonAscii position => group "NonAsciiCharacter" .round [number position]
  | unknownFamily => atom "UnknownFamily"
  | malformed .v4 => atom "InvalidIpv4"
  | malformed .v6 => atom "InvalidIpv6"
  | componentCount .v4 count => group "Ipv4InvalidComponentSize" .round [number count]
  | componentCount .v6 count => group "Ipv6InvalidComponentSize" .round [number count]
  | octetOverflow value => group "Ipv4ComponentOverflow" .round [number value]
  | repeatedGap => atom "Ipv6MultipleZeroAbbrv"
  | missingAddress => atom "MissingIp"
  | missingMask => atom "MissingMask"
  | prefixOverflow length max =>
    group "PrefixOverflow" .curly [labelled "prefix" (number length), labelled "max" (number max)]

def PrefixLengthError.outline (e : PrefixLengthError) : Outline :=
  group "PrefixLenError" .curly [labelled "prefix" (number e.length), labelled "max" (number e.max)]

def LengthError.outline (e : LengthError) : Outline :=
  group "LengthError" .curly [labelled "expected" (number e.expected), labelled "actual" (number e.actual)]

def ReadError.outline (e : ReadError) : Outline :=
  group "ReadError" .curly [labelled "needed" (number e.needed), labelled "remaining" (number e.remaining)]

end Inet

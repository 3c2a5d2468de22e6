import Inet.Kind
import Inet.Outline.Basic

/-!
Outlines of addresses, blocks and renderings. An address is shown by its text, whatever its layout.
-/

namespace Inet

namespace Outline

def number (n : Nat) : Outline := atom (toString n)

def truth (b : Bool) : Outline := atom (toString b)

end Outline

open Outline

def Family.outline : Family → Outline
  | .v4 => atom "V4"
  | .v6 => atom "V6"

def Address.outline {f : Family} (a : Address f) : Outline := atom s!"{f.addressLabel}({a.text})"

def Block.outline {f : Family} (b : Block f) : Outline :=
  group "AddressWithMask" .curly [labelled "value" b.value.outline, labelled "mask" b.mask.outline]

def IpAddress.outline (x : IpAddress) : Outline := group x.family.outline.head .round [x.content.outline]

def IpBlock.outline (b : IpBlock) : Outline := group b.family.outline.head .round [b.content.outline]

def Kind.outline : (k : Kind) → k.Carrier → Outline
  | address _ => Address.outline
  | block _ => Block.outline
  | anyAddress => IpAddress.outline
  | anyBlock => IpBlock.outline

def Rendering.outline (r : Rendering) : Outline :=
  group "Ipv6Display" .curly [
    labelled "groups" (group "" .square (r.address.components.map number)),
    labelled "zero_compression" (truth r.compress),
    labelled "canonical_padding" (truth r.pad)]

end Inet

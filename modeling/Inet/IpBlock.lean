import Inet.Block.Text
import Inet.IpAddress

/-!
Blocks of either family. An address is never a member of a block of the other family.
-/

namespace Inet

abbrev IpBlock := AnyFamily Block

namespace IpBlock

def parse : String → Except ParseError IpBlock := AnyFamily.parse Block.parse

def text (b : IpBlock) : String := b.content.text

def value (b : IpBlock) : IpAddress := .of b.content.value

def mask (b : IpBlock) : IpAddress := .of b.content.mask

def prefixLength? (b : IpBlock) : Option Nat := b.content.prefixLength?

def contains : IpBlock → IpAddress → Bool
  | ⟨.v4, b⟩, ⟨.v4, a⟩ => b.contains a
  | ⟨.v6, b⟩, ⟨.v6, a⟩ => b.contains a
  | _, _ => false

end IpBlock

end Inet

import Inet.IpBlock
import Inet.Trace

/-!
The six kinds of value that have a text: addresses and blocks of a known family, and of either family. Each kind
reads, writes and orders its values. Reading a kind of either family leaves an event in the trace when it fails.
-/

namespace Inet

inductive Kind where
  | address (family : Family)
  | block (family : Family)
  | anyAddress
  | anyBlock
  deriving DecidableEq, Repr

namespace Kind

def Carrier : Kind → Type
  | address f => Address f
  | block f => Block f
  | anyAddress => IpAddress
  | anyBlock => IpBlock

instance instDecidableEqCarrier : (k : Kind) → DecidableEq k.Carrier
  | address f => inferInstanceAs (DecidableEq (Address f))
  | block f => inferInstanceAs (DecidableEq (Block f))
  | anyAddress => inferInstanceAs (DecidableEq IpAddress)
  | anyBlock => inferInstanceAs (DecidableEq IpBlock)

instance instOrdCarrier : (k : Kind) → Ord k.Carrier
  | address f => inferInstanceAs (Ord (Address f))
  | block f => inferInstanceAs (Ord (Block f))
  | anyAddress => inferInstanceAs (Ord IpAddress)
  | anyBlock => inferInstanceAs (Ord IpBlock)

def parse : (k : Kind) → String → Except ParseError k.Carrier
  | address f => Address.parse f
  | block f => Block.parse f
  | anyAddress => IpAddress.parse
  | anyBlock => IpBlock.parse

def text : (k : Kind) → k.Carrier → String
  | address _ => Address.text
  | block _ => Block.text
  | anyAddress => IpAddress.text
  | anyBlock => IpBlock.text

def noun : Kind → String
  | address f => s!"{f.name} address"
  | block f => s!"{f.name} address with optional mask"
  | anyAddress => "IP address"
  | anyBlock => "IP address with optional mask"

def refusal (k : Kind) (text : String) (e : ParseError) : List TraceEvent :=
  match k with
  | address _ | block _ => []
  | anyAddress => [.notAddress text e]
  | anyBlock => [.notBlock text e]

def read (k : Kind) (text : String) : Traced (Except ParseError k.Carrier) :=
  match k.parse text with
  | .ok x => ⟨.ok x, []⟩
  | .error e => ⟨.error e, k.refusal text e⟩

@[simp] theorem result_read (k : Kind) (text : String) : (k.read text).result = k.parse text := by
  unfold read
  split <;> simp [*]

def sort (k : Kind) (xs : List k.Carrier) : List k.Carrier := xs.mergeSort fun x y => (compare x y).isLE

def greatest? (k : Kind) (xs : List k.Carrier) : Option k.Carrier := (k.sort xs).getLast?

def distinctCount (k : Kind) (xs : List k.Carrier) : Nat := xs.eraseDups.length

end Kind

end Inet

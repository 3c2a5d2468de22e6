import Inet.Kind

/-!
Values of any kind, and the operations on them. An operation is defined on some kinds only; for any other it fails.
-/

namespace Inet

structure Value where
  kind : Kind
  content : kind.Carrier
  deriving DecidableEq

inductive ValueError where
  | wrongKind
  | prefixLength (error : PrefixLengthError)
  deriving DecidableEq, Repr

namespace Value

def text (v : Value) : String := v.kind.text v.content

def ofAddress {f : Family} (a : Address f) : Value := ⟨.address f, a⟩

def ofBlock {f : Family} (b : Block f) : Value := ⟨.block f, b⟩

def ofIpAddress (x : IpAddress) : Value := ⟨.anyAddress, x⟩

def ofIpBlock (b : IpBlock) : Value := ⟨.anyBlock, b⟩

def order? (v w : Value) : Option Ordering :=
  if h : v.kind = w.kind then some (compare (h ▸ v.content) w.content) else none

def contains? : Value → Value → Option Bool
  | ⟨.block .v4, b⟩, ⟨.address .v4, a⟩ => some (Block.contains b a)
  | ⟨.block .v6, b⟩, ⟨.address .v6, a⟩ => some (Block.contains b a)
  | ⟨.anyBlock, b⟩, ⟨.anyAddress, x⟩ => some (IpBlock.contains b x)
  | _, _ => none

def octets? : Value → Option (List UInt8)
  | ⟨.address _, a⟩ => some (Address.octets a).toList
  | ⟨.anyAddress, x⟩ => some (IpAddress.octets x)
  | _ => none

end Value

inductive UnaryOp where
  | copy
  | value
  | mask
  | broadcast
  | complement
  | single
  | blockOfLength (length : Nat)
  | wrap
  | unwrap
  deriving DecidableEq, Repr

def UnaryOp.apply : UnaryOp → Value → Except ValueError Value
  | copy, v => .ok v
  | value, ⟨.block _, b⟩ => .ok (.ofAddress (Block.value b))
  | value, ⟨.anyBlock, b⟩ => .ok (.ofIpAddress (IpBlock.value b))
  | mask, ⟨.block _, b⟩ => .ok (.ofAddress (Block.mask b))
  | mask, ⟨.anyBlock, b⟩ => .ok (.ofIpAddress (IpBlock.mask b))
  | broadcast, ⟨.block _, b⟩ => .ok (.ofAddress (Block.broadcast b))
  | complement, ⟨.address f, a⟩ => .ok (.ofAddress (~~~(a : Address f)))
  | single, ⟨.address _, a⟩ => .ok (.ofBlock (Block.single a))
  | blockOfLength length, ⟨.address _, a⟩ => ((Block.ofPrefixLength a length).map .ofBlock).mapError .prefixLength
  | wrap, ⟨.address _, a⟩ => .ok (.ofIpAddress (.of a))
  | wrap, ⟨.block _, b⟩ => .ok (.ofIpBlock (.of b))
  | unwrap, ⟨.anyAddress, x⟩ => .ok (.ofAddress (AnyFamily.content x))
  | unwrap, ⟨.anyBlock, b⟩ => .ok (.ofBlock (AnyFamily.content b))
  | _, _ => .error .wrongKind

inductive BinaryOp where
  | meet
  | join
  | block
  deriving DecidableEq, Repr

namespace BinaryOp

def combine {f : Family} (op : BinaryOp) (a b : Address f) : Value :=
  match op with
  | meet => .ofAddress (a &&& b)
  | join => .ofAddress (a ||| b)
  | block => .ofBlock (.ofMask a b)

def apply (op : BinaryOp) : Value → Value → Except ValueError Value
  | ⟨.address .v4, a⟩, ⟨.address .v4, b⟩ => .ok (op.combine (f := .v4) a b)
  | ⟨.address .v6, a⟩, ⟨.address .v6, b⟩ => .ok (op.combine (f := .v6) a b)
  | _, _ => .error .wrongKind

end BinaryOp

end Inet

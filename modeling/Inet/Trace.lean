import Inet.Error

/-!
A trace of the failures met on the way. A computation that may leave events in the trace is a result together with
those events, in order.
-/

namespace Inet

inductive TraceEvent where
  | notAddress (text : String) (error : ParseError)
  | notBlock (text : String) (error : ParseError)
  | shortRead (family : Family) (remaining : Nat)
  deriving DecidableEq, Repr

def TraceEvent.line : TraceEvent → String
  | notAddress text error => s!"'{text}' is not valid IP: {error.message}"
  | notBlock text error => s!"'{text}' is not valid masked IP: {error.message}"
  | shortRead family remaining => s!"{family.addressLabel}: cannot read address, remaining={remaining}"

structure Traced (α : Type) where
  result : α
  events : List TraceEvent

namespace Traced

instance : Monad Traced where
  pure a := ⟨a, []⟩
  bind t f := ⟨(f t.result).result, t.events ++ (f t.result).events⟩

def record (e : TraceEvent) : Traced Unit := ⟨(), [e]⟩

@[simp] theorem result_pure {α : Type} (a : α) : (pure a : Traced α).result = a := rfl

@[simp] theorem events_pure {α : Type} (a : α) : (pure a : Traced α).events = [] := rfl

@[simp] theorem result_bind {α β : Type} (t : Traced α) (f : α → Traced β) :
    (t >>= f).result = (f t.result).result := rfl

@[simp] theorem events_bind {α β : Type} (t : Traced α) (f : α → Traced β) :
    (t >>= f).events = t.events ++ (f t.result).events := rfl

@[simp] theorem mk_nil_bind {α β : Type} (a : α) (f : α → Traced β) : (⟨a, []⟩ : Traced α) >>= f = f a := rfl

end Traced

end Inet

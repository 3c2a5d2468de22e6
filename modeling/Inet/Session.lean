import Inet.Stream
import Inet.Value

/-!
Sessions. A session keeps named registers, each with a value of any kind, and one stream of octets. A command reads
some registers and may set one, or moves an address between a register and the stream. A command that fails changes
nothing.
-/

namespace Inet

inductive Command where
  | parse (target : String) (kind : Kind) (text : String)
  | maskOfLength (target : String) (family : Family) (length : Nat)
  | unary (op : UnaryOp) (target source : String)
  | binary (op : BinaryOp) (target left right : String)
  | contains (block address : String)
  | compare (left right : String)
  | inspect (source : String)
  | put (octets : List UInt8)
  | write (source : String)
  | read (target : String) (family : Family)
  deriving DecidableEq, Repr

inductive Reply where
  | stored (value : Value)
  | membership (member : Bool)
  | order (ordering : Ordering)
  | shown (value : Value)
  | streamed (stream : List UInt8)
  | received (value : Value) (stream : List UInt8)
  deriving DecidableEq

inductive SessionError where
  | noRegister
  | value (error : ValueError)
  | text (error : ParseError)
  | read (error : ReadError) (stream : List UInt8)
  deriving DecidableEq, Repr

structure Session where
  registers : List (String × Value)
  stream : List UInt8
  deriving DecidableEq

namespace Session

def empty : Session := ⟨[], []⟩

def find (s : Session) (name : String) : Except SessionError Value :=
  match s.registers.lookup name with
  | some v => .ok v
  | none => .error .noRegister

def store (s : Session) (name : String) (v : Value) : Session :=
  { s with registers := (name, v) :: s.registers.filter (·.1 != name) }

abbrev Outcome := Except SessionError (Reply × Session)

def put (s : Session) (octets : List UInt8) : Reply × Session :=
  (.streamed (s.stream ++ octets), { s with stream := s.stream ++ octets })

def keep (s : Session) (target : String) : Except ValueError Value → Outcome
  | .ok v => .ok (.stored v, s.store target v)
  | .error e => .error (.value e)

def answer {α : Type} (s : Session) (reply : α → Reply) : Option α → Outcome
  | some x => .ok (reply x, s)
  | none => .error (.value .wrongKind)

/-- Executes a command. All registers are looked up before any kind is checked. -/
def step (s : Session) : Command → Traced Outcome
  | .parse target kind text => do
    match ← kind.read text with
    | .ok x => return s.keep target (.ok ⟨kind, x⟩)
    | .error e => return .error (.text e)
  | .maskOfLength target family length =>
    return s.keep target (((Address.prefixMask? family length).map .ofAddress).mapError .prefixLength)
  | .unary op target source =>
    return (s.find source).bind fun v => s.keep target (op.apply v)
  | .binary op target left right =>
    return (s.find left).bind fun v => (s.find right).bind fun w => s.keep target (op.apply v w)
  | .contains block address =>
    return (s.find block).bind fun v => (s.find address).bind fun w => s.answer .membership (v.contains? w)
  | .compare left right =>
    return (s.find left).bind fun v => (s.find right).bind fun w => s.answer .order (v.order? w)
  | .inspect source =>
    return (s.find source).bind fun v => .ok (.shown v, s)
  | .put octets => return .ok (s.put octets)
  | .write source =>
    return (s.find source).bind fun v =>
      match v.octets? with
      | some octets => .ok (s.put octets)
      | none => .error (.value .wrongKind)
  | .read target family => do
    match ← Address.read family s.stream with
    | (.ok a, rest) => return .ok (.received (.ofAddress a) rest, { s.store target (.ofAddress a) with stream := rest })
    | (.error e, rest) => return .error (.read e rest)

def after (s : Session) : Outcome → Session
  | .ok (_, s') => s'
  | .error _ => s

def run (s : Session) : List Command → List (Traced Outcome) × Session
  | [] => ([], s)
  | c :: cs =>
    let outcome := s.step c
    let (later, last) := (s.after outcome.result).run cs
    (outcome :: later, last)

end Session

end Inet

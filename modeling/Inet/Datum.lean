import Inet.Decimal.Layout
import Inet.Decimal.Literal
import Inet.Kind

/-!
Addresses and blocks inside structured data. A value is stored as its text, so only a text can be decoded; of any
other datum the error names the shape.
-/

namespace Inet

/-- A datum that is no text. What a sequence or a map holds never matters here. -/
inductive Shape where
  | null
  | truth (value : Bool)
  | number (value : Number)
  | sequence
  | map
  deriving Repr

inductive Datum where
  | text (value : String)
  | other (shape : Shape)
  deriving Repr

def Shape.name : Shape → String
  | null => "null"
  | truth value => s!"boolean `{value}`"
  | number (.integer value) => s!"integer `{value}`"
  | number (.double value) => "floating point `" ++ Decimal.textOf value ++ "`"
  | sequence => "sequence"
  | map => "map"

inductive DecodeError where
  | shape (found : Shape) (expected : Kind)
  | text (error : ParseError)
  deriving Repr

def DecodeError.message : DecodeError → String
  | shape found expected => s!"invalid type: {found.name}, expected {expected.noun}"
  | text error => error.message

@[simp] theorem DecodeError.message_text (error : ParseError) : (text error).message = error.message := rfl

namespace Kind

def encode (k : Kind) (x : k.Carrier) : Datum := .text (k.text x)

def decode (k : Kind) : Datum → Traced (Except DecodeError k.Carrier)
  | .text value => return (← k.read value).mapError .text
  | .other found => return .error (.shape found k)

end Kind

end Inet

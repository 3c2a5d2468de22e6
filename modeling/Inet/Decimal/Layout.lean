import Inet.Decimal.Shortest

/-!
Writing doubles. The digits are those of the shortest decimal. With the leading digit between the fifth place after
the point and the sixteenth before it a number is written out, with a digit on either side of the point; any other
has an exponent with a sign.
-/

namespace Inet

def zeros (n : Nat) : List Char := List.replicate n '0'

namespace Decimal

def chars (d : Decimal) : List Char :=
  let digits := Nat.toDigits 10 d.coefficient
  let leading := d.exponent + digits.length - 1
  if -5 ≤ leading ∧ leading ≤ 15 then
    if leading < 0 then ['0', '.'] ++ zeros (-leading - 1).toNat ++ digits
    else if 0 ≤ d.exponent then digits ++ zeros d.exponent.toNat ++ ['.', '0']
    else digits.take (leading + 1).toNat ++ '.' :: digits.drop (leading + 1).toNat
  else
    let point := if digits.length = 1 then digits else digits.take 1 ++ '.' :: digits.drop 1
    point ++ ['e', if leading < 0 then '-' else '+'] ++ Nat.toDigits 10 leading.natAbs

def textOf (x : Float) : String :=
  let sign := if x.toBits >>> 63 = 1 then "-" else ""
  match (RoundingInterval.ofFloat x).shortest? with
  | some d => sign ++ String.ofList d.chars
  | none => sign ++ "0.0"

end Decimal

end Inet

import Inet.Error

/-!
Telling the family of a text. Only the part before the first slash counts: any colon in it means v6, otherwise any
dot means v4.
-/

namespace Inet

def splitAtSlash (text : String) : String × Option String :=
  let cs := text.toList
  let before := cs.takeWhile (· != '/')
  match cs.drop before.length with
  | [] => (String.ofList before, none)
  | _ :: rest => (String.ofList before, some (String.ofList rest))

def Family.detect (text : String) : Except ParseError Family :=
  let cs := (splitAtSlash text).1.toList
  if cs.isEmpty then .error .missingAddress
  else if cs.contains ':' then .ok .v6
  else if cs.contains '.' then .ok .v4
  else .error .unknownFamily

theorem splitAtSlash_fst (text : String) : (splitAtSlash text).1.toList = text.toList.takeWhile (· != '/') := by
  unfold splitAtSlash
  dsimp only
  split <;> simp

end Inet

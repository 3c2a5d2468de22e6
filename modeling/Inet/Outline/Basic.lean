/-!
Outlines of structured values, as shown to someone who looks into a program. An outline is written on one line, or
spread over several lines with every part on its own line, indented by four spaces and followed by a comma.
-/

namespace Inet

inductive Enclosure where
  | round
  | square
  | curly
  deriving DecidableEq, Repr

namespace Enclosure

def opening : Enclosure → String
  | round => "("
  | square => "["
  | curly => " \x7b"

def closing : Enclosure → String
  | round => ")"
  | square => "]"
  | curly => "\x7d"

def padding : Enclosure → String
  | round | square => ""
  | curly => " "

end Enclosure

inductive Outline where
  | atom (text : String)
  | labelled (label : String) (body : Outline)
  | group (name : String) (enclosure : Enclosure) (parts : List Outline)
  deriving Repr

namespace Outline

def head : Outline → String
  | atom text => text
  | labelled label _ => label
  | group name _ _ => name

mutual

def line : Outline → String
  | atom text => text
  | labelled label body => s!"{label}: {body.line}"
  | group name enclosure parts =>
    name ++ enclosure.opening ++ enclosure.padding ++ ", ".intercalate (linesOf parts) ++ enclosure.padding ++
      enclosure.closing

def linesOf : List Outline → List String
  | [] => []
  | part :: parts => part.line :: linesOf parts

end

def putBefore (text : String) : List String → List String
  | [] => []
  | first :: rest => (text ++ first) :: rest

def endWithComma : List String → List String
  | [] => []
  | [last] => [last ++ ","]
  | first :: rest => first :: endWithComma rest

mutual

def spread : Outline → List String
  | atom text => [text]
  | labelled label body => putBefore s!"{label}: " body.spread
  | group name enclosure parts => (name ++ enclosure.opening) :: spreadParts parts ++ [enclosure.closing]

def spreadParts : List Outline → List String
  | [] => []
  | part :: parts => (endWithComma part.spread).map ("    " ++ ·) ++ spreadParts parts

end

def block (o : Outline) : String := "\n".intercalate o.spread

end Outline

end Inet

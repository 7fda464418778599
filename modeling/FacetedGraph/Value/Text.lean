import FacetedGraph.Value.Basic

/-!
# Texts of values

## Main definitions

* `Value.queryString` — a scalar as the text that queries compare and options offer.
* `Value.display` — a value as messages show it.
-/

namespace FacetedGraph

namespace Value

def boolText (b : Bool) : String := if b then "true" else "false"

/-- A scalar as text: a whole float keeps one place after the point. Null and what is built from
other values have no such text. -/
def queryString : Value → Option String
  | string s => some s
  | bool b => some (boolText b)
  | int n => some (integerText n.toInt)
  | float x => some (String.ofList (if x.isWhole then x.wholeText else x.text))
  | _ => none

/-- A text between quotes, with a backslash before each quote inside it. -/
def quoted (s : String) : String :=
  String.ofList ('"' :: s.toList.flatMap (fun c => if c = '"' then ['\\', '"'] else [c]) ++ ['"'])

mutual

/-- A value as messages show it. Graph elements show what identifies them. -/
def display : Value → String
  | null => "null"
  | bool b => boolText b
  | int n => integerText n.toInt
  | float x => String.ofList x.text
  | string s => quoted s
  | list items => "[" ++ ", ".intercalate (displayItems items) ++ "]"
  | map entries => "\x7b" ++ ", ".intercalate (displayFields entries) ++ "\x7d"
  | node n => "(" ++ n.id.text ++ ":" ++ ":".intercalate n.labels ++ ")"
  | relationship r =>
    "[" ++ r.id.text ++ ":" ++ r.type ++ " " ++ r.source.text ++ "->" ++ r.target.text ++ "]"
  | path p => "<path len " ++ numberText (Path.length p) ++ ">"
termination_by structural v => v

def displayItems : List Value → List String
  | [] => []
  | v :: vs => v.display :: displayItems vs
termination_by structural v => v

def displayFields : List (String × Value) → List String
  | [] => []
  | (k, v) :: rest => (k ++ ": " ++ v.display) :: displayFields rest
termination_by structural v => v

end

end Value

end FacetedGraph

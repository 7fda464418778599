/-!
# Property keys in query text

A key that is a plain identifier stands for itself. Any other key is quoted with grave accents,
and a grave accent inside it is written twice.

## Main definitions

* `Key.escape` — the written form of a key.
* `Key.read` — reads one identifier, plain or quoted, from the start of a text.
-/

namespace FacetedGraph.Key

/-- The quote of an identifier, a grave accent. -/
def quote : Char := '\x60'

def isLetter (c : Char) : Bool := ('a' ≤ c && c ≤ 'z') || ('A' ≤ c && c ≤ 'Z') || c == '_'

def isLetterOrDigit (c : Char) : Bool := isLetter c || ('0' ≤ c && c ≤ '9')

/-- Whether a key is a plain identifier. -/
def isPlain : List Char → Bool
  | [] => false
  | c :: cs => isLetter c && cs.all isLetterOrDigit

/-- A text with each quote in it written twice. -/
def doubleQuotes : List Char → List Char
  | [] => []
  | c :: cs => if c = quote then quote :: quote :: doubleQuotes cs else c :: doubleQuotes cs

/-- The written form of a key. -/
def escape (key : List Char) : List Char :=
  if isPlain key then key else quote :: (doubleQuotes key ++ [quote])

/-- Reads a quoted identifier after its opening quote, a quote written twice standing for one. -/
def readQuoted : List Char → Option (List Char × List Char)
  | [] => none
  | [c] => if c = quote then some ([], []) else none
  | c :: d :: rest =>
    if c = quote then
      if d = quote then (readQuoted rest).map fun p => (quote :: p.1, p.2)
      else some ([], d :: rest)
    else (readQuoted (d :: rest)).map fun p => (c :: p.1, p.2)

/-- Reads one identifier from the start of a text and gives what is left. -/
def read : List Char → Option (List Char × List Char)
  | [] => none
  | c :: cs =>
    if c = quote then readQuoted cs
    else if isLetter c then
      some (c :: cs.takeWhile isLetterOrDigit, cs.dropWhile isLetterOrDigit)
    else none

/-- `escape` on strings. -/
def escaped (key : String) : String := String.ofList (escape key.toList)

end FacetedGraph.Key

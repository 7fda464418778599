import FacetedGraph.Json.Numeral

/-!
# Reading JSON text

The grammar is that of the JSON standard. Arrays and objects nest at most 127 deep, and of two
members of an object with one name the last counts.

## Main definitions

* `Json.parse` — the tree of a text.
-/

namespace FacetedGraph.Json

def isSpace (c : Char) : Bool := c == ' ' || c == '\t' || c == '\n' || c == '\r'

def skipSpace (cs : List Char) : List Char := cs.dropWhile isSpace

/-! ## Strings -/

def hexValue (c : Char) : Option Nat :=
  if '0' ≤ c ∧ c ≤ '9' then some (c.toNat - 48)
  else if 'a' ≤ c ∧ c ≤ 'f' then some (c.toNat - 87)
  else if 'A' ≤ c ∧ c ≤ 'F' then some (c.toNat - 55)
  else none

/-- The number that four hexadecimal digits stand for. -/
def codeUnit (a b c d : Char) : Option Nat := do
  return 4096 * (← hexValue a) + 256 * (← hexValue b) + 16 * (← hexValue c) + (← hexValue d)

/-- The character of an escape with a single letter. -/
def escaped : Char → Option Char
  | '"' => some '"'
  | '\\' => some '\\'
  | '/' => some '/'
  | 'b' => some '\x08'
  | 'f' => some '\x0c'
  | 'n' => some '\n'
  | 'r' => some '\r'
  | 't' => some '\t'
  | _ => none

/-- Reads a string up to its closing quote. A code unit of the upper half of a pair waits in
`pending` for the escape of its lower half, which has to follow at once. -/
def readString (pending : Option Nat) (done : List Char) :
    List Char → Option (List Char × List Char)
  | [] => none
  | '\\' :: 'u' :: a :: b :: c :: d :: rest =>
    match codeUnit a b c d, pending with
    | none, _ => none
    | some u, none =>
      if 0xd800 ≤ u ∧ u < 0xdc00 then readString (some u) done rest
      else if 0xdc00 ≤ u ∧ u < 0xe000 then none
      else readString none (Char.ofNat u :: done) rest
    | some u, some high =>
      if 0xdc00 ≤ u ∧ u < 0xe000 then
        readString none (Char.ofNat (0x10000 + (high - 0xd800) * 0x400 + (u - 0xdc00)) :: done) rest
      else none
  | '\\' :: c :: rest =>
    match escaped c, pending with
    | some e, none => readString none (e :: done) rest
    | _, _ => none
  | c :: rest =>
    if pending.isSome then none
    else if c = '"' then some (done.reverse, rest)
    else if c.toNat < 0x20 then none
    else readString none (c :: done) rest

/-! ## Values -/

mutual

/-- Reads a value that may hold `depth` levels of arrays and objects. -/
def readValue (depth : Nat) : Nat → List Char → Option (Json × List Char)
  | 0, _ => none
  | fuel + 1, cs =>
    match skipSpace cs with
    | 'n' :: 'u' :: 'l' :: 'l' :: rest => some (null, rest)
    | 't' :: 'r' :: 'u' :: 'e' :: rest => some (bool true, rest)
    | 'f' :: 'a' :: 'l' :: 's' :: 'e' :: rest => some (bool false, rest)
    | '"' :: rest => (readString none [] rest).map fun p => (string (String.ofList p.1), p.2)
    | '[' :: rest =>
      if depth = 0 then none
      else match skipSpace rest with
        | ']' :: rest => some (array [], rest)
        | rest => readItems (depth - 1) [] fuel rest
    | '\x7b' :: rest =>
      if depth = 0 then none
      else match skipSpace rest with
        | '\x7d' :: rest => some (object [], rest)
        | rest => readMembers (depth - 1) [] fuel rest
    | rest => readNumber rest

/-- Reads the items of an array up to its closing bracket. -/
def readItems (depth : Nat) (done : List Json) : Nat → List Char → Option (Json × List Char)
  | 0, _ => none
  | fuel + 1, cs =>
    match readValue depth fuel cs with
    | none => none
    | some (item, rest) =>
      match skipSpace rest with
      | ',' :: rest => readItems depth (item :: done) fuel rest
      | ']' :: rest => some (array (item :: done).reverse, rest)
      | _ => none

/-- Reads the members of an object up to its closing brace. -/
def readMembers (depth : Nat) (done : Fields Json) : Nat → List Char → Option (Json × List Char)
  | 0, _ => none
  | fuel + 1, cs =>
    match skipSpace cs with
    | '"' :: rest =>
      match readString none [] rest with
      | none => none
      | some (name, rest) =>
        match skipSpace rest with
        | ':' :: rest =>
          match readValue depth fuel rest with
          | none => none
          | some (item, rest) =>
            let fields := done.insert (String.ofList name) item
            match skipSpace rest with
            | ',' :: rest => readMembers depth fields fuel rest
            | '\x7d' :: rest => some (object fields, rest)
            | _ => none
        | _ => none
    | _ => none

end

/-- The tree of a text. Every step of the reader takes a character, or goes from a container to
its first item, so twice the length is enough fuel. -/
def parse (text : String) : Option Json :=
  let cs := text.toList
  match readValue 127 (2 * cs.length + 2) cs with
  | some (j, rest) => if (skipSpace rest).isEmpty then some j else none
  | none => none

end FacetedGraph.Json

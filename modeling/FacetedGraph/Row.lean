import FacetedGraph.Error
import FacetedGraph.Value.Basic

/-!
# Rows

A row of a result holds values in named columns, in the order in which the query returns them. A
column is read by name and by the type that is expected of it; of columns with one name the first
is read.

## Main definitions

* `Row`, `Row.value?`.
* `Row.read` — the typed reading of a column.
* `Read.node`, `Read.relationship`, `Read.string`, `Read.int`, `Read.float`, `Read.nullable`,
  `Read.list` — the types that a column may be read as.
-/

namespace FacetedGraph

structure Row where
  columns : List (String × Value)

namespace Row

/-- The value in the first column of a name. -/
def value? (row : Row) (column : String) : Option Value := Fields.get? row.columns column

def values (row : Row) : List Value := row.columns.map Prod.snd

/-- Reads a column with a reader. -/
def read {α : Type} (row : Row) (column : String) (reader : Value → Except Error α) :
    Except Error α :=
  match row.value? column with
  | some v => reader v
  | none => .error (.notFound (.column column))

end Row

namespace Read

variable {α : Type}

/-- The error of a value that is not of the expected type. -/
def mismatch (expected : String) (v : Value) : Except Error α :=
  .error (.typeError expected v.typeName)

def value (v : Value) : Except Error Value := .ok v

def node : Value → Except Error Node
  | .node n => .ok n
  | v => mismatch "Node" v

def relationship : Value → Except Error Relationship
  | .relationship r => .ok r
  | v => mismatch "Relationship" v

def string : Value → Except Error String
  | .string s => .ok s
  | v => mismatch "String" v

/-- Takes whole floats too. -/
def int (v : Value) : Except Error Int64 :=
  match v.asInt with
  | some n => .ok n
  | none => mismatch "Integer" v

/-- Takes integers too. -/
def float (v : Value) : Except Error Binary64 :=
  match v.asFloat with
  | some x => .ok x
  | none => mismatch "Float" v

/-- Null is read as absence. -/
def nullable (reader : Value → Except Error α) : Value → Except Error (Option α)
  | .null => .ok none
  | v => (reader v).map some

/-- Reads every item of a list; null is the empty list. -/
def list (reader : Value → Except Error α) : Value → Except Error (List α)
  | .list items => items.mapM reader
  | .null => .ok []
  | v => mismatch "List" v

end Read

end FacetedGraph

import FacetedGraph.Error
import FacetedGraph.Json.Decode

/-!
# Kinds of entities

The four kinds of entity that a filter can name, each with its label in the store and the name of
the parameter that holds the entities selected of it.

## Main definitions

* `EntityKind`, `EntityKind.all`.
* `EntityKind.label`, `EntityKind.parameter`.
* `EntityKind.parse` — the kind that a label names, in any case.
-/

namespace FacetedGraph

inductive EntityKind
  | consultant
  | fieldConsultant
  | company
  | product
  deriving DecidableEq

namespace EntityKind

def all : List EntityKind := [consultant, fieldConsultant, company, product]

/-- The label that nodes of the kind carry. -/
def label : EntityKind → String
  | consultant => "CONSULTANT"
  | fieldConsultant => "FIELD_CONSULTANT"
  | company => "COMPANY"
  | product => "PRODUCT"

/-- The parameter that holds the names or identities selected of the kind. -/
def parameter : EntityKind → String
  | consultant => "consultant"
  | fieldConsultant => "field_consultant"
  | company => "company"
  | product => "product"

/-- The kind whose label is the text, in any case and with blanks around it. -/
def parse (s : String) : Except Error EntityKind :=
  let word := (trimBlank s.toList).map Char.toUpper
  match all.find? fun k => k.label.toList == word with
  | some k => .ok k
  | none => .error (.invalidParameter (.unknownEntityKind s))

def toJson (k : EntityKind) : Json := .string k.label

def ofJson (j : Json) : Option EntityKind := j.asName (all.map fun k => (k.label, k))

end EntityKind

end FacetedGraph

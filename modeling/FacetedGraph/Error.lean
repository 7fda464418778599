import FacetedGraph.Identity
import FacetedGraph.Text.Duration

/-!
# Errors

Why a request is refused or fails. Each error names its cause; the wording is in
`Error.message` alone.

## Main definitions

* `ParameterFault`, `OutageCause`, `PlanFault`, `Missing` — the causes that have some detail.
* `Error` — the errors.
* `Error.message` — the text of an error.
* `Error.isInvalidParameter`, `Error.isConnectivity` — what callers tell apart.
-/

namespace FacetedGraph

/-- What is wrong with a parameter. -/
inductive ParameterFault
  | notNodeIdentity (text : String)
  | notRelationshipIdentity (text : String)
  | unknownEntityKind (text : String)
  | unknownRecommender (text : String)
  | outOfRange (what : String) (max got : Nat)
  | sharedEndpoint (node : NodeId)
  | subjectFilters (pattern : String)
  | noSeeds
  | noConsultants
  | other (text : String)
  deriving DecidableEq

/-- When a store was found to be gone. -/
inductive OutageCause
  | atConnecting
  | whileConnected
  | other (text : String)
  deriving DecidableEq

/-- Why a plan cannot be evaluated. -/
inductive PlanFault
  | unbound (parameter : String)
  | relationPredicateOnNode
  | nodePredicateOnRelation
  | other (text : String)
  deriving DecidableEq

/-- What was looked for in vain. -/
inductive Missing
  | column (name : String)
  | sourceNode (id : NodeId)
  | targetNode (id : NodeId)
  | other (text : String)
  deriving DecidableEq

inductive Error
  | invalidParameter (fault : ParameterFault)
  | incompatibleFilter (dimension pattern : String)
  | storeUnavailable (cause : OutageCause)
  | storeTimeout (limit : Option Nat)
  | queryCompilation (fault : PlanFault)
  | typeError (expected got : String)
  | notFound (what : Missing)
  | storageError (text : String)
  | configuration (text : String)
  deriving DecidableEq

def ParameterFault.message : ParameterFault → String
  | notNodeIdentity s => "'" ++ s ++ "' is not a node identity"
  | notRelationshipIdentity s => "'" ++ s ++ "' is not a relationship identity"
  | unknownEntityKind s => "unknown entity type '" ++ s ++ "'"
  | unknownRecommender s => "unknown recommendation type '" ++ s ++ "'"
  | outOfRange what max got =>
    what ++ " must be within 1..=" ++ numberText max ++ ", got " ++ numberText got
  | sharedEndpoint id => "node " ++ id.text ++ " is both a path source and a path target"
  | subjectFilters pattern => "pattern '" ++ pattern ++ "' does not take subject filters"
  | noSeeds => "expansion needs at least one seed"
  | noConsultants => "influence network needs at least one consultant"
  | other s => s

def OutageCause.message : OutageCause → String
  | atConnecting => "memory store is offline"
  | whileConnected => "memory store went offline"
  | other s => s

def PlanFault.message : PlanFault → String
  | unbound parameter => "unbound parameter $" ++ parameter
  | relationPredicateOnNode => "relation predicate in vertex position"
  | nodePredicateOnRelation => "vertex predicate in relation position"
  | other s => s

def Missing.message : Missing → String
  | column name => "Column '" ++ name ++ "'"
  | sourceNode id => "Source node " ++ id.text
  | targetNode id => "Target node " ++ id.text
  | other s => s

namespace Error

/-- The text of an error. A timeout names the limit when the caller set one. -/
def message : Error → String
  | invalidParameter fault => "Invalid parameter: " ++ fault.message
  | incompatibleFilter dimension pattern =>
    "Filter on " ++ dimension ++ " needs a relation binding, which " ++ pattern ++ " does not have"
  | storeUnavailable cause => "Graph store unavailable: " ++ cause.message
  | storeTimeout none => "Graph store timed out"
  | storeTimeout (some ms) => "Graph store timed out after " ++ String.ofList (durationText ms)
  | queryCompilation fault => "Query compilation error: " ++ fault.message
  | typeError expected got => "Type error: expected " ++ expected ++ ", got " ++ got
  | notFound what => "Not found: " ++ what.message
  | storageError text => "Storage error: " ++ text
  | configuration text => "Configuration error: " ++ text

/-- Whether the request was refused for what it asks. -/
def isInvalidParameter : Error → Bool
  | invalidParameter _ | incompatibleFilter _ _ => true
  | _ => false

/-- Whether the store could not be reached. -/
def isConnectivity : Error → Bool
  | storeUnavailable _ => true
  | _ => false

end Error

/-- A node identity from its text. -/
def NodeId.parse (s : String) : Except Error NodeId :=
  match parseIdentity s with
  | some n => .ok ⟨n⟩
  | none => .error (.invalidParameter (.notNodeIdentity s))

/-- A relationship identity from its text. -/
def RelationshipId.parse (s : String) : Except Error RelationshipId :=
  match parseIdentity s with
  | some n => .ok ⟨n⟩
  | none => .error (.invalidParameter (.notRelationshipIdentity s))

end FacetedGraph

import FacetedGraph.Distinct
import FacetedGraph.Facet.Basic
import FacetedGraph.Row

/-!
# Options

What can be selected in each facet. The facets are resolved one by one from rows, and one that
fails is left empty and noted with its reason; only a store that cannot be reached makes the whole
fail.

## Main definitions

* `FacetOptions`, with `values?` and `entities?` by facet.
* `FacetOptions.fill` — the options of a facet from its rows.
* `FacetOptions.resolve` — the options of all facets from what their queries gave.
* `FacetOptions.toJson`, `FacetOptions.ofJson`.
-/

namespace FacetedGraph

/-- An entity that can be selected. -/
structure EntityChoice where
  id : String
  name : String
  deriving DecidableEq

namespace EntityChoice

/-- By name, and of one name by identity. -/
def before (a b : EntityChoice) : Bool := ((compare a.name b.name).then (compare a.id b.id)).isLE

/-- The choice of a row. An entity without a name goes by its identity. -/
def ofRow (row : Row) : Except Error EntityChoice := do
  let id ← row.read "id" Read.string
  let name ← row.read "name" (Read.nullable Read.string)
  return { id, name := name.getD id }

def toJson (e : EntityChoice) : Json := .record [("id", .string e.id), ("name", .string e.name)]

def ofJson (j : Json) : Option EntityChoice := do
  let fields ← j.asObject
  return {
    id := ← Json.required fields ["id"] Json.asString
    name := ← Json.required fields ["name"] Json.asString }

end EntityChoice

/-- Whether a facet offers entities, not texts. -/
def Facet.offersEntities (facet : Facet) : Bool :=
  match facet.source with
  | .entity _ => true
  | _ => false

/-- The options of every facet. A facet has entities or texts, by what it offers. -/
structure FacetOptions where
  regions : List String
  texts : Facet → List String := fun _ => []
  entities : Facet → List EntityChoice := fun _ => []
  /-- The facets that failed, with the reason. -/
  degraded : List (Facet × String) := []

namespace FacetOptions

/-- No options but the regions. -/
def start : FacetOptions := { regions := staticRegions }

/-- The texts of a facet that offers texts. -/
def values? (o : FacetOptions) (facet : Facet) : Option (List String) :=
  if facet.offersEntities then none else some (o.texts facet)

/-- The entities of a facet that offers entities. -/
def entities? (o : FacetOptions) (facet : Facet) : Option (List EntityChoice) :=
  if facet.offersEntities then some (o.entities facet) else none

def isDegraded (o : FacetOptions) : Bool := !o.degraded.isEmpty

def setTexts (o : FacetOptions) (facet : Facet) (texts : List String) : FacetOptions :=
  { o with texts := fun e => if e = facet then texts else o.texts e }

def setEntities (o : FacetOptions) (facet : Facet) (entities : List EntityChoice) :
    FacetOptions :=
  { o with entities := fun e => if e = facet then entities else o.entities e }

/-- Notes that a facet failed. -/
def degrade (o : FacetOptions) (facet : Facet) (reason : String) : FacetOptions :=
  { o with degraded := o.degraded ++ [(facet, reason)] }

/-- The texts that rows offer, in ascending order and without the empty one. -/
def textsOfRows (rows : List Row) : Except Error (List String) := do
  return ascending ((← rows.mapM (·.read "value" Read.string)).filter (· ≠ ""))

/-- The entities that rows offer, in ascending order. -/
def entitiesOfRows (rows : List Row) : Except Error (List EntityChoice) := do
  return distinct ((← rows.mapM EntityChoice.ofRow).mergeSort EntityChoice.before)

/-- Takes the options of a facet from its rows. -/
def fill (o : FacetOptions) (facet : Facet) (rows : List Row) : Except Error FacetOptions :=
  if facet.offersEntities then (entitiesOfRows rows).map (o.setEntities facet)
  else (textsOfRows rows).map (o.setTexts facet)

/-- Takes what the query of a facet gave. -/
def take (o : FacetOptions) (facet : Facet) (outcome : Except Error (List Row)) :
    Except Error FacetOptions :=
  match outcome with
  | .ok rows =>
    match o.fill facet rows with
    | .ok o => .ok o
    | .error e => .ok (o.degrade facet e.message)
  | .error e => if e.isConnectivity then .error e else .ok (o.degrade facet e.message)

/-- Takes what the queries of all facets gave, in order. -/
def resolve (outcomes : List (Facet × Except Error (List Row))) : Except Error FacetOptions :=
  outcomes.foldlM (fun o p => o.take p.1 p.2) start

/-! ## JSON form -/

/-- The field of a facet. -/
def fieldOf (o : FacetOptions) (facet : Facet) : String × Json :=
  (facet.name,
    if facet.offersEntities then .ofList EntityChoice.toJson (o.entities facet)
    else .strings (o.texts facet))

def toJson (o : FacetOptions) : Json :=
  .record (("regions", .strings o.regions) :: Facet.all.map o.fieldOf ++
    if o.isDegraded then
      [("degraded", .record (o.degraded.map fun p => (p.1.name, .string p.2)))]
    else [])

/-- Reads the field of a facet, which has to be there. -/
def readField (fields : Fields Json) (o : FacetOptions) (facet : Facet) : Option FacetOptions :=
  if facet.offersEntities then
    (Json.required fields [facet.name] (Json.asList EntityChoice.ofJson)).map (o.setEntities facet)
  else (Json.required fields [facet.name] (Json.asList Json.asString)).map (o.setTexts facet)

/-- Reads the reasons of failed facets. -/
def degradedOfJson (j : Json) : Option (List (Facet × String)) := do
  (← j.asObject).mapM fun p => return (← Facet.ofName? p.1, ← p.2.asString)

def ofJson (j : Json) : Option FacetOptions := do
  let fields ← j.asObject
  let regions ← Json.required fields ["regions"] (Json.asList Json.asString)
  let filled ← Facet.all.foldlM (readField fields) { regions }
  return { filled with degraded := ← Json.withDefault fields ["degraded"] [] degradedOfJson }

end FacetOptions

end FacetedGraph

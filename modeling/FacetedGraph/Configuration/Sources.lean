import FacetedGraph.Configuration.Basic
import FacetedGraph.Configuration.Settings
import FacetedGraph.Json.Reader

/-!
# Sources of configuration

A configuration is put together from a JSON file and from environment variables, which override
the file.

## Main definitions

* `Settings.ofFile` — the settings in the text of a file.
* `Settings.withEnvironment` — settings overridden by environment variables.
* `Configuration.findFile` — the file that a path leads to.
* `Configuration.load`, `Configuration.loadFrom` — a configuration from the usual file or from a
  file that is named.
-/

namespace FacetedGraph

namespace Settings

/-! ## Files -/

/-- The settings in the text of a file, which has to be a JSON object. Its names are keys. -/
def ofFile (text : String) : Option Settings := do
  let fields ← (← Json.parse text).asObject
  fields.foldlM (fun settings p => assign p.2 (pathOf p.1) settings) (.object [])

/-! ## Environment -/

/-- How the names of variables begin, in any case. -/
def variableStart : List Char := "graphfilter__".toList

/-- A text with each pair of underscores made a point. -/
def pointsForPairs : List Char → List Char
  | '_' :: '_' :: cs => '.' :: pointsForPairs cs
  | c :: cs => c :: pointsForPairs cs
  | [] => []

/-- The key that a variable sets, if it sets one. -/
def keyOf (variableName : String) : Option String :=
  let name := variableName.toList.map lowerCase
  if name.take variableStart.length = variableStart then
    some (String.ofList (pointsForPairs (name.drop variableStart.length)))
  else none

/-- The value of a variable: a truth value, a whole number, a binary64 number or a text. -/
def valueOf (text : String) : Settings :=
  let cs := text.toList
  let word := cs.map lowerCase
  if word = "true".toList then .bool true
  else if word = "false".toList then .bool false
  else match readInteger cs with
    | some n => .int n
    | none => match Binary64.read cs with
      | some x => .real x
      | none => .string text

/-- Settings overridden by environment variables. -/
def withEnvironment (settings : Settings) (environment : List (String × String)) :
    Option Settings :=
  environment.foldlM
    (fun settings p => match keyOf p.1 with
      | some key => assign (valueOf p.2) (pathOf key) settings
      | none => some settings) settings

end Settings

namespace Configuration

/-! ## Finding the file -/

/-- The name of the usual file, without its extension. -/
def usualFile : String := "graphfilter"

def extension : List Char := ".json".toList

/-- Whether the name of a file says that it is JSON: it is more than the extension. -/
def isJsonFile (name : List Char) : Bool :=
  name.length > extension.length && extension.isSuffixOf name

/-- The name in the working directory that a path leads to, without steps that lead nowhere. Paths
from the root and paths that go up lead to none. -/
def nameOf (path : List Char) : Option (List Char) :=
  let parts := (Settings.cutAt '/' path).filter fun part => part != [] && part != ['.']
  if path.head? = some '/' || parts.isEmpty || parts.contains ['.', '.'] then none
  else some (['/'].intercalate parts)

/-- The text of the file that a path leads to: of one that it names, which has to be JSON, or else
of the JSON file that it names without the extension. A path that ends in a step that leads nowhere
names no file itself. -/
def findFile (files : List (String × String)) (path : String) : Option String := do
  let last := ((Settings.cutAt '/' path.toList).getLast?).getD []
  let name ← nameOf path.toList
  match files.lookup (String.ofList name) with
  | some text =>
    if last = [] ∨ last = ['.'] then files.lookup (String.ofList (name ++ extension))
    else if isJsonFile last then some text
    else none
  | none => files.lookup (String.ofList (name ++ extension))

/-! ## Loading -/

/-- The configuration that settings describe. -/
def ofSettings (settings : Settings) : Option Configuration :=
  settings.asObject.bind (ofFields Settings.asNumber)

/-- The configuration from the file that a path leads to, which has to be there, and the
environment. -/
def loadFrom (files environment : List (String × String)) (path : String) :
    Option Configuration := do
  let settings ← Settings.ofFile (← findFile files path)
  ofSettings (← settings.withEnvironment environment)

/-- The configuration from the usual file, if it is there, and the environment. -/
def load (files environment : List (String × String)) : Option Configuration := do
  let settings ← match findFile files usualFile with
    | some text => Settings.ofFile text
    | none => some (.object [])
  ofSettings (← settings.withEnvironment environment)

end Configuration

end FacetedGraph

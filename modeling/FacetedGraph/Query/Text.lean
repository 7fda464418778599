import FacetedGraph.Filter.Conditions
import FacetedGraph.Filter.Request
import FacetedGraph.Facet.Basic
import FacetedGraph.Query.Key
import FacetedGraph.Query.Pattern

/-!
# Query text

The text of a query is put together from fixed pieces and from references to parameters. What a
caller selects is never in the text, only the parameters that hold it are named.

## Main definitions

* `Piece`, `Template`, `Template.render`.
* `Template.predicate` — the condition of a predicate.
* `Template.fetch`, `Template.relationalFetch`, `Template.options`,
  `Template.expansion`, `Template.paths`, `Template.recommendation`,
  `Template.influence`, `Template.detail` — the text of each pattern.
-/

namespace FacetedGraph

/-- A piece of a text: a fixed one, or a reference to a parameter. -/
inductive Piece
  | fixed (s : String)
  | parameter (name : String)
  deriving DecidableEq

def Piece.render : Piece → String
  | fixed s => s
  | parameter name => "$" ++ name

abbrev Template := List Piece

namespace Template

open Piece (fixed parameter)

/-- The text that the pieces make up. -/
def render (t : Template) : String := String.join (t.map Piece.render)

/-- The parameters that the text refers to, in order. -/
def references (t : Template) : List String :=
  t.filterMap fun
    | parameter name => some name
    | fixed _ => none

/-- The templates one after the other, with a fixed text between them. -/
def joined (separator : String) : List Template → Template
  | [] => []
  | [t] => t
  | t :: ts => t ++ fixed separator :: joined separator ts

/-! ## Predicates -/

/-- A property as a list: a list as it is, a scalar alone, null as nothing. -/
def listShape (property : String) : String :=
  "CASE WHEN " ++ property ++ " IS NULL THEN [] WHEN valueType(" ++ property ++
    ") STARTS WITH 'LIST' THEN " ++ property ++ " ELSE [" ++ property ++ "] END"

/-- A property of what a variable stands for. -/
def property (var key : String) : String := var ++ "." ++ Key.escaped key

/-- The condition that a property holds one of the values of a parameter, alone or in a list. -/
def propertyHolds (property param : String) : Template :=
  [fixed (property ++ " IN "), parameter param,
    fixed (" OR any(x IN " ++ listShape property ++ " WHERE x IN "), parameter param, fixed ")"]

/-- The comparison of a bound. -/
def comparison : Bound → String
  | .min => ">="
  | .max => "<="

/-- The condition of a predicate. -/
def predicate : Predicate → Template
  | .propertyIn var keys param =>
    fixed "(" :: joined " OR " (keys.map fun k => propertyHolds (property var k) param) ++
      [fixed ")"]
  | .labelIn var param =>
    [fixed ("any(label IN labels(" ++ var ++ ") WHERE label IN "), parameter param, fixed ")"]
  | .identifier var kind param =>
    [fixed ("(" ++ var ++ ":" ++ kind.label ++ " AND (" ++ var ++ ".name IN "), parameter param,
      fixed (" OR toString(id(" ++ var ++ ")) IN "), parameter param, fixed "))"]
  | .relationPropertyIn var key param =>
    [fixed (property var key ++ " IN "), parameter param]
  | .relationBound var key bound param cast =>
    let subject := if cast then "toFloat(" ++ property var key ++ ")" else property var key
    [fixed (subject ++ " " ++ comparison bound ++ " "), parameter param]

/-- The conditions that all have to hold; nothing where there are none. -/
def conditions : List Predicate → Template
  | [] => []
  | ps => fixed "\nWHERE " :: joined "\n  AND " (ps.map predicate)

/-! ## Filtered fetch -/

/-- What is given back of the surroundings of each subject. -/
def surroundings : Neighborhood → String
  | .subject => "\nRETURN n, [] AS relationships, [] AS connected_nodes"
  | .oneHop =>
    "\nOPTIONAL MATCH (n)-[r1]-(m1)" ++
    "\nRETURN n, collect(DISTINCT r1) AS relationships, collect(DISTINCT m1) AS connected_nodes" ++
    "\nORDER BY id(n)"
  | .twoHop =>
    "\nOPTIONAL MATCH (n)-[r1]-(m1)" ++
    "\nOPTIONAL MATCH (m1)-[r2]-(m2)" ++
    "\nRETURN n," ++
    "\n       collect(DISTINCT r1) + collect(DISTINCT r2) AS relationships," ++
    "\n       collect(DISTINCT m1) + collect(DISTINCT m2) AS connected_nodes" ++
    "\nORDER BY id(n)"

/-- The page of an answer that is in the order of identities. -/
def pageClause : Template :=
  [fixed " ORDER BY id(n) SKIP ", parameter "offset", fixed " LIMIT ", parameter "limit"]

def fetch (node : List Predicate) (neighborhood : Neighborhood) : Template :=
  fixed "MATCH (n)" :: conditions node ++ fixed "\nWITH n" :: pageClause ++
    [fixed (surroundings neighborhood)]

/-- With predicates over a relationship, only subjects with a matching one are found. -/
def relationalFetch (node relation : List Predicate) : Template :=
  fixed "MATCH (n)-[r]-(m)" :: conditions (node ++ relation) ++
    [fixed ("\nWITH n, collect(DISTINCT r) AS relationships, " ++
        "collect(DISTINCT m) AS connected_nodes" ++
        "\nORDER BY id(n) SKIP "), parameter "offset", fixed " LIMIT ", parameter "limit",
      fixed "\nRETURN n, relationships, connected_nodes"]

/-! ## Options -/

/-- The subjects and their neighbours, each once. -/
def scope : String :=
  "\nOPTIONAL MATCH (n)--(m)" ++
  "\nWITH collect(DISTINCT n) + collect(DISTINCT m) AS scope" ++
  "\nUNWIND scope AS x" ++
  "\nWITH DISTINCT x"

/-- The texts of the values found, each once and in order. -/
def distinctTexts : String :=
  "\nWITH value WHERE value IS NOT NULL AND toString(value) <> ''" ++
  "\nRETURN DISTINCT toString(value) AS value" ++
  "\nORDER BY value"

/-- Where the options of a facet are found. -/
def offered : FacetSource → String
  | .property d =>
    scope ++ "\nUNWIND [k IN [" ++ ", ".intercalate (d.keys.map fun k => "'" ++ k ++ "'") ++
      "] | x[k]] AS raw" ++ "\nUNWIND " ++ listShape "raw" ++ " AS value" ++ distinctTexts
  | .entity kind =>
    scope ++ "\nWITH x WHERE x:" ++ kind.label ++
      "\nRETURN toString(id(x)) AS id, toString(x.name) AS name" ++ "\nORDER BY name, id"
  | .rating key =>
    "\nMATCH (n)-[r:RATES]-()" ++ "\nWITH DISTINCT r" ++
      "\nUNWIND " ++ listShape (property "r" key) ++ " AS value" ++ distinctTexts

def options (node : List Predicate) (facet : Facet) : Template :=
  fixed "MATCH (n)" :: conditions node ++ [fixed (offered facet.source)]

/-! ## Traversals -/

def expansion : Template :=
  [fixed "MATCH (seed) WHERE id(seed) IN ", parameter "seed_ids",
    fixed "\nCALL apoc.path.expandConfig(seed, \x7bminLevel: 0, maxLevel: ", parameter "depth",
    fixed (", bfs: true, uniqueness: 'NODE_GLOBAL'\x7d)" ++
      "\nYIELD path" ++
      "\nWITH collect(DISTINCT last(nodes(path))) AS reached, collect(path) AS paths" ++
      "\nWITH reached, reduce(acc = [], p IN paths | acc + relationships(p)) AS rels" ++
      "\nUNWIND reached AS n" ++
      "\nWITH n, rels")] ++ pageClause ++
  [fixed ("\nRETURN n, [rel IN rels WHERE startNode(rel) = n] AS relationships, " ++
    "[] AS connected_nodes")]

def paths : Template :=
  [fixed "MATCH (source) WHERE id(source) IN ", parameter "source_ids",
    fixed "\nMATCH (target) WHERE id(target) IN ", parameter "target_ids",
    fixed (" AND id(source) <> id(target)" ++
      "\nCALL apoc.algo.dijkstra(source, target, '', 'weight', 1.0)" ++
      "\nYIELD path, weight" ++
      "\nWITH path, weight WHERE length(path) <= "), parameter "max_depth",
    fixed ("\nRETURN nodes(path) AS path_nodes, relationships(path) AS path_relationships, " ++
      "weight" ++ "\nORDER BY weight, length(path)")]

def influence : Template :=
  [fixed "MATCH (c:CONSULTANT) WHERE id(c) IN ", parameter "consultant_ids",
    fixed ("\nOPTIONAL MATCH (c)-[e:EMPLOYS]->(fc:FIELD_CONSULTANT)" ++
      "\nOPTIONAL MATCH (fc)-[cov:COVERS]->(covered) WHERE covered:COMPANY OR covered:PRODUCT" ++
      "\nOPTIONAL MATCH (covered)-[own:OWNS]->(owned:PRODUCT)" ++
      "\nOPTIONAL MATCH (c)-[rat:RATES]->(rated:PRODUCT)" ++
      "\nRETURN c AS consultant," ++
      "\n       collect(DISTINCT fc) + collect(DISTINCT covered) + collect(DISTINCT owned) + " ++
      "collect(DISTINCT rated) AS connected_nodes," ++
      "\n       collect(DISTINCT e) + collect(DISTINCT cov) + collect(DISTINCT own) + " ++
      "collect(DISTINCT rat) AS relationships" ++
      "\nORDER BY id(c)")]

def detail : Template :=
  [fixed "MATCH (n) WHERE id(n) = ", parameter "node_id",
    fixed ("\nOPTIONAL MATCH (n)-[r]-(m)" ++
      "\nRETURN n, collect(r) AS relationships, collect(m) AS connected_nodes")]

/-- How a recommender finds and scores its candidates. -/
def candidates : Recommender → String
  | .similarEntities =>
    "MATCH (candidate)" ++
    "\nWHERE id(candidate) <> id(seed) AND " ++
    "any(label IN labels(candidate) WHERE label IN labels(seed))" ++
    "\nWITH seed, candidate, " ++
    "[k IN keys(seed) WHERE NOT valueType(seed[k]) STARTS WITH 'LIST'] AS seed_keys" ++
    "\nWITH seed, candidate, seed_keys, " ++
    "size([k IN seed_keys WHERE candidate[k] = seed[k]]) AS shared" ++
    "\nOPTIONAL MATCH (seed)--(common)--(candidate)" ++
    "\nWITH candidate, seed_keys, shared, count(DISTINCT common) AS common_neighbors" ++
    "\nWITH candidate," ++
    "\n     CASE WHEN size(seed_keys) = 0 THEN 0.0 ELSE toFloat(shared) / size(seed_keys) END " ++
    "+ common_neighbors AS score" ++
    "\nWHERE score > 0"
  | .potentialConnections =>
    "MATCH (seed)--(via)--(candidate)" ++
    "\nWHERE id(candidate) <> id(seed) AND NOT (seed)--(candidate)" ++
    "\nWITH candidate, toFloat(count(DISTINCT via)) AS score"
  | .expansionOpportunities =>
    "OPTIONAL MATCH (seed)--(neighbor)" ++
    "\nWITH seed, collect(DISTINCT neighbor) AS neighbors" ++
    "\nWITH seed," ++
    "\n     [x IN neighbors | head(labels(x))] AS known_labels," ++
    "\n     reduce(acc = [], x IN neighbors | acc + " ++ listShape "x.region" ++
    ") AS known_regions," ++
    "\n     reduce(acc = [], x IN neighbors | acc + " ++ listShape "x.channel" ++
    ") AS known_channels" ++
    "\nMATCH (candidate) WHERE id(candidate) <> id(seed)" ++
    "\nWITH candidate, known_labels, known_regions, known_channels," ++
    "\n     " ++ listShape "candidate.region" ++ " AS regions," ++
    "\n     " ++ listShape "candidate.channel" ++ " AS channels" ++
    "\nWITH candidate," ++
    "\n     head(labels(candidate)) IS NOT NULL AND " ++
    "NOT head(labels(candidate)) IN known_labels AS novel_label," ++
    "\n     size(regions) > 0 AND none(v IN regions WHERE v IN known_regions) AS novel_region," ++
    "\n     size(channels) > 0 AND none(v IN channels WHERE v IN known_channels) " ++
    "AS novel_channel" ++
    "\nWHERE novel_label OR novel_region OR novel_channel" ++
    "\nWITH candidate, " ++
    "CASE WHEN novel_label THEN 3.0 WHEN novel_region THEN 2.0 ELSE 1.0 END AS score"

def recommendation (recommender : Recommender) : Template :=
  [fixed "MATCH (seed) WHERE id(seed) = ", parameter "seed_id",
    fixed ("\n" ++ candidates recommender ++ "\nRETURN candidate AS node, score" ++
      "\nORDER BY score DESC, id(candidate) ASC" ++ "\nLIMIT "), parameter "limit"]

end Template

end FacetedGraph

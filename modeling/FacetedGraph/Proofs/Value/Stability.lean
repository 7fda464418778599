import FacetedGraph.Proofs.Fields
import FacetedGraph.Proofs.Value.Plain
import Mathlib.Algebra.Ring.Nat

/-!
# Values keep their JSON form

JSON has no mark of types, so a tree is read by trying one reading after the other. Every tree has
a reading, and plain values come back as they were. Graph elements come back as maps and numbers
that are not finite as null, but what was written of them is written of these again, as long as no
identity is beyond the integers.

## Main definitions

* `Value.readings`, `Value.Untagged` — the readings of a tree, and what it is to try them in turn.
* `Value.identities` — the identities inside a value.
* `Json.Storable` — trees whose numbers are integers of 64 bits or finite.

## Main statements

* `Value.untagged_iff` — to try the readings in turn is to read as `Value.ofJson` does.
* `Json.Storable.toJson_ofJson` — storable trees are written as they were read.
* `Value.storable_toJson` — values with small identities are written as storable trees.
* `Value.json_stable` — what holds of all values.
-/

namespace FacetedGraph

namespace Value

/-! ## Readings in turn -/

section Readings

variable (read : Json → Option Value)

def readNull : Json → Option Value
  | .null => some null
  | _ => none

def readBool : Json → Option Value
  | .bool b => some (bool b)
  | _ => none

/-- A node, with its properties read by `read`. -/
def readNode (j : Json) : Option Node := do
  let fields ← j.asObject
  return {
    id := ⟨← Json.required fields ["id"] Json.asNat⟩
    labels := ← Json.required fields ["labels"] (Json.asList Json.asString)
    properties := ← Json.required fields ["properties"] (Json.asFields read) }

/-- A relationship, with its properties read by `read`. -/
def readRelationship (j : Json) : Option Relationship := do
  let fields ← j.asObject
  return {
    id := ⟨← Json.required fields ["id"] Json.asNat⟩
    source := ⟨← Json.required fields ["src"] Json.asNat⟩
    target := ⟨← Json.required fields ["dst"] Json.asNat⟩
    type := ← Json.required fields ["rel_type"] Json.asString
    properties := ← Json.required fields ["properties"] (Json.asFields read) }

/-- A path, with the properties along it read by `read`. -/
def readPath (j : Json) : Option Path := do
  let fields ← j.asObject
  return {
    nodes := ← Json.required fields ["nodes"] (Json.asList (readNode read))
    relationships :=
      ← Json.required fields ["relationships"] (Json.asList (readRelationship read)) }

/-- The readings of a tree, in the order in which they are tried, with its parts read by `read`. -/
def readings : List (Json → Option Value) :=
  [readNull, readBool, fun j => j.asInt64.map int, fun j => j.asReal.map float,
    fun j => j.asString.map string, fun j => (j.asList read).map list,
    fun j => (j.asFields read).map map, fun j => (readNode read j).map node,
    fun j => (readRelationship read j).map relationship, fun j => (readPath read j).map path]

/-- Every tree and every part of it is read by the first reading that accepts it. -/
def Untagged : Prop := ∀ j, read j = (readings read).findSome? (· j)

end Readings

variable {read : Json → Option Value}

/-- Once the parts of a tree are read, the first reading that accepts it is the expected one. -/
theorem findSome?_readings {j : Json}
    (harray : ∀ items, j = .array items → items.mapM read = some (ofJsonItems items))
    (hobject : ∀ fields, j = .object fields →
      (Json.object fields).asFields read = some (ofJsonFields fields)) :
    (readings read).findSome? (· j) = some (ofJson j) := by
  cases j with
  | null | bool | real | string => rfl
  | int n =>
    rw [ofJson]
    split
    case isTrue hfits =>
      simp [readings, List.findSome?_cons, readNull, readBool, Json.asInt64, hfits]
    case isFalse hlarge =>
      simp [readings, List.findSome?_cons, readNull, readBool, Json.asInt64, Json.asReal, hlarge]
  | array items =>
    simp [readings, List.findSome?_cons, readNull, readBool, Json.asInt64, Json.asReal,
      Json.asString, Json.asList, harray items rfl, ofJson]
  | object fields =>
    simp [readings, List.findSome?_cons, readNull, readBool, Json.asInt64, Json.asReal,
      Json.asString, Json.asList, hobject fields rfl, ofJson]

theorem mapM_items {items : List Json} (h : ∀ j ∈ items, read j = some (ofJson j)) :
    items.mapM read = some (ofJsonItems items) := by
  induction items with
  | nil => rfl
  | cons j rest ih =>
    obtain ⟨hj, hrest⟩ := List.forall_mem_cons.1 h
    rw [List.mapM_cons, hj, ih hrest]
    rfl

theorem asFields_object {fields : List (String × Json)}
    (h : ∀ f ∈ fields, read f.2 = some (ofJson f.2)) :
    (Json.object fields).asFields read = some (ofJsonFields fields) := by
  rw [Json.asFields]
  induction fields with
  | nil => rfl
  | cons f rest ih =>
    obtain ⟨hf, hrest⟩ := List.forall_mem_cons.1 h
    rw [List.mapM_cons, hf, ih hrest]
    rfl

mutual

-- The recursion is over the tree: what reads its parts reads the whole.
theorem Untagged.eq_ofJson (h : Untagged read) : ∀ j, read j = some (ofJson j)
  | .null | .bool _ | .int _ | .real _ | .string _ => (h _).trans (findSome?_readings nofun nofun)
  | .array items => (h _).trans (findSome?_readings
      (fun _ heq => Json.array.inj heq ▸ mapM_items (h.forall_items items)) nofun)
  | .object fields => (h _).trans (findSome?_readings nofun
      fun _ heq => Json.object.inj heq ▸ asFields_object (h.forall_fields fields))
termination_by structural j => j

theorem Untagged.forall_items (h : Untagged read) :
    ∀ items : List Json, ∀ j ∈ items, read j = some (ofJson j)
  | [] => nofun
  | j :: rest => List.forall_mem_cons.2 ⟨h.eq_ofJson j, h.forall_items rest⟩
termination_by structural items => items

theorem Untagged.forall_fields (h : Untagged read) :
    ∀ fields : List (String × Json), ∀ f ∈ fields, read f.2 = some (ofJson f.2)
  | [] => nofun
  | (_, j) :: rest => List.forall_mem_cons.2 ⟨h.eq_ofJson j, h.forall_fields rest⟩
termination_by structural fields => fields

end

/-- To try the readings in turn is to read as `ofJson` does, which refuses nothing. -/
theorem untagged_iff : Untagged read ↔ ∀ j, read j = some (ofJson j) := by
  refine ⟨Untagged.eq_ofJson, fun h j => (h j).trans (Eq.symm ?_)⟩
  exact findSome?_readings (fun _ _ => mapM_items fun j _ => h j)
    fun _ _ => asFields_object fun f _ => h f.2

/-! ## Identities -/

mutual

/-- The numbers of all identities inside a value, at any depth. -/
def identities : Value → List Nat
  | list items => identitiesOfItems items
  | map entries => identitiesOfFields entries
  | node n => identitiesOfNode n
  | relationship r => identitiesOfRelationship r
  | path p => identitiesOfPath p
  | null | bool _ | int _ | float _ | string _ => []
termination_by structural v => v

def identitiesOfItems : List Value → List Nat
  | [] => []
  | v :: vs => v.identities ++ identitiesOfItems vs
termination_by structural v => v

def identitiesOfFields : List (String × Value) → List Nat
  | [] => []
  | (_, v) :: rest => v.identities ++ identitiesOfFields rest
termination_by structural v => v

def identitiesOfNode : NodeOf Value → List Nat
  | ⟨id, _, properties⟩ => id.number :: identitiesOfFields properties
termination_by structural v => v

def identitiesOfRelationship : RelationshipOf Value → List Nat
  | ⟨id, source, target, _, properties⟩ =>
    id.number :: source.number :: target.number :: identitiesOfFields properties
termination_by structural v => v

def identitiesOfNodes : List (NodeOf Value) → List Nat
  | [] => []
  | n :: ns => identitiesOfNode n ++ identitiesOfNodes ns
termination_by structural v => v

def identitiesOfRelationships : List (RelationshipOf Value) → List Nat
  | [] => []
  | r :: rs => identitiesOfRelationship r ++ identitiesOfRelationships rs
termination_by structural v => v

def identitiesOfPath : PathOf Value → List Nat
  | ⟨nodes, relationships⟩ => identitiesOfNodes nodes ++ identitiesOfRelationships relationships
termination_by structural v => v

end

end Value

/-! ## Storable trees -/

namespace Json

/-- Trees whose whole numbers are integers of 64 bits and whose other numbers are finite. -/
inductive Storable : Json → Prop
  | null : Storable .null
  | bool (b : Bool) : Storable (.bool b)
  | int {n : Int} : fitsInt64 n = true → Storable (.int n)
  | real {x : Binary64} : x.isFinite = true → Storable (.real x)
  | string (s : String) : Storable (.string s)
  | array {items : List Json} : (∀ j ∈ items, Storable j) → Storable (.array items)
  | object {fields : List (String × Json)} : (∀ f ∈ fields, Storable f.2) →
      Storable (.object fields)

theorem storable_ofReal (x : Binary64) : (ofReal x).Storable := by
  rw [ofReal]
  split
  case isTrue hfinite => exact .real hfinite
  case isFalse => exact .null

theorem storable_toInt (n : Int64) : (Json.int n.toInt).Storable := by
  refine .int ?_
  have hlower := n.le_toInt
  have hupper := n.toInt_lt
  simp [fitsInt64]
  omega

theorem storable_ofNat {n : Nat} (h : n < 2 ^ 63) : (ofNat n).Storable := by
  refine .int ?_
  simp [fitsInt64]
  omega

theorem storable_strings (texts : List String) : (strings texts).Storable := by
  refine .array fun j hj => ?_
  obtain ⟨s, -, rfl⟩ := List.mem_map.1 hj
  exact .string s

theorem storable_record {fields : List (String × Json)} (hnames : (fields.map Prod.fst).Nodup)
    (h : ∀ f ∈ fields, f.2.Storable) : (record fields).Storable :=
  .object fun f hf => h f ((Fields.perm_ofList hnames).mem_iff.1 hf)

end Json

namespace Value

variable {j : Json}

/-! ## Reading and writing again -/

theorem toJson_ofJson_int {n : Int} (h : Json.fitsInt64 n = true) :
    (ofJson (.int n)).toJson = .int n := by
  have hbounds := h
  simp only [Json.fitsInt64, Bool.and_eq_true, decide_eq_true_eq] at hbounds
  rw [ofJson, if_pos h, toJson, Int64.toInt_ofInt_of_le hbounds.1 hbounds.2]

theorem toJsonItems_ofJsonItems {items : List Json} (h : ∀ j ∈ items, (ofJson j).toJson = j) :
    toJsonItems (ofJsonItems items) = items := by
  induction items with
  | nil => rfl
  | cons j rest ih =>
    obtain ⟨hj, hrest⟩ := List.forall_mem_cons.1 h
    rw [ofJsonItems, toJsonItems, hj, ih hrest]

theorem toJsonFields_ofJsonFields {fields : List (String × Json)}
    (h : ∀ f ∈ fields, (ofJson f.2).toJson = f.2) :
    toJsonFields (ofJsonFields fields) = fields := by
  induction fields with
  | nil => rfl
  | cons f rest ih =>
    obtain ⟨hf, hrest⟩ := List.forall_mem_cons.1 h
    rw [ofJsonFields, toJsonFields, hf, ih hrest]

/-- A storable tree is written as it was read. -/
theorem toJson_ofJson (h : j.Storable) : (ofJson j).toJson = j := by
  induction h with
  | null | bool | string => rfl
  | int hfits => exact toJson_ofJson_int hfits
  | real hfinite => rw [ofJson, toJson, Json.ofReal, if_pos hfinite]
  | array _ ih => rw [ofJson, toJson, toJsonItems_ofJsonItems ih]
  | object _ ih => rw [ofJson, toJson, toJsonFields_ofJsonFields ih]

theorem plain_ofJsonItems {items : List Json} (h : ∀ j ∈ items, (ofJson j).Plain) :
    ∀ v ∈ ofJsonItems items, v.Plain := by
  induction items with
  | nil => nofun
  | cons j rest ih =>
    obtain ⟨hj, hrest⟩ := List.forall_mem_cons.1 h
    exact List.forall_mem_cons.2 ⟨hj, ih hrest⟩

theorem plain_ofJsonFields {fields : List (String × Json)} (h : ∀ f ∈ fields, (ofJson f.2).Plain) :
    ∀ e ∈ ofJsonFields fields, e.2.Plain := by
  induction fields with
  | nil => nofun
  | cons f rest ih =>
    obtain ⟨hf, hrest⟩ := List.forall_mem_cons.1 h
    exact List.forall_mem_cons.2 ⟨hf, ih hrest⟩

/-- What is read from a storable tree is plain. -/
theorem plain_ofJson (h : j.Storable) : (ofJson j).Plain := by
  induction h with
  | null => exact .null
  | bool b => exact .bool b
  | string s => exact .string s
  | int hfits =>
    rw [ofJson, if_pos hfits]
    exact .int _
  | real hfinite => exact .float hfinite
  | array _ ih => exact .list (plain_ofJsonItems ih)
  | object _ ih => exact .map (plain_ofJsonFields ih)

/-! ## Writing -/

mutual

-- The recursion is over the value, along with the one that collects its identities.
theorem storable_toJson : ∀ {v : Value}, (∀ i ∈ v.identities, i < 2 ^ 63) → v.toJson.Storable
  | null, _ => .null
  | bool b, _ => .bool b
  | int n, _ => Json.storable_toInt n
  | float x, _ => Json.storable_ofReal x
  | string s, _ => .string s
  | list _, h => .array (storable_toJsonItems h)
  | map _, h => .object (storable_toJsonFields h)
  | node _, h => storable_toJsonNode h
  | relationship _, h => storable_toJsonRelationship h
  | path _, h => storable_toJsonPath h
termination_by structural v => v

theorem storable_toJsonItems : ∀ {items : List Value},
    (∀ i ∈ identitiesOfItems items, i < 2 ^ 63) → ∀ j ∈ toJsonItems items, j.Storable
  | [], _ => nofun
  | _ :: _, h => by
    obtain ⟨hv, hrest⟩ := List.forall_mem_append.1 h
    exact List.forall_mem_cons.2 ⟨storable_toJson hv, storable_toJsonItems hrest⟩
termination_by structural items => items

theorem storable_toJsonFields : ∀ {entries : List (String × Value)},
    (∀ i ∈ identitiesOfFields entries, i < 2 ^ 63) → ∀ f ∈ toJsonFields entries, f.2.Storable
  | [], _ => nofun
  | (_, _) :: _, h => by
    obtain ⟨hv, hrest⟩ := List.forall_mem_append.1 h
    exact List.forall_mem_cons.2 ⟨storable_toJson hv, storable_toJsonFields hrest⟩
termination_by structural entries => entries

theorem storable_toJsonNode : ∀ {n : NodeOf Value},
    (∀ i ∈ identitiesOfNode n, i < 2 ^ 63) → (toJsonNode n).Storable
  | ⟨_, labels, _⟩, h => by
    obtain ⟨hid, hproperties⟩ := List.forall_mem_cons.1 h
    refine Json.storable_record (by simp) ?_
    refine List.forall_mem_cons.2 ⟨Json.storable_ofNat hid, ?_⟩
    refine List.forall_mem_cons.2 ⟨Json.storable_strings labels, ?_⟩
    exact List.forall_mem_singleton.2 (.object (storable_toJsonFields hproperties))
termination_by structural n => n

theorem storable_toJsonRelationship : ∀ {r : RelationshipOf Value},
    (∀ i ∈ identitiesOfRelationship r, i < 2 ^ 63) → (toJsonRelationship r).Storable
  | ⟨_, _, _, type, _⟩, h => by
    obtain ⟨hid, h⟩ := List.forall_mem_cons.1 h
    obtain ⟨hsource, h⟩ := List.forall_mem_cons.1 h
    obtain ⟨htarget, hproperties⟩ := List.forall_mem_cons.1 h
    refine Json.storable_record (by simp) ?_
    refine List.forall_mem_cons.2 ⟨Json.storable_ofNat hid, ?_⟩
    refine List.forall_mem_cons.2 ⟨Json.storable_ofNat hsource, ?_⟩
    refine List.forall_mem_cons.2 ⟨Json.storable_ofNat htarget, ?_⟩
    refine List.forall_mem_cons.2 ⟨.string type, ?_⟩
    exact List.forall_mem_singleton.2 (.object (storable_toJsonFields hproperties))
termination_by structural r => r

theorem storable_toJsonNodes : ∀ {nodes : List (NodeOf Value)},
    (∀ i ∈ identitiesOfNodes nodes, i < 2 ^ 63) → ∀ j ∈ toJsonNodes nodes, j.Storable
  | [], _ => nofun
  | _ :: _, h => by
    obtain ⟨hn, hrest⟩ := List.forall_mem_append.1 h
    exact List.forall_mem_cons.2 ⟨storable_toJsonNode hn, storable_toJsonNodes hrest⟩
termination_by structural nodes => nodes

theorem storable_toJsonRelationships : ∀ {relationships : List (RelationshipOf Value)},
    (∀ i ∈ identitiesOfRelationships relationships, i < 2 ^ 63) →
      ∀ j ∈ toJsonRelationships relationships, j.Storable
  | [], _ => nofun
  | _ :: _, h => by
    obtain ⟨hr, hrest⟩ := List.forall_mem_append.1 h
    exact List.forall_mem_cons.2
      ⟨storable_toJsonRelationship hr, storable_toJsonRelationships hrest⟩
termination_by structural relationships => relationships

theorem storable_toJsonPath : ∀ {p : PathOf Value},
    (∀ i ∈ identitiesOfPath p, i < 2 ^ 63) → (toJsonPath p).Storable
  | ⟨_, _⟩, h => by
    obtain ⟨hnodes, hrelationships⟩ := List.forall_mem_append.1 h
    refine Json.storable_record (by simp) ?_
    refine List.forall_mem_cons.2 ⟨.array (storable_toJsonNodes hnodes), ?_⟩
    exact List.forall_mem_singleton.2 (.array (storable_toJsonRelationships hrelationships))
termination_by structural p => p

end

/-! ## All values -/

/-- To read JSON by trying the readings in turn is to read as `ofJson` does. Plain values are read
back as they were. All values whose identities are small are read back as plain ones, and these
are written just as they were. -/
theorem json_stable :
    (∀ read : Json → Option Value, Untagged read ↔ ∀ j, read j = some (ofJson j)) ∧
      ∀ v : Value, (v.Plain → ofJson v.toJson = v) ∧
        ((∀ i ∈ v.identities, i < 2 ^ 63) →
          (ofJson v.toJson).Plain ∧ (ofJson v.toJson).toJson = v.toJson) := by
  refine ⟨fun read => untagged_iff, fun v => ⟨ofJson_toJson, fun hsmall => ?_⟩⟩
  have hstorable := storable_toJson hsmall
  exact ⟨plain_ofJson hstorable, toJson_ofJson hstorable⟩

/-- Two whole numbers of different types and a missing one. -/
def twoTwos : Value := .list [.int 2, .float (.ofInt 2), .null]

/-- A path whose first node has no number where one was due, and a node of a property. -/
def partners : Value := .path {
  nodes := [⟨⟨0⟩, ["COMPANY"],
      [("partner", .node ⟨⟨1⟩, ["COMPANY"], []⟩), ("rating", .float .nan)]⟩,
    ⟨⟨1⟩, ["COMPANY"], []⟩]
  relationships := [⟨⟨7⟩, ⟨0⟩, ⟨1⟩, "PARTNER", [("since", twoTwos)]⟩] }

/-- Numbers keep their types, and a path is written again as it was read. -/
theorem json_stable_partners :
    twoTwos.Plain ∧ ofJson twoTwos.toJson = twoTwos ∧
      (∀ i ∈ partners.identities, i < 2 ^ 63) ∧
      (ofJson partners.toJson).Plain ∧ (ofJson partners.toJson).toJson = partners.toJson ∧
      Untagged fun j => some (ofJson j) := by
  have hplain : twoTwos.Plain := by
    refine .list (List.forall_mem_cons.2 ⟨.int 2, ?_⟩)
    exact List.forall_mem_cons.2 ⟨.float (by decide +kernel), List.forall_mem_singleton.2 .null⟩
  have hsmall : ∀ i ∈ partners.identities, i < 2 ^ 63 := by decide
  obtain ⟨huntagged, hstable⟩ := json_stable
  obtain ⟨hread, hwritten⟩ := (hstable partners).2 hsmall
  exact ⟨hplain, (hstable twoTwos).1 hplain, hsmall, hread, hwritten,
    (huntagged _).2 fun _ => rfl⟩

end Value

end FacetedGraph

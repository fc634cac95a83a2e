import GeoHazard.Hazards.Schema
import GeoHazard.Hazards.Services

namespace GeoHazard

inductive PyObject where
  | none
  | float (x : PyFloat)
  | str (s : String)
  | tuple (xs : List PyObject)
  | list (xs : List PyObject)
  | dict (kvs : List (String × PyObject))

namespace PyObject

mutual
def untuple : PyObject → PyObject
  | .none => .none
  | .float x => .float x
  | .str s => .str s
  | .tuple xs => .list (untuples xs)
  | .list xs => .list (untuples xs)
  | .dict kvs => .dict (untuple_fields kvs)

def untuples : List PyObject → List PyObject
  | [] => []
  | x :: xs => untuple x :: untuples xs

def untuple_fields : List (String × PyObject) → List (String × PyObject)
  | [] => []
  | (k, v) :: kvs => (k, untuple v) :: untuple_fields kvs
end

-- a JSON value as shapely takes it, with every number a double
mutual
def of_json (of_int : Int → PyFloat) : PyJson → PyObject
  | .null => .none
  | .bool b => .float (of_int (if b then 1 else 0))
  | .int n => .float (of_int n)
  | .float x => .float x.val
  | .str s => .str s
  | .arr xs => .list (of_jsons of_int xs)
  | .obj kvs => .dict (of_fields of_int kvs)

def of_jsons (of_int : Int → PyFloat) : List PyJson → List PyObject
  | [] => []
  | x :: xs => of_json of_int x :: of_jsons of_int xs

def of_fields (of_int : Int → PyFloat) : List (String × PyJson) → List (String × PyObject)
  | [] => []
  | (k, v) :: kvs => (k, of_json of_int v) :: of_fields of_int kvs
end

end PyObject

mutual
def to_lists : PyObject → PyObject
  | .tuple xs => .list (to_lists_each xs)
  | .list xs => .list (to_lists_each xs)
  | coordinates => coordinates

def to_lists_each : List PyObject → List PyObject
  | [] => []
  | x :: xs => to_lists x :: to_lists_each xs
end

inductive Coordinates : PyObject → Prop
  | float (x : PyFloat) : Coordinates (.float x)
  | tuple {xs : List PyObject} (h : ∀ x ∈ xs, Coordinates x) : Coordinates (.tuple xs)
  | list {xs : List PyObject} (h : ∀ x ∈ xs, Coordinates x) : Coordinates (.list xs)

-- what shapely documents of mapping and of shape
structure Shapely {G : Type} (env : Env G) where
  of_int : Int → PyFloat
  mapping : G → List (String × PyObject)
  geometry_collection : G → Bool
  coordinates : ∀ g, geometry_collection g = false → ∃ geom_type c, Coordinates c ∧
    mapping g = [("type", .str geom_type), ("coordinates", c)]
  geometries : ∀ g, geometry_collection g = true → ∃ parts,
    mapping g = [("type", .str "GeometryCollection"), ("geometries", parts)]
  polygon : ∀ ring, geometry_collection (env.Polygon ring) = false
  mapping_shape : ∀ geometry g, env.shape geometry = some g →
    (PyObject.dict (mapping g)).untuple = PyObject.of_json of_int geometry

structure KeyError where
  key : String
  deriving DecidableEq

section
variable {G : Type} {env : Env G} (lib : Shapely env)

def wkb_to_geojson (element : G) : Except KeyError (List (String × PyObject)) :=
  let geometry := lib.mapping element
  match Dict.get "coordinates" geometry with
  | none => .error ⟨"coordinates"⟩
  | some coordinates => .ok (Dict.set "coordinates" (to_lists coordinates) geometry)

-- the GeoJSON of a geometry, with lists where mapping has tuples
def Shapely.geojson (g : G) : PyObject := (PyObject.dict (lib.mapping g)).untuple

end

theorem to_lists_of_coordinates {c : PyObject} (h : Coordinates c) : to_lists c = c.untuple := by
  have heach : ∀ xs : List PyObject, (∀ x ∈ xs, to_lists x = x.untuple) →
      to_lists_each xs = PyObject.untuples xs := by
    intro xs hxs
    induction xs with
    | nil => rfl
    | cons x xs ih =>
        simp only [to_lists_each, PyObject.untuples, hxs x (by simp),
          ih (fun y hy => hxs y (by simp [hy]))]
  induction h with
  | float x => rfl
  | tuple h ih => simp only [to_lists, PyObject.untuple, heach _ ih]
  | list h ih => simp only [to_lists, PyObject.untuple, heach _ ih]

variable {G : Type} {env : Env G} {lib : Shapely env} {g : G}

theorem wkb_to_geojson_ok (h : lib.geometry_collection g = false) :
    ∃ geometry, wkb_to_geojson lib g = .ok geometry ∧ PyObject.dict geometry = lib.geojson g := by
  obtain ⟨geom_type, c, hc, hm⟩ := lib.coordinates g h
  refine ⟨[("type", .str geom_type), ("coordinates", to_lists c)], ?_, ?_⟩
  · simp [wkb_to_geojson, hm, Dict.get, Dict.set]
  · simp [Shapely.geojson, hm, PyObject.untuple, PyObject.untuple_fields, to_lists_of_coordinates hc]

theorem wkb_to_geojson_collection (h : lib.geometry_collection g = true) :
    wkb_to_geojson lib g = .error ⟨"coordinates"⟩ := by
  obtain ⟨parts, hm⟩ := lib.geometries g h
  simp [wkb_to_geojson, hm, Dict.get]

theorem serves_iff : (∃ geometry, wkb_to_geojson lib g = .ok geometry) ↔
    lib.geometry_collection g = false := by
  refine ⟨fun ⟨geometry, hok⟩ => ?_, fun h => ?_⟩
  · cases h : lib.geometry_collection g with
    | false => rfl
    | true => simp [wkb_to_geojson_collection h] at hok
  · obtain ⟨geometry, hok, _⟩ := wkb_to_geojson_ok h
    exact ⟨geometry, hok⟩

theorem wkb_to_geojson_iff : (∃ geometry, wkb_to_geojson lib g = .ok geometry ∧
    PyObject.dict geometry = lib.geojson g) ↔ lib.geometry_collection g = false :=
  ⟨fun ⟨geometry, hok, _⟩ => serves_iff.mp ⟨geometry, hok⟩, wkb_to_geojson_ok⟩

end GeoHazard

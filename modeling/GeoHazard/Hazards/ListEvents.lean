import GeoHazard.Core.Attribution
import GeoHazard.Hazards.HazardEventRepo
import GeoHazard.Hazards.WkbGeojson
import GeoHazard.Library.Keyset
import Mathlib.Data.Prod.Lex

namespace GeoHazard

-- what json.loads raises: a JSONDecodeError or a UnicodeDecodeError is a ValueError
inductive LoadsError where
  | value_error
  | recursion_error
  deriving DecidableEq

-- base64, json, isoformat and the text of a uuid, with what their documentation promises;
-- bytes are written with a character a byte, and base64 has none for a text that is not ascii
structure CursorText where
  isoformat : Timestamptz → String
  fromisoformat : String → Option Timestamptz
  str : Nat → String
  UUID : String → Option Nat
  dumps : String × String → String
  loads : String → Except LoadsError (Json PyFloat)
  urlsafe_b64encode : String → String
  urlsafe_b64decode : String → Option String
  fromisoformat_isoformat : ∀ t, fromisoformat (isoformat t) = some t
  UUID_str : ∀ id, UUID (str id) = some id
  loads_dumps : ∀ p, loads (dumps p) = .ok (.arr [.str p.1, .str p.2])
  urlsafe_b64decode_encode : ∀ s, urlsafe_b64decode (urlsafe_b64encode s) = some s

structure Bbox where
  min_lon : PyFloat
  min_lat : PyFloat
  max_lon : PyFloat
  max_lat : PyFloat

-- the functions of PostGIS that the queries call
structure SpatialSql (G : Type) where
  ST_MakeEnvelope : Bbox → G
  ST_Intersects : G → G → Bool
  near_prefilter : PyFloat → PyFloat → PyFloat → G
  ST_DWithin : G → PyFloat → PyFloat → PyFloat → Bool
  ST_Distance : G → PyFloat → PyFloat → PyFloat
  round : PyFloat → PyFloat

structure Filters where
  hazard_types : Option (List String)
  source : Option String
  severity_min : Option Int
  starts_after : Option Timestamptz
  starts_before : Option Timestamptz
  active : Option Bool

inductive CursorError where
  | value_error
  | type_error
  | attribute_error
  | recursion_error
  deriving DecidableEq

inductive ServeError where
  | business_validation (message : String)
  | key_error (e : KeyError)
  | cursor_error (e : CursorError)

def is_active (now : Timestamptz) {G : Type} (e : HazardEvent G) : Bool :=
  decide (e.starts_at ≤ now) && e.ends_at.all (fun ends => decide (now ≤ ends))

-- a filter that is not given lets every row through
def apply_filters {G : Type} (f : Filters) (now : Timestamptz) (e : HazardEvent G) : Bool :=
  (f.hazard_types.all (fun types => types.isEmpty || decide (e.hazard_type.name ∈ types))) &&
    f.source.all (fun source => decide (e.source.name = source)) &&
    f.severity_min.all (fun severity => decide (severity ≤ (e.severity.val : Int))) &&
    f.starts_after.all (fun t => decide (t ≤ e.starts_at)) &&
    f.starts_before.all (fun t => decide (e.starts_at ≤ t)) &&
    (!f.active.getD false || is_active now e)

namespace Pagination

def encode_cursor (lib : CursorText) (starts_at : Timestamptz) (event_id : Nat) : String :=
  lib.urlsafe_b64encode (lib.dumps (lib.isoformat starts_at, lib.str event_id))

def raise_value_error {α : Type} : Option α → Except CursorError α
  | none => .error .value_error
  | some a => .ok a

def loads (lib : CursorText) (raw : String) : Except CursorError (Json PyFloat) :=
  match lib.loads raw with
  | .ok value => .ok value
  | .error .value_error => .error .value_error
  | .error .recursion_error => .error .recursion_error

-- a, b = value: a string and an object give their characters and their keys
def unpack : Json PyFloat → Except CursorError (Json PyFloat × Json PyFloat)
  | .arr [a, b] => .ok (a, b)
  | .obj [(a, _), (b, _)] => .ok (.str a, .str b)
  | .str s =>
      match s.toList with
      | [a, b] => .ok (.str (String.ofList [a]), .str (String.ofList [b]))
      | _ => .error .value_error
  | .arr _ | .obj _ => .error .value_error
  | .null | .bool _ | .int _ | .float _ => .error .type_error

def fromisoformat (lib : CursorText) : Json PyFloat → Except CursorError Timestamptz
  | .str s => raise_value_error (lib.fromisoformat s)
  | _ => .error .type_error

-- uuid.UUID(event_id) calls event_id.replace, unless there is no event_id
def UUID (lib : CursorText) : Json PyFloat → Except CursorError Nat
  | .str s => raise_value_error (lib.UUID s)
  | .null => .error .type_error
  | _ => .error .attribute_error

def read_cursor (lib : CursorText) (cursor : String) : Except CursorError (Timestamptz × Nat) := do
  let raw ← raise_value_error (lib.urlsafe_b64decode cursor)
  let (starts_at_iso, event_id) ← unpack (← loads lib raw)
  let starts_at ← fromisoformat lib starts_at_iso
  let event_id ← UUID lib event_id
  .ok (starts_at, event_id)

def caught : CursorError → Bool
  | .value_error | .type_error => true
  | .attribute_error | .recursion_error => false

def decode_cursor (lib : CursorText) (cursor : String) : Except CursorError (Timestamptz × Nat) :=
  match read_cursor lib cursor with
  | .ok key => .ok key
  | .error e => .error (if caught e then .value_error else e)

theorem decode_encode (lib : CursorText) (starts_at : Timestamptz) (event_id : Nat) :
    decode_cursor lib (encode_cursor lib starts_at event_id) = .ok (starts_at, event_id) := by
  simp [decode_cursor, read_cursor, encode_cursor, raise_value_error, loads, unpack, fromisoformat,
    UUID, lib.fromisoformat_isoformat, lib.UUID_str, lib.loads_dumps, lib.urlsafe_b64decode_encode,
    bind, Except.bind]

end Pagination

-- ORDER BY starts_at DESC, id DESC
abbrev EventKey := Timestamptz ×ₗ Nat

def HazardEvent.page_key {G : Type} (e : HazardEvent G) : EventKey := toLex (e.starts_at, e.id)

namespace HazardEventRepo

variable {G : Type} (sql : SpatialSql G)

def selected (bbox : Option Bbox) (province : Option String) (f : Filters) (now : Timestamptz)
    (e : HazardEvent G) : Bool :=
  bbox.all (fun b => sql.ST_Intersects e.geom (sql.ST_MakeEnvelope b)) &&
    province.all (fun p => decide (e.province_code = some p)) && apply_filters f now e

def list_page (bbox : Option Bbox) (province : Option String) (f : Filters) (limit : Nat)
    (cursor : Option (Timestamptz × Nat)) (now : Timestamptz) (t : Rows G) :
    Rows G × Option (Timestamptz × Nat) :=
  let (page, next_key) := Keyset.page HazardEvent.page_key limit (cursor.map toLex)
    (t.filter (selected sql bbox province f now))
  (page, next_key.map ofLex)

def near_before (latitude longitude : PyFloat) (a b : HazardEvent G) : Prop :=
  toLex ((sql.ST_Distance a.geom latitude longitude).order, a.id) ≤
    toLex ((sql.ST_Distance b.geom latitude longitude).order, b.id)

instance (latitude longitude : PyFloat) (a b : HazardEvent G) :
    Decidable (near_before sql latitude longitude a b) := by
  unfold near_before
  infer_instance

def near_page (latitude longitude radius_m : PyFloat) (f : Filters) (limit : Nat)
    (now : Timestamptz) (t : Rows G) : List (HazardEvent G × PyFloat) :=
  (((t.filter (fun e =>
      sql.ST_Intersects e.geom (sql.near_prefilter latitude longitude radius_m) &&
        sql.ST_DWithin e.geom latitude longitude radius_m && apply_filters f now e)).insertionSort
      (near_before sql latitude longitude)).take limit).map
    (fun e => (e, sql.ST_Distance e.geom latitude longitude))

end HazardEventRepo

def split_commas (s : String) : List String := (s.toList.splitOn ',').map String.ofList

def validate_bbox (b : Bbox) : Except PyError Bbox :=
  if !(minus_180.le b.min_lon && b.min_lon.lt b.max_lon && b.max_lon.le plus_180) then
    .error (.value_error "bbox longitudes must satisfy -180 <= min < max <= 180" none)
  else if !(minus_90.le b.min_lat && b.min_lat.lt b.max_lat && b.max_lat.le plus_90) then
    .error (.value_error "bbox latitudes must satisfy -90 <= min < max <= 90" none)
  else .ok b

def py_float {G : Type} (env : Env G) (s : String) : Except PyError PyFloat :=
  match env.float s with
  | none => .error (.value_error "could not convert string to float" (some s))
  | some x => .ok x

def parse_bbox {G : Type} (env : Env G) : Option String → Except PyError (Option Bbox)
  | none => .ok none
  | some bbox_raw =>
      match split_commas bbox_raw with
      | [a, b, c, d] => do
          let min_lon ← py_float env a
          let min_lat ← py_float env b
          let max_lon ← py_float env c
          let max_lat ← py_float env d
          .ok (some (← validate_bbox ⟨min_lon, min_lat, max_lon, max_lat⟩))
      | _ => .error (.value_error "bbox must be 'minLon,minLat,maxLon,maxLat'" none)

def PyError.text : PyError → String
  | .value_error message none => message
  | .value_error message (some value) => message ++ ": '" ++ value ++ "'"
  | .dbapi_error message | .runtime_error message | .overflow_error message => message
  | .key_error key => toString key
  | .not_found entity _ => entity

structure EventProperties where
  source : String
  hazard_type : String
  severity : Nat
  starts_at : Timestamptz
  ends_at : Option Timestamptz
  external_id : String
  attrs : PyJson

structure EventFeature where
  id : Nat
  geometry : List (String × PyObject)
  properties : EventProperties

structure EventFeatureCollection where
  features : List EventFeature
  numberReturned : Nat
  nextCursor : Option String
  attribution : List SourceAttribution

structure NearEventFeature extends EventFeature where
  distance_m : PyFloat

structure NearEventFeatureCollection where
  features : List NearEventFeature
  numberReturned : Nat
  attribution : List SourceAttribution

def EventFeature.page_key (feature : EventFeature) : EventKey :=
  toLex (feature.properties.starts_at, feature.id)

def EventProperties.model_validate {G : Type} (e : HazardEvent G) : EventProperties :=
  ⟨e.source.name, e.hazard_type.name, e.severity.val, e.starts_at, e.ends_at, e.external_id, e.attrs⟩

section
variable {G : Type} {env : Env G} (lib : Shapely env) (text : CursorText) (sql : SpatialSql G)

def feature_from_orm (e : HazardEvent G) : Except KeyError EventFeature := do
  .ok ⟨e.id, ← wkb_to_geojson lib e.geom, .model_validate e⟩

def each {α β : Type} (f : α → Except KeyError β) : List α → Except KeyError (List β)
  | [] => .ok []
  | x :: xs => do .ok ((← f x) :: (← each f xs))

theorem each_ok {α β : Type} {f : α → Except KeyError β} {xs : List α} {ys : List β} :
    each f xs = .ok ys ↔ List.Forall₂ (fun x y => f x = .ok y) xs ys := by
  induction xs generalizing ys with
  | nil => cases ys <;> simp [each]
  | cons x xs ih =>
      simp only [each, bind_ok, Except.ok.injEq, ih]
      constructor
      · rintro ⟨y, hy, zs, hall, rfl⟩
        exact .cons hy hall
      · rintro (_ | ⟨hy, hall⟩)
        exact ⟨_, hy, _, hall, rfl⟩

theorem each_exists {α β : Type} {f : α → Except KeyError β} {xs : List α} :
    (∃ ys, each f xs = .ok ys) ↔ ∀ x ∈ xs, ∃ y, f x = .ok y := by
  induction xs with
  | nil => simp [each]
  | cons x xs ih =>
      simp only [List.forall_mem_cons, ← ih, each, bind_ok, Except.ok.injEq]
      constructor
      · rintro ⟨_, y, hy, ys, hys, _⟩
        exact ⟨⟨y, hy⟩, ys, hys⟩
      · rintro ⟨⟨y, hy⟩, ys, hys⟩
        exact ⟨_, y, hy, ys, hys, rfl⟩

theorem each_error {α β : Type} {f : α → Except KeyError β} {xs : List α} {e : KeyError}
    (h : ∀ x ∈ xs, ∀ e', f x = .error e' → e' = e) (hx : ∃ x ∈ xs, ∃ e', f x = .error e') :
    each f xs = .error e := by
  induction xs with
  | nil => simp at hx
  | cons x xs ih =>
      cases hf : f x with
      | error e' =>
          obtain rfl := h x (by simp) e' hf
          simp [each, hf, bind, Except.bind]
      | ok y =>
          obtain ⟨z, hz, e', he⟩ := hx
          rcases List.mem_cons.mp hz with rfl | hz
          · simp [hf] at he
          · have hrest := ih (fun x hx => h x (by simp [hx])) ⟨z, hz, e', he⟩
            simp [each, hf, hrest, bind, Except.bind]

def catch_value_error {α : Type} (message : PyError → String) (x : Except PyError α) :
    Except ServeError α :=
  x.mapError (fun e => .business_validation (message e))

def catch_key_error {α : Type} (x : Except KeyError α) : Except ServeError α :=
  x.mapError .key_error

theorem catch_key_error_ok {α : Type} {x : Except KeyError α} {a : α} :
    catch_key_error x = .ok a ↔ x = .ok a := by
  cases x with
  | error e => simp [catch_key_error, Except.mapError]
  | ok b => simp [catch_key_error, Except.mapError]

namespace ListEventsUseCase

def parse_cursor : Option String → Except ServeError (Option (Timestamptz × Nat))
  | none => .ok none
  | some cursor_raw =>
      match Pagination.decode_cursor text cursor_raw with
      | .error .value_error => .error (.business_validation "invalid cursor")
      | .error e => .error (.cursor_error e)
      | .ok cursor => .ok (some cursor)

def execute (bbox_raw province : Option String) (f : Filters) (limit : Nat)
    (cursor_raw : Option String) (now : Timestamptz) (t : HazardEventRepo.Rows G) :
    Except ServeError EventFeatureCollection := do
  let bbox ← catch_value_error (fun e => "invalid bbox: " ++ e.text) (parse_bbox env bbox_raw)
  let cursor ← parse_cursor text cursor_raw
  let (items, next_key) := HazardEventRepo.list_page sql bbox province f limit cursor now t
  let next_cursor := next_key.map (fun key => Pagination.encode_cursor text key.1 key.2)
  let features ← catch_key_error (each (feature_from_orm lib) items)
  .ok {
    features := features
    numberReturned := features.length
    nextCursor := next_cursor
    attribution := attributions_for (features.map (fun f => f.properties.source) ++
      if truthy province then ["cnig"] else []) }

end ListEventsUseCase

namespace NearEventsUseCase

def feature (p : HazardEvent G × PyFloat) : Except KeyError NearEventFeature := do
  .ok ⟨← feature_from_orm lib p.1, sql.round p.2⟩

def execute (latitude longitude radius_m : PyFloat) (f : Filters) (limit : Nat)
    (now : Timestamptz) (t : HazardEventRepo.Rows G) :
    Except ServeError NearEventFeatureCollection := do
  let pairs := HazardEventRepo.near_page sql latitude longitude radius_m f limit now t
  let features ← catch_key_error (each (feature lib sql) pairs)
  .ok {
    features := features
    numberReturned := features.length
    attribution := attributions_for (features.map (fun f => f.properties.source)) }

end NearEventsUseCase

end

end GeoHazard

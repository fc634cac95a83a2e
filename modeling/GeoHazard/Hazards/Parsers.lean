import GeoHazard.Hazards.SyncIgn
import GeoHazard.Hazards.SyncEffis

namespace GeoHazard

-- an element of xml.etree.ElementTree
inductive Element where
  | mk (tag : String) (text : Option String) (children : List Element)

namespace Element

def tag : Element → String
  | .mk tag _ _ => tag

def text : Element → Option String
  | .mk _ text _ => text

def children : Element → List Element
  | .mk _ _ children => children

def findall (e : Element) (tag : String) : List Element := e.children.filter (fun c => c.tag == tag)

def find (e : Element) (tag : String) : Option Element := (e.findall tag).head?

def findtext (e : Element) (tag : String) : Option String :=
  (e.find tag).map (fun c => c.text.getD "")

end Element

abbrev JsonValue := Json PyFloat

-- what urllib, re, strptime, fromisoformat, float and str make of a text or a value (str gives none
-- where it meets the recursion limit), and the Python frames that are left for a walk
structure TextLib where
  evid : String → Option String
  description : String → Option (String × String × String)
  strptime : String → Option Datetime
  strptime_madrid : String → Option Datetime
  fromisoformat : String → Option Datetime
  float : String → Option PyFloat
  str : JsonValue → Option String
  frames : Nat
  repr : JsonValue → String

inductive ParseError where
  | key_error (key : String)
  | type_error
  | value_error (message : String)
  | index_error
  | overflow_error
  | recursion_error
  | protocol_error (message : String)
  deriving DecidableEq

def raise_none {α : Type} (e : ParseError) : Option α → Except ParseError α
  | none => .error e
  | some a => .ok a

namespace IgnParser

def GEO_NS : String := "{http://www.w3.org/2003/01/geo/wgs84_pos#}"

structure Item where
  external_id : String
  magnitude : PyFloat
  region : String
  latitude : FiniteFloat
  longitude : FiniteFloat
  occurred_at : Datetime
  attrs : List (String × PyJson)

def first_text (item : Element) (tag : String) : Option String := (item.findtext tag).filter (· != "")

def parse_float (lib : TextLib) (text : String) : Except ParseError PyFloat :=
  raise_none (.value_error "could not convert string to float") (lib.float text)

def finite_in (x low high : PyFloat) : Option FiniteFloat :=
  if h : x.isfinite = true then if low.le x && x.le high then some ⟨x, h⟩ else none else none

def parse_item (lib : TextLib) (item : Element) : Except ParseError (Option Item) := do
  let guid := ((first_text item "guid").or (first_text item "link")).getD ""
  let evid ← raise_none (.value_error "Invalid IPv6 URL") (lib.evid guid)
  match first_text item (GEO_NS ++ "lat"), first_text item (GEO_NS ++ "long"),
      lib.description ((first_text item "description").getD "") with
  | some lat_text, some lon_text, some (magnitude, region, raw_moment) =>
      if evid = "" then .ok none
      else do
        let latitude ← parse_float lib lat_text
        let longitude ← parse_float lib lon_text
        match finite_in latitude minus_90 plus_90, finite_in longitude minus_180 plus_180 with
        | some latitude, some longitude => do
            let occurred_at ← raise_none
              (.value_error "time data does not match format '%d/%m/%Y %H:%M:%S'")
              (lib.strptime_madrid raw_moment)
            let magnitude ← parse_float lib magnitude
            .ok (some {
              external_id := evid
              magnitude := magnitude
              region := region
              latitude := latitude
              longitude := longitude
              occurred_at := occurred_at
              attrs := [("raw_local_moment", .str raw_moment)] })
        | _, _ => .ok none
  | _, _, _ => .ok none

end IgnParser

namespace EffisParser

structure Feature where
  external_id : String
  kind : EffisKind
  geometry : PyJson
  observed_at : Datetime
  area_ha : Option FiniteFloat
  attrs : List (String × JsonValue)

def HOTSPOT_GEOMETRIES : List String := ["Point"]

def BURNT_AREA_GEOMETRIES : List String := ["Polygon", "MultiPolygon"]

def subscript (key : String) : JsonValue → Except ParseError JsonValue
  | .obj kvs => raise_none (.key_error key) (Dict.get key kvs)
  | _ => .error .type_error

def get (key : String) (default : JsonValue) : JsonValue → Except ParseError JsonValue
  | .obj kvs => .ok ((Dict.get key kvs).getD default)
  | _ => .error .type_error

def is_number : JsonValue → Bool
  | .bool _ | .int _ | .float _ => true
  | _ => false

def finite : JsonValue → Except ParseError PyJson
  | .bool b => .ok (.bool b)
  | .int n => if (PyFloat.of_int n).isSome then .ok (.int n) else .error .overflow_error
  | .float x =>
      if h : x.isfinite = true then .ok (.float ⟨x, h⟩)
      else .error (.value_error "non-finite coordinate")
  | _ => .error .type_error

def between (bound : Int) (low high : PyFloat) : PyJson → Bool
  | .bool _ => true
  | .int n => decide (-bound ≤ n) && decide (n ≤ bound)
  | .float x => low.le x.val && x.val.le high
  | _ => false

def swap_pair (lat lon : JsonValue) : Except ParseError PyJson := do
  let lat ← finite lat
  let lon ← finite lon
  if between 90 minus_90 plus_90 lat && between 180 minus_180 plus_180 lon then .ok (.arr [lon, lat])
  else .error (.value_error "coordinate out of range")

-- a letter is a text whose first letter is itself, so the walk down a text ends at the limit
mutual
def swap_pairs : Nat → JsonValue → Except ParseError PyJson
  | 0, _ => .error .recursion_error
  | frames + 1, .arr xs =>
      match xs with
      | [] => .error (.value_error "empty coordinates")
      | [first] =>
          if is_number first then .error .index_error else (swap_parts frames xs).map .arr
      | first :: second :: _ =>
          if is_number first then swap_pair first second else (swap_parts frames xs).map .arr
  | _ + 1, .null => .error (.value_error "empty coordinates")
  | _ + 1, .bool b => .error (if b then .type_error else .value_error "empty coordinates")
  | _ + 1, .int n => .error (if n = 0 then .value_error "empty coordinates" else .type_error)
  | _ + 1, .float x =>
      .error (if x.magnitude = 0 then .value_error "empty coordinates" else .type_error)
  | _ + 1, .str s => .error (if s = "" then .value_error "empty coordinates" else .recursion_error)
  | _ + 1, .obj kvs =>
      .error (if kvs.isEmpty then .value_error "empty coordinates" else .key_error "0")

def swap_parts : Nat → List JsonValue → Except ParseError (List PyJson)
  | _, [] => .ok []
  | frames, part :: parts => do
      let part ← swap_pairs frames part
      let parts ← swap_parts frames parts
      .ok (part :: parts)
end

def swap_axes (lib : TextLib) (geometry : JsonValue) : Except ParseError PyJson := do
  let geom_type ← subscript "type" geometry
  let coordinates ← subscript "coordinates" geometry
  let swapped ← swap_pairs lib.frames coordinates
  match geom_type with
  | .str geom_type => .ok (.obj [("type", .str geom_type), ("coordinates", swapped)])
  | _ => .error .type_error

def parse_float (lib : TextLib) : JsonValue → Except ParseError PyFloat
  | .float x => .ok x
  | .int n => raise_none .overflow_error (PyFloat.of_int n)
  | .bool b => raise_none .overflow_error (PyFloat.of_int (if b then 1 else 0))
  | .str s => raise_none (.value_error "could not convert string to float") (lib.float s)
  | _ => .error .type_error

def parse_moment (lib : TextLib) : JsonValue → Except ParseError Datetime
  | .str s =>
      raise_none (.value_error "time data does not match format '%Y-%m-%d %H:%M:%S'") (lib.strptime s)
  | _ => .error .type_error

def is_type (names : List String) : JsonValue → Bool
  | .str s => decide (s ∈ names)
  | _ => false

def area_of (lib : TextLib) (area : JsonValue) : Except ParseError FiniteFloat := do
  let area_ha ← parse_float lib area
  if h : area_ha.isfinite = true then
    if area_ha.lt ⟨0⟩ then .error (.value_error ("area out of range: " ++ lib.repr area))
    else .ok ⟨area_ha, h⟩
  else .error (.value_error ("area out of range: " ++ lib.repr area))

def read_hotspot (lib : TextLib) (properties geometry : JsonValue) : Except ParseError Feature := do
  let id ← subscript "id" properties
  let id ← raise_none .recursion_error (lib.str id)
  let swapped ← swap_axes lib geometry
  let acq_at ← subscript "acq_at" properties
  let observed_at ← parse_moment lib acq_at
  let label ← get "CLASS" (.str "") properties
  .ok {
    external_id := "hs-" ++ id
    kind := .hotspot
    geometry := swapped
    observed_at := observed_at
    area_ha := none
    attrs := [("product", .str "all.hs"), ("class", label), ("raw_acquired_at", acq_at)] }

def read_burnt_area (lib : TextLib) (properties geometry : JsonValue) : Except ParseError Feature := do
  let area ← subscript "area" properties
  let area_ha ← area_of lib area
  let fire_id ← subscript "fire_id" properties
  let fire_id ← raise_none .recursion_error (lib.str fire_id)
  let swapped ← swap_axes lib geometry
  let initialdate ← subscript "initialdate" properties
  let observed_at ← parse_moment lib initialdate
  let finaldate ← get "finaldate" (.str "") properties
  .ok {
    external_id := "ba-" ++ fire_id
    kind := .burnt_area
    geometry := swapped
    observed_at := observed_at
    area_ha := some area_ha
    attrs := [("product", .str "nrt.ba"), ("fire_id", .str fire_id),
      ("raw_initialdate", initialdate), ("raw_finaldate", finaldate)] }

def read_feature (lib : TextLib) (feature : JsonValue) (kind : EffisKind) :
    Except ParseError (Option Feature) := do
  let properties ← subscript "properties" feature
  let geometry ← subscript "geometry" feature
  let geom_type ← subscript "type" geometry
  match kind with
  | .hotspot =>
      if is_type HOTSPOT_GEOMETRIES geom_type then (read_hotspot lib properties geometry).map some
      else .ok none
  | .burnt_area =>
      if is_type BURNT_AREA_GEOMETRIES geom_type then
        (read_burnt_area lib properties geometry).map some
      else .ok none

def caught : ParseError → Bool
  | .key_error _ | .type_error | .value_error _ | .index_error => true
  | _ => false

def parse_feature (lib : TextLib) (feature : JsonValue) (kind : EffisKind) :
    Except ParseError (Option Feature) :=
  match read_feature lib feature kind with
  | .ok record => .ok record
  | .error e => if caught e then .ok none else .error e

end EffisParser

namespace AemetParser

def CAP_NS : String := "{urn:oasis:names:tc:emergency:cap:1.2}"

def present (text : Option String) : Option String := text.filter (· != "")

def parse_moment (lib : TextLib) (text : String) : Except ParseError Datetime :=
  raise_none (.protocol_error ("unparseable CAP timestamp: '" ++ text ++ "'")) (lib.fromisoformat text)

def optional_moment (lib : TextLib) (text : Option String) : Except ParseError (Option Datetime) :=
  match present text with
  | none => .ok none
  | some text => (parse_moment lib text).map some

def spanish_info (root : Element) : Option Element :=
  let infos := root.findall (CAP_NS ++ "info")
  (infos.find? (fun info =>
    startswith "es" (lower ((info.findtext (CAP_NS ++ "language")).getD "")))).or infos.head?

def named_values (parent : Element) (tag : String) : List (String × String) :=
  (parent.findall (CAP_NS ++ tag)).foldl (fun values element =>
    match present (element.findtext (CAP_NS ++ "valueName")),
        present (element.findtext (CAP_NS ++ "value")) with
    | some name, some value => Dict.set name value values
    | _, _ => values) []

-- the identifier of each "sender,identifier,sent"
def reference_ids (text : String) : List String :=
  (split text).filterMap (fun chunk =>
    let (_, rest) := partition ',' chunk
    if ',' ∈ rest.toList then some (partition ',' rest).1 else none)

def parse_cap (lib : TextLib) (root : Element) : Except ParseError AemetWarning :=
  match present (root.findtext (CAP_NS ++ "identifier")), present (root.findtext (CAP_NS ++ "msgType")),
      present (root.findtext (CAP_NS ++ "sent")) with
  | some identifier, some msg_type, some sent_text => do
      let sent ← parse_moment lib sent_text
      let references := reference_ids ((root.findtext (CAP_NS ++ "references")).getD "")
      match spanish_info root with
      | none => .ok ⟨identifier, msg_type, sent, references, none, none, none, none, none, none, none,
          none, []⟩
      | some info => do
          let parameters := named_values info "parameter"
          let area := info.find (CAP_NS ++ "area")
          let onset ← optional_moment lib (info.findtext (CAP_NS ++ "onset"))
          let expires ← optional_moment lib (info.findtext (CAP_NS ++ "expires"))
          .ok {
            external_id := identifier
            msg_type := msg_type
            sent := sent
            references := references
            event := info.findtext (CAP_NS ++ "event")
            phenomenon := Dict.get "AEMET-Meteoalerta fenomeno" (named_values info "eventCode")
            level := Dict.get "AEMET-Meteoalerta nivel" parameters
            onset := onset
            expires := expires
            polygon := area.bind (fun a => a.findtext (CAP_NS ++ "polygon"))
            zone := area.bind (fun a =>
              Dict.get "AEMET-Meteoalerta zona" (named_values a "geocode"))
            area_desc := area.bind (fun a => a.findtext (CAP_NS ++ "areaDesc"))
            attrs := [("headline", info.findtext (CAP_NS ++ "headline")),
              ("description", info.findtext (CAP_NS ++ "description")),
              ("cap_severity", info.findtext (CAP_NS ++ "severity")),
              ("probability", Dict.get "AEMET-Meteoalerta probabilidad" parameters),
              ("parameter", Dict.get "AEMET-Meteoalerta parametro" parameters)].filterMap
                (fun kv => kv.2.map (fun value => (kv.1, .str value))) }
  | _, _, _ => .error (.protocol_error "CAP alert missing identifier/msgType/sent")

end AemetParser

end GeoHazard

import GeoHazard.Hazards.ListEvents
import GeoHazard.Hazards.ReferenceEnv

namespace GeoHazard

variable {G : Type} {env : Env G} {lib : Shapely env}

theorem feature_from_orm_ok {e : HazardEvent G} :
    (∃ feature, feature_from_orm lib e = .ok feature) ↔ lib.geometry_collection e.geom = false := by
  rw [← serves_iff]
  simp only [feature_from_orm, bind_ok]
  refine ⟨fun ⟨feature, geometry, h, _⟩ => ⟨geometry, h⟩, fun ⟨geometry, h⟩ => ⟨_, geometry, h, rfl⟩⟩

theorem feature_from_orm_key {e : HazardEvent G} {feature : EventFeature}
    (h : feature_from_orm lib e = .ok feature) : feature.page_key = e.page_key := by
  simp only [feature_from_orm, bind_ok] at h
  obtain ⟨geometry, _, h⟩ := h
  simp only [Except.ok.injEq] at h
  rw [← h]
  rfl

theorem feature_from_orm_error {e : HazardEvent G} {key : KeyError}
    (h : feature_from_orm lib e = .error key) : key = ⟨"coordinates"⟩ := by
  cases hc : lib.geometry_collection e.geom with
  | false =>
      obtain ⟨feature, hok⟩ := feature_from_orm_ok.mpr hc
      simp [hok] at h
  | true =>
      simp only [feature_from_orm, wkb_to_geojson_collection hc, bind, Except.bind,
        Except.error.injEq] at h
      exact h.symm

namespace ListEventsUseCase

variable {text : CursorText} {sql : SpatialSql G} {bbox_raw province : Option String} {f : Filters}
  {limit : Nat} {cursor_raw : Option String} {now : Timestamptz} {t : HazardEventRepo.Rows G}
  {bbox : Option Bbox} {cursor : Option (Timestamptz × Nat)}

theorem execute_parsed (hb : parse_bbox env bbox_raw = .ok bbox)
    (hc : parse_cursor text cursor_raw = .ok cursor) :
    execute lib text sql bbox_raw province f limit cursor_raw now t = (do
      let (items, next_key) := HazardEventRepo.list_page sql bbox province f limit cursor now t
      let features ← catch_key_error (each (feature_from_orm lib) items)
      .ok ⟨features, features.length,
        next_key.map (fun key => Pagination.encode_cursor text key.1 key.2), attributions_for
        (features.map (fun f => f.properties.source) ++ if truthy province then ["cnig"] else [])⟩) := by
  simp only [execute, hb, hc, catch_value_error, Except.mapError, bind, Except.bind]

theorem execute_ok {collection : EventFeatureCollection} :
    execute lib text sql bbox_raw province f limit cursor_raw now t = .ok collection →
      ∃ bbox cursor, parse_bbox env bbox_raw = .ok bbox ∧ parse_cursor text cursor_raw = .ok cursor ∧
        List.Forall₂ (fun e feature => feature_from_orm lib e = .ok feature)
          (HazardEventRepo.list_page sql bbox province f limit cursor now t).1 collection.features ∧
        collection.nextCursor =
          (HazardEventRepo.list_page sql bbox province f limit cursor now t).2.map
            (fun key => Pagination.encode_cursor text key.1 key.2) := by
  intro h
  cases hb : parse_bbox env bbox_raw with
  | error e => simp [execute, hb, catch_value_error, Except.mapError, bind, Except.bind] at h
  | ok bbox =>
      cases hc : parse_cursor text cursor_raw with
      | error e => simp [execute, hb, hc, catch_value_error, Except.mapError, bind, Except.bind] at h
      | ok cursor =>
          rw [execute_parsed hb hc, bind_ok] at h
          obtain ⟨features, hf, hcollection⟩ := h
          rw [catch_key_error_ok, each_ok] at hf
          rw [Except.ok.injEq] at hcollection
          exact ⟨bbox, cursor, rfl, rfl, hcollection ▸ hf, hcollection ▸ rfl⟩

theorem execute_key_error (hb : parse_bbox env bbox_raw = .ok bbox)
    (hc : parse_cursor text cursor_raw = .ok cursor)
    (hg : ∃ e ∈ (HazardEventRepo.list_page sql bbox province f limit cursor now t).1,
      lib.geometry_collection e.geom = true) :
    execute lib text sql bbox_raw province f limit cursor_raw now t =
      .error (.key_error ⟨"coordinates"⟩) := by
  obtain ⟨e, he, hcollection⟩ := hg
  have hraised : each (feature_from_orm lib)
      (HazardEventRepo.list_page sql bbox province f limit cursor now t).1 =
        .error ⟨"coordinates"⟩ := by
    refine each_error (fun e _ key => feature_from_orm_error) ⟨e, he, ⟨"coordinates"⟩, ?_⟩
    simp [feature_from_orm, wkb_to_geojson_collection hcollection, bind, Except.bind]
  rw [execute_parsed hb hc]
  simp only [hraised]
  rfl

theorem execute_iff (hb : parse_bbox env bbox_raw = .ok bbox)
    (hc : parse_cursor text cursor_raw = .ok cursor) :
    (∃ collection, execute lib text sql bbox_raw province f limit cursor_raw now t = .ok collection) ↔
      ∀ e ∈ (HazardEventRepo.list_page sql bbox province f limit cursor now t).1,
        lib.geometry_collection e.geom = false := by
  simp only [execute_parsed hb hc, bind_ok, catch_key_error_ok, ← feature_from_orm_ok, ← each_exists]
  exact ⟨fun ⟨_, features, hf, _⟩ => ⟨features, hf⟩, fun ⟨features, hf⟩ => ⟨_, features, hf, rfl⟩⟩

end ListEventsUseCase

theorem near_events_iff {sql : SpatialSql G} {latitude longitude radius_m : PyFloat} {f : Filters}
    {limit : Nat} {now : Timestamptz} {t : HazardEventRepo.Rows G} :
    (∃ collection, NearEventsUseCase.execute lib sql latitude longitude radius_m f limit now t =
        .ok collection) ↔
      ∀ p ∈ HazardEventRepo.near_page sql latitude longitude radius_m f limit now t,
        lib.geometry_collection p.1.geom = false := by
  have hfeature : ∀ p, (∃ feature, NearEventsUseCase.feature lib sql p = .ok feature) ↔
      lib.geometry_collection p.1.geom = false := by
    intro p
    have hserved : _ ↔ lib.geometry_collection p.1.geom = false := feature_from_orm_ok
    rw [← hserved]
    simp only [NearEventsUseCase.feature, bind_ok]
    exact ⟨fun ⟨_, feature, h, _⟩ => ⟨feature, h⟩, fun ⟨feature, h⟩ => ⟨_, feature, h, rfl⟩⟩
  simp only [NearEventsUseCase.execute, bind_ok, catch_key_error_ok, ← hfeature, ← each_exists]
  exact ⟨fun ⟨_, features, hf, _⟩ => ⟨features, hf⟩, fun ⟨features, hf⟩ => ⟨_, features, hf, rfl⟩⟩

theorem keys_untuple_fields (kvs : List (String × PyObject)) :
    Dict.keys (PyObject.untuple_fields kvs) = Dict.keys kvs := by
  induction kvs with
  | nil => rfl
  | cons kv kvs ih => simpa [PyObject.untuple_fields, Dict.keys] using ih

theorem keys_of_fields (of_int : Int → PyFloat) (kvs : List (String × PyJson)) :
    Dict.keys (PyObject.of_fields of_int kvs) = Dict.keys kvs := by
  induction kvs with
  | nil => rfl
  | cons kv kvs ih => simpa [PyObject.of_fields, Dict.keys] using ih

def HasCoordinates (geometry : PyJson) : Prop :=
  ∃ kvs, geometry = .obj kvs ∧ "coordinates" ∈ Dict.keys kvs

def RepairsToCollection (lib : Shapely env) (polygon : String) : Prop :=
  ∃ points, collect (cap_vertex env) (split polygon) = .ok points ∧
    env.is_valid (env.Polygon points) = false ∧
    lib.geometry_collection (env.make_valid (env.Polygon points)) = true

theorem shaped_keys {geometry : PyJson} {g : G} (h : env.shape geometry = some g) :
    ∃ kvs, geometry = .obj kvs ∧ Dict.keys kvs = Dict.keys (lib.mapping g) := by
  have hm := lib.mapping_shape geometry g h
  simp only [PyObject.untuple] at hm
  cases geometry with
  | obj kvs =>
      simp only [PyObject.of_json, PyObject.dict.injEq] at hm
      refine ⟨kvs, rfl, ?_⟩
      rw [← keys_of_fields lib.of_int kvs, ← hm, keys_untuple_fields]
  | _ => simp [PyObject.of_json] at hm

theorem shaped_collection_iff {geometry : PyJson} {g : G} (h : env.shape geometry = some g) :
    lib.geometry_collection g = false ↔ HasCoordinates geometry := by
  obtain ⟨kvs, rfl, hk⟩ := @shaped_keys _ _ lib _ _ h
  cases hc : lib.geometry_collection g with
  | false =>
      obtain ⟨geom_type, c, _, hm⟩ := lib.coordinates g hc
      exact ⟨fun _ => ⟨kvs, rfl, by rw [hk, hm]; simp [Dict.keys]⟩, fun _ => rfl⟩
  | true =>
      obtain ⟨parts, hm⟩ := lib.geometries g hc
      refine ⟨by simp, ?_⟩
      rintro ⟨fields, he, hmem⟩
      rw [Json.obj.injEq] at he
      subst he
      rw [hk, hm] at hmem
      simp [Dict.keys] at hmem

theorem ring_collection_iff {polygon : String} {g : G} (h : cap_polygon_to_wkb env polygon = .ok g) :
    lib.geometry_collection g = false ↔ ¬ RepairsToCollection lib polygon := by
  obtain ⟨points, hp, _, rfl, _⟩ := cap_polygon_to_wkb_ok.mp h
  have hrepairs : RepairsToCollection lib polygon ↔ env.is_valid (env.Polygon points) = false ∧
      lib.geometry_collection (env.make_valid (env.Polygon points)) = true := by
    refine ⟨fun ⟨ps, hps, h⟩ => ?_, fun h => ⟨points, hp, h⟩⟩
    rw [hp, Except.ok.injEq] at hps
    exact hps ▸ h
  rw [hrepairs, ring_geometry]
  cases hv : env.is_valid (env.Polygon points) with
  | true => simp [lib.polygon points]
  | false => simp

theorem stored_geometries_served :
    (∀ geometry g, geojson_to_wkb env geometry = .ok g →
      ((∃ o, wkb_to_geojson lib g = .ok o ∧ PyObject.dict o = .of_json lib.of_int geometry) ↔
        HasCoordinates geometry)) ∧
    (∀ polygon g, cap_polygon_to_wkb env polygon = .ok g →
      ((∃ o, wkb_to_geojson lib g = .ok o ∧ PyObject.dict o = lib.geojson g) ↔
        ¬ RepairsToCollection lib polygon)) ∧
    (∀ text sql bbox_raw province f limit cursor_raw now t bbox cursor,
      parse_bbox env bbox_raw = .ok bbox →
      ListEventsUseCase.parse_cursor text cursor_raw = .ok cursor →
      ((∃ c, ListEventsUseCase.execute lib text sql bbox_raw province f limit cursor_raw now t = .ok c) ↔
        ∀ e ∈ (HazardEventRepo.list_page sql bbox province f limit cursor now t).1,
          lib.geometry_collection e.geom = false)) ∧
    ∀ sql latitude longitude radius_m f limit now t,
      ((∃ c, NearEventsUseCase.execute lib sql latitude longitude radius_m f limit now t = .ok c) ↔
        ∀ p ∈ HazardEventRepo.near_page sql latitude longitude radius_m f limit now t,
          lib.geometry_collection p.1.geom = false) := by
  refine ⟨fun geometry g h => ?_, fun polygon g h => ?_, ?_, ?_⟩
  · obtain ⟨hs, _⟩ := geojson_to_wkb_ok.mp h
    have hc : lib.geometry_collection g = false ↔ HasCoordinates geometry := shaped_collection_iff hs
    rw [← hc, ← wkb_to_geojson_iff, Shapely.geojson, lib.mapping_shape geometry g hs]
  · rw [← ring_collection_iff h, ← wkb_to_geojson_iff]
  · exact fun _ _ _ _ _ _ _ _ _ _ _ hb hc => ListEventsUseCase.execute_iff hb hc
  · exact fun _ _ _ _ _ _ _ _ => near_events_iff

inductive PlaneShape where
  | point (lon lat : PyFloat)
  | polygon (ring : List (PyFloat × PyFloat))
  | geometry_collection (ring line_string : List (PyFloat × PyFloat))
  deriving DecidableEq

namespace PlaneShape

def zero : PyFloat := ⟨0x0000000000000000⟩
def two : PyFloat := ⟨0x4000000000000000⟩
def four : PyFloat := ⟨0x4010000000000000⟩

-- a square with a spike out of one corner
def spike : String := "0,0 0,2 2,2 4,2 2,2 2,0 0,0"

def spike_ring : List (PyFloat × PyFloat) :=
  [(zero, zero), (two, zero), (two, two), (two, four), (two, two), (zero, two), (zero, zero)]

def square : List (PyFloat × PyFloat) :=
  [(zero, zero), (two, zero), (two, two), (zero, two), (zero, zero)]

def shape : PyJson → Option PlaneShape
  | .obj [("type", .str "Point"), ("coordinates", .arr [.float lon, .float lat])] =>
      some (.point lon.val lat.val)
  | _ => none

def vertices (ring : List (PyFloat × PyFloat)) : PyObject :=
  .tuple (ring.map (fun p => .tuple [.float p.1, .float p.2]))

def mapping : PlaneShape → List (String × PyObject)
  | .point lon lat => [("type", .str "Point"), ("coordinates", .tuple [.float lon, .float lat])]
  | .polygon ring => [("type", .str "Polygon"), ("coordinates", .tuple [vertices ring])]
  | .geometry_collection ring line_string =>
      [("type", .str "GeometryCollection"),
        ("geometries", .list [
          .dict [("type", .str "Polygon"), ("coordinates", .tuple [vertices ring])],
          .dict [("type", .str "LineString"), ("coordinates", vertices line_string)]])]

def is_collection : PlaneShape → Bool
  | .geometry_collection _ _ => true
  | _ => false

def plane_env : Env PlaneShape where
  float s := Dict.get s [("0", zero), ("2", two), ("4", four)]
  float_text := bits_float_text
  sha256 := id
  Point lon lat := .point lon.val lat.val
  Polygon ring := .polygon ring
  shape := shape
  is_valid g := g ≠ .polygon spike_ring
  is_empty _ := false
  make_valid g :=
    if g = .polygon spike_ring then .geometry_collection square [(two, two), (two, four)] else g
  province _ := none

theorem coordinates_vertices (ring : List (PyFloat × PyFloat)) : Coordinates (vertices ring) := by
  refine .tuple (fun x hx => ?_)
  obtain ⟨p, _, rfl⟩ := List.mem_map.mp hx
  refine .tuple (fun y hy => ?_)
  simp only [List.mem_cons, List.not_mem_nil, or_false] at hy
  rcases hy with rfl | rfl
  · exact .float p.1
  · exact .float p.2

def shapely : Shapely plane_env where
  of_int _ := zero
  mapping := mapping
  geometry_collection := is_collection
  coordinates g hg := by
    cases g with
    | point lon lat =>
        refine ⟨"Point", .tuple [.float lon, .float lat], .tuple (fun x hx => ?_), rfl⟩
        simp only [List.mem_cons, List.not_mem_nil, or_false] at hx
        rcases hx with rfl | rfl
        · exact .float lon
        · exact .float lat
    | polygon ring =>
        refine ⟨"Polygon", .tuple [vertices ring], .tuple (fun x hx => ?_), rfl⟩
        rw [List.mem_singleton.mp hx]
        exact coordinates_vertices ring
    | geometry_collection ring line_string => simp [is_collection] at hg
  geometries g hg := by
    cases g with
    | geometry_collection ring line_string => exact ⟨_, rfl⟩
    | point lon lat => simp [is_collection] at hg
    | polygon ring => simp [is_collection] at hg
  polygon _ := rfl
  mapping_shape geometry g h := by
    simp only [plane_env, shape] at h
    split at h
    · simp only [Option.some.injEq] at h
      subst h
      simp [mapping, PyObject.untuple, PyObject.untuple_fields, PyObject.untuples, PyObject.of_json,
        PyObject.of_fields, PyObject.of_jsons]
    · simp at h

def spiked_warning : AemetWarning :=
  { yellow "A" MSG_TYPE_ALERT (july 2 10) (july 3 10) [] with polygon := some spike }

def spiked : Db PlaneShape :=
  (Db.empty _).after plane_env (ran_at 1 (july 2 11)) (.aemet [spiked_warning])

def no_filters : Filters := ⟨none, none, none, none, none, none⟩

end PlaneShape

open PlaneShape

theorem spiked_page (sql : SpatialSql PlaneShape) (now : Timestamptz) :
    HazardEventRepo.list_page sql none none no_filters 100 none now spiked.hazard_events =
      (spiked.hazard_events, none) := rfl

theorem spiked_raises (text : CursorText) (sql : SpatialSql PlaneShape) (now : Timestamptz) :
    ListEventsUseCase.execute shapely text sql none none no_filters 100 none now
      spiked.hazard_events = .error (.key_error ⟨"coordinates"⟩) := by
  have hb : parse_bbox plane_env none = .ok none := rfl
  have hc : ListEventsUseCase.parse_cursor text none = .ok none := rfl
  exact ListEventsUseCase.execute_key_error hb hc (spiked_page sql now ▸ by decide)

def at_sea : PyJson :=
  .obj [("type", .str "Point"), ("coordinates", .arr [.float ⟨two, rfl⟩, .float ⟨four, rfl⟩])]

theorem stored_geometries_served_plane :
    ((∃ o, wkb_to_geojson shapely (.point two four) = .ok o ∧
        PyObject.dict o = .of_json shapely.of_int at_sea) ↔ HasCoordinates at_sea) ∧
    ((∃ o, wkb_to_geojson shapely (.polygon square) = .ok o ∧
        PyObject.dict o = shapely.geojson (.polygon square)) ↔
      ¬ RepairsToCollection shapely "0,0 0,2 2,2 2,0 0,0") ∧
    ∀ text sql, (∃ c, ListEventsUseCase.execute shapely text sql none none no_filters 100 none
        (july 2 12).instant spiked.hazard_events = .ok c) ↔
      ∀ e ∈ spiked.hazard_events, shapely.geometry_collection e.geom = false := by
  have h := @stored_geometries_served _ _ shapely
  exact ⟨h.1 at_sea _ rfl, h.2.1 _ _ rfl, fun text sql =>
    h.2.2.1 text sql none none no_filters 100 none _ _ none none rfl rfl⟩

theorem spike_not_served :
    (∃ g, cap_polygon_to_wkb plane_env spike = .ok g ∧ ¬ ∃ o, wkb_to_geojson shapely g = .ok o) ∧
    SyncStep plane_env (Db.empty _) (.committed (ran_at 1 (july 2 11)) (.aemet [spiked_warning]))
      spiked ∧
    ∀ text sql, ListEventsUseCase.execute shapely text sql none none no_filters 100 none
      (july 2 12).instant spiked.hazard_events = .error (.key_error ⟨"coordinates"⟩) := by
  refine ⟨⟨.geometry_collection square [(two, two), (two, four)], by decide, ?_⟩,
    SyncStep.after (by decide), fun text sql => ?_⟩
  · rw [serves_iff]
    decide
  · exact spiked_raises text sql (july 2 12).instant

end GeoHazard

import GeoHazard.Hazards.Schema

namespace GeoHazard

def severity_one : Severity := ⟨1, by decide⟩

def severity_two : Severity := ⟨2, by decide⟩

def minus_180 : PyFloat := ⟨0xc066800000000000⟩
def plus_180 : PyFloat := ⟨0x4066800000000000⟩
def minus_90 : PyFloat := ⟨0xc056800000000000⟩
def plus_90 : PyFloat := ⟨0x4056800000000000⟩

def BURNT_AREA_THRESHOLDS : List (PyFloat × Severity) :=
  [(⟨0x40b3880000000000⟩, ⟨4, by decide⟩), (⟨0x407f400000000000⟩, ⟨3, by decide⟩)]

def AEMET_LEVELS : List (String × Severity) :=
  [("verde", severity_one), ("amarillo", severity_two), ("naranja", ⟨3, by decide⟩),
    ("rojo", ⟨4, by decide⟩)]

def IGN_MAGNITUDE_THRESHOLDS : List (PyFloat × Severity) :=
  [(⟨0x4016000000000000⟩, ⟨4, by decide⟩), (⟨0x4010000000000000⟩, ⟨3, by decide⟩),
    (⟨0x4008000000000000⟩, severity_two)]

def first_threshold (x : PyFloat) (otherwise : Severity) : List (PyFloat × Severity) → Severity
  | [] => otherwise
  | (threshold, level) :: rest => if x.ge threshold then level else first_threshold x otherwise rest

inductive EffisKind where
  | hotspot | burnt_area
  deriving DecidableEq

def EffisKind.name : EffisKind → String
  | .hotspot => "hotspot"
  | .burnt_area => "burnt_area"

def effis_severity (kind : EffisKind) (area_ha : Option FiniteFloat) : Severity :=
  match kind with
  | .hotspot => severity_two
  | .burnt_area =>
      match area_ha with
      | none => severity_two
      | some area => first_threshold area.val severity_two BURNT_AREA_THRESHOLDS

def ign_severity (magnitude : FiniteFloat) : Severity :=
  first_threshold magnitude.val severity_one IGN_MAGNITUDE_THRESHOLDS

def aemet_severity (nivel : String) : Except PyError Severity :=
  match Dict.get (lower (strip nivel)) AEMET_LEVELS with
  | some level => .ok level
  | none => .error (.value_error "unknown AEMET warning level" (some nivel))

def content_hash {G : Type} (env : Env G) (payload : PyJson) : String :=
  env.sha256 (Json.dumps env.float_text payload)

section
variable {G : Type} (env : Env G)

def point_to_wkb (latitude longitude : FiniteFloat) : G := env.Point longitude latitude

def cap_vertex (pair : String) : Except PyError (PyFloat × PyFloat) :=
  let (lat_text, lon_text) := partition ',' pair
  if lon_text = "" then .error (.value_error "malformed CAP polygon vertex" (some pair))
  else
    match env.float lon_text with
    | none => .error (.value_error "could not convert string to float" (some lon_text))
    | some lon =>
        match env.float lat_text with
        | none => .error (.value_error "could not convert string to float" (some lat_text))
        | some lat => .ok (lon, lat)

def cap_polygon_to_wkb (polygon : String) : Except PyError G := do
  let points ← collect (cap_vertex env) (split polygon)
  if points.length < 4 then
    .error (.value_error "CAP polygon needs at least 4 vertices (closed ring)" none)
  else
    let geom := env.Polygon points
    let geom := if env.is_valid geom then geom else env.make_valid geom
    if env.is_empty geom then
      .error (.value_error "CAP polygon repaired to an empty geometry" none)
    else .ok geom

def geojson_to_wkb (geometry : PyJson) : Except PyError G :=
  match env.shape geometry with
  | none => .error (.value_error "unknown geometry" none)
  | some geom =>
      if env.is_empty geom then .error (.value_error "empty geometry" none) else .ok geom

end

-- the geometry of a CAP ring, repaired when it is not valid
def ring_geometry {G : Type} (env : Env G) (points : List (PyFloat × PyFloat)) : G :=
  if env.is_valid (env.Polygon points) then env.Polygon points else env.make_valid (env.Polygon points)

theorem cap_polygon_to_wkb_ok {G : Type} {env : Env G} {polygon : String} {g : G} :
    cap_polygon_to_wkb env polygon = .ok g ↔ ∃ points,
      collect (cap_vertex env) (split polygon) = .ok points ∧ 4 ≤ points.length ∧
        g = ring_geometry env points ∧ env.is_empty g = false := by
  simp only [cap_polygon_to_wkb, bind_ok]
  refine exists_congr (fun points => and_congr_right (fun _ => ?_))
  by_cases hlen : points.length < 4
  · simp only [if_pos hlen, reduceCtorEq, false_iff]
    omega
  · rw [if_neg hlen]
    change (if env.is_empty (ring_geometry env points) = true then _ else _) = _ ↔ _
    by_cases he : env.is_empty (ring_geometry env points) = true
    · rw [if_pos he]
      simp only [reduceCtorEq, false_iff, not_and]
      rintro _ rfl
      simp [he]
    · rw [if_neg he, Except.ok.injEq]
      refine ⟨?_, fun h => h.2.1.symm⟩
      rintro rfl
      exact ⟨by omega, rfl, Bool.eq_false_iff.mpr he⟩

theorem geojson_to_wkb_ok {G : Type} {env : Env G} {geometry : PyJson} {g : G} :
    geojson_to_wkb env geometry = .ok g ↔ env.shape geometry = some g ∧ env.is_empty g = false := by
  cases hs : env.shape geometry with
  | none => simp [geojson_to_wkb, hs]
  | some shaped =>
      cases he : env.is_empty shaped with
      | true =>
          simp only [geojson_to_wkb, hs, he, if_true, reduceCtorEq, Option.some.injEq, false_iff,
            not_and]
          rintro rfl
          simp [he]
      | false =>
          simp only [geojson_to_wkb, hs, he, Bool.false_eq_true, if_false, Except.ok.injEq,
            Option.some.injEq]
          exact ⟨fun h => ⟨h, h ▸ he⟩, fun h => h.1⟩

theorem content_hash_eq_iff {G : Type} {env : Env G} (hsha : Function.Injective env.sha256)
    {p q : PyJson} : content_hash env p = content_hash env q ↔ p.canon = q.canon := by
  rw [content_hash, content_hash, hsha.eq_iff, Json.dumps_eq_iff]

end GeoHazard

import GeoHazard.Library.GroupBy
import GeoHazard.Hazards.HazardEventRepo

namespace GeoHazard

structure Circle where
  lon : PyFloat
  lat : PyFloat
  radius_m : PyFloat

-- the functions of DuckDB that the queries call: Europe/Madrid goes through every civil day in order
structure DuckDb (G : Type) where
  local_date : Timestamptz → Int
  year : Int → Int
  month : Int → Nat
  ST_DWithin : G → Circle → Bool
  local_date_monotone : ∀ t u, t ≤ u → local_date t ≤ local_date u
  local_date_onto : ∀ day, ∃ t, local_date t = day
  year_monotone : ∀ d d', d ≤ d' → year d ≤ year d'

inductive ZoneGroup where
  | month | province
  deriving DecidableEq

inductive ZoneKey where
  | month (m : Nat)
  | province (code : String)
  deriving DecidableEq

-- generate_series(d0, d1, INTERVAL 1 DAY)
def generate_series (d0 d1 : Int) : List Int :=
  (List.range (d1 + 1 - d0).toNat).map (fun i : Nat => d0 + i)

theorem mem_generate_series {d0 d1 day : Int} : day ∈ generate_series d0 d1 ↔ d0 ≤ day ∧ day ≤ d1 := by
  simp only [generate_series, List.mem_map, List.mem_range]
  constructor
  · rintro ⟨i, hi, rfl⟩
    omega
  · rintro ⟨h0, h1⟩
    exact ⟨(day - d0).toNat, by omega, by omega⟩

namespace Zones

variable {G : Type} (db : DuckDb G)

def zone_filter (province : Option String) (circle : Option Circle) (e : HazardEvent G) : Bool :=
  match province with
  | some code => decide (e.province_code = some code)
  | none => circle.all (fun c => db.ST_DWithin e.geom c)

def until_ (e : HazardEvent G) : Timestamptz := e.ends_at.getD e.starts_at

def d0 (e : HazardEvent G) : Int := db.local_date e.starts_at

def d1 (e : HazardEvent G) : Int := db.local_date (until_ e)

variable (year : Int) (group : ZoneGroup) (province : Option String) (circle : Option Circle)

def w (snapshot : HazardEventRepo.Rows G) : HazardEventRepo.Rows G :=
  snapshot.filter (fun e => decide (e.hazard_type = .weather_warning) && decide (2 ≤ e.severity.val) &&
    decide (db.year (d0 db e) ≤ year) && decide (year ≤ db.year (d1 db e)) &&
    zone_filter db province circle e)

structure WarningDay where
  province_code : Option String
  day : Int
  severity : Nat
  deriving DecidableEq

def days (snapshot : HazardEventRepo.Rows G) : List WarningDay :=
  (w db year province circle snapshot).flatMap (fun e =>
    (generate_series (d0 db e) (d1 db e)).map (fun day => ⟨e.province_code, day, e.severity.val⟩))

def grouped (r : WarningDay) : Option String × Int :=
  (if group = .province then r.province_code else none, r.day)

def worst (snapshot : HazardEventRepo.Rows G) : List ((Option String × Int) × Nat) :=
  GroupBy.aggregate (grouped group) (GroupBy.maximum WarningDay.severity)
    ((days db year province circle snapshot).filter (fun r => decide (db.year r.day = year)))

def key (r : Option String × Int) : Option ZoneKey :=
  match group with
  | .month => some (.month (db.month r.2))
  | .province => r.1.map .province

-- the day and the severity of each row of worst that has a key
def keyed (snapshot : HazardEventRepo.Rows G) : List (ZoneKey × Int × Nat) :=
  (worst db year group province circle snapshot).filterMap (fun r =>
    (key db group r.1).map (fun k => (k, r.1.2, r.2)))

def warning_days (snapshot : HazardEventRepo.Rows G) : List (ZoneKey × List (Nat × Nat)) :=
  GroupBy.nest (GroupBy.aggregate (fun r => (r.1, r.2.2)) List.length
    (keyed db year group province circle snapshot))

end Zones

end GeoHazard

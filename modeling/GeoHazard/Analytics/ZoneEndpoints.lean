import Mathlib
import GeoHazard.Analytics.Zones

namespace GeoHazard

-- the values that the queries read from attrs, and the months of the calendar
structure ZoneSql (G M : Type) extends DuckDb G where
  json_extract_string : PyJson → String → Option String
  cast_magnitude : String → Option M
  cast_hectares : String → Option ℚ
  month_range : ∀ day, 1 ≤ month day ∧ month day ≤ 12

-- round(x, 1), half away from zero
def round1 (x : ℚ) : ℚ := if 0 ≤ x then (round (x * 10) : ℚ) / 10 else -((round (-x * 10) : ℚ) / 10)

theorem round1_error (x : ℚ) : |round1 x - x| ≤ 1 / 20 := by
  have hround : ∀ y : ℚ, |(round (y * 10) : ℚ) / 10 - y| ≤ 1 / 20 := by
    intro y
    have h := abs_sub_round (y * 10)
    rw [abs_le] at h ⊢
    constructor <;> linarith [h.1, h.2]
  unfold round1
  split
  · exact hround x
  · have h := hround (-x)
    rw [abs_le] at h ⊢
    constructor <;> linarith [h.1, h.2]

inductive Level where
  | yellow | orange | red

def Level.severity : Level → Nat
  | .yellow => 2
  | .orange => 3
  | .red => 4

-- warning_days_yellow, warning_days_orange and warning_days_red are the values of warning_days
structure Metrics (M : Type) where
  warning_days : Level → Nat
  earthquakes : Nat
  max_magnitude : Option M
  burnt_areas : Nat
  burned_area_ha : ℚ

structure MonthRow (M : Type) extends Metrics M where
  month : Nat

structure ProvinceRow (M : Type) extends Metrics M where
  province_code : String
  province : String

structure ZoneMonthly (M : Type) where
  history_since : Option Int
  rows : List (MonthRow M)

structure ProvincesSummary (M : Type) where
  history_since : Option Int
  rows : List (ProvinceRow M)

abbrev Snapshots (G : Type) := List (String × HazardEventRepo.Rows G)

namespace Zones

variable {G M : Type} [LinearOrder M] (sql : ZoneSql G M)

def event_key (group : ZoneGroup) (e : HazardEvent G) : Option ZoneKey :=
  match group with
  | .month => some (.month (sql.month (d0 sql.toDuckDb e)))
  | .province => e.province_code.map .province

-- GROUP BY 1 HAVING k IS NOT NULL, as the dict of its rows
def having_key {α : Type} (group : ZoneGroup) (f : HazardEventRepo.Rows G → α)
    (rows : HazardEventRepo.Rows G) : List (ZoneKey × α) :=
  Dict.ofList ((GroupBy.aggregate (event_key sql group) f rows).filterMap
    (fun r => r.1.map (fun k => (k, r.2))))

def magnitude (e : HazardEvent G) : Option M :=
  (sql.json_extract_string e.attrs "$.magnitude").bind sql.cast_magnitude

def area_ha (e : HazardEvent G) : Option ℚ :=
  (sql.json_extract_string e.attrs "$.area_ha").bind sql.cast_hectares

def is_earthquake (year : Int) (province : Option String) (circle : Option Circle)
    (e : HazardEvent G) : Bool :=
  decide (e.hazard_type = .earthquake) && decide (sql.year (d0 sql.toDuckDb e) = year) &&
    zone_filter sql.toDuckDb province circle e

def is_burnt_area (year : Int) (province : Option String) (circle : Option Circle)
    (e : HazardEvent G) : Bool :=
  decide (e.hazard_type = .wildfire) &&
    decide (sql.json_extract_string e.attrs "$.kind" = some "burnt_area") &&
    decide (sql.year (d0 sql.toDuckDb e) = year) && zone_filter sql.toDuckDb province circle e

def quake_totals (rows : HazardEventRepo.Rows G) : Nat × Option M :=
  (rows.length, (rows.filterMap (magnitude sql)).max?)

-- coalesce(round(sum(area), 1), 0): the sum of no value is NULL
def hectares (rows : HazardEventRepo.Rows G) : ℚ :=
  let areas := rows.filterMap (area_ha sql)
  if areas.isEmpty then 0 else round1 areas.sum

def fire_totals (rows : HazardEventRepo.Rows G) : Nat × ℚ := (rows.length, hectares sql rows)

def earthquakes (snapshot : HazardEventRepo.Rows G) (year : Int) (group : ZoneGroup)
    (province : Option String) (circle : Option Circle) : List (ZoneKey × Nat × Option M) :=
  having_key sql group (quake_totals sql) (snapshot.filter (is_earthquake sql year province circle))

def burnt_areas (snapshot : HazardEventRepo.Rows G) (year : Int) (group : ZoneGroup)
    (province : Option String) (circle : Option Circle) : List (ZoneKey × Nat × ℚ) :=
  having_key sql group (fire_totals sql) (snapshot.filter (is_burnt_area sql year province circle))

def history_since (snapshots : List (HazardEventRepo.Rows G)) : Option Int :=
  (snapshots.filterMap (fun rows => (rows.map (d0 sql.toDuckDb)).min?)).max?

def province_names (provinces : List (String × String)) : List (String × String) :=
  provinces.insertionSort (fun a b => a.1 ≤ b.1)

def metrics (days : Option (List (Nat × Nat))) (quakes : Option (Nat × Option M))
    (fires : Option (Nat × ℚ)) : Metrics M where
  warning_days level := (Dict.get level.severity (days.getD [])).getD 0
  earthquakes := (quakes.map Prod.fst).getD 0
  max_magnitude := quakes.bind Prod.snd
  burnt_areas := (fires.map Prod.fst).getD 0
  burned_area_ha := (fires.map Prod.snd).getD 0

def zone_monthly (snapshots : Snapshots G) (year : Int) (province : Option String)
    (circle : Option Circle) : ZoneMonthly M :=
  let days := ((Dict.get "aemet" snapshots).map
    (warning_days sql.toDuckDb year .month province circle)).getD []
  let quakes := ((Dict.get "ign" snapshots).map
    (fun rows => earthquakes sql rows year .month province circle)).getD []
  let fires := ((Dict.get "effis" snapshots).map
    (fun rows => burnt_areas sql rows year .month province circle)).getD []
  { history_since := history_since sql (Dict.values snapshots)
    rows := (List.range' 1 12).map (fun m =>
      { metrics (Dict.get (.month m) days) (Dict.get (.month m) quakes) (Dict.get (.month m) fires)
        with month := m }) }

def provinces_summary (snapshots : Snapshots G) (provinces : List (String × String)) (year : Int) :
    ProvincesSummary M :=
  let days := ((Dict.get "aemet" snapshots).map
    (warning_days sql.toDuckDb year .province none none)).getD []
  let quakes := ((Dict.get "ign" snapshots).map
    (fun rows => earthquakes sql rows year .province none none)).getD []
  let fires := ((Dict.get "effis" snapshots).map
    (fun rows => burnt_areas sql rows year .province none none)).getD []
  { history_since := history_since sql (Dict.values snapshots)
    rows := (province_names provinces).map (fun p =>
      { metrics (Dict.get (.province p.1) days) (Dict.get (.province p.1) quakes)
          (Dict.get (.province p.1) fires)
        with province_code := p.1, province := p.2 }) }

end Zones

end GeoHazard

import Mathlib
import GeoHazard.Library.Partition
import GeoHazard.Analytics.ZoneEndpoints
import GeoHazard.Analytics.WarningDays

namespace GeoHazard

-- the yearly metrics are those of the months put together
structure Consistent {M : Type} [LinearOrder M] (yearly : Metrics M) (monthly : List (Metrics M)) :
    Prop where
  warning_days : ∀ level, yearly.warning_days level =
    (monthly.map (fun m => m.warning_days level)).sum
  earthquakes : yearly.earthquakes = (monthly.map Metrics.earthquakes).sum
  max_magnitude : yearly.max_magnitude = (monthly.filterMap Metrics.max_magnitude).max?
  burnt_areas : yearly.burnt_areas = (monthly.map Metrics.burnt_areas).sum
  -- half a tenth for the year and for each month with burnt areas
  burned_area_ha : |yearly.burned_area_ha - (monthly.map Metrics.burned_area_ha).sum| ≤
    (1 + (monthly.countP (fun m => decide (0 < m.burnt_areas)) : ℚ)) / 20

namespace Zones

variable {G M : Type} {year : Int}

def MONTHS : List Nat := List.range' 1 12

theorem month_mem (sql : ZoneSql G M) (day : Int) : sql.month day ∈ MONTHS := by
  have h := sql.month_range day
  simp only [MONTHS, List.mem_range'_1]
  omega

theorem nodup_months : MONTHS.Nodup := List.nodup_range'

section WarningDays

variable {db : DuckDb G} {snapshot : HazardEventRepo.Rows G} {p : String}

theorem counts_month {m : Nat} {day : Int} {e : HazardEvent G} :
    Counts db .month (some p) none snapshot (.month m) day e ↔
      db.month day = m ∧ Counts db .province none none snapshot (.province p) day e := by
  simp only [Counts, zone_filter, key, grouped, Option.all_none, true_and, if_true,
    decide_eq_true_eq, Option.some.injEq, ZoneKey.month.injEq, Option.map_eq_some_iff,
    ZoneKey.province.injEq, exists_eq_right]
  constructor
  · rintro ⟨he, ht, hp, hm⟩
    exact ⟨hm, he, ht, hp⟩
  · rintro ⟨hm, he, ht, hp⟩
    exact ⟨he, ht, hp, hm⟩

theorem keyed_month {m : Nat} {day : Int} {severity : Nat} :
    (ZoneKey.month m, day, severity) ∈ keyed db year .month (some p) none snapshot ↔
      db.month day = m ∧
      (ZoneKey.province p, day, severity) ∈ keyed db year .province none none snapshot := by
  simp only [mem_keyed, counts_month]
  constructor
  · rintro ⟨hy, ⟨e, ⟨hm, hc⟩, hs, hf, he⟩, hmax⟩
    exact ⟨hm, hy, ⟨e, hc, hs, hf, he⟩, fun e' hc' => hmax e' ⟨hm, hc'⟩⟩
  · rintro ⟨hm, hy, ⟨e, hc, hs, hf, he⟩, hmax⟩
    exact ⟨hy, ⟨e, ⟨hm, hc⟩, hs, hf, he⟩, fun e' hc' => hmax e' hc'.2⟩

theorem warning_days_total (hmonth : ∀ day, db.month day ∈ MONTHS) (severity : Nat) :
    (GroupBy.lookup (.province p) severity
      (warning_days db year .province none none snapshot)).getD 0 =
    (MONTHS.map (fun m => (GroupBy.lookup (.month m) severity
      (warning_days db year .month (some p) none snapshot)).getD 0)).sum := by
  obtain ⟨ds, hn, hmem, hlen⟩ := @days_counted _ db year .province none none snapshot
    (.province p) severity
  have hparts : (MONTHS.map (fun m => (Partition.part db.month m ds).length)).sum = ds.length :=
    Partition.length_parts nodup_months (fun day _ => hmonth day)
  rw [hlen, ← hparts]
  congr 1
  refine List.map_congr_left (fun m _ => ?_)
  obtain ⟨es, hn', hmem', hlen'⟩ := @days_counted _ db year .month (some p) none snapshot
    (.month m) severity
  rw [hlen']
  have hpart : (Partition.part db.month m ds).Nodup := hn.filter _
  refine List.Perm.length_eq ?_
  rw [List.perm_ext_iff_of_nodup hpart hn']
  intro day
  rw [Partition.mem_part, hmem, hmem', keyed_month, and_comm]

end WarningDays

variable {sql : ZoneSql G M} {α : Type} {group : ZoneGroup}
  {rows : HazardEventRepo.Rows G} {k : ZoneKey}

theorem mem_having {f : HazardEventRepo.Rows G → α} {v : α} :
    (k, v) ∈ (GroupBy.aggregate (event_key sql group) f rows).filterMap
        (fun r => r.1.map (fun k => (k, r.2))) ↔
      (∃ e ∈ rows, event_key sql group e = some k) ∧
        f (GroupBy.group (event_key sql group) (some k) rows) = v := by
  rw [← GroupBy.mem_aggregate]
  simp only [List.mem_filterMap, Option.map_eq_some_iff, Prod.mk.injEq]
  constructor
  · rintro ⟨⟨_, _⟩, hr, _, rfl, rfl, rfl⟩
    exact hr
  · exact fun h => ⟨(some k, v), h, k, rfl, rfl, rfl⟩

theorem nodup_having {f : HazardEventRepo.Rows G → α} :
    (Dict.keys ((GroupBy.aggregate (event_key sql group) f rows).filterMap
      (fun r => r.1.map (fun k => (k, r.2))))).Nodup := by
  have hkeys : (GroupBy.aggregate (event_key sql group) f rows).Pairwise (fun a b => a.1 ≠ b.1) :=
    List.pairwise_map.mp GroupBy.nodup_keys_aggregate
  refine List.pairwise_map.mpr (List.pairwise_filterMap.mpr (hkeys.imp ?_))
  intro a b hne x hx y hy heq
  obtain ⟨k, hk, rfl⟩ := Option.map_eq_some_iff.mp hx
  obtain ⟨k', hk', rfl⟩ := Option.map_eq_some_iff.mp hy
  exact hne (hk.trans ((congrArg some heq).trans hk'.symm))

theorem get_having_key {f : HazardEventRepo.Rows G → α} :
    Dict.get k (having_key sql group f rows) =
      if rows.filter (fun e => decide (event_key sql group e = some k)) = [] then none
      else some (f (rows.filter (fun e => decide (event_key sql group e = some k)))) := by
  have hget : ∀ v, Dict.get k (having_key sql group f rows) = some v ↔
      (∃ e ∈ rows, event_key sql group e = some k) ∧
        f (GroupBy.group (event_key sql group) (some k) rows) = v := by
    intro v
    have hn := @nodup_having _ _ sql α group rows f
    rw [having_key, Dict.get_ofList, Dict.get_iff (by simpa [Dict.keys] using hn), List.mem_reverse,
      mem_having]
  have hsome : (∃ e ∈ rows, event_key sql group e = some k) ↔
      ¬ rows.filter (fun e => decide (event_key sql group e = some k)) = [] := by
    rw [List.filter_eq_nil_iff]
    simp
  split
  · next he =>
      refine Option.eq_none_iff_forall_ne_some.mpr (fun v hv => ?_)
      exact hsome.mp ((hget v).mp hv).1 he
  · next hne => exact (hget _).mpr ⟨hsome.mpr hne, rfl⟩

def civil_month (sql : ZoneSql G M) (e : HazardEvent G) : Nat := sql.month (d0 sql.toDuckDb e)

variable {snapshot : HazardEventRepo.Rows G} {p : String}
  {is_event : Option String → HazardEvent G → Bool}

theorem province_rows (hzone : ∀ e, is_event (some p) e =
      (is_event none e && decide (e.province_code = some p))) :
    (snapshot.filter (is_event none)).filter
        (fun e => decide (event_key sql .province e = some (.province p))) =
      snapshot.filter (is_event (some p)) := by
  rw [List.filter_filter]
  refine List.filter_congr (fun e _ => ?_)
  rw [hzone, Bool.and_comm]
  cases hp : e.province_code <;> simp [event_key, hp]

theorem month_rows {m : Nat} {rows : HazardEventRepo.Rows G} :
    rows.filter (fun e => decide (event_key sql .month e = some (.month m))) =
      Partition.part (civil_month sql) m rows := by
  exact List.filter_congr (fun e _ => decide_eq_decide.mpr (by simp [event_key, civil_month]))

theorem zone_of_province (e : HazardEvent G) : zone_filter sql.toDuckDb (some p) none e =
    (zone_filter sql.toDuckDb none none e && decide (e.province_code = some p)) := by
  simp [zone_filter]

theorem is_earthquake_province (e : HazardEvent G) : is_earthquake sql year (some p) none e =
    (is_earthquake sql year none none e && decide (e.province_code = some p)) := by
  simp only [is_earthquake, zone_of_province, Bool.and_assoc]

theorem is_burnt_area_province (e : HazardEvent G) : is_burnt_area sql year (some p) none e =
    (is_burnt_area sql year none none e && decide (e.province_code = some p)) := by
  simp only [is_burnt_area, zone_of_province, Bool.and_assoc]

-- the area of the rows with nothing rounded
def exact_area (sql : ZoneSql G M) (rows : HazardEventRepo.Rows G) : ℚ :=
  (rows.map (fun e => (area_ha sql e).getD 0)).sum

theorem sum_areas (rows : HazardEventRepo.Rows G) :
    (rows.filterMap (area_ha sql)).sum = exact_area sql rows := by
  induction rows with
  | nil => rfl
  | cons e rows ih =>
      cases he : area_ha sql e with
      | none => simp [exact_area, he, ih]
      | some area => simp [exact_area, he, ih]

theorem round1_zero : round1 0 = 0 := by simp [round1]

theorem hectares_eq (rows : HazardEventRepo.Rows G) :
    hectares sql rows = round1 (exact_area sql rows) := by
  unfold hectares
  rw [← sum_areas]
  cases rows.filterMap (area_ha sql) with
  | nil => simp [round1_zero]
  | cons area areas => rfl

theorem hectares_error (rows : HazardEventRepo.Rows G) :
    |hectares sql rows - exact_area sql rows| ≤ if 0 < rows.length then 1 / 20 else 0 := by
  cases rows with
  | nil => simp [hectares, exact_area]
  | cons e rows =>
      rw [hectares_eq, if_pos (by simp)]
      exact round1_error _

theorem sum_bounds {A : Type} (p : A → Bool) (c : ℚ) (xs : List A) :
    (xs.map (fun x => if p x = true then c else 0)).sum = xs.countP p * c := by
  induction xs with
  | nil => simp
  | cons x xs ih =>
      by_cases hx : p x = true
      · simp [hx, ih, add_mul, add_comm]
      · simp [hx, ih]

theorem exact_area_months (rows : HazardEventRepo.Rows G) :
    (MONTHS.map (fun m => exact_area sql (Partition.part (civil_month sql) m rows))).sum =
      exact_area sql rows :=
  Partition.sum_parts nodup_months _ (fun e _ => month_mem sql (d0 sql.toDuckDb e))

theorem hectares_months (rows : HazardEventRepo.Rows G) :
    |hectares sql rows -
        (MONTHS.map (fun m => hectares sql (Partition.part (civil_month sql) m rows))).sum| ≤
      (1 + (MONTHS.countP
        (fun m => decide (0 < (Partition.part (civil_month sql) m rows).length)) : ℚ)) / 20 := by
  have hyear : |hectares sql rows - exact_area sql rows| ≤ 1 / 20 := by
    refine (hectares_error rows).trans ?_
    split <;> norm_num
  have hmonths := Partition.abs_sum_sub_le
    (fun m => hectares sql (Partition.part (civil_month sql) m rows))
    (fun m => exact_area sql (Partition.part (civil_month sql) m rows))
    (fun m => if decide (0 < (Partition.part (civil_month sql) m rows).length) = true then 1 / 20
      else 0)
    (fun m (_ : m ∈ MONTHS) => by
      simpa using @hectares_error _ _ sql (Partition.part (civil_month sql) m rows))
  rw [exact_area_months, sum_bounds] at hmonths
  rw [abs_le] at hyear hmonths ⊢
  constructor <;> linarith [hyear.1, hyear.2, hmonths.1, hmonths.2]

section Entries

variable {f : HazardEventRepo.Rows G → α} {is_event : Option String → HazardEvent G → Bool}
  (hzone : ∀ e, is_event (some p) e = (is_event none e && decide (e.province_code = some p)))
include hzone

theorem entry_province : Dict.get (.province p)
      (having_key sql .province f (snapshot.filter (is_event none))) =
    if snapshot.filter (is_event (some p)) = [] then none
    else some (f (snapshot.filter (is_event (some p)))) := by
  rw [get_having_key, province_rows hzone]

omit hzone in
theorem entry_month {m : Nat} : Dict.get (.month m)
      (having_key sql .month f (snapshot.filter (is_event (some p)))) =
    if Partition.part (civil_month sql) m (snapshot.filter (is_event (some p))) = [] then none
    else some (f (Partition.part (civil_month sql) m (snapshot.filter (is_event (some p))))) := by
  rw [get_having_key, month_rows]

end Entries

theorem entry_fst {β : Type} {rows : HazardEventRepo.Rows G} {f : HazardEventRepo.Rows G → Nat × β}
    (hf : (f rows).1 = rows.length) :
    ((if rows = [] then none else some (f rows)).map Prod.fst).getD 0 = rows.length := by
  cases rows with
  | nil => rfl
  | cons e rows => simpa using hf

theorem entry_hectares {rows : HazardEventRepo.Rows G} :
    ((if rows = [] then none else some (fire_totals sql rows)).map Prod.snd).getD 0 =
      hectares sql rows := by
  cases rows with
  | nil => simp [hectares]
  | cons e rows => simp [fire_totals]

theorem month_covered (rows : HazardEventRepo.Rows G) : ∀ e ∈ rows, civil_month sql e ∈ MONTHS :=
  fun e _ => month_mem sql (d0 sql.toDuckDb e)

def quakes_of (sql : ZoneSql G M) (ign : HazardEventRepo.Rows G) (year : Int) (p : String) :
    HazardEventRepo.Rows G :=
  ign.filter (is_earthquake sql year (some p) none)

def fires_of (sql : ZoneSql G M) (effis : HazardEventRepo.Rows G) (year : Int) (p : String) :
    HazardEventRepo.Rows G :=
  effis.filter (is_burnt_area sql year (some p) none)

section Fires

variable (sql) (effis : HazardEventRepo.Rows G) (year) (p)

theorem fires_year : Dict.get (.province p) (burnt_areas sql effis year .province none none) =
    if fires_of sql effis year p = [] then none
    else some (fire_totals sql (fires_of sql effis year p)) :=
  @entry_province _ _ sql _ effis p (fire_totals sql)
    (fun province => is_burnt_area sql year province none)
    is_burnt_area_province

theorem fires_month (m : Nat) : Dict.get (.month m) (burnt_areas sql effis year .month (some p) none) =
    if Partition.part (civil_month sql) m (fires_of sql effis year p) = [] then none
    else some (fire_totals sql (Partition.part (civil_month sql) m (fires_of sql effis year p))) :=
  @entry_month _ _ sql _ effis p (fire_totals sql)
    (fun province => is_burnt_area sql year province none) m

end Fires

theorem of_snapshot {β : Type} (f : HazardEventRepo.Rows G → List β) (hnil : f [] = [])
    (o : Option (HazardEventRepo.Rows G)) : (o.map f).getD [] = f (o.getD []) := by
  cases o with
  | none => exact hnil.symm
  | some rows => rfl

section Snapshots

variable {province : Option String} {circle : Option Circle} (o : Option (HazardEventRepo.Rows G))

theorem warning_days_snapshot {db : DuckDb G} :
    (o.map (warning_days db year group province circle)).getD [] =
      warning_days db year group province circle (o.getD []) :=
  of_snapshot _ rfl o

theorem burnt_areas_snapshot :
    (o.map (fun rows => burnt_areas sql rows year group province circle)).getD [] =
      burnt_areas sql (o.getD []) year group province circle :=
  of_snapshot (fun rows => burnt_areas sql rows year group province circle) rfl o

theorem earthquakes_snapshot [LinearOrder M] :
    (o.map (fun rows => earthquakes sql rows year group province circle)).getD [] =
      earthquakes sql (o.getD []) year group province circle :=
  of_snapshot (fun rows => earthquakes sql rows year group province circle) rfl o

end Snapshots

variable [LinearOrder M]

theorem entry_magnitude {rows : HazardEventRepo.Rows G} :
    (if rows = [] then none else some (quake_totals sql rows)).bind Prod.snd =
      (rows.filterMap (magnitude sql)).max? := by
  cases rows <;> simp [quake_totals]

theorem days_of (k : ZoneKey) (severity : Nat) (days : List (ZoneKey × List (Nat × Nat))) :
    (Dict.get severity ((Dict.get k days).getD [])).getD 0 =
      (GroupBy.lookup k severity days).getD 0 := by
  unfold GroupBy.lookup
  cases Dict.get k days <;> simp

def year_metrics (sql : ZoneSql G M) (aemet ign effis : HazardEventRepo.Rows G) (year : Int)
    (p : String) : Metrics M :=
  metrics (Dict.get (.province p) (warning_days sql.toDuckDb year .province none none aemet))
    (Dict.get (.province p) (earthquakes sql ign year .province none none))
    (Dict.get (.province p) (burnt_areas sql effis year .province none none))

def month_metrics (sql : ZoneSql G M) (aemet ign effis : HazardEventRepo.Rows G) (year : Int)
    (p : String) (m : Nat) : Metrics M :=
  metrics (Dict.get (.month m) (warning_days sql.toDuckDb year .month (some p) none aemet))
    (Dict.get (.month m) (earthquakes sql ign year .month (some p) none))
    (Dict.get (.month m) (burnt_areas sql effis year .month (some p) none))

section Quakes

variable (sql) (ign : HazardEventRepo.Rows G) (year) (p)

theorem quakes_year : Dict.get (.province p) (earthquakes sql ign year .province none none) =
    if quakes_of sql ign year p = [] then none else some (quake_totals sql (quakes_of sql ign year p)) :=
  @entry_province _ _ sql _ ign p (quake_totals sql)
    (fun province => is_earthquake sql year province none)
    is_earthquake_province

theorem quakes_month (m : Nat) : Dict.get (.month m) (earthquakes sql ign year .month (some p) none) =
    if Partition.part (civil_month sql) m (quakes_of sql ign year p) = [] then none
    else some (quake_totals sql (Partition.part (civil_month sql) m (quakes_of sql ign year p))) :=
  @entry_month _ _ sql _ ign p (quake_totals sql)
    (fun province => is_earthquake sql year province none) m

end Quakes

variable {aemet ign effis : HazardEventRepo.Rows G}

theorem year_earthquakes : (year_metrics sql aemet ign effis year p).earthquakes =
    (quakes_of sql ign year p).length := by
  simp only [year_metrics, metrics, quakes_year]
  exact entry_fst rfl

theorem month_earthquakes (m : Nat) : (month_metrics sql aemet ign effis year p m).earthquakes =
    (Partition.part (civil_month sql) m (quakes_of sql ign year p)).length := by
  simp only [month_metrics, metrics, quakes_month]
  exact entry_fst rfl

theorem year_magnitude : (year_metrics sql aemet ign effis year p).max_magnitude =
    ((quakes_of sql ign year p).filterMap (magnitude sql)).max? := by
  simp only [year_metrics, metrics, quakes_year]
  exact entry_magnitude

theorem month_magnitude (m : Nat) : (month_metrics sql aemet ign effis year p m).max_magnitude =
    ((Partition.part (civil_month sql) m (quakes_of sql ign year p)).filterMap
      (magnitude sql)).max? := by
  simp only [month_metrics, metrics, quakes_month]
  exact entry_magnitude

theorem year_burnt_areas : (year_metrics sql aemet ign effis year p).burnt_areas =
    (fires_of sql effis year p).length := by
  simp only [year_metrics, metrics, fires_year]
  exact entry_fst rfl

theorem month_burnt_areas (m : Nat) : (month_metrics sql aemet ign effis year p m).burnt_areas =
    (Partition.part (civil_month sql) m (fires_of sql effis year p)).length := by
  simp only [month_metrics, metrics, fires_month]
  exact entry_fst rfl

theorem year_hectares : (year_metrics sql aemet ign effis year p).burned_area_ha =
    hectares sql (fires_of sql effis year p) := by
  simp only [year_metrics, metrics, fires_year]
  exact entry_hectares

theorem month_hectares (m : Nat) : (month_metrics sql aemet ign effis year p m).burned_area_ha =
    hectares sql (Partition.part (civil_month sql) m (fires_of sql effis year p)) := by
  simp only [month_metrics, metrics, fires_month]
  exact entry_hectares

theorem metrics_consistent : Consistent (year_metrics sql aemet ign effis year p)
    (MONTHS.map (month_metrics sql aemet ign effis year p)) := by
  constructor
  · intro level
    simp only [List.map_map, year_metrics, metrics, days_of]
    rw [warning_days_total (month_mem sql)]
    refine congrArg List.sum (List.map_congr_left (fun m _ => ?_))
    simp only [Function.comp, month_metrics, metrics, days_of]
  · rw [List.map_map, year_earthquakes, ← Partition.length_parts nodup_months (month_covered _)]
    exact congrArg List.sum (List.map_congr_left (fun m _ => (month_earthquakes m).symm))
  · rw [year_magnitude, List.filterMap_map, ← Partition.max?_parts _ (month_covered _)]
    exact congrArg List.max? (List.filterMap_congr (fun m _ => (month_magnitude m).symm))
  · rw [List.map_map, year_burnt_areas, ← Partition.length_parts nodup_months (month_covered _)]
    exact congrArg List.sum (List.map_congr_left (fun m _ => (month_burnt_areas m).symm))
  · have hmonths := @hectares_months _ _ sql (fires_of sql effis year p)
    simpa only [List.map_map, year_hectares, Function.comp_def, month_hectares, List.countP_map,
      month_burnt_areas] using hmonths

end Zones

open Zones

theorem zones_agree {G M : Type} [LinearOrder M] (sql : ZoneSql G M) (snapshots : Snapshots G)
    (provinces : List (String × String)) (year : Int) {p name : String}
    (h : (p, name) ∈ provinces) :
    (∃ row ∈ (provinces_summary sql snapshots provinces year).rows,
      row.province_code = p ∧ row.province = name) ∧
    (zone_monthly sql snapshots year (some p) none).rows.map MonthRow.month = List.range' 1 12 ∧
    ∀ row ∈ (provinces_summary sql snapshots provinces year).rows, row.province_code = p →
      Consistent row.toMetrics
        ((zone_monthly sql snapshots year (some p) none).rows.map MonthRow.toMetrics) := by
  have hmonthly : (zone_monthly sql snapshots year (some p) none).rows.map MonthRow.toMetrics =
      MONTHS.map (month_metrics sql ((Dict.get "aemet" snapshots).getD [])
        ((Dict.get "ign" snapshots).getD []) ((Dict.get "effis" snapshots).getD []) year p) := by
    simp only [zone_monthly, warning_days_snapshot, earthquakes_snapshot, burnt_areas_snapshot,
      List.map_map]
    rfl
  refine ⟨?_, ?_, ?_⟩
  · have hmem : (p, name) ∈ province_names provinces := (List.mem_insertionSort _).mpr h
    exact ⟨_, List.mem_map_of_mem hmem, rfl, rfl⟩
  · simp [zone_monthly, Function.comp_def]
  · intro row hrow hp
    rw [hmonthly]
    obtain ⟨⟨code, name'⟩, _, rfl⟩ := List.mem_map.mp hrow
    obtain rfl : code = p := hp
    simp only [warning_days_snapshot, earthquakes_snapshot, burnt_areas_snapshot]
    exact metrics_consistent

def attr_text : PyJson → Option String
  | .str s => some s
  | .float x => Dict.get x.val.bits
      [(0x4004000000000000, "2.5"), (0x400a000000000000, "3.25"), (0x4010000000000000, "4.0"),
        (0x401f000000000000, "7.75"), (0x403e200000000000, "30.125"),
        (0x405e100000000000, "120.25")]
  | _ => none

def decimal (text : String) : Option ℚ :=
  Dict.get text [("2.5", 5 / 2), ("3.25", 13 / 4), ("4.0", 4), ("7.75", 31 / 4),
    ("30.125", 241 / 8), ("120.25", 481 / 4)]

def madrid_sql : ZoneSql (List (PyFloat × PyFloat)) ℚ where
  toDuckDb := madrid_summer
  json_extract_string attrs path :=
    match attrs with
    | .obj kvs => (kvs.find? (fun kv => "$." ++ kv.1 == path)).bind (fun kv => attr_text kv.2)
    | _ => none
  cast_magnitude := decimal
  cast_hectares := decimal
  month_range := month_of_range

-- the hour of the day counted from 1 of the month counted from 1, in UTC
def in_2026 (month day hour : Nat) : Timestamptz :=
  ((days_before_year 2026 + days_before_month 2026 month + day : Nat) -
    (Datetime.epoch_ordinal : Int)) * day_micros + (hour * 3600000000 : Nat)

def warning_severity (nivel : String) : Severity := (Dict.get nivel AEMET_LEVELS).getD severity_one

def zone_row (source : Source) (hazard_type : HazardType) (province : String)
    (severity : Severity) (starts_at : Timestamptz) (ends_at : Option Timestamptz)
    (attrs : List (String × PyJson)) : HazardEvent (List (PyFloat × PyFloat)) where
  source := source
  hazard_type := hazard_type
  external_id := ""
  geom := []
  severity := severity
  starts_at := starts_at
  ends_at := ends_at
  attrs := .obj attrs
  content_hash := ""
  id := 0
  province_code := some province
  created_at := starts_at
  updated_at := none
  xmin := 1

def zone_warning (province nivel : String) (starts_at ends_at : Timestamptz) :
    HazardEvent (List (PyFloat × PyFloat)) :=
  zone_row .aemet .weather_warning province (warning_severity nivel) starts_at (some ends_at) []

def zone_quake (province : String) (starts_at : Timestamptz) (magnitude : PyJson) :
    HazardEvent (List (PyFloat × PyFloat)) :=
  zone_row .ign .earthquake province severity_one starts_at none [("magnitude", magnitude)]

def zone_fire (province kind : String) (starts_at : Timestamptz) (area_ha : PyJson) :
    HazardEvent (List (PyFloat × PyFloat)) :=
  zone_row .effis .wildfire province severity_two starts_at none
    [("kind", .str kind), ("area_ha", area_ha)]

-- Madrid and Sevilla, from May to September
def summer_of_2026 : Snapshots (List (PyFloat × PyFloat)) :=
  [("aemet",
      [zone_warning "28" "naranja" (in_2026 6 27 10) (in_2026 7 2 20),
        zone_warning "28" "amarillo" (in_2026 7 1 10) (in_2026 7 4 20),
        zone_warning "28" "rojo" (in_2026 8 10 10) (in_2026 8 10 20),
        zone_warning "41" "rojo" (in_2026 7 5 10) (in_2026 7 7 20)]),
    ("ign",
      [zone_quake "28" (in_2026 5 12 3) (.float ⟨⟨0x4004000000000000⟩, rfl⟩),
        zone_quake "28" (in_2026 8 20 3) (.float ⟨⟨0x400a000000000000⟩, rfl⟩),
        zone_quake "28" (in_2026 8 21 3) .null,
        zone_quake "41" (in_2026 5 12 3) (.float ⟨⟨0x4010000000000000⟩, rfl⟩)]),
    ("effis",
      [zone_fire "28" "burnt_area" (in_2026 7 5 12) (.float ⟨⟨0x405e100000000000⟩, rfl⟩),
        zone_fire "28" "burnt_area" (in_2026 7 9 12) (.float ⟨⟨0x403e200000000000⟩, rfl⟩),
        zone_fire "28" "burnt_area" (in_2026 9 2 12) (.float ⟨⟨0x401f000000000000⟩, rfl⟩),
        zone_fire "28" "hotspot" (in_2026 9 2 12) .null,
        zone_fire "41" "burnt_area" (in_2026 7 5 12) (.float ⟨⟨0x4010000000000000⟩, rfl⟩)])]

def zone_provinces : List (String × String) := [("41", "Sevilla"), ("28", "Madrid")]

def figures (m : Metrics ℚ) : List Nat × Nat × Option ℚ × Nat × ℚ :=
  ([Level.yellow, .orange, .red].map m.warning_days, m.earthquakes, m.max_magnitude,
    m.burnt_areas, m.burned_area_ha)

-- 158.125 ha in the year; 150.375 in July and 7.75 in September, each rounded
theorem zones_agree_madrid :
    ∃ row ∈ (provinces_summary madrid_sql summer_of_2026 zone_provinces 2026).rows,
      row.province_code = "28" ∧
      figures row.toMetrics = ([2, 6, 1], 3, some (13 / 4), 3, 1581 / 10) ∧
      ((zone_monthly madrid_sql summer_of_2026 2026 (some "28") none).rows.map
          (fun month => figures month.toMetrics)).drop 4 =
        [([0, 0, 0], 1, some (5 / 2), 0, 0), ([0, 4, 0], 0, none, 0, 0),
          ([2, 2, 0], 0, none, 2, 752 / 5), ([0, 0, 1], 2, some (13 / 4), 0, 0),
          ([0, 0, 0], 0, none, 1, 39 / 5), ([0, 0, 0], 0, none, 0, 0),
          ([0, 0, 0], 0, none, 0, 0), ([0, 0, 0], 0, none, 0, 0)] ∧
      Consistent row.toMetrics
        ((zone_monthly madrid_sql summer_of_2026 2026 (some "28") none).rows.map
          MonthRow.toMetrics) := by
  obtain ⟨⟨row, hrow, hp, _⟩, _, hagree⟩ := zones_agree madrid_sql summer_of_2026 zone_provinces
    2026 (List.mem_cons_of_mem _ (List.mem_singleton.mpr rfl))
  have hyear : ((provinces_summary madrid_sql summer_of_2026 zone_provinces 2026).rows.filter
      (fun row => row.province_code = "28")).map (fun row => figures row.toMetrics) =
      [([2, 6, 1], 3, some (13 / 4), 3, 1581 / 10)] := by
    decide +kernel
  have hmem : figures row.toMetrics ∈ [([2, 6, 1], 3, some (13 / 4), 3, (1581 / 10 : ℚ))] := by
    rw [← hyear]
    exact List.mem_map_of_mem (List.mem_filter.mpr ⟨hrow, by simpa using hp⟩)
  exact ⟨row, hrow, hp, List.mem_singleton.mp hmem, by decide +kernel, hagree row hrow hp⟩

end GeoHazard

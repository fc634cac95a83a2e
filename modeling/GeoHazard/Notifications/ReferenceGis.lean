import GeoHazard.Hazards.ReferenceEnv
import GeoHazard.Notifications.MatchRuns

namespace GeoHazard

abbrev Ring := List (PyFloat × PyFloat)

def coordinate (x : PyFloat) : PyJson := if h : x.isfinite = true then .float ⟨x, h⟩ else .null

-- right on rings that share a vertex, and on the dates of the examples
def planar_gis : Gis Ring where
  ST_Intersects a b := a.any (fun p => b.any (fun q => p.1.bits == q.1.bits && p.2.bits == q.2.bits))
  ST_AsGeoJSON ring := .obj [("type", .str "Polygon"),
    ("coordinates", .arr [.arr (ring.map (fun p => .arr [coordinate p.1, coordinate p.2]))])]
  str _ := ""
  isoformat t := match [july 2 10, july 2 12, july 3 10, july 3 12].find?
      (fun d => decide (d.instant = t)) with
    | some d => d.isoformat
    | none => ""
  strftime _ := "2026-07-02 10:00"

def triangle : Ring :=
  [(⟨0⟩, ⟨0⟩), (⟨0⟩, ⟨0x3ff0000000000000⟩), (⟨0x3ff0000000000000⟩, ⟨0x3ff0000000000000⟩), (⟨0⟩, ⟨0⟩)]

def watched_area : WatchArea Ring := ⟨0, .bbox, .obj [], "Vega", triangle⟩

def subscription : Subscription where
  id := 1
  watch_area_id := 0
  hazard_types := [.weather_warning]
  severity_min := severity_one
  channel := .ntfy
  endpoint := "https://ntfy.sh"
  credential := "topic"
  status := .active
  paused_reason := none
  consecutive_failures := 0
  failing_since := none
  retry_at := none
  last_sent_at := none
  last_error := none

def default_settings : MatchSettings := ⟨172800000000, 10800000000⟩

def watching : NotificationsDb Ring :=
  ⟨[subscription], [watched_area], [], [], 0⟩

def NotificationsDb.matched (source : Source) (batch_at now : Timestamptz)
    (events : List (HazardEvent Ring)) (db : NotificationsDb Ring) : NotificationsDb Ring :=
  match MatchBatchUseCase.execute planar_gis default_settings source batch_at now events db with
  | .ok (db', _) => db'
  | .error _ => db

theorem MatchStep.after {source : Source} {batch_at now : Timestamptz}
    {events : List (HazardEvent Ring)} {db : NotificationsDb Ring}
    (h : (MatchBatchUseCase.execute planar_gis default_settings source batch_at now events db).isOk =
      true) :
    MatchStep planar_gis default_settings db (.matched source batch_at now events)
      (db.matched source batch_at now events) := by
  unfold NotificationsDb.matched
  cases he : MatchBatchUseCase.execute planar_gis default_settings source batch_at now events db with
  | error e => simp [he, Except.isOk, Except.toBool] at h
  | ok r => exact ⟨r.2, he⟩

def notified : NotificationsDb Ring :=
  watching.matched .aemet (july 2 11).instant (july 2 12).instant alerted.hazard_events

theorem notified_step : MatchStep planar_gis default_settings watching
    (.matched .aemet (july 2 11).instant (july 2 12).instant alerted.hazard_events) notified :=
  MatchStep.after (by decide +kernel)

end GeoHazard

import GeoHazard.Hazards.BatchSelection
import GeoHazard.Notifications.Episodes

namespace GeoHazard

structure Match where
  subscription_id : Nat
  event_id : Nat
  source : Source
  hazard_type : HazardType
  external_id : String
  severity : Severity
  starts_at : Timestamptz
  ends_at : Option Timestamptz
  attrs : PyJson
  geometry : PyJson

namespace MatchingRepo

variable {G : Type} (gis : Gis G)

def astext (name : String) (v : PyJson) : Option String :=
  match attr name v with
  | some (.str s) => some s
  | _ => none

def notifiable (source : Source) (batch_at : Timestamptz) (quake_max_age : Nat)
    (e : HazardEvent G) : Bool :=
  match source with
  | .aemet =>
      match e.ends_at with
      | none => false
      | some ends_at => decide (batch_at < ends_at)
  | .effis => astext "kind" e.attrs == some "burnt_area" && e.ends_at.isNone
  | .ign => decide (batch_at - quake_max_age ≤ e.starts_at)

def area_contains (area : WatchArea G) (e : HazardEvent G) : Bool :=
  gis.ST_Intersects area.geom e.geom &&
    (area.kind != .province ||
      (match e.province_code, astext "code" area.params with
        | some code, some wanted => code == wanted
        | _, _ => false))

def subscribed (s : Subscription) (e : HazardEvent G) : Bool :=
  s.status == .active && s.hazard_types.contains e.hazard_type &&
    decide (s.severity_min ≤ e.severity)

def has_active_subscriptions (db : NotificationsDb G) : Bool :=
  db.subscriptions.any (fun s => s.status == .active)

def to_match (s : Subscription) (e : HazardEvent G) : Match where
  subscription_id := s.id
  event_id := e.id
  source := e.source
  hazard_type := e.hazard_type
  external_id := e.external_id
  severity := e.severity
  starts_at := e.starts_at
  ends_at := e.ends_at
  attrs := e.attrs
  geometry := gis.ST_AsGeoJSON e.geom

-- ORDER BY subscription.id, event.severity DESC, event.starts_at
def before (a b : Match) : Prop :=
  a.subscription_id < b.subscription_id ∨ (a.subscription_id = b.subscription_id ∧
    (b.severity < a.severity ∨ (a.severity = b.severity ∧ a.starts_at ≤ b.starts_at)))

instance (a b : Match) : Decidable (before a b) := inferInstanceAs (Decidable (_ ∨ _))

def joined (source : Source) (batch_at : Timestamptz) (quake_max_age : Nat) (s : Subscription)
    (area : WatchArea G) (e : HazardEvent G) : Bool :=
  subscribed s e && decide (area.id = s.watch_area_id) && decide (e.source = source) &&
    decide (Selected batch_at e) && notifiable source batch_at quake_max_age e &&
    area_contains gis area e

def rows (source : Source) (batch_at : Timestamptz) (quake_max_age : Nat)
    (events : List (HazardEvent G)) (db : NotificationsDb G) : List Match :=
  db.subscriptions.flatMap (fun s => db.watch_areas.flatMap (fun area =>
    (events.filter (joined gis source batch_at quake_max_age s area)).map (to_match gis s)))

def matches_ (source : Source) (batch_at : Timestamptz) (quake_max_age : Nat)
    (events : List (HazardEvent G)) (db : NotificationsDb G) : List Match :=
  (rows gis source batch_at quake_max_age events db).insertionSort before

theorem mem_matches {source : Source} {batch_at : Timestamptz} {quake_max_age : Nat}
    {events : List (HazardEvent G)} {db : NotificationsDb G} {m : Match} :
    m ∈ matches_ gis source batch_at quake_max_age events db ↔
      ∃ s ∈ db.subscriptions, ∃ area ∈ db.watch_areas, ∃ e ∈ events,
        joined gis source batch_at quake_max_age s area e = true ∧ to_match gis s e = m := by
  simp [matches_, rows, List.mem_insertionSort, and_assoc]

end MatchingRepo

end GeoHazard

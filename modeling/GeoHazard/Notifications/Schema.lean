import GeoHazard.Hazards.Schema

namespace GeoHazard

inductive SubscriptionStatus where
  | active | paused
  deriving DecidableEq

inductive Channel where
  | ntfy | webhook
  deriving DecidableEq

structure Subscription where
  id : Nat
  watch_area_id : Nat
  hazard_types : List HazardType
  severity_min : Severity
  channel : Channel
  endpoint : String
  credential : String
  status : SubscriptionStatus
  paused_reason : Option String
  consecutive_failures : Nat
  failing_since : Option Timestamptz
  retry_at : Option Timestamptz
  last_sent_at : Option Timestamptz
  last_error : Option String
  deriving DecidableEq

inductive AreaKind where
  | province | bbox | circle
  deriving DecidableEq

structure WatchArea (G : Type) where
  id : Nat
  kind : AreaKind
  params : PyJson
  label : String
  geom : G

structure Episode where
  id : Nat
  subscription_id : Nat
  key : String
  notified_severity : Nat
  expires_at : Option Timestamptz
  opened_at : Timestamptz
  last_matched_at : Timestamptz
  closed_at : Option Timestamptz

inductive Reason where
  | opened | escalated
  deriving DecidableEq

inductive DeliveryStatus where
  | pending | sent | failed
  deriving DecidableEq

structure Delivery where
  id : Nat
  subscription_id : Nat
  episode_id : Nat
  severity : Nat
  reason : Reason
  items : List PyJson
  item_count : Nat
  status : DeliveryStatus
  attempts : Nat
  message_id : Option Nat
  created_at : Timestamptz
  sent_at : Option Timestamptz

structure NotificationsDb (G : Type) where
  subscriptions : List Subscription
  watch_areas : List (WatchArea G)
  episodes : List Episode
  deliveries : List Delivery
  next_id : Nat

-- PostGIS, and the Python texts of a JSON value and of a timestamptz read back in UTC;
-- strftime is the one with the format %Y-%m-%d %H:%M
structure Gis (G : Type) where
  ST_Intersects : G → G → Bool
  ST_AsGeoJSON : G → PyJson
  str : PyJson → String
  isoformat : Timestamptz → String
  strftime : Timestamptz → String

end GeoHazard

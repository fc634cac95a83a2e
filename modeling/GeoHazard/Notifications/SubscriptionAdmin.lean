import GeoHazard.Notifications.DeliveryRepo

namespace GeoHazard.SubscriptionAdmin

variable {G : Type}

def get (subscription_id : Nat) (db : NotificationsDb G) : Except PyError Subscription :=
  match Table.find Subscription.id subscription_id db.subscriptions with
  | none => .error (.not_found "subscription" subscription_id)
  | some s => .ok s

def created (area_id : Nat) (hazard_types : List HazardType) (severity_min : Severity)
    (channel : Channel) (endpoint credential : String) (id : Nat) : Subscription where
  id := id
  watch_area_id := area_id
  hazard_types := hazard_types
  severity_min := severity_min
  channel := channel
  endpoint := endpoint
  credential := credential
  status := .active
  paused_reason := none
  consecutive_failures := 0
  failing_since := none
  retry_at := none
  last_sent_at := none
  last_error := none

-- the rows that add writes once the endpoint and the hazard types have passed their checks
def add (area : WatchArea G) (hazard_types : List HazardType) (severity_min : Severity)
    (channel : Channel) (endpoint credential : String) (db : NotificationsDb G) :
    NotificationsDb G :=
  { db with
    watch_areas := db.watch_areas ++ [{ area with id := db.next_id }]
    subscriptions := db.subscriptions ++
      [created db.next_id hazard_types severity_min channel endpoint credential (db.next_id + 1)]
    next_id := db.next_id + 2 }

def paused (s : Subscription) : Subscription :=
  { s with status := .paused, paused_reason := some "pausada a mano" }

def resumed (s : Subscription) : Subscription :=
  { s with
    status := .active
    paused_reason := none
    consecutive_failures := 0
    failing_since := none
    retry_at := none
    last_error := none }

def write (subscription_id : Nat) (f : Subscription → Subscription) (db : NotificationsDb G) :
    NotificationsDb G :=
  { db with
    subscriptions := Table.update (fun s => decide (s.id = subscription_id)) f db.subscriptions }

def pause (subscription_id : Nat) (db : NotificationsDb G) : Except PyError (NotificationsDb G) := do
  let _ ← get subscription_id db
  .ok (DeliveryRepo.fail_pending subscription_id (write subscription_id paused db))

def resume (subscription_id : Nat) (db : NotificationsDb G) :
    Except PyError (NotificationsDb G) := do
  let _ ← get subscription_id db
  .ok (write subscription_id resumed db)

-- the row with its episodes and deliveries in cascade, and its area if it has no other use
def removed (s : Subscription) (db : NotificationsDb G) : NotificationsDb G :=
  let subscriptions := db.subscriptions.filter (fun r => decide (r.id ≠ s.id))
  let episodes := db.episodes.filter (fun e => decide (e.subscription_id = s.id))
  { db with
    subscriptions := subscriptions
    watch_areas :=
      if subscriptions.any (fun r => decide (r.watch_area_id = s.watch_area_id)) then db.watch_areas
      else db.watch_areas.filter (fun a => decide (a.id ≠ s.watch_area_id))
    episodes := db.episodes.filter (fun e => decide (e.subscription_id ≠ s.id))
    deliveries := db.deliveries.filter (fun d => decide (d.subscription_id ≠ s.id) &&
      !episodes.any (fun e => decide (e.id = d.episode_id))) }

def remove (subscription_id : Nat) (db : NotificationsDb G) :
    Except PyError (NotificationsDb G) := do
  let s ← get subscription_id db
  .ok (removed s db)

end GeoHazard.SubscriptionAdmin

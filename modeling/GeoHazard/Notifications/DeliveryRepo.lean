import GeoHazard.Core.Text
import GeoHazard.Notifications.EpisodeRepo
import Mathlib.Data.List.Sort

namespace GeoHazard

structure PendingDelivery where
  id : Nat
  episode_id : Nat
  reason : Reason
  severity : Nat
  items : List PyJson
  item_count : Nat

structure ClaimedSubscription where
  id : Nat
  channel : Channel
  endpoint : String
  credential : String
  hazard_types : List HazardType
  area_id : Nat
  area_label : String
  previous_retry_at : Option Timestamptz
  deliveries : List PendingDelivery

def ClaimedSubscription.delivery_ids (c : ClaimedSubscription) : List Nat :=
  c.deliveries.map PendingDelivery.id

def Delivery.to_pending (d : Delivery) : PendingDelivery :=
  ⟨d.id, d.episode_id, d.reason, d.severity, d.items, d.item_count⟩

def cut (n : Nat) (s : String) : String := String.ofList (s.toList.take n)

namespace DeliveryRepo

variable {G : Type} (gis : Gis G)

-- 60 s, 2 min, 4 min and so on up to 1 h, in microseconds
def backoff (consecutive_failures : Nat) : Nat := min (60 * 2 ^ consecutive_failures) 3600 * 1000000

def is_pending_of (subscription_id : Nat) (d : Delivery) : Bool :=
  decide (d.subscription_id = subscription_id) && d.status == .pending

def due (at_ : Option Timestamptz) (limit : Timestamptz) : Bool :=
  match at_ with
  | none => true
  | some x => decide (x ≤ limit)

def claimable (now : Timestamptz) (min_interval : Nat) (db : NotificationsDb G) (s : Subscription) :
    Bool :=
  s.status == .active && due s.retry_at now && due s.last_sent_at (now - min_interval) &&
    db.deliveries.any (is_pending_of s.id)

-- ORDER BY last_sent_at ASC NULLS FIRST
def sent_before (a b : Subscription) : Prop :=
  match a.last_sent_at, b.last_sent_at with
  | none, _ => True
  | some _, none => False
  | some x, some y => x ≤ y

instance (a b : Subscription) : Decidable (sent_before a b) := by
  unfold sent_before
  split <;> infer_instance

-- ORDER BY severity DESC, created_at
def urgent_before (a b : Delivery) : Prop :=
  b.severity < a.severity ∨ (a.severity = b.severity ∧ a.created_at ≤ b.created_at)

instance (a b : Delivery) : Decidable (urgent_before a b) := inferInstanceAs (Decidable (_ ∨ _))

def claimed (now : Timestamptz) (min_interval limit : Nat) (db : NotificationsDb G) :
    List Subscription :=
  ((db.subscriptions.filter (claimable now min_interval db)).insertionSort sent_before).take limit

def leased (now : Timestamptz) (s : Subscription) : Subscription :=
  { s with retry_at := some (now + backoff s.consecutive_failures) }

def attempted (d : Delivery) : Delivery := { d with attempts := d.attempts + 1 }

def claim_of (db : NotificationsDb G) (s : Subscription) : Except PyError ClaimedSubscription :=
  match Table.find WatchArea.id s.watch_area_id db.watch_areas with
  | none => .error (.key_error s.watch_area_id)
  | some area =>
      .ok {
        id := s.id
        channel := s.channel
        endpoint := s.endpoint
        credential := s.credential
        hazard_types := s.hazard_types
        area_id := s.watch_area_id
        area_label := area.label
        previous_retry_at := s.retry_at
        deliveries := ((db.deliveries.filter (is_pending_of s.id)).insertionSort urgent_before).map
          Delivery.to_pending }

def claim (now : Timestamptz) (min_interval limit : Nat) (db : NotificationsDb G) :
    Except PyError (NotificationsDb G × List ClaimedSubscription) := do
  let subscriptions := claimed now min_interval limit db
  let ids := subscriptions.map Subscription.id
  let claims ← collect (claim_of db) subscriptions
  .ok ({ db with
    subscriptions := Table.update (fun s => decide (s.id ∈ ids)) (leased now) db.subscriptions
    deliveries := Table.update (fun d => decide (d.subscription_id ∈ ids) && d.status == .pending)
      attempted db.deliveries }, claims)

def delivered (now : Timestamptz) (message_id : Nat) (d : Delivery) : Delivery :=
  { d with status := .sent, sent_at := some now, message_id := some message_id }

def recovered (now : Timestamptz) (s : Subscription) : Subscription :=
  { s with
    last_sent_at := some now
    consecutive_failures := 0
    failing_since := none
    retry_at := none
    last_error := none }

def marked_sent (subscription_id : Nat) (delivery_ids : List Nat) (message_id : Nat)
    (now : Timestamptz) (db : NotificationsDb G) : NotificationsDb G :=
  { db with
    deliveries := Table.update (fun d => decide (d.id ∈ delivery_ids)) (delivered now message_id)
      db.deliveries
    subscriptions := Table.update (fun s => decide (s.id = subscription_id)) (recovered now)
      db.subscriptions }

-- one argument for each delivery and three for what is set
def mark_sent (subscription_id : Nat) (delivery_ids : List Nat) (message_id : Nat)
    (now : Timestamptz) (db : NotificationsDb G) : Except PyError (NotificationsDb G) := do
  bind_arguments (delivery_ids.length + 3)
  .ok (marked_sent subscription_id delivery_ids message_id now db)

theorem mark_sent_iff {subscription_id message_id : Nat} {delivery_ids : List Nat}
    {now : Timestamptz} {db db' : NotificationsDb G} :
    mark_sent subscription_id delivery_ids message_id now db = .ok db' ↔
      delivery_ids.length + 3 ≤ 32767 ∧
        db' = marked_sent subscription_id delivery_ids message_id now db := by
  rw [@eq_comm _ db']
  simp only [mark_sent, bind_ok, bind_arguments_ok, Except.ok.injEq, exists_const]

def dropped (d : Delivery) : Delivery := { d with status := .failed }

def fail_pending (subscription_id : Nat) (db : NotificationsDb G) : NotificationsDb G :=
  { db with deliveries := Table.update (is_pending_of subscription_id) dropped db.deliveries }

def failing (error : String) (now : Timestamptz) (s : Subscription) : Subscription :=
  { s with
    consecutive_failures := s.consecutive_failures + 1
    failing_since := some (s.failing_since.getD now)
    last_error := some (cut 500 error) }

def gives_up (now : Timestamptz) (pause_after : Nat) (s : Subscription) : Bool :=
  decide (s.failing_since.getD now ≤ now - pause_after)

def given_up (error : String) (now : Timestamptz) (s : Subscription) : Subscription :=
  { failing error now s with
    status := .paused
    paused_reason := some (cut 500 ("entregas fallidas desde " ++
      gis.strftime (s.failing_since.getD now) ++ " UTC: " ++ error)) }

def mark_failed (subscription_id : Nat) (error : String) (now : Timestamptz) (pause_after : Nat)
    (db : NotificationsDb G) : NotificationsDb G × Bool :=
  match Table.find Subscription.id subscription_id db.subscriptions with
  | none => (db, false)
  | some s =>
      if gives_up now pause_after s then
        (fail_pending subscription_id { db with
          subscriptions := Table.update (fun s => decide (s.id = subscription_id))
            (given_up gis error now) db.subscriptions }, true)
      else
        ({ db with
          subscriptions := Table.update (fun s => decide (s.id = subscription_id))
            (failing error now) db.subscriptions }, false)

def release (subscription_id : Nat) (retry_at : Option Timestamptz) (db : NotificationsDb G) :
    NotificationsDb G :=
  { db with
    subscriptions := Table.update (fun s => decide (s.id = subscription_id))
      (fun s => { s with retry_at := retry_at }) db.subscriptions }

def outdated (cutoff : Timestamptz) (d : Delivery) : Bool :=
  d.status != .pending && decide (d.sent_at.getD d.created_at < cutoff)

def outlived (cutoff : Timestamptz) (ds : List Delivery) (e : Episode) : Bool :=
  decide (e.closed_at.getD e.last_matched_at < cutoff) &&
    (match e.expires_at with
      | none => true
      | some x => decide (x < cutoff)) &&
    !ds.any (fun d => decide (d.episode_id = e.id) && d.status == .pending)

def purge (now : Timestamptz) (retention : Nat) (db : NotificationsDb G) :
    NotificationsDb G × Nat × Nat :=
  let cutoff := now - retention
  let ds := db.deliveries.filter (fun d => !outdated cutoff d)
  let purged := db.episodes.filter (outlived cutoff ds)
  ({ db with
    episodes := db.episodes.filter (fun e => !outlived cutoff ds e)
    -- the deliveries of a purged episode go with it
    deliveries := ds.filter (fun d => !purged.any (fun e => decide (e.id = d.episode_id))) },
    db.deliveries.length - ds.length, purged.length)

end DeliveryRepo

end GeoHazard

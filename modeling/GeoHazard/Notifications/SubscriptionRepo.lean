import GeoHazard.Library.GroupBy
import GeoHazard.Notifications.SubscriptionAdmin

namespace GeoHazard

structure SubscriptionRow where
  subscription : Subscription
  area_label : String
  pending : Nat

structure WeeklyStats where
  subscription_id : Nat
  area_label : String
  week : Timestamptz
  messages : Nat
  deliveries : Nat

namespace SubscriptionRepo

variable {G : Type}

-- the areas that a subscription is joined with
def area_labels (s : Subscription) (db : NotificationsDb G) : List String :=
  (db.watch_areas.filter (fun a => decide (a.id = s.watch_area_id))).map WatchArea.label

def pending (s : Subscription) (db : NotificationsDb G) : Nat :=
  db.deliveries.countP (DeliveryRepo.is_pending_of s.id)

-- ORDER BY created_at: the subscriptions are in the order of their creation
def list_with_areas (db : NotificationsDb G) : List SubscriptionRow :=
  db.subscriptions.flatMap (fun s => (area_labels s db).map (fun label => ⟨s, label, pending s db⟩))

def sent_since (since : Timestamptz) (d : Delivery) : Option Timestamptz :=
  if d.status = .sent then d.sent_at.filter (fun sent_at => decide (since ≤ sent_at)) else none

abbrev StatsKey := Nat × String × Timestamptz

-- date_trunc("week", sent_at) is a parameter
def stats_rows (date_trunc : Timestamptz → Timestamptz) (since : Timestamptz)
    (db : NotificationsDb G) : List (StatsKey × Option Nat) :=
  db.deliveries.flatMap (fun d => (sent_since since d).toList.flatMap (fun sent_at =>
    (db.subscriptions.filter (fun s => decide (s.id = d.subscription_id))).flatMap (fun s =>
      (area_labels s db).map (fun label => ((s.id, label, date_trunc sent_at), d.message_id)))))

-- ORDER BY id, week
def stats_before (a b : WeeklyStats) : Prop :=
  a.subscription_id < b.subscription_id ∨
    (a.subscription_id = b.subscription_id ∧ a.week ≤ b.week)

instance (a b : WeeklyStats) : Decidable (stats_before a b) := inferInstanceAs (Decidable (_ ∨ _))

def to_stats (r : StatsKey × Nat × Nat) : WeeklyStats :=
  ⟨r.1.1, r.1.2.1, r.1.2.2, r.2.1, r.2.2⟩

def weekly_stats (date_trunc : Timestamptz → Timestamptz) (since : Timestamptz)
    (db : NotificationsDb G) : List WeeklyStats :=
  ((GroupBy.aggregate Prod.fst (fun rows => (GroupBy.distinct Prod.snd rows, rows.length))
    (stats_rows date_trunc since db)).map to_stats).insertionSort stats_before

end SubscriptionRepo

end GeoHazard

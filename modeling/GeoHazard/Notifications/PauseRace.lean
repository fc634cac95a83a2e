import GeoHazard.Notifications.DeliveryLifeCycle
import GeoHazard.Notifications.SessionSpec

namespace GeoHazard.Sessions
open ReadCommitted Transition DeliveryRepo

variable {G : Type} {gis : Gis G} {match_settings : MatchSettings} {settings : DeliverSettings}

abbrev State (G : Type) := Shared (NotificationsDb G) (Write G) (Statement G)

def State.empty : State G := ⟨NotificationsDb.empty, []⟩

def NothingToResend (db : NotificationsDb G) : Prop :=
  ∀ r ∈ db.subscriptions, r.status = .paused → ∀ d ∈ db.deliveries, is_pending_of r.id d = false

def Write.fails (S : Nat) : Write G → Bool
  | .failed subscription_id _ => decide (subscription_id = S)
  | _ => false

def inserted (x : Session (Write G) (Statement G)) : List Delivery := x.writes.flatMap Write.inserts

-- neither paused nor with its pending deliveries already given up by an open transaction
def Receiving (s : State G) (S : Nat) : Prop :=
  (∀ r ∈ s.db.subscriptions, r.id = S → r.status ≠ .paused) ∧
    ∀ p ∈ s.sessions, ∀ w ∈ p.2.writes, w.fails S = false

def Write.resumes (r : Subscription) : Write G → Bool
  | .updated subscription_id f => decide (r.id = subscription_id) && (f r).status == .active
  | _ => false

-- the transaction has made active the row of a paused subscription
def Resumes (s : State G) (x : Session (Write G) (Statement G)) (S : Nat) : Prop :=
  ∃ r ∈ s.db.subscriptions, r.id = S ∧ r.status = .paused ∧ ∃ w ∈ x.writes, w.resumes r = true

-- an insert commits into a subscription that still receives, and a resume when none is open
def Clean (s : State G) : Move (Command G) → Prop
  | .commit i => ∀ p ∈ s.sessions, p.1 = i →
      (∀ d ∈ inserted p.2, Receiving s d.subscription_id) ∧
      ∀ q ∈ s.sessions, ∀ d ∈ inserted q.2, ¬ Resumes s p.2 d.subscription_id
  | _ => True

instance (s : State G) (S : Nat) : Decidable (Receiving s S) := inferInstanceAs (Decidable (_ ∧ _))

instance (s : State G) (x : Session (Write G) (Statement G)) (S : Nat) :
    Decidable (Resumes s x S) := by
  unfold Resumes
  infer_instance

instance (s : State G) (a : Move (Command G)) : Decidable (Clean s a) := by
  cases a <;> unfold Clean <;> infer_instance

structure Sound (db : NotificationsDb G) (x : Session (Write G) (Statement G)) : Prop where
  kind : ∃ k, (∀ p ∈ x.todo, p.matching = k) ∧ ∀ w ∈ x.writes, w.matching = k
  inserted : ∀ d, .inserted d ∈ x.writes → d.id < db.next_id
  created : ∀ s, .created s ∈ x.writes → s.status = .active
  update : ∀ S f, (.update S f ∈ x.todo ∨ .updated S f ∈ x.writes) → Keeps f ∧
    (TurnsPaused f → .fail_pending S ∈ x.todo ∨ ∃ ids, .failed S ids ∈ x.writes)
  failed : ∀ S ids, .failed S ids ∈ x.writes → ∀ d ∈ db.deliveries, is_pending_of S d = true →
    ∀ d', kept x.writes d = some d' → is_pending_of S d' = false

structure Settled (db : NotificationsDb G) : Prop where
  nothing : NothingToResend db
  ids : ∀ d ∈ db.deliveries, d.id < db.next_id

section Next

variable {db : NotificationsDb G} {p : Statement G} {todo ps : List (Statement G)}
  {writes ws : List (Write G)}

end Next

def Present (s : State G) (id : Nat) : Prop :=
  (∃ d ∈ s.db.deliveries, d.id = id) ∨
    ∃ i x d, Dict.get i s.sessions = some x ∧ .inserted d ∈ x.writes ∧ d.id = id

def reference : Engine (NotificationsDb Ring) (Write Ring) (Statement Ring) (Command Ring) PyError
    Row := engine planar_gis default_settings default_deliver

def alert_batch : Batch Ring :=
  ⟨.aemet, (july 2 11).instant, (july 2 12).instant, alerted.hazard_events⟩

def weather : NewSubscription :=
  ⟨[.weather_warning], severity_one, .ntfy, "https://ntfy.sh", "topic"⟩

def add_weather : List (Move (Command Ring)) :=
  [.start 0 (.add watched_area weather), .next 0, .next 0, .commit 0]

-- the pause comes after the commit of the match, and the resume after the pause
def in_turn : List (Move (Command Ring)) :=
  add_weather ++
    [.start 1 (.matching alert_batch), .next 1, .next 1, .next 1, .next 1, .next 1, .commit 1,
      .start 2 (.pause 1), .next 2, .next 2, .next 2, .commit 2,
      .start 3 (.resume 1), .next 3, .next 3]

def reached (C : State Ring → Move (Command Ring) → Prop) [∀ s a, Decidable (C s a)]
    (as : List (Move (Command Ring))) : State Ring :=
  (reference.run C State.empty as).getD State.empty

instance (db : NotificationsDb G) : Decidable (NothingToResend db) := by
  unfold NothingToResend
  infer_instance

def resumed : State Ring :=
  (reference.step (reached Clean in_turn) (.commit 3)).getD State.empty

end GeoHazard.Sessions

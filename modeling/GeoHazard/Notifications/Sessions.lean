import GeoHazard.Library.ReadCommitted
import GeoHazard.Notifications.Deliver
import GeoHazard.Notifications.MatchSpec
import GeoHazard.Notifications.SubscriptionAdmin

namespace GeoHazard.Sessions
open MatchBatchUseCase

variable {G : Type}

-- the batch of a match transaction, with the events its read of the matches finds
structure Batch (G : Type) where
  source : Source
  batch_at : Timestamptz
  now : Timestamptz
  events : List (HazardEvent G)

structure NewSubscription where
  hazard_types : List HazardType
  severity_min : Severity
  channel : Channel
  endpoint : String
  credential : String

def NewSubscription.created (n : NewSubscription) (area_id id : Nat) : Subscription :=
  SubscriptionAdmin.created area_id n.hazard_types n.severity_min n.channel n.endpoint n.credential
    id

inductive Command (G : Type) where
  | matching (b : Batch G)
  | add (area : WatchArea G) (n : NewSubscription)
  | pause (subscription_id : Nat)
  | resume (subscription_id : Nat)
  | remove (subscription_id : Nat)
  -- SKIP LOCKED passes over the subscriptions that others have locked
  | claim (now : Timestamptz) (skipped : List Nat)
  | finish (now : Timestamptz) (outcomes : List Outcome)

inductive Statement (G : Type) where
  | has_active_subscriptions (b : Batch G)
  | matches_ (b : Batch G)
  | open_episodes (b : Batch G) (groups : Groups)
  | refresh (episode_id notified_severity : Nat) (expires_at : Option Timestamptz)
      (at_ : Timestamptz)
  | close (episode_id : Nat) (at_ : Timestamptz)
  | open_ (slot : Nat × String) (reason : Reason) (g : Group) (at_ now : Timestamptz)
  | add_delivery (slot : Nat × String) (episode_id : Nat) (reason : Reason) (g : Group)
      (now : Timestamptz)
  | raise (e : PyError)
  | create_area (area : WatchArea G) (n : NewSubscription)
  | create (area_id : Nat) (n : NewSubscription)
  | get_paused (subscription_id : Nat)
  | get_resumed (subscription_id : Nat)
  | get_failed (subscription_id : Nat) (error : String) (now : Timestamptz)
  | get_removed (subscription_id : Nat)
  | update (subscription_id : Nat) (f : Subscription → Subscription)
  | fail_pending (subscription_id : Nat)
  | delete (s : Subscription)
  | area_in_use (area_id : Nat)
  | delete_area (area_id : Nat)
  | claim (now : Timestamptz) (skipped : List Nat)
  | attempt (subscription_ids : List Nat)
  | mark_sent (delivery_ids : List Nat) (message_id : Nat) (now : Timestamptz)
  | purge_deliveries (cutoff : Timestamptz)
  | purge_episodes (cutoff : Timestamptz)

inductive Write (G : Type) where
  | locked (episode_ids : List Nat)
  | refreshed (episode_id notified_severity : Nat) (expires_at : Option Timestamptz)
      (at_ : Timestamptz)
  | closed (episode_id : Nat) (at_ : Timestamptz)
  | opened (e : Episode)
  | inserted (d : Delivery)
  | area (a : WatchArea G)
  | created (s : Subscription)
  | updated (subscription_id : Nat) (f : Subscription → Subscription)
  | failed (subscription_id : Nat) (delivery_ids : List Nat)
  | removed (subscription_id : Nat)
  | area_deleted (area_id : Nat)
  | attempted (delivery_ids : List Nat)
  | sent (delivery_ids : List Nat) (message_id : Nat) (now : Timestamptz)
  | purged (delivery_ids episode_ids : List Nat)

inductive Row where
  | subscription (id : Nat)
  | episode (id : Nat)
  | delivery (id : Nat)
  | open_slot (slot : Nat × String)
  | level (episode_id severity : Nat)
  deriving DecidableEq

def Write.apply (db : NotificationsDb G) : Write G → NotificationsDb G
  | .locked _ => db
  | .refreshed episode_id notified_severity expires_at at_ =>
      EpisodeRepo.refresh episode_id notified_severity expires_at at_ db
  | .closed episode_id at_ => EpisodeRepo.close episode_id at_ db
  | .opened e => { db with episodes := db.episodes ++ [e] }
  | .inserted d => { db with deliveries := db.deliveries ++ [d] }
  | .area a => { db with watch_areas := db.watch_areas ++ [a] }
  | .created s => { db with subscriptions := db.subscriptions ++ [s] }
  | .updated subscription_id f => SubscriptionAdmin.write subscription_id f db
  | .failed subscription_id delivery_ids =>
      { db with
        deliveries := Table.update (fun d => decide (d.id ∈ delivery_ids) &&
          DeliveryRepo.is_pending_of subscription_id d) DeliveryRepo.dropped db.deliveries }
  | .removed subscription_id =>
      { db with
        subscriptions := db.subscriptions.filter (fun r => decide (r.id ≠ subscription_id)) }
  | .area_deleted area_id =>
      { db with watch_areas := db.watch_areas.filter (fun a => decide (a.id ≠ area_id)) }
  | .attempted delivery_ids =>
      { db with
        deliveries := Table.update (fun d => decide (d.id ∈ delivery_ids)) DeliveryRepo.attempted
          db.deliveries }
  | .sent delivery_ids message_id now =>
      { db with
        deliveries := Table.update (fun d => decide (d.id ∈ delivery_ids))
          (DeliveryRepo.delivered now message_id) db.deliveries }
  | .purged delivery_ids episode_ids =>
      { db with
        episodes := db.episodes.filter (fun e => decide (e.id ∉ episode_ids))
        deliveries := db.deliveries.filter (fun d => decide (d.id ∉ delivery_ids) &&
          decide (d.episode_id ∉ episode_ids)) }

def Write.creates : Write G → Bool
  | .opened _ | .inserted _ | .area _ | .created _ => true
  | _ => false

def Write.draw (db : NotificationsDb G) (w : Write G) : NotificationsDb G :=
  { db with next_id := db.next_id + if w.creates then 1 else 0 }

-- the unique indexes make two inserts of one slot or of one level wait for each other
def Write.rows : Write G → List Row
  | .locked episode_ids => episode_ids.map .episode
  | .refreshed episode_id _ _ _ | .closed episode_id _ => [.episode episode_id]
  | .opened e => [.open_slot e.slot]
  | .inserted d => [.level d.episode_id d.severity]
  | .updated subscription_id _ | .removed subscription_id => [.subscription subscription_id]
  | .failed _ delivery_ids | .attempted delivery_ids | .sent delivery_ids _ _ =>
      delivery_ids.map .delivery
  | .purged delivery_ids episode_ids => delivery_ids.map .delivery ++ episode_ids.map .episode
  | .area _ | .created _ | .area_deleted _ => []

def changed {α : Type} [DecidableEq α] (old new current : α) : α :=
  if new = old then current else new

-- the UPDATE of an ORM object that was read as r carries the columns that r' changes
def orm_update (r r' s : Subscription) : Subscription :=
  { s with
    status := changed r.status r'.status s.status
    paused_reason := changed r.paused_reason r'.paused_reason s.paused_reason
    consecutive_failures :=
      changed r.consecutive_failures r'.consecutive_failures s.consecutive_failures
    failing_since := changed r.failing_since r'.failing_since s.failing_since
    retry_at := changed r.retry_at r'.retry_at s.retry_at
    last_error := changed r.last_error r'.last_error s.last_error }

def edits (r r' : Subscription) : List (Statement G) :=
  if r' = r then [] else [.update r.id (orm_update r r')]

variable (gis : Gis G) (match_settings : MatchSettings) (settings : DeliverSettings)

def claim_unlocked (now : Timestamptz) (skipped : List Nat) (db : NotificationsDb G) :
    Except PyError (NotificationsDb G × List ClaimedSubscription) :=
  DeliverNotificationsUseCase.claim settings now { db with
    subscriptions := db.subscriptions.filter (fun s => decide (s.id ∉ skipped)) }

def settle (b : Batch G) (current : Option OpenEpisode) (slot : Nat × String) (g : Group) :
    List (Statement G) :=
  match decide_action current g.severity b.batch_at match_settings.grace, current with
  | .error e, _ => [.raise e]
  | .ok .TOUCH, some cur => [.refresh cur.id cur.notified_severity g.expires_at b.batch_at]
  | .ok .ESCALATE, some cur =>
      [.refresh cur.id g.severity g.expires_at b.batch_at,
        .add_delivery slot cur.id .escalated g b.now]
  | .ok action, current =>
      (match current with
        | some cur => [.close cur.id b.batch_at]
        | none => []) ++
      [.open_ slot (if action = .ESCALATE then .escalated else .opened) g b.batch_at b.now]

-- what a statement writes, and what its transaction goes on to do with what it read
def Statement.perform :
    Statement G → NotificationsDb G → Except PyError (List (Write G) × List (Statement G))
  | .has_active_subscriptions b, db =>
      .ok ([], if MatchingRepo.has_active_subscriptions db then [.matches_ b] else [])
  | .matches_ b, db =>
      .ok ([], [.open_episodes b (group gis (MatchingRepo.matches_ gis b.source b.batch_at
        match_settings.quake_max_age b.events db))])
  | .open_episodes b groups, db => do
      let open_episodes ← EpisodeRepo.open_episodes (Dict.keys groups) db
      .ok ([.locked (open_episodes.map (fun p => p.2.id))],
        groups.flatMap (fun p => settle match_settings b (Dict.get p.1 open_episodes) p.1 p.2))
  | .refresh episode_id notified_severity expires_at at_, _ =>
      .ok ([.refreshed episode_id notified_severity expires_at at_], [])
  | .close episode_id at_, _ => .ok ([.closed episode_id at_], [])
  | .open_ slot reason g at_ now, db => do
      let (_, episode_id) ← EpisodeRepo.open_ slot g.severity g.expires_at at_ db
      .ok ([.opened (EpisodeRepo.opened slot g.severity g.expires_at at_ episode_id)],
        [.add_delivery slot episode_id reason g now])
  | .add_delivery slot episode_id reason g now, db =>
      .ok (if (MatchBatchUseCase.add_delivery gis slot episode_id reason g now db).2 then
        [.inserted (delivered gis slot episode_id reason g now db.next_id)] else [], [])
  | .raise e, _ => .error e
  | .create_area area n, db => .ok ([.area { area with id := db.next_id }], [.create db.next_id n])
  | .create area_id n, db => .ok ([.created (n.created area_id db.next_id)], [])
  | .get_paused subscription_id, db => do
      let r ← SubscriptionAdmin.get subscription_id db
      .ok ([], edits r (SubscriptionAdmin.paused r) ++ [.fail_pending subscription_id])
  | .get_resumed subscription_id, db => do
      let r ← SubscriptionAdmin.get subscription_id db
      .ok ([], edits r (SubscriptionAdmin.resumed r))
  | .get_failed subscription_id error now, db =>
      .ok ([], match Table.find Subscription.id subscription_id db.subscriptions with
        | none => []
        | some r =>
            if DeliveryRepo.gives_up now settings.pause_after r then
              edits r (DeliveryRepo.given_up gis error now r) ++ [.fail_pending subscription_id]
            else edits r (DeliveryRepo.failing error now r))
  | .get_removed subscription_id, db => do
      let r ← SubscriptionAdmin.get subscription_id db
      .ok ([], [.delete r])
  | .update subscription_id f, _ => .ok ([.updated subscription_id f], [])
  | .fail_pending subscription_id, db =>
      .ok ([.failed subscription_id ((db.deliveries.filter
        (DeliveryRepo.is_pending_of subscription_id)).map Delivery.id)], [])
  -- the episodes and the deliveries go in cascade
  | .delete s, db =>
      let episodes := db.episodes.filter (fun e => decide (e.subscription_id = s.id))
      let deliveries := db.deliveries.filter (fun d => decide (d.subscription_id = s.id))
      .ok ([.removed s.id, .purged (deliveries.map Delivery.id) (episodes.map Episode.id)],
        [.area_in_use s.watch_area_id])
  | .area_in_use area_id, db =>
      .ok ([], if db.subscriptions.any (fun r => decide (r.watch_area_id = area_id)) then []
        else [.delete_area area_id])
  | .delete_area area_id, _ => .ok ([.area_deleted area_id], [])
  | .claim now skipped, db => do
      let (_, claims) ← claim_unlocked settings now skipped db
      .ok (claims.map (fun c => .updated c.id (DeliveryRepo.leased now)),
        [.attempt (claims.map ClaimedSubscription.id)])
  | .attempt subscription_ids, db =>
      let pending := db.deliveries.filter (fun d =>
        decide (d.subscription_id ∈ subscription_ids) && d.status == .pending)
      .ok ([.attempted (pending.map Delivery.id)], [])
  -- its arguments are taken to fit
  | .mark_sent delivery_ids message_id now, _ => .ok ([.sent delivery_ids message_id now], [])
  | .purge_deliveries cutoff, db =>
      .ok ([.purged ((db.deliveries.filter (DeliveryRepo.outdated cutoff)).map Delivery.id) []], [])
  | .purge_episodes cutoff, db =>
      .ok ([.purged [] ((db.episodes.filter (DeliveryRepo.outlived cutoff db.deliveries)).map
        Episode.id)], [])

def released (retry_at : Option Timestamptz) (s : Subscription) : Subscription :=
  { s with retry_at := retry_at }

def record_outcome (now : Timestamptz) (o : Outcome) : List (Statement G) :=
  if o.skipped then [.update o.claim.id (released o.claim.previous_retry_at)]
  else
    match o.message_id with
    | some message_id =>
        [.mark_sent o.claim.delivery_ids message_id now,
          .update o.claim.id (DeliveryRepo.recovered now)]
    | none => [.get_failed o.claim.id (DeliverNotificationsUseCase.error_text o) now]

def Command.program : Command G → List (Statement G)
  | .matching b => [.has_active_subscriptions b]
  | .add area n => [.create_area area n]
  | .pause subscription_id => [.get_paused subscription_id]
  | .resume subscription_id => [.get_resumed subscription_id]
  | .remove subscription_id => [.get_removed subscription_id]
  | .claim now skipped => [.claim now skipped]
  | .finish now outcomes =>
      outcomes.flatMap (record_outcome now) ++
        [.purge_deliveries (now - settings.retention), .purge_episodes (now - settings.retention)]

def engine : ReadCommitted.Engine (NotificationsDb G) (Write G) (Statement G) (Command G) PyError
    Row where
  program := Command.program settings
  perform := Statement.perform gis match_settings settings
  apply := Write.apply
  draw := Write.draw
  rows := Write.rows

end GeoHazard.Sessions

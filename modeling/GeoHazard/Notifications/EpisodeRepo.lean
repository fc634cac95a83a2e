import GeoHazard.Core.Text
import GeoHazard.Notifications.Episodes

namespace GeoHazard

def greatest (a : Option Timestamptz) (b : Timestamptz) : Timestamptz := max (a.getD b) b

def Episode.to_open (e : Episode) : OpenEpisode := ⟨e.id, e.notified_severity, e.expires_at⟩

def Episode.slot (e : Episode) : Nat × String := (e.subscription_id, e.key)

def Episode.closed (at_ : Timestamptz) (e : Episode) : Episode := { e with closed_at := some at_ }

def Episode.refreshed (notified_severity : Nat) (expires_at : Option Timestamptz)
    (at_ : Timestamptz) (e : Episode) : Episode :=
  { e with
    notified_severity := max e.notified_severity notified_severity
    last_matched_at := max e.last_matched_at at_
    expires_at := match expires_at with
      | none => e.expires_at
      | some x => some (greatest e.expires_at x) }

-- NotificationEpisodeORM.key is a String(300)
def Fits (slot : Nat × String) : Prop := slot.2.length ≤ 300

instance (slot : Nat × String) : Decidable (Fits slot) := inferInstanceAs (Decidable (_ ≤ _))

namespace EpisodeRepo

variable {G : Type}

def open_rows (wanted : List (Nat × String)) (db : NotificationsDb G) :
    List ((Nat × String) × OpenEpisode) :=
  Dict.ofList ((db.episodes.filter (fun e => e.closed_at.isNone && decide (e.slot ∈ wanted))).map
    (fun e => (e.slot, e.to_open)))

-- two arguments for each pair of the IN
def open_episodes (wanted : List (Nat × String)) (db : NotificationsDb G) :
    Except PyError (List ((Nat × String) × OpenEpisode)) := do
  bind_arguments (2 * wanted.length)
  .ok (open_rows wanted db)

def close (episode_id : Nat) (at_ : Timestamptz) (db : NotificationsDb G) : NotificationsDb G :=
  { db with
    episodes := Table.update (fun e => decide (e.id = episode_id) && e.closed_at.isNone)
      (Episode.closed at_) db.episodes }

def opened (slot : Nat × String) (severity : Nat) (expires_at : Option Timestamptz)
    (at_ : Timestamptz) (id : Nat) : Episode where
  id := id
  subscription_id := slot.1
  key := slot.2
  notified_severity := severity
  expires_at := expires_at
  opened_at := at_
  last_matched_at := at_
  closed_at := none

def open_ (slot : Nat × String) (severity : Nat) (expires_at : Option Timestamptz)
    (at_ : Timestamptz) (db : NotificationsDb G) : Except PyError (NotificationsDb G × Nat) :=
  if ¬ Fits slot then
    .error (.dbapi_error "value too long for type character varying(300)")
  else if db.episodes.any (fun e => decide (e.slot = slot) && e.closed_at.isNone) then
    .error (.runtime_error ("episode " ++ slot.2 ++ " opened concurrently"))
  else
    .ok ({ db with
      episodes := db.episodes ++ [opened slot severity expires_at at_ db.next_id]
      next_id := db.next_id + 1 }, db.next_id)

def refresh (episode_id notified_severity : Nat) (expires_at : Option Timestamptz)
    (at_ : Timestamptz) (db : NotificationsDb G) : NotificationsDb G :=
  { db with
    episodes := Table.update (fun e => decide (e.id = episode_id))
      (Episode.refreshed notified_severity expires_at at_) db.episodes }

def delivery (subscription_id episode_id severity : Nat) (reason : Reason) (items : List PyJson)
    (item_count : Nat) (now : Timestamptz) (id : Nat) : Delivery where
  id := id
  subscription_id := subscription_id
  episode_id := episode_id
  severity := severity
  reason := reason
  items := items
  item_count := item_count
  status := .pending
  attempts := 0
  message_id := none
  created_at := now
  sent_at := none

def add_delivery (subscription_id episode_id severity : Nat) (reason : Reason)
    (items : List PyJson) (item_count : Nat) (now : Timestamptz) (db : NotificationsDb G) :
    NotificationsDb G × Bool :=
  if db.deliveries.any (fun d => decide (d.episode_id = episode_id) && decide (d.severity = severity))
  then (db, false)
  else
    ({ db with
      deliveries := db.deliveries ++
        [delivery subscription_id episode_id severity reason items item_count now db.next_id]
      next_id := db.next_id + 1 }, true)

variable {slot : Nat × String} {subscription_id episode_id severity item_count : Nat}
  {reason : Reason} {items : List PyJson} {expires_at : Option Timestamptz} {at_ now : Timestamptz}
  {db : NotificationsDb G}

theorem open_episodes_iff {wanted : List (Nat × String)}
    {opens : List ((Nat × String) × OpenEpisode)} :
    open_episodes wanted db = .ok opens ↔
      2 * wanted.length ≤ 32767 ∧ opens = open_rows wanted db := by
  simp only [open_episodes, bind_ok, bind_arguments_ok, Except.ok.injEq, exists_const,
    @eq_comm _ opens]

theorem open_iff {r : NotificationsDb G × Nat} :
    open_ slot severity expires_at at_ db = .ok r ↔
      Fits slot ∧ (∀ e ∈ db.episodes, e.slot = slot → e.closed_at ≠ none) ∧
        r = ({ db with
          episodes := db.episodes ++ [opened slot severity expires_at at_ db.next_id]
          next_id := db.next_id + 1 }, db.next_id) := by
  have hany : db.episodes.any (fun e => decide (e.slot = slot) && e.closed_at.isNone) = true ↔
      ¬ ∀ e ∈ db.episodes, e.slot = slot → e.closed_at ≠ none := by simp
  unfold open_
  split
  · next hfit => simp [hfit]
  · next hfit =>
      split
      · next h => simp [hany.mp h]
      · next h =>
          have hfree := not_not.mp (mt hany.mpr h)
          exact ⟨fun hr => ⟨not_not.mp hfit, hfree, (Except.ok.inj hr).symm⟩,
            fun hr => congrArg Except.ok hr.2.2.symm⟩

theorem add_delivery_again {d : Delivery} (hd : d ∈ db.deliveries) (hid : d.episode_id = episode_id)
    (hsev : d.severity = severity) :
    add_delivery subscription_id episode_id severity reason items item_count now db =
      (db, false) :=
  if_pos (List.any_eq_true.mpr ⟨d, hd, by simp [hid, hsev]⟩)

theorem add_delivery_new
    (h : ∀ d ∈ db.deliveries, d.episode_id = episode_id → d.severity ≠ severity) :
    add_delivery subscription_id episode_id severity reason items item_count now db =
      ({ db with
        deliveries := db.deliveries ++ [delivery subscription_id episode_id severity reason items
          item_count now db.next_id]
        next_id := db.next_id + 1 }, true) :=
  if_neg (by simpa using h)

end EpisodeRepo

end GeoHazard

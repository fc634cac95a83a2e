import GeoHazard.Notifications.DeliverRuns
import GeoHazard.Notifications.Sessions
import Mathlib.Data.List.Induction

namespace GeoHazard.Sessions
open ReadCommitted DeliveryRepo

variable {G : Type} {gis : Gis G} {match_settings : MatchSettings} {settings : DeliverSettings}

-- what a write does to one row of the deliveries
def Write.row (d : Delivery) : Write G → Option Delivery
  | .failed subscription_id delivery_ids =>
      some (if decide (d.id ∈ delivery_ids) && is_pending_of subscription_id d then dropped d
        else d)
  | .attempted delivery_ids =>
      some (if decide (d.id ∈ delivery_ids) then DeliveryRepo.attempted d else d)
  | .sent delivery_ids message_id now =>
      some (if decide (d.id ∈ delivery_ids) then delivered now message_id d else d)
  | .purged delivery_ids episode_ids =>
      if decide (d.id ∉ delivery_ids) && decide (d.episode_id ∉ episode_ids) then some d else none
  | _ => some d

def Write.inserts : Write G → List Delivery
  | .inserted d => [d]
  | _ => []

def kept (writes : List (Write G)) (d : Delivery) : Option Delivery := writes.foldlM Write.row d

def view (db : NotificationsDb G) (writes : List (Write G)) : NotificationsDb G :=
  writes.foldl Write.apply db

theorem view_concat (db : NotificationsDb G) (writes : List (Write G)) (w : Write G) :
    view db (writes ++ [w]) = Write.apply (view db writes) w := by
  simp [view]

theorem kept_concat (writes : List (Write G)) (w : Write G) (d : Delivery) :
    kept (writes ++ [w]) d = (kept writes d).bind (fun d => w.row d) := by
  simp [kept, List.foldlM_append]

theorem apply_next_id (db : NotificationsDb G) (w : Write G) :
    (Write.apply db w).next_id = db.next_id := by
  cases w <;> rfl

theorem view_next_id (db : NotificationsDb G) (writes : List (Write G)) :
    (view db writes).next_id = db.next_id := by
  induction writes using List.reverseRecOn with
  | nil => rfl
  | append_singleton writes w ih => rw [view_concat, apply_next_id, ih]

theorem mem_apply_deliveries {db : NotificationsDb G} {w : Write G} {d : Delivery} :
    d ∈ (Write.apply db w).deliveries ↔
      (∃ d₀ ∈ db.deliveries, w.row d₀ = some d) ∨ d ∈ w.inserts := by
  cases w with
  | failed subscription_id delivery_ids =>
      simp [Write.apply, Write.row, Write.inserts, Table.mem_update]
  | attempted delivery_ids => simp [Write.apply, Write.row, Write.inserts, Table.mem_update]
  | sent delivery_ids message_id now =>
      simp [Write.apply, Write.row, Write.inserts, Table.mem_update]
  | purged delivery_ids episode_ids => simp [Write.apply, Write.row, Write.inserts, and_comm]
  | inserted d' => simp [Write.apply, Write.row, Write.inserts]
  | locked episode_ids => simp [Write.apply, Write.row, Write.inserts]
  | refreshed episode_id notified_severity expires_at at_ =>
      simp [Write.apply, Write.row, Write.inserts, EpisodeRepo.refresh]
  | closed episode_id at_ => simp [Write.apply, Write.row, Write.inserts, EpisodeRepo.close]
  | opened e => simp [Write.apply, Write.row, Write.inserts]
  | area a => simp [Write.apply, Write.row, Write.inserts]
  | created s => simp [Write.apply, Write.row, Write.inserts]
  | updated subscription_id f =>
      simp [Write.apply, Write.row, Write.inserts, SubscriptionAdmin.write]
  | removed subscription_id => simp [Write.apply, Write.row, Write.inserts]
  | area_deleted area_id => simp [Write.apply, Write.row, Write.inserts]

-- the columns a write of the delivery job and of the commands goes by
structure Alike (d d' : Delivery) : Prop where
  id : d.id = d'.id
  subscription_id : d.subscription_id = d'.subscription_id
  episode_id : d.episode_id = d'.episode_id
  status : d.status = d'.status

theorem Alike.pending {d d' : Delivery} (h : Alike d d') (S : Nat) :
    is_pending_of S d = is_pending_of S d' := by
  simp [is_pending_of, h.subscription_id, h.status]

theorem pending_of_subscription {d : Delivery} {S : Nat} (h : is_pending_of S d = true) :
    d.subscription_id = S := by
  simp only [is_pending_of, Bool.and_eq_true, decide_eq_true_eq] at h
  exact h.1

-- what a write leaves of a delivery, of which none goes back to pending
structure Descends (d d' : Delivery) : Prop where
  id : d'.id = d.id
  subscription_id : d'.subscription_id = d.subscription_id
  episode_id : d'.episode_id = d.episode_id
  pending : d'.status = .pending → d.status = .pending

theorem row_descends {w : Write G} {d d' : Delivery} (h : w.row d = some d') : Descends d d' := by
  have hsome : ∀ c : Bool, ∀ f : Delivery → Delivery, Descends d (f d) →
      Descends d (if c then f d else d) := by
    intro c f hf
    cases c
    · exact ⟨rfl, rfl, rfl, id⟩
    · exact hf
  cases w with
  | failed subscription_id delivery_ids =>
      exact Option.some.inj h ▸ hsome _ dropped ⟨rfl, rfl, rfl, fun he => by simp [dropped] at he⟩
  | attempted delivery_ids =>
      exact Option.some.inj h ▸ hsome _ DeliveryRepo.attempted ⟨rfl, rfl, rfl, id⟩
  | sent delivery_ids message_id now =>
      exact Option.some.inj h ▸
        hsome _ (delivered now message_id) ⟨rfl, rfl, rfl, fun he => by simp [delivered] at he⟩
  | purged delivery_ids episode_ids =>
      simp only [Write.row, Option.ite_none_right_eq_some, Option.some.injEq] at h
      exact h.2 ▸ ⟨rfl, rfl, rfl, id⟩
  | locked _ | refreshed _ _ _ _ | closed _ _ | opened _ | inserted _ | area _ | created _
  | updated _ _ | removed _ | area_deleted _ => exact Option.some.inj h ▸ ⟨rfl, rfl, rfl, id⟩

theorem Descends.trans {d d' d'' : Delivery} (h : Descends d d') (k : Descends d' d'') :
    Descends d d'' :=
  ⟨k.id.trans h.id, k.subscription_id.trans h.subscription_id, k.episode_id.trans h.episode_id,
    h.pending ∘ k.pending⟩

theorem Descends.pending_of {d d' : Delivery} (h : Descends d d') {S : Nat}
    (hp : is_pending_of S d' = true) : is_pending_of S d = true := by
  simp only [is_pending_of, Bool.and_eq_true, decide_eq_true_eq, beq_iff_eq] at hp ⊢
  exact ⟨h.subscription_id ▸ hp.1, h.pending hp.2⟩

theorem kept_descends {writes : List (Write G)} {d d' : Delivery} (h : kept writes d = some d') :
    Descends d d' := by
  induction writes using List.reverseRecOn generalizing d' with
  | nil => exact Option.some.inj h ▸ ⟨rfl, rfl, rfl, id⟩
  | append_singleton writes w ih =>
      rw [kept_concat, Option.bind_eq_some_iff] at h
      obtain ⟨e, he, hd⟩ := h
      exact (ih he).trans (row_descends hd)

theorem kept_failed {ws : List (Write G)} {S : Nat} {ids : List Nat} (h : .failed S ids ∈ ws)
    {d d' : Delivery} (hd : is_pending_of S d = true → d.id ∈ ids) (hk : kept ws d = some d') :
    is_pending_of S d' = false := by
  induction ws using List.reverseRecOn generalizing d' with
  | nil => simp at h
  | append_singleton ws w ih =>
      rw [kept_concat, Option.bind_eq_some_iff] at hk
      obtain ⟨e, he, hd'⟩ := hk
      rw [Bool.eq_false_iff]
      intro hp
      have hpe := (row_descends hd').pending_of hp
      rcases List.mem_append.mp h with h | h
      · exact absurd hpe (Bool.eq_false_iff.mp (ih h he))
      · obtain rfl := List.mem_singleton.mp h
        have hdesc := kept_descends he
        have hid : e.id ∈ ids := hdesc.id ▸ hd (hdesc.pending_of hpe)
        simp only [Write.row, hid, hpe, decide_true, Bool.and_self, if_true,
          Option.some.injEq] at hd'
        simp [← hd', is_pending_of, dropped] at hp

theorem drawn_eq (db : NotificationsDb G) (ws : List (Write G)) :
    ws.foldl Write.draw db = { db with next_id := db.next_id + ws.countP Write.creates } := by
  induction ws generalizing db with
  | nil => rfl
  | cons w ws ih =>
      rw [List.foldl_cons, ih]
      simp only [Write.draw, List.countP_cons, Nat.add_assoc,
        Nat.add_comm (ws.countP Write.creates)]

theorem mem_view {db : NotificationsDb G} {writes : List (Write G)} {d : Delivery}
    (h : d ∈ (view db writes).deliveries) :
    (∃ d₀ ∈ db.deliveries, kept writes d₀ = some d) ∨
      ∃ d₀, .inserted d₀ ∈ writes ∧ Descends d₀ d := by
  induction writes using List.reverseRecOn generalizing d with
  | nil => exact .inl ⟨d, h, rfl⟩
  | append_singleton writes w ih =>
      rw [view_concat, mem_apply_deliveries] at h
      rcases h with ⟨e, he, hd⟩ | hd
      · rcases ih he with ⟨d₀, hd₀, hk⟩ | ⟨d₀, hd₀, hk⟩
        · exact .inl ⟨d₀, hd₀, by rw [kept_concat, hk, Option.bind_some, hd]⟩
        · exact .inr ⟨d₀, List.mem_append_left _ hd₀, hk.trans (row_descends hd)⟩
      · cases w with
        | inserted d₀ =>
            obtain rfl := List.mem_singleton.mp hd
            exact .inr ⟨d, by simp, rfl, rfl, rfl, id⟩
        | locked _ | refreshed _ _ _ _ | closed _ _ | opened _ | area _ | created _ | updated _ _
        | failed _ _ | removed _ | area_deleted _ | attempted _ | sent _ _ _ | purged _ _ =>
            simp [Write.inserts] at hd

def Keeps (f : Subscription → Subscription) : Prop := ∀ r, (f r).id = r.id

def TurnsPaused (f : Subscription → Subscription) : Prop :=
  ∃ r, r.status ≠ .paused ∧ (f r).status = .paused

structure Quiet (f : Subscription → Subscription) : Prop where
  keeps : Keeps f
  status : ∀ r, (f r).status = r.status

theorem recovered_quiet (now : Timestamptz) : Quiet (recovered now) := ⟨fun _ => rfl, fun _ => rfl⟩

theorem leased_quiet (now : Timestamptz) : Quiet (leased now) := ⟨fun _ => rfl, fun _ => rfl⟩

theorem released_quiet (retry_at : Option Timestamptz) : Quiet (released retry_at) :=
  ⟨fun _ => rfl, fun _ => rfl⟩

theorem orm_update_keeps (r r' : Subscription) : Keeps (orm_update r r') := fun _ => rfl

def Statement.matching : Statement G → Bool
  | .has_active_subscriptions _ | .matches_ _ | .open_episodes _ _ | .refresh _ _ _ _ | .close _ _
  | .open_ _ _ _ _ _ | .add_delivery _ _ _ _ _ | .raise _ => true
  | _ => false

def Write.matching : Write G → Bool
  | .locked _ | .refreshed _ _ _ _ | .closed _ _ | .opened _ | .inserted _ => true
  | _ => false

def targets (S : Nat) (db : NotificationsDb G) : List Nat :=
  (db.deliveries.filter (is_pending_of S)).map Delivery.id

theorem settle_cases (match_settings : MatchSettings) (b : Batch G) (current : Option OpenEpisode)
    (slot : Nat × String) (g : Group) :
    (∃ e, decide_action current g.severity b.batch_at match_settings.grace = .error e ∧
      settle match_settings b current slot g = [.raise e]) ∨
    (∃ cur, current = some cur ∧
      decide_action (some cur) g.severity b.batch_at match_settings.grace = .ok .TOUCH ∧
      settle match_settings b current slot g =
        [.refresh cur.id cur.notified_severity g.expires_at b.batch_at]) ∨
    (∃ cur, current = some cur ∧
      decide_action (some cur) g.severity b.batch_at match_settings.grace = .ok .ESCALATE ∧
      settle match_settings b current slot g =
        [.refresh cur.id g.severity g.expires_at b.batch_at,
          .add_delivery slot cur.id .escalated g b.now]) ∨
    (∃ cur, current = some cur ∧
      decide_action (some cur) g.severity b.batch_at match_settings.grace = .ok .OPEN ∧
      settle match_settings b current slot g =
        [.close cur.id b.batch_at, .open_ slot .opened g b.batch_at b.now]) ∨
    (current = none ∧
      settle match_settings b current slot g = [.open_ slot .opened g b.batch_at b.now]) := by
  cases current with
  | none => exact .inr (.inr (.inr (.inr ⟨rfl, rfl⟩)))
  | some cur =>
      cases hact : decide_action (some cur) g.severity b.batch_at match_settings.grace with
      | error e => exact .inl ⟨e, rfl, by simp only [settle, hact]⟩
      | ok action =>
          cases action with
          | TOUCH => exact .inr (.inl ⟨cur, rfl, hact, by simp only [settle, hact]⟩)
          | ESCALATE => exact .inr (.inr (.inl ⟨cur, rfl, hact, by simp only [settle, hact]⟩))
          | OPEN => exact .inr (.inr (.inr (.inl ⟨cur, rfl, hact, by simp [settle, hact]⟩)))

theorem mem_edits {r r' : Subscription} {q : Statement G} (h : q ∈ edits r r') :
    q = .update r.id (orm_update r r') := by
  unfold edits at h
  split at h
  · simp at h
  · exact List.mem_singleton.mp h

end GeoHazard.Sessions

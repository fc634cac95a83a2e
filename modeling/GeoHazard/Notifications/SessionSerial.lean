import GeoHazard.Notifications.SessionSpec

namespace GeoHazard.Sessions
open MatchBatchUseCase ReadCommitted Transition DeliveryRepo

variable {G : Type} {gis : Gis G} {match_settings : MatchSettings} {settings : DeliverSettings}
  {db db' : NotificationsDb G}

abbrev Serial (gis : Gis G) (match_settings : MatchSettings) (settings : DeliverSettings) :
    NotificationsDb G → List (Statement G) → NotificationsDb G → Prop :=
  Alone (engine gis match_settings settings)

theorem draw_apply (db : NotificationsDb G) (w w' : Write G) :
    Write.apply (Write.draw db w) w' = Write.draw (Write.apply db w') w := by
  cases w' <;> rfl

theorem serial_one {p : Statement G} {ws : List (Write G)}
    (hp : p.perform gis match_settings settings db = .ok (ws, []))
    (h : ws.foldl Write.draw (view db ws) = db') :
    Serial gis match_settings settings db [p] db' :=
  .next hp (h ▸ Alone.done _)

theorem serial_next {p : Statement G} {ws : List (Write G)} {ps : List (Statement G)}
    {db₁ : NotificationsDb G} (hp : p.perform gis match_settings settings db = .ok (ws, ps))
    (hdb : ws.foldl Write.draw (view db ws) = db₁)
    (h : Serial gis match_settings settings db₁ ps db') :
    Serial gis match_settings settings db [p] db' := by
  subst hdb
  exact .next hp ((List.append_nil ps).symm ▸ h)

theorem add_delivery_serial (slot : Nat × String) (episode_id : Nat) (reason : Reason) (g : Group)
    (now : Timestamptz) (db : NotificationsDb G) :
    Serial gis match_settings settings db [.add_delivery slot episode_id reason g now]
      (add_delivery gis slot episode_id reason g now db).1 := by
  refine serial_one rfl ?_
  simp only [add_delivery, EpisodeRepo.add_delivery]
  split <;> rfl

theorem open_serial {slot : Nat × String} {reason : Reason} {g : Group} {at_ now : Timestamptz}
    {r : NotificationsDb G × Nat}
    (h : EpisodeRepo.open_ slot g.severity g.expires_at at_ db = .ok r) :
    Serial gis match_settings settings db [.open_ slot reason g at_ now]
      (add_delivery gis slot r.2 reason g now r.1).1 := by
  obtain ⟨db₁, id⟩ := r
  have hperform : Statement.perform gis match_settings settings (.open_ slot reason g at_ now) db =
      .ok ([.opened (EpisodeRepo.opened slot g.severity g.expires_at at_ id)],
        [.add_delivery slot id reason g now]) := by
    simp only [Statement.perform, h, bind, Except.bind]
  obtain ⟨rfl, rfl⟩ := Prod.mk.inj (open_ok h)
  exact .next hperform (add_delivery_serial slot db.next_id reason g now _)

theorem settle_serial {b : Batch G} {current : Option OpenEpisode} {slot : Nat × String} {g : Group}
    {r : NotificationsDb G × Bool}
    (h : match_group gis match_settings b.batch_at b.now current slot g db = .ok r) :
    Serial gis match_settings settings db (settle match_settings b current slot g) r.1 := by
  rcases match_group_cases h with ⟨cur, rfl, hact, rfl⟩ | ⟨cur, rfl, hact, rfl⟩ |
    ⟨p, hact, hp, rfl⟩
  · simp only [settle, hact]
    exact serial_one rfl rfl
  · simp only [settle, hact]
    have hadd := @add_delivery_serial _ gis match_settings settings slot cur.id .escalated g
      b.now (EpisodeRepo.refresh cur.id g.severity g.expires_at b.batch_at db)
    exact .next rfl hadd
  · cases current with
    | none => exact open_serial hp
    | some cur =>
        simp only [settle, hact]
        exact .next rfl (open_serial hp)

theorem match_groups_serial {b : Batch G} {opens : List ((Nat × String) × OpenEpisode)}
    {groups : Groups} {r : NotificationsDb G × Groups}
    (h : match_groups gis match_settings b.batch_at b.now opens groups db = .ok r) :
    Serial gis match_settings settings db
      (groups.flatMap (fun p => settle match_settings b (Dict.get p.1 opens) p.1 p.2)) r.1 := by
  induction groups generalizing db r with
  | nil => exact Except.ok.inj h ▸ .done db
  | cons p groups ih =>
      obtain ⟨slot, g⟩ := p
      simp only [match_groups, bind, Except.bind] at h
      split at h
      · simp at h
      · next r₁ h₁ =>
          split at h
          · simp at h
          · next r₂ h₂ =>
              have hrest := ih h₂
              obtain rfl := Except.ok.inj h
              exact (settle_serial h₁).append hrest

theorem performed_lock {b : Batch G} {groups : Groups} (h : 2 * groups.length ≤ 32767) :
    Statement.perform gis match_settings settings (.open_episodes b groups) db =
      .ok ([.locked ((EpisodeRepo.open_rows (Dict.keys groups) db).map (fun p => p.2.id))],
        groups.flatMap (fun p => settle match_settings b
          (Dict.get p.1 (EpisodeRepo.open_rows (Dict.keys groups) db)) p.1 p.2)) := by
  have hopens := (@EpisodeRepo.open_episodes_iff _ db (Dict.keys groups) _).mpr
    ⟨by rwa [Dict.keys, List.length_map], rfl⟩
  rw [Statement.perform, hopens]
  rfl

theorem execute_serial {b : Batch G} {r : NotificationsDb G × Nat}
    (h : execute gis match_settings b.source b.batch_at b.now b.events db = .ok r) :
    Serial gis match_settings settings db [.has_active_subscriptions b] r.1 := by
  obtain ⟨r₁, hgroups, h⟩ := bind_ok.mp h
  obtain rfl := Except.ok.inj h
  obtain ⟨hlen, hgroups⟩ := execute_groups_iff.mp hgroups
  by_cases hactive : MatchingRepo.has_active_subscriptions db = true
  · simp only [groups_of, hactive, if_true] at hlen hgroups
    have hall := @match_groups_serial _ gis match_settings settings _ b _ _ _ hgroups
    have hread : Statement.perform gis match_settings settings
        (.has_active_subscriptions b) db = .ok ([], [.matches_ b]) := by
      simp only [Statement.perform, hactive, if_true]
    exact serial_next hread rfl (serial_next rfl rfl (serial_next (performed_lock hlen) rfl hall))
  · simp only [groups_of, hactive, if_false, Bool.false_eq_true] at hgroups
    obtain rfl := Except.ok.inj hgroups
    have hread : Statement.perform gis match_settings settings
        (.has_active_subscriptions b) db = .ok ([], []) := by simp [Statement.perform, hactive]
    exact serial_one hread rfl

theorem changed_self {α : Type} [DecidableEq α] (old new : α) : changed old new old = new := by
  unfold changed
  split
  · next h => exact h.symm
  · rfl

theorem orm_update_self {r r' : Subscription} (h : r' = { r with
    status := r'.status, paused_reason := r'.paused_reason
    consecutive_failures := r'.consecutive_failures, failing_since := r'.failing_since
    retry_at := r'.retry_at, last_error := r'.last_error }) : orm_update r r' r = r' := by
  rw [h]
  simp only [orm_update, changed_self]

theorem edits_serial (hu : Table.Unique Subscription.id db.subscriptions) {r : Subscription}
    (hr : r ∈ db.subscriptions) {f : Subscription → Subscription}
    (hf : orm_update r (f r) r = f r) :
    Serial gis match_settings settings db (edits r (f r)) (SubscriptionAdmin.write r.id f db) := by
  have hrow : ∀ s ∈ db.subscriptions, decide (s.id = r.id) = true → s = r := fun s hs he =>
    Table.unique_eq hu hs hr (of_decide_eq_true he)
  unfold edits
  split
  · next hsame =>
      have hwrite : Table.update (fun s => decide (s.id = r.id)) f db.subscriptions =
          db.subscriptions := by
        refine (List.map_congr_left (fun s hs => ?_)).trans (List.map_id _)
        split
        · next he => rw [hrow s hs he, hsame, id]
        · rfl
      rw [SubscriptionAdmin.write, hwrite]
      exact .done db
  · refine serial_one rfl ?_
    have hwrite : Table.update (fun s => decide (s.id = r.id)) (orm_update r (f r))
        db.subscriptions = Table.update (fun s => decide (s.id = r.id)) f db.subscriptions := by
      refine List.map_congr_left (fun s hs => ?_)
      split
      · next he => rw [hrow s hs he, hf]
      · rfl
    exact congrArg (fun subscriptions => { db with subscriptions := subscriptions }) hwrite

theorem fail_pending_serial (S : Nat) (db : NotificationsDb G) :
    Serial gis match_settings settings db [.fail_pending S] (DeliveryRepo.fail_pending S db) := by
  refine serial_one rfl ?_
  have hall : Table.update (fun d => decide (d.id ∈ targets S db) && is_pending_of S d) dropped
      db.deliveries = Table.update (is_pending_of S) dropped db.deliveries := by
    refine List.map_congr_left (fun d hd => ?_)
    by_cases hp : is_pending_of S d = true
    · have hmem : d.id ∈ targets S db := List.mem_map_of_mem (List.mem_filter.mpr ⟨hd, hp⟩)
      simp [hp, hmem]
    · simp [hp]
  exact congrArg (fun deliveries => { db with deliveries := deliveries }) hall

theorem pause_serial (hu : Table.Unique Subscription.id db.subscriptions) {S : Nat}
    (h : SubscriptionAdmin.pause S db = .ok db') :
    Serial gis match_settings settings db [.get_paused S] db' := by
  obtain rfl := pause_ok h
  cases hget : SubscriptionAdmin.get S db with
  | error e => simp [SubscriptionAdmin.pause, hget, bind, Except.bind] at h
  | ok r =>
      obtain ⟨hr, rfl⟩ := get_ok hget
      have hread : Statement.perform gis match_settings settings (.get_paused r.id) db =
          .ok ([], edits r (SubscriptionAdmin.paused r) ++ [.fail_pending r.id]) := by
        simp only [Statement.perform, hget, bind, Except.bind]
      exact serial_next hread rfl ((edits_serial hu hr (orm_update_self rfl)).append
        (fail_pending_serial r.id _))

theorem resume_serial (hu : Table.Unique Subscription.id db.subscriptions) {S : Nat}
    (h : SubscriptionAdmin.resume S db = .ok db') :
    Serial gis match_settings settings db [.get_resumed S] db' := by
  obtain rfl := resume_ok h
  cases hget : SubscriptionAdmin.get S db with
  | error e => simp [SubscriptionAdmin.resume, hget, bind, Except.bind] at h
  | ok r =>
      obtain ⟨hr, rfl⟩ := get_ok hget
      have hread : Statement.perform gis match_settings settings (.get_resumed r.id) db =
          .ok ([], edits r (SubscriptionAdmin.resumed r)) := by
        simp only [Statement.perform, hget, bind, Except.bind]
      exact serial_next hread rfl (edits_serial hu hr (orm_update_self rfl))

theorem mark_failed_serial (hu : Table.Unique Subscription.id db.subscriptions) (S : Nat)
    (error : String) (now : Timestamptz) :
    Serial gis match_settings settings db [.get_failed S error now]
      (mark_failed gis S error now settings.pause_after db).1 := by
  unfold mark_failed
  split
  · next hnone =>
      have hread : Statement.perform gis match_settings settings (.get_failed S error now) db =
          .ok ([], []) := by simp only [Statement.perform, hnone]
      exact serial_one hread rfl
  · next r hfind =>
      obtain ⟨hr, rfl⟩ := Table.find_some_mem hfind
      split
      · next hgives =>
          have hread : Statement.perform gis match_settings settings (.get_failed r.id error now)
              db = .ok ([], edits r (given_up gis error now r) ++ [.fail_pending r.id]) := by
            simp only [Statement.perform, hfind, hgives, if_true]
          exact serial_next hread rfl ((edits_serial hu hr (orm_update_self rfl)).append
            (fail_pending_serial r.id _))
      · next hgives =>
          have hread : Statement.perform gis match_settings settings (.get_failed r.id error now)
              db = .ok ([], edits r (failing error now r)) := by
            simp only [Statement.perform, hfind, hgives, Bool.false_eq_true, if_false]
          exact serial_next hread rfl (edits_serial hu hr (orm_update_self rfl))

theorem record_outcome_serial (hu : Table.Unique Subscription.id db.subscriptions)
    (now : Timestamptz) (o : Outcome) (report : DeliveryReport) :
    Serial gis match_settings settings db (record_outcome now o)
      (DeliverNotificationsUseCase.recorded_outcome gis settings now (db, report) o).1 := by
  cases hs : o.skipped with
  | true =>
      simp only [record_outcome, DeliverNotificationsUseCase.recorded_outcome, hs, if_true]
      exact serial_one rfl rfl
  | false =>
      cases hm : o.message_id with
      | some message_id =>
          simp only [record_outcome, DeliverNotificationsUseCase.recorded_outcome, hs, hm,
            Bool.false_eq_true, if_false]
          have hsent : Serial gis match_settings settings db
              [.mark_sent o.claim.delivery_ids message_id now]
              (Write.apply db (.sent o.claim.delivery_ids message_id now)) := serial_one rfl rfl
          exact hsent.append (serial_one rfl rfl)
      | none =>
          simp only [record_outcome, DeliverNotificationsUseCase.recorded_outcome, hs, hm,
            Bool.false_eq_true, if_false]
          exact mark_failed_serial hu o.claim.id _ now

theorem record_serial (hu : Table.Unique Subscription.id db.subscriptions) (now : Timestamptz)
    (outcomes : List Outcome) :
    Serial gis match_settings settings db (outcomes.flatMap (record_outcome now))
      (DeliverNotificationsUseCase.recorded gis settings now outcomes db).1 := by
  have hfold : ∀ p : NotificationsDb G × DeliveryReport,
      Table.Unique Subscription.id p.1.subscriptions →
      Serial gis match_settings settings p.1 (outcomes.flatMap (record_outcome now))
        (outcomes.foldl (DeliverNotificationsUseCase.recorded_outcome gis settings now) p).1 := by
    induction outcomes with
    | nil => exact fun p _ => .done p.1
    | cons o outcomes ih =>
        intro p hp
        have hids := (@DeliverNotificationsUseCase.record_outcome_recorded _ gis settings now o p).ids
        exact (record_outcome_serial hp now o p.2).append (ih _ (hp.of_keys hids))
  exact hfold (db, _) hu

structure Keyed (db : NotificationsDb G) : Prop where
  subscriptions : Table.Unique Subscription.id db.subscriptions
  episodes : Table.Unique Episode.id db.episodes
  deliveries : Table.Unique Delivery.id db.deliveries

theorem mem_ids {ρ : Type} {key : ρ → Nat} {t : List ρ} (hu : Table.Unique key t) {p : ρ → Bool}
    {r : ρ} (hr : r ∈ t) : key r ∈ (t.filter p).map key ↔ p r = true := by
  constructor
  · intro h
    obtain ⟨o, ho, hk⟩ := List.mem_map.mp h
    obtain ⟨hot, hp⟩ := List.mem_filter.mp ho
    exact Table.unique_eq hu hot hr hk ▸ hp
  · exact fun hp => List.mem_map_of_mem (List.mem_filter.mpr ⟨hr, hp⟩)

theorem purge_deliveries_serial (hu : Table.Unique Delivery.id db.deliveries)
    (cutoff : Timestamptz) :
    Serial gis match_settings settings db [.purge_deliveries cutoff]
      { db with deliveries := db.deliveries.filter (fun d => !outdated cutoff d) } := by
  refine serial_one rfl ?_
  have hds : db.deliveries.filter (fun d =>
      decide (d.id ∉ (db.deliveries.filter (outdated cutoff)).map Delivery.id) &&
        decide (d.episode_id ∉ ([] : List Nat))) =
      db.deliveries.filter (fun d => !outdated cutoff d) := by
    refine List.filter_congr (fun d hd => ?_)
    simp [mem_ids hu hd]
  have hes : db.episodes.filter (fun e => decide (e.id ∉ ([] : List Nat))) = db.episodes := by simp
  exact congrArg₂ (fun episodes deliveries =>
    { db with episodes := episodes, deliveries := deliveries }) hes hds

theorem purge_episodes_serial (db : NotificationsDb G) (hu : Table.Unique Episode.id db.episodes)
    (cutoff : Timestamptz) :
    Serial gis match_settings settings db [.purge_episodes cutoff]
      { db with
        episodes := db.episodes.filter (fun e => !outlived cutoff db.deliveries e)
        deliveries := db.deliveries.filter (fun d =>
          !(db.episodes.filter (outlived cutoff db.deliveries)).any
            (fun e => decide (e.id = d.episode_id))) } := by
  refine serial_one rfl ?_
  have hes : db.episodes.filter (fun e => decide (e.id ∉
      (db.episodes.filter (outlived cutoff db.deliveries)).map Episode.id)) =
      db.episodes.filter (fun e => !outlived cutoff db.deliveries e) := by
    refine List.filter_congr (fun e he => ?_)
    simp only [mem_ids hu he, Bool.not_eq_true, Bool.decide_eq_false]
  have hds : db.deliveries.filter (fun d => decide (d.id ∉ ([] : List Nat)) &&
      decide (d.episode_id ∉ (db.episodes.filter (outlived cutoff db.deliveries)).map Episode.id)) =
      db.deliveries.filter (fun d => !(db.episodes.filter (outlived cutoff db.deliveries)).any
        (fun e => decide (e.id = d.episode_id))) := by
    refine List.filter_congr (fun d _ => ?_)
    rw [Bool.eq_iff_iff]
    simp
  exact congrArg₂ (fun episodes deliveries =>
    { db with episodes := episodes, deliveries := deliveries }) hes hds

theorem purge_serial (hes : Table.Unique Episode.id db.episodes)
    (hds : Table.Unique Delivery.id db.deliveries) (now : Timestamptz) (retention : Nat) :
    Serial gis match_settings settings db
      [.purge_deliveries (now - retention), .purge_episodes (now - retention)]
      (purge now retention db).1 :=
  (purge_deliveries_serial hds (now - retention)).append (purge_episodes_serial
    { db with deliveries := db.deliveries.filter (fun d => !outdated (now - retention) d) }
    hes (now - retention))

theorem finish_serial (hk : Keyed db) (now : Timestamptz) (outcomes : List Outcome) :
    Serial gis match_settings settings db ((Command.finish now outcomes).program settings)
      (DeliverNotificationsUseCase.finished gis settings now outcomes db).1 := by
  have hkeep := @DeliverNotificationsUseCase.record_recorded _ gis settings now outcomes db
  have hids := forall₂_ids (@DeliverNotificationsUseCase.record_rows _ gis settings now outcomes db)
  exact (record_serial hk.subscriptions now outcomes).append
    (purge_serial (hkeep.episodes ▸ hk.episodes) (hk.deliveries.of_keys hids) now _)

theorem add_serial (area : WatchArea G) (n : NewSubscription) (db : NotificationsDb G) :
    Serial gis match_settings settings db [.create_area area n]
      (SubscriptionAdmin.add area n.hazard_types n.severity_min n.channel n.endpoint n.credential
        db) :=
  serial_next rfl rfl (serial_one rfl rfl)

theorem area_in_use_serial (area_id : Nat) (db : NotificationsDb G) :
    Serial gis match_settings settings db [.area_in_use area_id] { db with
      watch_areas :=
        if db.subscriptions.any (fun r => decide (r.watch_area_id = area_id)) then db.watch_areas
        else db.watch_areas.filter (fun a => decide (a.id ≠ area_id)) } := by
  cases hany : db.subscriptions.any (fun r => decide (r.watch_area_id = area_id)) with
  | true =>
      have hread : Statement.perform gis match_settings settings (.area_in_use area_id) db =
          .ok ([], []) := by simp only [Statement.perform, hany, if_true]
      exact serial_one hread rfl
  | false =>
      have hread : Statement.perform gis match_settings settings (.area_in_use area_id) db =
          .ok ([], [.delete_area area_id]) := by
        simp only [Statement.perform, hany, Bool.false_eq_true, if_false]
      exact serial_next hread rfl (serial_one rfl rfl)

theorem delete_serial (hk : Keyed db) (r : Subscription) :
    Serial gis match_settings settings db [.delete r] (SubscriptionAdmin.removed r db) := by
  have hes : db.episodes.filter (fun e => decide (e.id ∉ (db.episodes.filter (fun e =>
      decide (e.subscription_id = r.id))).map Episode.id)) =
      db.episodes.filter (fun e => decide (e.subscription_id ≠ r.id)) := by
    refine List.filter_congr (fun e he => ?_)
    simp only [mem_ids hk.episodes he, decide_eq_true_eq]
  have hds : db.deliveries.filter (fun d => decide (d.id ∉ (db.deliveries.filter (fun d =>
      decide (d.subscription_id = r.id))).map Delivery.id) && decide (d.episode_id ∉
        (db.episodes.filter (fun e => decide (e.subscription_id = r.id))).map Episode.id)) =
      db.deliveries.filter (fun d => decide (d.subscription_id ≠ r.id) &&
        !(db.episodes.filter (fun e => decide (e.subscription_id = r.id))).any
          (fun e => decide (e.id = d.episode_id))) := by
    refine List.filter_congr (fun d hd => ?_)
    rw [Bool.eq_iff_iff]
    simp only [mem_ids hk.deliveries hd, decide_eq_true_eq, Bool.and_eq_true]
    simp
  exact serial_next rfl (congrArg₂ (fun episodes deliveries => { db with
    subscriptions := db.subscriptions.filter (fun s => decide (s.id ≠ r.id))
    episodes := episodes, deliveries := deliveries }) hes hds)
    (area_in_use_serial r.watch_area_id _)

theorem remove_serial (hk : Keyed db) {S : Nat} (h : SubscriptionAdmin.remove S db = .ok db') :
    Serial gis match_settings settings db [.get_removed S] db' := by
  cases hget : SubscriptionAdmin.get S db with
  | error e => simp [SubscriptionAdmin.remove, hget, bind, Except.bind] at h
  | ok r =>
      simp only [SubscriptionAdmin.remove, hget, bind, Except.bind, Except.ok.injEq] at h
      subst h
      have hread : Statement.perform gis match_settings settings (.get_removed S) db =
          .ok ([], [.delete r]) := by simp only [Statement.perform, hget, bind, Except.bind]
      exact serial_next hread rfl (delete_serial hk r)

theorem updates_apply {f : Subscription → Subscription} (hf : Quiet f) (hff : ∀ s, f (f s) = f s)
    (ids : List Nat) (db : NotificationsDb G) :
    view db (ids.map (fun id => .updated id f)) =
      { db with
        subscriptions := Table.update (fun s => decide (s.id ∈ ids)) f db.subscriptions } := by
  induction ids generalizing db with
  | nil =>
      have hnone : Table.update (fun s => decide (s.id ∈ ([] : List Nat))) f db.subscriptions =
          db.subscriptions := Table.update_eq_self (by simp)
      rw [hnone]
      rfl
  | cons id ids ih =>
      have hone : Table.update (fun s => decide (s.id ∈ ids)) f
          (Table.update (fun s => decide (s.id = id)) f db.subscriptions) =
          Table.update (fun s => decide (s.id ∈ id :: ids)) f db.subscriptions := by
        simp only [Table.update, List.map_map]
        refine List.map_congr_left (fun s _ => ?_)
        by_cases hid : s.id = id
        · simp [hid, hf.keeps s, hff]
        · simp [hid]
      simp only [List.map_cons, view, List.foldl_cons] at ih ⊢
      rw [ih]
      simp only [Write.apply, SubscriptionAdmin.write, hone]

theorem attempt_serial (db : NotificationsDb G) (hu : Table.Unique Delivery.id db.deliveries)
    (ids : List Nat) :
    Serial gis match_settings settings db [.attempt ids] { db with
      deliveries := Table.update (fun d => decide (d.subscription_id ∈ ids) && d.status == .pending)
        DeliveryRepo.attempted db.deliveries } := by
  refine serial_one rfl ?_
  have hall : Table.update (fun d => decide (d.id ∈ (db.deliveries.filter (fun d =>
      decide (d.subscription_id ∈ ids) && d.status == .pending)).map Delivery.id))
      DeliveryRepo.attempted db.deliveries = Table.update (fun d =>
        decide (d.subscription_id ∈ ids) && d.status == .pending) DeliveryRepo.attempted
        db.deliveries := by
    refine List.map_congr_left (fun d hd => ?_)
    simp only [mem_ids hu hd, decide_eq_true_eq]
  exact congrArg (fun deliveries => { db with deliveries := deliveries }) hall

theorem claim_serial (hu : Table.Unique Delivery.id db.deliveries) {now : Timestamptz}
    {claims : List ClaimedSubscription}
    (h : DeliverNotificationsUseCase.claim settings now db = .ok (db', claims)) :
    Serial gis match_settings settings db [.claim now []] db' := by
  have hall : claim_unlocked settings now [] db = .ok (db', claims) := by
    simpa [claim_unlocked] using h
  have hread : Statement.perform gis match_settings settings (.claim now []) db =
      .ok (claims.map (fun c => .updated c.id (leased now)),
        [.attempt (claims.map ClaimedSubscription.id)]) := by
    simp only [Statement.perform, hall, bind, Except.bind]
  have hids := (claim_spec h).2.2.2.1
  have hwrites : claims.map (fun c => Write.updated (G := G) c.id (leased now)) =
      (claims.map ClaimedSubscription.id).map (fun id => .updated id (leased now)) := by
    simp
  have hdb : (claims.map (fun c => .updated c.id (leased now))).foldl Write.draw
      (view db (claims.map (fun c => .updated c.id (leased now)))) = { db with
        subscriptions := Table.update (fun s => decide (s.id ∈ claims.map ClaimedSubscription.id))
          (leased now) db.subscriptions } := by
    rw [drawn_eq, hwrites, updates_apply (leased_quiet now) (fun _ => rfl)]
    simp [List.countP_map, Function.comp_def, Write.creates]
  simp only [DeliverNotificationsUseCase.claim, DeliveryRepo.claim, bind, Except.bind] at h
  split at h
  · simp at h
  · simp only [Except.ok.injEq, Prod.mk.injEq] at h
    obtain ⟨rfl, rfl⟩ := h
    rw [← hids]
    exact serial_next hread hdb (attempt_serial { db with
      subscriptions := (Table.update (fun s => decide (s.id ∈ List.map ClaimedSubscription.id _))
        (leased now) db.subscriptions) } hu _)

theorem map_ok {α β : Type} {f : α → β} {x : Except PyError α} {b : β} (h : x.map f = .ok b) :
    ∃ a, x = .ok a ∧ f a = b := by
  cases x with
  | error e => simp [Except.map] at h
  | ok a => exact ⟨a, rfl, Except.ok.inj h⟩

-- what a command does on its own
def Command.execute (gis : Gis G) (match_settings : MatchSettings) (settings : DeliverSettings)
    (db : NotificationsDb G) : Command G → Except PyError (NotificationsDb G)
  | .matching b =>
      (MatchBatchUseCase.execute gis match_settings b.source b.batch_at b.now b.events db).map
        Prod.fst
  | .add area n =>
      .ok (SubscriptionAdmin.add area n.hazard_types n.severity_min n.channel n.endpoint
        n.credential db)
  | .pause subscription_id => SubscriptionAdmin.pause subscription_id db
  | .resume subscription_id => SubscriptionAdmin.resume subscription_id db
  | .remove subscription_id => SubscriptionAdmin.remove subscription_id db
  | .claim now _ => (DeliverNotificationsUseCase.claim settings now db).map Prod.fst
  | .finish now outcomes =>
      (DeliverNotificationsUseCase.finish gis settings now outcomes db).map Prod.fst

def Command.unhindered : Command G → Prop
  | .claim _ skipped => skipped = []
  | _ => True

theorem execute_program (hk : Keyed db) {command : Command G} (hc : command.unhindered)
    (h : command.execute gis match_settings settings db = .ok db') :
    Serial gis match_settings settings db (command.program settings) db' := by
  cases command with
  | matching b =>
      obtain ⟨r, hr, rfl⟩ := map_ok h
      exact execute_serial hr
  | add area n => exact Except.ok.inj h ▸ add_serial area n db
  | pause subscription_id => exact pause_serial hk.subscriptions h
  | resume subscription_id => exact resume_serial hk.subscriptions h
  | remove subscription_id => exact remove_serial hk h
  | claim now skipped =>
      obtain rfl : skipped = [] := hc
      obtain ⟨r, hr, rfl⟩ := map_ok h
      exact claim_serial hk.deliveries hr
  | finish now outcomes =>
      obtain ⟨r, hr, rfl⟩ := map_ok h
      obtain ⟨_, rfl⟩ := DeliverNotificationsUseCase.finish_iff.mp hr
      exact finish_serial hk now outcomes

-- with no other transaction around, a session does what its command does
theorem session_refines (hk : Keyed db) {command : Command G} (hc : command.unhindered)
    (h : command.execute gis match_settings settings db = .ok db') (i : Nat) :
    ∃ n, Run (engine gis match_settings settings).Step ⟨db, []⟩
      (.start i command :: (List.replicate n (.next i) ++ [.commit i])) ⟨db', []⟩ := by
  have hv : (engine gis match_settings settings).view db [] = db := rfl
  obtain ⟨n, hn⟩ := (execute_program hk hc h).run draw_apply i hv
  exact ⟨n, .cons rfl hn⟩

end GeoHazard.Sessions

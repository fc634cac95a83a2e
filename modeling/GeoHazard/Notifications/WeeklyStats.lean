import GeoHazard.Library.OrderBy
import GeoHazard.Notifications.DeliveryOrigin
import GeoHazard.Notifications.PurgeRetention
import GeoHazard.Notifications.SubscriptionRows

namespace GeoHazard
open Transition SubscriptionRepo

variable {G : Type} {gis : Gis G} {settings : MatchSettings} {deliver : DeliverSettings}
  {db : NotificationsDb G} {s t : DeliverState G} {a : DeliverAction G} {c : ClaimedSubscription}

-- uuid4 gives no id twice
def FreshMessage (s : DeliverState G) (a : DeliverAction G) : Prop :=
  ∀ message_id, a = .accepted message_id → ∀ m ∈ s.accepted, m.id ≠ message_id

def OwnClaim (db : NotificationsDb G) (c : ClaimedSubscription) : Prop :=
  ∀ id ∈ c.delivery_ids, id < db.next_id ∧
    ∀ d ∈ db.deliveries, d.id = id → d.subscription_id = c.id

theorem OwnClaim.keep (h : OwnClaim s.db c) (hr : Rows s a t) : OwnClaim t.db c := by
  intro id hid
  obtain ⟨hlt, hown⟩ := h id hid
  refine ⟨lt_of_lt_of_le hlt hr.next_id, fun d' hd' hd => ?_⟩
  rcases hr.before d' hd' with hc | ⟨d, hdm, hfate⟩
  · exact absurd (hd ▸ hc.next_id) (not_le.mpr hlt)
  · exact hfate.same.subscription_id.trans (hown d hdm (hfate.same.id.symm.trans hd))

def StampedBy (accepted : List Message) (d : Delivery) : Prop :=
  ∀ id, d.message_id = some id → ∃ m ∈ accepted, m.id = id ∧ d.id ∈ m.claim.delivery_ids

def Stampless (ds : List Delivery) (o : Outcome) : Prop :=
  ∀ id, o.message_id = some id → ∀ d ∈ ds, d.message_id ≠ some id

structure MessageStamps (s : DeliverState G) : Prop where
  ids : (s.accepted.map Message.id).Nodup
  accepted : ∀ m ∈ s.accepted, OwnClaim s.db m.claim
  claims : ∀ run, s.run = some run → ∀ c ∈ run.claims, OwnClaim s.db c
  outcomes : ∀ run, s.run = some run → ∀ o ∈ run.outcomes, Stampless s.db.deliveries o
  deliveries : ∀ d ∈ s.db.deliveries, StampedBy s.accepted d
  together : ∀ d ∈ s.db.deliveries, ∀ d' ∈ s.db.deliveries, ∀ id, d.message_id = some id →
    d'.message_id = some id → d'.sent_at = d.sent_at

theorem MessageStamps.empty : MessageStamps (DeliverState.empty (G := G)) :=
  ⟨List.nodup_nil, by simp [DeliverState.empty], by simp [DeliverState.empty],
    by simp [DeliverState.empty], by simp [DeliverState.empty, NotificationsDb.empty],
    by simp [DeliverState.empty, NotificationsDb.empty]⟩

-- rows that keep their stamps, and new rows without one
structure Restful (s t : DeliverState G) : Prop where
  rows : ∀ d' ∈ t.db.deliveries, (∃ d ∈ s.db.deliveries, Unstamped d d') ∨ d'.message_id = none
  accepted : t.accepted = s.accepted

theorem Origin.restful (h : ∀ d' ∈ t.db.deliveries, Origin gis settings s d' a)
    (ha : ∀ now, a ≠ .recorded now) (hacc : t.accepted = s.accepted) : Restful s t := by
  refine ⟨fun d' hd' => ?_, hacc⟩
  cases h d' hd' with
  | kept mem unstamped => exact .inl ⟨_, mem, unstamped⟩
  | created created =>
      obtain ⟨slot, g, episode_id, reason, id, -, rfl⟩ := created
      exact .inr rfl
  | recorded => exact absurd rfl (ha _)

theorem Restful.stampless (h : Restful s t) {o : Outcome} (ho : Stampless s.db.deliveries o) :
    Stampless t.db.deliveries o := by
  intro id hid d' hd' hst
  rcases h.rows d' hd' with ⟨d, hd, hu⟩ | hnone
  · exact ho id hid d hd (hu.message_id.symm.trans hst)
  · simp [hnone] at hst

theorem Restful.deliveries (h : Restful s t) (hs : ∀ d ∈ s.db.deliveries, StampedBy s.accepted d) :
    ∀ d' ∈ t.db.deliveries, StampedBy t.accepted d' := by
  intro d' hd' id hst
  rcases h.rows d' hd' with ⟨d, hd, hu⟩ | hnone
  · rw [h.accepted, hu.id]
    exact hs d hd id (hu.message_id.symm.trans hst)
  · simp [hnone] at hst

theorem Restful.together (h : Restful s t)
    (hs : ∀ d ∈ s.db.deliveries, ∀ d' ∈ s.db.deliveries, ∀ id, d.message_id = some id →
      d'.message_id = some id → d'.sent_at = d.sent_at) :
    ∀ d ∈ t.db.deliveries, ∀ d' ∈ t.db.deliveries, ∀ id, d.message_id = some id →
      d'.message_id = some id → d'.sent_at = d.sent_at := by
  intro d hd d' hd' id hid hid'
  rcases h.rows d hd with ⟨o, ho, hu⟩ | hnone
  · rcases h.rows d' hd' with ⟨o', ho', hu'⟩ | hnone
    · rw [hu.sent_at, hu'.sent_at]
      exact hs o ho o' ho' id (hu.message_id.symm.trans hid) (hu'.message_id.symm.trans hid')
    · simp [hnone] at hid'
  · simp [hnone] at hid

theorem MessageStamps.frame (h : MessageStamps s) (hr : Rows s a t) (hrest : Restful s t)
    (hrun : t.run = s.run) : MessageStamps t where
  ids := hrest.accepted ▸ h.ids
  accepted m hm := (h.accepted m (hrest.accepted ▸ hm)).keep hr
  claims run hrun' c hc := (h.claims run (hrun ▸ hrun') c hc).keep hr
  outcomes run hrun' o ho := hrest.stampless (h.outcomes run (hrun ▸ hrun') o ho)
  deliveries := hrest.deliveries h.deliveries
  together := hrest.together h.together

theorem MessageStamps.claimed {now : Timestamptz} {claims : List ClaimedSubscription}
    (h : MessageStamps s) (hi : DeliverInv s)
    (hc : DeliverNotificationsUseCase.claim deliver now s.db = .ok (db, claims))
    (hr : Rows s a { s with db := db, run := some ⟨claims, []⟩ })
    (hrest : Restful s { s with db := db, run := some ⟨claims, []⟩ }) :
    MessageStamps { s with db := db, run := some ⟨claims, []⟩ } where
  ids := h.ids
  accepted m hm := (h.accepted m hm).keep hr
  claims run hrun c hcm := by
    obtain rfl := Option.some.inj hrun
    refine OwnClaim.keep (s := s) (fun id hid => ?_) hr
    obtain ⟨-, -, -, -, hof⟩ := DeliveryRepo.claim_spec hc
    obtain ⟨d, hd, rfl, -, hsub⟩ := hof c hcm id hid
    refine ⟨hi.fresh d hd, fun d' hd' hid' => ?_⟩
    rw [Table.unique_eq hi.unique hd' hd hid']
    exact hsub
  outcomes run hrun o ho := by
    obtain rfl := Option.some.inj hrun
    simp at ho
  deliveries := hrest.deliveries h.deliveries
  together := hrest.together h.together

theorem MessageStamps.attempt {outcome : ClaimedSubscription → Outcome} {run : DeliverRun}
    (h : MessageStamps s) (hat : s.Attempt outcome c run) (ho : Stampless s.db.deliveries (outcome c)) :
    MessageStamps { s with run := some run } := by
  obtain ⟨rest, outcomes, hrun, rfl⟩ := hat
  refine ⟨h.ids, h.accepted, fun run' hr c' hc => ?_, fun run' hr o hm => ?_, h.deliveries, h.together⟩
  · obtain rfl := Option.some.inj hr
    exact h.claims _ hrun c' (List.mem_cons_of_mem _ hc)
  · obtain rfl := Option.some.inj hr
    rcases List.mem_append.mp hm with hm | hm
    · exact h.outcomes _ hrun o hm
    · exact List.mem_singleton.mp hm ▸ ho

theorem MessageStamps.accept {message_id : Nat} {run : DeliverRun} (h : MessageStamps s)
    (hat : s.Attempt (fun c => ⟨c, some message_id, none, false⟩) c run)
    (hf : ∀ m ∈ s.accepted, m.id ≠ message_id) :
    MessageStamps { s with run := some run, accepted := s.accepted ++ [⟨message_id, c⟩] } := by
  have hown : OwnClaim s.db c := by
    obtain ⟨rest, outcomes, hrun, -⟩ := hat
    exact h.claims _ hrun c List.mem_cons_self
  have hk := h.attempt hat (fun id hid d hd hst => by
    obtain ⟨m, hm, hmid, -⟩ := h.deliveries d hd id hst
    exact hf m hm (hmid.trans (Option.some.inj hid).symm))
  refine ⟨?_, fun m hm => ?_, hk.claims, hk.outcomes, fun d hd id hid => ?_, hk.together⟩
  · rw [List.map_append]
    exact List.nodup_append.mpr ⟨h.ids, by simp, by simpa using hf⟩
  · rcases List.mem_append.mp hm with hm | hm
    · exact h.accepted m hm
    · obtain rfl := List.mem_singleton.mp hm
      exact hown
  · obtain ⟨m, hm, hmid⟩ := h.deliveries d hd id hid
    exact ⟨m, List.mem_append_left _ hm, hmid⟩

theorem MessageStamps.record {now : Timestamptz} {outcomes : List Outcome} (h : MessageStamps s)
    (hi : DeliverInv s) (hrun : s.run = some ⟨[], outcomes⟩) (hr : Rows s a { s with
      db := (DeliverNotificationsUseCase.finished gis deliver now outcomes s.db).1, run := none }) :
    MessageStamps { s with
      db := (DeliverNotificationsUseCase.finished gis deliver now outcomes s.db).1, run := none } := by
  have hrows : ∀ d' ∈ (DeliverNotificationsUseCase.finished gis deliver now outcomes s.db).1.deliveries,
      ∃ d ∈ s.db.deliveries, Stamping now outcomes d d' :=
    fun d' hd' => record_stamping (DeliveryRepo.purge_mem hd')
  refine ⟨h.ids, fun m hm => (h.accepted m hm).keep hr, by simp, by simp, fun d' hd' id hid => ?_,
    fun d hd d' hd' id hid hid' => ?_⟩
  · obtain ⟨d, hd, hst⟩ := hrows d' hd'
    cases hst with
    | kept u =>
        rw [u.id]
        exact h.deliveries d hd id (u.message_id.symm.trans hid)
    | stamped same mem accepted claimed message _ =>
        obtain rfl := Option.some.inj (message.symm.trans hid)
        exact ⟨_, hi.sending _ hrun _ mem _ accepted, rfl, same.id ▸ claimed⟩
  · -- a message of this run is on no row that the run leaves as it was
    obtain ⟨o, ho, hst⟩ := hrows d hd
    obtain ⟨o', ho', hst'⟩ := hrows d' hd'
    cases hst with
    | kept u =>
        have hold := u.message_id.symm.trans hid
        cases hst' with
        | kept u' =>
            rw [u.sent_at, u'.sent_at]
            exact h.together o ho o' ho' id hold (u'.message_id.symm.trans hid')
        | stamped _ mem accepted _ message _ =>
            obtain rfl := Option.some.inj (message.symm.trans hid')
            exact absurd hold (h.outcomes _ hrun _ mem _ accepted o ho)
    | stamped _ mem accepted _ message sent_at =>
        obtain rfl := Option.some.inj (message.symm.trans hid)
        cases hst' with
        | kept u' =>
            exact absurd (u'.message_id.symm.trans hid') (h.outcomes _ hrun _ mem _ accepted o' ho')
        | stamped _ _ _ _ _ sent_at' => rw [sent_at, sent_at']

theorem DeliverStep.stamped (hs : DeliverStep gis settings deliver s a t) (hi : DeliverInv s)
    (hf : FreshMessage s a) (h : MessageStamps s) : MessageStamps t := by
  have hrows := hs.rows
  have horigin : ∀ d' ∈ t.db.deliveries, Origin gis settings s d' a := fun _ hd => hs.origin hd
  cases a with
  | matched source batch_at now events =>
      obtain ⟨db, n, hx, rfl⟩ := hs
      exact h.frame hrows (Origin.restful horigin (by simp) rfl) rfl
  | claimed now =>
      obtain ⟨_, db, claims, hc, rfl⟩ := hs
      exact h.claimed hi hc hrows (Origin.restful horigin (by simp) rfl)
  | accepted message_id =>
      obtain ⟨c, run, hat, rfl⟩ := hs
      exact h.accept hat (hf message_id rfl)
  | refused error =>
      obtain ⟨c, run, hat, rfl⟩ := hs
      exact h.attempt hat (by simp [Stampless])
  | deferred =>
      obtain ⟨c, run, hat, _, rfl⟩ := hs
      exact h.attempt hat (by simp [Stampless])
  | recorded now =>
      obtain ⟨outcomes, hrun, _, rfl⟩ := hs.recorded_inv
      exact h.record hi hrun hrows
  | crashed =>
      subst hs
      exact ⟨h.ids, h.accepted, by simp, by simp, h.deliveries, h.together⟩
  | added area hazard_types severity_min channel endpoint credential =>
      subst hs
      exact h.frame hrows (Origin.restful horigin (by simp) rfl) rfl
  | paused id =>
      obtain ⟨db, hp, rfl⟩ := hs
      exact h.frame hrows (Origin.restful horigin (by simp) rfl) rfl
  | resumed id =>
      obtain ⟨db, hp, rfl⟩ := hs
      exact h.frame hrows (Origin.restful horigin (by simp) rfl) rfl
  | removed id =>
      obtain ⟨db, hp, rfl⟩ := hs
      exact h.frame hrows (Origin.restful horigin (by simp) rfl) rfl

def label_of (db : NotificationsDb G) (subscription_id : Nat) : String :=
  ((Table.find Subscription.id subscription_id db.subscriptions).bind
    (fun r => Table.find WatchArea.id r.watch_area_id db.watch_areas)).elim "" WatchArea.label

variable {date_trunc : Timestamptz → Timestamptz} {since : Timestamptz}

def stats_row (date_trunc : Timestamptz → Timestamptz) (since : Timestamptz)
    (db : NotificationsDb G) (d : Delivery) : Option (StatsKey × Option Nat) :=
  (sent_since since d).map (fun sent_at =>
    ((d.subscription_id, label_of db d.subscription_id, date_trunc sent_at), d.message_id))

theorem RowLinks.subscribes (h : RowLinks db) {d : Delivery} (hd : d ∈ db.deliveries) :
    Subscribes d.subscription_id db := by
  obtain ⟨e, he, -, hes⟩ := h.homed d hd
  exact hes ▸ h.subscribed e he

-- each sent delivery is in one row of the join
theorem RowLinks.stats_rows (h : RowLinks db) :
    SubscriptionRepo.stats_rows date_trunc since db =
      db.deliveries.filterMap (stats_row date_trunc since db) := by
  rw [SubscriptionRepo.stats_rows, List.filterMap_eq_flatMap_toList]
  refine List.flatMap_congr (fun d hd => ?_)
  obtain ⟨r, hr, hid⟩ := h.subscribes hd
  obtain ⟨area, harea, haid, hfind⟩ := h.find_area hr
  have hsub := (Table.find_unique h.subscriptions).mpr ⟨hr, hid⟩
  have hlabel : label_of db d.subscription_id = area.label := by
    rw [label_of, hsub, Option.bind_some, hfind, Option.elim_some]
  have hlabels : SubscriptionRepo.area_labels r db = [area.label] := by
    rw [SubscriptionRepo.area_labels, Table.filter_unique h.areas, hfind]
    rfl
  have hfilter := Table.filter_unique h.subscriptions d.subscription_id
  rw [hfilter, hsub, stats_row, hlabel]
  cases sent_since since d with
  | none => rfl
  | some sent_at => simp [hlabels, hid]

theorem stats_row_some {d : Delivery} {row : StatsKey × Option Nat}
    (h : stats_row date_trunc since db d = some row) :
    ∃ sent_at, sent_since since d = some sent_at ∧ row =
      ((d.subscription_id, label_of db d.subscription_id, date_trunc sent_at), d.message_id) := by
  obtain ⟨sent_at, hs, heq⟩ := Option.map_eq_some_iff.mp h
  exact ⟨sent_at, hs, heq.symm⟩

theorem sent_since_some {d : Delivery} {sent_at : Timestamptz} (h : sent_since since d = some sent_at) :
    d.status = .sent ∧ d.sent_at = some sent_at := by
  unfold sent_since at h
  split at h
  · next hst => exact ⟨hst, (Option.filter_eq_some_iff.mp h).1⟩
  · simp at h

abbrev stats_groups (date_trunc : Timestamptz → Timestamptz) (since : Timestamptz)
    (db : NotificationsDb G) : List (StatsKey × Nat × Nat) :=
  GroupBy.aggregate Prod.fst (fun rows => (GroupBy.distinct Prod.snd rows, rows.length))
    (db.deliveries.filterMap (stats_row date_trunc since db))

theorem RowLinks.weekly_perm (h : RowLinks db) :
    (weekly_stats date_trunc since db).Perm ((stats_groups date_trunc since db).map to_stats) := by
  rw [weekly_stats, h.stats_rows]
  exact List.perm_insertionSort _ _

theorem stats_by : OrderBy.By stats_before (fun w => toLex (w.subscription_id, w.week)) :=
  ⟨fun {a b} => by rw [Prod.Lex.toLex_le_toLex]; rfl⟩

theorem RowLinks.weekly_deliveries (h : RowLinks db) :
    ((weekly_stats date_trunc since db).map WeeklyStats.deliveries).sum =
      db.deliveries.countP (fun d => (sent_since since d).isSome) := by
  rw [(h.weekly_perm.map WeeklyStats.deliveries).sum_eq]
  have hgroups := @GroupBy.sum_length_aggregate _ _ _ Prod.fst
    (db.deliveries.filterMap (stats_row date_trunc since db))
  simp only [GroupBy.aggregate, List.map_map, Function.comp_def] at hgroups
  simp only [stats_groups, GroupBy.aggregate, List.map_map, Function.comp_def, to_stats]
  rw [hgroups, List.length_filterMap_eq_countP]
  exact List.countP_congr (by simp [stats_row])

-- the deliveries of a subscription sent in a week
def in_week (date_trunc : Timestamptz → Timestamptz) (since : Timestamptz) (subscription_id : Nat)
    (week : Timestamptz) (d : Delivery) : Bool :=
  (sent_since since d).any (fun sent_at =>
    decide (d.subscription_id = subscription_id ∧ date_trunc sent_at = week))

-- the messages whose receipt is on one of the deliveries
def receipted (p : Delivery → Bool) (db : NotificationsDb G) (m : Message) : Bool :=
  db.deliveries.any (fun d => p d && d.message_id == some m.id)

theorem in_week_sent {subscription_id : Nat} {week : Timestamptz} {d : Delivery}
    (h : in_week date_trunc since subscription_id week d = true) : (sent_since since d).isSome := by
  obtain ⟨sent_at, hs, -⟩ := (Option.any_eq_true _ _).mp h
  exact Option.isSome_iff_exists.mpr ⟨sent_at, hs⟩

theorem length_stats_rows {ds : List Delivery} (h : ∀ d ∈ ds, (sent_since since d).isSome) :
    (ds.filterMap (stats_row date_trunc since db)).length = ds.length := by
  rw [List.length_filterMap_eq_countP, List.countP_eq_length]
  exact fun d hd => by simpa [stats_row] using h d hd

theorem stats_rows_receipts {ds : List Delivery} (h : ∀ d ∈ ds, (sent_since since d).isSome) :
    (ds.filterMap (stats_row date_trunc since db)).filterMap Prod.snd =
      ds.filterMap Delivery.message_id := by
  rw [List.filterMap_filterMap]
  refine List.filterMap_congr (fun d hd => ?_)
  obtain ⟨sent_at, hs⟩ := Option.isSome_iff_exists.mp (h d hd)
  simp [stats_row, hs]

theorem stats_rows_sent (ds : List Delivery) :
    ds.filterMap (stats_row date_trunc since db) =
      (ds.filter (fun d => (sent_since since d).isSome)).filterMap
        (stats_row date_trunc since db) := by
  rw [List.filterMap_filter]
  refine List.filterMap_congr (fun d _ => ?_)
  cases hs : sent_since since d <;> simp [stats_row, hs]

theorem stats_group (ds : List Delivery) (id : Nat) (week : Timestamptz) :
    GroupBy.group Prod.fst (id, label_of db id, week)
        (ds.filterMap (stats_row date_trunc since db)) =
      (ds.filter (in_week date_trunc since id week)).filterMap
        (stats_row date_trunc since db) := by
  rw [GroupBy.group, List.filter_filterMap, List.filterMap_filter]
  refine List.filterMap_congr (fun d _ => ?_)
  cases hs : sent_since since d with
  | none => simp [stats_row, in_week, hs]
  | some sent_at =>
      by_cases hid : d.subscription_id = id
      · simp [stats_row, in_week, hs, hid, Option.filter]
      · simp [stats_row, in_week, hs, hid, Option.filter]

theorem MessageStamps.key (h : MessageStamps s) {d d' : Delivery} (hd : d ∈ s.db.deliveries)
    (hd' : d' ∈ s.db.deliveries) {id : Nat} (hid : d.message_id = some id)
    (hid' : d'.message_id = some id) :
    d'.subscription_id = d.subscription_id ∧ d'.sent_at = d.sent_at := by
  obtain ⟨m, hm, rfl, hin⟩ := h.deliveries d hd id hid
  obtain ⟨m', hm', heq, hin'⟩ := h.deliveries d' hd' m.id hid'
  obtain rfl := List.inj_on_of_nodup_map h.ids hm' hm heq
  have hown := (h.accepted m' hm' d.id hin).2 d hd rfl
  have hown' := (h.accepted m' hm' d'.id hin').2 d' hd' rfl
  exact ⟨hown'.trans hown.symm, h.together d hd d' hd' _ hid hid'⟩

theorem MessageStamps.receipts (h : MessageStamps s) (p : Delivery → Bool) :
    ((s.db.deliveries.filter p).filterMap Delivery.message_id).dedup.length =
      (s.accepted.filter (receipted p s.db)).length := by
  have hmem : ∀ id, (∃ d ∈ s.db.deliveries.filter p, d.message_id = some id) ↔
      ∃ m ∈ s.accepted, receipted p s.db m = true ∧ m.id = id := by
    intro id
    constructor
    · rintro ⟨d, hd, hid⟩
      obtain ⟨hd, hp⟩ := List.mem_filter.mp hd
      obtain ⟨m, hm, rfl, -⟩ := h.deliveries d hd id hid
      exact ⟨m, hm, List.any_eq_true.mpr ⟨d, hd, by simpa [hp] using hid⟩, rfl⟩
    · rintro ⟨m, -, hrep, rfl⟩
      obtain ⟨d, hd, hboth⟩ := List.any_eq_true.mp hrep
      obtain ⟨hp, hid⟩ := Bool.and_eq_true_iff.mp hboth
      exact ⟨d, List.mem_filter.mpr ⟨hd, hp⟩, by simpa using hid⟩
  have hids : ((s.accepted.filter (receipted p s.db)).map Message.id).Nodup :=
    h.ids.sublist (List.filter_sublist.map Message.id)
  rw [← List.length_map (f := Message.id)]
  refine List.Perm.length_eq ((List.perm_ext_iff_of_nodup (List.nodup_dedup _) hids).mpr
    (fun id => ?_))
  rw [List.mem_dedup, List.mem_filterMap, hmem id]
  simp [and_assoc]

theorem MessageStamps.weekly_messages (h : MessageStamps s) (hl : RowLinks s.db) :
    ((weekly_stats date_trunc since s.db).map WeeklyStats.messages).sum =
      (s.accepted.filter (receipted (fun d => (sent_since since d).isSome) s.db)).length := by
  have hgroups := @GroupBy.sum_distinct_aggregate _ _ _ Prod.fst
    (s.db.deliveries.filterMap (stats_row date_trunc since s.db)) _ _ Prod.snd (by
      intro row hrow row' hrow' id hid hid'
      obtain ⟨d, hd, hst⟩ := List.mem_filterMap.mp hrow
      obtain ⟨d', hd', hst'⟩ := List.mem_filterMap.mp hrow'
      obtain ⟨sent_at, hsent, rfl⟩ := stats_row_some hst
      obtain ⟨sent_at', hsent', rfl⟩ := stats_row_some hst'
      obtain ⟨hsub, hat⟩ := h.key hd hd' hid hid'
      have hsame : sent_at' = sent_at := Option.some.inj
        ((sent_since_some hsent').2.symm.trans (hat.trans (sent_since_some hsent).2))
      rw [hsub, hsame])
  have hrows := @stats_rows_receipts _ s.db date_trunc since
    (s.db.deliveries.filter (fun d => (sent_since since d).isSome))
    (fun d hd => (List.mem_filter.mp hd).2)
  have hreceipts : GroupBy.distinct Prod.snd
      (s.db.deliveries.filterMap (stats_row date_trunc since s.db)) =
      (s.accepted.filter (receipted (fun d => (sent_since since d).isSome) s.db)).length := by
    rw [GroupBy.distinct, stats_rows_sent, hrows, h.receipts]
  rw [(hl.weekly_perm.map WeeklyStats.messages).sum_eq, ← hreceipts, ← hgroups]
  simp only [stats_groups, GroupBy.aggregate, List.map_map, Function.comp_def, to_stats]

theorem RowLinks.weekly_line (h : RowLinks db) {w : WeeklyStats}
    (hw : w ∈ weekly_stats date_trunc since db) :
    ∃ k, (k, w.messages, w.deliveries) ∈ stats_groups date_trunc since db ∧
      w = to_stats (k, w.messages, w.deliveries) := by
  obtain ⟨⟨k, n, m⟩, hg, rfl⟩ := List.mem_map.mp (h.weekly_perm.mem_iff.mp hw)
  exact ⟨k, hg, rfl⟩

-- a line counts the deliveries of its subscription and week, and the messages told by them
structure StatsLine (date_trunc : Timestamptz → Timestamptz) (since : Timestamptz)
    (s : DeliverState G) (w : WeeklyStats) : Prop where
  bounds : 1 ≤ w.messages ∧ w.messages ≤ w.deliveries
  label : ∃ r ∈ s.db.subscriptions, r.id = w.subscription_id ∧
    ∃ area ∈ s.db.watch_areas, area.id = r.watch_area_id ∧ w.area_label = area.label
  deliveries : w.deliveries =
    s.db.deliveries.countP (in_week date_trunc since w.subscription_id w.week)
  messages : w.messages = (s.accepted.filter
    (receipted (in_week date_trunc since w.subscription_id w.week) s.db)).length

structure StatsAccounted (date_trunc : Timestamptz → Timestamptz) (since : Timestamptz)
    (s : DeliverState G) : Prop where
  distinct : (s.accepted.map Message.id).Nodup
  sorted : (weekly_stats date_trunc since s.db).Pairwise stats_before
  apart : ((weekly_stats date_trunc since s.db).map
    (fun w => (w.subscription_id, w.week))).Nodup
  lines : ∀ w ∈ weekly_stats date_trunc since s.db, StatsLine date_trunc since s w
  complete : ∀ d ∈ s.db.deliveries, ∀ sent_at, sent_since since d = some sent_at →
    ∃ w ∈ weekly_stats date_trunc since s.db,
      w.subscription_id = d.subscription_id ∧ w.week = date_trunc sent_at
  deliveries : ((weekly_stats date_trunc since s.db).map WeeklyStats.deliveries).sum =
    s.db.deliveries.countP (fun d => (sent_since since d).isSome)
  messages : ((weekly_stats date_trunc since s.db).map WeeklyStats.messages).sum =
    (s.accepted.filter (receipted (fun d => (sent_since since d).isSome) s.db)).length

theorem RowLinks.weekly_rows (h : RowLinks s.db) (hi : DeliverInv s) (hm : MessageStamps s)
    {w : WeeklyStats} (hw : w ∈ weekly_stats date_trunc since s.db) :
    StatsLine date_trunc since s w := by
  obtain ⟨k, hg, heq⟩ := h.weekly_line hw
  obtain ⟨⟨row, hrow, hk⟩, hcounts⟩ := GroupBy.mem_aggregate.mp hg
  obtain ⟨hmessages, hdeliveries⟩ := Prod.mk.inj hcounts
  obtain ⟨d, hd, hst⟩ := List.mem_filterMap.mp hrow
  obtain ⟨sent_at, hsent, rfl⟩ := stats_row_some hst
  obtain ⟨m, -, -, hid⟩ := hi.sent d hd (sent_since_some hsent).1
  have hpos : 1 ≤ w.messages := by
    rw [← hmessages, GroupBy.distinct]
    exact List.length_pos_of_mem (List.mem_dedup.mpr (List.mem_filterMap.mpr
      ⟨_, GroupBy.mem_group.mpr ⟨hrow, hk⟩, hid⟩))
  have hkey : w.subscription_id = d.subscription_id ∧ w.week = date_trunc sent_at := by
    rw [heq, ← hk]
    exact ⟨rfl, rfl⟩
  have hsome : ∀ d' ∈ s.db.deliveries.filter
      (in_week date_trunc since w.subscription_id w.week), (sent_since since d').isSome :=
    fun d' hd' => in_week_sent (List.mem_filter.mp hd').2
  rw [← hk, stats_group, ← hkey.1, ← hkey.2] at hmessages hdeliveries
  refine ⟨⟨hpos, ?_⟩, ?_, ?_, ?_⟩
  · exact hmessages ▸ hdeliveries ▸ GroupBy.distinct_le_length
  · obtain ⟨r, hr, hrid⟩ := h.subscribes hd
    obtain ⟨area, harea, haid, hfind⟩ := h.find_area hr
    have hsub := (Table.find_unique h.subscriptions).mpr ⟨hr, hrid⟩
    have hlabel : label_of s.db d.subscription_id = area.label := by
      rw [label_of, hsub, Option.bind_some, hfind, Option.elim_some]
    rw [heq, ← hk]
    exact ⟨r, hr, hrid, area, harea, haid, hlabel⟩
  · rw [← hdeliveries, length_stats_rows hsome, List.countP_eq_length_filter]
  · rw [← hmessages, GroupBy.distinct, stats_rows_receipts hsome, hm.receipts]

theorem RowLinks.weekly_complete (h : RowLinks db) {d : Delivery} (hd : d ∈ db.deliveries)
    {sent_at : Timestamptz} (hs : sent_since since d = some sent_at) :
    ∃ w ∈ weekly_stats date_trunc since db,
      w.subscription_id = d.subscription_id ∧ w.week = date_trunc sent_at := by
  have hrow : ((d.subscription_id, label_of db d.subscription_id, date_trunc sent_at),
      d.message_id) ∈ db.deliveries.filterMap (stats_row date_trunc since db) :=
    List.mem_filterMap.mpr ⟨d, hd, by simp [stats_row, hs]⟩
  have hgroup := (@GroupBy.mem_aggregate _ _ _ Prod.fst
    (db.deliveries.filterMap (stats_row date_trunc since db)) _ _
    (fun rows => (GroupBy.distinct Prod.snd rows, rows.length)) _).mpr ⟨⟨_, hrow, rfl⟩, rfl⟩
  exact ⟨_, h.weekly_perm.mem_iff.mpr (List.mem_map_of_mem hgroup), rfl, rfl⟩

theorem RowLinks.weekly_apart (h : RowLinks db) :
    ((weekly_stats date_trunc since db).map (fun w => (w.subscription_id, w.week))).Nodup := by
  have hlabel : ∀ g ∈ stats_groups date_trunc since db, g.1.2.1 = label_of db g.1.1 := by
    intro g hg
    obtain ⟨⟨row, hrow, hk⟩, -⟩ := GroupBy.mem_aggregate.mp hg
    obtain ⟨d, -, hst⟩ := List.mem_filterMap.mp hrow
    obtain ⟨sent_at, -, rfl⟩ := stats_row_some hst
    rw [← hk]
  have hkeys : ((stats_groups date_trunc since db).map Prod.fst).Nodup :=
    GroupBy.nodup_keys_aggregate
  rw [(h.weekly_perm.map _).nodup_iff, List.map_map, List.Nodup, List.pairwise_map]
  refine (List.pairwise_map.mp hkeys).imp_of_mem (fun {g g'} hg hg' hne heq => hne ?_)
  obtain ⟨hid, hweek⟩ := Prod.mk.inj heq
  have hid' : g.1.1 = g'.1.1 := hid
  refine Prod.ext hid' (Prod.ext ?_ hweek)
  rw [hlabel g hg, hlabel g' hg', hid']

theorem stats_accounted {as : List (DeliverAction G)}
    (hr : Run (Guarded FreshMessage (DeliverStep gis settings deliver)) DeliverState.empty as s)
    (date_trunc : Timestamptz → Timestamptz) (since : Timestamptz) :
    StatsAccounted date_trunc since s := by
  obtain ⟨hi, hl, hst⟩ := hr.invariant (I := fun s => DeliverInv s ∧ RowLinks s.db ∧ MessageStamps s)
    (fun _ _ _ h hs => ⟨hs.2.inv h.1, hs.2.linked h.2.1, hs.2.stamped h.1 hs.1 h.2.2⟩)
    ⟨.empty, .empty, .empty⟩
  exact ⟨hst.ids, stats_by.sorted _, hl.weekly_apart, fun _ hw => hl.weekly_rows hi hst hw,
    fun _ hd _ hs => hl.weekly_complete hd hs, hl.weekly_deliveries, hst.weekly_messages hl⟩

theorem fresh_run {as : List (DeliverAction G)} (h : Run (DeliverStep gis settings deliver) s as t)
    (ha : ∀ id, DeliverAction.accepted id ∉ as) :
    Run (Guarded FreshMessage (DeliverStep gis settings deliver)) s as t := by
  induction h with
  | nil => exact .nil _
  | snoc _ hs ih =>
      refine .snoc (ih (fun id hid => ha id (List.mem_append_left _ hid))) ⟨fun id heq => ?_, hs⟩
      exact absurd (List.mem_append_right _ (heq ▸ List.mem_singleton_self _)) (ha id)

-- date_trunc("week") in UTC; the epoch is a Thursday
def monday (at_ : Timestamptz) : Timestamptz :=
  (at_ + 3 * day_micros) / (7 * day_micros) * (7 * day_micros) - 3 * day_micros

theorem stats_accounted_told :
    (monday (july 12 23).instant = (july 6 0).instant ∧
      monday (july 13 0).instant = (july 13 0).instant) ∧
    (weekly_stats monday (july 1 0).instant told.db).map
      (fun w => (w.subscription_id, w.messages, w.deliveries)) = [(1, 1, 1)] ∧
    StatsAccounted monday (july 1 0).instant told := by
  have hlate : Run (Guarded FreshMessage (DeliverStep planar_gis default_settings default_deliver))
      .empty (to_waiting ++ [.claimed (july 3 12).instant]) late :=
    fresh_run (.snoc waiting_run (claimed_step rfl (by decide +kernel))) (by simp [to_waiting])
  have hnone : late.accepted.length = 0 := by decide +kernel
  have haccepted : Guarded FreshMessage (DeliverStep planar_gis default_settings default_deliver)
      late (.accepted 7) (accepted_claim 7 late) :=
    ⟨by simp [FreshMessage, List.length_eq_zero_iff.mp hnone], accepted_step (by decide +kernel)⟩
  have hrecorded : Guarded FreshMessage (DeliverStep planar_gis default_settings default_deliver)
      (accepted_claim 7 late) (.recorded (july 3 13).instant) told :=
    ⟨by simp [FreshMessage], recorded_step (by decide +kernel) (by decide +kernel)⟩
  exact ⟨⟨by decide, by decide⟩, by decide +kernel,
    stats_accounted (.snoc (.snoc hlate haccepted) hrecorded) _ _⟩

end GeoHazard

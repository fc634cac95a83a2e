import GeoHazard.Notifications.DeliverSpec
import GeoHazard.Notifications.MatchFrame

namespace GeoHazard
open Transition

variable {G : Type} {gis : Gis G} {settings : MatchSettings} {deliver : DeliverSettings}

-- a message the channel took without raising
structure Message where
  id : Nat
  claim : ClaimedSubscription

-- a run between its first and its last transaction
structure DeliverRun where
  claims : List ClaimedSubscription
  outcomes : List Outcome

structure DeliverState (G : Type) where
  db : NotificationsDb G
  run : Option DeliverRun
  accepted : List Message

def DeliverState.empty : DeliverState G := ⟨NotificationsDb.empty, none, []⟩

inductive DeliverAction (G : Type) where
  | matched (source : Source) (batch_at now : Timestamptz) (events : List (HazardEvent G))
  | claimed (now : Timestamptz)
  | accepted (message_id : Nat)
  | refused (error : String)
  | deferred
  | recorded (now : Timestamptz)
  | crashed
  | added (area : WatchArea G) (hazard_types : List HazardType) (severity_min : Severity)
      (channel : Channel) (endpoint credential : String)
  | paused (subscription_id : Nat)
  | resumed (subscription_id : Nat)
  | removed (subscription_id : Nat)

def DeliverState.write (s : DeliverState G) (db : NotificationsDb G) : DeliverState G :=
  { s with db := db }

-- the next claim of the run has got this outcome
def DeliverState.Attempt (s : DeliverState G) (outcome : ClaimedSubscription → Outcome)
    (c : ClaimedSubscription) (run : DeliverRun) : Prop :=
  ∃ rest outcomes, s.run = some ⟨c :: rest, outcomes⟩ ∧ run = ⟨rest, outcomes ++ [outcome c]⟩

def DeliverStep (gis : Gis G) (settings : MatchSettings) (deliver : DeliverSettings)
    (s : DeliverState G) : DeliverAction G → DeliverState G → Prop
  | .matched source batch_at now events, t =>
      ∃ db n, MatchBatchUseCase.execute gis settings source batch_at now events s.db = .ok (db, n) ∧
        t = s.write db
  | .claimed now, t =>
      s.run = none ∧ ∃ db claims, DeliverNotificationsUseCase.claim deliver now s.db =
        .ok (db, claims) ∧ t = { s with db := db, run := some ⟨claims, []⟩ }
  | .accepted message_id, t =>
      ∃ c run, s.Attempt (fun c => ⟨c, some message_id, none, false⟩) c run ∧
        t = { s with run := some run, accepted := s.accepted ++ [⟨message_id, c⟩] }
  | .refused error, t =>
      ∃ c run, s.Attempt (fun c => ⟨c, none, some error, false⟩) c run ∧ t = { s with run := some run }
  | .deferred, t =>
      -- at least one claim is tried, whatever the budget
      ∃ c run, s.Attempt (fun c => ⟨c, none, none, true⟩) c run ∧ 2 ≤ run.outcomes.length ∧
        t = { s with run := some run }
  | .recorded now, t =>
      ∃ outcomes db report, s.run = some ⟨[], outcomes⟩ ∧
        DeliverNotificationsUseCase.finish gis deliver now outcomes s.db = .ok (db, report) ∧
        t = { s with db := db, run := none }
  | .crashed, t => t = { s with run := none }
  | .added area hazard_types severity_min channel endpoint credential, t =>
      t = s.write (SubscriptionAdmin.add area hazard_types severity_min channel endpoint credential
        s.db)
  | .paused id, t => ∃ db, SubscriptionAdmin.pause id s.db = .ok db ∧ t = s.write db
  | .resumed id, t => ∃ db, SubscriptionAdmin.resume id s.db = .ok db ∧ t = s.write db
  | .removed id, t => ∃ db, SubscriptionAdmin.remove id s.db = .ok db ∧ t = s.write db

theorem DeliverStep.recorded_inv {s t : DeliverState G} {now : Timestamptz}
    (h : DeliverStep gis settings deliver s (.recorded now) t) :
    ∃ outcomes, s.run = some ⟨[], outcomes⟩ ∧
      (∀ o ∈ outcomes, DeliverNotificationsUseCase.Binds o) ∧
      t = { s with
        db := (DeliverNotificationsUseCase.finished gis deliver now outcomes s.db).1, run := none } := by
  obtain ⟨outcomes, db, report, hrun, hfinish, rfl⟩ := h
  obtain ⟨hbinds, hr⟩ := DeliverNotificationsUseCase.finish_iff.mp hfinish
  exact ⟨outcomes, hrun, hbinds, hr ▸ rfl⟩

-- by hand, or by the run that records a failed message and leaves the subscription paused
def Pauses (s : DeliverState G) (a : DeliverAction G) (t : DeliverState G) (id : Nat) : Prop :=
  a = .paused id ∨ ∃ now run o, a = .recorded now ∧ s.run = some run ∧ o ∈ run.outcomes ∧ o.failed ∧
    o.claim.id = id ∧ PausedIn t.db id

inductive RowFate (s : DeliverState G) (a : DeliverAction G) (t : DeliverState G) (d d' : Delivery) :
    Prop
  | kept (same : SameDelivery d d') (status : d'.status = d.status)
      (message_id : d'.message_id = d.message_id)
  | sent (same : SameDelivery d d') (status : d'.status = .sent) {run : DeliverRun} {o : Outcome}
      (recording : s.run = some run) (mem : o ∈ run.outcomes) (accepted : o.sent)
      (message_id : d'.message_id = o.message_id) (claimed : d.id ∈ o.claim.delivery_ids)
  | dropped (same : SameDelivery d d') (pending : d.status = .pending) (status : d'.status = .failed)
      (pauses : Pauses s a t d.subscription_id)

variable {s t : DeliverState G} {a : DeliverAction G}

theorem RowFate.refl (d : Delivery) : RowFate s a t d d := .kept (.refl d) rfl rfl

theorem RowFate.same {d d' : Delivery} (h : RowFate s a t d d') : SameDelivery d d' := by
  cases h with
  | kept same => exact same
  | sent same => exact same
  | dropped same => exact same

structure Created (s t : DeliverState G) (d : Delivery) : Prop where
  next_id : s.db.next_id ≤ d.id
  bound : d.id < t.db.next_id
  pending : d.status = .pending

-- what becomes of the rows, read both ways
structure Rows (s : DeliverState G) (a : DeliverAction G) (t : DeliverState G) : Prop where
  next_id : s.db.next_id ≤ t.db.next_id
  unique : Table.Unique Delivery.id s.db.deliveries → (∀ d ∈ s.db.deliveries, d.id < s.db.next_id) →
    Table.Unique Delivery.id t.db.deliveries
  before : ∀ d' ∈ t.db.deliveries, Created s t d' ∨ ∃ d ∈ s.db.deliveries, RowFate s a t d d'
  after : ∀ d ∈ s.db.deliveries, Owned s.db → d.status = .pending → a = .removed d.subscription_id ∨
    ∃ d', RowFate s a t d d' ∧ (d' ∈ t.db.deliveries ∨ d'.status ≠ .pending)

theorem Rows.of_same (hn : s.db.next_id ≤ t.db.next_id) (h : t.db.deliveries = s.db.deliveries) :
    Rows s a t where
  next_id := hn
  unique hu _ := h ▸ hu
  before d hd := .inr ⟨d, h ▸ hd, .refl d⟩
  after d hd _ _ := .inr ⟨d, .refl d, .inl (h ▸ hd)⟩

theorem Rows.of_map (hn : s.db.next_id ≤ t.db.next_id) {f : Delivery → Delivery}
    (hf : ∀ d, RowFate s a t d (f d)) (h : t.db.deliveries = s.db.deliveries.map f) :
    Rows s a t where
  next_id := hn
  unique hu _ := by
    rw [h]
    exact hu.of_keys (by simp [(hf _).same.id])
  before d' hd' := by
    rw [h] at hd'
    obtain ⟨d, hd, rfl⟩ := List.mem_map.mp hd'
    exact .inr ⟨d, hd, hf d⟩
  after d hd _ _ := .inr ⟨f d, hf d, .inl (h ▸ List.mem_map_of_mem hd)⟩

theorem grown_rows (hg : Grown s.db t.db) : Rows s a t := by
  obtain ⟨extra, heq, hnodup, hx⟩ := hg.deliveries
  refine ⟨hg.next_id, fun hu hf => ?_, fun d' hd' => ?_, fun d hd _ _ => ?_⟩
  · rw [Table.Unique, heq, List.map_append, List.nodup_append]
    refine ⟨hu, hnodup, fun i hi j hj hij => ?_⟩
    obtain ⟨d, hd, rfl⟩ := List.mem_map.mp hi
    obtain ⟨d', hd', rfl⟩ := List.mem_map.mp hj
    exact absurd (lt_of_lt_of_le (hf d hd) (hx d' hd').1) (hij ▸ lt_irrefl _)
  · rw [heq] at hd'
    rcases List.mem_append.mp hd' with hd' | hd'
    · exact .inr ⟨d', hd', .refl d'⟩
    · obtain ⟨hge, hlt, hp⟩ := hx d' hd'
      exact .inl ⟨hge, hlt, hp⟩
  · exact .inr ⟨d, .refl d, .inl (heq ▸ List.mem_append_left _ hd)⟩

theorem removed_rows {r : Subscription} (ha : a = .removed r.id)
    (h : t.db = SubscriptionAdmin.removed r s.db) : Rows s a t := by
  have hds : t.db.deliveries.Sublist s.db.deliveries := h ▸ List.filter_sublist
  refine ⟨h ▸ le_refl _, fun hu _ => hu.sublist hds,
    fun d' hd' => .inr ⟨d', hds.subset hd', .refl d'⟩, fun d hd ho _ => ?_⟩
  by_cases hsub : d.subscription_id = r.id
  · exact .inl (hsub ▸ ha)
  · refine .inr ⟨d, .refl d, .inl ?_⟩
    rw [h]
    refine List.mem_filter.mpr ⟨hd, ?_⟩
    rw [Bool.and_eq_true, Bool.not_eq_true', List.any_eq_false]
    refine ⟨decide_eq_true hsub, fun e he hid => hsub ?_⟩
    obtain ⟨hmem, hes⟩ := List.mem_filter.mp he
    exact ((ho.deliveries d hd).2 e hmem (of_decide_eq_true hid)).symm.trans (of_decide_eq_true hes)

theorem recorded_rows {now : Timestamptz} {outcomes : List Outcome}
    (hr : s.run = some ⟨[], outcomes⟩) (ha : a = .recorded now)
    (h : t.db = (DeliverNotificationsUseCase.finished gis deliver now outcomes s.db).1) :
    Rows s a t := by
  have hrecord := @DeliverNotificationsUseCase.record_rows _ gis deliver now outcomes s.db
  have hdb : t.db = (DeliveryRepo.purge now deliver.retention
    (DeliverNotificationsUseCase.recorded gis deliver now outcomes s.db).1).1 := h
  have hfate : ∀ d d', Settling outcomes
      (PausedIn (DeliverNotificationsUseCase.recorded gis deliver now outcomes s.db).1) d d' →
      RowFate s a t d d' := by
    intro d d' hs
    cases hs with
    | kept same status message_id => exact .kept same status message_id
    | sent same status mem accepted message_id claimed =>
        exact .sent same status hr mem accepted message_id claimed
    | dropped same pending status mem refused owner now_paused =>
        refine .dropped same pending status (.inr ⟨now, _, _, ha, hr, mem, refused, owner, ?_⟩)
        rw [hdb]
        exact now_paused
  have hframe := @DeliverNotificationsUseCase.record_recorded _ gis deliver now outcomes s.db
  have hmem : ∀ d' ∈ t.db.deliveries, d' ∈
      (DeliverNotificationsUseCase.recorded gis deliver now outcomes s.db).1.deliveries :=
    fun d' hd' => DeliveryRepo.purge_mem (hdb ▸ hd')
  refine ⟨?_, fun hu _ => ?_, fun d' hd' => ?_, fun d hd _ _ => ?_⟩
  · rw [hdb]
    exact hframe.next_id.symm.le
  · rw [hdb]
    exact (hu.of_keys (forall₂_ids hrecord)).sublist
      (DeliveryRepo.purge_sublist now deliver.retention _)
  · obtain ⟨d, hd, hs⟩ := forall₂_left hrecord (hmem d' hd')
    exact .inr ⟨d, hd, hfate d d' hs⟩
  · obtain ⟨d', hd', hs⟩ := forall₂_right hrecord hd
    refine .inr ⟨d', hfate d d' hs, ?_⟩
    by_cases hp : d'.status = .pending
    · rw [hdb]
      exact .inl (DeliveryRepo.purge_pending hd' hp)
    · exact .inr hp

theorem fail_pending_fate {id : Nat} (ha : a = .paused id) (d : Delivery) : RowFate s a t d
    (if DeliveryRepo.is_pending_of id d = true then DeliveryRepo.dropped d else d) := by
  by_cases hp : DeliveryRepo.is_pending_of id d = true
  · rw [if_pos hp]
    obtain ⟨hsub, hst⟩ := Bool.and_eq_true_iff.mp hp
    exact .dropped ⟨rfl, rfl, rfl, rfl, rfl⟩ (by simpa using hst) rfl
      (.inl (of_decide_eq_true hsub ▸ ha))
  · rw [if_neg hp]
    exact .refl d

theorem get_ok {id : Nat} {db : NotificationsDb G} {r : Subscription}
    (h : SubscriptionAdmin.get id db = .ok r) : r ∈ db.subscriptions ∧ r.id = id := by
  unfold SubscriptionAdmin.get at h
  split at h
  · simp at h
  · next hf => exact Except.ok.inj h ▸ Table.find_some_mem hf

theorem pause_get {i : Nat} {db db' : NotificationsDb G} (h : SubscriptionAdmin.pause i db = .ok db') :
    ∃ r, SubscriptionAdmin.get i db = .ok r := by
  obtain ⟨r, hr, _⟩ := bind_ok.mp h
  exact ⟨r, hr⟩

theorem resume_get {i : Nat} {db db' : NotificationsDb G}
    (h : SubscriptionAdmin.resume i db = .ok db') : ∃ r, SubscriptionAdmin.get i db = .ok r := by
  obtain ⟨r, hr, _⟩ := bind_ok.mp h
  exact ⟨r, hr⟩

theorem pause_ok {id : Nat} {db db' : NotificationsDb G} (h : SubscriptionAdmin.pause id db = .ok db') :
    db' = DeliveryRepo.fail_pending id (SubscriptionAdmin.write id SubscriptionAdmin.paused db) := by
  simp only [SubscriptionAdmin.pause, bind, Except.bind] at h
  split at h
  · simp at h
  · exact (Except.ok.inj h).symm

theorem resume_ok {id : Nat} {db db' : NotificationsDb G}
    (h : SubscriptionAdmin.resume id db = .ok db') :
    db' = SubscriptionAdmin.write id SubscriptionAdmin.resumed db := by
  simp only [SubscriptionAdmin.resume, bind, Except.bind] at h
  split at h
  · simp at h
  · exact (Except.ok.inj h).symm

theorem remove_ok {id : Nat} {db db' : NotificationsDb G}
    (h : SubscriptionAdmin.remove id db = .ok db') :
    ∃ r, r.id = id ∧ db' = SubscriptionAdmin.removed r db := by
  simp only [SubscriptionAdmin.remove, bind, Except.bind] at h
  split at h
  · simp at h
  · next r hr => exact ⟨r, (get_ok hr).2, (Except.ok.inj h).symm⟩

theorem DeliverStep.rows (hs : DeliverStep gis settings deliver s a t) : Rows s a t := by
  cases a with
  | matched source batch_at now events =>
      obtain ⟨db, n, hx, rfl⟩ := hs
      exact grown_rows (MatchBatchUseCase.execute_grown hx)
  | claimed now =>
      obtain ⟨_, db, claims, hc, rfl⟩ := hs
      obtain ⟨hn, _, ⟨f, hf, hds⟩, _⟩ := DeliveryRepo.claim_spec hc
      exact .of_map hn.symm.le (fun d => .kept (hf d).1 (hf d).2.1 (hf d).2.2) hds
  | accepted message_id =>
      obtain ⟨c, run, _, rfl⟩ := hs
      exact .of_same (le_refl _) rfl
  | refused error =>
      obtain ⟨c, run, _, rfl⟩ := hs
      exact .of_same (le_refl _) rfl
  | deferred =>
      obtain ⟨c, run, _, _, rfl⟩ := hs
      exact .of_same (le_refl _) rfl
  | recorded now =>
      obtain ⟨outcomes, hr, _, rfl⟩ := hs.recorded_inv
      exact @recorded_rows _ gis deliver _ _ _ _ _ hr rfl rfl
  | crashed => exact hs ▸ .of_same (le_refl _) rfl
  | added area hazard_types severity_min channel endpoint credential =>
      exact hs ▸ .of_same (Nat.le_add_right _ 2) rfl
  | paused id =>
      obtain ⟨db, hp, rfl⟩ := hs
      obtain rfl := pause_ok hp
      exact .of_map (le_refl _) (fail_pending_fate rfl) rfl
  | resumed id =>
      obtain ⟨db, hp, rfl⟩ := hs
      obtain rfl := resume_ok hp
      exact .of_same (le_refl _) rfl
  | removed id =>
      obtain ⟨db, hp, rfl⟩ := hs
      obtain ⟨r, rfl, rfl⟩ := remove_ok hp
      exact removed_rows rfl rfl

theorem Owned.shrink {db db' : NotificationsDb G} (h : Owned db)
    (he : db'.episodes.Sublist db.episodes) (hn : db.next_id ≤ db'.next_id)
    (hd : ∀ d' ∈ db'.deliveries, ∃ d ∈ db.deliveries, SameDelivery d d') : Owned db' where
  unique := h.unique.sublist he
  fresh e hm := lt_of_lt_of_le (h.fresh e (he.subset hm)) hn
  deliveries d' hm := by
    obtain ⟨d, hdm, hs⟩ := hd d' hm
    obtain ⟨hlt, hb⟩ := h.deliveries d hdm
    rw [hs.subscription_id, hs.episode_id]
    exact ⟨lt_of_lt_of_le hlt hn, fun e hem => hb e (he.subset hem)⟩

structure DeliverInv (s : DeliverState G) : Prop where
  owned : Owned s.db
  unique : Table.Unique Delivery.id s.db.deliveries
  fresh : ∀ d ∈ s.db.deliveries, d.id < s.db.next_id
  subscriptions : Table.Unique Subscription.id s.db.subscriptions
  subscribers : ∀ r ∈ s.db.subscriptions, r.id < s.db.next_id
  sending : ∀ run, s.run = some run → ∀ o ∈ run.outcomes, ∀ id, o.message_id = some id →
    ⟨id, o.claim⟩ ∈ s.accepted
  sent : ∀ d ∈ s.db.deliveries, d.status = .sent →
    ∃ m ∈ s.accepted, d.id ∈ m.claim.delivery_ids ∧ d.message_id = some m.id

theorem DeliverInv.empty : DeliverInv (DeliverState.empty (G := G)) :=
  ⟨⟨List.nodup_nil, by simp [DeliverState.empty, NotificationsDb.empty],
      by simp [DeliverState.empty, NotificationsDb.empty]⟩,
    List.nodup_nil, by simp [DeliverState.empty, NotificationsDb.empty], List.nodup_nil,
    by simp [DeliverState.empty, NotificationsDb.empty], by simp [DeliverState.empty],
    by simp [DeliverState.empty, NotificationsDb.empty]⟩

theorem DeliverStep.owned (hs : DeliverStep gis settings deliver s a t) (h : Owned s.db) :
    Owned t.db := by
  have hself : ∀ d' ∈ s.db.deliveries, ∃ d ∈ s.db.deliveries, SameDelivery d d' :=
    fun d hd => ⟨d, hd, .refl d⟩
  cases a with
  | matched source batch_at now events =>
      obtain ⟨db, n, hx, rfl⟩ := hs
      exact MatchBatchUseCase.execute_owned h hx
  | claimed now =>
      obtain ⟨_, db, claims, hc, rfl⟩ := hs
      obtain ⟨hn, _, ⟨f, hf, hds⟩, _⟩ := DeliveryRepo.claim_spec hc
      refine h.shrink (DeliveryRepo.claim_episodes hc ▸ List.Sublist.refl _) hn.symm.le
        (fun d' hd' => ?_)
      rw [hds] at hd'
      obtain ⟨d, hd, rfl⟩ := List.mem_map.mp hd'
      exact ⟨d, hd, (hf d).1⟩
  | accepted message_id =>
      obtain ⟨c, run, _, rfl⟩ := hs
      exact h
  | refused error =>
      obtain ⟨c, run, _, rfl⟩ := hs
      exact h
  | deferred =>
      obtain ⟨c, run, _, _, rfl⟩ := hs
      exact h
  | recorded now =>
      obtain ⟨outcomes, hr, _, rfl⟩ := hs.recorded_inv
      have hframe := @DeliverNotificationsUseCase.record_recorded _ gis deliver now outcomes s.db
      refine h.shrink ?_ hframe.next_id.symm.le (fun d' hd' => ?_)
      · exact List.filter_sublist.trans (hframe.episodes ▸ List.Sublist.refl _)
      · obtain ⟨d, hd, hsettle⟩ := forall₂_left (@DeliverNotificationsUseCase.record_rows _ gis deliver
          now outcomes s.db) (DeliveryRepo.purge_mem hd')
        exact ⟨d, hd, hsettle.same⟩
  | crashed => exact hs ▸ h
  | added area hazard_types severity_min channel endpoint credential =>
      exact hs ▸ h.shrink (List.Sublist.refl _) (Nat.le_add_right _ 2) hself
  | paused id =>
      obtain ⟨db, hp, rfl⟩ := hs
      obtain rfl := pause_ok hp
      refine h.shrink (List.Sublist.refl _) (le_refl _) (fun d' hd' => ?_)
      obtain ⟨d, hd, rfl⟩ := List.mem_map.mp hd'
      exact ⟨d, hd, (fail_pending_fate (s := s) (t := s) (a := .paused id) rfl d).same⟩
  | resumed id =>
      obtain ⟨db, hp, rfl⟩ := hs
      obtain rfl := resume_ok hp
      exact h.shrink (List.Sublist.refl _) (le_refl _) hself
  | removed id =>
      obtain ⟨db, hp, rfl⟩ := hs
      obtain ⟨r, rfl, rfl⟩ := remove_ok hp
      exact h.shrink List.filter_sublist (le_refl _)
        (fun d hd => ⟨d, (List.mem_filter.mp hd).1, .refl d⟩)

theorem DeliverStep.subscriptions (hs : DeliverStep gis settings deliver s a t)
    (hu : Table.Unique Subscription.id s.db.subscriptions)
    (hf : ∀ r ∈ s.db.subscriptions, r.id < s.db.next_id) :
    Table.Unique Subscription.id t.db.subscriptions ∧
      ∀ r ∈ t.db.subscriptions, r.id < t.db.next_id := by
  have hids : ∀ db : NotificationsDb G, s.db.next_id ≤ db.next_id →
      db.subscriptions.map Subscription.id = s.db.subscriptions.map Subscription.id →
      Table.Unique Subscription.id db.subscriptions ∧ ∀ r ∈ db.subscriptions, r.id < db.next_id := by
    intro db hn heq
    refine ⟨hu.of_keys heq, fun r hr => lt_of_lt_of_le ?_ hn⟩
    have hm : r.id ∈ s.db.subscriptions.map Subscription.id := heq ▸ List.mem_map_of_mem hr
    obtain ⟨o, ho, hoid⟩ := List.mem_map.mp hm
    exact hoid ▸ hf o ho
  cases a with
  | matched source batch_at now events =>
      obtain ⟨db, n, hx, rfl⟩ := hs
      have hg := MatchBatchUseCase.execute_grown hx
      exact hids _ hg.next_id (congrArg _ hg.subscriptions)
  | claimed now =>
      obtain ⟨_, db, claims, hc, rfl⟩ := hs
      obtain ⟨hn, heq, _⟩ := DeliveryRepo.claim_spec hc
      exact hids _ hn.symm.le heq
  | accepted message_id =>
      obtain ⟨c, run, _, rfl⟩ := hs
      exact ⟨hu, hf⟩
  | refused error =>
      obtain ⟨c, run, _, rfl⟩ := hs
      exact ⟨hu, hf⟩
  | deferred =>
      obtain ⟨c, run, _, _, rfl⟩ := hs
      exact ⟨hu, hf⟩
  | recorded now =>
      obtain ⟨outcomes, hr, _, rfl⟩ := hs.recorded_inv
      have hframe := @DeliverNotificationsUseCase.record_recorded _ gis deliver now outcomes s.db
      exact hids _ hframe.next_id.symm.le hframe.ids
  | crashed => exact hs ▸ ⟨hu, hf⟩
  | added area hazard_types severity_min channel endpoint credential =>
      subst hs
      refine ⟨@Table.unique_concat _ _ _ Subscription.id _ _ hu (Table.find_none.mpr
        (fun r hr => (Nat.lt_succ_of_lt (hf r hr)).ne)), fun r hr => ?_⟩
      rcases List.mem_append.mp hr with hr | hr
      · exact lt_of_lt_of_le (hf r hr) (Nat.le_add_right _ 2)
      · rw [List.mem_singleton.mp hr]
        exact Nat.lt_succ_self _
  | paused id =>
      obtain ⟨db, hp, rfl⟩ := hs
      obtain rfl := pause_ok hp
      exact hids _ (le_refl _) (Table.keys_update (f := SubscriptionAdmin.paused) (fun _ _ => rfl) _)
  | resumed id =>
      obtain ⟨db, hp, rfl⟩ := hs
      obtain rfl := resume_ok hp
      exact hids _ (le_refl _) (Table.keys_update (f := SubscriptionAdmin.resumed) (fun _ _ => rfl) _)
  | removed id =>
      obtain ⟨db, hp, rfl⟩ := hs
      obtain ⟨r, rfl, rfl⟩ := remove_ok hp
      exact ⟨hu.sublist List.filter_sublist, fun o ho => hf o (List.mem_filter.mp ho).1⟩

theorem DeliverStep.sending (hs : DeliverStep gis settings deliver s a t)
    (h : ∀ run, s.run = some run → ∀ o ∈ run.outcomes, ∀ id, o.message_id = some id →
      ⟨id, o.claim⟩ ∈ s.accepted) :
    (∀ m ∈ s.accepted, m ∈ t.accepted) ∧ ∀ run, t.run = some run → ∀ o ∈ run.outcomes, ∀ id,
      o.message_id = some id → ⟨id, o.claim⟩ ∈ t.accepted := by
  have hattempt : ∀ {outcome : ClaimedSubscription → Outcome} {c run},
      s.Attempt outcome c run → (outcome c).message_id = none → ∀ o ∈ run.outcomes, ∀ id,
        o.message_id = some id → ⟨id, o.claim⟩ ∈ s.accepted := by
    rintro outcome c run ⟨rest, outcomes, hrun, rfl⟩ hnone o ho id hid
    rcases List.mem_append.mp ho with ho | ho
    · exact h _ hrun o ho id hid
    · rw [List.mem_singleton.mp ho, hnone] at hid
      simp at hid
  cases a with
  | claimed now =>
      obtain ⟨_, db, claims, hc, rfl⟩ := hs
      refine ⟨fun _ hm => hm, fun run hr o ho => ?_⟩
      obtain rfl := Option.some.inj hr
      simp at ho
  | accepted message_id =>
      obtain ⟨c, run, ⟨rest, outcomes, hrun, rfl⟩, rfl⟩ := hs
      refine ⟨fun _ hm => List.mem_append_left _ hm, fun run' hr o ho id hid => ?_⟩
      obtain rfl := Option.some.inj hr
      rcases List.mem_append.mp ho with ho | ho
      · exact List.mem_append_left _ (h _ hrun o ho id hid)
      · rw [List.mem_singleton.mp ho] at hid ⊢
        exact List.mem_append_right _ (by simpa using hid.symm)
  | refused error =>
      obtain ⟨c, run, hat, rfl⟩ := hs
      refine ⟨fun _ hm => hm, fun run' hr => ?_⟩
      obtain rfl := Option.some.inj hr
      exact hattempt hat rfl
  | deferred =>
      obtain ⟨c, run, hat, _, rfl⟩ := hs
      refine ⟨fun _ hm => hm, fun run' hr => ?_⟩
      obtain rfl := Option.some.inj hr
      exact hattempt hat rfl
  | recorded now =>
      obtain ⟨outcomes, hr, _, rfl⟩ := hs.recorded_inv
      exact ⟨fun _ hm => hm, by simp⟩
  | crashed => exact hs ▸ ⟨fun _ hm => hm, by simp⟩
  | matched source batch_at now events =>
      obtain ⟨db, n, hx, rfl⟩ := hs
      exact ⟨fun _ hm => hm, h⟩
  | added area hazard_types severity_min channel endpoint credential =>
      exact hs ▸ ⟨fun _ hm => hm, h⟩
  | paused id =>
      obtain ⟨db, hp, rfl⟩ := hs
      exact ⟨fun _ hm => hm, h⟩
  | resumed id =>
      obtain ⟨db, hp, rfl⟩ := hs
      exact ⟨fun _ hm => hm, h⟩
  | removed id =>
      obtain ⟨db, hp, rfl⟩ := hs
      exact ⟨fun _ hm => hm, h⟩

theorem DeliverStep.inv (hs : DeliverStep gis settings deliver s a t) (h : DeliverInv s) :
    DeliverInv t := by
  have hrows := hs.rows
  obtain ⟨hkept, hsending⟩ := hs.sending h.sending
  obtain ⟨hsubs, hsubf⟩ := hs.subscriptions h.subscriptions h.subscribers
  refine ⟨hs.owned h.owned, hrows.unique h.unique h.fresh, fun d hd => ?_, hsubs, hsubf, hsending,
    fun d' hd' hst => ?_⟩
  · rcases hrows.before d hd with hc | ⟨o, ho, hfate⟩
    · exact hc.bound
    · exact hfate.same.id ▸ lt_of_lt_of_le (h.fresh o ho) hrows.next_id
  · rcases hrows.before d' hd' with hc | ⟨d, hd, hfate⟩
    · simp [hc.pending] at hst
    · cases hfate with
      | kept same status message_id =>
          obtain ⟨m, hm, hid, hmid⟩ := h.sent d hd (status.symm.trans hst)
          exact ⟨m, hkept m hm, same.id ▸ hid, message_id.trans hmid⟩
      | @sent same status run o recording mem accepted message_id claimed =>
          obtain ⟨id, hid⟩ := Option.ne_none_iff_exists'.mp accepted.2
          exact ⟨_, hkept _ (h.sending run recording o mem id hid), same.id ▸ claimed,
            message_id.trans hid⟩
      | dropped same pending status => simp [status] at hst

end GeoHazard

import GeoHazard.Notifications.DeliverRuns
import GeoHazard.Notifications.ReferenceGis

namespace GeoHazard
open Transition

variable {G : Type} {gis : Gis G} {settings : MatchSettings} {deliver : DeliverSettings}
  {s t : DeliverState G} {a : DeliverAction G}

-- no run dies with a message accepted and not recorded
def Uninterrupted (s : DeliverState G) (a : DeliverAction G) : Prop :=
  a = .crashed → ∀ run, s.run = some run → ∀ o ∈ run.outcomes, ¬ o.sent

def Apart (c c' : ClaimedSubscription) : Prop := ∀ id ∈ c.delivery_ids, id ∉ c'.delivery_ids

structure ClaimsOk (s : DeliverState G) (claims : List ClaimedSubscription) : Prop where
  apart : claims.Pairwise Apart
  bounded : ∀ c ∈ claims, ∀ id ∈ c.delivery_ids, id < s.db.next_id
  unsent : ∀ c ∈ claims, ∀ m ∈ s.accepted, Apart m.claim c

structure OnceInv (s : DeliverState G) : Prop where
  bounded : ∀ m ∈ s.accepted, ∀ id ∈ m.claim.delivery_ids, id < s.db.next_id
  once : s.accepted.Pairwise (fun m m' => Apart m.claim m'.claim)
  settled : ∀ d ∈ s.db.deliveries, d.status = .pending → ∀ m ∈ s.accepted,
    d.id ∈ m.claim.delivery_ids → ∃ run, s.run = some run ∧
      ∃ o ∈ run.outcomes, o.claim = m.claim ∧ o.sent
  claims : ∀ run, s.run = some run → ClaimsOk s run.claims

theorem OnceInv.empty : OnceInv (DeliverState.empty (G := G)) :=
  ⟨by simp [DeliverState.empty], List.Pairwise.nil, by simp [DeliverState.empty],
    by simp [DeliverState.empty]⟩

theorem Rows.pending (h : Rows s a t) (ho : OnceInv s) {d' : Delivery} (hd : d' ∈ t.db.deliveries)
    (hp : d'.status = .pending) {m : Message} (hm : m ∈ s.accepted)
    (hid : d'.id ∈ m.claim.delivery_ids) :
    ∃ d ∈ s.db.deliveries, d.status = .pending ∧ d.id = d'.id := by
  rcases h.before d' hd with hc | ⟨d, hdm, hfate⟩
  · exact absurd (ho.bounded m hm _ hid) (not_lt.mpr hc.next_id)
  · cases hfate with
    | kept same status => exact ⟨d, hdm, status.symm.trans hp, same.id.symm⟩
    | sent _ status => simp [status] at hp
    | dropped _ _ status => simp [status] at hp

theorem OnceInv.frame (h : OnceInv s) (hr : Rows s a t) (hrun : t.run = s.run)
    (hacc : t.accepted = s.accepted) : OnceInv t where
  bounded m hm id hid := lt_of_lt_of_le (h.bounded m (hacc ▸ hm) id hid) hr.next_id
  once := hacc ▸ h.once
  settled d hd hp m hm hid := by
    obtain ⟨o, ho, hop, hoid⟩ := hr.pending h hd hp (hacc ▸ hm) hid
    rw [hrun]
    exact h.settled o ho hop m (hacc ▸ hm) (hoid ▸ hid)
  claims run hr' := by
    have hc := h.claims run (hrun ▸ hr')
    exact ⟨hc.apart, fun c hcm id hid => lt_of_lt_of_le (hc.bounded c hcm id hid) hr.next_id,
      fun c hcm m hm => hc.unsent c hcm m (hacc ▸ hm)⟩

theorem OnceInv.claimed {now : Timestamptz} {db : NotificationsDb G}
    {claims : List ClaimedSubscription} (h : OnceInv s) (hi : DeliverInv s) (hnone : s.run = none)
    (hc : DeliverNotificationsUseCase.claim deliver now s.db = .ok (db, claims)) :
    OnceInv { s with db := db, run := some ⟨claims, []⟩ } := by
  obtain ⟨hn, _, ⟨f, hf, hds⟩, _, hof⟩ := DeliveryRepo.claim_spec hc
  have hfree : ∀ d ∈ s.db.deliveries, d.status = .pending → ∀ m ∈ s.accepted,
      d.id ∉ m.claim.delivery_ids := by
    intro d hd hp m hm hid
    obtain ⟨run, hrun, _⟩ := h.settled d hd hp m hm hid
    simp [hnone] at hrun
  have hnodup := DeliveryRepo.claim_nodup hc hi.subscriptions
  refine ⟨fun m hm id hid => hn ▸ h.bounded m hm id hid, h.once, fun d' hd' hp m hm hid => ?_,
    fun run hr => ?_⟩
  · have hd'' : d' ∈ s.db.deliveries.map f := hds ▸ hd'
    obtain ⟨d, hd, rfl⟩ := List.mem_map.mp hd''
    rw [(hf d).1.id] at hid
    exact absurd hid (hfree d hd ((hf d).2.1.symm.trans hp) m hm)
  · obtain rfl := Option.some.inj hr
    refine ⟨?_, fun c hcm id hid => ?_, fun c hcm m hm id hid hic => ?_⟩
    · refine (List.pairwise_map.mp hnodup).imp_of_mem (fun {c c'} hcm hcm' hne id hid hid' => hne ?_)
      obtain ⟨d, hd, hdid, _, hsub⟩ := hof c hcm id hid
      obtain ⟨d', hd', hdid', _, hsub'⟩ := hof c' hcm' id hid'
      obtain rfl := Table.unique_eq hi.unique hd hd' (hdid.trans hdid'.symm)
      exact hsub.symm.trans hsub'
    · obtain ⟨d, hd, rfl, _, _⟩ := hof c hcm id hid
      exact hn ▸ hi.fresh d hd
    · obtain ⟨d, hd, rfl, hp, _⟩ := hof c hcm id hic
      exact hfree d hd hp m hm hid

theorem OnceInv.attempt {outcome : ClaimedSubscription → Outcome} {c : ClaimedSubscription}
    {run : DeliverRun} (h : OnceInv s) (hat : s.Attempt outcome c run) :
    OnceInv { s with run := some run } := by
  obtain ⟨rest, outcomes, hrun, rfl⟩ := hat
  have hc := h.claims _ hrun
  refine ⟨h.bounded, h.once, fun d hd hp m hm hid => ?_, fun run' hr => ?_⟩
  · obtain ⟨run, hrun', o, ho, heq, hsent⟩ := h.settled d hd hp m hm hid
    obtain rfl := Option.some.inj (hrun.symm.trans hrun')
    exact ⟨_, rfl, o, List.mem_append_left _ ho, heq, hsent⟩
  · obtain rfl := Option.some.inj hr
    exact ⟨hc.apart.of_cons, fun c hcm => hc.bounded c (List.mem_cons_of_mem _ hcm),
      fun c hcm => hc.unsent c (List.mem_cons_of_mem _ hcm)⟩

theorem OnceInv.accepted {message_id : Nat} {c : ClaimedSubscription} {run : DeliverRun}
    (h : OnceInv s) (hat : s.Attempt (fun c => ⟨c, some message_id, none, false⟩) c run) :
    OnceInv { s with run := some run, accepted := s.accepted ++ [⟨message_id, c⟩] } := by
  have hk := h.attempt hat
  obtain ⟨rest, outcomes, hrun, rfl⟩ := hat
  have hc := h.claims _ hrun
  refine ⟨fun m hm id hid => ?_, ?_, fun d hd hp m hm hid => ?_, fun run' hr => ?_⟩
  · rcases List.mem_append.mp hm with hm | hm
    · exact h.bounded m hm id hid
    · rw [List.mem_singleton.mp hm] at hid
      exact hc.bounded c (by simp) id hid
  · refine List.pairwise_append.mpr ⟨h.once, by simp, fun m hm m' hm' => ?_⟩
    rw [List.mem_singleton.mp hm']
    exact hc.unsent c (by simp) m hm
  · rcases List.mem_append.mp hm with hm | hm
    · exact hk.settled d hd hp m hm hid
    · refine ⟨_, rfl, _, List.mem_append_right _ (List.mem_singleton.mpr rfl), ?_, rfl, by simp⟩
      rw [List.mem_singleton.mp hm]
  · obtain rfl := Option.some.inj hr
    have hrest := hk.claims _ rfl
    refine ⟨hrest.apart, hrest.bounded, fun c' hcm m hm => ?_⟩
    rcases List.mem_append.mp hm with hm | hm
    · exact hrest.unsent c' hcm m hm
    · rw [List.mem_singleton.mp hm]
      exact List.rel_of_pairwise_cons hc.apart hcm

theorem OnceInv.recorded {now : Timestamptz} {outcomes : List Outcome} (h : OnceInv s)
    (hrun : s.run = some ⟨[], outcomes⟩) (hr : Rows s a { s with
      db := (DeliverNotificationsUseCase.finished gis deliver now outcomes s.db).1, run := none }) :
    OnceInv { s with
      db := (DeliverNotificationsUseCase.finished gis deliver now outcomes s.db).1, run := none } := by
  refine ⟨fun m hm id hid => lt_of_lt_of_le (h.bounded m hm id hid) hr.next_id, h.once,
    fun d' hd' hp m hm hid => ?_, by simp⟩
  obtain ⟨d, hd, hdp, hdid⟩ := hr.pending h hd' hp hm hid
  obtain ⟨run, hrun', o, ho, heq, hsent⟩ := h.settled d hd hdp m hm (hdid ▸ hid)
  obtain rfl := Option.some.inj (hrun.symm.trans hrun')
  have hst := @DeliverNotificationsUseCase.record_sent _ gis deliver now _ _ ho hsent
    s.db _ (DeliveryRepo.purge_mem hd') (heq ▸ hid)
  simp [hst] at hp

theorem OnceInv.crashed (h : OnceInv s)
    (hu : ∀ run, s.run = some run → ∀ o ∈ run.outcomes, ¬ o.sent) :
    OnceInv { s with run := none } := by
  refine ⟨h.bounded, h.once, fun d hd hp m hm hid => ?_, by simp⟩
  obtain ⟨run, hrun, o, ho, _, hsent⟩ := h.settled d hd hp m hm hid
  exact absurd hsent (hu run hrun o ho)

theorem DeliverStep.once (hs : DeliverStep gis settings deliver s a t) (hi : DeliverInv s)
    (hu : Uninterrupted s a) (h : OnceInv s) : OnceInv t := by
  have hrows := hs.rows
  cases a with
  | matched source batch_at now events =>
      obtain ⟨db, n, hx, rfl⟩ := hs
      exact h.frame hrows rfl rfl
  | claimed now =>
      obtain ⟨hnone, db, claims, hc, rfl⟩ := hs
      exact h.claimed hi hnone hc
  | accepted message_id =>
      obtain ⟨c, run, hat, rfl⟩ := hs
      exact h.accepted hat
  | refused error =>
      obtain ⟨c, run, hat, rfl⟩ := hs
      exact h.attempt hat
  | deferred =>
      obtain ⟨c, run, hat, _, rfl⟩ := hs
      exact h.attempt hat
  | recorded now =>
      obtain ⟨outcomes, hrun, _, rfl⟩ := hs.recorded_inv
      exact h.recorded hrun hrows
  | crashed => exact hs ▸ h.crashed (hu rfl)
  | added area hazard_types severity_min channel endpoint credential =>
      subst hs
      exact h.frame hrows rfl rfl
  | paused id =>
      obtain ⟨db, hp, rfl⟩ := hs
      exact h.frame hrows rfl rfl
  | resumed id =>
      obtain ⟨db, hp, rfl⟩ := hs
      exact h.frame hrows rfl rfl
  | removed id =>
      obtain ⟨db, hp, rfl⟩ := hs
      exact h.frame hrows rfl rfl

inductive Moves : DeliveryStatus → DeliveryStatus → Prop
  | stays (status : DeliveryStatus) : Moves status status
  | sent : Moves .pending .sent
  | failed : Moves .pending .failed
  | sent_late : Moves .failed .sent

theorem Moves.trans {x y z : DeliveryStatus} (h : Moves x y) (k : Moves y z) : Moves x z := by
  cases h with
  | stays => exact k
  | sent => cases k with | stays => exact .sent
  | failed =>
      cases k with
      | stays => exact .failed
      | sent_late => exact .sent
  | sent_late => cases k with | stays => exact .sent_late

theorem Moves.of_sent (x : DeliveryStatus) : Moves x .sent := by
  cases x with
  | pending => exact .sent
  | sent => exact .stays _
  | failed => exact .sent_late

theorem RowFate.moves {d d' : Delivery} (h : RowFate s a t d d') : Moves d.status d'.status := by
  cases h with
  | kept _ status => exact status ▸ .stays _
  | sent _ status => exact status ▸ .of_sent _
  | dropped _ pending status =>
      rw [pending, status]
      exact .failed

theorem DeliverRuns.inv {as : List (DeliverAction G)}
    (hr : Run (DeliverStep gis settings deliver) DeliverState.empty as s) : DeliverInv s :=
  hr.invariant (I := DeliverInv) (fun _ _ _ h hs => hs.inv h) .empty

theorem moves_of_run {bs : List (DeliverAction G)}
    (hr : Run (DeliverStep gis settings deliver) s bs t) :
    s.db.next_id ≤ t.db.next_id ∧ ∀ d' ∈ t.db.deliveries, d'.id < s.db.next_id →
      ∃ d ∈ s.db.deliveries, d.id = d'.id ∧ Moves d.status d'.status := by
  induction hr with
  | nil => exact ⟨le_refl _, fun d hd _ => ⟨d, hd, rfl, .stays _⟩⟩
  | snoc hr hs ih =>
      have hrows := hs.rows
      refine ⟨le_trans ih.1 hrows.next_id, fun d'' hd'' hlt => ?_⟩
      rcases hrows.before d'' hd'' with hc | ⟨d', hd', hfate⟩
      · exact absurd hlt (not_lt.mpr (le_trans ih.1 hc.next_id))
      · obtain ⟨d, hd, hid, hmoves⟩ := ih.2 d' hd' (hfate.same.id ▸ hlt)
        exact ⟨d, hd, hid.trans hfate.same.id.symm, hmoves.trans hfate.moves⟩

-- a pause of the delivery's subscription at a moment when the delivery was pending
def PausedWhilePending (gis : Gis G) (settings : MatchSettings) (deliver : DeliverSettings)
    (as : List (DeliverAction G)) (s : DeliverState G) (d : Delivery) : Prop :=
  ∃ before a after u v, as = before ++ a :: after ∧
    Run (DeliverStep gis settings deliver) DeliverState.empty before u ∧
    DeliverStep gis settings deliver u a v ∧ Run (DeliverStep gis settings deliver) v after s ∧
    (∃ o ∈ u.db.deliveries, o.id = d.id ∧ o.status = .pending) ∧ Pauses u a v d.subscription_id

theorem failed_paused {as : List (DeliverAction G)}
    (hr : Run (DeliverStep gis settings deliver) DeliverState.empty as s) :
    ∀ d ∈ s.db.deliveries, d.status = .failed → PausedWhilePending gis settings deliver as s d := by
  induction hr with
  | nil => simp [DeliverState.empty, NotificationsDb.empty]
  | @snoc s t as a hr hs ih =>
      intro d' hd' hst
      rcases hs.rows.before d' hd' with hc | ⟨d, hd, hfate⟩
      · simp [hc.pending] at hst
      · have hsame := hfate.same
        cases hfate with
        | kept same status =>
            obtain ⟨before, b, after, u, v, rfl, hu, huv, hv, ⟨o, ho, hoid, hop⟩, hp⟩ :=
              ih d hd (status.symm.trans hst)
            exact ⟨before, b, after ++ [a], u, v, by simp, hu, huv, .snoc hv hs,
              ⟨o, ho, hoid.trans same.id.symm, hop⟩, same.subscription_id ▸ hp⟩
        | sent _ status => simp [status] at hst
        | dropped same pending _ pauses =>
            exact ⟨as, a, [], s, t, rfl, hr, hs, .nil t, ⟨d, hd, same.id.symm, pending⟩,
              same.subscription_id ▸ pauses⟩

theorem dropped_row (hi : DeliverInv s) (hs : DeliverStep gis settings deliver s a t)
    {d : Delivery} (hd : d ∈ s.db.deliveries) (hp : d.status = .pending)
    (hgone : ∀ d' ∈ t.db.deliveries, d'.id ≠ d.id) :
    a = .removed d.subscription_id ∨ Pauses s a t d.subscription_id ∨
      ∃ m ∈ s.accepted, d.id ∈ m.claim.delivery_ids := by
  rcases hs.rows.after d hd hi.owned hp with hremoved | ⟨d', hfate, hd'⟩
  · exact .inl hremoved
  · have hst : d'.status ≠ .pending := hd'.resolve_left (fun hm => hgone d' hm hfate.same.id)
    cases hfate with
    | kept _ status => exact absurd (status.trans hp) hst
    | @sent _ _ run o recording mem accepted _ claimed =>
        obtain ⟨id, hid⟩ := Option.ne_none_iff_exists'.mp accepted.2
        exact .inr (.inr ⟨_, hi.sending run recording o mem id hid, claimed⟩)
    | dropped _ _ _ pauses => exact .inr (.inl pauses)

theorem once_length {accepted : List Message}
    (h : accepted.Pairwise (fun m m' => Apart m.claim m'.claim)) (id : Nat) :
    (accepted.filter (fun m => decide (id ∈ m.claim.delivery_ids))).length ≤ 1 := by
  have hp := h.sublist (List.filter_sublist (p := fun m => decide (id ∈ m.claim.delivery_ids)))
  cases hl : accepted.filter (fun m => decide (id ∈ m.claim.delivery_ids)) with
  | nil => simp
  | cons m rest =>
      cases rest with
      | nil => simp
      | cons m' rest =>
          have hm : ∀ x ∈ m :: m' :: rest, id ∈ x.claim.delivery_ids := by
            intro x hx
            rw [← hl] at hx
            exact of_decide_eq_true (List.mem_filter.mp hx).2
          rw [hl] at hp
          exact absurd (hm m' (by simp))
            (List.rel_of_pairwise_cons hp (by simp) id (hm m (by simp)))

structure LifeCycle (gis : Gis G) (settings : MatchSettings) (deliver : DeliverSettings)
    (as : List (DeliverAction G)) (s : DeliverState G) : Prop where
  moves : ∀ bs t, Run (DeliverStep gis settings deliver) s bs t → ∀ d ∈ s.db.deliveries,
    ∀ d' ∈ t.db.deliveries, d'.id = d.id → Moves d.status d'.status
  sent : ∀ d ∈ s.db.deliveries, d.status = .sent →
    ∃ m ∈ s.accepted, d.id ∈ m.claim.delivery_ids ∧ d.message_id = some m.id
  failed : ∀ d ∈ s.db.deliveries, d.status = .failed →
    PausedWhilePending gis settings deliver as s d
  dropped : ∀ a t, DeliverStep gis settings deliver s a t → ∀ d ∈ s.db.deliveries,
    d.status = .pending → (∀ d' ∈ t.db.deliveries, d'.id ≠ d.id) →
    a = .removed d.subscription_id ∨ Pauses s a t d.subscription_id ∨
      ∃ m ∈ s.accepted, d.id ∈ m.claim.delivery_ids
  once : Run (Guarded Uninterrupted (DeliverStep gis settings deliver)) DeliverState.empty as s →
    ∀ id, (s.accepted.filter (fun m => decide (id ∈ m.claim.delivery_ids))).length ≤ 1

theorem delivery_life_cycle {as : List (DeliverAction G)}
    (hr : Run (DeliverStep gis settings deliver) DeliverState.empty as s) :
    LifeCycle gis settings deliver as s where
  moves bs t hbs d hd d' hd' hid := by
    have hi := DeliverRuns.inv hr
    obtain ⟨o, ho, hoid, hmoves⟩ := (moves_of_run hbs).2 d' hd' (hid ▸ hi.fresh d hd)
    obtain rfl := Table.unique_eq hi.unique ho hd (hoid.trans hid)
    exact hmoves
  sent := (DeliverRuns.inv hr).sent
  failed := failed_paused hr
  dropped a t hs d hd hp hgone := dropped_row (DeliverRuns.inv hr) hs hd hp hgone
  once hu := by
    have hboth := hu.invariant (I := fun s => DeliverInv s ∧ OnceInv s)
      (fun _ _ _ h hs => ⟨hs.2.inv h.1, hs.2.once h.1 hs.1 h.2⟩) ⟨.empty, .empty⟩
    exact once_length hboth.2.once

def default_deliver : DeliverSettings := ⟨600000000, 86400000000, 7776000000000⟩

def DeliverState.claimed (now : Timestamptz) (s : DeliverState Ring) : DeliverState Ring :=
  match DeliverNotificationsUseCase.claim default_deliver now s.db with
  | .ok (db, claims) => { s with db := db, run := some ⟨claims, []⟩ }
  | .error _ => s

theorem claimed_step {now : Timestamptz} {s : DeliverState Ring} (hrun : s.run = none)
    (h : (DeliverNotificationsUseCase.claim default_deliver now s.db).isOk = true) :
    DeliverStep planar_gis default_settings default_deliver s (.claimed now) (s.claimed now) := by
  unfold DeliverState.claimed
  cases hc : DeliverNotificationsUseCase.claim default_deliver now s.db with
  | error e => simp [hc, Except.isOk, Except.toBool] at h
  | ok r => exact ⟨hrun, r.1, r.2, hc, rfl⟩

def enrolled : NotificationsDb Ring :=
  SubscriptionAdmin.add watched_area [.weather_warning] severity_one .ntfy "https://ntfy.sh"
    "topic" NotificationsDb.empty

def waiting : DeliverState Ring :=
  ⟨enrolled.matched .aemet (july 2 11).instant (july 2 12).instant alerted.hazard_events, none, []⟩

def to_waiting : List (DeliverAction Ring) :=
  [.added watched_area [.weather_warning] severity_one .ntfy "https://ntfy.sh" "topic",
    .matched .aemet (july 2 11).instant (july 2 12).instant alerted.hazard_events]

theorem waiting_run :
    Run (DeliverStep planar_gis default_settings default_deliver) .empty to_waiting waiting := by
  obtain ⟨n, hn⟩ := @MatchStep.after .aemet (july 2 11).instant (july 2 12).instant
    alerted.hazard_events enrolled (by decide +kernel)
  have hadd : DeliverStep planar_gis default_settings default_deliver .empty
      (.added watched_area [.weather_warning] severity_one .ntfy "https://ntfy.sh" "topic")
      ⟨enrolled, none, []⟩ := rfl
  exact .cons hadd (.one ⟨_, n, hn, rfl⟩)

theorem waiting_claimed : DeliverStep planar_gis default_settings default_deliver waiting
    (.claimed (july 2 12).instant) (waiting.claimed (july 2 12).instant) :=
  claimed_step rfl (by decide +kernel)

theorem delivery_life_cycle_claimed :
    LifeCycle planar_gis default_settings default_deliver
      (to_waiting ++ [.claimed (july 2 12).instant]) (waiting.claimed (july 2 12).instant) :=
  delivery_life_cycle (.snoc waiting_run waiting_claimed)

-- removing the subscription takes its pending delivery along
theorem removed_drops_pending :
    ¬ ∀ (as : List (DeliverAction Ring)) (s t : DeliverState Ring) (a : DeliverAction Ring),
      Run (DeliverStep planar_gis default_settings default_deliver) .empty as s →
      DeliverStep planar_gis default_settings default_deliver s a t →
      ∀ d ∈ s.db.deliveries, d.status = .pending → (∀ d' ∈ t.db.deliveries, d'.id ≠ d.id) →
      Pauses s a t d.subscription_id ∨ ∃ m ∈ s.accepted, d.id ∈ m.claim.delivery_ids := by
  intro hall
  have hone : waiting.db.deliveries.map Delivery.status = [.pending] := by decide +kernel
  have hempty : (SubscriptionAdmin.remove 1 waiting.db).map (fun db => db.deliveries.length) =
      .ok 0 := by decide +kernel
  cases hr : SubscriptionAdmin.remove 1 waiting.db with
  | error error => simp [hr, Except.map] at hempty
  | ok db =>
      simp only [hr, Except.map, Except.ok.injEq, List.length_eq_zero_iff] at hempty
      obtain ⟨d, hd, hst⟩ : ∃ d ∈ waiting.db.deliveries, d.status = .pending :=
        List.mem_map.mp (hone ▸ List.mem_singleton.mpr rfl)
      have hgone : ∀ d' ∈ (waiting.write db).db.deliveries, d'.id ≠ d.id := by
        simp [DeliverState.write, hempty]
      have hstep : DeliverStep planar_gis default_settings default_deliver waiting (.removed 1)
          (waiting.write db) := ⟨db, hr, rfl⟩
      rcases hall _ _ _ _ waiting_run hstep d hd hst hgone with hp | ⟨m, hm, _⟩
      · rcases hp with hp | ⟨now, run, o, hp, _⟩
        · simp at hp
        · simp at hp
      · simp [waiting] at hm

end GeoHazard

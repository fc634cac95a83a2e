import GeoHazard.Notifications.Deliver
import GeoHazard.Notifications.MatchRuns
import Mathlib.Data.List.Forall2

namespace GeoHazard

variable {G : Type} {gis : Gis G} {settings : DeliverSettings}

def Outcome.sent (o : Outcome) : Prop := o.skipped = false ∧ o.message_id ≠ none

def Outcome.failed (o : Outcome) : Prop := o.skipped = false ∧ o.message_id = none

def PausedIn (db : NotificationsDb G) (subscription_id : Nat) : Prop :=
  ∀ s ∈ db.subscriptions, s.id = subscription_id → s.status = .paused

theorem SameDelivery.refl (d : Delivery) : SameDelivery d d := ⟨rfl, rfl, rfl, rfl, rfl⟩

theorem SameDelivery.trans {a b c : Delivery} (h : SameDelivery a b) (k : SameDelivery b c) :
    SameDelivery a c :=
  ⟨k.id.trans h.id, k.subscription_id.trans h.subscription_id, k.episode_id.trans h.episode_id,
    k.severity.trans h.severity, k.reason.trans h.reason⟩

-- what recording the outcomes does to one delivery
inductive Settling (outcomes : List Outcome) (paused : Nat → Prop) (d d' : Delivery) : Prop
  | kept (same : SameDelivery d d') (status : d'.status = d.status)
      (message_id : d'.message_id = d.message_id)
  | sent (same : SameDelivery d d') (status : d'.status = .sent) {o : Outcome} (mem : o ∈ outcomes)
      (accepted : o.sent) (message_id : d'.message_id = o.message_id)
      (claimed : d.id ∈ o.claim.delivery_ids)
  | dropped (same : SameDelivery d d') (pending : d.status = .pending) (status : d'.status = .failed)
      {o : Outcome} (mem : o ∈ outcomes) (refused : o.failed)
      (owner : o.claim.id = d.subscription_id) (now_paused : paused d.subscription_id)

variable {outcomes : List Outcome} {paused paused' : Nat → Prop}

theorem Settling.refl (d : Delivery) : Settling outcomes paused d d := .kept (.refl d) rfl rfl

theorem Settling.same {d d' : Delivery} (h : Settling outcomes paused d d') : SameDelivery d d' := by
  cases h with
  | kept same => exact same
  | sent same => exact same
  | dropped same => exact same

theorem Settling.mono {more : List Outcome} {d d' : Delivery} (h : Settling outcomes paused d d')
    (hsub : ∀ o ∈ outcomes, o ∈ more) (hp : ∀ id, paused id → paused' id) :
    Settling more paused' d d' := by
  cases h with
  | kept same status message_id => exact .kept same status message_id
  | sent same status mem accepted message_id claimed =>
      exact .sent same status (hsub _ mem) accepted message_id claimed
  | dropped same pending status mem refused owner now_paused =>
      exact .dropped same pending status (hsub _ mem) refused owner (hp _ now_paused)

theorem Settling.trans {a b c : Delivery} (h : Settling outcomes paused a b)
    (k : Settling outcomes paused b c) : Settling outcomes paused a c := by
  have hab := h.same
  cases k with
  | kept same status message_id =>
      cases h with
      | kept same' status' message_id' =>
          exact .kept (same'.trans same) (status.trans status') (message_id.trans message_id')
      | sent same' status' mem accepted message_id' claimed =>
          exact .sent (same'.trans same) (status.trans status') mem accepted
            (message_id.trans message_id') claimed
      | dropped same' pending status' mem refused owner now_paused =>
          exact .dropped (same'.trans same) pending (status.trans status') mem refused owner now_paused
  | sent same status mem accepted message_id claimed =>
      exact .sent (hab.trans same) status mem accepted message_id (hab.id ▸ claimed)
  | dropped same pending status mem refused owner now_paused =>
      rw [hab.subscription_id] at owner now_paused
      cases h with
      | kept same' status' message_id' =>
          exact .dropped (same'.trans same) (status'.symm.trans pending) status mem refused owner
            now_paused
      | sent same' status' => simp [status'] at pending
      | dropped same' pending' status' => simp [status'] at pending

theorem Settling.still_sent {d d' : Delivery} (h : Settling outcomes paused d d')
    (hd : d.status = .sent) : d'.status = .sent := by
  cases h with
  | kept _ status => exact status.trans hd
  | sent _ status => exact status
  | dropped _ pending => simp [hd] at pending

theorem forall₂_map {R : Delivery → Delivery → Prop} {f : Delivery → Delivery}
    (h : ∀ d, R d (f d)) (ds : List Delivery) : List.Forall₂ R ds (ds.map f) := by
  induction ds with
  | nil => exact .nil
  | cons d ds ih => exact .cons (h d) ih

theorem forall₂_left {R : Delivery → Delivery → Prop} {xs ys : List Delivery}
    (h : List.Forall₂ R xs ys) {y : Delivery} (hy : y ∈ ys) : ∃ x ∈ xs, R x y := by
  induction h with
  | nil => simp at hy
  | @cons a b xs ys hab _ ih =>
      rcases List.mem_cons.mp hy with rfl | hy
      · exact ⟨a, by simp, hab⟩
      · obtain ⟨x, hx, hR⟩ := ih hy
        exact ⟨x, List.mem_cons_of_mem _ hx, hR⟩

theorem forall₂_right {R : Delivery → Delivery → Prop} {xs ys : List Delivery}
    (h : List.Forall₂ R xs ys) {x : Delivery} (hx : x ∈ xs) : ∃ y ∈ ys, R x y := by
  induction h with
  | nil => simp at hx
  | @cons a b xs ys hab _ ih =>
      rcases List.mem_cons.mp hx with rfl | hx
      · exact ⟨b, by simp, hab⟩
      · obtain ⟨y, hy, hR⟩ := ih hx
        exact ⟨y, List.mem_cons_of_mem _ hy, hR⟩

theorem forall₂_ids {xs ys : List Delivery} (h : List.Forall₂ (Settling outcomes paused) xs ys) :
    ys.map Delivery.id = xs.map Delivery.id := by
  induction h with
  | nil => rfl
  | cons hab _ ih => simp only [List.map_cons, hab.same.id, ih]

theorem forall₂_trans {R : Delivery → Delivery → Prop} (hR : ∀ a b c, R a b → R b c → R a c)
    {xs ys zs : List Delivery} (h : List.Forall₂ R xs ys) (k : List.Forall₂ R ys zs) :
    List.Forall₂ R xs zs := by
  induction h generalizing zs with
  | nil => exact k
  | cons hab _ ih =>
      cases k with
      | cons hbc hrest => exact .cons (hR _ _ _ hab hbc) (ih hrest)

theorem PausedIn.update {db : NotificationsDb G} {id subscription_id : Nat}
    {f : Subscription → Subscription} (hf : ∀ s, (f s).id = s.id)
    (hs : ∀ s, s.status = .paused → (f s).status = .paused) (h : PausedIn db id) :
    ∀ s ∈ Table.update (fun s => decide (s.id = subscription_id)) f db.subscriptions,
      s.id = id → s.status = .paused := by
  intro s hm hid
  obtain ⟨o, ho, rfl⟩ := Table.mem_update.mp hm
  by_cases hp : o.id = subscription_id
  · simp only [hp, decide_true, if_true] at hid ⊢
    exact hs o (h o ho ((hf o).symm.trans hid))
  · simp only [hp, decide_false, Bool.false_eq_true, if_false] at hid ⊢
    exact h o ho hid

namespace DeliveryRepo

theorem mark_failed_spec (subscription_id : Nat) (error : String) (now : Timestamptz)
    (pause_after : Nat) (db : NotificationsDb G) :
    (mark_failed gis subscription_id error now pause_after db).1.deliveries = db.deliveries ∨
    ((mark_failed gis subscription_id error now pause_after db).1.deliveries =
        (fail_pending subscription_id db).deliveries ∧
      PausedIn (mark_failed gis subscription_id error now pause_after db).1 subscription_id) := by
  unfold mark_failed
  split
  · exact .inl rfl
  · split
    · refine .inr ⟨rfl, fun s hs hid => ?_⟩
      obtain ⟨o, ho, rfl⟩ := Table.mem_update.mp hs
      by_cases hoid : o.id = subscription_id
      · simp [hoid, given_up]
      · simp [hoid] at hid
    · exact .inl rfl

theorem purge_sublist (now : Timestamptz) (retention : Nat) (db : NotificationsDb G) :
    (purge now retention db).1.deliveries.Sublist db.deliveries :=
  List.filter_sublist.trans List.filter_sublist

theorem purge_mem {now : Timestamptz} {retention : Nat} {db : NotificationsDb G} {d : Delivery}
    (h : d ∈ (purge now retention db).1.deliveries) : d ∈ db.deliveries :=
  (purge_sublist now retention db).subset h

theorem purge_pending {now : Timestamptz} {retention : Nat} {db : NotificationsDb G} {d : Delivery}
    (h : d ∈ db.deliveries) (hp : d.status = .pending) :
    d ∈ (purge now retention db).1.deliveries := by
  have hkept : d ∈ db.deliveries.filter (fun d => !outdated (now - retention) d) :=
    List.mem_filter.mpr ⟨h, by simp [outdated, hp]⟩
  refine List.mem_filter.mpr ⟨hkept, ?_⟩
  rw [Bool.not_eq_true', List.any_eq_false]
  intro e he hid
  have hout := (List.mem_filter.mp he).2
  simp only [outlived, Bool.and_eq_true, Bool.not_eq_true', List.any_eq_false] at hout
  exact hout.2 d hkept (by simp [hp, (of_decide_eq_true hid).symm])

theorem pending_not_outdated {cutoff : Timestamptz} {d : Delivery} (h : d.status = .pending) :
    outdated cutoff d = false := by
  simp [outdated, h]

theorem outlived_congr {cutoff : Timestamptz} {ds ds' : List Delivery} (e : Episode)
    (h : (∃ d ∈ ds, d.episode_id = e.id ∧ d.status = .pending) ↔
      ∃ d ∈ ds', d.episode_id = e.id ∧ d.status = .pending) :
    outlived cutoff ds e = outlived cutoff ds' e := by
  have hany : ds.any (fun d => decide (d.episode_id = e.id) && d.status == .pending) =
      ds'.any (fun d => decide (d.episode_id = e.id) && d.status == .pending) := by
    rw [Bool.eq_iff_iff]
    simpa [List.any_eq_true] using h
  simp only [outlived, hany]

theorem outlived_purged (cutoff : Timestamptz) (ds : List Delivery) (e : Episode) :
    outlived cutoff (ds.filter (fun d => !outdated cutoff d)) e = outlived cutoff ds e := by
  refine outlived_congr e ⟨?_, ?_⟩
  · rintro ⟨d, hd, h⟩
    exact ⟨d, (List.mem_filter.mp hd).1, h⟩
  · rintro ⟨d, hd, he, hp⟩
    exact ⟨d, List.mem_filter.mpr ⟨hd, by simp [pending_not_outdated hp]⟩, he, hp⟩

theorem claim_of_ok {db : NotificationsDb G} {s : Subscription} {c : ClaimedSubscription}
    (h : claim_of db s = .ok c) : c.id = s.id ∧ c.deliveries =
      ((db.deliveries.filter (is_pending_of s.id)).insertionSort urgent_before).map
        Delivery.to_pending := by
  unfold claim_of at h
  split at h
  · simp at h
  · simp only [Except.ok.injEq] at h
    exact h ▸ ⟨rfl, rfl⟩

theorem claim_ids {db : NotificationsDb G} {subscriptions : List Subscription}
    {claims : List ClaimedSubscription} (h : collect (claim_of db) subscriptions = .ok claims) :
    claims.map ClaimedSubscription.id = subscriptions.map Subscription.id := by
  have hall := collect_forall₂ h
  clear h
  induction hall with
  | nil => rfl
  | cons hs _ ih => simp only [List.map_cons, (claim_of_ok hs).1, ih]

theorem claim_episodes {now : Timestamptz} {min_interval limit : Nat} {db db' : NotificationsDb G}
    {claims : List ClaimedSubscription}
    (h : claim now min_interval limit db = .ok (db', claims)) : db'.episodes = db.episodes := by
  simp only [claim, bind, Except.bind] at h
  split at h
  · simp at h
  · simp only [Except.ok.injEq, Prod.mk.injEq] at h
    rw [← h.1]

theorem claim_spec {now : Timestamptz} {min_interval limit : Nat} {db db' : NotificationsDb G}
    {claims : List ClaimedSubscription}
    (h : claim now min_interval limit db = .ok (db', claims)) :
    db'.next_id = db.next_id ∧
    db'.subscriptions.map Subscription.id = db.subscriptions.map Subscription.id ∧
    (∃ f : Delivery → Delivery, (∀ d, SameDelivery d (f d) ∧ (f d).status = d.status ∧
      (f d).message_id = d.message_id) ∧ db'.deliveries = db.deliveries.map f) ∧
    claims.map ClaimedSubscription.id =
      (claimed now min_interval limit db).map Subscription.id ∧
    ∀ c ∈ claims, ∀ id ∈ c.delivery_ids, ∃ d ∈ db.deliveries, d.id = id ∧ d.status = .pending ∧
      d.subscription_id = c.id := by
  simp only [claim, bind, Except.bind] at h
  split at h
  · simp at h
  · next claims' hc =>
      simp only [Except.ok.injEq, Prod.mk.injEq] at h
      obtain ⟨rfl, rfl⟩ := h
      refine ⟨rfl, Table.keys_update (f := leased now) (fun _ _ => rfl) _, ⟨fun d =>
        if decide (d.subscription_id ∈ (claimed now min_interval limit db).map Subscription.id) &&
          d.status == .pending then attempted d else d, fun d => ?_, rfl⟩, claim_ids hc,
        fun c hm id hid => ?_⟩
      · dsimp only
        split
        · exact ⟨⟨rfl, rfl, rfl, rfl, rfl⟩, rfl, rfl⟩
        · exact ⟨.refl d, rfl, rfl⟩
      · obtain ⟨s, _, hs⟩ := collect_mem hc hm
        obtain ⟨hcid, hcd⟩ := claim_of_ok hs
        rw [ClaimedSubscription.delivery_ids, hcd, List.map_map] at hid
        obtain ⟨d, hd, rfl⟩ := List.mem_map.mp hid
        obtain ⟨hdm, hp⟩ := List.mem_filter.mp ((List.mem_insertionSort _).mp hd)
        obtain ⟨hsub, hst⟩ := Bool.and_eq_true_iff.mp hp
        exact ⟨d, hdm, rfl, by simpa using hst, (of_decide_eq_true hsub).trans hcid.symm⟩

theorem claim_rows {now : Timestamptz} {min_interval limit : Nat} {db db' : NotificationsDb G}
    {claims : List ClaimedSubscription}
    (h : claim now min_interval limit db = .ok (db', claims)) :
    db'.subscriptions = Table.update (fun r => decide (r.id ∈
        (claimed now min_interval limit db).map Subscription.id))
      (leased now) db.subscriptions ∧
    List.Forall₂ (fun r c => c.id = r.id ∧ c.previous_retry_at = r.retry_at)
      (claimed now min_interval limit db) claims := by
  simp only [claim, bind_ok] at h
  obtain ⟨claims', hcs, h⟩ := h
  simp only [Except.ok.injEq, Prod.mk.injEq] at h
  obtain ⟨rfl, rfl⟩ := h
  refine ⟨rfl, (collect_forall₂ hcs).imp (fun r c hrc => ?_)⟩
  unfold claim_of at hrc
  split at hrc
  · simp at hrc
  · simp only [Except.ok.injEq] at hrc
    exact hrc ▸ ⟨rfl, rfl⟩

theorem claim_nodup {now : Timestamptz} {min_interval limit : Nat} {db db' : NotificationsDb G}
    {claims : List ClaimedSubscription} (h : claim now min_interval limit db = .ok (db', claims))
    (hu : Table.Unique Subscription.id db.subscriptions) :
    (claims.map ClaimedSubscription.id).Nodup := by
  obtain ⟨_, _, _, hids, _⟩ := claim_spec h
  rw [hids]
  refine List.Nodup.sublist ((List.take_sublist _ _).map _) ?_
  refine ((List.perm_insertionSort _ _).map _).nodup_iff.mpr ?_
  exact hu.sublist List.filter_sublist

theorem claim_deliveries {now : Timestamptz} {min_interval limit : Nat} {db db' : NotificationsDb G}
    {claims : List ClaimedSubscription} (h : claim now min_interval limit db = .ok (db', claims)) :
    db'.deliveries = Table.update (fun d => decide (d.subscription_id ∈
      (claimed now min_interval limit db).map Subscription.id) && d.status == .pending) attempted
        db.deliveries := by
  simp only [claim, bind_ok] at h
  obtain ⟨claims', -, h⟩ := h
  simp only [Except.ok.injEq, Prod.mk.injEq] at h
  rw [← h.1]

theorem mem_claimed {now : Timestamptz} {min_interval limit : Nat} {db : NotificationsDb G}
    {s : Subscription} (h : s ∈ claimed now min_interval limit db) :
    s ∈ db.subscriptions ∧ claimable now min_interval db s = true :=
  List.mem_filter.mp ((List.mem_insertionSort _).mp (List.mem_of_mem_take h))

theorem claim_source {now : Timestamptz} {min_interval limit : Nat} {db db' : NotificationsDb G}
    {claims : List ClaimedSubscription} (h : claim now min_interval limit db = .ok (db', claims))
    {c : ClaimedSubscription} (hc : c ∈ claims) :
    ∃ s ∈ claimed now min_interval limit db, s ∈ db.subscriptions ∧
      claimable now min_interval db s = true ∧ claim_of db s = .ok c := by
  simp only [claim, bind_ok] at h
  obtain ⟨claims', hcs, h⟩ := h
  simp only [Except.ok.injEq, Prod.mk.injEq] at h
  obtain ⟨s, hs, hof⟩ := collect_mem (h.2 ▸ hcs) hc
  obtain ⟨hmem, hcan⟩ := mem_claimed hs
  exact ⟨s, hs, hmem, hcan, hof⟩

theorem claim_of_row {db : NotificationsDb G} {s : Subscription} {c : ClaimedSubscription}
    (h : claim_of db s = .ok c) :
    c.id = s.id ∧ c.endpoint = s.endpoint ∧ c.previous_retry_at = s.retry_at := by
  unfold claim_of at h
  split at h
  · simp at h
  · simp only [Except.ok.injEq] at h
    exact h ▸ ⟨rfl, rfl, rfl⟩

end DeliveryRepo

namespace DeliverNotificationsUseCase

theorem record_outcome_paused (now : Timestamptz) (o : Outcome)
    (p : NotificationsDb G × DeliveryReport) {id : Nat} (h : PausedIn p.1 id) :
    PausedIn (recorded_outcome gis settings now p o).1 id := by
  unfold recorded_outcome
  split
  · exact h.update (fun _ => rfl) (fun _ hs => hs)
  · split
    · exact h.update (fun _ => rfl) (fun _ hs => hs)
    · simp only [DeliveryRepo.mark_failed]
      split
      · exact h
      · split
        · exact h.update (fun _ => rfl) (fun _ _ => rfl)
        · exact h.update (fun _ => rfl) (fun _ hs => hs)

theorem record_outcome_rows (now : Timestamptz) (o : Outcome)
    (p : NotificationsDb G × DeliveryReport) :
    List.Forall₂ (Settling [o] (PausedIn (recorded_outcome gis settings now p o).1))
      p.1.deliveries (recorded_outcome gis settings now p o).1.deliveries := by
  by_cases hskip : o.skipped = true
  · have heq : (recorded_outcome gis settings now p o).1.deliveries = p.1.deliveries := by
      simp [recorded_outcome, hskip, DeliveryRepo.release]
    exact heq ▸ List.forall₂_same.mpr (fun d _ => .refl d)
  · have hskip' : o.skipped = false := by simpa using hskip
    cases hm : o.message_id with
    | some message_id =>
        have heq : (recorded_outcome gis settings now p o).1.deliveries =
            Table.update (fun d => decide (d.id ∈ o.claim.delivery_ids))
              (DeliveryRepo.delivered now message_id) p.1.deliveries := by
          simp [recorded_outcome, hskip', hm, DeliveryRepo.marked_sent]
        rw [heq]
        refine forall₂_map (fun d => ?_) p.1.deliveries
        by_cases hd : d.id ∈ o.claim.delivery_ids
        · simp only [hd, decide_true, if_true]
          exact .sent ⟨rfl, rfl, rfl, rfl, rfl⟩ rfl (by simp) ⟨hskip', by simp [hm]⟩ hm.symm hd
        · simp only [hd, decide_false, Bool.false_eq_true, if_false]
          exact .refl d
    | none =>
        have heq : (recorded_outcome gis settings now p o).1 = (DeliveryRepo.mark_failed gis o.claim.id
            (error_text o) now settings.pause_after p.1).1 := by
          simp [recorded_outcome, hskip', hm]
        rcases @DeliveryRepo.mark_failed_spec _ gis o.claim.id (error_text o) now
          settings.pause_after p.1 with hsame | ⟨hfail, hpaused⟩
        · rw [heq, hsame]
          exact List.forall₂_same.mpr (fun d _ => .refl d)
        · rw [heq, hfail]
          refine forall₂_map (fun d => ?_) p.1.deliveries
          by_cases hd : DeliveryRepo.is_pending_of o.claim.id d = true
          · simp only [hd, if_true]
            obtain ⟨hsub, hst⟩ := Bool.and_eq_true_iff.mp hd
            have hsub' := of_decide_eq_true hsub
            exact .dropped ⟨rfl, rfl, rfl, rfl, rfl⟩ (by simpa using hst) rfl
              (List.mem_singleton.mpr rfl) ⟨hskip', hm⟩ hsub'.symm (hsub' ▸ hpaused)
          · simp only [hd, Bool.false_eq_true, if_false]
            exact .refl d

theorem fold_rows (now : Timestamptz) (outcomes : List Outcome)
    (p : NotificationsDb G × DeliveryReport) :
    List.Forall₂ (Settling outcomes
        (PausedIn (outcomes.foldl (recorded_outcome gis settings now) p).1)) p.1.deliveries
      (outcomes.foldl (recorded_outcome gis settings now) p).1.deliveries ∧
    ∀ id, PausedIn p.1 id → PausedIn (outcomes.foldl (recorded_outcome gis settings now) p).1 id := by
  induction outcomes generalizing p with
  | nil => exact ⟨List.forall₂_same.mpr (fun d _ => .refl d), fun _ h => h⟩
  | cons o outcomes ih =>
      obtain ⟨hrest, hkeep⟩ := ih (recorded_outcome gis settings now p o)
      have hhead : ∀ o' ∈ [o], o' ∈ o :: outcomes := by simp
      have hfirst := (@record_outcome_rows _ gis settings now o p).imp
        (fun a b h => h.mono hhead hkeep)
      have hthen := hrest.imp (fun a b h => h.mono
        (fun _ hm => List.mem_cons_of_mem o hm) (fun _ hp => hp))
      exact ⟨forall₂_trans (R := Settling (o :: outcomes) _) (fun _ _ _ => Settling.trans) hfirst
        hthen, fun id h => hkeep id (record_outcome_paused now o p h)⟩

-- recording writes the deliveries and the subscriptions only
structure Recorded (db db' : NotificationsDb G) : Prop where
  watch_areas : db'.watch_areas = db.watch_areas
  episodes : db'.episodes = db.episodes
  next_id : db'.next_id = db.next_id
  ids : db'.subscriptions.map Subscription.id = db.subscriptions.map Subscription.id

theorem record_outcome_recorded (now : Timestamptz) (o : Outcome)
    (p : NotificationsDb G × DeliveryReport) :
    Recorded p.1 (recorded_outcome gis settings now p o).1 := by
  have hids : ∀ {id : Nat} {f : Subscription → Subscription}, (∀ s, (f s).id = s.id) →
      (Table.update (fun s => decide (s.id = id)) f p.1.subscriptions).map Subscription.id =
        p.1.subscriptions.map Subscription.id :=
    fun hf => Table.keys_update (fun s _ => hf s) _
  unfold recorded_outcome
  split
  · exact ⟨rfl, rfl, rfl, hids (fun _ => rfl)⟩
  · split
    · exact ⟨rfl, rfl, rfl, hids (fun _ => rfl)⟩
    · simp only [DeliveryRepo.mark_failed]
      split
      · exact ⟨rfl, rfl, rfl, rfl⟩
      · split
        · exact ⟨rfl, rfl, rfl, hids (fun _ => rfl)⟩
        · exact ⟨rfl, rfl, rfl, hids (fun _ => rfl)⟩

theorem record_recorded (now : Timestamptz) (outcomes : List Outcome) (db : NotificationsDb G) :
    Recorded db (recorded gis settings now outcomes db).1 := by
  have hfold : ∀ p : NotificationsDb G × DeliveryReport,
      Recorded p.1 (outcomes.foldl (recorded_outcome gis settings now) p).1 := by
    induction outcomes with
    | nil => exact fun _ => ⟨rfl, rfl, rfl, rfl⟩
    | cons o outcomes ih =>
        intro p
        have h := @record_outcome_recorded _ gis settings now o p
        have k := ih (recorded_outcome gis settings now p o)
        exact ⟨k.watch_areas.trans h.watch_areas, k.episodes.trans h.episodes,
          k.next_id.trans h.next_id, k.ids.trans h.ids⟩
  exact hfold (db, _)

theorem record_rows (now : Timestamptz) (outcomes : List Outcome) (db : NotificationsDb G) :
    List.Forall₂ (Settling outcomes (PausedIn (recorded gis settings now outcomes db).1))
      db.deliveries (recorded gis settings now outcomes db).1.deliveries :=
  (fold_rows now outcomes _).1

theorem record_outcome_sent (now : Timestamptz) {o : Outcome} (ho : o.sent)
    (p : NotificationsDb G × DeliveryReport) {d : Delivery}
    (hd : d ∈ (recorded_outcome gis settings now p o).1.deliveries)
    (hid : d.id ∈ o.claim.delivery_ids) : d.status = .sent := by
  obtain ⟨message_id, hm⟩ := Option.ne_none_iff_exists'.mp ho.2
  have heq : (recorded_outcome gis settings now p o).1.deliveries =
      Table.update (fun d => decide (d.id ∈ o.claim.delivery_ids))
        (DeliveryRepo.delivered now message_id) p.1.deliveries := by
    simp [recorded_outcome, ho.1, hm, DeliveryRepo.marked_sent]
  rw [heq] at hd
  obtain ⟨r, _, rfl⟩ := Table.mem_update.mp hd
  by_cases hr : r.id ∈ o.claim.delivery_ids
  · simp [hr, DeliveryRepo.delivered]
  · simp [hr] at hid

theorem record_sent (now : Timestamptz) {outcomes : List Outcome} {o : Outcome} (ho : o ∈ outcomes)
    (hsent : o.sent) (db : NotificationsDb G) {d : Delivery}
    (hd : d ∈ (recorded gis settings now outcomes db).1.deliveries)
    (hid : d.id ∈ o.claim.delivery_ids) : d.status = .sent := by
  obtain ⟨before, after, rfl⟩ := List.append_of_mem ho
  rw [recorded, List.foldl_append, List.foldl_cons] at hd
  generalize before.foldl (recorded_outcome gis settings now) (db, ⟨0, 0, 0, 0, 0, 0⟩) = p at hd
  obtain ⟨r, hr, hsettle⟩ := forall₂_left (fold_rows now after _).1 hd
  exact hsettle.still_sent (record_outcome_sent now hsent p hr (hsettle.same.id ▸ hid))

end DeliverNotificationsUseCase

end GeoHazard

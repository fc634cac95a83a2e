import GeoHazard.Notifications.DeliveryLifeCycle
import GeoHazard.Notifications.EpisodeRatchet

namespace GeoHazard
open MatchBatchUseCase Transition

variable {G : Type} {gis : Gis G} {settings : MatchSettings} {deliver : DeliverSettings}

-- the system without purge: the third transaction of a run only records
def UnpurgedStep (gis : Gis G) (settings : MatchSettings) (deliver : DeliverSettings)
    (s : DeliverState G) (a : DeliverAction G) (t : DeliverState G) : Prop :=
  match a with
  | .recorded now => ∃ outcomes r, s.run = some ⟨[], outcomes⟩ ∧
      DeliverNotificationsUseCase.record gis deliver now outcomes s.db = .ok r ∧
      t = { s with db := r.1, run := none }
  | a => DeliverStep gis settings deliver s a t

def Watched (db : NotificationsDb G) (e : Episode) : Prop :=
  ∃ r ∈ db.subscriptions, r.id = e.subscription_id ∧ r.status = .active

-- the subscriber was or will be told of the notified severity
def Told (db : NotificationsDb G) (e : Episode) : Prop :=
  ∃ d ∈ db.deliveries, d.episode_id = e.id ∧ d.severity = e.notified_severity ∧
    (d.status = .pending ∨ d.status = .sent)

def Undiscarded (db : NotificationsDb G) (e : Episode) : Prop :=
  ∀ d ∈ db.deliveries, d.episode_id = e.id → d.severity = e.notified_severity → d.status ≠ .failed

def AllTold (db : NotificationsDb G) : Prop :=
  ∀ e ∈ db.episodes, e.closed_at = none → Watched db e → Told db e

-- no resume finds an open episode whose delivery at the notified severity a pause has discarded
def CleanResume (s : DeliverState G) (a : DeliverAction G) : Prop :=
  ∀ id, a = .resumed id → ∀ e ∈ s.db.episodes, e.subscription_id = id → e.closed_at = none →
    Undiscarded s.db e

structure ToldInv (grace : Nat) (db : NotificationsDb G) : Prop where
  ratchet : RatchetInv grace db
  subscribers : ∀ r ∈ db.subscriptions, r.id < db.next_id
  subscribed : ∀ e ∈ db.episodes, e.subscription_id < db.next_id

variable {db db' : NotificationsDb G} {grace : Nat}

theorem ToldInv.empty : ToldInv grace (NotificationsDb.empty (G := G)) :=
  ⟨RatchetInv.empty, by simp [NotificationsDb.empty], by simp [NotificationsDb.empty]⟩

theorem told_iff (h : RatchetInv grace db) {e : Episode} (he : e ∈ db.episodes) :
    Told db e ↔ Undiscarded db e := by
  have hratchet := (h.episodes e he).ratchet
  have hmem : ∀ {d}, d ∈ db.deliveries → d.episode_id = e.id → d ∈ deliveries_of e.id db.deliveries :=
    fun hd hid => List.mem_filter.mpr ⟨hd, decide_eq_true hid⟩
  constructor
  · rintro ⟨d, hd, hid, hsev, hlive⟩ d' hd' hid' hsev' hfailed
    have hn : ((deliveries_of e.id db.deliveries).map Delivery.severity).Nodup :=
      hratchet.increasing.imp Nat.ne_of_lt
    obtain rfl := List.inj_on_of_nodup_map hn (hmem hd hid) (hmem hd' hid') (hsev.trans hsev'.symm)
    simp [hfailed] at hlive
  · intro hkept
    obtain ⟨d, hd, hsev⟩ := hratchet.ratcheted.notified.1
    obtain ⟨hdb, hid⟩ := List.mem_filter.mp hd
    refine ⟨d, hdb, of_decide_eq_true hid, hsev, ?_⟩
    have hne := hkept d hdb (of_decide_eq_true hid) hsev
    cases hst : d.status with
    | pending => exact .inl rfl
    | sent => exact .inr rfl
    | failed => exact absurd hst hne

theorem allTold_iff (h : RatchetInv grace db) : AllTold db ↔
    ∀ e ∈ db.episodes, e.closed_at = none → Watched db e → Undiscarded db e := by
  constructor
  · exact fun ha e he ho hw => (told_iff h he).mp (ha e he ho hw)
  · exact fun ha e he ho hw => (told_iff h he).mpr (ha e he ho hw)

theorem RatchetInv.of_map {f : Delivery → Delivery} (h : RatchetInv grace db)
    (hf : ∀ d, SameDelivery d (f d)) (he : db'.episodes = db.episodes)
    (hd : db'.deliveries = db.deliveries.map f) (hn : db.next_id ≤ db'.next_id) :
    RatchetInv grace db' := by
  have hk := h.recorded hf
  refine ⟨he ▸ hk.unique, fun e hm => lt_of_lt_of_le (hk.fresh e (he ▸ hm)) hn, fun d hm =>
    lt_of_lt_of_le (hk.delivered d (hd ▸ hm)) hn, ?_, ?_, ?_⟩
  · rw [he]
    exact hk.order
  · rw [he]
    exact hk.alive
  · rw [he, hd]
    exact hk.episodes

-- an open episode after a match was open before it or is new
def Retained (db db' : NotificationsDb G) : Prop :=
  db.next_id ≤ db'.next_id ∧ ∀ e' ∈ db'.episodes, e'.closed_at = none → db.next_id ≤ e'.id ∨
    ∃ e ∈ db.episodes, e.id = e'.id ∧ e.subscription_id = e'.subscription_id ∧
      e.closed_at = none ∧ e.notified_severity ≤ e'.notified_severity

theorem retained_update {p : Episode → Bool} {f : Episode → Episode}
    (hf : ∀ e, (f e).closed_at = none → (f e).id = e.id ∧
      (f e).subscription_id = e.subscription_id ∧ e.closed_at = none ∧
      e.notified_severity ≤ (f e).notified_severity) (db : NotificationsDb G) :
    Retained db { db with episodes := Table.update p f db.episodes } := by
  refine ⟨le_refl _, fun e' he' ho => .inr ?_⟩
  obtain ⟨e, he, rfl⟩ := Table.mem_update.mp he'
  refine ⟨e, he, ?_⟩
  by_cases hp : p e = true
  · simp only [hp, if_true] at ho ⊢
    obtain ⟨hid, hsub, hopen, hsev⟩ := hf e ho
    exact ⟨hid.symm, hsub.symm, hopen, hsev⟩
  · rw [if_neg hp] at ho ⊢
    exact ⟨rfl, rfl, ho, le_refl _⟩

theorem retained_closed : MatchClosed gis (Retained (G := G)) where
  refl db := ⟨le_refl _, fun e he ho => .inr ⟨e, he, rfl, rfl, ho, le_refl _⟩⟩
  trans {a b c} h k := by
    refine ⟨le_trans h.1 k.1, fun e'' he'' ho'' => ?_⟩
    rcases k.2 e'' he'' ho'' with hnew | ⟨e', he', hid', hsub', ho', hsev'⟩
    · exact .inl (le_trans h.1 hnew)
    · rcases h.2 e' he' ho' with hnew | ⟨e, he, hid, hsub, ho, hsev⟩
      · exact .inl (hid' ▸ hnew)
      · exact .inr ⟨e, he, hid.trans hid', hsub.trans hsub', ho, le_trans hsev hsev'⟩
  close id at_ db := retained_update (fun e ho => by simp [Episode.closed] at ho) db
  refresh id n x at_ db := retained_update (f := Episode.refreshed n x at_)
    (fun e ho => ⟨rfl, rfl, ho, le_max_left _ _⟩) db
  open_ {slot severity x at_ db r} h := by
    rw [open_ok h]
    refine ⟨Nat.le_succ _, fun e he ho => ?_⟩
    rcases List.mem_append.mp he with he | he
    · exact .inr ⟨e, he, rfl, rfl, ho, le_refl _⟩
    · rw [List.mem_singleton.mp he]
      exact .inl (le_refl _)
  add_delivery slot id reason g now db := by
    unfold add_delivery EpisodeRepo.add_delivery
    split
    · exact ⟨le_refl _, fun e he ho => .inr ⟨e, he, rfl, rfl, ho, le_refl _⟩⟩
    · exact ⟨Nat.le_succ _, fun e he ho => .inr ⟨e, he, rfl, rfl, ho, le_refl _⟩⟩

theorem group_keys {ms : List Match} {slot : Nat × String}
    (h : slot ∈ Dict.keys (group gis ms)) : ∃ m ∈ ms, slot_of gis m = slot := by
  have hfold : ∀ groups : Groups, slot ∈ Dict.keys (ms.foldl (add_match gis) groups) →
      slot ∈ Dict.keys groups ∨ ∃ m ∈ ms, slot_of gis m = slot := by
    clear h
    induction ms with
    | nil => exact fun _ h => .inl h
    | cons m ms ih =>
        intro groups h
        rcases ih (add_match gis groups m) h with hk | ⟨m', hm', hs⟩
        · rw [add_match, Dict.mem_keys_set] at hk
          rcases hk with rfl | hk
          · exact .inr ⟨m, by simp, rfl⟩
          · exact .inl hk
        · exact .inr ⟨m', List.mem_cons_of_mem _ hm', hs⟩
  rcases hfold [] h with hk | hm
  · simp [Dict.keys] at hk
  · exact hm

theorem group_active {source : Source} {batch_at : Timestamptz} {events : List (HazardEvent G)}
    {slot : Nat × String} (h : slot ∈ Dict.keys (groups_of gis settings source batch_at events db)) :
    ∃ r ∈ db.subscriptions, r.id = slot.1 ∧ r.status = .active := by
  unfold groups_of at h
  split at h
  · obtain ⟨m, hm, rfl⟩ := group_keys h
    obtain ⟨r, hr, _, _, e, _, hj, rfl⟩ := (MatchingRepo.mem_matches gis).mp hm
    simp only [MatchingRepo.joined, MatchingRepo.subscribed, Bool.and_eq_true, beq_iff_eq] at hj
    exact ⟨r, hr, rfl, hj.1.1.1.1.1.1.1⟩
  · simp [Dict.keys] at h

theorem ToldInv.matched {source : Source} {batch_at now : Timestamptz}
    {events : List (HazardEvent G)} {n : Nat} (h : ToldInv settings.grace db)
    (heq : execute gis settings source batch_at now events db = .ok (db', n)) :
    ToldInv settings.grace db' := by
  obtain ⟨created, hg, -⟩ := execute_ok heq
  have hx := (execute_groups_ok h.ratchet hg).2
  have hgrown := execute_grown heq
  refine ⟨hx.inv, fun r hr => ?_, fun e he => ?_⟩
  · exact lt_of_lt_of_le (h.subscribers r (hgrown.subscriptions ▸ hr)) hgrown.next_id
  · refine lt_of_lt_of_le ?_ hgrown.next_id
    by_cases hkey : e.slot ∈ Dict.keys (groups_of gis settings source batch_at events db)
    · obtain ⟨r, hr, hid, _⟩ := group_active hkey
      have hlt := h.subscribers r hr
      rw [hid] at hlt
      exact hlt
    · have hmem : e ∈ episodes_of e.slot db'.episodes := mem_episodes_of.mpr ⟨he, rfl⟩
      rw [hx.others e.slot hkey] at hmem
      exact h.subscribed e (mem_episodes_of.mp hmem).1

theorem allTold_matched {source : Source} {batch_at now : Timestamptz}
    {events : List (HazardEvent G)} {n : Nat} (h : ToldInv settings.grace db)
    (heq : execute gis settings source batch_at now events db = .ok (db', n)) (ht : AllTold db) :
    AllTold db' := by
  obtain ⟨_, hretained⟩ := execute_closed retained_closed heq
  have hgrown := execute_grown heq
  obtain ⟨extra, hdeliveries, _, hextra⟩ := hgrown.deliveries
  rw [allTold_iff h.ratchet] at ht
  rw [allTold_iff (h.matched heq).ratchet]
  intro e' he' ho' hw' d hd hid hsev
  rw [hdeliveries] at hd
  rcases List.mem_append.mp hd with hd | hd
  · rcases hretained e' he' ho' with hnew | ⟨e, he, heid, hsub, ho, hle⟩
    · exact absurd (h.ratchet.delivered d hd) (not_lt.mpr (hid ▸ hnew))
    · have hw : Watched db e := by
        obtain ⟨r, hr, hrid, hact⟩ := hw'
        exact ⟨r, hgrown.subscriptions ▸ hr, hrid.trans hsub.symm, hact⟩
      have hof : d ∈ deliveries_of e.id db.deliveries :=
        List.mem_filter.mpr ⟨hd, decide_eq_true (hid.trans heid.symm)⟩
      have hup := (h.ratchet.episodes e he).ratchet.le_notified hof
      exact ht e he ho hw d hd (hid.trans heid.symm) (le_antisymm hup (hsev ▸ hle))
  · simp [(hextra d hd).2.2]

variable {s t : DeliverState G} {a : DeliverAction G}

theorem watched_iff {e : Episode} : Watched db e ↔ ¬ PausedIn db e.subscription_id := by
  constructor
  · rintro ⟨r, hr, hid, hact⟩ hp
    simpa [hact] using hp r hr hid
  · intro hp
    obtain ⟨r, hr, hid, hne⟩ : ∃ r ∈ db.subscriptions, r.id = e.subscription_id ∧
        r.status ≠ .paused := by
      simpa [PausedIn] using hp
    refine ⟨r, hr, hid, ?_⟩
    cases hst : r.status with
    | active => rfl
    | paused => exact absurd hst hne

-- no subscription becomes active and what has failed had failed, the paused ones apart
structure Operated (db db' : NotificationsDb G) : Prop where
  watched : ∀ e ∈ db'.episodes, Watched db' e → e ∈ db.episodes ∧ Watched db e
  failed : ∀ e ∈ db'.episodes, Watched db' e → ∀ d' ∈ db'.deliveries, d'.episode_id = e.id →
    d'.status = .failed → ∃ d ∈ db.deliveries, SameDelivery d d' ∧ d.status = .failed

theorem Operated.allTold (ho : Operated db db') (h : RatchetInv grace db)
    (h' : RatchetInv grace db') (ht : AllTold db) : AllTold db' := by
  rw [allTold_iff h] at ht
  rw [allTold_iff h']
  intro e he hopen hw d' hd' hid hsev hfailed
  obtain ⟨hmem, hwas⟩ := ho.watched e he hw
  obtain ⟨d, hd, hsame, hst⟩ := ho.failed e he hw d' hd' hid hfailed
  exact ht e hmem hopen hwas d hd (hsame.episode_id.symm.trans hid)
    (hsame.severity.symm.trans hsev) hst

theorem Operated.of_kept {f : Delivery → Delivery} (hf : ∀ d, SameDelivery d (f d))
    (hst : ∀ d, (f d).status = d.status) (he : db'.episodes = db.episodes)
    (hd : db'.deliveries = db.deliveries.map f) (hw : ∀ e, Watched db' e → Watched db e) :
    Operated db db' := by
  refine ⟨fun e hm hwatch => ⟨he ▸ hm, hw e hwatch⟩, fun e _ _ d' hd' _ hfailed => ?_⟩
  rw [hd] at hd'
  obtain ⟨d, hdm, rfl⟩ := List.mem_map.mp hd'
  exact ⟨d, hdm, hf d, (hst d).symm.trans hfailed⟩

theorem ToldInv.of_map {f : Delivery → Delivery} (h : ToldInv grace db)
    (hf : ∀ d, SameDelivery d (f d)) (he : db'.episodes = db.episodes)
    (hd : db'.deliveries = db.deliveries.map f) (hn : db'.next_id = db.next_id)
    (hids : db'.subscriptions.map Subscription.id = db.subscriptions.map Subscription.id) :
    ToldInv grace db' := by
  refine ⟨h.ratchet.of_map hf he hd hn.symm.le, fun r hr => ?_, fun e hm => ?_⟩
  · have hid : r.id ∈ db.subscriptions.map Subscription.id := hids ▸ List.mem_map_of_mem hr
    obtain ⟨o, ho, hoid⟩ := List.mem_map.mp hid
    rw [hn, ← hoid]
    exact h.subscribers o ho
  · rw [hn]
    exact h.subscribed e (he ▸ hm)

theorem Watched.of_update {p : Subscription → Bool} {f : Subscription → Subscription} {e : Episode}
    (hf : ∀ r, (f r).id = r.id) (hs : ∀ r, (f r).status = .active → r.status = .active)
    (hsubs : db'.subscriptions = Table.update p f db.subscriptions) (h : Watched db' e) :
    Watched db e := by
  obtain ⟨r, hr, hid, hact⟩ := h
  rw [hsubs] at hr
  obtain ⟨o, ho, rfl⟩ := Table.mem_update.mp hr
  by_cases hp : p o = true
  · rw [if_pos hp] at hid hact
    exact ⟨o, ho, (hf o).symm.trans hid, hs o hact⟩
  · rw [if_neg hp] at hid hact
    exact ⟨o, ho, hid, hact⟩

theorem record_outcome_map (now : Timestamptz) (o : Outcome)
    (p : NotificationsDb G × DeliveryReport) : ∃ f : Delivery → Delivery,
    (∀ d, SameDelivery d (f d)) ∧
      (DeliverNotificationsUseCase.recorded_outcome gis deliver now p o).1.deliveries =
        p.1.deliveries.map f := by
  have hupdate : ∀ (q : Delivery → Bool) (f : Delivery → Delivery), (∀ d, SameDelivery d (f d)) →
      ∃ g : Delivery → Delivery, (∀ d, SameDelivery d (g d)) ∧
        Table.update q f p.1.deliveries = p.1.deliveries.map g := by
    intro q f hf
    refine ⟨fun d => if q d then f d else d, fun d => ?_, rfl⟩
    dsimp only
    split
    · exact hf d
    · exact .refl d
  unfold DeliverNotificationsUseCase.recorded_outcome
  split
  · exact ⟨id, fun d => .refl d, (List.map_id _).symm⟩
  · split
    · exact hupdate _ _ (fun d => ⟨rfl, rfl, rfl, rfl, rfl⟩)
    · rcases @DeliveryRepo.mark_failed_spec _ gis o.claim.id
        (DeliverNotificationsUseCase.error_text o) now deliver.pause_after p.1 with hkept | ⟨hfail, _⟩
      · exact ⟨id, fun d => .refl d, hkept.trans (List.map_id _).symm⟩
      · obtain ⟨g, hg, heq⟩ := hupdate (DeliveryRepo.is_pending_of o.claim.id) DeliveryRepo.dropped
          (fun d => ⟨rfl, rfl, rfl, rfl, rfl⟩)
        exact ⟨g, hg, hfail.trans heq⟩

theorem record_map (now : Timestamptz) (outcomes : List Outcome) (db : NotificationsDb G) :
    ∃ f : Delivery → Delivery, (∀ d, SameDelivery d (f d)) ∧
      (DeliverNotificationsUseCase.recorded gis deliver now outcomes db).1.deliveries =
        db.deliveries.map f := by
  have hfold : ∀ p : NotificationsDb G × DeliveryReport, ∃ f : Delivery → Delivery,
      (∀ d, SameDelivery d (f d)) ∧
        (outcomes.foldl (DeliverNotificationsUseCase.recorded_outcome gis deliver now) p).1.deliveries =
          p.1.deliveries.map f := by
    induction outcomes with
    | nil => exact fun p => ⟨id, fun d => .refl d, (List.map_id _).symm⟩
    | cons o outcomes ih =>
        intro p
        obtain ⟨f, hf, heq⟩ := @record_outcome_map _ gis deliver now o p
        obtain ⟨g, hg, hrest⟩ := ih (DeliverNotificationsUseCase.recorded_outcome gis deliver now p o)
        refine ⟨g ∘ f, fun d => (hf d).trans (hg (f d)), ?_⟩
        rw [List.foldl_cons, hrest, heq, List.map_map]
  exact hfold (db, _)

theorem recorded_operated (h : ToldInv grace db) (now : Timestamptz) (outcomes : List Outcome) :
    ToldInv grace (DeliverNotificationsUseCase.recorded gis deliver now outcomes db).1 ∧
      Operated db (DeliverNotificationsUseCase.recorded gis deliver now outcomes db).1 := by
  obtain ⟨f, hf, hmap⟩ := @record_map _ gis deliver now outcomes db
  have hframe := @DeliverNotificationsUseCase.record_recorded _ gis deliver now outcomes db
  have hinv := h.of_map hf hframe.episodes hmap hframe.next_id hframe.ids
  have hrows := @DeliverNotificationsUseCase.record_rows _ gis deliver now outcomes db
  have hkeeps : ∀ id, PausedIn db id →
      PausedIn (DeliverNotificationsUseCase.recorded gis deliver now outcomes db).1 id :=
    (@DeliverNotificationsUseCase.fold_rows _ gis deliver now outcomes
      (db, ⟨0, 0, 0, 0, 0, 0⟩)).2
  refine ⟨hinv, fun e he hw => ⟨hframe.episodes ▸ he, ?_⟩, fun e he hw d' hd' hid hfailed => ?_⟩
  · exact watched_iff.mpr (fun hp => watched_iff.mp hw (hkeeps _ hp))
  · obtain ⟨d, hd, hsettle⟩ := forall₂_left hrows hd'
    cases hsettle with
    | kept same status => exact ⟨d, hd, same, status.symm.trans hfailed⟩
    | sent _ status => simp [status] at hfailed
    | dropped same _ _ _ _ _ now_paused =>
        have hof : d' ∈ deliveries_of e.id
            (DeliverNotificationsUseCase.recorded gis deliver now outcomes db).1.deliveries :=
          List.mem_filter.mpr ⟨hd', decide_eq_true hid⟩
        have howner := (hinv.ratchet.episodes e he).owner d' hof
        rw [← same.subscription_id, howner] at now_paused
        exact absurd now_paused (watched_iff.mp hw)

theorem claimed_operated {now : Timestamptz} {claims : List ClaimedSubscription}
    (h : ToldInv grace db)
    (hc : DeliverNotificationsUseCase.claim deliver now db = .ok (db', claims)) :
    ToldInv grace db' ∧ Operated db db' := by
  obtain ⟨hn, hids, ⟨f, hf, hds⟩, _⟩ := DeliveryRepo.claim_spec hc
  have hepisodes := DeliveryRepo.claim_episodes hc
  refine ⟨h.of_map (fun d => (hf d).1) hepisodes hds hn hids,
    .of_kept (fun d => (hf d).1) (fun d => (hf d).2.1) hepisodes hds (fun e hw => ?_)⟩
  exact hw.of_update (f := DeliveryRepo.leased now) (fun _ => rfl) (fun _ hs => hs)
    (DeliveryRepo.claim_rows hc).1

theorem paused_operated {id : Nat} (h : ToldInv grace db)
    (hp : SubscriptionAdmin.pause id db = .ok db') : ToldInv grace db' ∧ Operated db db' := by
  obtain rfl := pause_ok hp
  have hsame : ∀ d, SameDelivery d
      (if DeliveryRepo.is_pending_of id d = true then DeliveryRepo.dropped d else d) := by
    intro d
    split
    · exact ⟨rfl, rfl, rfl, rfl, rfl⟩
    · exact .refl d
  have hinv : ToldInv grace (DeliveryRepo.fail_pending id
      (SubscriptionAdmin.write id SubscriptionAdmin.paused db)) :=
    h.of_map hsame rfl rfl rfl (Table.keys_update (f := SubscriptionAdmin.paused) (fun _ _ => rfl) _)
  refine ⟨hinv, fun e he hw => ⟨he, hw.of_update (f := SubscriptionAdmin.paused) (fun _ => rfl)
    (fun _ hs => by simp [SubscriptionAdmin.paused] at hs) rfl⟩, fun e he hw d' hd' hid hfailed => ?_⟩
  obtain ⟨d, hd, rfl⟩ := Table.mem_update.mp hd'
  by_cases hpending : DeliveryRepo.is_pending_of id d = true
  · obtain ⟨r, hr, hrid, hact⟩ := hw
    have howner := (hinv.ratchet.episodes e he).owner _
      (List.mem_filter.mpr ⟨hd', decide_eq_true hid⟩)
    rw [if_pos hpending] at howner
    obtain ⟨hsub, _⟩ := Bool.and_eq_true_iff.mp hpending
    obtain ⟨o, ho, rfl⟩ := Table.mem_update.mp hr
    have hoid : o.id = id := by
      rw [← of_decide_eq_true hsub]
      refine Eq.trans ?_ (hrid.trans howner.symm)
      split <;> rfl
    simp [hoid, SubscriptionAdmin.paused] at hact
  · rw [if_neg hpending] at hfailed ⊢
    exact ⟨d, hd, .refl d, hfailed⟩

theorem removed_operated (h : ToldInv grace db) (r : Subscription) :
    ToldInv grace (SubscriptionAdmin.removed r db) ∧
      Operated db (SubscriptionAdmin.removed r db) := by
  refine ⟨⟨h.ratchet.removed r, fun o ho => h.subscribers o (List.mem_filter.mp ho).1,
    fun e he => h.subscribed e (List.mem_filter.mp he).1⟩, fun e he hw => ⟨?_, ?_⟩,
    fun e he hw d hd hid hfailed => ⟨d, (List.mem_filter.mp hd).1, .refl d, hfailed⟩⟩
  · exact (List.mem_filter.mp he).1
  · obtain ⟨o, ho, hoid, hact⟩ := hw
    exact ⟨o, (List.mem_filter.mp ho).1, hoid, hact⟩

theorem added_operated (h : ToldInv grace db) (area : WatchArea G) (hazard_types : List HazardType)
    (severity_min : Severity) (channel : Channel) (endpoint credential : String) :
    ToldInv grace (SubscriptionAdmin.add area hazard_types severity_min channel endpoint credential
        db) ∧
      Operated db (SubscriptionAdmin.add area hazard_types severity_min channel endpoint credential
        db) := by
  refine ⟨⟨h.ratchet.of_map (f := id) (fun d => .refl d) rfl (List.map_id _).symm
    (Nat.le_add_right _ 2), fun r hr => ?_, fun e he => ?_⟩, fun e he hw => ⟨he, ?_⟩,
    fun e he hw d hd hid hfailed => ⟨d, hd, .refl d, hfailed⟩⟩
  · rcases List.mem_append.mp hr with hr | hr
    · exact lt_of_lt_of_le (h.subscribers r hr) (Nat.le_add_right _ 2)
    · rw [List.mem_singleton.mp hr]
      exact Nat.lt_succ_self _
  · exact lt_of_lt_of_le (h.subscribed e he) (Nat.le_add_right _ 2)
  · obtain ⟨r, hr, hid, hact⟩ := hw
    rcases List.mem_append.mp hr with hr | hr
    · exact ⟨r, hr, hid, hact⟩
    · rw [List.mem_singleton.mp hr] at hid
      have hlt := h.subscribed e he
      rw [← hid] at hlt
      exact absurd hlt (not_lt.mpr (Nat.le_succ _))

theorem resumed_told {id : Nat} (h : ToldInv grace db)
    (hr : SubscriptionAdmin.resume id db = .ok db') (ht : AllTold db) :
    ToldInv grace db' ∧ (AllTold db' ↔ ∀ e ∈ db.episodes, e.subscription_id = id →
      e.closed_at = none → Undiscarded db e) := by
  obtain ⟨r, hget⟩ := resume_get hr
  obtain ⟨hmem, hid⟩ := get_ok hget
  obtain rfl := resume_ok hr
  have hinv : ToldInv grace (SubscriptionAdmin.write id SubscriptionAdmin.resumed db) :=
    h.of_map (f := fun d => d) (fun d => .refl d) rfl (List.map_id _).symm rfl
      (Table.keys_update (f := SubscriptionAdmin.resumed) (fun _ _ => rfl) _)
  refine ⟨hinv, ?_⟩
  rw [allTold_iff hinv.ratchet]
  rw [allTold_iff h.ratchet] at ht
  constructor
  · intro hall e he hsub hopen
    refine hall e he hopen ⟨SubscriptionAdmin.resumed r, Table.mem_update.mpr ⟨r, hmem, ?_⟩,
      hid.trans hsub.symm, rfl⟩
    rw [if_pos (decide_eq_true hid)]
  · intro hall e he hopen hw
    by_cases hsub : e.subscription_id = id
    · exact hall e he hsub hopen
    · obtain ⟨o', ho', hoid, hact⟩ := hw
      obtain ⟨o, ho, rfl⟩ := Table.mem_update.mp ho'
      have hother : ¬ decide (o.id = id) = true := by
        intro hp
        rw [if_pos hp] at hoid
        exact hsub (hoid.symm.trans (of_decide_eq_true hp))
      rw [if_neg hother] at hoid hact
      exact ht e he hopen ⟨o, ho, hoid, hact⟩

theorem UnpurgedStep.told (hs : UnpurgedStep gis settings deliver s a t)
    (h : ToldInv settings.grace s.db) (ht : AllTold s.db) :
    ToldInv settings.grace t.db ∧ (AllTold t.db ↔ CleanResume s a) := by
  have hclean : AllTold t.db → (∀ id, a ≠ .resumed id) → (AllTold t.db ↔ CleanResume s a) :=
    fun ht' hne => ⟨fun _ id ha => absurd ha (hne id), fun _ => ht'⟩
  have hoperated : ToldInv settings.grace t.db ∧ Operated s.db t.db → (∀ id, a ≠ .resumed id) →
      ToldInv settings.grace t.db ∧ (AllTold t.db ↔ CleanResume s a) := fun ho hne =>
    ⟨ho.1, hclean (ho.2.allTold h.ratchet ho.1.ratchet ht) hne⟩
  cases a with
  | matched source batch_at now events =>
      obtain ⟨db, n, hx, rfl⟩ := hs
      exact ⟨h.matched hx, hclean (allTold_matched h hx ht) (by simp)⟩
  | claimed now =>
      obtain ⟨_, db, claims, hc, rfl⟩ := hs
      exact hoperated (claimed_operated h hc) (by simp)
  | accepted message_id =>
      obtain ⟨c, run, _, rfl⟩ := hs
      exact ⟨h, hclean ht (by simp)⟩
  | refused error =>
      obtain ⟨c, run, _, rfl⟩ := hs
      exact ⟨h, hclean ht (by simp)⟩
  | deferred =>
      obtain ⟨c, run, _, _, rfl⟩ := hs
      exact ⟨h, hclean ht (by simp)⟩
  | recorded now =>
      obtain ⟨outcomes, r, _, hrecord, rfl⟩ := hs
      obtain ⟨_, rfl⟩ := DeliverNotificationsUseCase.record_iff.mp hrecord
      exact hoperated (recorded_operated h now outcomes) (by simp)
  | crashed =>
      obtain rfl := hs
      exact ⟨h, hclean ht (by simp)⟩
  | added area hazard_types severity_min channel endpoint credential =>
      obtain rfl := hs
      exact hoperated (added_operated h area hazard_types severity_min channel endpoint credential)
        (by simp)
  | paused id =>
      obtain ⟨db, hp, rfl⟩ := hs
      exact hoperated (paused_operated h hp) (by simp)
  | resumed id =>
      obtain ⟨db, hp, rfl⟩ := hs
      obtain ⟨hinv, hiff⟩ := resumed_told h hp ht
      refine ⟨hinv, hiff.trans ⟨fun hk i hi => ?_, fun hk => hk id rfl⟩⟩
      obtain rfl : id = i := by simpa using hi
      exact hk
  | removed id =>
      obtain ⟨db, hp, rfl⟩ := hs
      obtain ⟨r, _, rfl⟩ := remove_ok hp
      exact hoperated (removed_operated h r) (by simp)

theorem Run.told {as : List (DeliverAction G)}
    (hr : Run (Guarded CleanResume (UnpurgedStep gis settings deliver)) DeliverState.empty as s) :
    ToldInv settings.grace s.db ∧ AllTold s.db :=
  hr.invariant (I := fun s => ToldInv settings.grace s.db ∧ AllTold s.db)
    (fun _ _ _ h hs =>
      have hstep := hs.2.told h.1 h.2
      ⟨hstep.1, hstep.2.mpr hs.1⟩)
    ⟨.empty, by simp [AllTold, DeliverState.empty, NotificationsDb.empty]⟩

-- the subscriber was or will be told of what a batch finds already notified
def NeverSilenced (gis : Gis G) (settings : MatchSettings) (db : NotificationsDb G) : Prop :=
  ∀ source batch_at now events db' n,
    execute gis settings source batch_at now events db = .ok (db', n) →
    ∀ slot g, (slot, g) ∈ groups_of gis settings source batch_at events db →
      ∃ e ∈ episodes_of slot db'.episodes, e.closed_at = none ∧ g.severity ≤ e.notified_severity ∧
        Told db' e

theorem never_silenced (h : ToldInv settings.grace db) (ht : AllTold db) :
    NeverSilenced gis settings db := by
  intro source batch_at now events db' n heq slot g hg
  obtain ⟨e, he, hopen, hsev⟩ := (h.ratchet.executeOk heq).notified slot g hg
  obtain ⟨r, hr, hid, hact⟩ := group_active (List.mem_map_of_mem hg)
  obtain ⟨hmem, hslot⟩ := mem_episodes_of.mp he
  refine ⟨e, he, hopen, hsev, allTold_matched h heq ht e hmem hopen ⟨r, ?_, ?_, hact⟩⟩
  · exact (execute_grown heq).subscriptions ▸ hr
  · exact hid.trans (congrArg Prod.fst hslot).symm

theorem notified_severity_told {as : List (DeliverAction G)}
    (hr : Run (Guarded CleanResume (UnpurgedStep gis settings deliver)) DeliverState.empty as s) :
    AllTold s.db ∧ NeverSilenced gis settings s.db ∧
      ∀ a t, UnpurgedStep gis settings deliver s a t → (AllTold t.db ↔ CleanResume s a) := by
  obtain ⟨hinv, ht⟩ := Run.told hr
  exact ⟨ht, never_silenced hinv ht, fun a t hs => (hs.told hinv ht).2⟩

theorem waiting_unpurged : Run (Guarded CleanResume
    (UnpurgedStep planar_gis default_settings default_deliver)) .empty to_waiting waiting := by
  obtain ⟨n, hn⟩ := @MatchStep.after .aemet (july 2 11).instant (july 2 12).instant
    alerted.hazard_events enrolled (by decide +kernel)
  have hadd : UnpurgedStep planar_gis default_settings default_deliver .empty
      (.added watched_area [.weather_warning] severity_one .ntfy "https://ntfy.sh" "topic")
      ⟨enrolled, none, []⟩ := rfl
  refine .cons ⟨?_, hadd⟩ (.one ⟨?_, _, n, hn, rfl⟩)
  · simp [CleanResume]
  · simp [CleanResume]

theorem notified_severity_told_waiting :
    AllTold waiting.db ∧ NeverSilenced planar_gis default_settings waiting.db ∧
      ∀ a t, UnpurgedStep planar_gis default_settings default_deliver waiting a t →
        (AllTold t.db ↔ CleanResume waiting a) :=
  notified_severity_told waiting_unpurged

theorem ok_of_isOk {x : Except PyError (NotificationsDb G)} (h : x.isOk = true)
    (d : NotificationsDb G) : x = .ok (x.toOption.getD d) := by
  cases x with
  | error e => simp [Except.isOk, Except.toBool] at h
  | ok db => rfl

def discarding : NotificationsDb Ring :=
  (SubscriptionAdmin.pause 1 waiting.db).toOption.getD waiting.db

def silenced : DeliverState Ring :=
  waiting.write ((SubscriptionAdmin.resume 1 discarding).toOption.getD discarding)

-- the alert was never sent and the Update that replaces it is silent
theorem discarded_severity_silences :
    ∃ as, Run (UnpurgedStep planar_gis default_settings default_deliver) .empty as silenced ∧
      ¬ AllTold silenced.db ∧
      Dict.keys (groups_of planar_gis default_settings .aemet (july 2 13).instant
        replaced.hazard_events silenced.db) ≠ [] ∧
      ∃ db, execute planar_gis default_settings .aemet (july 2 13).instant (july 2 14).instant
          replaced.hazard_events silenced.db = .ok (db, 0) ∧
        ∀ d ∈ db.deliveries, d.status = .failed := by
  have hpause : UnpurgedStep planar_gis default_settings default_deliver waiting (.paused 1)
      (waiting.write discarding) := ⟨_, ok_of_isOk (by decide +kernel) waiting.db, rfl⟩
  have hresume : UnpurgedStep planar_gis default_settings default_deliver (waiting.write discarding)
      (.resumed 1) silenced := ⟨_, ok_of_isOk (by decide +kernel) discarding, rfl⟩
  have hrun : Run (UnpurgedStep planar_gis default_settings default_deliver) .empty to_waiting
      waiting := waiting_unpurged.mono (fun _ _ _ h => h.2)
  refine ⟨_, (hrun.snoc hpause).snoc hresume, fun ht => ?_, by decide +kernel, ?_⟩
  · have hopen : ∃ e ∈ silenced.db.episodes, e.closed_at = none ∧
        ∃ r ∈ silenced.db.subscriptions, r.id = e.subscription_id ∧ r.status = .active := by
      decide +kernel
    have hfailed : ∀ d ∈ silenced.db.deliveries, d.status = .failed := by decide +kernel
    obtain ⟨e, he, ho, hw⟩ := hopen
    obtain ⟨d, hd, _, _, hlive⟩ := ht e he ho hw
    simp [hfailed d hd] at hlive
  · have hsilent : (execute planar_gis default_settings .aemet (july 2 13).instant
        (july 2 14).instant replaced.hazard_events silenced.db).toOption.map
          (fun r => (r.2, r.1.deliveries.map Delivery.status)) = some (0, [.failed]) := by
      decide +kernel
    cases hx : execute planar_gis default_settings .aemet (july 2 13).instant (july 2 14).instant
        replaced.hazard_events silenced.db with
    | error e => simp [hx, Except.toOption] at hsilent
    | ok r =>
        simp only [hx, Except.toOption, Option.map_some, Option.some.injEq, Prod.mk.injEq] at hsilent
        obtain ⟨hn, hstatus⟩ := hsilent
        refine ⟨r.1, by rw [← hn], fun d hd => ?_⟩
        have hmem : d.status ∈ r.1.deliveries.map Delivery.status := List.mem_map_of_mem hd
        rw [hstatus] at hmem
        exact List.mem_singleton.mp hmem

end GeoHazard

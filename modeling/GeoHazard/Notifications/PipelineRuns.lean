import GeoHazard.Notifications.Pipeline

namespace GeoHazard
open OutboxWorker Transition

variable {G W : Type} [DecidableEq W] {env : Env G} {gis : Gis G} {settings : MatchSettings}
  {deliver : DeliverSettings} {s t u v : PipelineState G W} {a : PipelineAction G W}
  {as bs : List (PipelineAction G W)} {d : Delivery} {w : W} {event_id : Nat} {now : Timestamptz}

theorem PipelineInv.run (h : PipelineInv as s) (hr : PipelineRun env gis settings deliver s bs t) :
    PipelineInv (as ++ bs) t ∧
      headers_of s.db.outbox_events <+: headers_of t.db.outbox_events := by
  induction hr with
  | nil => exact ⟨by simpa using h, List.prefix_refl _⟩
  | snoc hr hs ih =>
      obtain ⟨hi, hpre⟩ := ih
      refine ⟨by rw [← List.append_assoc]; exact hi.step hs, hpre.trans ?_⟩
      rcases hi.headers hs with heq | ⟨payload, heq⟩
      · exact heq ▸ List.prefix_refl _
      · exact heq ▸ List.prefix_append _ _

omit [DecidableEq W] in
theorem mem_headers {events : List OutboxEvent} {x : Nat × PyJson × Nat} (h : x ∈ headers_of events) :
    ∃ e ∈ events, e.id = x.1 ∧ e.payload = x.2.1 ∧ e.max_retries = x.2.2 := by
  obtain ⟨e, he, rfl⟩ := List.mem_map.mp h
  exact ⟨e, he, rfl, rfl, rfl⟩

theorem PipelineStep.handled_inv
    (h : PipelineStep env gis settings deliver s (.handled w event_id now) t) :
    ∃ d r, s.txs w = some d ∧ d.event.id = event_id ∧
      match_notifications gis settings d.event.payload now
      s.db.hazard_events s.notifications.db = .ok r ∧ t.notifications.db = r.1 := by
  generalize ha : PipelineAction.handled w event_id now = a at h
  cases h with
  | handled hw hm _ =>
      obtain ⟨rfl, rfl, rfl⟩ := PipelineAction.handled.inj ha
      exact ⟨_, _, hw, rfl, hm, rfl⟩
  | _ => simp at ha

theorem pending_row {s t : DeliverState G} {a : DeliverAction G} (hi : DeliverInv s)
    (hs : DeliverStep gis settings deliver s a t) (hd : d ∈ s.db.deliveries)
    (hp : d.status = .pending) :
    (∃ d' ∈ t.db.deliveries, SameDelivery d d' ∧ d'.status = .pending) ∨
      (∃ m ∈ t.accepted, d.id ∈ m.claim.delivery_ids) ∨ a = .removed d.subscription_id ∨
      Pauses s a t d.subscription_id := by
  rcases hs.rows.after d hd hi.owned hp with hremoved | ⟨d', hfate, hd'⟩
  · exact .inr (.inr (.inl hremoved))
  · cases hfate with
    | kept same status =>
        have hst : d'.status = .pending := status.trans hp
        exact .inl ⟨d', hd'.resolve_right (fun hne => hne hst), same, hst⟩
    | @sent _ _ run o recording mem accepted _ claimed =>
        obtain ⟨message_id, hid⟩ := Option.ne_none_iff_exists'.mp accepted.2
        have hm := hi.sending run recording o mem message_id hid
        exact .inr (.inl ⟨_, (hs.sending hi.sending).1 _ hm, claimed⟩)
    | dropped _ _ _ pauses => exact .inr (.inr (.inr pauses))

-- a pause of the subscription, by hand or by the run that records a failure
def Pausing (id : Nat) (s : PipelineState G W) (a : PipelineAction G W) (t : PipelineState G W) :
    Prop :=
  ∃ b, a = .delivery b ∧ Pauses s.notifications b t.notifications id

-- what a run has made of a delivery that was pending when it began
inductive DeliveryFate (env : Env G) (gis : Gis G) (settings : MatchSettings)
    (deliver : DeliverSettings) (s : PipelineState G W) (as : List (PipelineAction G W))
    (t : PipelineState G W) (d : Delivery) : Prop
  | waiting {d' : Delivery} (mem : d' ∈ t.notifications.db.deliveries) (same : SameDelivery d d')
      (status : d'.status = .pending)
  | accepted {m : Message} (mem : m ∈ t.notifications.accepted)
      (claimed : d.id ∈ m.claim.delivery_ids)
  | removed (mem : .delivery (.removed d.subscription_id) ∈ as)
  | paused (passes : Passes (PipelineStep env gis settings deliver) (Pausing d.subscription_id) s as t)

theorem PipelineInv.fate (h : PipelineInv as s) (hr : PipelineRun env gis settings deliver s bs t)
    (hd : d ∈ s.notifications.db.deliveries) (hp : d.status = .pending) :
    DeliveryFate env gis settings deliver s bs t d := by
  induction hr with
  | nil => exact .waiting hd (.refl d) hp
  | @snoc t u bs a hr hs ih =>
      have hi := (h.run hr).1.delivering
      cases ih with
      | @waiting d' mem same status =>
          rcases hs.delivers with heq | ⟨b, hb, hor⟩
          · exact .waiting (heq ▸ mem) same status
          rcases pending_row hi hb mem status with ⟨d'', hd'', hsame, hst⟩ | ⟨m, hm, hid⟩ | rfl |
            hpauses
          · exact .waiting hd'' (same.trans hsame) hst
          · exact .accepted hm (same.id ▸ hid)
          · rcases hor with hmatch | rfl
            · simp [DeliverAction.is_match] at hmatch
            · rw [same.subscription_id]
              exact .removed (List.mem_append_right _ (List.mem_singleton_self _))
          · rcases hor with hmatch | rfl
            · rcases hpauses with rfl | ⟨now, run, o, rfl, -⟩ <;>
                simp [DeliverAction.is_match] at hmatch
            · exact .paused (hr.passes_last hs ⟨b, rfl, same.subscription_id ▸ hpauses⟩)
      | accepted mem claimed =>
          rcases hs.delivers with heq | ⟨b, hb, -⟩
          · exact .accepted (heq ▸ mem) claimed
          · exact .accepted ((hb.sending hi.sending).1 _ mem) claimed
      | removed mem => exact .removed (List.mem_append_left _ mem)
      | paused passes => exact .paused (passes.snoc hs)

-- every active subscriber whose area and terms an event of the batch meets
def AllWarned (gis : Gis G) (settings : MatchSettings) (source : Source) (batch_at : Timestamptz)
    (s t : PipelineState G W) : Prop :=
  ∀ r ∈ s.notifications.db.subscriptions, ∀ area ∈ s.notifications.db.watch_areas,
    ∀ e ∈ s.db.hazard_events,
      MatchingRepo.joined gis source batch_at settings.quake_max_age r area e = true →
      Warned (MatchBatchUseCase.slot_of gis (MatchingRepo.to_match gis r e)) e.severity.val
        s.notifications.db t.notifications.db

-- what a run has made of the event e that was published when it began
inductive BatchFate (env : Env G) (gis : Gis G) (settings : MatchSettings)
    (deliver : DeliverSettings) (source : Source) (batch_at : Timestamptz) (t : PipelineState G W)
    (bs : List (PipelineAction G W)) (u : PipelineState G W) (e : OutboxEvent) : Prop
  | waiting (status : e.status = .PENDING) (count : e.retry_count = failed_dispatches e.id bs)
      (few : e.retry_count < OUTBOX_MAX_RETRIES)
  | given_up (status : e.status = .FAILED) (count : failed_dispatches e.id bs = OUTBOX_MAX_RETRIES)
  | matched (status : e.status = .PROCESSED) {before after : List (PipelineAction G W)} {w : W}
      {now : Timestamptz} {v v' : PipelineState G W}
      (split : bs = before ++ .handled w e.id now :: after)
      (until_ : PipelineRun env gis settings deliver t before v)
      (step : PipelineStep env gis settings deliver v (.handled w e.id now) v')
      (since : PipelineRun env gis settings deliver v' after u)
      (warned : AllWarned gis settings source batch_at v v')
      (fates : ∀ d ∈ v'.notifications.db.deliveries, d.status = .pending →
        DeliveryFate env gis settings deliver v' after u d)

theorem PipelineInv.warned {source : Source} {batch_at : Datetime} {payload : PyJson} {n : Nat}
    (h : PipelineInv as s) (hs : PipelineStep env gis settings deliver s (.handled w event_id now) t)
    (hheader : (event_id, payload, n) ∈ headers_of s.db.outbox_events)
    (hsource : source_of payload = some source) (hbatch : batch_at_of payload = some batch_at) :
    AllWarned gis settings source batch_at.instant s t := by
  obtain ⟨d, r, hw, hid, hm, ht⟩ := hs.handled_inv
  obtain ⟨cs, hcs⟩ := h.traced
  obtain ⟨e, he, heid, hpayload, -⟩ := mem_headers hheader
  obtain rfl := Table.unique_eq hcs.inv.unique (hcs.inv.txs w d hw).event he (hid.trans heid.symm)
  rw [hpayload] at hm
  rcases match_notifications_ok hm with ⟨hraw, -⟩ | ⟨source', batch_at', hs', hb', hx⟩
  · simp [batch_at_of, hraw] at hbatch
  · obtain rfl := Option.some.inj (hsource.symm.trans hs')
    obtain rfl := Option.some.inj (hbatch.symm.trans hb')
    intro sub hsub area harea event hevent hjoined
    rw [ht]
    exact (MatchBatchUseCase.execute_warned h.paced hx).2 sub hsub area harea event hevent hjoined

theorem PipelineInv.batch_fate {source : Source} {batch_at : Datetime} {payload : PyJson}
    {e : OutboxEvent} (h : PipelineInv as t) (hr : PipelineRun env gis settings deliver t bs u)
    (hnew : ∀ w now, .handled w e.id now ∉ as) (hcount : failed_dispatches e.id as = 0)
    (hheader : (e.id, payload, OUTBOX_MAX_RETRIES) ∈ headers_of t.db.outbox_events)
    (he : e ∈ u.db.outbox_events) (hmax : e.max_retries = OUTBOX_MAX_RETRIES)
    (hsource : source_of payload = some source) (hbatch : batch_at_of payload = some batch_at) :
    BatchFate env gis settings deliver source batch_at.instant t bs u e := by
  obtain ⟨cs, hcs⟩ := (h.run hr).1.traced
  have hok := hcs.inv.events e he
  have hretries : e.retry_count = failed_dispatches e.id bs := by
    rw [hok.count, hcs.failures, failed_dispatches_append, hcount, Nat.zero_add]
  cases hst : e.status with
  | PENDING =>
      refine .waiting hst hretries (lt_of_le_of_ne (hmax ▸ hok.bound) (fun heq => ?_))
      have hfailed := hok.failed.mpr (heq.trans hmax.symm)
      simp [hst] at hfailed
  | FAILED => exact .given_up hst (hretries.symm.trans ((hok.failed.mp hst).trans hmax))
  | PROCESSED =>
      obtain ⟨registered, hpicked, hall⟩ := hcs.called.processed hcs.inv he hst
      obtain rfl := hcs.picked e.id registered hpicked
      obtain ⟨w, now, hm⟩ := hcs.handled e.id (hall "match_notifications" (by decide))
      obtain ⟨before, after, v, v', hsplit, hv, hstep, hafter⟩ :=
        hr.split ((List.mem_append.mp hm).resolve_left (hnew w now))
      obtain ⟨hiv, hpre⟩ := h.run hv
      exact .matched hst hsplit hv hstep hafter
        (hiv.warned hstep (hpre.subset hheader) hsource hbatch)
        (fun d hd hp => (hiv.step hstep).fate hafter hd hp)

theorem ingested_batch_reaches_subscribers {a : SyncAction}
    (h : PipelineRun env gis settings deliver (.init G W) as s)
    (hs : PipelineStep env gis settings deliver s (.synced a) t)
    (hwrote : t.db.hazard_events ≠ s.db.hazard_events)
    (hr : PipelineRun env gis settings deliver t bs u) :
    ∃ tx fetched, a = .committed tx fetched ∧ ∃ e ∈ u.db.outbox_events,
      e.id = s.db.outbox_events.length ∧ source_of e.payload = some fetched.source ∧
      batch_at_of e.payload = some tx.now ∧
      BatchFate env gis settings deliver fetched.source tx.mark t bs u e := by
  have hi := PipelineRuns.inv h
  have hi' := hi.step hs
  cases hs with
  | @synced _ db hsync =>
      rcases hsync.batch with ⟨hrows, -⟩ | ⟨tx, fetched, counts, rfl, hcounts, hout⟩
      · exact absurd hrows hwrote
      have hheader : (s.db.outbox_events.length, batch_payload fetched.source tx.now counts,
          OUTBOX_MAX_RETRIES) ∈ headers_of db.outbox_events := by
        rw [hout, EventBus.publish, headers_of, List.map_append]
        exact List.mem_append_right _ (List.mem_singleton_self _)
      obtain ⟨e, he, hid, hpayload, hmax⟩ := mem_headers ((hi'.run hr).2.subset hheader)
      have hsource := source_of_batch_payload fetched.source tx.now counts
      have hbatch := @batch_at_of_batch_payload fetched.source tx.now counts hcounts
      refine ⟨tx, fetched, rfl, e, he, hid, hpayload ▸ hsource, hpayload ▸ hbatch,
        hi'.batch_fate hr (fun w now hm => ?_) ?_ (hid ▸ hheader) he hmax hsource hbatch⟩
      · rw [hid] at hm
        rcases List.mem_append.mp hm with hm | hm
        · exact absurd (hi.handled w _ now hm) (lt_irrefl _)
        · simp at hm
      · obtain ⟨cs, hcs⟩ := hi.traced
        rw [hid, failed_dispatches_append, ← hcs.failures,
          hcs.inv.published _ (fun e he => (hi.mem_lt he).ne)]
        rfl

-- one subscriber, one alert, and the dispatch that matches it
def batch_event : OutboxEvent :=
  .fresh 0 BATCH_INGESTED
    (batch_payload .aemet (july 2 11) [("inserted", 1), ("updated", 0), ("closed", 0)])
    OUTBOX_MAX_RETRIES (july 2 11).instant

def enlisted : PipelineState Ring Unit := ⟨Db.empty Ring, fun _ => none, ⟨enrolled, none, []⟩⟩

def ingested_batch : PipelineState Ring Unit := { enlisted with db := alerted }

def dispatching_batch (results : List HandlerResult) (remaining : List String)
    (notifications : DeliverState Ring) : PipelineState Ring Unit :=
  ⟨alerted, fun _ => some ⟨batch_event, BATCH_INGESTED_HANDLERS, results, remaining⟩, notifications⟩

def batch_results : List HandlerResult :=
  [called_result "export_geoparquet" none, called_result "match_notifications" none]

def batch_matched : PipelineState Ring Unit :=
  ⟨{ alerted with outbox_events :=
      [handle_event batch_results (july 2 12) (july 2 12).instant 0 batch_event] },
    fun _ => none, waiting⟩

def to_matched : List (PipelineAction Ring Unit) :=
  [.outbox (.pick () 0 (july 2 12).instant BATCH_INGESTED_HANDLERS),
    .outbox (.call () 0 "export_geoparquet" none), .handled () 0 (july 2 12).instant,
    .outbox (.commit () ⟨batch_event, BATCH_INGESTED_HANDLERS, batch_results, []⟩ (july 2 12)
      (july 2 12).instant 0)]

abbrev BatchStep :
    PipelineState Ring Unit → PipelineAction Ring Unit → PipelineState Ring Unit → Prop :=
  PipelineStep (planar_env id) planar_gis default_settings default_deliver

theorem enlisted_step : BatchStep (.init _ _)
    (.delivery (.added watched_area [.weather_warning] severity_one .ntfy "https://ntfy.sh" "topic"))
    enlisted :=
  .delivery rfl rfl

theorem ingested_step : BatchStep enlisted
    (.synced (.committed (ran_at 1 (july 2 11)) (.aemet alert_bulletin))) ingested_batch :=
  .synced alerted_step

theorem picked_batch : BatchStep ingested_batch
    (.outbox (.pick () 0 (july 2 12).instant BATCH_INGESTED_HANDLERS))
    (dispatching_batch [] BATCH_INGESTED_HANDLERS ⟨enrolled, none, []⟩) := by
  have hpick : OutboxStep (⟨[batch_event], fun _ => none⟩ : OutboxState Unit)
      (.pick () batch_event.id (july 2 12).instant BATCH_INGESTED_HANDLERS) _ :=
    .pick rfl ⟨by simp, rfl, by decide, by simp⟩
      (fun e' he => by rw [List.mem_singleton.mp he.1]) (by decide)
  rw [begin_unit] at hpick
  have hread : Dispatching (.pick () batch_event.id (july 2 12).instant BATCH_INGESTED_HANDLERS) := rfl
  exact @PipelineStep.outbox _ _ _ _ _ _ _ ingested_batch _ _ hread hpick

theorem exported_batch : BatchStep
    (dispatching_batch [] BATCH_INGESTED_HANDLERS ⟨enrolled, none, []⟩)
    (.outbox (.call () 0 "export_geoparquet" none))
    (dispatching_batch [called_result "export_geoparquet" none] ["match_notifications"]
      ⟨enrolled, none, []⟩) := by
  have hcall := @OutboxStep.call Unit _
    (dispatching_batch [] BATCH_INGESTED_HANDLERS ⟨enrolled, none, []⟩).outbox () _ _ _ none rfl rfl
    (by decide)
  rw [begin_unit] at hcall
  have hother : Dispatching (.call () batch_event.id "export_geoparquet" none) := by
    simp [Dispatching]
  exact @PipelineStep.outbox _ _ _ _ _ _ _ _ _ _ hother hcall

theorem matched_batch : BatchStep
    (dispatching_batch [called_result "export_geoparquet" none] ["match_notifications"]
      ⟨enrolled, none, []⟩)
    (.handled () 0 (july 2 12).instant) (dispatching_batch batch_results [] waiting) := by
  obtain ⟨n, hn⟩ := @MatchStep.after .aemet (july 2 11).instant (july 2 12).instant
    alerted.hazard_events enrolled (by decide +kernel)
  have hcall := @OutboxStep.call Unit _
    (dispatching_batch [called_result "export_geoparquet" none] ["match_notifications"]
      ⟨enrolled, none, []⟩).outbox () _ _ _ none rfl rfl (by decide)
  rw [begin_unit] at hcall
  have hm : match_notifications planar_gis default_settings batch_event.payload (july 2 12).instant
      alerted.hazard_events enrolled = .ok (waiting.db, n) := hn
  exact @PipelineStep.handled _ _ _ _ _ _ _ (dispatching_batch _ _ ⟨enrolled, none, []⟩) () _
    (july 2 12).instant (waiting.db, n) _ rfl hm hcall

theorem ended_batch : BatchStep (dispatching_batch batch_results [] waiting)
    (.outbox (.commit () ⟨batch_event, BATCH_INGESTED_HANDLERS, batch_results, []⟩ (july 2 12)
      (july 2 12).instant 0)) batch_matched := by
  have hcommit := @OutboxStep.commit Unit _ (dispatching_batch batch_results [] waiting).outbox ()
    ⟨batch_event, BATCH_INGESTED_HANDLERS, batch_results, []⟩ (july 2 12) (july 2 12).instant 0 rfl rfl
  rw [Function.update_eq_const_of_subsingleton] at hcommit
  have hends : Dispatching (.commit () ⟨batch_event, BATCH_INGESTED_HANDLERS, batch_results, []⟩
      (july 2 12) (july 2 12).instant 0) := trivial
  exact @PipelineStep.outbox _ _ _ _ _ _ _ _ _ _ hends hcommit

theorem ingested_batch_reaches_subscribers_matched :
    batch_matched.db.outbox_events.map OutboxEvent.status = [.PROCESSED] ∧
    ∃ tx fetched, SyncAction.committed (ran_at 1 (july 2 11)) (.aemet alert_bulletin) =
        .committed tx fetched ∧
      ∃ e ∈ batch_matched.db.outbox_events, e.id = enlisted.db.outbox_events.length ∧
        source_of e.payload = some fetched.source ∧ batch_at_of e.payload = some tx.now ∧
        BatchFate (planar_env id) planar_gis default_settings default_deliver fetched.source tx.mark
          ingested_batch to_matched batch_matched e :=
  ⟨rfl, ingested_batch_reaches_subscribers (.one enlisted_step) ingested_step
    (fun h => absurd (congrArg List.length h) (by decide +kernel))
    (.cons picked_batch (.cons exported_batch (.cons matched_batch (.one ended_batch))))⟩

end GeoHazard

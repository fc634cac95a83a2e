import GeoHazard.Core.OutboxCalls
import GeoHazard.Hazards.SnapshotRuns
import GeoHazard.Notifications.MatchCoverage

namespace GeoHazard
open OutboxWorker Transition

variable {G W : Type}

-- the handler of hazards.batch_ingested and the commit of its session; 0 is no notification made
def match_notifications (gis : Gis G) (settings : MatchSettings) (payload : PyJson)
    (now : Timestamptz) (events : List (HazardEvent G)) (db : NotificationsDb G) :
    Except PyError (NotificationsDb G × Nat) :=
  match raw_batch_at payload, source_of payload, batch_at_of payload with
  | none, _, _ => .ok (db, 0)
  | some _, some source, some batch_at =>
      MatchBatchUseCase.execute gis settings source batch_at.instant now events db
  | some raw, _, _ => .error (.value_error "Invalid isoformat string" (some raw))

-- the tables of the three subsystems, the dispatches of the outbox and the run that delivers
structure PipelineState (G W : Type) where
  db : Db G
  txs : W → Option Dispatch
  notifications : DeliverState G

def PipelineState.init (G W : Type) : PipelineState G W :=
  ⟨Db.empty G, fun _ => none, DeliverState.empty⟩

def PipelineState.outbox (s : PipelineState G W) : OutboxState W := ⟨s.db.outbox_events, s.txs⟩

def PipelineState.with_outbox (s : PipelineState G W) (o : OutboxState W) : PipelineState G W :=
  { s with db := { s.db with outbox_events := o.events }, txs := o.txs }

def PipelineState.notify (s : PipelineState G W) (db : NotificationsDb G) : PipelineState G W :=
  { s with notifications := s.notifications.write db }

inductive PipelineAction (G W : Type) where
  | synced (a : SyncAction)
  | outbox (a : OutboxAction W)
  | handled (w : W) (event_id : Nat) (now : Timestamptz)
  | raised (w : W) (event_id : Nat) (error : String)
  | timed_out (w : W) (event_id : Nat) (error : String) (now : Timestamptz)
  | crashed (w : W) (now : Timestamptz)
  | delivery (a : DeliverAction G)

-- what a worker does by itself; publishing is part of a sync and match_notifications apart
def Dispatching : OutboxAction W → Prop
  | .publish _ => False
  | .pick _ _ _ registered => registered = BATCH_INGESTED_HANDLERS
  | .call _ _ handler _ => handler ≠ "match_notifications"
  | _ => True

def DeliverAction.is_match : DeliverAction G → Bool
  | .matched _ _ _ _ => true
  | _ => false

variable [DecidableEq W]

inductive PipelineStep (env : Env G) (gis : Gis G) (settings : MatchSettings)
    (deliver : DeliverSettings) :
    PipelineState G W → PipelineAction G W → PipelineState G W → Prop
  | synced {s : PipelineState G W} {a : SyncAction} {db : Db G} (h : SyncStep env s.db a db) :
      PipelineStep env gis settings deliver s (.synced a) { s with db := db }
  | outbox {s : PipelineState G W} {a : OutboxAction W} {o : OutboxState W} (ha : Dispatching a)
      (h : OutboxStep s.outbox a o) :
      PipelineStep env gis settings deliver s (.outbox a) (s.with_outbox o)
  | handled {s : PipelineState G W} {w : W} {d : Dispatch} {now : Timestamptz}
      {r : NotificationsDb G × Nat} {o : OutboxState W} (hw : s.txs w = some d)
      (hm : match_notifications gis settings d.event.payload now s.db.hazard_events
        s.notifications.db = .ok r)
      (h : OutboxStep s.outbox (.call w d.event.id "match_notifications" none) o) :
      PipelineStep env gis settings deliver s (.handled w d.event.id now)
        ((s.with_outbox o).notify r.1)
  -- its session is rolled back
  | raised {s : PipelineState G W} {w : W} {event_id : Nat} {error : String} {o : OutboxState W}
      (h : OutboxStep s.outbox (.call w event_id "match_notifications" (some error)) o) :
      PipelineStep env gis settings deliver s (.raised w event_id error) (s.with_outbox o)
  -- wait_for gives up, or the process ends, when the commit has already been made
  | timed_out {s : PipelineState G W} {w : W} {d : Dispatch} {error : String} {now : Timestamptz}
      {r : NotificationsDb G × Nat} {o : OutboxState W} (hw : s.txs w = some d)
      (hm : match_notifications gis settings d.event.payload now s.db.hazard_events
        s.notifications.db = .ok r)
      (h : OutboxStep s.outbox (.call w d.event.id "match_notifications" (some error)) o) :
      PipelineStep env gis settings deliver s (.timed_out w d.event.id error now)
        ((s.with_outbox o).notify r.1)
  | crashed {s : PipelineState G W} {w : W} {d : Dispatch} {rest : List String} {now : Timestamptz}
      {r : NotificationsDb G × Nat} (hw : s.txs w = some d)
      (hr : d.remaining = "match_notifications" :: rest)
      (hc : "match_notifications" ∉ completed d.event)
      (hm : match_notifications gis settings d.event.payload now s.db.hazard_events
        s.notifications.db = .ok r) :
      PipelineStep env gis settings deliver s (.crashed w now)
        ((s.with_outbox (s.outbox.begin_ w none)).notify r.1)
  | delivery {s : PipelineState G W} {a : DeliverAction G} {t : DeliverState G}
      (ha : a.is_match = false) (h : DeliverStep gis settings deliver s.notifications a t) :
      PipelineStep env gis settings deliver s (.delivery a) { s with notifications := t }

abbrev PipelineRun (env : Env G) (gis : Gis G) (settings : MatchSettings)
    (deliver : DeliverSettings) :
    PipelineState G W → List (PipelineAction G W) → PipelineState G W → Prop :=
  Run (PipelineStep env gis settings deliver)

def PipelineAction.failed (id : Nat) : PipelineAction G W → Bool
  | .outbox a => a.failed id
  | _ => false

-- the dispatches of the event that ended with a handler's failure
def failed_dispatches (id : Nat) (as : List (PipelineAction G W)) : Nat :=
  as.countP (PipelineAction.failed id)

variable {env : Env G} {gis : Gis G} {settings : MatchSettings} {deliver : DeliverSettings}
  {s t u : PipelineState G W} {a : PipelineAction G W} {as bs : List (PipelineAction G W)}
  {payload : PyJson} {now : Timestamptz}

omit [DecidableEq W] in
theorem failed_dispatches_append (id : Nat) (as bs : List (PipelineAction G W)) :
    failed_dispatches id (as ++ bs) = failed_dispatches id as + failed_dispatches id bs :=
  List.countP_append

theorem match_notifications_ok {events : List (HazardEvent G)} {db : NotificationsDb G}
    {r : NotificationsDb G × Nat}
    (h : match_notifications gis settings payload now events db = .ok r) :
    (raw_batch_at payload = none ∧ r.1 = db) ∨
    ∃ source batch_at, source_of payload = some source ∧ batch_at_of payload = some batch_at ∧
      MatchBatchUseCase.execute gis settings source batch_at.instant now events db = .ok r := by
  unfold match_notifications at h
  split at h
  · next hraw => exact .inl ⟨hraw, congrArg Prod.fst (Except.ok.inj h).symm⟩
  · next hsource hbatch => exact .inr ⟨_, _, hsource, hbatch, h⟩
  · simp at h

theorem PipelineStep.delivers (h : PipelineStep env gis settings deliver s a t) :
    t.notifications = s.notifications ∨
    ∃ b, DeliverStep gis settings deliver s.notifications b t.notifications ∧
      (b.is_match = true ∨ a = .delivery b) := by
  have hmatch : ∀ {now : Timestamptz} {payload : PyJson} {r : NotificationsDb G × Nat},
      match_notifications gis settings payload now s.db.hazard_events s.notifications.db = .ok r →
      s.notifications.write r.1 = s.notifications ∨
      ∃ b, DeliverStep gis settings deliver s.notifications b (s.notifications.write r.1) ∧
        (b.is_match = true ∨ a = .delivery b) := by
    intro now payload r hm
    rcases match_notifications_ok hm with ⟨-, hr⟩ | ⟨source, batch_at, -, -, hx⟩
    · exact .inl (by rw [DeliverState.write, hr])
    · exact .inr ⟨.matched source batch_at.instant now s.db.hazard_events, ⟨r.1, r.2, hx, rfl⟩,
        .inl rfl⟩
  cases h with
  | synced => exact .inl rfl
  | outbox => exact .inl rfl
  | handled _ hm => exact hmatch hm
  | raised => exact .inl rfl
  | timed_out _ hm => exact hmatch hm
  | crashed _ _ _ hm => exact hmatch hm
  | delivery _ h => exact .inr ⟨_, h, .inr rfl⟩

theorem SyncStep.batch {db db' : Db G} {a : SyncAction} (h : SyncStep env db a db') :
    (db'.hazard_events = db.hazard_events ∧ db'.outbox_events = db.outbox_events) ∨
    ∃ tx fetched counts, a = .committed tx fetched ∧ "batch_at" ∉ Dict.keys counts ∧
      db'.outbox_events = EventBus.publish BATCH_INGESTED
        (batch_payload fetched.source tx.now counts) tx.mark db.outbox_events := by
  cases h with
  | rolled_back => exact .inl ⟨rfl, rfl⟩
  | failed => exact .inl ⟨rfl, rfl⟩
  | @committed tx fetched _ _ result h =>
      obtain ⟨hwrote, ⟨counts, hcounts, hout⟩, _⟩ := Fetched.execute_ingested h
      cases hch : result.changed with
      | false =>
          have hzero : result.inserted + result.updated + result.closed = 0 := by
            simp [SyncResult.changed] at hch
            omega
          exact .inl ⟨hwrote.none hzero, by rw [hout, outbox_after, hch]; rfl⟩
      | true =>
          exact .inr ⟨tx, fetched, counts, rfl, hcounts, by rw [hout, outbox_after, hch]; rfl⟩

-- what no dispatch writes of an event
def headers_of (events : List OutboxEvent) : List (Nat × PyJson × Nat) :=
  events.map (fun e => (e.id, e.payload, e.max_retries))

theorem OutboxWorker.OutboxStep.headers {o o' : OutboxState W} {b : OutboxAction W}
    (h : OutboxStep o b o') :
    headers_of o'.events = headers_of o.events ∨ ∃ e, b = .publish e ∧
      headers_of o'.events = headers_of o.events ++ headers_of [e] := by
  cases h with
  | publish => exact .inr ⟨_, rfl, by simp [headers_of]⟩
  | commit =>
      refine .inl ?_
      simp only [headers_of, Table.update, List.map_map]
      refine List.map_congr_left (fun e _ => ?_)
      simp only [Function.comp_apply]
      split
      · rw [handle_event_id, handle_event_payload, handle_event_max_retries]
      · rfl
  | _ => exact .inl rfl

structure OutboxMove (s : PipelineState G W) (a : PipelineAction G W) (t : PipelineState G W)
    (b : OutboxAction W) : Prop where
  step : OutboxStep s.outbox b t.outbox
  failed : ∀ id, b.failed id = a.failed id
  picked : ∀ w id now registered, b = .pick w id now registered →
    registered = BATCH_INGESTED_HANDLERS
  returned : ∀ w id, b = .call w id "match_notifications" none → ∃ now, a = .handled w id now
  published : ∀ e, b = .publish e → ∃ payload now,
    e = .fresh s.db.outbox_events.length BATCH_INGESTED payload OUTBOX_MAX_RETRIES now

theorem PipelineStep.outbox_move (h : PipelineStep env gis settings deliver s a t)
    (hids : ∀ e ∈ s.db.outbox_events, e.id ≠ s.db.outbox_events.length) :
    (t.outbox = s.outbox ∧ ∀ id, a.failed id = false) ∨ ∃ b, OutboxMove s a t b := by
  cases h with
  | @synced _ db h =>
      rcases h.batch with ⟨-, hout⟩ | ⟨tx, fetched, counts, -, -, hout⟩
      · exact .inl ⟨by rw [PipelineState.outbox, hout]; rfl, fun _ => rfl⟩
      · have hpublish := @OutboxStep.publish W _ s.outbox s.db.outbox_events.length
          OUTBOX_MAX_RETRIES BATCH_INGESTED (batch_payload fetched.source tx.now counts) tx.mark
          hids (by decide)
        have ht : PipelineState.outbox { s with db := db } =
            ⟨EventBus.publish BATCH_INGESTED (batch_payload fetched.source tx.now counts) tx.mark
              s.db.outbox_events, s.txs⟩ := congrArg (OutboxState.mk · s.txs) hout
        refine .inr ⟨_, ht ▸ hpublish, fun _ => rfl, by simp, by simp, fun e he => ?_⟩
        obtain rfl := OutboxAction.publish.inj he
        exact ⟨_, _, rfl⟩
  | outbox ha h =>
      refine .inr ⟨_, h, fun _ => rfl, fun w id now registered he => ?_, fun w id he => ?_,
        fun e he => ?_⟩
      · subst he
        exact ha
      · subst he
        exact absurd rfl ha
      · subst he
        exact ha.elim
  | handled hw hm h =>
      refine .inr ⟨_, h, fun _ => rfl, by simp, fun w id he => ?_, by simp⟩
      obtain ⟨rfl, rfl, -, -⟩ := OutboxAction.call.inj he
      exact ⟨_, rfl⟩
  | raised h => exact .inr ⟨_, h, fun _ => rfl, by simp, by simp, by simp⟩
  | timed_out hw hm h => exact .inr ⟨_, h, fun _ => rfl, by simp, by simp, by simp⟩
  | @crashed w d rest now r hw hr hc hm =>
      exact .inr ⟨.crash w, .crash s.outbox w, fun _ => rfl, by simp, by simp, by simp⟩
  | delivery => exact .inl ⟨rfl, fun _ => rfl⟩

theorem PipelineStep.rows (h : PipelineStep env gis settings deliver s a t) :
    t.db.hazard_events = s.db.hazard_events ∨ ∃ b, SyncStep env s.db b t.db := by
  cases h with
  | synced h => exact .inr ⟨_, h⟩
  | _ => exact .inl rfl

structure Traced (as : List (PipelineAction G W)) (bs : List (OutboxAction W))
    (s : PipelineState G W) : Prop where
  inv : OutboxWorker.Inv bs s.outbox
  called : Called bs s.outbox
  failures : ∀ id, failures id bs = failed_dispatches id as
  picked : ∀ id registered, Picked bs id registered → registered = BATCH_INGESTED_HANDLERS
  handled : ∀ id, Answered bs id "match_notifications" → ∃ w now, .handled w id now ∈ as

omit [DecidableEq W] in
theorem Traced.still {cs : List (OutboxAction W)} (h : Traced as cs s) (ho : t.outbox = s.outbox)
    (ha : ∀ id, a.failed id = false) : Traced (as ++ [a]) cs t where
  inv := ho ▸ h.inv
  called := ho ▸ h.called
  failures id := by
    rw [failed_dispatches_append, h.failures]
    simp [failed_dispatches, ha]
  picked := h.picked
  handled id hid := by
    obtain ⟨w, now, hm⟩ := h.handled id hid
    exact ⟨w, now, List.mem_append_left _ hm⟩

theorem Traced.move {cs : List (OutboxAction W)} {b : OutboxAction W} (h : Traced as cs s)
    (hb : OutboxMove s a t b) : Traced (as ++ [a]) (cs ++ [b]) t where
  inv := h.inv.step hb.step
  called := h.called.step h.inv hb.step
  failures id := by
    rw [failures_append, failed_dispatches_append, h.failures, hb.failed]
    simp [failed_dispatches, List.countP_cons]
  picked id registered hp := by
    obtain ⟨w, now, hm⟩ := hp
    rcases List.mem_append.mp hm with hm | hm
    · exact h.picked id registered ⟨w, now, hm⟩
    · exact hb.picked w id now registered (List.mem_singleton.mp hm).symm
  handled id hid := by
    obtain ⟨w, hm⟩ := hid
    rcases List.mem_append.mp hm with hm | hm
    · obtain ⟨v, now, hv⟩ := h.handled id ⟨w, hm⟩
      exact ⟨v, now, List.mem_append_left _ hv⟩
    · obtain ⟨now, rfl⟩ := hb.returned w id (List.mem_singleton.mp hm).symm
      exact ⟨w, now, List.mem_append_right _ (List.mem_singleton_self _)⟩

structure PipelineInv (as : List (PipelineAction G W)) (s : PipelineState G W) : Prop where
  keys : Table.Unique HazardEvent.key s.db.hazard_events
  ids : (headers_of s.db.outbox_events).map Prod.fst = List.range s.db.outbox_events.length
  retries : ∀ x ∈ headers_of s.db.outbox_events, x.2.2 = OUTBOX_MAX_RETRIES
  traced : ∃ bs, Traced as bs s
  handled : ∀ w id now, .handled w id now ∈ as → id < s.db.outbox_events.length
  paced : Paced s.notifications.db
  delivering : DeliverInv s.notifications

omit [DecidableEq W] in
theorem PipelineInv.init : PipelineInv [] (PipelineState.init G W) where
  keys := List.nodup_nil
  ids := rfl
  retries x hx := by simp [PipelineState.init, Db.empty, headers_of] at hx
  traced := by
    refine ⟨[], inv_init, .init, fun _ => rfl, fun id registered h => ?_, fun id h => ?_⟩
    · obtain ⟨w, now, hm⟩ := h
      simp at hm
    · obtain ⟨w, hm⟩ := h
      simp at hm
  handled w id now hm := by simp at hm
  paced := .empty
  delivering := .empty

omit [DecidableEq W] in
theorem PipelineInv.mem_lt (h : PipelineInv as s) {e : OutboxEvent} (he : e ∈ s.db.outbox_events) :
    e.id < s.db.outbox_events.length := by
  rw [← List.mem_range, ← h.ids, headers_of, List.map_map]
  exact List.mem_map_of_mem (f := fun e : OutboxEvent => e.id) he

theorem PipelineInv.headers (h : PipelineInv as s)
    (hs : PipelineStep env gis settings deliver s a t) :
    headers_of t.db.outbox_events = headers_of s.db.outbox_events ∨ ∃ payload,
      headers_of t.db.outbox_events = headers_of s.db.outbox_events ++
        [(s.db.outbox_events.length, payload, OUTBOX_MAX_RETRIES)] := by
  rcases hs.outbox_move (fun e he => (h.mem_lt he).ne) with ⟨ho, -⟩ | ⟨b, hb⟩
  · exact .inl (congrArg headers_of (congrArg OutboxState.events ho))
  · rcases hb.step.headers with heq | ⟨e, he, heq⟩
    · exact .inl heq
    · obtain ⟨payload, now, rfl⟩ := hb.published e he
      exact .inr ⟨payload, heq⟩

theorem PipelineInv.step (h : PipelineInv as s)
    (hs : PipelineStep env gis settings deliver s a t) : PipelineInv (as ++ [a]) t := by
  have hlen : s.db.outbox_events.length ≤ t.db.outbox_events.length ∧
      (headers_of t.db.outbox_events).map Prod.fst = List.range t.db.outbox_events.length ∧
      ∀ x ∈ headers_of t.db.outbox_events, x.2.2 = OUTBOX_MAX_RETRIES := by
    rcases h.headers hs with heq | ⟨payload, heq⟩
    · have hl := congrArg List.length heq
      simp only [headers_of, List.length_map] at hl
      exact ⟨hl.ge, by rw [heq, h.ids, hl], heq ▸ h.retries⟩
    · have hl := congrArg List.length heq
      simp only [headers_of, List.length_map, List.length_append, List.length_singleton] at hl
      refine ⟨by omega, by rw [heq, hl, List.range_succ, ← h.ids]; simp, fun x hx => ?_⟩
      rw [heq] at hx
      rcases List.mem_append.mp hx with hx | hx
      · exact h.retries x hx
      · rw [List.mem_singleton.mp hx]
  refine ⟨?_, hlen.2.1, hlen.2.2, ?_, fun w id now hm => ?_, ?_, ?_⟩
  · rcases hs.rows with heq | ⟨b, hb⟩
    · exact heq ▸ h.keys
    · exact hb.unique h.keys
  · obtain ⟨bs, hbs⟩ := h.traced
    rcases hs.outbox_move (fun e he => (h.mem_lt he).ne) with ⟨ho, hf⟩ | ⟨b, hb⟩
    · exact ⟨bs, hbs.still ho hf⟩
    · exact ⟨bs ++ [b], hbs.move hb⟩
  · rcases List.mem_append.mp hm with hm | hm
    · exact (h.handled w id now hm).trans_le hlen.1
    · obtain rfl := List.mem_singleton.mp hm
      obtain ⟨bs, hbs⟩ := h.traced
      cases hs with
      | handled hw => exact (h.mem_lt (hbs.inv.txs w _ hw).event).trans_le hlen.1
  · rcases hs.delivers with heq | ⟨b, hb, -⟩
    · exact heq ▸ h.paced
    · exact hb.paced h.paced
  · rcases hs.delivers with heq | ⟨b, hb, -⟩
    · exact heq ▸ h.delivering
    · exact hb.inv h.delivering

theorem PipelineRuns.inv (h : PipelineRun env gis settings deliver (.init G W) as s) :
    PipelineInv as s :=
  Run.history (fun _ _ _ _ hi hs => hi.step hs) h .init

end GeoHazard

import GeoHazard.Hazards.ExportGeoparquet

namespace GeoHazard

open Transition OutboxWorker

variable {G W : Type} [DecidableEq W] {env : Env G} {s t : ExportState G W} {source : Source}

theorem source_of_batch_payload (source : Source) (batch_at : Datetime) (counts : List (String × Nat)) :
    source_of (batch_payload source batch_at counts) = some source := by
  cases source <;> rfl

theorem handle_event_payload {results : List HandlerResult} {now : Datetime} {later : Timestamptz}
    {jitter : Nat} (event : OutboxEvent) :
    (handle_event results now later jitter event).payload = event.payload := by
  unfold handle_event
  grind

theorem SyncStep.published {db db' : Db G} {a : SyncAction} (h : SyncStep env db a db')
    (hu : Table.Unique HazardEvent.key db.hazard_events) :
    (db'.hazard_events = db.hazard_events ∧ db'.outbox_events = db.outbox_events) ∨
    ∃ source payload now, source_of payload = some source ∧
      db'.outbox_events = EventBus.publish BATCH_INGESTED payload now db.outbox_events ∧
      ∀ e : HazardEvent G, e.source ≠ source → (e ∈ db'.hazard_events ↔ e ∈ db.hazard_events) := by
  cases h with
  | rolled_back => exact .inl ⟨rfl, rfl⟩
  | failed => exact .inl ⟨rfl, rfl⟩
  | @committed tx fetched _ _ result h =>
      obtain ⟨hwrote, ⟨counts, _, hout⟩, _⟩ := Fetched.execute_ingested h
      cases hch : result.changed with
      | false =>
          have hzero : result.inserted + result.updated + result.closed = 0 := by
            simp [SyncResult.changed] at hch
            omega
          exact .inl ⟨hwrote.none hzero, by rw [hout, outbox_after, hch]; rfl⟩
      | true =>
          refine .inr ⟨fetched.source, _, _, source_of_batch_payload _ tx.now counts,
            by rw [hout, outbox_after, hch]; rfl, fun e hne => ?_⟩
          have hfind := hwrote.change.others e.key hne
          have hu' := hwrote.change.unique hu
          have hthen := @Table.find_unique _ _ _ HazardEvent.key e.key _ hu' e
          have hnow := @Table.find_unique _ _ _ HazardEvent.key e.key _ hu e
          rw [hfind, hnow] at hthen
          simpa using hthen.symm

def event_sources (events : List OutboxEvent) : List (Nat × Option Source) :=
  events.map (fun e => (e.id, source_of e.payload))

theorem OutboxWorker.OutboxStep.event_sources {o o' : OutboxState W} {a : OutboxAction W}
    (h : OutboxStep o a o') (ha : ∀ e, a ≠ .publish e) :
    event_sources o'.events = event_sources o.events := by
  cases h with
  | publish => exact absurd rfl (ha _)
  | commit =>
      simp only [GeoHazard.event_sources, Table.update, List.map_map]
      refine List.map_congr_left (fun e _ => ?_)
      simp only [Function.comp_apply]
      split
      · rw [handle_event_id, handle_event_payload]
      · rfl
  | _ => rfl

-- all that a step does to the database and to the dispatches
inductive Moved (env : Env G) (s t : ExportState G W) : Prop
  | synced {a : SyncAction} {db : Db G} (h : SyncStep env s.db a db) (db_eq : t.db = db)
      (txs : t.txs = s.txs) (history : t.history = s.history ++ [db])
  | outbox {a : OutboxAction W} (h : OutboxStep s.outbox a t.outbox) (ha : ∀ e, a ≠ .publish e)
      (pick : ∀ w id now registered, a = .pick w id now registered →
        registered = BATCH_INGESTED_HANDLERS)
      (hazard_events : t.db.hazard_events = s.db.hazard_events) (history : t.history = s.history)
  | thread (db : t.db = s.db) (txs : t.txs = s.txs)
      (history : t.history = s.history ∨ t.history = s.history ++ [s.db])

theorem ExportStep.moved {a : ExportAction W} (h : ExportStep env s a t) : Moved env s t := by
  cases h with
  | synced h => exact .synced h rfl rfl rfl
  | @outbox b o hb h =>
      refine .outbox h (fun e he => ?_) (fun w id now registered he => ?_) rfl rfl
      · subst he
        exact hb
      · subst he
        exact hb.1
  | started => exact .thread rfl rfl (.inl rfl)
  | fetched => exact .thread rfl rfl (.inr rfl)
  | copied => exact .thread rfl rfl (.inl rfl)
  | replaced => exact .thread rfl rfl (.inl rfl)
  | returned _ _ _ ho => exact .outbox ho (by simp) (by simp) rfl rfl
  | raised _ ho => exact .outbox ho (by simp) (by simp) rfl rfl
  | timed_out _ ho => exact .outbox ho (by simp) (by simp) rfl rfl
  | crashed => exact .outbox (.crash _ _) (by simp) (by simp) rfl rfl
  | ended => exact .thread rfl rfl (.inl rfl)

-- unless the source has an event that v does not know, v has its rows as they are now
def Seen (db v : Db G) : Prop :=
  ∀ source, (∀ p ∈ event_sources db.outbox_events, p.2 = some source → p.1 < v.outbox_events.length) →
    ∀ e : HazardEvent G, e.source = source → (e ∈ v.hazard_events ↔ e ∈ db.hazard_events)

structure Recording (s : ExportState G W) : Prop where
  keys : Table.Unique HazardEvent.key s.db.hazard_events
  ids : s.db.outbox_events.map OutboxEvent.id = List.range s.db.outbox_events.length
  outbox : ∃ as, OutboxWorker.Inv as s.outbox
  registered : ∀ w d, s.txs w = some d → d.registered = BATCH_INGESTED_HANDLERS
  seen : ∀ v ∈ s.history, Seen s.db v
  bounded : ∀ v ∈ s.history, v.outbox_events.length ≤ s.db.outbox_events.length
  ordered : s.history.Pairwise (fun v v' => v.outbox_events.length ≤ v'.outbox_events.length)

theorem Seen.rfl {db : Db G} : Seen db db := fun _ _ _ _ => Iff.rfl

theorem Seen.keep {db db' v : Db G} (h : Seen db v)
    (hs : event_sources db'.outbox_events = event_sources db.outbox_events)
    (hh : db'.hazard_events = db.hazard_events) : Seen db' v := by
  intro source hknown e he
  rw [hh]
  exact h source (hs ▸ hknown) e he

theorem Seen.publish {db db' v : Db G} {payload : PyJson} {now : Timestamptz} (h : Seen db v)
    (hp : source_of payload = some source)
    (ho : db'.outbox_events = EventBus.publish BATCH_INGESTED payload now db.outbox_events)
    (hrows : ∀ e : HazardEvent G, e.source ≠ source → (e ∈ db'.hazard_events ↔ e ∈ db.hazard_events))
    (hv : v.outbox_events.length ≤ db.outbox_events.length) : Seen db' v := by
  have hsources : event_sources db'.outbox_events =
      event_sources db.outbox_events ++ [(db.outbox_events.length, some source)] := by
    rw [ho, EventBus.publish, event_sources, List.map_append, ← hp]
    rfl
  intro other hknown e he
  rw [hsources] at hknown
  by_cases hother : other = source
  · have hnew := hknown (db.outbox_events.length, some source) (by simp) (by rw [hother])
    exact absurd hnew (not_lt.mpr hv)
  · rw [hrows e (he ▸ hother)]
    exact h other (fun p hp => hknown p (List.mem_append_left _ hp)) e he

theorem OutboxWorker.OutboxStep.registered {o o' : OutboxState W} {a : OutboxAction W}
    {handlers : List String}
    (h : OutboxStep o a o')
    (hpick : ∀ w id now registered, a = .pick w id now registered → registered = handlers)
    (ho : ∀ w d, o.txs w = some d → d.registered = handlers) {w : W} {d : Dispatch}
    (hw : o'.txs w = some d) : d.registered = handlers := by
  have hbegin : ∀ (v : W) (x : Option Dispatch), (∀ d', x = some d' → d'.registered = handlers) →
      (o.begin_ v x).txs w = some d → d.registered = handlers := by
    intro v x hx hd
    rcases update_some hd with ⟨_, hd⟩ | ⟨_, hd⟩
    · exact hx d hd
    · exact ho w d hd
  cases h with
  | publish => exact ho w d hw
  | pick => exact hbegin _ _ (fun d' hd => Option.some.inj hd ▸ hpick _ _ _ _ rfl) hw
  | skip hv =>
      refine hbegin _ _ (fun d' hd => ?_) hw
      have hreg := ho _ _ hv
      obtain rfl := Option.some.inj hd
      exact hreg
  | call hv =>
      refine hbegin _ _ (fun d' hd => ?_) hw
      have hreg := ho _ _ hv
      obtain rfl := Option.some.inj hd
      exact hreg
  | commit => exact hbegin _ none (by simp) hw
  | crash v => exact hbegin v none (by simp) hw

omit [DecidableEq W] in
theorem Recording.fresh (h : Recording s) :
    ∀ e ∈ s.db.outbox_events, e.id ≠ s.db.outbox_events.length := by
  intro e he
  have hmem := List.mem_map_of_mem (f := OutboxEvent.id) he
  rw [h.ids, List.mem_range] at hmem
  omega

omit [DecidableEq W] in
theorem Recording.synced (h : Recording s) {a : SyncAction} (hs : SyncStep env s.db a t.db)
    (htxs : t.txs = s.txs) (hhist : t.history = s.history ++ [t.db]) : Recording t := by
  obtain ⟨as, hinv⟩ := h.outbox
  have hbound : t.db.outbox_events.length ≥ s.db.outbox_events.length ∧
      t.db.outbox_events.map OutboxEvent.id = List.range t.db.outbox_events.length ∧
      (∃ bs, OutboxWorker.Inv bs t.outbox) ∧ ∀ v ∈ s.history, Seen t.db v := by
    rcases hs.published h.keys with ⟨hrows, ho⟩ | ⟨source, payload, now, hp, ho, hrows⟩
    · have hout : t.outbox = s.outbox := by rw [ExportState.outbox, ho, htxs, ExportState.outbox]
      exact ⟨by rw [ho], by rw [ho, h.ids], ⟨as, hout ▸ hinv⟩,
        fun v hv => (h.seen v hv).keep (by rw [ho]) hrows⟩
    · have hpub := @OutboxWorker.Inv.publish _ _ _ hinv s.db.outbox_events.length OUTBOX_MAX_RETRIES
        BATCH_INGESTED payload now h.fresh (by decide)
      have hout : t.outbox =
          ⟨EventBus.publish BATCH_INGESTED payload now s.db.outbox_events, s.txs⟩ := by
        rw [ExportState.outbox, ho, htxs]
      refine ⟨by simp [ho, EventBus.publish], ?_, ⟨_, hout ▸ hpub⟩, fun v hv =>
        (h.seen v hv).publish hp ho hrows (h.bounded v hv)⟩
      simp [ho, EventBus.publish, h.ids, List.range_succ, OutboxEvent.fresh]
  obtain ⟨hlen, hids, hinv', hseen⟩ := hbound
  refine ⟨hs.unique h.keys, hids, hinv', fun w d hw => h.registered w d (htxs ▸ hw), fun v hv => ?_,
    fun v hv => ?_, ?_⟩
  · rw [hhist] at hv
    rcases List.mem_append.mp hv with hv | hv
    · exact hseen v hv
    · exact List.mem_singleton.mp hv ▸ .rfl
  · rw [hhist] at hv
    rcases List.mem_append.mp hv with hv | hv
    · exact (h.bounded v hv).trans hlen
    · exact List.mem_singleton.mp hv ▸ le_rfl
  · rw [hhist, List.pairwise_append]
    refine ⟨h.ordered, List.pairwise_singleton _ _, fun v hv v' hv' => ?_⟩
    exact List.mem_singleton.mp hv' ▸ (h.bounded v hv).trans hlen

theorem Recording.step (h : Recording s) {a : ExportAction W} (hs : ExportStep env s a t) :
    Recording t := by
  cases hs.moved with
  | synced h' db_eq txs history => exact h.synced (db_eq ▸ h') txs (db_eq ▸ history)
  | @outbox b ho hb pick hazard_events history =>
      obtain ⟨as, hinv⟩ := h.outbox
      have hsources := ho.event_sources hb
      have hids := congrArg (List.map Prod.fst) hsources
      simp only [event_sources, List.map_map] at hids
      have hlen := congrArg List.length hsources
      simp only [event_sources, List.length_map] at hlen
      refine ⟨by rw [hazard_events]; exact h.keys, ?_, ⟨_, hinv.step ho⟩,
        fun w d hw => ho.registered pick h.registered hw, fun v hv => ?_, fun v hv => ?_,
        by rw [history]; exact h.ordered⟩
      · have hlen' : t.db.outbox_events.length = s.db.outbox_events.length := hlen
        rw [hlen', ← h.ids]
        exact hids
      · exact (h.seen v (history ▸ hv)).keep hsources hazard_events
      · have hb' := h.bounded v (history ▸ hv)
        exact hb'.trans_eq hlen.symm
  | thread db txs history =>
      have hout : t.outbox = s.outbox := by rw [ExportState.outbox, db, txs, ExportState.outbox]
      rcases history with history | history
      · exact ⟨db ▸ h.keys, db ▸ h.ids, hout ▸ h.outbox, txs ▸ h.registered,
          by rw [db, history]; exact h.seen, by rw [db, history]; exact h.bounded,
          history ▸ h.ordered⟩
      · refine ⟨db ▸ h.keys, db ▸ h.ids, hout ▸ h.outbox, txs ▸ h.registered, fun v hv => ?_,
          fun v hv => ?_, ?_⟩
        · rw [history] at hv
          rcases List.mem_append.mp hv with hv | hv
          · exact db ▸ h.seen v hv
          · rw [db, List.mem_singleton.mp hv]
            exact .rfl
        · rw [history] at hv
          rcases List.mem_append.mp hv with hv | hv
          · exact db ▸ h.bounded v hv
          · rw [db, List.mem_singleton.mp hv]
        · rw [history, List.pairwise_append]
          refine ⟨h.ordered, List.pairwise_singleton _ _, fun v hv v' hv' => ?_⟩
          exact List.mem_singleton.mp hv' ▸ h.bounded v hv

omit [DecidableEq W] in
theorem Recording.init : Recording (ExportState.init G W) where
  keys := List.nodup_nil
  ids := rfl
  outbox := ⟨[], inv_init⟩
  registered w d hw := by simp [ExportState.init] at hw
  seen v hv := by simp [ExportState.init] at hv
  bounded v hv := by simp [ExportState.init] at hv
  ordered := List.Pairwise.nil

-- what the outbox says of the exports that succeeded; Cov is what such an export achieves
structure Reported (Cov : Source → Nat → Prop) (o : OutboxState W) : Prop where
  results : ∀ w d, o.txs w = some d → ∀ r ∈ d.results, r.handler_name = "export_geoparquet" →
    r.skipped = false → r.success = true → ∀ source, source_of d.event.payload = some source →
    Cov source d.event.id
  recorded : ∀ e ∈ o.events, ∀ entry, Dict.get "export_geoparquet" e.handler_state = some entry →
    entry.status = .ok → ∀ source, source_of e.payload = some source → Cov source e.id
  processed : ∀ e ∈ o.events, e.status = .PROCESSED →
    ∃ entry, Dict.get "export_geoparquet" e.handler_state = some entry ∧ entry.status = .ok

omit [DecidableEq W] in
theorem Reported.mono {Cov Cov' : Source → Nat → Prop} {o : OutboxState W} (h : Reported Cov o)
    (hc : ∀ source id, Cov source id → Cov' source id) : Reported Cov' o where
  results w d hw r hr hn hsk hok source hs := hc _ _ (h.results w d hw r hr hn hsk hok source hs)
  recorded e he entry hg hok source hs := hc _ _ (h.recorded e he entry hg hok source hs)
  processed := h.processed

theorem Reported.begin_ {Cov : Source → Nat → Prop} {o : OutboxState W} (h : Reported Cov o) {w : W}
    {x : Option Dispatch} (hx : ∀ d, x = some d → ∀ r ∈ d.results,
      r.handler_name = "export_geoparquet" → r.skipped = false → r.success = true →
      ∀ source, source_of d.event.payload = some source → Cov source d.event.id) :
    Reported Cov (o.begin_ w x) where
  results v d hv := by
    rcases update_some hv with ⟨_, hd⟩ | ⟨_, hd⟩
    · exact hx d hd
    · exact h.results v d hd
  recorded := h.recorded
  processed := h.processed

theorem Reported.push {Cov : Source → Nat → Prop} {o : OutboxState W} (h : Reported Cov o) {w : W}
    {d : Dispatch} {r : HandlerResult} {rest : List String} (hw : o.txs w = some d)
    (hr : r.handler_name = "export_geoparquet" → r.skipped = false → r.success = true →
      ∀ source, source_of d.event.payload = some source → Cov source d.event.id) :
    Reported Cov (o.begin_ w (some { d with results := d.results ++ [r], remaining := rest })) := by
  refine h.begin_ (fun d' hd r' hr' => ?_)
  obtain rfl := Option.some.inj hd
  rcases List.mem_append.mp hr' with hr' | hr'
  · exact h.results w d hw r' hr'
  · exact List.mem_singleton.mp hr' ▸ hr

omit [DecidableEq W] in
theorem Reported.handled {Cov : Source → Nat → Prop} {o : OutboxState W} (h : Reported Cov o)
    {as : List (OutboxAction W)} (hi : OutboxWorker.Inv as o) {w : W} {d : Dispatch}
    (hw : o.txs w = some d) (hr : d.remaining = []) {now : Datetime} {later : Timestamptz}
    {jitter : Nat} {entry : HandlerEntry}
    (hg : Dict.get "export_geoparquet"
      (handle_event d.results now later jitter d.event).handler_state = some entry)
    (hok : entry.status = .ok) (hs : source_of d.event.payload = some source) :
    Cov source d.event.id := by
  have hv := hi.txs w d hw
  have hnames := hv.names_eq hr
  rw [handle_event_handler_state] at hg
  by_cases hcalled : ∃ r ∈ d.results, r.handler_name = "export_geoparquet" ∧ r.skipped = false
  · obtain ⟨r, hmem, hname, hsk⟩ := hcalled
    have hget := @get_new_state_called d.results now r d.event.handler_state
      (hnames ▸ hv.names) hmem hsk
    rw [hname, hg, Option.some.injEq] at hget
    cases hsucc : r.success with
    | true => exact h.results w d hw r hmem hname hsk hsucc source hs
    | false => simp [hget, OutboxWorker.entry, hsucc] at hok
  · rw [get_new_state_other] at hg
    · exact h.recorded d.event hv.event entry hg hok source hs
    · intro r hmem hname
      cases hsk : r.skipped with
      | true => rfl
      | false => exact absurd ⟨r, hmem, hname, hsk⟩ hcalled

theorem Reported.commit {Cov : Source → Nat → Prop} {o : OutboxState W} (h : Reported Cov o)
    {as : List (OutboxAction W)} (hi : OutboxWorker.Inv as o)
    (hreg : ∀ w d, o.txs w = some d → d.registered = BATCH_INGESTED_HANDLERS) {w : W}
    {d : Dispatch} (hw : o.txs w = some d) (hr : d.remaining = []) (now : Datetime)
    (later : Timestamptz) (jitter : Nat) :
    Reported Cov
      { events := Table.update (fun e => decide (e.id = d.event.id))
          (handle_event d.results now later jitter) o.events
        txs := Function.update o.txs w none } where
  results := (h.begin_ (w := w) (x := none) (by simp)).results
  recorded e he entry hg hok source hs := by
    obtain ⟨e₀, he₀, rfl⟩ := Table.mem_update.mp he
    by_cases hid : e₀.id = d.event.id
    · obtain rfl := Table.unique_eq hi.unique he₀ (hi.txs w d hw).event hid
      simp only [decide_true, if_true, handle_event_payload, handle_event_id] at hg hs ⊢
      exact h.handled hi hw hr hg hok hs
    · simp only [hid, decide_false, Bool.false_eq_true, if_false] at hg hs ⊢
      exact h.recorded e₀ he₀ entry hg hok source hs
  processed e he hst := by
    obtain ⟨e₀, he₀, rfl⟩ := Table.mem_update.mp he
    by_cases hid : e₀.id = d.event.id
    · have hv := hi.txs w d hw
      obtain rfl := Table.unique_eq hi.unique he₀ hv.event hid
      simp only [decide_true, if_true] at hst ⊢
      rw [handle_event_handler_state]
      refine hv.recorded hr (hi.events _ hv.event).names ?_ now (by rw [hreg w d hw]; decide)
      rcases handle_event_cases d.results now later jitter d.event with
        ⟨hs, _⟩ | ⟨_, _, ⟨_, hf⟩ | ⟨_, hp⟩⟩
      · exact hs
      · simp [hf] at hst
      · simp [hp, hv.pending] at hst
    · simp only [hid, decide_false, Bool.false_eq_true, if_false] at hst ⊢
      exact h.processed e₀ he₀ hst

omit [DecidableEq W] in
theorem Reported.publish {Cov : Source → Nat → Prop} {o : OutboxState W} (h : Reported Cov o)
    (id max_retries : Nat) (event_type : String) (payload : PyJson) (now : Timestamptz) :
    Reported Cov { o with events := o.events ++ [.fresh id event_type payload max_retries now] } where
  results := h.results
  recorded e he entry hg := by
    rcases List.mem_append.mp he with he | he
    · exact h.recorded e he entry hg
    · rw [List.mem_singleton.mp he] at hg
      simp [OutboxEvent.fresh] at hg
  processed e he hst := by
    rcases List.mem_append.mp he with he | he
    · exact h.processed e he hst
    · rw [List.mem_singleton.mp he] at hst
      simp [OutboxEvent.fresh] at hst

theorem Reported.step {Cov : Source → Nat → Prop} {o o' : OutboxState W} (h : Reported Cov o)
    {as : List (OutboxAction W)} (hi : OutboxWorker.Inv as o)
    (hreg : ∀ w d, o.txs w = some d → d.registered = BATCH_INGESTED_HANDLERS)
    {a : OutboxAction W} (hs : OutboxStep o a o')
    (hcall : ∀ w id, a = .call w id "export_geoparquet" none → ∀ d, o.txs w = some d →
      ∀ source, source_of d.event.payload = some source → Cov source d.event.id) :
    Reported Cov o' := by
  cases hs with
  | publish => exact h.publish _ _ _ _ _
  | pick =>
      refine h.begin_ (fun d hd => ?_)
      obtain rfl := Option.some.inj hd
      simp
  | skip hw => exact h.push hw (by simp [skipped_result])
  | @call w d handler rest error hw _ _ =>
      refine h.push hw (fun hname _ hok => ?_)
      have herror : error = none := by simpa [called_result] using hok
      have hhandler : handler = "export_geoparquet" := hname
      exact hcall w d.event.id (by rw [hhandler, herror]) d hw
  | commit hw hr => exact h.commit hi hreg hw hr _ _ _
  | crash w => exact h.begin_ (by simp)

end GeoHazard

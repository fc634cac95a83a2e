import GeoHazard.Core.OutboxCalls

namespace GeoHazard.OutboxWorker

open DispatchResult

-- what a dispatch showed: the handlers it read from the registry and how each call ended
structure Seen where
  event_id : Nat
  registered : List String
  outcomes : List (String × Option String)

-- no handler, or a call that raised or ran out of time
def Seen.went_wrong (x : Seen) : Bool :=
  x.registered.isEmpty || x.outcomes.any (fun o => o.2.isSome)

section
variable {W : Type} [DecidableEq W]

def see (w : W) (x : Option Seen) : OutboxAction W → Option Seen
  | .pick v id _ registered => if v = w then some ⟨id, registered, []⟩ else x
  | .call v _ handler error =>
      if v = w then x.map (fun y => { y with outcomes := y.outcomes ++ [(handler, error)] }) else x
  | .commit v _ _ _ _ => if v = w then none else x
  | .crash v => if v = w then none else x
  | .publish _ => x
  | .skip _ _ _ => x

def seen (w : W) (as : List (OutboxAction W)) : Option Seen := as.foldl (see w) none

def failed_at (id : Nat) (before : List (OutboxAction W)) : OutboxAction W → Bool
  | .commit w _ _ _ _ => (seen w before).any (fun x => decide (x.event_id = id) && x.went_wrong)
  | _ => false

def failed_after (id : Nat) (before : List (OutboxAction W)) : List (OutboxAction W) → Nat
  | [] => 0
  | a :: after =>
      (if failed_at id before a then 1 else 0) + failed_after id (before ++ [a]) after

-- the dispatches of the event that went wrong and committed
def failed_dispatches (id : Nat) (as : List (OutboxAction W)) : Nat := failed_after id [] as

def Committed (as : List (OutboxAction W)) (x : Seen) : Prop :=
  ∃ before w d now later jitter after, as = before ++ .commit w d now later jitter :: after ∧
    seen w before = some x

-- a committed dispatch of the event called the handler and the call ended without an error
def Acknowledged (as : List (OutboxAction W)) (id : Nat) (handler : String) : Prop :=
  ∃ x, Committed as x ∧ x.event_id = id ∧ (handler, none) ∈ x.outcomes

def RecordedOk (e : OutboxEvent) (handler : String) : Prop :=
  ∃ entry, Dict.get handler e.handler_state = some entry ∧ entry.status = .ok

variable {as : List (OutboxAction W)} {s s' : OutboxState W} {a : OutboxAction W}
  {e : OutboxEvent} {w : W} {d : Dispatch} {x : Seen} {id : Nat} {handler : String}

theorem seen_append (w : W) (as : List (OutboxAction W)) (a : OutboxAction W) :
    seen w (as ++ [a]) = see w (seen w as) a := by
  simp [seen]

theorem failed_after_append (id : Nat) (before as : List (OutboxAction W)) (a : OutboxAction W) :
    failed_after id before (as ++ [a]) =
      failed_after id before as + if failed_at id (before ++ as) a then 1 else 0 := by
  induction as generalizing before with
  | nil => simp [failed_after]
  | cons b as ih => simp [failed_after, ih, Nat.add_assoc]

theorem failed_dispatches_append (id : Nat) (as : List (OutboxAction W)) (a : OutboxAction W) :
    failed_dispatches id (as ++ [a]) =
      failed_dispatches id as + if failed_at id as a then 1 else 0 := by
  simp [failed_dispatches, failed_after_append]

theorem Committed.append (h : Committed as x) (bs : List (OutboxAction W)) :
    Committed (as ++ bs) x := by
  obtain ⟨before, w, d, now, later, jitter, after, rfl, hx⟩ := h
  exact ⟨before, w, d, now, later, jitter, after ++ bs, by simp, hx⟩

theorem Acknowledged.append (h : Acknowledged as id handler) (bs : List (OutboxAction W)) :
    Acknowledged (as ++ bs) id handler := by
  obtain ⟨x, hx, hrest⟩ := h
  exact ⟨x, hx.append bs, hrest⟩

-- what the run showed of a dispatch in flight is what the dispatch holds
structure Dispatch.Shown (d : Dispatch) (x : Seen) : Prop where
  event : x.event_id = d.event.id
  registered : x.registered = d.registered
  outcomes : d.results.filter (fun r => !r.skipped) =
    x.outcomes.map (fun o => called_result o.1 o.2)

omit [DecidableEq W] in
theorem Dispatch.Shown.all_succeeded (h : d.Shown x) (hv : d.Valid s) (hr : d.remaining = []) :
    all_succeeded d.results = !x.went_wrong := by
  have hempty : d.results.isEmpty = x.registered.isEmpty := by
    rw [h.registered, ← hv.names_eq hr, List.isEmpty_map]
  have hall : d.results.all HandlerResult.success =
      (d.results.filter (fun r => !r.skipped)).all HandlerResult.success := by
    rw [Bool.eq_iff_iff, List.all_eq_true, List.all_eq_true]
    refine ⟨fun hs r hm => hs r (List.mem_filter.mp hm).1, fun hs r hm => ?_⟩
    cases hsk : r.skipped with
    | true => exact hv.success r hm hsk
    | false => exact hs r (List.mem_filter.mpr ⟨hm, by simp [hsk]⟩)
  have hcalled : (x.outcomes.map (fun o => called_result o.1 o.2)).all HandlerResult.success =
      !x.outcomes.any (fun o => o.2.isSome) := by
    rw [List.all_map, List.not_any_eq_all_not]
    simp [called_result, Function.comp_def]
  rw [DispatchResult.all_succeeded, hempty, hall, h.outcomes, hcalled, Seen.went_wrong,
    Bool.not_or]

theorem Dispatch.Shown.call (h : d.Shown x) (handler : String) (error : Option String)
    (rest : List String) :
    Dispatch.Shown
      { d with results := d.results ++ [called_result handler error], remaining := rest }
      { x with outcomes := x.outcomes ++ [(handler, error)] } where
  event := h.event
  registered := h.registered
  outcomes := by simp [List.filter_append, h.outcomes, called_result]

theorem Dispatch.Shown.skip (h : d.Shown x) (handler : String) (rest : List String) :
    Dispatch.Shown
      { d with results := d.results ++ [skipped_result handler], remaining := rest } x where
  event := h.event
  registered := h.registered
  outcomes := by simp [List.filter_append, h.outcomes, skipped_result]

theorem Dispatch.Shown.result (h : d.Shown x) {error : Option String}
    (ho : (handler, error) ∈ x.outcomes) : called_result handler error ∈ d.results := by
  have hmem : called_result handler error ∈ d.results.filter (fun r => !r.skipped) := by
    rw [h.outcomes]
    exact List.mem_map.mpr ⟨(handler, error), ho, rfl⟩
  exact (List.mem_filter.mp hmem).1

theorem Dispatch.Shown.answered (h : d.Shown x) {r : HandlerResult} (hr : r ∈ d.results)
    (hsk : r.skipped = false) (hok : r.success = true) : (r.handler_name, none) ∈ x.outcomes := by
  have hmem : r ∈ x.outcomes.map (fun o => called_result o.1 o.2) := by
    rw [← h.outcomes]
    exact List.mem_filter.mpr ⟨hr, by simp [hsk]⟩
  obtain ⟨⟨name, error⟩, ho, rfl⟩ := List.mem_map.mp hmem
  have herror : error = none := by simpa [called_result] using hok
  subst herror
  exact ho

-- the rows and the dispatches in flight against the calls that the run made
structure Traced (as : List (OutboxAction W)) (s : OutboxState W) : Prop where
  shown : ∀ w d, s.txs w = some d → ∃ x, seen w as = some x ∧ d.Shown x
  count : ∀ id, failures id as = failed_dispatches id as
  recorded : ∀ e ∈ s.events, ∀ handler, RecordedOk e handler → Acknowledged as e.id handler

theorem Traced.init : Traced [] (OutboxState.init W) where
  shown w d hw := by simp [OutboxState.init] at hw
  count _ := rfl
  recorded e he := by simp [OutboxState.init] at he

theorem Traced.counted (h : Traced as s) (ha : ∀ id, a.failed id = failed_at id as a) (id : Nat) :
    failures id (as ++ [a]) = failed_dispatches id (as ++ [a]) := by
  rw [failures_append, failed_dispatches_append, h.count, ha]

theorem Traced.begin_ (h : Traced as s) {y : Option Dispatch}
    (ha : ∀ id, a.failed id = failed_at id as a)
    (hothers : ∀ v, v ≠ w → seen v (as ++ [a]) = seen v as)
    (hshown : ∀ d, y = some d → ∃ x, seen w (as ++ [a]) = some x ∧ d.Shown x) :
    Traced (as ++ [a]) (s.begin_ w y) where
  shown v d hv := by
    rcases Transition.update_some hv with ⟨rfl, hd⟩ | ⟨hne, hd⟩
    · exact hshown d hd
    · rw [hothers v hne]
      exact h.shown v d hd
  count := h.counted ha
  recorded e he handler hok := (h.recorded e he handler hok).append _

theorem Traced.commit (h : Traced as s) (hi : Inv as s) (hw : s.txs w = some d)
    (hr : d.remaining = []) (now : Datetime) (later : Timestamptz) (jitter : Nat) :
    Traced (as ++ [.commit w d now later jitter])
      { events := Table.update (fun e => decide (e.id = d.event.id))
          (handle_event d.results now later jitter) s.events
        txs := Function.update s.txs w none } where
  shown v d' hv := by
    rcases Transition.update_some hv with ⟨_, hd⟩ | ⟨hne, hd⟩
    · simp at hd
    · rw [seen_append, see, if_neg (Ne.symm hne)]
      exact h.shown v d' hd
  count := h.counted (fun id => by
    obtain ⟨x, hx, hshown⟩ := h.shown w d hw
    simp [OutboxAction.failed, failed_at, hx, hshown.event,
      hshown.all_succeeded (hi.txs w d hw) hr])
  recorded e he handler hok := by
    obtain ⟨o, ho, rfl⟩ := Table.mem_update.mp he
    by_cases hid : o.id = d.event.id
    · obtain rfl := Table.unique_eq hi.unique ho (hi.txs w d hw).event hid
      simp only [decide_true, if_true, handle_event_id] at hok ⊢
      obtain ⟨entry, hg, hentry⟩ := hok
      have hv := hi.txs w d hw
      rw [handle_event_handler_state] at hg
      by_cases hcalled : ∃ r ∈ d.results, r.handler_name = handler ∧ r.skipped = false
      · obtain ⟨r, hmem, rfl, hsk⟩ := hcalled
        have hget := @get_new_state_called d.results now r d.event.handler_state
          (hv.names_eq hr ▸ hv.names) hmem hsk
        rw [hg, Option.some.injEq] at hget
        have hsucc : r.success = true := by
          by_contra hno
          simp [hget, OutboxWorker.entry, hno] at hentry
        obtain ⟨x, hx, hshown⟩ := h.shown w d hw
        exact ⟨x, ⟨as, w, d, now, later, jitter, [], rfl, hx⟩, hshown.event,
          hshown.answered hmem hsk hsucc⟩
      · have hskip : ∀ r ∈ d.results, r.handler_name = handler → r.skipped = true := by
          intro r hmem hname
          by_contra hno
          exact hcalled ⟨r, hmem, hname, by simpa using hno⟩
        rw [get_new_state_other hskip] at hg
        exact (h.recorded d.event hv.event handler ⟨entry, hg, hentry⟩).append _
    · simp only [hid, decide_false, Bool.false_eq_true, if_false] at hok ⊢
      exact (h.recorded o ho handler hok).append _

theorem Traced.step (h : Traced as s) (hi : Inv as s) (hs : OutboxStep s a s') :
    Traced (as ++ [a]) s' := by
  cases hs with
  | @publish id max_retries event_type payload now hid hmax =>
      refine ⟨fun w d hw => ?_, h.counted (fun _ => rfl), fun e he handler hok => ?_⟩
      · rw [seen_append]
        exact h.shown w d hw
      · rcases List.mem_append.mp he with he | he
        · exact (h.recorded e he handler hok).append _
        · obtain ⟨entry, hg, _⟩ := hok
          rw [List.mem_singleton.mp he] at hg
          simp [OutboxEvent.fresh] at hg
  | @pick w e now registered hw hdue hfirst hnames =>
      refine h.begin_ (fun _ => rfl) (fun v hv => ?_) (fun d hd => ?_)
      · rw [seen_append, see, if_neg (Ne.symm hv)]
      · obtain rfl := Option.some.inj hd
        exact ⟨⟨e.id, registered, []⟩, by rw [seen_append, see, if_pos rfl], rfl, rfl, rfl⟩
  | @skip w d handler rest hw hr hc =>
      refine h.begin_ (fun _ => rfl) (fun v _ => by rw [seen_append, see]) (fun d' hd => ?_)
      obtain rfl := Option.some.inj hd
      obtain ⟨x, hx, hshown⟩ := h.shown w d hw
      exact ⟨x, by rw [seen_append, see, hx], hshown.skip handler rest⟩
  | @call w d handler rest error hw hr hc =>
      refine h.begin_ (fun _ => rfl) (fun v hv => ?_) (fun d' hd => ?_)
      · rw [seen_append, see, if_neg (Ne.symm hv)]
      · obtain rfl := Option.some.inj hd
        obtain ⟨x, hx, hshown⟩ := h.shown w d hw
        exact ⟨_, by rw [seen_append, see, if_pos rfl, hx, Option.map_some],
          hshown.call handler error rest⟩
  | commit hw hr => exact h.commit hi hw hr _ _ _
  | crash w =>
      refine h.begin_ (fun _ => rfl) (fun v hv => ?_) (by simp)
      rw [seen_append, see, if_neg (Ne.symm hv)]

theorem OutboxRun.traced (h : OutboxRun (OutboxState.init W) as s) : Inv as s ∧ Traced as s :=
  Transition.Run.history (I := fun as s => Inv as s ∧ Traced as s)
    (fun _ _ _ _ hi hs => ⟨hi.1.step hs, hi.2.step hi.1 hs⟩) h ⟨inv_init, .init⟩

theorem OutboxRun.committed {before after : List (OutboxAction W)} {now : Datetime}
    {later : Timestamptz} {jitter : Nat}
    (h : OutboxRun (OutboxState.init W) (before ++ .commit w d now later jitter :: after) s) :
    ∃ u v, Inv before u ∧ u.txs w = some d ∧ d.remaining = [] ∧
      v.events = Table.update (fun e => decide (e.id = d.event.id))
        (handle_event d.results now later jitter) u.events ∧
      Inv (before ++ [.commit w d now later jitter]) v ∧ OutboxRun v after s ∧
      ∃ x, seen w before = some x ∧ d.Shown x := by
  obtain ⟨u, hbefore, hrest⟩ := h.append_inv
  obtain ⟨v, hstep, hafter⟩ := hrest.cons_inv
  obtain ⟨hi, htraced⟩ := OutboxRun.traced hbefore
  have hv := hi.step hstep
  cases hstep with
  | commit hw hr => exact ⟨u, _, hi, hw, hr, rfl, hv, hafter, htraced.shown w d hw⟩

theorem Acknowledged.recorded (h : OutboxRun (OutboxState.init W) as s)
    (hack : Acknowledged as id handler) (he : e ∈ s.events) (hid : e.id = id) :
    RecordedOk e handler := by
  obtain ⟨x, ⟨before, w, d, now, later, jitter, after, rfl, hx⟩, hevent, hcall⟩ := hack
  obtain ⟨u, v, hi, hw, hr, hev, hv, hafter, y, hy, hshown⟩ := OutboxRun.committed h
  obtain rfl := Option.some.inj (hx.symm.trans hy)
  have hd := hi.txs w d hw
  have hget := @get_new_state_called d.results now _ d.event.handler_state
    (hd.names_eq hr ▸ hd.names) (hshown.result hcall) rfl
  have hrec : Recorded v id handler (entry now (called_result handler none)) := by
    refine ⟨handle_event d.results now later jitter d.event, ?_, ?_, ?_⟩
    · rw [hev]
      exact Table.mem_update.mpr ⟨d.event, hd.event, by simp⟩
    · rw [handle_event_id, ← hshown.event, hevent]
    · rw [handle_event_handler_state]
      exact hget
  obtain ⟨⟨e', he', hid', hget'⟩, _⟩ := hv.recorded hafter hrec rfl
  obtain rfl := Table.unique_eq h.inv.unique he' he (hid'.trans hid.symm)
  exact ⟨_, hget', rfl⟩

theorem OutboxRun.processed (h : OutboxRun (OutboxState.init W) as s) (he : e ∈ s.events)
    (hp : e.status = .PROCESSED) : ∃ x, Committed as x ∧ x.event_id = e.id ∧
      x.went_wrong = false ∧ x.registered ≠ [] ∧
      ∀ handler ∈ x.registered, RecordedOk e handler := by
  obtain ⟨w, d, now, later, jitter, hm, hid, hs, _, hne, hrec⟩ := (h.inv.events e he).processed hp
  obtain ⟨before, after, rfl⟩ := List.append_of_mem hm
  obtain ⟨u, v, hi, hw, hr, _, _, _, x, hx, hshown⟩ := OutboxRun.committed h
  refine ⟨x, ⟨before, w, d, now, later, jitter, after, rfl, hx⟩, hshown.event.trans hid, ?_, ?_, ?_⟩
  · have hall := hshown.all_succeeded (hi.txs w d hw) hr
    rw [hs] at hall
    simpa using hall.symm
  · rw [hshown.registered]
    exact hne
  · rw [hshown.registered]
    exact hrec

theorem outbox_state_machine (h : OutboxRun (OutboxState.init W) as s) :
    (∀ e ∈ s.events,
      e.retry_count = failed_dispatches e.id as ∧
      (e.status = .PENDING → e.retry_count < e.max_retries) ∧
      (e.status = .FAILED ↔ e.retry_count = e.max_retries) ∧
      (∀ handler, RecordedOk e handler ↔ Acknowledged as e.id handler) ∧
      (e.status = .PROCESSED → ∃ x, Committed as x ∧ x.event_id = e.id ∧
        x.went_wrong = false ∧ x.registered ≠ [] ∧
        ∀ handler ∈ x.registered, RecordedOk e handler)) ∧
    (∀ bs s', OutboxRun s bs s' → ∀ e ∈ s.events,
      (e.status ≠ .PENDING → e ∈ s'.events ∧ ∀ a ∈ bs, a.event_id ≠ some e.id) ∧
      (∀ handler entry, Dict.get handler e.handler_state = some entry → entry.status = .ok →
        (∀ w error, .call w e.id handler error ∉ bs) ∧
        ∃ e' ∈ s'.events, e'.id = e.id ∧ Dict.get handler e'.handler_state = some entry)) := by
  obtain ⟨hi, htraced⟩ := OutboxRun.traced h
  refine ⟨fun e he => ?_, fun bs s' hr e he => ⟨hi.final hr he, fun handler entry hget hok => ?_⟩⟩
  · have hok := hi.events e he
    refine ⟨hok.count.trans (htraced.count e.id), fun hp => lt_of_le_of_ne hok.bound (fun heq => ?_),
      hok.failed, fun handler => ⟨htraced.recorded e he handler, fun hack => hack.recorded h he rfl⟩,
      OutboxRun.processed h he⟩
    have hf := hok.failed.mpr heq
    simp [hp] at hf
  · obtain ⟨hrec, hno⟩ := hi.recorded hr ⟨e, he, rfl, hget⟩ hok
    exact ⟨hno, hrec⟩

end

def ingested : OutboxEvent := .fresh 0 "hazards.batch_ingested" (.obj []) 2 0

def midnight : Datetime := ⟨2026, 7, 2, 0, 0, 0, 0, 0, by decide⟩

def held (e : OutboxEvent) (x : Option Dispatch) : OutboxState Unit := ⟨[e], fun _ => x⟩

def dispatch_of (e : OutboxEvent) (results : List HandlerResult) (remaining : List String) :
    Dispatch :=
  ⟨e, ["match_notifications"], results, remaining⟩

def ended (e : OutboxEvent) (error : Option String) (later : Timestamptz) : OutboxEvent :=
  handle_event [called_result "match_notifications" error] midnight later 0 e

def dispatch_actions (e : OutboxEvent) (error : Option String) (now later : Timestamptz) :
    List (OutboxAction Unit) :=
  [.pick () e.id now ["match_notifications"], .call () e.id "match_notifications" error,
    .commit () (dispatch_of e [called_result "match_notifications" error] []) midnight later 0]

theorem dispatch_run (e : OutboxEvent) (now : Timestamptz) (hp : e.status = .PENDING)
    (hdue : e.scheduled_at ≤ now) (hnew : "match_notifications" ∉ completed e)
    (error : Option String) (later : Timestamptz) :
    OutboxRun (held e none) (dispatch_actions e error now later)
      (held (ended e error later) none) := by
  have hpick : OutboxStep (held e none) (.pick () e.id now ["match_notifications"])
      (held e (some (dispatch_of e [] ["match_notifications"]))) := by
    have hstep : OutboxStep (held e none) (.pick () e.id now ["match_notifications"]) _ :=
      .pick rfl ⟨by simp [held], hp, hdue, by simp [held]⟩ (fun e' he => by
        rw [List.mem_singleton.mp he.1]) (by simp)
    rwa [begin_unit] at hstep
  have hcall : OutboxStep (held e (some (dispatch_of e [] ["match_notifications"])))
      (.call () e.id "match_notifications" error)
      (held e (some (dispatch_of e [called_result "match_notifications" error] []))) := by
    have hstep : OutboxStep (held e (some (dispatch_of e [] ["match_notifications"])))
        (.call () e.id "match_notifications" error) _ :=
      .call (d := dispatch_of e [] ["match_notifications"]) rfl rfl hnew
    rwa [begin_unit] at hstep
  have hcommit : OutboxStep
      (held e (some (dispatch_of e [called_result "match_notifications" error] [])))
      (.commit () (dispatch_of e [called_result "match_notifications" error] []) midnight later 0)
      (held (ended e error later) none) := by
    have hstep : OutboxStep
        (held e (some (dispatch_of e [called_result "match_notifications" error] [])))
        (.commit () _ midnight later 0) _ := .commit rfl rfl
    rw [Function.update_eq_const_of_subsingleton] at hstep
    have hrow : Table.update (fun r => decide (r.id = e.id))
        (handle_event [called_result "match_notifications" error] midnight later 0) [e] =
        [ended e error later] := by
      simp [Table.update, ended]
    rw [held.eq_1 (ended e error later), ← hrow]
    exact hstep
  exact .cons hpick (.cons hcall (.one hcommit))

-- the first dispatch runs out of time and the second one delivers
def failed_once : OutboxEvent := ended ingested (some "TimeoutError") 10

def two_dispatches : List (OutboxAction Unit) :=
  .publish ingested :: (dispatch_actions ingested (some "TimeoutError") 5 10 ++
    dispatch_actions failed_once none 3000000 3000010)

theorem two_dispatches_run : OutboxRun (OutboxState.init Unit) two_dispatches
    (held (ended failed_once none 3000010) none) := by
  have hpublish : OutboxStep (OutboxState.init Unit) (.publish ingested) (held ingested none) :=
    .publish (by simp [OutboxState.init]) (by decide)
  have hfirst := dispatch_run ingested 5 rfl (by decide) (by decide)
    (some "TimeoutError") 10
  have hsecond := dispatch_run failed_once 3000000 (by decide) (by decide)
    (by decide) none 3000010
  exact .cons hpublish (hfirst.append hsecond)

theorem outbox_state_machine_dispatched :
    ∃ e ∈ (held (ended failed_once none 3000010) none).events,
      e.status = .PROCESSED ∧ e.retry_count = 1 ∧ failed_dispatches e.id two_dispatches = 1 ∧
      RecordedOk e "match_notifications" ∧
      Acknowledged two_dispatches e.id "match_notifications" := by
  obtain ⟨hstate, _⟩ := outbox_state_machine two_dispatches_run
  obtain ⟨hcount, _, _, hrecorded, hprocessed⟩ := hstate _ (List.mem_singleton_self _)
  have hretry : (ended failed_once none 3000010).retry_count = 1 := by decide
  have hok : RecordedOk (ended failed_once none 3000010) "match_notifications" :=
    ⟨entry midnight (called_result "match_notifications" none), by decide, rfl⟩
  exact ⟨_, List.mem_singleton_self _, by decide, hretry, hcount.symm.trans hretry, hok,
    (hrecorded _).mp hok⟩

end GeoHazard.OutboxWorker

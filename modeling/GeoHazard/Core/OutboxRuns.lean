import GeoHazard.Library.Table
import GeoHazard.Library.Transition
import GeoHazard.Core.OutboxWorker
import Mathlib.Logic.Function.Basic

namespace GeoHazard.OutboxWorker

open DispatchResult

variable {W : Type}

-- one event transaction in flight: the locked row and how far dispatch has come
structure Dispatch where
  event : OutboxEvent
  registered : List String
  results : List HandlerResult
  remaining : List String

structure OutboxState (W : Type) where
  events : List OutboxEvent
  txs : W → Option Dispatch

def OutboxState.init (W : Type) : OutboxState W := ⟨[], fun _ => none⟩

inductive OutboxAction (W : Type) where
  | publish (event : OutboxEvent)
  | pick (w : W) (event_id : Nat) (now : Timestamptz) (registered : List String)
  | skip (w : W) (event_id : Nat) (handler : String)
  | call (w : W) (event_id : Nat) (handler : String) (error : Option String)
  | commit (w : W) (d : Dispatch) (now : Datetime) (later : Timestamptz) (jitter : Nat)
  | crash (w : W)

def OutboxState.begin_ [DecidableEq W] (s : OutboxState W) (w : W) (d : Option Dispatch) :
    OutboxState W :=
  { s with txs := Function.update s.txs w d }

def Due (s : OutboxState W) (now : Timestamptz) (e : OutboxEvent) : Prop :=
  e ∈ s.events ∧ e.status = .PENDING ∧ e.scheduled_at ≤ now ∧
    ∀ w d, s.txs w = some d → d.event.id ≠ e.id

inductive OutboxStep [DecidableEq W] : OutboxState W → OutboxAction W → OutboxState W → Prop
  | publish {s : OutboxState W} {id max_retries : Nat} {event_type : String} {payload : PyJson}
      {now : Timestamptz} (hid : ∀ e ∈ s.events, e.id ≠ id) (hmax : 1 ≤ max_retries) :
      OutboxStep s (.publish (.fresh id event_type payload max_retries now))
        { s with events := s.events ++ [.fresh id event_type payload max_retries now] }
  | pick {s : OutboxState W} {w : W} {e : OutboxEvent} {now : Timestamptz}
      {registered : List String} (hw : s.txs w = none) (hdue : Due s now e)
      (hfirst : ∀ e', Due s now e' → e.scheduled_at ≤ e'.scheduled_at)
      (hnames : registered.Nodup) :
      OutboxStep s (.pick w e.id now registered) (s.begin_ w (some ⟨e, registered, [], registered⟩))
  | skip {s : OutboxState W} {w : W} {d : Dispatch} {handler : String} {rest : List String}
      (hw : s.txs w = some d) (hr : d.remaining = handler :: rest)
      (hc : handler ∈ completed d.event) :
      OutboxStep s (.skip w d.event.id handler)
        (s.begin_ w (some { d with
          results := d.results ++ [skipped_result handler], remaining := rest }))
  | call {s : OutboxState W} {w : W} {d : Dispatch} {handler : String} {rest : List String}
      {error : Option String} (hw : s.txs w = some d) (hr : d.remaining = handler :: rest)
      (hc : handler ∉ completed d.event) :
      OutboxStep s (.call w d.event.id handler error)
        (s.begin_ w (some { d with
          results := d.results ++ [called_result handler error], remaining := rest }))
  | commit {s : OutboxState W} {w : W} {d : Dispatch} {now : Datetime} {later : Timestamptz}
      {jitter : Nat} (hw : s.txs w = some d) (hr : d.remaining = []) :
      OutboxStep s (.commit w d now later jitter)
        { events := Table.update (fun e => decide (e.id = d.event.id))
            (handle_event d.results now later jitter) s.events
          txs := Function.update s.txs w none }
  | crash (s : OutboxState W) (w : W) : OutboxStep s (.crash w) (s.begin_ w none)

abbrev OutboxRun [DecidableEq W] : OutboxState W → List (OutboxAction W) → OutboxState W → Prop :=
  Transition.Run OutboxStep

def OutboxAction.event_id : OutboxAction W → Option Nat
  | .pick _ id _ _ => some id
  | .skip _ id _ => some id
  | .call _ id _ _ => some id
  | .commit _ d _ _ _ => some d.event.id
  | _ => none

def OutboxAction.failed (id : Nat) : OutboxAction W → Bool
  | .commit _ d _ _ _ => decide (d.event.id = id) && !all_succeeded d.results
  | _ => false

def failures (id : Nat) (as : List (OutboxAction W)) : Nat := as.countP (OutboxAction.failed id)

-- the dispatch in flight agrees with the row it locked and with the registry it read
structure Dispatch.Valid (s : OutboxState W) (d : Dispatch) : Prop where
  event : d.event ∈ s.events
  pending : d.event.status = .PENDING
  names : d.registered.Nodup
  progress : d.results.map HandlerResult.handler_name ++ d.remaining = d.registered
  skipped : ∀ r ∈ d.results, r.skipped = true ↔ r.handler_name ∈ completed d.event
  success : ∀ r ∈ d.results, r.skipped = true → r.success = true

structure EventOk (as : List (OutboxAction W)) (e : OutboxEvent) : Prop where
  names : (Dict.keys e.handler_state).Nodup
  count : e.retry_count = failures e.id as
  bound : e.retry_count ≤ e.max_retries
  failed : e.status = .FAILED ↔ e.retry_count = e.max_retries
  processed : e.status = .PROCESSED → ∃ w d now later jitter, .commit w d now later jitter ∈ as ∧
    d.event.id = e.id ∧ all_succeeded d.results = true ∧
    e = handle_event d.results now later jitter d.event ∧ d.registered ≠ [] ∧
    ∀ handler ∈ d.registered, ∃ entry,
      Dict.get handler e.handler_state = some entry ∧ entry.status = .ok

structure Inv (as : List (OutboxAction W)) (s : OutboxState W) : Prop where
  unique : Table.Unique OutboxEvent.id s.events
  events : ∀ e ∈ s.events, EventOk as e
  published : ∀ id, (∀ e ∈ s.events, e.id ≠ id) → failures id as = 0
  txs : ∀ w d, s.txs w = some d → d.Valid s
  locks : ∀ w w' d d', s.txs w = some d → s.txs w' = some d' → d.event.id = d'.event.id → w = w'

theorem failures_append (id : Nat) (as : List (OutboxAction W)) (a : OutboxAction W) :
    failures id (as ++ [a]) = failures id as + if a.failed id then 1 else 0 := by
  simp [failures, List.countP_cons]

theorem EventOk.append {as : List (OutboxAction W)} {e : OutboxEvent} (h : EventOk as e)
    {a : OutboxAction W} (ha : a.failed e.id = false) : EventOk (as ++ [a]) e where
  names := h.names
  count := by simp [failures_append, ha, h.count]
  bound := h.bound
  failed := h.failed
  processed hp := by
    obtain ⟨w, d, now, later, jitter, hm, hrest⟩ := h.processed hp
    exact ⟨w, d, now, later, jitter, List.mem_append_left _ hm, hrest⟩

theorem Dispatch.Valid.keep {s s' : OutboxState W} {d : Dispatch} (h : d.Valid s)
    (he : d.event ∈ s'.events) : d.Valid s' :=
  { h with event := he }

theorem Dispatch.Valid.push {s s' : OutboxState W} {d : Dispatch} {r : HandlerResult}
    {rest : List String} (h : d.Valid s) (hev : s'.events = s.events)
    (hr : d.remaining = r.handler_name :: rest)
    (hskip : r.skipped = true ↔ r.handler_name ∈ completed d.event)
    (hok : r.skipped = true → r.success = true) :
    Dispatch.Valid s' { d with results := d.results ++ [r], remaining := rest } where
  event := hev ▸ h.event
  pending := h.pending
  names := h.names
  progress := by simpa [hr] using h.progress
  skipped r' hr' := by
    rcases List.mem_append.mp hr' with hr' | hr'
    · exact h.skipped r' hr'
    · rw [List.mem_singleton.mp hr']
      exact hskip
  success r' hr' := by
    rcases List.mem_append.mp hr' with hr' | hr'
    · exact h.success r' hr'
    · rw [List.mem_singleton.mp hr']
      exact hok

theorem Inv.keep_events {as : List (OutboxAction W)} {s s' : OutboxState W} {a : OutboxAction W}
    (h : Inv as s) (hev : s'.events = s.events) (ha : ∀ id, a.failed id = false)
    (htxs : ∀ w d, s'.txs w = some d → d.Valid s')
    (hlocks : ∀ w w' d d', s'.txs w = some d → s'.txs w' = some d' →
      d.event.id = d'.event.id → w = w') : Inv (as ++ [a]) s' where
  unique := hev ▸ h.unique
  events e he := (h.events e (hev ▸ he)).append (ha e.id)
  published id hid := by simpa [failures_append, ha] using h.published id (hev ▸ hid)
  txs := htxs
  locks := hlocks

theorem Inv.publish {as : List (OutboxAction W)} {s : OutboxState W} (h : Inv as s)
    {id max_retries : Nat} {event_type : String} {payload : PyJson} {now : Timestamptz}
    (hid : ∀ e ∈ s.events, e.id ≠ id) (hmax : 1 ≤ max_retries) :
    Inv (as ++ [.publish (.fresh id event_type payload max_retries now)])
      { s with events := s.events ++ [.fresh id event_type payload max_retries now] } where
  unique := Table.unique_concat h.unique (Table.find_none.mpr hid)
  events e he := by
    rcases List.mem_append.mp he with he | he
    · exact (h.events e he).append rfl
    · rw [List.mem_singleton.mp he]
      refine ⟨List.nodup_nil, ?_, Nat.zero_le _, ?_, fun hp => by simp [OutboxEvent.fresh] at hp⟩
      · simp [OutboxEvent.fresh, failures_append, OutboxAction.failed, h.published id hid]
      · simp only [OutboxEvent.fresh, reduceCtorEq, false_iff]
        omega
  published i hi := by
    simpa [failures_append, OutboxAction.failed] using
      h.published i (fun e he => hi e (List.mem_append_left _ he))
  txs w d hw := (h.txs w d hw).keep (List.mem_append_left _ (h.txs w d hw).event)
  locks := h.locks

theorem Dispatch.Valid.names_eq {s : OutboxState W} {d : Dispatch} (h : d.Valid s)
    (hr : d.remaining = []) : d.results.map HandlerResult.handler_name = d.registered := by
  simpa [hr] using h.progress

theorem Dispatch.Valid.recorded {s : OutboxState W} {d : Dispatch} (h : d.Valid s)
    (hr : d.remaining = []) (hn : (Dict.keys d.event.handler_state).Nodup)
    (hs : all_succeeded d.results = true) (now : Datetime) {handler : String}
    (hh : handler ∈ d.registered) :
    ∃ entry, Dict.get handler (new_state now d.results d.event.handler_state) = some entry ∧
      entry.status = .ok := by
  have hnames := h.names_eq hr
  rw [← hnames] at hh
  obtain ⟨r, hmem, rfl⟩ := List.mem_map.mp hh
  have hnodup : (d.results.map HandlerResult.handler_name).Nodup := hnames ▸ h.names
  cases hsk : r.skipped with
  | false =>
      have hsucc : r.success = true := by
        simp only [all_succeeded, Bool.and_eq_true, List.all_eq_true] at hs
        exact hs.2 r hmem
      exact ⟨_, get_new_state_called hnodup hmem hsk, by simp [entry, hsucc]⟩
  | true =>
      obtain ⟨entry, he, hok⟩ := (mem_completed hn).mp ((h.skipped r hmem).mp hsk)
      refine ⟨entry, ?_, hok⟩
      rw [get_new_state_other, he]
      intro r' hr' heq
      rwa [List.inj_on_of_nodup_map hnodup hr' hmem heq]

theorem EventOk.commit {as : List (OutboxAction W)} {s : OutboxState W} {d : Dispatch} {w : W}
    {now : Datetime} {later : Timestamptz} {jitter : Nat} (h : EventOk as d.event)
    (hd : d.Valid s) (hr : d.remaining = []) :
    EventOk (as ++ [.commit w d now later jitter])
      (handle_event d.results now later jitter d.event) := by
  have hfail : failures d.event.id (as ++ [.commit w d now later jitter]) =
      failures d.event.id as + if all_succeeded d.results then 0 else 1 := by
    rw [failures_append]
    cases hb : all_succeeded d.results <;> simp [OutboxAction.failed, hb]
  have hnames : (Dict.keys (handle_event d.results now later jitter d.event).handler_state).Nodup := by
    rw [handle_event_handler_state]
    exact nodup_keys_new_state h.names
  have hlt : d.event.retry_count < d.event.max_retries := by
    refine lt_of_le_of_ne h.bound (fun he => ?_)
    have hf := h.failed.mpr he
    simp [hd.pending] at hf
  rcases handle_event_cases d.results now later jitter d.event with
    ⟨hs, hst, hrc⟩ | ⟨hs, hrc, ⟨hm, hst⟩ | ⟨hm, hst⟩⟩
  · refine ⟨hnames, ?_, ?_, ?_, fun _ => ?_⟩
    · simp [hrc, hfail, hs, h.count]
    · simpa [hrc] using h.bound
    · simpa [hst, hrc] using hlt.ne
    · refine ⟨w, d, now, later, jitter, List.mem_append_right _ (List.mem_singleton_self _),
        (handle_event_id _).symm, hs, rfl, ?_, fun handler hh => ?_⟩
      · intro hnil
        have hres : d.results = [] := by simpa [hnil] using hd.names_eq hr
        simp [all_succeeded, hres] at hs
      · rw [handle_event_handler_state]
        exact hd.recorded hr h.names hs now hh
  · refine ⟨hnames, ?_, ?_, ?_, fun hp => by simp [hst] at hp⟩
    · simp [hrc, hfail, hs, h.count]
    · rw [hrc, handle_event_max_retries]
      exact hlt
    · simp only [hst, hrc, handle_event_max_retries, true_iff]
      omega
  · refine ⟨hnames, ?_, ?_, ?_, fun hp => by simp [hst, hd.pending] at hp⟩
    · simp [hrc, hfail, hs, h.count]
    · rw [hrc, handle_event_max_retries]
      exact hlt
    · simp only [hst, hrc, handle_event_max_retries, hd.pending, reduceCtorEq, false_iff]
      omega

theorem Inv.locked {as : List (OutboxAction W)} {s : OutboxState W} (h : Inv as s) {w : W}
    {d : Dispatch} (hw : s.txs w = some d) {e : OutboxEvent} (he : e ∈ s.events)
    (hid : d.event.id = e.id) : d.event = e :=
  Table.unique_eq h.unique (h.txs w d hw).event he hid

theorem inv_init : Inv [] (OutboxState.init W) where
  unique := List.nodup_nil
  events e he := by simp [OutboxState.init] at he
  published _ _ := rfl
  txs w d hw := by simp [OutboxState.init] at hw
  locks w w' d d' hw := by simp [OutboxState.init] at hw

variable [DecidableEq W]

theorem Inv.commit {as : List (OutboxAction W)} {s : OutboxState W} (h : Inv as s) {w : W}
    {d : Dispatch} {now : Datetime} {later : Timestamptz} {jitter : Nat}
    (hw : s.txs w = some d) (hr : d.remaining = []) :
    Inv (as ++ [.commit w d now later jitter])
      { events := Table.update (fun e => decide (e.id = d.event.id))
          (handle_event d.results now later jitter) s.events
        txs := Function.update s.txs w none } where
  unique := Table.unique_update (f := handle_event d.results now later jitter)
    (fun e _ => handle_event_id e) h.unique
  events e he := by
    obtain ⟨o, ho, rfl⟩ := Table.mem_update.mp he
    by_cases hid : o.id = d.event.id
    · obtain rfl := Table.unique_eq h.unique ho (h.txs w d hw).event hid
      simpa using (h.events _ ho).commit (h.txs w d hw) hr
    · simpa [hid] using (h.events o ho).append (by simp [OutboxAction.failed, Ne.symm hid])
  published id hid := by
    have hne : d.event.id ≠ id := by
      refine fun he => hid (handle_event d.results now later jitter d.event) ?_
        (by simpa using he)
      exact Table.mem_update.mpr ⟨d.event, (h.txs w d hw).event, by simp⟩
    rw [failures_append, h.published id (fun e he => ?_)]
    · simp [OutboxAction.failed, hne]
    · intro hei
      refine hid e (Table.mem_update.mpr ⟨e, he, ?_⟩) hei
      have hned : e.id ≠ d.event.id := fun h' => hne (h'.symm.trans hei)
      simp [hned]
  txs w' d' hw' := by
    rcases Transition.update_some hw' with ⟨_, hx⟩ | ⟨hww, hx⟩
    · simp at hx
    · refine (h.txs w' d' hx).keep (Table.mem_update.mpr ⟨d'.event, (h.txs w' d' hx).event, ?_⟩)
      have hne : d'.event.id ≠ d.event.id := fun he => hww (h.locks w' w d' d hx hw he)
      simp [hne]
  locks u v du dv hu hv he := by
    rcases Transition.update_some hu with ⟨_, hx⟩ | ⟨_, hx⟩
    · simp at hx
    · rcases Transition.update_some hv with ⟨_, hy⟩ | ⟨_, hy⟩
      · simp at hy
      · exact h.locks u v du dv hx hy he

theorem Inv.begin_ {as : List (OutboxAction W)} {s : OutboxState W} (h : Inv as s) {w : W}
    {x : Option Dispatch} {a : OutboxAction W} (ha : ∀ id, a.failed id = false)
    (hvalid : ∀ d, x = some d → d.Valid (s.begin_ w x))
    (hlock : ∀ d, x = some d → ∀ w' d', w' ≠ w → s.txs w' = some d' → d'.event.id ≠ d.event.id) :
    Inv (as ++ [a]) (s.begin_ w x) := by
  refine h.keep_events rfl ha (fun w' d' hw' => ?_) (fun u v du dv hu hv he => ?_)
  · rcases Transition.update_some hw' with ⟨_, hx⟩ | ⟨_, hx⟩
    · exact hvalid d' hx
    · exact (h.txs w' d' hx).keep (h.txs w' d' hx).event
  · rcases Transition.update_some hu with ⟨hu', hx⟩ | ⟨hu', hx⟩
    · rcases Transition.update_some hv with ⟨hv', _⟩ | ⟨hv', hy⟩
      · exact hu'.trans hv'.symm
      · exact absurd he.symm (hlock du hx v dv hv' hy)
    · rcases Transition.update_some hv with ⟨hv', hy⟩ | ⟨hv', hy⟩
      · exact absurd he (hlock dv hy u du hu' hx)
      · exact h.locks u v du dv hx hy he

theorem Inv.step {as : List (OutboxAction W)} {s s' : OutboxState W} {a : OutboxAction W}
    (h : Inv as s) (hs : OutboxStep s a s') : Inv (as ++ [a]) s' := by
  cases hs with
  | publish hid hmax => exact h.publish hid hmax
  | pick hw hdue hfirst hnames =>
      refine h.begin_ (fun _ => rfl) (fun d hd => ?_) (fun d hd w' d' _ hw' => ?_)
      · obtain rfl := Option.some.inj hd
        exact ⟨hdue.1, hdue.2.1, hnames, rfl, by simp, by simp⟩
      · obtain rfl := Option.some.inj hd
        exact hdue.2.2.2 w' d' hw'
  | skip hw hr hc =>
      refine h.begin_ (fun _ => rfl) (fun d' hd => ?_) (fun d' hd w' d'' hww hw' he => ?_)
      · obtain rfl := Option.some.inj hd
        exact (h.txs _ _ hw).push rfl hr (by simp [skipped_result, hc]) (fun _ => rfl)
      · obtain rfl := Option.some.inj hd
        exact hww (h.locks _ _ _ _ hw' hw he)
  | call hw hr hc =>
      refine h.begin_ (fun _ => rfl) (fun d' hd => ?_) (fun d' hd w' d'' hww hw' he => ?_)
      · obtain rfl := Option.some.inj hd
        exact (h.txs _ _ hw).push rfl hr (by simp [called_result, hc]) (by simp [called_result])
      · obtain rfl := Option.some.inj hd
        exact hww (h.locks _ _ _ _ hw' hw he)
  | commit hw hr => exact h.commit hw hr
  | crash w => exact h.begin_ (fun _ => rfl) (fun d hd => by simp at hd) (fun d hd => by simp at hd)

theorem OutboxRun.inv {as : List (OutboxAction W)} {s : OutboxState W}
    (h : OutboxRun (OutboxState.init W) as s) : Inv as s :=
  Transition.Run.history (fun _ _ _ _ hi hs => hi.step hs) h inv_init

theorem Inv.run {as bs : List (OutboxAction W)} {s s' : OutboxState W} (h : Inv as s)
    (hr : OutboxRun s bs s') : Inv (as ++ bs) s' := by
  induction hr with
  | nil => simpa using h
  | snoc _ hs ih =>
      rw [← List.append_assoc]
      exact ih.step hs

theorem Inv.final_step {as : List (OutboxAction W)} {s s' : OutboxState W} {a : OutboxAction W}
    (h : Inv as s) (hs : OutboxStep s a s') {e : OutboxEvent} (he : e ∈ s.events)
    (hf : e.status ≠ .PENDING) : e ∈ s'.events ∧ a.event_id ≠ some e.id := by
  have hlocked : ∀ w d, s.txs w = some d → d.event.id ≠ e.id :=
    fun w d hw hid => hf (h.locked hw he hid ▸ (h.txs w d hw).pending)
  cases hs with
  | publish => exact ⟨List.mem_append_left _ he, by simp [OutboxAction.event_id]⟩
  | pick _ hdue =>
      refine ⟨he, fun hid => hf ?_⟩
      exact Table.unique_eq h.unique hdue.1 he (Option.some.inj hid) ▸ hdue.2.1
  | skip hw => exact ⟨he, fun hid => hlocked _ _ hw (Option.some.inj hid)⟩
  | call hw => exact ⟨he, fun hid => hlocked _ _ hw (Option.some.inj hid)⟩
  | commit hw =>
      refine ⟨Table.mem_update.mpr ⟨e, he, ?_⟩, fun hid => hlocked _ _ hw (Option.some.inj hid)⟩
      simp [Ne.symm (hlocked _ _ hw)]
  | crash => exact ⟨he, by simp [OutboxAction.event_id]⟩

theorem Inv.final {as bs : List (OutboxAction W)} {s s' : OutboxState W} (h : Inv as s)
    (hr : OutboxRun s bs s') {e : OutboxEvent} (he : e ∈ s.events) (hf : e.status ≠ .PENDING) :
    e ∈ s'.events ∧ ∀ a ∈ bs, a.event_id ≠ some e.id := by
  induction hr with
  | nil => exact ⟨he, by simp⟩
  | snoc hr hs ih =>
      have hi := h.run hr
      obtain ⟨he', ha⟩ := ih
      obtain ⟨he'', ha'⟩ := hi.final_step hs he' hf
      refine ⟨he'', fun a hm => ?_⟩
      rcases List.mem_append.mp hm with hm | hm
      · exact ha a hm
      · rw [List.mem_singleton.mp hm]
        exact ha'

def Recorded (s : OutboxState W) (id : Nat) (handler : String) (entry : HandlerEntry) : Prop :=
  ∃ e ∈ s.events, e.id = id ∧ Dict.get handler e.handler_state = some entry

theorem Inv.recorded_step {as : List (OutboxAction W)} {s s' : OutboxState W} {a : OutboxAction W}
    (h : Inv as s) (hs : OutboxStep s a s') {event_id : Nat} {handler : String} {entry : HandlerEntry}
    (hrec : Recorded s event_id handler entry) (hok : entry.status = .ok) :
    Recorded s' event_id handler entry ∧ ∀ w error, a ≠ .call w event_id handler error := by
  have hrec' := hrec
  obtain ⟨e, he, rfl, hget⟩ := hrec'
  have hdone : handler ∈ completed e := (mem_completed (h.events e he).names).mpr ⟨entry, hget, hok⟩
  cases hs with
  | publish => exact ⟨⟨e, List.mem_append_left _ he, rfl, hget⟩, by simp⟩
  | pick => exact ⟨hrec, by simp⟩
  | skip => exact ⟨hrec, by simp⟩
  | call hw _ hc =>
      refine ⟨hrec, fun w error heq => hc ?_⟩
      simp only [OutboxAction.call.injEq] at heq
      rw [heq.2.2.1, h.locked hw he heq.2.1]
      exact hdone
  | @commit w d now later jitter hw hr =>
      refine ⟨?_, by simp⟩
      by_cases hid : d.event.id = e.id
      · have hde := h.locked hw he hid
        have hv := h.txs w d hw
        refine ⟨handle_event d.results now later jitter e,
          Table.mem_update.mpr ⟨e, he, by simp [hid]⟩, handle_event_id e, ?_⟩
        rw [handle_event_handler_state, get_new_state_other, hget]
        exact fun r hr' hname => (hv.skipped r hr').mpr (by rw [hname, hde]; exact hdone)
      · exact ⟨e, Table.mem_update.mpr ⟨e, he, by simp [Ne.symm hid]⟩, rfl, hget⟩
  | crash => exact ⟨hrec, by simp⟩

theorem Inv.recorded {as bs : List (OutboxAction W)} {s s' : OutboxState W} (h : Inv as s)
    (hr : OutboxRun s bs s') {id : Nat} {handler : String} {entry : HandlerEntry}
    (hrec : Recorded s id handler entry) (hok : entry.status = .ok) :
    Recorded s' id handler entry ∧ ∀ w error, .call w id handler error ∉ bs := by
  induction hr with
  | nil => exact ⟨hrec, by simp⟩
  | snoc hr hs ih =>
      have hi := h.run hr
      obtain ⟨hrec', hno⟩ := ih
      obtain ⟨hrec'', hno'⟩ := hi.recorded_step hs hrec' hok
      refine ⟨hrec'', fun w error hm => ?_⟩
      rcases List.mem_append.mp hm with hm | hm
      · exact hno w error hm
      · exact hno' w error (List.mem_singleton.mp hm).symm

omit [DecidableEq W] in
theorem begin_unit (s : OutboxState Unit) (x : Option Dispatch) :
    s.begin_ () x = ⟨s.events, fun _ => x⟩ := by
  rw [OutboxState.begin_, Function.update_eq_const_of_subsingleton]
  rfl

end GeoHazard.OutboxWorker

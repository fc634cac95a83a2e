import GeoHazard.Core.OutboxRuns

namespace GeoHazard.OutboxWorker

variable {W : Type} {as : List (OutboxAction W)} {s s' : OutboxState W} {a : OutboxAction W}
  {e : OutboxEvent} {w : W} {d : Dispatch} {id : Nat} {handler : String} {registered : List String}

-- some dispatch of the event called the handler and it returned
def Answered (as : List (OutboxAction W)) (id : Nat) (handler : String) : Prop :=
  ∃ w, .call w id handler none ∈ as

-- some dispatch of the event read these handlers from the registry
def Picked (as : List (OutboxAction W)) (id : Nat) (registered : List String) : Prop :=
  ∃ w now, .pick w id now registered ∈ as

theorem Answered.append (h : Answered as id handler) (bs : List (OutboxAction W)) :
    Answered (as ++ bs) id handler := by
  obtain ⟨w, hw⟩ := h
  exact ⟨w, List.mem_append_left _ hw⟩

theorem Picked.append (h : Picked as id registered) (bs : List (OutboxAction W)) :
    Picked (as ++ bs) id registered := by
  obtain ⟨w, now, hw⟩ := h
  exact ⟨w, now, List.mem_append_left _ hw⟩

-- what the rows and the dispatches say of the calls made so far
structure Called (as : List (OutboxAction W)) (s : OutboxState W) : Prop where
  picked : ∀ w d, s.txs w = some d → Picked as d.event.id d.registered
  commits : ∀ w d now later jitter, .commit w d now later jitter ∈ as →
    Picked as d.event.id d.registered
  results : ∀ w d, s.txs w = some d → ∀ r ∈ d.results, r.skipped = false → r.success = true →
    Answered as d.event.id r.handler_name
  recorded : ∀ e ∈ s.events, ∀ handler entry, Dict.get handler e.handler_state = some entry →
    entry.status = .ok → Answered as e.id handler

theorem Called.init : Called [] (OutboxState.init W) where
  picked w d hw := by simp [OutboxState.init] at hw
  commits w d now later jitter hm := by simp at hm
  results w d hw := by simp [OutboxState.init] at hw
  recorded e he := by simp [OutboxState.init] at he

theorem Called.commits_append (h : Called as s) (ha : ∀ w d now later jitter,
    a = .commit w d now later jitter → s.txs w = some d) (w : W) (d : Dispatch) (now : Datetime)
    (later : Timestamptz) (jitter : Nat) (hm : .commit w d now later jitter ∈ as ++ [a]) :
    Picked (as ++ [a]) d.event.id d.registered := by
  rcases List.mem_append.mp hm with hm | hm
  · exact (h.commits w d now later jitter hm).append _
  · exact (h.picked w d (ha w d now later jitter (List.mem_singleton.mp hm).symm)).append _

variable [DecidableEq W]

theorem Called.begin_ (h : Called as s) {x : Option Dispatch}
    (ha : ∀ w d now later jitter, a ≠ .commit w d now later jitter)
    (hpicked : ∀ d, x = some d → Picked (as ++ [a]) d.event.id d.registered)
    (hresults : ∀ d, x = some d → ∀ r ∈ d.results, r.skipped = false → r.success = true →
      Answered (as ++ [a]) d.event.id r.handler_name) :
    Called (as ++ [a]) (s.begin_ w x) where
  picked v d hv := by
    rcases Transition.update_some hv with ⟨_, hd⟩ | ⟨_, hd⟩
    · exact hpicked d hd
    · exact (h.picked v d hd).append _
  commits := h.commits_append (fun w d now later jitter heq => absurd heq (ha w d now later jitter))
  results v d hv r hr hsk hok := by
    rcases Transition.update_some hv with ⟨_, hd⟩ | ⟨_, hd⟩
    · exact hresults d hd r hr hsk hok
    · exact (h.results v d hd r hr hsk hok).append _
  recorded e he handler entry hg hok := (h.recorded e he handler entry hg hok).append _

theorem Called.push (h : Called as s) {r : HandlerResult} {rest : List String}
    (hw : s.txs w = some d) (ha : ∀ w d now later jitter, a ≠ .commit w d now later jitter)
    (hr : r.skipped = false → r.success = true →
      Answered (as ++ [a]) d.event.id r.handler_name) :
    Called (as ++ [a])
      (s.begin_ w (some { d with results := d.results ++ [r], remaining := rest })) := by
  refine h.begin_ ha (fun d' hd => ?_) (fun d' hd r' hr' hsk hok => ?_)
  · obtain rfl := Option.some.inj hd
    exact (h.picked w d hw).append _
  · obtain rfl := Option.some.inj hd
    rcases List.mem_append.mp hr' with hr' | hr'
    · exact (h.results w d hw r' hr' hsk hok).append _
    · obtain rfl := List.mem_singleton.mp hr'
      exact hr hsk hok

omit [DecidableEq W] in
theorem Called.handled (h : Called as s) (hi : Inv as s) (hw : s.txs w = some d)
    (hr : d.remaining = []) {now : Datetime} {later : Timestamptz} {jitter : Nat}
    {entry : HandlerEntry}
    (hg : Dict.get handler (handle_event d.results now later jitter d.event).handler_state =
      some entry)
    (hok : entry.status = .ok) : Answered as d.event.id handler := by
  have hv := hi.txs w d hw
  rw [handle_event_handler_state] at hg
  by_cases hcalled : ∃ r ∈ d.results, r.handler_name = handler ∧ r.skipped = false
  · obtain ⟨r, hmem, rfl, hsk⟩ := hcalled
    have hget := @get_new_state_called d.results now r d.event.handler_state
      (hv.names_eq hr ▸ hv.names) hmem hsk
    rw [hg, Option.some.injEq] at hget
    cases hsucc : r.success with
    | true => exact h.results w d hw r hmem hsk hsucc
    | false => simp [hget, OutboxWorker.entry, hsucc] at hok
  · rw [get_new_state_other] at hg
    · exact h.recorded d.event hv.event handler entry hg hok
    · intro r hmem hname
      cases hsk : r.skipped with
      | true => rfl
      | false => exact absurd ⟨r, hmem, hname, hsk⟩ hcalled

theorem Called.commit (h : Called as s) (hi : Inv as s) (hw : s.txs w = some d)
    (hr : d.remaining = []) (now : Datetime) (later : Timestamptz) (jitter : Nat) :
    Called (as ++ [.commit w d now later jitter])
      { events := Table.update (fun e => decide (e.id = d.event.id))
          (handle_event d.results now later jitter) s.events
        txs := Function.update s.txs w none } where
  picked v d' hv := by
    rcases Transition.update_some hv with ⟨_, hd⟩ | ⟨_, hd⟩
    · simp at hd
    · exact (h.picked v d' hd).append _
  commits := h.commits_append (fun v d' now' later' jitter' heq => by
    obtain ⟨rfl, rfl, _⟩ := OutboxAction.commit.inj heq
    exact hw)
  results v d' hv r hrm hsk hok := by
    rcases Transition.update_some hv with ⟨_, hd⟩ | ⟨_, hd⟩
    · simp at hd
    · exact (h.results v d' hd r hrm hsk hok).append _
  recorded e he handler entry hg hok := by
    obtain ⟨o, ho, rfl⟩ := Table.mem_update.mp he
    by_cases hid : o.id = d.event.id
    · obtain rfl := Table.unique_eq hi.unique ho (hi.txs w d hw).event hid
      simp only [decide_true, if_true, handle_event_id] at hg ⊢
      exact (h.handled hi hw hr hg hok).append _
    · simp only [hid, decide_false, Bool.false_eq_true, if_false] at hg ⊢
      exact (h.recorded o ho handler entry hg hok).append _

theorem Called.step (h : Called as s) (hi : Inv as s) (hs : OutboxStep s a s') :
    Called (as ++ [a]) s' := by
  cases hs with
  | @publish id max_retries event_type payload now hid hmax =>
      refine ⟨fun w d hw => (h.picked w d hw).append _, h.commits_append (by simp),
        fun w d hw r hr hsk hok => (h.results w d hw r hr hsk hok).append _,
        fun e he handler entry hg hok => ?_⟩
      rcases List.mem_append.mp he with he | he
      · exact (h.recorded e he handler entry hg hok).append _
      · rw [List.mem_singleton.mp he] at hg
        simp [OutboxEvent.fresh] at hg
  | @pick w e now registered hw hdue hfirst hnames =>
      refine h.begin_ (by simp) (fun d hd => ?_) (fun d hd => ?_)
      · obtain rfl := Option.some.inj hd
        exact ⟨w, now, List.mem_append_right _ (List.mem_singleton_self _)⟩
      · obtain rfl := Option.some.inj hd
        simp
  | skip hw => exact h.push hw (by simp) (by simp [skipped_result])
  | @call w d handler rest error hw hr hc =>
      refine h.push hw (by simp) (fun _ hok => ⟨w, List.mem_append_right _ ?_⟩)
      have herror : error = none := by simpa [called_result] using hok
      subst herror
      exact List.mem_singleton_self _
  | commit hw hr => exact h.commit hi hw hr _ _ _
  | crash w => exact h.begin_ (by simp) (by simp) (by simp)

omit [DecidableEq W] in
theorem Called.processed (h : Called as s) (hi : Inv as s) (he : e ∈ s.events)
    (hp : e.status = .PROCESSED) :
    ∃ registered, Picked as e.id registered ∧ ∀ handler ∈ registered, Answered as e.id handler := by
  obtain ⟨w, d, now, later, jitter, hm, hid, _, _, _, hrec⟩ := (hi.events e he).processed hp
  refine ⟨d.registered, hid ▸ h.commits w d now later jitter hm, fun handler hh => ?_⟩
  obtain ⟨entry, hg, hok⟩ := hrec handler hh
  exact h.recorded e he handler entry hg hok

end GeoHazard.OutboxWorker

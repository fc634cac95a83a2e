import GeoHazard.Core.OutboxEvent

namespace GeoHazard

structure HandlerResult where
  handler_name : String
  success : Bool
  error : Option String
  skipped : Bool
  deriving DecidableEq

namespace DispatchResult

def all_succeeded (results : List HandlerResult) : Bool :=
  !results.isEmpty && results.all HandlerResult.success

def errors_summary (results : List HandlerResult) : String :=
  if results.isEmpty then "no handlers registered"
  else
    "\n---\n".intercalate ((results.filter (fun r => !r.success)).map
      (fun r => "[" ++ r.handler_name ++ "] " ++ r.error.getD "None"))

end DispatchResult

namespace OutboxWorker

open DispatchResult

def completed (event : OutboxEvent) : List String :=
  (event.handler_state.filter (fun kv => decide (kv.2.status = .ok))).map Prod.fst

def skipped_result (handler : String) : HandlerResult := ⟨handler, true, none, true⟩

-- error is the traceback of an exception or of the timeout
def called_result (handler : String) (error : Option String) : HandlerResult :=
  ⟨handler, error.isNone, error, false⟩

def entry (now : Datetime) (r : HandlerResult) : HandlerEntry where
  status := if r.success then .ok else .failed
  at_ := now.isoformat
  error := match r.error with
    | some e => if e = "" then none else some (String.ofList (e.toList.take 500))
    | none => none

def new_state (now : Datetime) (results : List HandlerResult)
    (state : List (String × HandlerEntry)) : List (String × HandlerEntry) :=
  results.foldl (fun st r => if r.skipped then st else Dict.set r.handler_name (entry now r) st) state

def MAX_BACKOFF_HOURS : Nat := 1

-- microseconds; jitter is random.uniform(0, 5)
def backoff (retry_count jitter : Nat) : Nat :=
  min (2 ^ retry_count * 1000000 + jitter) (MAX_BACKOFF_HOURS * 3600 * 1000000)

def handle_event (results : List HandlerResult) (now : Datetime) (later : Timestamptz)
    (jitter : Nat) (event : OutboxEvent) : OutboxEvent :=
  let event := { event with handler_state := new_state now results event.handler_state }
  if all_succeeded results then
    { event with status := .PROCESSED, processed_at := some later }
  else
    let event := { event with
      retry_count := event.retry_count + 1, last_error := some (errors_summary results) }
    if event.max_retries ≤ event.retry_count then { event with status := .FAILED }
    else { event with scheduled_at := later + backoff event.retry_count jitter }

variable {results : List HandlerResult} {now : Datetime} {later : Timestamptz} {jitter : Nat}

theorem handle_event_cases (results : List HandlerResult) (now : Datetime) (later : Timestamptz)
    (jitter : Nat) (event : OutboxEvent) :
    (all_succeeded results = true ∧
      (handle_event results now later jitter event).status = .PROCESSED ∧
      (handle_event results now later jitter event).retry_count = event.retry_count) ∨
    (all_succeeded results = false ∧
      (handle_event results now later jitter event).retry_count = event.retry_count + 1 ∧
      ((event.max_retries ≤ event.retry_count + 1 ∧
        (handle_event results now later jitter event).status = .FAILED) ∨
      (event.retry_count + 1 < event.max_retries ∧
        (handle_event results now later jitter event).status = event.status))) := by
  unfold handle_event
  by_cases hs : all_succeeded results = true
  · exact .inl ⟨hs, by simp [hs], by simp [hs]⟩
  · have hf : all_succeeded results = false := by simpa using hs
    by_cases hm : event.max_retries ≤ event.retry_count + 1
    · exact .inr ⟨hf, by simp [hf, hm], .inl ⟨hm, by simp [hf, hm]⟩⟩
    · exact .inr ⟨hf, by simp [hf, hm], .inr ⟨by omega, by simp [hf, hm]⟩⟩

@[simp] theorem handle_event_id (event : OutboxEvent) :
    (handle_event results now later jitter event).id = event.id := by
  unfold handle_event
  grind

@[simp] theorem handle_event_max_retries (event : OutboxEvent) :
    (handle_event results now later jitter event).max_retries = event.max_retries := by
  unfold handle_event
  grind

@[simp] theorem handle_event_handler_state (event : OutboxEvent) :
    (handle_event results now later jitter event).handler_state =
      new_state now results event.handler_state := by
  unfold handle_event
  grind

theorem nodup_keys_new_state {state : List (String × HandlerEntry)}
    (h : (Dict.keys state).Nodup) : (Dict.keys (new_state now results state)).Nodup := by
  unfold new_state
  induction results generalizing state with
  | nil => exact h
  | cons r results ih =>
      simp only [List.foldl_cons]
      split
      · exact ih h
      · exact ih (Dict.nodup_keys_set h)

theorem get_new_state_other {handler : String} {state : List (String × HandlerEntry)}
    (h : ∀ r ∈ results, r.handler_name = handler → r.skipped = true) :
    Dict.get handler (new_state now results state) = Dict.get handler state := by
  unfold new_state
  induction results generalizing state with
  | nil => rfl
  | cons r results ih =>
      simp only [List.foldl_cons]
      rw [ih (fun r' hr => h r' (by simp [hr]))]
      split
      · rfl
      · next hns => exact Dict.get_set_other (fun he => hns (h r (by simp) he)) _ _

theorem get_new_state_called {r : HandlerResult} {state : List (String × HandlerEntry)}
    (hn : (results.map HandlerResult.handler_name).Nodup) (hr : r ∈ results)
    (hs : r.skipped = false) :
    Dict.get r.handler_name (new_state now results state) = some (entry now r) := by
  unfold new_state
  induction results generalizing state with
  | nil => simp at hr
  | cons r' results ih =>
      simp only [List.map_cons, List.nodup_cons] at hn
      simp only [List.foldl_cons]
      rcases List.mem_cons.mp hr with rfl | hr
      · have hrest : ∀ q ∈ results, q.handler_name = r.handler_name → q.skipped = true :=
          fun q hq he => absurd (he ▸ List.mem_map_of_mem hq) hn.1
        rw [hs, if_neg (by simp)]
        exact (get_new_state_other hrest).trans (Dict.get_set_self _ _ _)
      · exact ih hn.2 hr

theorem mem_completed {event : OutboxEvent} {handler : String}
    (hn : (Dict.keys event.handler_state).Nodup) :
    handler ∈ completed event ↔
      ∃ entry, Dict.get handler event.handler_state = some entry ∧ entry.status = .ok := by
  simp only [completed, List.mem_map, List.mem_filter, decide_eq_true_eq, Prod.exists,
    exists_and_right, exists_eq_right, Dict.get_iff hn]

end OutboxWorker

end GeoHazard

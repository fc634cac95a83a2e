import GeoHazard.Hazards.SnapshotFiles
import GeoHazard.Hazards.ReferenceEnv

namespace GeoHazard

open Transition OutboxWorker

variable {G W : Type} {env : Env G} {s t : ExportState G W} {source : Source}

structure Exporting (s : ExportState G W) : Prop where
  recording : Recording s
  writing : Writing s
  awaited : Awaited s
  reported : Reported (Exported s) s.outbox

theorem Exporting.init : Exporting (ExportState.init G W) where
  recording := .init
  writing := .init
  awaited w tmp h := by simp [ExportState.init] at h
  reported := ⟨fun w d h => by simp [ExportState.init, ExportState.outbox] at h,
    fun e h => by simp [ExportState.init, ExportState.outbox, Db.empty] at h,
    fun e h => by simp [ExportState.init, ExportState.outbox, Db.empty] at h⟩

theorem Recording.published (h : Recording s) {w : W} {d : Dispatch} (hw : s.txs w = some d) :
    d.event.id < s.db.outbox_events.length := by
  obtain ⟨as, hinv⟩ := h.outbox
  have hmem : d.event ∈ s.db.outbox_events := (hinv.txs w d hw).event
  have hid := List.mem_map_of_mem (f := OutboxEvent.id) hmem
  rwa [h.ids, List.mem_range] at hid

theorem Exporting.exported_returned (h : Exporting s) {w : W} {wr : Writer G} {d : Dispatch}
    (hc : s.calls w = some (.run_blocking wr.tmp)) (hwr : wr ∈ s.writers)
    (hst : wr.stage = .replaced) (hw : s.txs w = some d)
    (hsource : source_of d.event.payload = some source) : Exported s source d.event.id := by
  obtain ⟨_, d', hd', hall⟩ := h.awaited w wr.tmp hc
  obtain rfl := Option.some.inj (hw.symm.trans hd')
  obtain ⟨hs, v, hv, hlt⟩ := hall wr hwr rfl
  obtain rfl := Option.some.inj (hsource.symm.trans hs)
  obtain ⟨f, hf, hle⟩ := h.writing.served wr hwr hst
  obtain ⟨v', hv', _⟩ := h.writing.installed _ f hf
  exact ⟨f, v', hf, hv', hlt.trans_le (lengths_le h.recording hle hv hv')⟩

theorem Exporting.current (h : Exporting s) {e : OutboxEvent}
    (hc : Exported s source e.id) (hlast : ∀ e' ∈ s.db.outbox_events,
      source_of e'.payload = some source → e'.id ≤ e.id) :
    ∃ f, s.files source = some f ∧
      ∀ row : HazardEvent G, row ∈ f.rows ↔ row ∈ s.db.hazard_events ∧ row.source = source := by
  obtain ⟨f, v, hf, hv, hlt⟩ := hc
  obtain ⟨v', hv', hrows⟩ := h.writing.installed source f hf
  obtain rfl := Option.some.inj (hv.symm.trans hv')
  have hseen := h.recording.seen v (List.mem_of_getElem? hv) source (fun p hp hsource => by
    obtain ⟨e', he', rfl⟩ := List.mem_map.mp hp
    exact (hlast e' he' hsource).trans_lt hlt)
  refine ⟨f, hf, fun row => ?_⟩
  rw [hrows, HazardEventRepo.mem_fetch_export_rows]
  exact and_congr_left (hseen row)

variable [DecidableEq W]

theorem OutboxWorker.OutboxStep.between {o o' : OutboxState W} {a : OutboxAction W}
    {calls : W → Option Suspended} (h : OutboxStep o a o') (hb : Between calls a) {w : W}
    (hw : calls w ≠ none) : o'.txs w = o.txs w := by
  have hbegin : ∀ (v : W) (x : Option Dispatch), calls v = none →
      Function.update o.txs v x w = o.txs w := by
    rintro v x hv
    exact Function.update_of_ne (fun he => hw (by rw [he, hv])) _ _
  cases h with
  | publish => exact hb.elim
  | pick => exact hbegin _ _ hb.2
  | skip => exact hbegin _ _ hb
  | call => exact hbegin _ _ hb.2
  | commit => exact hbegin _ _ hb
  | crash => exact hb.elim

theorem OutboxWorker.OutboxStep.other_txs {o o' : OutboxState W} {v w : W} {id : Nat}
    {handler : String} {error : Option String} (h : OutboxStep o (.call v id handler error) o')
    (hw : w ≠ v) : o'.txs w = o.txs w := by
  cases h with
  | call => exact Function.update_of_ne hw _ _

theorem suspend_none {w v : W} {tmp : Nat}
    (h : (s.suspend w none).calls v = some (.run_blocking tmp)) :
    v ≠ w ∧ s.calls v = some (.run_blocking tmp) := by
  rcases update_some h with ⟨_, hx⟩ | hx
  · simp at hx
  · exact hx

theorem Exporting.awaited_fetched (h : Exporting s) {w : W} {d : Dispatch} (hw : s.txs w = some d)
    (hsource : source_of d.event.payload = some source) :
    Awaited { s.suspend w (some (.run_blocking s.next_tmp)) with
      writers := s.writers ++ [⟨⟨HazardEventRepo.fetch_export_rows source s.db.hazard_events,
        s.history.length⟩, s.next_tmp, source, .converting⟩]
      history := s.history ++ [s.db]
      next_tmp := s.next_tmp + 1 } := by
  intro v tmp hcall
  rcases update_some hcall with ⟨rfl, htmp⟩ | ⟨hne, hcall⟩
  · obtain rfl : s.next_tmp = tmp := by simpa using htmp
    refine ⟨Nat.lt_succ_self _, d, hw, fun wr hwr htmp => ?_⟩
    rcases List.mem_append.mp hwr with hwr | hwr
    · exact absurd htmp (h.writing.drawn wr hwr).ne
    · rw [List.mem_singleton.mp hwr]
      exact ⟨hsource, s.db, by simp, h.recording.published hw⟩
  · obtain ⟨hdrawn, d', hd', hall⟩ := h.awaited v tmp hcall
    refine ⟨Nat.lt_succ_of_lt hdrawn, d', hd', fun wr hwr htmp => ?_⟩
    rcases List.mem_append.mp hwr with hwr | hwr
    · obtain ⟨hs, u, hu, hlt⟩ := hall wr hwr htmp
      exact ⟨hs, u, getElem?_later hu (List.prefix_append _ _), hlt⟩
    · rw [List.mem_singleton.mp hwr] at htmp
      exact absurd htmp hdrawn.ne'

theorem Exporting.awaited_step (h : Exporting s) {a : ExportAction W} (hs : ExportStep env s a t) :
    Awaited t := by
  have hsame : ∀ {r : Writer G} {ws : List (Writer G)}, r ∈ ws → ∃ o ∈ ws, r.tmp = o.tmp ∧
      r.source = o.source ∧ r.read_at = o.read_at := fun hr => ⟨_, hr, rfl, rfl, rfl⟩
  have hstage : ∀ {tmp : Nat} {stage : WriterStage}, ∀ r ∈ s.at_stage tmp stage, ∃ o ∈ s.writers,
      r.tmp = o.tmp ∧ r.source = o.source ∧ r.read_at = o.read_at := by
    intro tmp stage r hr
    rcases mem_at_stage.mp hr with ⟨hr, _⟩ | ⟨o, ho, _, rfl⟩
    · exact hsame hr
    · exact ⟨o, ho, rfl, rfl, rfl⟩
  cases hs with
  | synced =>
      exact h.awaited.keep (List.prefix_append _ _) rfl (fun r hr => hsame hr)
        (fun _ _ hc => ⟨hc, rfl⟩)
  | outbox hb ho =>
      refine h.awaited.keep (List.prefix_refl _) rfl (fun r hr => hsame hr)
        (fun w tmp hc => ⟨hc, ?_⟩)
      have hcall : s.calls w = some (.run_blocking tmp) := hc
      exact ho.between hb (by simp [hcall])
  | started =>
      refine h.awaited.keep (List.prefix_refl _) rfl (fun r hr => hsame hr)
        (fun w tmp hc => ?_)
      rcases update_some hc with ⟨_, hx⟩ | ⟨_, hx⟩
      · simp at hx
      · exact ⟨hx, rfl⟩
  | fetched hw _ hsource => exact h.awaited_fetched hw hsource
  | copied =>
      exact h.awaited.keep (List.prefix_refl _) rfl hstage (fun _ _ hc => ⟨hc, rfl⟩)
  | replaced =>
      exact h.awaited.keep (List.prefix_refl _) rfl hstage (fun _ _ hc => ⟨hc, rfl⟩)
  | returned _ _ _ ho =>
      refine h.awaited.keep (List.prefix_refl _) rfl
        (fun r hr => hsame (List.mem_of_mem_filter hr)) (fun v tmp hc => ?_)
      obtain ⟨hne, hc⟩ := suspend_none hc
      exact ⟨hc, ho.other_txs hne⟩
  | @raised _ _ c _ _ _ ho =>
      refine h.awaited.keep (List.prefix_refl _) rfl (fun r hr => ?_)
        (fun v tmp hc => ?_)
      · cases c with
        | fetching => exact hsame hr
        | run_blocking tmp => exact hsame (List.mem_of_mem_filter hr)
      · obtain ⟨hne, hc⟩ := suspend_none hc
        exact ⟨hc, ho.other_txs hne⟩
  | timed_out _ ho =>
      refine h.awaited.keep (List.prefix_refl _) rfl (fun r hr => hsame hr)
        (fun v tmp hc => ?_)
      obtain ⟨hne, hc⟩ := suspend_none hc
      exact ⟨hc, ho.other_txs hne⟩
  | crashed =>
      refine h.awaited.keep (List.prefix_refl _) rfl (fun r hr => hsame hr)
        (fun v tmp hc => ?_)
      obtain ⟨hne, hc⟩ := suspend_none hc
      exact ⟨hc, Function.update_of_ne hne _ _⟩
  | ended =>
      exact h.awaited.keep (List.prefix_refl _) rfl
        (fun r hr => hsame (List.mem_of_mem_filter hr)) (fun _ _ hc => ⟨hc, rfl⟩)

theorem Exporting.reported_step (h : Exporting s) {a : ExportAction W} (hs : ExportStep env s a t) :
    Reported (Exported s) t.outbox := by
  obtain ⟨as, hinv⟩ := h.recording.outbox
  have hreg := h.recording.registered
  cases hs with
  | synced hsync =>
      rcases hsync.published h.recording.keys with ⟨_, ho⟩ | ⟨_, payload, now, _, ho, _⟩
      · have hout := h.reported
        rw [ExportState.outbox, ← ho] at hout
        exact hout
      · have hout := h.reported.publish s.db.outbox_events.length OUTBOX_MAX_RETRIES BATCH_INGESTED
          payload now
        rw [ExportState.outbox, ho]
        exact hout
  | outbox hb ho =>
      refine h.reported.step hinv hreg ho (fun w id ha => ?_)
      subst ha
      exact absurd rfl hb.1
  | returned hc hwr hst ho =>
      refine h.reported.step hinv hreg ho (fun w' id ha d hd source hsource => ?_)
      simp only [OutboxAction.call.injEq] at ha
      exact h.exported_returned hc hwr hst (ha.1 ▸ hd) hsource
  | raised _ ho => exact h.reported.step hinv hreg ho (by simp)
  | timed_out _ ho => exact h.reported.step hinv hreg ho (by simp)
  | crashed => exact h.reported.begin_ (by simp)
  | _ => exact h.reported

theorem Exporting.step (h : Exporting s) {a : ExportAction W} (hc : NoneLeft s a)
    (hs : ExportStep env s a t) : Exporting t where
  recording := h.recording.step hs
  writing := h.writing.step hc hs
  awaited := h.awaited_step hs
  reported := (h.reported_step hs).mono (fun _ _ hcov =>
    hcov.advance (hs.advances h.writing) (h.recording.step hs) (h.writing.step hc hs))

theorem ExportRun.exporting {as : List (ExportAction W)}
    (h : Run (Guarded NoneLeft (ExportStep env)) (ExportState.init G W) as s) : Exporting s :=
  h.invariant (fun _ _ _ hi hs => hi.step hs.1 hs.2) .init

theorem snapshot_never_goes_back {as : List (ExportAction W)}
    (hr : Run (Guarded NoneLeft (ExportStep env)) (ExportState.init G W) as s) :
    (∀ tmp t, ExportStep env s (.replaced tmp) t → ∃ wr ∈ s.writers, wr.tmp = tmp ∧
      t.files = Function.update s.files wr.source (some wr.toSnapshot) ∧
      ∀ f, s.files wr.source = some f → f.read_at ≤ wr.read_at) ∧
    (∀ source f, s.files source = some f → ReadFrom s.history source f) ∧
    ∀ e ∈ s.db.outbox_events, e.status = .PROCESSED → ∀ source, source_of e.payload = some source →
      Exported s source e.id ∧
      ((∀ e' ∈ s.db.outbox_events, source_of e'.payload = some source → e'.id ≤ e.id) →
        ∃ f, s.files source = some f ∧
          ∀ row : HazardEvent G, row ∈ f.rows ↔ row ∈ s.db.hazard_events ∧ row.source = source) := by
  have h := ExportRun.exporting hr
  refine ⟨fun tmp t hs => ?_, h.writing.installed, fun e he hst source hsource => ?_⟩
  · cases hs with
    | @replaced wr hwr hstage =>
        exact ⟨wr, hwr, rfl, rfl, h.writing.newer wr hwr (by simp [hstage])⟩
  · obtain ⟨entry, hg, hok⟩ := h.reported.processed e he hst
    have hc := h.reported.recorded e he entry hg hok source hsource
    exact ⟨hc, h.current hc⟩

-- the moves of one worker; commit and return take the dispatch and the thread from the state
inductive ExportMove where
  | sync (tx : Tx) (fetched : Fetched)
  | pick (event_id : Nat) (now : Timestamptz)
  | start
  | fetch
  | copy (tmp : Nat)
  | replace (tmp : Nat)
  | return_
  | time_out (error : String)
  | skip
  | call (error : Option String)
  | commit (now : Datetime) (later : Timestamptz) (jitter : Nat)
  | end_ (tmp : Nat)

namespace ExportState

variable (env : Env G) (s : ExportState G Unit)

def picked (event_id : Nat) (now : Timestamptz) : Option (OutboxState Unit) :=
  match s.txs (), s.db.outbox_events.find? (fun e => decide (e.id = event_id)) with
  | none, some e =>
      if e.status = .PENDING ∧ e.scheduled_at ≤ now ∧ ∀ e' ∈ s.db.outbox_events,
          e'.status = .PENDING → e'.scheduled_at ≤ now → e.scheduled_at ≤ e'.scheduled_at then
        some (s.outbox.begin_ () (some ⟨e, BATCH_INGESTED_HANDLERS, [], BATCH_INGESTED_HANDLERS⟩))
      else none
  | _, _ => none

def skipped : Option (OutboxState Unit) :=
  match s.txs () with
  | none => none
  | some d =>
      match d.remaining with
      | [] => none
      | handler :: rest =>
          if handler ∈ completed d.event then
            some (s.outbox.begin_ () (some { d with
              results := d.results ++ [skipped_result handler], remaining := rest }))
          else none

def called (handler : String) (error : Option String) : Option (OutboxState Unit) :=
  match s.txs () with
  | none => none
  | some d =>
      match d.remaining with
      | [] => none
      | next :: rest =>
          if next = handler ∧ handler ∉ completed d.event then
            some (s.outbox.begin_ () (some { d with
              results := d.results ++ [called_result handler error], remaining := rest }))
          else none

def committed (now : Datetime) (later : Timestamptz) (jitter : Nat) : Option (OutboxState Unit) :=
  match s.txs () with
  | none => none
  | some d =>
      if d.remaining = [] then
        some
          { events := Table.update (fun e => decide (e.id = d.event.id))
              (handle_event d.results now later jitter) s.outbox.events
            txs := Function.update s.outbox.txs () none }
      else none

variable {s} {o : OutboxState Unit}

theorem picked_step {event_id : Nat} {now : Timestamptz} (h : s.picked event_id now = some o) :
    ∃ id, OutboxStep s.outbox (.pick () id now BATCH_INGESTED_HANDLERS) o := by
  unfold picked at h
  split at h
  · next e htx hfind =>
      split at h
      · next hdue =>
          obtain rfl := Option.some.inj h
          have hmem := List.mem_of_find?_eq_some hfind
          refine ⟨e.id, .pick htx ⟨hmem, hdue.1, hdue.2.1, fun w d hw => ?_⟩ (fun e' he' => ?_)
            (by decide)⟩
          · exact absurd (htx.symm.trans hw) (by simp)
          · exact hdue.2.2 e' he'.1 he'.2.1 he'.2.2.1
      · simp at h
  · simp at h

theorem skipped_step (h : s.skipped = some o) :
    ∃ id handler, OutboxStep s.outbox (.skip () id handler) o := by
  unfold skipped at h
  split at h
  · simp at h
  · next d htx =>
      split at h
      · simp at h
      · next handler rest hr =>
          split at h
          · next hc =>
              obtain rfl := Option.some.inj h
              exact ⟨_, _, .skip htx hr hc⟩
          · simp at h

theorem called_step {handler : String} {error : Option String} (h : s.called handler error = some o) :
    ∃ d rest, s.txs () = some d ∧ d.remaining = handler :: rest ∧ handler ∉ completed d.event ∧
      OutboxStep s.outbox (.call () d.event.id handler error) o := by
  unfold called at h
  split at h
  · simp at h
  · next d htx =>
      split at h
      · simp at h
      · next next rest hr =>
          split at h
          · next hc =>
              obtain rfl := Option.some.inj h
              obtain ⟨rfl, hc⟩ := hc
              exact ⟨d, rest, htx, hr, hc, .call htx hr hc⟩
          · simp at h

theorem committed_step {now : Datetime} {later : Timestamptz} {jitter : Nat}
    (h : s.committed now later jitter = some o) :
    ∃ d, OutboxStep s.outbox (.commit () d now later jitter) o := by
  unfold committed at h
  split at h
  · simp at h
  · next d htx =>
      split at h
      · next hr =>
          obtain rfl := Option.some.inj h
          exact ⟨d, .commit htx hr⟩
      · simp at h

variable (s)

def find_writer (tmp : Nat) : Option (Writer G) := s.writers.find? (fun wr => decide (wr.tmp = tmp))

-- what the move does, if it can be made now
def advance : ExportMove → Option (ExportState G Unit)
  | .sync tx fetched =>
      match fetched.execute env tx s.db with
      | .ok (db, _) => some { s with db := db, history := s.history ++ [db] }
      | .error _ => none
  | .pick event_id now =>
      if s.calls () = none then (s.picked event_id now).map s.with_outbox else none
  | .start =>
      if s.calls () = none then
        (s.called "export_geoparquet" none).map (fun _ => s.suspend () (some .fetching))
      else none
  | .fetch =>
      match s.txs (), s.calls () with
      | some d, some .fetching =>
          (source_of d.event.payload).map (fun source =>
            { s.suspend () (some (.run_blocking s.next_tmp)) with
              writers := s.writers ++ [⟨⟨HazardEventRepo.fetch_export_rows source s.db.hazard_events,
                s.history.length⟩, s.next_tmp, source, .converting⟩]
              history := s.history ++ [s.db]
              next_tmp := s.next_tmp + 1 })
      | _, _ => none
  | .copy tmp =>
      match s.find_writer tmp with
      | some wr =>
          if wr.stage = .converting then some { s with writers := s.at_stage wr.tmp .copied } else none
      | none => none
  | .replace tmp =>
      match s.find_writer tmp with
      | some wr =>
          if wr.stage = .copied then
            some { s with
              writers := s.at_stage wr.tmp .replaced
              files := Function.update s.files wr.source (some wr.toSnapshot) }
          else none
      | none => none
  | .return_ =>
      match s.calls (), s.called "export_geoparquet" none with
      | some (.run_blocking tmp), some o =>
          match s.find_writer tmp with
          | some wr =>
              if wr.stage = .replaced then
                some { (s.with_outbox o).suspend () none with writers := s.without wr.tmp }
              else none
          | none => none
      | _, _ => none
  | .time_out error =>
      match s.calls (), s.called "export_geoparquet" (some error) with
      | some _, some o => some ((s.with_outbox o).suspend () none)
      | _, _ => none
  | .skip => if s.calls () = none then s.skipped.map s.with_outbox else none
  | .call error =>
      if s.calls () = none then (s.called "match_notifications" error).map s.with_outbox else none
  | .commit now later jitter =>
      if s.calls () = none then (s.committed now later jitter).map s.with_outbox else none
  | .end_ tmp => some { s with writers := s.without tmp }

-- a fetch now would find a replacement ahead
def left : ExportMove → Bool
  | .fetch => s.writers.any (fun wr => decide (wr.stage ≠ .replaced))
  | _ => false

variable {env} {s} {t : ExportState G Unit}

theorem find_writer_some {tmp : Nat} {wr : Writer G} (h : s.find_writer tmp = some wr) :
    wr ∈ s.writers ∧ wr.tmp = tmp := by
  refine ⟨List.mem_of_find?_eq_some h, ?_⟩
  simpa using List.find?_some h

theorem advance_fetch (h : s.advance env .fetch = some t) :
    ∃ a, ExportStep env s a t ∧ (s.left .fetch = false → NoneLeft s a) := by
  simp only [advance] at h
  split at h
  · next d hw hc =>
      obtain ⟨source, hsource, rfl⟩ := Option.map_eq_some_iff.mp h
      refine ⟨_, .fetched hw hc hsource, fun hleft _ _ _ _ wr hwr _ => ?_⟩
      simpa using List.any_eq_false.mp hleft wr hwr
  · simp at h

theorem advance_copy {tmp : Nat} (h : s.advance env (.copy tmp) = some t) :
    ∃ a, ExportStep env s a t ∧ NoneLeft s a := by
  simp only [advance] at h
  split at h
  · next wr hwr =>
      obtain ⟨hst, h⟩ := Option.ite_none_right_eq_some.mp h
      obtain rfl := Option.some.inj h
      exact ⟨_, .copied (find_writer_some hwr).1 hst, trivial⟩
  · simp at h

theorem advance_replace {tmp : Nat} (h : s.advance env (.replace tmp) = some t) :
    ∃ a, ExportStep env s a t ∧ NoneLeft s a := by
  simp only [advance] at h
  split at h
  · next wr hwr =>
      obtain ⟨hst, h⟩ := Option.ite_none_right_eq_some.mp h
      obtain rfl := Option.some.inj h
      exact ⟨_, .replaced (find_writer_some hwr).1 hst, trivial⟩
  · simp at h

theorem advance_return (h : s.advance env .return_ = some t) :
    ∃ a, ExportStep env s a t ∧ NoneLeft s a := by
  simp only [advance] at h
  split at h
  · next tmp o hc ho =>
      split at h
      · next wr hwr =>
          obtain ⟨hst, h⟩ := Option.ite_none_right_eq_some.mp h
          obtain rfl := Option.some.inj h
          obtain ⟨hmem, rfl⟩ := find_writer_some hwr
          obtain ⟨d, _, _, _, _, hstep⟩ := called_step ho
          exact ⟨_, .returned hc hmem hst hstep, trivial⟩
      · simp at h
  · simp at h

theorem advance_time_out {error : String} (h : s.advance env (.time_out error) = some t) :
    ∃ a, ExportStep env s a t ∧ NoneLeft s a := by
  simp only [advance] at h
  split at h
  · next c o hc ho =>
      obtain rfl := Option.some.inj h
      obtain ⟨d, _, _, _, _, hstep⟩ := called_step ho
      exact ⟨_, .timed_out hc hstep, trivial⟩
  · simp at h

theorem advance_step {m : ExportMove} (h : s.advance env m = some t) :
    ∃ a, ExportStep env s a t ∧ (s.left m = false → NoneLeft s a) := by
  cases m with
  | sync tx fetched =>
      simp only [advance] at h
      split at h
      · next db result hex =>
          obtain rfl := Option.some.inj h
          exact ⟨_, .synced (.committed hex), fun _ => trivial⟩
      · simp at h
  | pick event_id now =>
      simp only [advance, Option.ite_none_right_eq_some, Option.map_eq_some_iff] at h
      obtain ⟨hn, o, ho, rfl⟩ := h
      obtain ⟨id, hstep⟩ := picked_step ho
      exact ⟨.outbox (.pick () id now BATCH_INGESTED_HANDLERS), .outbox ⟨rfl, hn⟩ hstep,
        fun _ => trivial⟩
  | start =>
      simp only [advance, Option.ite_none_right_eq_some, Option.map_eq_some_iff] at h
      obtain ⟨hn, o, ho, rfl⟩ := h
      obtain ⟨d, rest, hw, hr, hc, _⟩ := called_step ho
      exact ⟨_, .started hw hr hc hn, fun _ => trivial⟩
  | fetch => exact advance_fetch h
  | copy tmp =>
      obtain ⟨a, hstep, hnone⟩ := advance_copy h
      exact ⟨a, hstep, fun _ => hnone⟩
  | replace tmp =>
      obtain ⟨a, hstep, hnone⟩ := advance_replace h
      exact ⟨a, hstep, fun _ => hnone⟩
  | return_ =>
      obtain ⟨a, hstep, hnone⟩ := advance_return h
      exact ⟨a, hstep, fun _ => hnone⟩
  | time_out error =>
      obtain ⟨a, hstep, hnone⟩ := advance_time_out h
      exact ⟨a, hstep, fun _ => hnone⟩
  | skip =>
      simp only [advance, Option.ite_none_right_eq_some, Option.map_eq_some_iff] at h
      obtain ⟨hn, o, ho, rfl⟩ := h
      obtain ⟨id, handler, hstep⟩ := skipped_step ho
      exact ⟨.outbox (.skip () id handler), .outbox hn hstep, fun _ => trivial⟩
  | call error =>
      simp only [advance, Option.ite_none_right_eq_some, Option.map_eq_some_iff] at h
      obtain ⟨hn, o, ho, rfl⟩ := h
      obtain ⟨d, _, _, _, _, hstep⟩ := called_step ho
      exact ⟨.outbox (.call () d.event.id "match_notifications" error),
        .outbox ⟨by decide, hn⟩ hstep, fun _ => trivial⟩
  | commit now later jitter =>
      simp only [advance, Option.ite_none_right_eq_some, Option.map_eq_some_iff] at h
      obtain ⟨hn, o, ho, rfl⟩ := h
      obtain ⟨d, hstep⟩ := committed_step ho
      exact ⟨.outbox (.commit () d now later jitter), .outbox hn hstep, fun _ => trivial⟩
  | end_ tmp =>
      obtain rfl := Option.some.inj h
      exact ⟨_, .ended, fun _ => trivial⟩

-- with guarded set, no fetch is made while a replacement is ahead
def play (env : Env G) (guarded : Bool) :
    List ExportMove → ExportState G Unit → Option (ExportState G Unit)
  | [], s => some s
  | m :: ms, s =>
      if guarded && s.left m then none else (s.advance env m).bind (play env guarded ms)

theorem play_run {guarded : Bool} {ms : List ExportMove} (h : play env guarded ms s = some t) :
    ∃ as, Run (Guarded (fun s a => guarded = true → NoneLeft s a) (ExportStep env)) s as t := by
  induction ms generalizing s with
  | nil =>
      obtain rfl := Option.some.inj h
      exact ⟨[], .nil _⟩
  | cons m ms ih =>
      obtain ⟨hleft, h⟩ := Option.ite_none_left_eq_some.mp h
      obtain ⟨u, hu, hrest⟩ := Option.bind_eq_some_iff.mp h
      obtain ⟨a, hstep, hnone⟩ := advance_step hu
      obtain ⟨as, hrun⟩ := ih hrest
      refine ⟨a :: as, .cons ⟨fun hg => hnone ?_, hstep⟩ hrun⟩
      simpa [hg] using hleft

end ExportState

def polled (day hour : Nat) (xid : Nat) (bulletin : List AemetWarning) : ExportMove :=
  .sync (ran_at xid (july day hour)) (.aemet bulletin)

def dispatch_export (event_id tmp : Nat) : List ExportMove :=
  [.pick event_id (july 2 14).instant, .start, .fetch, .copy tmp, .replace tmp, .return_]

def commit_at (hour : Nat) : ExportMove := .commit (july 2 hour) (july 2 hour).instant 0

def exported : List ExportMove :=
  [polled 2 11 1 alert_bulletin] ++ dispatch_export 0 0 ++ [.call none, commit_at 14]

-- the thread of a dispatch that timed out replaces the file after those of its retry and of the
-- next batch
def late_replacement : List ExportMove :=
  [polled 2 11 1 alert_bulletin, .pick 0 (july 2 12).instant, .start, .fetch, .time_out "TimeoutError",
    .call none, commit_at 12, polled 2 13 2 update_bulletin] ++ dispatch_export 0 1 ++
    [.skip, commit_at 14] ++ dispatch_export 1 2 ++ [.call none, commit_at 14, .copy 0]

def played (guarded : Bool) (ms : List ExportMove) : ExportState (List (PyFloat × PyFloat)) Unit :=
  (ExportState.play (planar_env id) guarded ms (.init _ Unit)).getD (.init _ Unit)

theorem played_run {guarded : Bool} {ms : List ExportMove}
    (h : (ExportState.play (planar_env id) guarded ms (.init _ Unit)).isSome = true) :
    ∃ as, Run (Guarded (fun s a => guarded = true → NoneLeft s a) (ExportStep (planar_env id)))
      (.init _ Unit) as (played guarded ms) := by
  obtain ⟨t, ht⟩ := Option.isSome_iff_exists.mp h
  rw [played, ht]
  exact ExportState.play_run ht

def event_row (e : OutboxEvent) : Nat × OutboxStatus × Option Source :=
  (e.id, e.status, source_of e.payload)

theorem snapshot_never_goes_back_exported :
    ∃ f, (played true exported).files .aemet = some f ∧ ∀ row : HazardEvent (List (PyFloat × PyFloat)),
      row ∈ f.rows ↔ row ∈ (played true exported).db.hazard_events ∧ row.source = .aemet := by
  obtain ⟨as, hrun⟩ := @played_run true exported (by decide +kernel)
  have h := snapshot_never_goes_back (hrun.mono (fun _ _ _ hs => ⟨hs.1 rfl, hs.2⟩))
  have hevents : (played true exported).db.outbox_events.map event_row =
      [(0, .PROCESSED, some .aemet)] := by decide +kernel
  obtain ⟨e, he, hrow⟩ := List.mem_map.mp (hevents ▸ List.mem_singleton.mpr rfl)
  simp only [event_row, Prod.mk.injEq] at hrow
  refine (h.2.2 e he hrow.2.1 .aemet hrow.2.2).2 (fun e' he' _ => ?_)
  have he'' := hevents ▸ List.mem_map_of_mem (f := event_row) he'
  simp only [event_row, List.mem_singleton, Prod.mk.injEq] at he''
  exact (he''.1.trans hrow.1.symm).le

-- the last event is processed, no thread is left, and the row of the last batch is not in the file
theorem late_replacement_goes_back :
    (¬ ∀ (as : List (ExportAction Unit)) (s t : ExportState (List (PyFloat × PyFloat)) Unit) (tmp : Nat),
      ExportRun (planar_env id) (.init _ Unit) as s → ExportStep (planar_env id) s (.replaced tmp) t →
      ∀ source f f', s.files source = some f → t.files source = some f' → f.read_at ≤ f'.read_at) ∧
    ¬ ∀ (as : List (ExportAction Unit)) (s : ExportState (List (PyFloat × PyFloat)) Unit),
      ExportRun (planar_env id) (.init _ Unit) as s → s.writers = [] →
      ∀ source, ∀ e ∈ s.db.outbox_events, e.status = .PROCESSED → source_of e.payload = some source →
      (∀ e' ∈ s.db.outbox_events, source_of e'.payload = some source → e'.id ≤ e.id) →
      ∃ f, s.files source = some f ∧
        ∀ row ∈ s.db.hazard_events, row.source = source → row ∈ f.rows := by
  refine ⟨fun hall => ?_, fun hall => ?_⟩
  · obtain ⟨as, hrun⟩ := @played_run false late_replacement (by decide +kernel)
    have hwriter : ((played false late_replacement).find_writer 0).map
        (fun wr => (wr.stage, wr.source, wr.read_at)) = some (.copied, .aemet, 1) := by decide +kernel
    have hfile : ((played false late_replacement).files .aemet).map Snapshot.read_at = some 4 := by
      decide +kernel
    obtain ⟨wr, hwr, hval⟩ := Option.map_eq_some_iff.mp hwriter
    obtain ⟨f, hf, hread⟩ := Option.map_eq_some_iff.mp hfile
    simp only [Prod.mk.injEq] at hval
    have hle := hall as _ _ _ (hrun.mono (fun _ _ _ hs => hs.2))
      (.replaced (ExportState.find_writer_some hwr).1 hval.1) .aemet f wr.toSnapshot hf
      (by simp [hval.2.1])
    omega
  · obtain ⟨as, hrun⟩ := @played_run false (late_replacement ++ [.replace 0, .end_ 0])
      (by decide +kernel)
    generalize hs : played false (late_replacement ++ [.replace 0, .end_ 0]) = s at hrun
    have hwriters : s.writers.isEmpty = true := by
      rw [← hs]
      decide +kernel
    have hevents : s.db.outbox_events.map event_row =
        [(0, .PROCESSED, some .aemet), (1, .PROCESSED, some .aemet)] := by
      rw [← hs]
      decide +kernel
    have hfile : (s.files .aemet).map (fun f => f.rows.map (fun e => e.external_id)) = some ["A"] := by
      rw [← hs]
      decide +kernel
    have hrows : s.db.hazard_events.map (fun e => (e.source, e.external_id)) =
        [(.aemet, "A"), (.aemet, "B")] := by
      rw [← hs]
      decide +kernel
    obtain ⟨e, he, hrow⟩ :=
      List.mem_map.mp (hevents ▸ List.mem_cons_of_mem _ (List.mem_singleton.mpr rfl))
    simp only [event_row, Prod.mk.injEq] at hrow
    obtain ⟨f, hf, hin⟩ := hall as s (hrun.mono (fun _ _ _ hs => hs.2)) (List.isEmpty_iff.mp hwriters)
      .aemet e he hrow.2.1 hrow.2.2 (fun e' he' _ => by
        have he'' := hevents ▸ List.mem_map_of_mem (f := event_row) he'
        simp only [event_row, List.mem_cons, List.not_mem_nil, or_false, Prod.mk.injEq] at he''
        omega)
    obtain ⟨row, hmem, hkey⟩ :=
      List.mem_map.mp (hrows ▸ List.mem_cons_of_mem _ (List.mem_singleton.mpr rfl))
    simp only [Prod.mk.injEq] at hkey
    have hthere := List.mem_map_of_mem (f := fun e => e.external_id) (hin row hmem hkey.1)
    simp only [hf, Option.map_some, Option.some.injEq] at hfile
    simp [hfile, hkey.2] at hthere

end GeoHazard

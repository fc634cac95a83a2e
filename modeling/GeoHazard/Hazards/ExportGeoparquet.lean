import GeoHazard.Core.OutboxRuns
import GeoHazard.Hazards.SyncRuns

namespace GeoHazard

open OutboxWorker

-- the handlers of hazards.batch_ingested in the order in which db_registry imports them
def BATCH_INGESTED_HANDLERS : List String := ["export_geoparquet", "match_notifications"]

def source_of : PyJson → Option Source
  | .obj kvs =>
      match Dict.get "source" kvs with
      | some (.str s) => [Source.effis, .ign, .aemet].find? (fun source => decide (source.name = s))
      | _ => none
  | _ => none

-- rows, and the place in the history of the read that returned them
structure Snapshot (G : Type) where
  rows : HazardEventRepo.Rows G
  read_at : Nat

inductive WriterStage where
  | converting | copied | replaced
  deriving DecidableEq

-- a call of _write_snapshot in its thread; tmp is the name that its uuid4 makes unique
structure Writer (G : Type) extends Snapshot G where
  tmp : Nat
  source : Source
  stage : WriterStage

-- where the coroutine of export_geoparquet is suspended
inductive Suspended where
  | fetching
  | run_blocking (tmp : Nat)
  deriving DecidableEq

structure ExportState (G W : Type) where
  db : Db G
  -- the database as each commit left it and as each fetch_export_rows read it
  history : List (Db G)
  txs : W → Option Dispatch
  calls : W → Option Suspended
  writers : List (Writer G)
  next_tmp : Nat
  files : Source → Option (Snapshot G)

inductive ExportAction (W : Type) where
  | synced (a : SyncAction)
  | outbox (a : OutboxAction W)
  | started (w : W)
  | fetched (w : W)
  | copied (tmp : Nat)
  | replaced (tmp : Nat)
  | returned (w : W)
  | raised (w : W) (error : String)
  | timed_out (w : W) (error : String)
  | crashed (w : W)
  | ended (tmp : Nat)

variable {G W : Type}

def ExportState.init (G W : Type) : ExportState G W :=
  ⟨Db.empty G, [], fun _ => none, fun _ => none, [], 0, fun _ => none⟩

def ExportState.outbox (s : ExportState G W) : OutboxState W := ⟨s.db.outbox_events, s.txs⟩

def ExportState.with_outbox (s : ExportState G W) (o : OutboxState W) : ExportState G W :=
  { s with db := { s.db with outbox_events := o.events }, txs := o.txs }

def ExportState.at_stage (s : ExportState G W) (tmp : Nat) (stage : WriterStage) :
    List (Writer G) :=
  Table.update (fun wr => decide (wr.tmp = tmp)) (fun wr => { wr with stage := stage }) s.writers

def ExportState.without (s : ExportState G W) (tmp : Nat) : List (Writer G) :=
  s.writers.filter (fun wr => decide (wr.tmp ≠ tmp))

-- what a worker does between two handlers of its own; publishing is part of a sync
def Between (calls : W → Option Suspended) : OutboxAction W → Prop
  | .pick w _ _ registered => registered = BATCH_INGESTED_HANDLERS ∧ calls w = none
  | .skip w _ _ => calls w = none
  | .call w _ handler _ => handler ≠ "export_geoparquet" ∧ calls w = none
  | .commit w _ _ _ _ => calls w = none
  | .publish _ => False
  | .crash _ => False

variable [DecidableEq W] {env : Env G}

def ExportState.suspend (s : ExportState G W) (w : W) (c : Option Suspended) : ExportState G W :=
  { s with calls := Function.update s.calls w c }

inductive ExportStep (env : Env G) : ExportState G W → ExportAction W → ExportState G W → Prop
  | synced {s : ExportState G W} {a : SyncAction} {db : Db G} (h : SyncStep env s.db a db) :
      ExportStep env s (.synced a) { s with db := db, history := s.history ++ [db] }
  | outbox {s : ExportState G W} {a : OutboxAction W} {o : OutboxState W}
      (hb : Between s.calls a) (h : OutboxStep s.outbox a o) :
      ExportStep env s (.outbox a) (s.with_outbox o)
  | started {s : ExportState G W} {w : W} {d : Dispatch} {rest : List String}
      (hw : s.txs w = some d) (hr : d.remaining = "export_geoparquet" :: rest)
      (hc : "export_geoparquet" ∉ completed d.event) (hn : s.calls w = none) :
      ExportStep env s (.started w) (s.suspend w (some .fetching))
  | fetched {s : ExportState G W} {w : W} {d : Dispatch} {source : Source}
      (hw : s.txs w = some d) (hc : s.calls w = some .fetching)
      (hs : source_of d.event.payload = some source) :
      ExportStep env s (.fetched w)
        { s.suspend w (some (.run_blocking s.next_tmp)) with
          writers := s.writers ++ [⟨⟨HazardEventRepo.fetch_export_rows source s.db.hazard_events,
            s.history.length⟩, s.next_tmp, source, .converting⟩]
          history := s.history ++ [s.db]
          next_tmp := s.next_tmp + 1 }
  | copied {s : ExportState G W} {wr : Writer G} (h : wr ∈ s.writers)
      (hst : wr.stage = .converting) :
      ExportStep env s (.copied wr.tmp) { s with writers := s.at_stage wr.tmp .copied }
  | replaced {s : ExportState G W} {wr : Writer G} (h : wr ∈ s.writers) (hst : wr.stage = .copied) :
      ExportStep env s (.replaced wr.tmp)
        { s with
          writers := s.at_stage wr.tmp .replaced
          files := Function.update s.files wr.source (some wr.toSnapshot) }
  | returned {s : ExportState G W} {w : W} {event_id : Nat} {wr : Writer G} {o : OutboxState W}
      (hc : s.calls w = some (.run_blocking wr.tmp)) (h : wr ∈ s.writers)
      (hst : wr.stage = .replaced)
      (ho : OutboxStep s.outbox (.call w event_id "export_geoparquet" none) o) :
      ExportStep env s (.returned w)
        { (s.with_outbox o).suspend w none with writers := s.without wr.tmp }
  -- an exception of the query or of the thread
  | raised {s : ExportState G W} {w : W} {event_id : Nat} {c : Suspended} {error : String}
      {o : OutboxState W} (hc : s.calls w = some c)
      (ho : OutboxStep s.outbox (.call w event_id "export_geoparquet" (some error)) o) :
      ExportStep env s (.raised w error)
        { (s.with_outbox o).suspend w none with
          writers := match c with
            | .fetching => s.writers
            | .run_blocking tmp => s.without tmp }
  -- wait_for cancels the coroutine; a thread that has begun goes on
  | timed_out {s : ExportState G W} {w : W} {event_id : Nat} {c : Suspended} {error : String}
      {o : OutboxState W} (hc : s.calls w = some c)
      (ho : OutboxStep s.outbox (.call w event_id "export_geoparquet" (some error)) o) :
      ExportStep env s (.timed_out w error) ((s.with_outbox o).suspend w none)
  | crashed {s : ExportState G W} {w : W} :
      ExportStep env s (.crashed w) ((s.with_outbox (s.outbox.begin_ w none)).suspend w none)
  -- the end of a thread nobody waits for, by itself or with its process
  | ended {s : ExportState G W} {tmp : Nat} :
      ExportStep env s (.ended tmp) { s with writers := s.without tmp }

abbrev ExportRun (env : Env G) :
    ExportState G W → List (ExportAction W) → ExportState G W → Prop :=
  Transition.Run (ExportStep env)

-- no export begins to read while a thread of an earlier one has its replacement ahead
def NoneLeft (s : ExportState G W) : ExportAction W → Prop
  | .fetched w => ∀ d source, s.txs w = some d → source_of d.event.payload = some source →
      ∀ wr ∈ s.writers, wr.source = source → wr.stage = .replaced
  | _ => True

end GeoHazard

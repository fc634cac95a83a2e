import GeoHazard.Library.Transition
import GeoHazard.Hazards.RowChange
import GeoHazard.Hazards.SyncAemet
import GeoHazard.Hazards.SyncEffis
import GeoHazard.Hazards.SyncIgn

namespace GeoHazard

variable {G : Type} {env : Env G} {tx : Tx} {db db' : Db G} {result : SyncResult}

inductive Fetched where
  | effis (hotspots burnt_areas : List EffisRecord)
  | ign (records : List IgnRecord)
  | aemet (warnings : List AemetWarning)

def Fetched.source : Fetched → Source
  | .effis _ _ => .effis
  | .ign _ => .ign
  | .aemet _ => .aemet

def Fetched.execute (env : Env G) (tx : Tx) :
    Fetched → Db G → Except PyError (Db G × SyncResult)
  | .effis hotspots burnt_areas => SyncEffisUseCase.execute env tx hotspots burnt_areas
  | .ign records => SyncIgnUseCase.execute env tx records
  | .aemet warnings => SyncAemetUseCase.execute env tx warnings

def Fetched.rows (env : Env G) : Fetched → Except PyError (List (Row G))
  | .effis hotspots burnt_areas => collect (SyncEffisUseCase.to_row env) (hotspots ++ burnt_areas)
  | .ign records => .ok (records.map (SyncIgnUseCase.to_row env))
  | .aemet warnings =>
      collect (SyncAemetUseCase.to_row env) (warnings.filter SyncAemetUseCase.is_ingestible)

inductive SyncAction where
  | committed (tx : Tx) (fetched : Fetched)
  | rolled_back (fetched : Fetched)
  | failed (source : Source) (error : String) (now : Timestamptz)

-- a failed run writes its sync state in a transaction of its own
inductive SyncStep (env : Env G) : Db G → SyncAction → Db G → Prop
  | committed {tx : Tx} {fetched : Fetched} {db db' : Db G} {result : SyncResult}
      (h : fetched.execute env tx db = .ok (db', result)) :
      SyncStep env db (.committed tx fetched) db'
  | rolled_back (db : Db G) (fetched : Fetched) : SyncStep env db (.rolled_back fetched) db
  | failed (db : Db G) (source : Source) (error : String) (now : Timestamptz) :
      SyncStep env db (.failed source error now)
        { db with source_sync_state :=
            SourceSyncStateRepo.record_failure source error now db.source_sync_state }

def marks (source : Source) (as : List SyncAction) : List Timestamptz :=
  as.filterMap (fun a => match a with
    | .committed tx fetched => if fetched.source = source then some tx.mark else none
    | _ => none)

def xids (as : List SyncAction) : List Nat :=
  as.filterMap (fun a => match a with
    | .committed tx _ => some tx.xid
    | _ => none)

abbrev SyncRun (env : Env G) : Db G → List SyncAction → Db G → Prop :=
  Transition.Run (SyncStep env)

namespace HazardEventRepo

def upserted (env : Env G) (tx : Tx) (rows : List (Row G)) (t : Rows G) : Rows G :=
  (upsert_rows env tx (deduplicated rows) t).1

def inserted (env : Env G) (tx : Tx) (rows : List (Row G)) (t : Rows G) : Nat :=
  (upsert_rows env tx (deduplicated rows) t).2.count true

def updated (env : Env G) (tx : Tx) (rows : List (Row G)) (t : Rows G) : Nat :=
  (upsert_rows env tx (deduplicated rows) t).2.length - inserted env tx rows t

theorem upsert_batch_ok {rows : List (Row G)} {t : Rows G} {r : Rows G × Nat × Nat} :
    upsert_batch env tx rows t = .ok r ↔ Storable rows ∧
      (upserted env tx rows t, inserted env tx rows t, updated env tx rows t) = r :=
  upsert_batch_iff

theorem mem_upserted {rows : List (Row G)} {t : Rows G} {e : HazardEvent G}
    (h : e ∈ upserted env tx rows t) : e ∈ t ∨ ∃ row ∈ rows, e.toRow = row.stored := by
  rcases mem_upsert_rows h with h | ⟨r, hr, he⟩
  · exact .inl h
  · exact .inr ⟨r, mem_of_mem_deduplicated hr, he⟩

theorem upserted_wrote {source : Source} {rows : List (Row G)}
    (hs : ∀ row ∈ rows, row.source = source) (t : Rows G) :
    Wrote tx source t (upserted env tx rows t)
      (inserted env tx rows t + updated env tx rows t) := by
  have hw := @upsert_rows_wrote _ env tx source (deduplicated rows)
    (fun r hr => hs r (mem_of_mem_deduplicated hr)) t
  have hle := List.count_le_length (a := true)
    (l := (upsert_rows env tx (deduplicated rows) t).2)
  have hsum : inserted env tx rows t + updated env tx rows t =
      (upsert_rows env tx (deduplicated rows) t).2.length := by
    simp only [updated, inserted]
    omega
  rw [hsum]
  exact hw

end HazardEventRepo

open HazardEventRepo

def outbox_after (source : Source) (counts : List (String × Nat)) (tx : Tx) (result : SyncResult)
    (outbox : List OutboxEvent) : List OutboxEvent :=
  if result.changed then
    EventBus.publish BATCH_INGESTED (batch_payload source tx.now counts) tx.mark outbox
  else outbox

namespace SyncAemetUseCase

def closed_groups (tx : Tx) : List (Timestamptz × List String) → Rows G → Rows G × Nat
  | [], t => (t, 0)
  | (sent, identifiers) :: groups, t =>
      let (t, n) := closed_rows tx .aemet identifiers sent t
      let (t, m) := closed_groups tx groups t
      (t, n + m)

def closed_superseded (tx : Tx) (warnings : List AemetWarning) (t : Rows G) : Rows G × Nat :=
  closed_groups tx (by_sent warnings) t

def closed_vanished (tx : Tx) (states : List SourceSyncState) (ingestible : List AemetWarning)
    (batch_at : Datetime) (t : Rows G) : Rows G × Nat :=
  closed_rows tx .aemet (vanished states ingestible) batch_at.instant t

-- no UPDATE of the two closing passes names too many identifiers
structure Closes (states : List SourceSyncState) (warnings : List AemetWarning) : Prop where
  superseded : ∀ g ∈ by_sent warnings, Closable g.2
  vanished : Closable (vanished states (warnings.filter is_ingestible))

theorem close_groups_iff {groups : List (Timestamptz × List String)} {t : Rows G}
    {r : Rows G × Nat} : close_groups tx groups t = .ok r ↔
      (∀ g ∈ groups, Closable g.2) ∧ closed_groups tx groups t = r := by
  induction groups generalizing t r with
  | nil => simp [close_groups, closed_groups]
  | cons g groups ih =>
      simp only [close_groups, bind_ok, close_events_iff, ih, List.forall_mem_cons, closed_groups]
      constructor
      · rintro ⟨_, ⟨hg, rfl⟩, _, ⟨hrest, rfl⟩, hr⟩
        exact ⟨⟨hg, hrest⟩, Except.ok.inj hr⟩
      · rintro ⟨⟨hg, hrest⟩, rfl⟩
        exact ⟨_, ⟨hg, rfl⟩, _, ⟨hrest, rfl⟩, rfl⟩

-- what a run leaves once the database has taken its statements
def executed (env : Env G) (tx : Tx) (warnings : List AemetWarning) (rows : List (Row G))
    (db : Db G) : Db G × SyncResult :=
  let (t, superseded) := closed_superseded tx warnings (upserted env tx rows db.hazard_events)
  let (t, vanished) := closed_vanished tx db.source_sync_state (warnings.filter is_ingestible)
    tx.now t
  let result : SyncResult := ⟨inserted env tx rows db.hazard_events,
    updated env tx rows db.hazard_events, superseded + vanished⟩
  (⟨t, SourceSyncStateRepo.record_success .aemet
    (some (cursor_of "identifiers" ((warnings.filter is_ingestible).map AemetWarning.external_id)))
    tx.clock db.source_sync_state,
    outbox_after .aemet [("inserted", result.inserted), ("updated", result.updated),
      ("closed", result.closed)] tx result db.outbox_events⟩, result)

theorem execute_iff {warnings : List AemetWarning} {r : Db G × SyncResult} :
    execute env tx warnings db = .ok r ↔ ∃ rows,
      collect (to_row env) (warnings.filter is_ingestible) = .ok rows ∧ Storable rows ∧
      Closes db.source_sync_state warnings ∧ executed env tx warnings rows db = r := by
  simp only [execute, transaction_now, bind_ok, upsert_batch_ok, close_superseded, close_groups_iff,
    close_vanished, close_events_iff]
  constructor
  · rintro ⟨rows, hrows, _, ⟨hstorable, rfl⟩, _, ⟨hsuperseded, rfl⟩, _, ⟨hvanished, rfl⟩, hr⟩
    exact ⟨rows, hrows, hstorable, ⟨hsuperseded, hvanished⟩, Except.ok.inj hr⟩
  · rintro ⟨rows, hrows, hstorable, ⟨hsuperseded, hvanished⟩, rfl⟩
    exact ⟨rows, hrows, _, ⟨hstorable, rfl⟩, _, ⟨hsuperseded, rfl⟩, _, ⟨hvanished, rfl⟩, rfl⟩

theorem execute_ok {warnings : List AemetWarning} (h : execute env tx warnings db = .ok (db', result)) :
    ∃ rows, collect (to_row env) (warnings.filter is_ingestible) = .ok rows ∧
      db'.hazard_events = (closed_vanished tx db.source_sync_state (warnings.filter is_ingestible)
        tx.now (closed_superseded tx warnings (upserted env tx rows db.hazard_events)).1).1 ∧
      db'.source_sync_state = SourceSyncStateRepo.record_success .aemet
        (some (cursor_of "identifiers"
          ((warnings.filter is_ingestible).map AemetWarning.external_id))) tx.clock
        db.source_sync_state ∧
      result.inserted = inserted env tx rows db.hazard_events ∧
      result.updated = updated env tx rows db.hazard_events ∧
      result.closed = (closed_superseded tx warnings (upserted env tx rows db.hazard_events)).2 +
        (closed_vanished tx db.source_sync_state (warnings.filter is_ingestible) tx.now
          (closed_superseded tx warnings (upserted env tx rows db.hazard_events)).1).2 ∧
      db'.outbox_events = outbox_after .aemet [("inserted", result.inserted),
        ("updated", result.updated), ("closed", result.closed)] tx result db.outbox_events := by
  obtain ⟨rows, hrows, _, _, hr⟩ := execute_iff.mp h
  obtain ⟨rfl, rfl⟩ := Prod.mk.inj hr
  exact ⟨rows, hrows, rfl, rfl, rfl, rfl, rfl, rfl⟩

theorem to_row_ok {warning : AemetWarning} {row : Row G} (h : to_row env warning = .ok row) :
    ∃ level polygon onset expires geom severity, warning.level = some level ∧
      warning.onset = some onset ∧ warning.expires = some expires ∧
      cap_polygon_to_wkb env polygon = .ok geom ∧ aemet_severity level = .ok severity ∧
      row = {
        source := .aemet
        hazard_type := .weather_warning
        external_id := warning.external_id
        geom := geom
        severity := severity
        starts_at := onset.instant
        ends_at := some expires.instant
        attrs := .obj (row_attrs warning)
        content_hash :=
          content_hash env (hash_payload polygon (row_attrs warning) onset expires) } := by
  unfold to_row at h
  split at h
  · next level polygon onset expires hl _ ho he =>
      split at h
      · simp at h
      · simp only [bind, Except.bind] at h
        split at h
        · simp at h
        · next geom hg =>
            split at h
            · simp at h
            · next severity hs =>
                simp only [Except.ok.injEq] at h
                exact ⟨level, polygon, onset, expires, geom, severity, hl, ho, he, hg, hs, h.symm⟩
  · simp at h

theorem to_row_source {warning : AemetWarning} {row : Row G} (h : to_row env warning = .ok row) :
    row.key = (.aemet, warning.external_id) := by
  obtain ⟨_, _, _, _, _, _, _, _, _, _, _, rfl⟩ := to_row_ok h
  rfl

theorem closed_groups_wrote (groups : List (Timestamptz × List String)) (t : Rows G) :
    Wrote tx .aemet t (closed_groups tx groups t).1 (closed_groups tx groups t).2 := by
  induction groups generalizing t with
  | nil => exact .refl t
  | cons g groups ih => exact (closed_rows_wrote t).trans (ih _)

end SyncAemetUseCase

namespace SyncEffisUseCase

def closed_vanished (tx : Tx) (states : List SourceSyncState) (burnt_areas : List EffisRecord)
    (batch_at : Datetime) (t : Rows G) : Rows G × Nat :=
  closed_rows tx .effis (vanished states burnt_areas) batch_at.instant t

def executed (env : Env G) (tx : Tx) (burnt_areas : List EffisRecord) (rows : List (Row G))
    (db : Db G) : Db G × SyncResult :=
  let (t, closed) := closed_vanished tx db.source_sync_state burnt_areas tx.now
    (upserted env tx rows db.hazard_events)
  let result : SyncResult := ⟨inserted env tx rows db.hazard_events,
    updated env tx rows db.hazard_events, closed⟩
  (⟨t, SourceSyncStateRepo.record_success .effis
    (some (cursor_of "burnt_area_ids" (burnt_areas.map EffisRecord.external_id))) tx.clock
    db.source_sync_state,
    outbox_after .effis [("inserted", result.inserted), ("updated", result.updated),
      ("closed", result.closed)] tx result db.outbox_events⟩, result)

theorem execute_iff {hotspots burnt_areas : List EffisRecord} {r : Db G × SyncResult} :
    execute env tx hotspots burnt_areas db = .ok r ↔ ∃ rows,
      collect (to_row env) (hotspots ++ burnt_areas) = .ok rows ∧ Storable rows ∧
      Closable (vanished db.source_sync_state burnt_areas) ∧
      executed env tx burnt_areas rows db = r := by
  simp only [execute, transaction_now, bind_ok, upsert_batch_ok, close_vanished, close_events_iff]
  constructor
  · rintro ⟨rows, hrows, _, ⟨hstorable, rfl⟩, _, ⟨hvanished, rfl⟩, hr⟩
    exact ⟨rows, hrows, hstorable, hvanished, Except.ok.inj hr⟩
  · rintro ⟨rows, hrows, hstorable, hvanished, rfl⟩
    exact ⟨rows, hrows, _, ⟨hstorable, rfl⟩, _, ⟨hvanished, rfl⟩, rfl⟩

theorem execute_ok {hotspots burnt_areas : List EffisRecord}
    (h : execute env tx hotspots burnt_areas db = .ok (db', result)) :
    ∃ rows, collect (to_row env) (hotspots ++ burnt_areas) = .ok rows ∧
      db'.hazard_events = (closed_vanished tx db.source_sync_state burnt_areas tx.now
        (upserted env tx rows db.hazard_events)).1 ∧
      db'.source_sync_state = SourceSyncStateRepo.record_success .effis
        (some (cursor_of "burnt_area_ids" (burnt_areas.map EffisRecord.external_id))) tx.clock
        db.source_sync_state ∧
      result.inserted = inserted env tx rows db.hazard_events ∧
      result.updated = updated env tx rows db.hazard_events ∧
      result.closed = (closed_vanished tx db.source_sync_state burnt_areas tx.now
        (upserted env tx rows db.hazard_events)).2 ∧
      db'.outbox_events = outbox_after .effis [("inserted", result.inserted),
        ("updated", result.updated), ("closed", result.closed)] tx result db.outbox_events := by
  obtain ⟨rows, hrows, _, _, hr⟩ := execute_iff.mp h
  obtain ⟨rfl, rfl⟩ := Prod.mk.inj hr
  exact ⟨rows, hrows, rfl, rfl, rfl, rfl, rfl, rfl⟩

theorem to_row_ok {record : EffisRecord} {row : Row G} (h : to_row env record = .ok row) :
    ∃ geom, geojson_to_wkb env record.geometry = .ok geom ∧
      row = {
        source := .effis
        hazard_type := .wildfire
        external_id := record.external_id
        geom := geom
        severity := effis_severity record.kind record.area_ha
        starts_at := record.observed_at.instant
        ends_at := if record.kind = .hotspot then some record.observed_at.instant else none
        attrs := .obj (row_attrs record)
        content_hash :=
          content_hash env (hash_payload record.geometry (row_attrs record) record.observed_at) } := by
  simp only [to_row, bind, Except.bind] at h
  split at h
  · simp at h
  · next geom hg =>
      simp only [Except.ok.injEq] at h
      exact ⟨geom, hg, h.symm⟩

theorem to_row_source {record : EffisRecord} {row : Row G} (h : to_row env record = .ok row) :
    row.key = (.effis, record.external_id) := by
  obtain ⟨_, _, rfl⟩ := to_row_ok h
  rfl

end SyncEffisUseCase

namespace SyncIgnUseCase

theorem execute_iff {records : List IgnRecord} {r : Db G × SyncResult} :
    execute env tx records db = .ok r ↔ Storable (records.map (to_row env)) ∧
      (let result : SyncResult := ⟨inserted env tx (records.map (to_row env)) db.hazard_events,
        updated env tx (records.map (to_row env)) db.hazard_events, 0⟩
      (⟨upserted env tx (records.map (to_row env)) db.hazard_events,
        SourceSyncStateRepo.record_success .ign (cursor records) tx.clock db.source_sync_state,
        outbox_after .ign [("inserted", result.inserted), ("updated", result.updated)] tx result
          db.outbox_events⟩, result)) = r := by
  simp only [execute, transaction_now, bind_ok, upsert_batch_ok]
  constructor
  · rintro ⟨_, ⟨hstorable, rfl⟩, hr⟩
    exact ⟨hstorable, Except.ok.inj hr⟩
  · rintro ⟨hstorable, rfl⟩
    exact ⟨_, ⟨hstorable, rfl⟩, rfl⟩

theorem execute_ok {records : List IgnRecord} (h : execute env tx records db = .ok (db', result)) :
    db'.hazard_events = upserted env tx (records.map (to_row env)) db.hazard_events ∧
      db'.source_sync_state =
        SourceSyncStateRepo.record_success .ign (cursor records) tx.clock db.source_sync_state ∧
      result = ⟨inserted env tx (records.map (to_row env)) db.hazard_events,
        updated env tx (records.map (to_row env)) db.hazard_events, 0⟩ ∧
      db'.outbox_events = outbox_after .ign [("inserted", result.inserted),
        ("updated", result.updated)] tx result db.outbox_events := by
  obtain ⟨_, hr⟩ := execute_iff.mp h
  obtain ⟨rfl, rfl⟩ := Prod.mk.inj hr
  exact ⟨rfl, rfl, rfl, rfl⟩

end SyncIgnUseCase

theorem collect_source {α : Type} {f : α → Except PyError (Row G)} {source : Source} {xs : List α}
    {rows : List (Row G)} (h : collect f xs = .ok rows)
    (hf : ∀ x row, f x = .ok row → row.source = source) : ∀ row ∈ rows, row.source = source := by
  intro row hr
  obtain ⟨x, _, hx⟩ := collect_mem h hr
  exact hf x row hx

-- what every committed run of the three sources does to the tables it touches
structure Ingested (tx : Tx) (source : Source) (db db' : Db G) (result : SyncResult) : Prop where
  wrote : Wrote tx source db.hazard_events db'.hazard_events
    (result.inserted + result.updated + result.closed)
  published : ∃ counts, "batch_at" ∉ Dict.keys counts ∧
    db'.outbox_events = outbox_after source counts tx result db.outbox_events
  state : ∀ other, other ≠ source → SourceSyncStateRepo.get other db'.source_sync_state =
    SourceSyncStateRepo.get other db.source_sync_state

theorem Fetched.execute_ingested {fetched : Fetched}
    (h : fetched.execute env tx db = .ok (db', result)) :
    Ingested tx fetched.source db db' result := by
  cases fetched with
  | effis hotspots burnt_areas =>
      obtain ⟨rows, hr, ht, hs, hi, hu, hc, ho⟩ := SyncEffisUseCase.execute_ok h
      have hsrc := collect_source hr (fun x row hx =>
        congrArg Prod.fst (SyncEffisUseCase.to_row_source hx))
      refine ⟨?_, ⟨_, by simp [Dict.keys], ho⟩,
        fun other hne => hs ▸ SourceSyncStateRepo.get_record_success_other hne _ _ _⟩
      rw [ht, hi, hu, hc]
      exact (upserted_wrote hsrc _).trans (closed_rows_wrote _)
  | ign records =>
      obtain ⟨ht, hs, hres, ho⟩ := SyncIgnUseCase.execute_ok h
      refine ⟨?_, ⟨_, by simp [Dict.keys], ho⟩,
        fun other hne => hs ▸ SourceSyncStateRepo.get_record_success_other hne _ _ _⟩
      rw [ht, hres]
      refine upserted_wrote (fun row hr => ?_) _
      obtain ⟨r, _, rfl⟩ := List.mem_map.mp hr
      rfl
  | aemet warnings =>
      obtain ⟨rows, hr, ht, hs, hi, hu, hc, ho⟩ := SyncAemetUseCase.execute_ok h
      have hsrc := collect_source hr (fun x row hx =>
        congrArg Prod.fst (SyncAemetUseCase.to_row_source hx))
      refine ⟨?_, ⟨_, by simp [Dict.keys], ho⟩,
        fun other hne => hs ▸ SourceSyncStateRepo.get_record_success_other hne _ _ _⟩
      rw [ht, hi, hu, hc, ← Nat.add_assoc]
      exact ((upserted_wrote hsrc _).trans (SyncAemetUseCase.closed_groups_wrote _ _)).trans
        (closed_rows_wrote _)

theorem marks_append (source : Source) (as bs : List SyncAction) :
    marks source (as ++ bs) = marks source as ++ marks source bs := by
  simp [marks]

theorem xids_append (as bs : List SyncAction) : xids (as ++ bs) = xids as ++ xids bs := by
  simp [xids]

theorem marks_committed {source : Source} (tx : Tx) {fetched : Fetched}
    (h : fetched.source = source) : marks source [.committed tx fetched] = [tx.mark] := by
  simp [marks, h]

theorem marks_committed_other {source : Source} (tx : Tx) {fetched : Fetched}
    (h : fetched.source ≠ source) : marks source [.committed tx fetched] = [] := by
  simp [marks, h]

theorem SyncStep.change {db db' : Db G} {a : SyncAction} (h : SyncStep env db a db') :
    db'.hazard_events = db.hazard_events ∨ ∃ tx fetched, a = .committed tx fetched ∧
      Change tx fetched.source db.hazard_events db'.hazard_events := by
  cases h with
  | committed h => exact .inr ⟨_, _, rfl, (Fetched.execute_ingested h).wrote.change⟩
  | rolled_back => exact .inl rfl
  | failed => exact .inl rfl

theorem SyncStep.unique {db db' : Db G} {a : SyncAction} (h : SyncStep env db a db')
    (hu : Table.Unique HazardEvent.key db.hazard_events) :
    Table.Unique HazardEvent.key db'.hazard_events := by
  rcases h.change with he | ⟨_, _, _, hc⟩
  · rwa [he]
  · exact hc.unique hu

theorem SyncRun.unique {db db' : Db G} {as : List SyncAction} (h : SyncRun env db as db')
    (hu : Table.Unique HazardEvent.key db.hazard_events) :
    Table.Unique HazardEvent.key db'.hazard_events :=
  Transition.Run.invariant (I := fun db : Db G => Table.Unique HazardEvent.key db.hazard_events)
    (fun _ _ _ hu hs => hs.unique hu) h hu

theorem unique_empty : Table.Unique HazardEvent.key (Db.empty G).hazard_events := by
  simp [Db.empty, Table.Unique]

end GeoHazard

import GeoHazard.Hazards.EffisLifecycle
import GeoHazard.Hazards.ListEvents
import GeoHazard.Hazards.UpsertContent
import GeoHazard.Notifications.Matching

namespace GeoHazard
open HazardEventRepo

namespace PointWindows

variable {G : Type}

def is_quake (e : HazardEvent G) : Bool := decide (e.source = .ign)

def is_hotspot (e : HazardEvent G) : Bool :=
  decide (e.source = .effis) && MatchingRepo.astext "kind" e.attrs == some "hotspot"

def windowed (tx : Tx) (e : HazardEvent G) : HazardEvent G :=
  { e with ends_at := some e.starts_at, xmin := tx.xid }

def unwindowed (tx : Tx) (e : HazardEvent G) : HazardEvent G :=
  { e with ends_at := none, xmin := tx.xid }

def upgrade (tx : Tx) (t : Rows G) : Rows G :=
  Table.update (fun e => is_hotspot e && e.ends_at.isNone) (windowed tx)
    (Table.update (fun e => is_quake e && e.ends_at.isNone) (windowed tx) t)

def downgrade (tx : Tx) (t : Rows G) : Rows G :=
  Table.update (fun e => is_hotspot e && e.ends_at == some e.starts_at) (unwindowed tx)
    (Table.update (fun e => is_quake e && e.ends_at == some e.starts_at) (unwindowed tx) t)

def is_point (e : HazardEvent G) : Bool := is_quake e || is_hotspot e

-- the columns of a row: xmin tells only which transaction wrote it last
def columns (e : HazardEvent G) : HazardEvent G := { e with xmin := 0 }

-- the table as a sync that left point events open could leave it
structure PointTable (db : Db G) : Prop where
  unique : Table.Unique HazardEvent.key db.hazard_events
  hotspot : ∀ e ∈ db.hazard_events, is_hotspot e = true → ∃ id, e.external_id = "hs-" ++ id
  cursor : ∀ id ∈ SyncEffisUseCase.previous_ids db.source_sync_state, ∃ x, id = "ba-" ++ x
  window : ∀ e ∈ db.hazard_events, is_point e = true →
    e.ends_at = none ∨ e.ends_at = some e.starts_at

variable {env : Env G} {tx tx' : Tx} {t : Rows G} {db db' : Db G} {result : SyncResult}

section Statements

variable (e : HazardEvent G)

@[simp] theorem is_quake_windowed : is_quake (windowed tx e) = is_quake e := rfl

@[simp] theorem is_hotspot_windowed : is_hotspot (windowed tx e) = is_hotspot e := rfl

@[simp] theorem is_point_windowed : is_point (windowed tx e) = is_point e := rfl

@[simp] theorem key_windowed : (windowed tx e).key = e.key := rfl

@[simp] theorem ends_at_windowed : (windowed tx e).ends_at = some e.starts_at := rfl

@[simp] theorem is_hotspot_unwindowed : is_hotspot (unwindowed tx e) = is_hotspot e := rfl

@[simp] theorem is_point_unwindowed : is_point (unwindowed tx e) = is_point e := rfl

@[simp] theorem ends_at_unwindowed : (unwindowed tx e).ends_at = none := rfl

@[simp] theorem starts_at_windowed : (windowed tx e).starts_at = e.starts_at := rfl

theorem columns_windowed_unwindowed :
    columns (windowed tx (unwindowed tx' e)) = columns (windowed tx e) := rfl

theorem columns_unwindowed_windowed :
    columns (unwindowed tx' (windowed tx e)) = columns (unwindowed tx e) := rfl

theorem columns_windowed : columns (windowed tx e) = columns e ↔ e.ends_at = some e.starts_at := by
  refine ⟨fun h => ?_, fun h => ?_⟩
  · exact (congrArg (fun e : HazardEvent G => e.ends_at) h).symm
  · simp [columns, windowed, ← h]

theorem columns_unwindowed : columns (unwindowed tx e) = columns e ↔ e.ends_at = none := by
  refine ⟨fun h => ?_, fun h => ?_⟩
  · exact (congrArg (fun e : HazardEvent G => e.ends_at) h).symm
  · simp [columns, unwindowed, ← h]

end Statements

-- no row is both, so the two statements are one over the point events
theorem upgrade_eq (tx : Tx) (t : Rows G) :
    upgrade tx t = Table.update (fun e => is_point e && e.ends_at.isNone) (windowed tx) t := by
  rw [upgrade, Table.update_update (fun e _ => by simp)]
  refine congrArg (fun p => Table.update p (windowed tx) t) (funext fun e => ?_)
  simp [is_point, Bool.and_or_distrib_right]

theorem downgrade_eq (tx : Tx) (t : Rows G) :
    downgrade tx t =
      Table.update (fun e => is_point e && e.ends_at == some e.starts_at) (unwindowed tx) t := by
  rw [downgrade, Table.update_update (fun e _ => by simp)]
  refine congrArg (fun p => Table.update p (unwindowed tx) t) (funext fun e => ?_)
  simp [is_point, Bool.and_or_distrib_right]

theorem mem_upgrade {e : HazardEvent G} (h : e ∈ upgrade tx t) :
    ∃ o ∈ t, is_point e = is_point o ∧ is_hotspot e = is_hotspot o ∧ e.key = o.key ∧
      e.starts_at = o.starts_at ∧
      (e.ends_at = o.ends_at ∨ e.ends_at = some e.starts_at) ∧
      (is_point e = true → e.ends_at ≠ none) := by
  rw [upgrade_eq] at h
  obtain ⟨o, ho, hif⟩ := Table.mem_update.mp h
  split at hif
  · subst hif
    exact ⟨o, ho, rfl, rfl, rfl, rfl, .inr rfl, fun _ => by simp⟩
  · next hno =>
      subst hif
      refine ⟨o, ho, rfl, rfl, rfl, rfl, .inl rfl, fun hp hn => hno ?_⟩
      simp [hp, hn]

theorem mem_downgrade {e : HazardEvent G} (h : e ∈ downgrade tx t) :
    (e ∈ t ∧ (is_point e = true → e.ends_at ≠ some e.starts_at)) ∨ e.ends_at = none := by
  rw [downgrade_eq] at h
  obtain ⟨o, ho, hif⟩ := Table.mem_update.mp h
  split at hif
  · subst hif
    exact .inr rfl
  · next hno =>
      subst hif
      refine .inl ⟨ho, fun hp hw => hno ?_⟩
      simp [hp, hw]

theorem filter_upgrade (tx : Tx) (t : Rows G) :
    (upgrade tx t).filter (fun e => !is_point e) = t.filter (fun e => !is_point e) := by
  have hsame : ∀ e : HazardEvent G, is_point (if is_point e && e.ends_at.isNone then windowed tx e
      else e) = is_point e := fun e => by split <;> simp
  rw [upgrade_eq, Table.update, List.filter_map]
  simp only [Function.comp_def, hsame]
  refine (List.map_congr_left fun e he => ?_).trans (List.map_id _)
  have hno : is_point e = false := by simpa using (List.mem_filter.mp he).2
  simp [hno]

theorem upgrade_downgrade_iff :
    (upgrade tx (downgrade tx' t)).map columns = t.map columns ↔
      ∀ e ∈ t, is_point e = true → e.ends_at ≠ none := by
  simp only [upgrade_eq, downgrade_eq, Table.update, List.map_map]
  rw [List.map_inj_left]
  refine forall₂_congr (fun e _ => ?_)
  cases hp : is_point e with
  | false => simp [hp]
  | true =>
      by_cases hw : e.ends_at = some e.starts_at
      · simp [hp, hw, columns_windowed_unwindowed, columns_windowed]
      · cases hends : e.ends_at with
        | none => simp [hp, hends, columns_windowed]
        | some ends =>
            rw [hends] at hw
            simp [hp, hends, hw]

theorem downgrade_upgrade_iff :
    (downgrade tx' (upgrade tx t)).map columns = t.map columns ↔
      ∀ e ∈ t, is_point e = true → e.ends_at ≠ some e.starts_at := by
  simp only [upgrade_eq, downgrade_eq, Table.update, List.map_map]
  rw [List.map_inj_left]
  refine forall₂_congr (fun e _ => ?_)
  cases hp : is_point e with
  | false => simp [hp]
  | true =>
      cases hends : e.ends_at with
      | none => simp [hp, hends, columns_unwindowed_windowed, columns_unwindowed]
      | some ends =>
          by_cases hw : ends = e.starts_at
          · simp [hp, hends, hw, columns_unwindowed]
          · simp [hp, hends, hw]

theorem kind_stored {r : EffisRecord} (hc : r.Clean) :
    MatchingRepo.astext "kind" (Json.obj (SyncEffisUseCase.row_attrs r) : PyJson).canon =
      some r.kind.name := by
  rw [Json.canon_obj, MatchingRepo.astext, attr,
    Json.get_sortKeys
      (by simpa [Dict.keys, Function.comp_def] using SyncEffisUseCase.nodup_row_attrs hc),
    Json.get_map_canon, SyncEffisUseCase.get_kind]
  rfl

theorem is_point_iff {e : HazardEvent G} :
    is_point e = true ↔ e.source = .ign ∨ is_hotspot e = true := by
  simp [is_point, is_quake]

theorem mem_closed_rows {source : Source} {ids : List String} {ended_at : Timestamptz}
    {e : HazardEvent G} (he : e ∈ (closed_rows tx source ids ended_at t).1) :
    e ∈ t ∨ ∃ o ∈ t, e = HazardEvent.closed tx ended_at o ∧ o.source = source ∧
      o.external_id ∈ ids := by
  rw [closed_rows] at he
  obtain ⟨o, ho, hif⟩ := Table.mem_update.mp he
  split at hif
  · next hopen =>
      simp only [open_after, Bool.and_eq_true, decide_eq_true_eq] at hopen
      exact .inr ⟨o, ho, hif.symm, hopen.1.1, hopen.1.2⟩
  · exact .inl (hif ▸ ho)

-- what a run can leave of a point event: the row as it was, or a row whose window is its instant
def Pointlike (db : Db G) (e : HazardEvent G) : Prop :=
  e ∈ db.hazard_events ∨ e.ends_at = some e.starts_at ∧
    (is_hotspot e = true → ∃ id, e.external_id = "hs-" ++ id)

theorem pointlike_ign {records : List IgnRecord} {e : HazardEvent G}
    (he : e ∈ upserted env tx (records.map (SyncIgnUseCase.to_row env)) db.hazard_events) :
    Pointlike db e := by
  rcases mem_upserted he with ho | ⟨row, hrow, hto⟩
  · exact .inl ho
  · obtain ⟨r, _, rfl⟩ := List.mem_map.mp hrow
    refine .inr ⟨?_, fun hh => ?_⟩
    · rw [hto]
      rfl
    · have hsource : e.source = .ign := congrArg Row.source hto
      simp [is_hotspot, hsource] at hh

theorem pointlike_effis {records : List EffisRecord} (hr : ∀ r ∈ records, r.Clean)
    (hk : ∀ r ∈ records, r.Hotspot ∨ r.BurntArea) {rows : List (Row G)}
    (hc : collect (SyncEffisUseCase.to_row env) records = .ok rows) {e : HazardEvent G}
    (he : e ∈ upserted env tx rows db.hazard_events) (hp : is_point e = true) :
    Pointlike db e := by
  rcases mem_upserted he with ho | ⟨row, hrow, hto⟩
  · exact .inl ho
  · obtain ⟨r, hm, hx, hkey⟩ := SyncEffisUseCase.collect_row hc hrow
    have hid : e.external_id = r.external_id := by
      rw [hto]
      exact congrArg Prod.snd hkey
    obtain ⟨geom, _, hrow⟩ := SyncEffisUseCase.to_row_ok hx
    have hsource : e.source = .effis := by
      rw [hto, hrow]
      rfl
    have hkind : MatchingRepo.astext "kind" e.attrs = some r.kind.name := by
      rw [hto, hrow]
      exact kind_stored (hr r hm)
    rcases hk r hm with hh | hb
    · refine .inr ⟨?_, fun _ => hid ▸ hh.external_id⟩
      rw [hto]
      exact (SyncEffisUseCase.to_row_window hx).2 hh
    · simp [is_point, is_quake, is_hotspot, hsource, hkind, hb.kind, EffisKind.name] at hp

theorem mem_of_other_source {source : Source} {t' : Rows G} (hc : Change tx source t t')
    (hu : Table.Unique HazardEvent.key t) {e : HazardEvent G} (he : e ∈ t')
    (hs : e.source ≠ source) : e ∈ t := by
  have hfind := (Table.find_unique (hc.unique hu)).mpr ⟨he, rfl⟩
  rw [hc.others e.key hs] at hfind
  exact (Table.find_some_mem hfind).1

variable {a : SyncAction} {as : List SyncAction}

theorem step_pointlike (hi : PointTable db) (hs : SyncStep env db a db') (hp : a.Parsed)
    (hc : a.Clean) {e : HazardEvent G} (he : e ∈ db'.hazard_events) (hpoint : is_point e = true) :
    Pointlike db e := by
  cases hs with
  | @committed tx fetched _ _ result hx =>
      by_cases hsrc : e.source = fetched.source
      · cases fetched with
        | ign records =>
            rw [(SyncIgnUseCase.execute_ok hx).1] at he
            exact pointlike_ign he
        | effis hotspots burnt_areas =>
            obtain ⟨rows, hr, ht, _⟩ := SyncEffisUseCase.execute_ok hx
            have hkinds : ∀ r ∈ hotspots ++ burnt_areas, r.Hotspot ∨ r.BurntArea := fun r hr =>
              (List.mem_append.mp hr).imp (hp.1 r) (hp.2 r)
            rw [ht, SyncEffisUseCase.closed_vanished] at he
            rcases mem_closed_rows he with hup | ⟨o, ho, rfl, hsource, hv⟩
            · exact pointlike_effis hc hkinds hr hup hpoint
            -- the cursor holds burnt areas only, so no hotspot is closed
            · have hhot : is_hotspot o = true := by
                have hor : o.source = .ign ∨ is_hotspot o = true := is_point_iff.mp hpoint
                exact hor.resolve_left (fun h => by simp [h] at hsource)
              obtain ⟨y, hy⟩ := hi.cursor _ (SyncEffisUseCase.mem_vanished.mp hv).1
              have hname : ∃ x, o.external_id = "hs-" ++ x := by
                rcases pointlike_effis hc hkinds hr ho hpoint with hold | ⟨_, hname⟩
                · exact hi.hotspot o hold hhot
                · exact hname hhot
              obtain ⟨x, hx⟩ := hname
              exact absurd (hx.symm.trans hy) (hs_ne_ba x y)
        | aemet warnings =>
            have hsource : e.source = .aemet := hsrc
            simp [is_point, is_quake, is_hotspot, hsource] at hpoint
      · exact .inl (mem_of_other_source (Fetched.execute_ingested hx).wrote.change hi.unique he hsrc)
  | rolled_back => exact .inl he
  | failed => exact .inl he

open SyncEffisUseCase in
theorem cursor_step (hi : ∀ id ∈ previous_ids db.source_sync_state, ∃ x, id = "ba-" ++ x)
    (hs : SyncStep env db a db') (hp : a.Parsed) :
    ∀ id ∈ previous_ids db'.source_sync_state, ∃ x, id = "ba-" ++ x := by
  cases hs with
  | @committed tx fetched _ _ result hx =>
      by_cases hsrc : fetched.source = .effis
      · cases fetched with
        | effis hotspots burnt_areas =>
            intro id hid
            obtain ⟨_, _, _, hstate, _⟩ := execute_ok hx
            rw [hstate, mem_previous_ids_record_success] at hid
            obtain ⟨r, hr, rfl⟩ := List.mem_map.mp hid
            exact (hp.2 r hr).external_id
        | ign records => simp [Fetched.source] at hsrc
        | aemet warnings => simp [Fetched.source] at hsrc
      · simpa only [previous_ids, (Fetched.execute_ingested hx).state .effis (Ne.symm hsrc)] using hi
  | rolled_back => exact hi
  | failed => simpa only [previous_ids_record_failure] using hi

theorem PointTable.step (hi : PointTable db) (hs : SyncStep env db a db') (hp : a.Parsed)
    (hc : a.Clean) : PointTable db' where
  unique := hs.unique hi.unique
  hotspot e he hh := by
    rcases step_pointlike hi hs hp hc he (is_point_iff.mpr (.inr hh)) with hold | ⟨_, hname⟩
    · exact hi.hotspot e hold hh
    · exact hname hh
  cursor := cursor_step hi.cursor hs hp
  window e he hpoint := by
    rcases step_pointlike hi hs hp hc he hpoint with hold | ⟨hw, _⟩
    · exact hi.window e hold hpoint
    · exact .inr hw

def Closed (db : Db G) : Prop :=
  ∀ e ∈ db.hazard_events, is_point e = true → e.ends_at = some e.starts_at

theorem Closed.step (h : Closed db) (hi : PointTable db) (hs : SyncStep env db a db')
    (hp : a.Parsed) (hc : a.Clean) : Closed db' := by
  intro e he hpoint
  rcases step_pointlike hi hs hp hc he hpoint with hold | ⟨hw, _⟩
  · exact h e hold hpoint
  · exact hw

def migrated (tx : Tx) (db : Db G) : Db G := { db with hazard_events := upgrade tx db.hazard_events }

theorem PointTable.upgraded (h : PointTable db) (tx : Tx) : PointTable (migrated tx db) where
  unique := by
    rw [migrated, upgrade_eq]
    exact Table.unique_update (fun e _ => key_windowed e) h.unique
  hotspot e he hh := by
    obtain ⟨o, ho, _, hho, hkey, _⟩ := mem_upgrade he
    obtain ⟨x, hx⟩ := h.hotspot o ho (hho ▸ hh)
    exact ⟨x, (congrArg Prod.snd hkey).trans hx⟩
  cursor := h.cursor
  window e he hpoint := by
    obtain ⟨o, ho, hpo, _, _, hstarts, hends, _⟩ := mem_upgrade he
    rcases hends with hends | hends
    · rw [hends, hstarts]
      exact h.window o ho (hpo ▸ hpoint)
    · exact .inr hends

theorem PointTable.closed (h : PointTable db) (tx : Tx) : Closed (migrated tx db) := by
  intro e he hpoint
  obtain ⟨_, _, _, _, _, _, _, hclosed⟩ := mem_upgrade he
  exact ((h.upgraded tx).window e he hpoint).resolve_left (hclosed hpoint)

theorem run_closed (h : PointTable db) (hr : SyncRun env (migrated tx db) as db')
    (hp : ∀ a ∈ as, a.Parsed) (hc : ∀ a ∈ as, a.Clean) : PointTable db' ∧ Closed db' := by
  have hall := Transition.Run.history
    (I := fun as (db : Db G) => (∀ a ∈ as, SyncAction.Parsed a ∧ SyncAction.Clean a) →
      PointTable db ∧ Closed db)
    (fun bs _ a _ hi hs hk => by
      obtain ⟨ht, hcl⟩ := hi (fun b hb => hk b (by simp [hb]))
      obtain ⟨hpa, hca⟩ := hk a (by simp)
      exact ⟨ht.step hs hpa hca, hcl.step ht hs hpa hca⟩)
    hr (fun _ => ⟨h.upgraded tx, h.closed tx⟩)
  exact hall (fun a ha => ⟨hp a ha, hc a ha⟩)

theorem is_active_point {e : HazardEvent G} (h : e.ends_at = some e.starts_at) (now : Timestamptz) :
    is_active now e = true ↔ now = e.starts_at := by
  simp only [is_active, h, Option.all_some, Bool.and_eq_true, decide_eq_true_eq]
  exact ⟨fun h => le_antisymm h.2 h.1, fun h => ⟨h.ge, h.le⟩⟩

end PointWindows

open PointWindows

variable {G : Type} {env : Env G} {tx : Tx} {db db' : Db G} {as : List SyncAction}

theorem point_windows (h : PointTable db) (hr : SyncRun env (migrated tx db) as db')
    (hread : ∀ a ∈ as, a.Read) (tx₁ tx₂ : Tx) :
    (∀ e ∈ db'.hazard_events, is_point e = true → e.ends_at = some e.starts_at ∧
      ∀ now, is_active now e = true ↔ now = e.starts_at) ∧
    (migrated tx db).hazard_events.filter (fun e => !is_point e) =
      db.hazard_events.filter (fun e => !is_point e) ∧
    (∀ e ∈ downgrade tx₁ db'.hazard_events, is_point e = true → e.ends_at = none) ∧
    (upgrade tx₂ (downgrade tx₁ db'.hazard_events)).map columns =
      db'.hazard_events.map columns ∧
    ((downgrade tx₁ (migrated tx db).hazard_events).map columns = db.hazard_events.map columns ↔
      ∀ e ∈ db.hazard_events, is_point e = true → e.ends_at = none) := by
  obtain ⟨_, hcl⟩ := run_closed h hr (fun a ha => (hread a ha).parsed)
    (fun a ha => (hread a ha).clean)
  refine ⟨fun e he hpoint => ?_, filter_upgrade tx _, fun e he hpoint => ?_, ?_, ?_⟩
  · exact ⟨hcl e he hpoint, is_active_point (hcl e he hpoint)⟩
  · rcases mem_downgrade he with ⟨hold, hno⟩ | hnone
    · exact absurd (hcl e hold hpoint) (hno hpoint)
    · exact hnone
  · refine upgrade_downgrade_iff.mpr (fun e he hpoint => ?_)
    simp [hcl e he hpoint]
  · rw [migrated, downgrade_upgrade_iff]
    refine forall₂_congr (fun e he => imp_congr_right (fun hpoint => ?_))
    rcases h.window e he hpoint with hw | hw <;> simp [hw]

def old_row (source : Source) (hazard_type : HazardType) (id kind : String) :
    HazardEvent (List (PyFloat × PyFloat)) :=
  ⟨⟨source, hazard_type, id, [], severity_two, (july 1 9).instant, none,
    .obj [("kind", .str kind)], "h"⟩, 0, none, (july 1 10).instant, none, 1⟩

-- a quake, a detection and a fire, all open as they were before the migration
def before_windows : Db (List (PyFloat × PyFloat)) :=
  ⟨[old_row .ign .earthquake "es2026a" "", old_row .effis .wildfire "hs-1" "hotspot",
    old_row .effis .wildfire "ba-7" "burnt_area"], [], []⟩

theorem before_windows_table : PointTable before_windows where
  unique := by simp [Table.Unique, before_windows, old_row, HazardEvent.key, Row.key]
  hotspot e he hh := by
    simp only [before_windows, List.mem_cons, List.not_mem_nil, or_false] at he
    rcases he with rfl | rfl | rfl
    · simp [is_hotspot, old_row] at hh
    · exact ⟨"1", rfl⟩
    · simp [is_hotspot, old_row, MatchingRepo.astext, attr, Dict.get] at hh
  cursor id hid := by
    simp [SyncEffisUseCase.previous_ids, SourceSyncStateRepo.get, Table.find, before_windows] at hid
  window e he _ := by
    simp only [before_windows, List.mem_cons, List.not_mem_nil, or_false] at he
    rcases he with rfl | rfl | rfl <;> exact .inl rfl

def wfs_fire : JsonValue :=
  .obj [("properties", .obj [("area", .str "200"), ("fire_id", .int 7),
      ("initialdate", .str "2026-07-02 10:00:00")]),
    ("geometry", .obj [("type", .str "Polygon"),
      ("coordinates", .arr [.arr [.arr [.int 0, .int 1], .arr [.int 1, .int 1], .arr [.int 1, .int 0],
        .arr [.int 0, .int 1]]])])]

def stored_fire : EffisRecord :=
  ⟨"ba-7", .burnt_area, .obj [("type", .str "Polygon"),
      ("coordinates", .arr [.arr [.arr [.int 1, .int 0], .arr [.int 1, .int 1], .arr [.int 0, .int 1],
        .arr [.int 1, .int 0]]])], july 2 10, some ⟨⟨0x4069000000000000⟩, rfl⟩,
    [("product", .str "nrt.ba"), ("fire_id", .str "7"),
      ("raw_initialdate", .str "2026-07-02 10:00:00"), ("raw_finaldate", .str "")]⟩

theorem stored_hotspot_read : stored_hotspot.Read .hotspot :=
  ⟨feed_lib, wfs_hotspot, wfs_record, wfs_hotspot_parsed, ⟨rfl, rfl, rfl, rfl, rfl, rfl⟩⟩

theorem stored_fire_read : stored_fire.Read .burnt_area :=
  ⟨feed_lib, wfs_fire, _, rfl, ⟨rfl, rfl, rfl, rfl, rfl, rfl⟩⟩

theorem stored_quake_read : stored_quake.Read :=
  ⟨feed_lib, feed_item, feed_record, feed_item_parsed, ⟨rfl, rfl, rfl, rfl, rfl, rfl, rfl⟩⟩

-- a poll of each of the two sources with point events, after the migration
def polls : List SyncAction :=
  [.committed (ran_at 3 (july 2 11)) (.effis [stored_hotspot] [stored_fire]),
    .committed (ran_at 4 (july 2 12)) (.ign [stored_quake])]

def windows_polled : Db (List (PyFloat × PyFloat)) :=
  ((migrated (ran_at 2 (july 2 10)) before_windows).after vertex_env (ran_at 3 (july 2 11))
    (.effis [stored_hotspot] [stored_fire])).after vertex_env (ran_at 4 (july 2 12))
    (.ign [stored_quake])

theorem point_windows_polled :
    (windows_polled.hazard_events.filter is_point).map (fun e => e.external_id) =
      ["es2026a", "hs-1", "hs-7"] ∧
    (∀ e ∈ windows_polled.hazard_events, is_point e = true → e.ends_at = some e.starts_at ∧
      ∀ now, is_active now e = true ↔ now = e.starts_at) ∧
    (migrated (ran_at 2 (july 2 10)) before_windows).hazard_events.filter (fun e => !is_point e) =
      before_windows.hazard_events.filter (fun e => !is_point e) ∧
    (∀ e ∈ downgrade (ran_at 5 (july 2 13)) windows_polled.hazard_events, is_point e = true →
      e.ends_at = none) ∧
    (upgrade (ran_at 6 (july 2 14)) (downgrade (ran_at 5 (july 2 13))
      windows_polled.hazard_events)).map columns = windows_polled.hazard_events.map columns ∧
    ((downgrade (ran_at 5 (july 2 13)) (migrated (ran_at 2 (july 2 10))
      before_windows).hazard_events).map columns = before_windows.hazard_events.map columns ↔
      ∀ e ∈ before_windows.hazard_events, is_point e = true → e.ends_at = none) := by
  have hrun : SyncRun vertex_env (migrated (ran_at 2 (july 2 10)) before_windows) polls
      windows_polled :=
    .cons (SyncStep.after (by decide +kernel)) (.one (SyncStep.after (by decide +kernel)))
  refine ⟨by decide +kernel, point_windows before_windows_table hrun (fun a ha => ?_) _ _⟩
  simp only [polls, List.mem_cons, List.not_mem_nil, or_false] at ha
  rcases ha with rfl | rfl
  · simp [SyncAction.Read, Fetched.Read, stored_hotspot_read, stored_fire_read]
  · simp [SyncAction.Read, Fetched.Read, stored_quake_read]

end GeoHazard

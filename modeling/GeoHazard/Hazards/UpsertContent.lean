import GeoHazard.Hazards.ReadRecords
import Mathlib.Logic.Equiv.Basic

namespace GeoHazard

variable {G : Type} {env : Env G} {tx : Tx}

structure SameContent (r r' : Row G) : Prop where
  hazard_type : r.hazard_type = r'.hazard_type
  geom : r.geom = r'.geom
  severity : r.severity = r'.severity
  starts_at : r.starts_at = r'.starts_at
  attrs : r.attrs.canon = r'.attrs.canon

theorem str_of_canon {s t : String}
    (h : (some (Json.str s : PyJson)).map Json.canon = (some (.str t)).map Json.canon) : s = t := by
  simpa [Json.canon] using h

theorem float_of_canon {x y : FiniteFloat}
    (h : (some (Json.float x : PyJson)).map Json.canon = (some (.float y)).map Json.canon) :
    x = y := by
  simpa [Json.canon] using h

theorem isoformat_of_canon {d d' : Datetime}
    (h : (some (Json.str d.isoformat : PyJson)).map Json.canon =
      (some (.str d'.isoformat)).map Json.canon) : d = d' :=
  Datetime.isoformat_injective (str_of_canon h)

theorem canon_of_map {v w : PyJson}
    (h : (some v).map Json.canon = (some w).map Json.canon) : v.canon = w.canon := by
  simpa using h

namespace SyncAemetUseCase

theorem nodup_row_attrs {w : AemetWarning} : (Dict.keys (row_attrs w)).Nodup := by
  have hn : (Dict.keys (Dict.update [("event", (w.event.map Json.str).getD .null),
      ("phenomenon", (w.phenomenon.map Json.str).getD .null),
      ("level", (w.level.map Json.str).getD .null), ("zone", (w.zone.map Json.str).getD .null),
      ("area_desc", (w.area_desc.map Json.str).getD .null)] w.attrs)).Nodup :=
    Dict.nodup_keys_update (by simp [Dict.keys])
  exact hn.sublist (List.filter_sublist.map _)

theorem get_level {w : AemetWarning} (hc : w.Clean) {level : String} (hl : w.level = some level) :
    Dict.get "level" (row_attrs w) = some (.str level) := by
  rw [Dict.get_iff nodup_row_attrs, row_attrs, List.mem_filter]
  refine ⟨Dict.mem_of_get ?_, rfl⟩
  rw [Dict.get_update_of_not_mem hc.2]
  simp [Dict.get, hl]

theorem same_content (hsha : Function.Injective env.sha256) {w w' : AemetWarning} (hc : w.Clean)
    (hc' : w'.Clean) {r r' : Row G} (h : to_row env w = .ok r) (h' : to_row env w' = .ok r')
    (hh : r.content_hash = r'.content_hash) : SameContent r r' := by
  obtain ⟨level, polygon, onset, expires, geom, severity, hl, _, _, hg, hs, rfl⟩ := to_row_ok h
  obtain ⟨level', polygon', onset', expires', geom', severity', hl', _, _, hg', hs', rfl⟩ :=
    to_row_ok h'
  have hget := Json.get_canon_obj (by simp [Dict.keys]) (by simp [Dict.keys])
    ((content_hash_eq_iff hsha).mp hh)
  have hpolygon : polygon = polygon' := str_of_canon (hget "polygon")
  have hattrs : (Json.obj (row_attrs w)).canon = (Json.obj (row_attrs w')).canon :=
    canon_of_map (hget "attrs")
  have honset : onset = onset' := isoformat_of_canon (hget "onset")
  have hlevel := Json.get_canon_obj nodup_row_attrs nodup_row_attrs hattrs "level"
  rw [get_level hc hl, get_level hc' hl'] at hlevel
  obtain rfl := str_of_canon hlevel
  subst hpolygon honset
  exact ⟨rfl, Except.ok.inj (hg.symm.trans hg'), Except.ok.inj (hs.symm.trans hs'), rfl, hattrs⟩

end SyncAemetUseCase

namespace SyncEffisUseCase

theorem nodup_row_attrs {r : EffisRecord} (hc : r.Clean) : (Dict.keys (row_attrs r)).Nodup := by
  unfold row_attrs
  split
  · exact Dict.nodup_keys_set hc.1
  · exact Dict.nodup_keys_set (Dict.nodup_keys_set hc.1)

theorem get_kind (r : EffisRecord) :
    Dict.get "kind" (row_attrs r) = some (.str r.kind.name) := by
  unfold row_attrs
  split
  · exact Dict.get_set_self _ _ _
  · rw [Dict.get_set_other (by decide), Dict.get_set_self]

theorem get_area_ha {r : EffisRecord} (hc : r.Clean) :
    Dict.get "area_ha" (row_attrs r) = r.area_ha.map Json.float := by
  unfold row_attrs
  cases r.area_ha with
  | none =>
      rw [Dict.get_set_other (by decide)]
      exact Dict.get_eq_none.mpr hc.2
  | some area => exact Dict.get_set_self _ _ _

theorem kind_name_injective : Function.Injective EffisKind.name := by
  intro a b h
  cases a <;> cases b <;> first | rfl | simp [EffisKind.name] at h

theorem same_content (hsha : Function.Injective env.sha256)
    (hshape : ∀ g, env.shape g.canon = env.shape g) {r r' : EffisRecord} (hc : r.Clean)
    (hc' : r'.Clean) {row row' : Row G} (h : to_row env r = .ok row) (h' : to_row env r' = .ok row')
    (hh : row.content_hash = row'.content_hash) : SameContent row row' := by
  obtain ⟨geom, hg, rfl⟩ := to_row_ok h
  obtain ⟨geom', hg', rfl⟩ := to_row_ok h'
  have hget := Json.get_canon_obj (by simp [Dict.keys]) (by simp [Dict.keys])
    ((content_hash_eq_iff hsha).mp hh)
  have hgeometry : r.geometry.canon = r'.geometry.canon := canon_of_map (hget "geometry")
  have hattrs : (Json.obj (row_attrs r)).canon = (Json.obj (row_attrs r')).canon :=
    canon_of_map (hget "attrs")
  have hobserved : r.observed_at = r'.observed_at := isoformat_of_canon (hget "observed_at")
  have hrow := Json.get_canon_obj (nodup_row_attrs hc) (nodup_row_attrs hc') hattrs
  have hkind : r.kind = r'.kind := by
    have hk := hrow "kind"
    rw [get_kind, get_kind] at hk
    exact kind_name_injective (str_of_canon hk)
  have harea : r.area_ha = r'.area_ha := by
    have ha := hrow "area_ha"
    rw [get_area_ha hc, get_area_ha hc'] at ha
    cases hr : r.area_ha <;> cases hr' : r'.area_ha <;> simp_all [Json.canon]
  have hgeom : geojson_to_wkb env r.geometry = geojson_to_wkb env r'.geometry := by
    simp only [geojson_to_wkb, ← hshape r.geometry, ← hshape r'.geometry, hgeometry]
  refine ⟨rfl, Except.ok.inj (hg.symm.trans (hgeom.trans hg')), ?_, ?_, hattrs⟩
  · simp only [hkind, harea]
  · simp only [hobserved]

end SyncEffisUseCase

namespace SyncIgnUseCase

theorem nodup_row_attrs {r : IgnRecord} (hc : r.Clean) : (Dict.keys (row_attrs r)).Nodup :=
  Dict.nodup_keys_update hc

theorem get_magnitude (r : IgnRecord) :
    Dict.get "magnitude" (row_attrs r) = some (.float r.magnitude) := by
  simp [row_attrs, Dict.get_update, Dict.get]

theorem same_content (hsha : Function.Injective env.sha256) {r r' : IgnRecord} (hc : r.Clean)
    (hc' : r'.Clean) (hh : (to_row env r).content_hash = (to_row env r').content_hash) :
    SameContent (to_row env r) (to_row env r') := by
  have hget := Json.get_canon_obj (by simp [Dict.keys]) (by simp [Dict.keys])
    ((content_hash_eq_iff hsha).mp hh)
  have hlat : r.latitude = r'.latitude := float_of_canon (hget "latitude")
  have hlon : r.longitude = r'.longitude := float_of_canon (hget "longitude")
  have hattrs : (Json.obj (row_attrs r)).canon = (Json.obj (row_attrs r')).canon :=
    canon_of_map (hget "attrs")
  have hoccurred : r.occurred_at = r'.occurred_at := isoformat_of_canon (hget "occurred_at")
  have hmagnitude : r.magnitude = r'.magnitude := by
    have hm := Json.get_canon_obj (nodup_row_attrs hc) (nodup_row_attrs hc') hattrs "magnitude"
    rw [get_magnitude, get_magnitude] at hm
    exact float_of_canon hm
  refine ⟨rfl, ?_, ?_, ?_, hattrs⟩
  · simp only [to_row, hlat, hlon]
  · simp only [to_row, hmagnitude]
  · simp only [to_row, hoccurred]

end SyncIgnUseCase

def Built (env : Env G) (row : Row G) : Prop :=
  match row.source with
  | .effis => ∃ r : EffisRecord, r.Clean ∧ SyncEffisUseCase.to_row env r = .ok row
  | .ign => ∃ r : IgnRecord, r.Clean ∧ SyncIgnUseCase.to_row env r = row
  | .aemet => ∃ w : AemetWarning, w.Clean ∧ SyncAemetUseCase.to_row env w = .ok row

theorem Fetched.rows_built {fetched : Fetched} (hc : fetched.Clean) {rows : List (Row G)}
    (h : fetched.rows env = .ok rows) : ∀ row ∈ rows, Built env row := by
  intro row hr
  unfold Built
  cases fetched with
  | effis hotspots burnt_areas =>
      obtain ⟨r, hm, hto⟩ := collect_mem h hr
      rw [show row.source = .effis from congrArg Prod.fst (SyncEffisUseCase.to_row_source hto)]
      exact ⟨r, hc r hm, hto⟩
  | ign records =>
      obtain rfl := Except.ok.inj h
      obtain ⟨r, hm, rfl⟩ := List.mem_map.mp hr
      exact ⟨r, hc r hm, rfl⟩
  | aemet warnings =>
      obtain ⟨w, hm, hto⟩ := collect_mem h hr
      rw [show row.source = .aemet from congrArg Prod.fst (SyncAemetUseCase.to_row_source hto)]
      exact ⟨w, hc w (List.mem_filter.mp hm).1, hto⟩

theorem Built.same_content (hsha : Function.Injective env.sha256)
    (hshape : ∀ g, env.shape g.canon = env.shape g) {row row' : Row G} (h : Built env row)
    (h' : Built env row') (hs : row.source = row'.source)
    (hh : row.content_hash = row'.content_hash) : SameContent row row' := by
  unfold Built at h h'
  rw [hs] at h
  cases hsrc : row'.source with
  | effis =>
      rw [hsrc] at h h'
      obtain ⟨r, hc, hto⟩ := h
      obtain ⟨r', hc', hto'⟩ := h'
      exact SyncEffisUseCase.same_content hsha hshape hc hc' hto hto' hh
  | ign =>
      rw [hsrc] at h h'
      obtain ⟨r, hc, rfl⟩ := h
      obtain ⟨r', hc', rfl⟩ := h'
      exact SyncIgnUseCase.same_content hsha hc hc' hh
  | aemet =>
      rw [hsrc] at h h'
      obtain ⟨w, hc, hto⟩ := h
      obtain ⟨w', hc', hto'⟩ := h'
      exact SyncAemetUseCase.same_content hsha hc hc' hto hto' hh

open HazardEventRepo

-- a stored row is some record's row, except that closing moves its ends_at
def Imaged (env : Env G) (e : HazardEvent G) : Prop :=
  ∃ row ends, Built env row ∧ e.toRow = { row.stored with ends_at := ends }

theorem imaged_of_stored {row : Row G} {e : HazardEvent G} (hb : Built env row)
    (he : e.toRow = row.stored) : Imaged env e :=
  ⟨row, row.ends_at, hb, he⟩

theorem Imaged.closed {e : HazardEvent G} (h : Imaged env e) (ended_at : Timestamptz) :
    Imaged env (HazardEvent.closed tx ended_at e) := by
  obtain ⟨row, ends, hb, he⟩ := h
  exact ⟨row, some ended_at, hb, by simp [HazardEvent.closed, he]⟩

theorem imaged_closed_rows {source : Source} {ids : List String} {ended_at : Timestamptz}
    {t : Rows G} (h : ∀ e ∈ t, Imaged env e) :
    ∀ e ∈ (closed_rows tx source ids ended_at t).1, Imaged env e := by
  intro e he
  rw [closed_rows] at he
  obtain ⟨o, ho, rfl⟩ := Table.mem_update.mp he
  split
  · exact (h o ho).closed ended_at
  · exact h o ho

theorem imaged_closed_groups {groups : List (Timestamptz × List String)} {t : Rows G}
    (h : ∀ e ∈ t, Imaged env e) :
    ∀ e ∈ (SyncAemetUseCase.closed_groups tx groups t).1, Imaged env e := by
  induction groups generalizing t with
  | nil => exact h
  | cons g groups ih => exact ih (imaged_closed_rows h)

theorem imaged_upserted {rows : List (Row G)} {t : Rows G} (hb : ∀ row ∈ rows, Built env row)
    (h : ∀ e ∈ t, Imaged env e) : ∀ e ∈ upserted env tx rows t, Imaged env e := by
  intro e he
  rcases mem_upserted he with he | ⟨row, hr, hstored⟩
  · exact h e he
  · exact imaged_of_stored (hb row hr) hstored

theorem Fetched.execute_imaged {fetched : Fetched} {db db' : Db G} {result : SyncResult}
    (hc : fetched.Clean) (h : fetched.execute env tx db = .ok (db', result))
    (hi : ∀ e ∈ db.hazard_events, Imaged env e) : ∀ e ∈ db'.hazard_events, Imaged env e := by
  cases fetched with
  | effis hotspots burnt_areas =>
      obtain ⟨rows, hr, ht, _⟩ := SyncEffisUseCase.execute_ok h
      rw [ht]
      exact imaged_closed_rows (imaged_upserted (Fetched.rows_built hc hr) hi)
  | ign records =>
      obtain ⟨ht, _⟩ := SyncIgnUseCase.execute_ok h
      rw [ht]
      exact imaged_upserted (Fetched.rows_built hc rfl) hi
  | aemet warnings =>
      obtain ⟨rows, hr, ht, _⟩ := SyncAemetUseCase.execute_ok h
      rw [ht]
      exact imaged_closed_rows (imaged_closed_groups (imaged_upserted (Fetched.rows_built hc hr) hi))

theorem SyncRun.imaged {db db' : Db G} {as : List SyncAction} (h : SyncRun env db as db')
    (hc : ∀ a ∈ as, a.Clean) (hi : ∀ e ∈ db.hazard_events, Imaged env e) :
    ∀ e ∈ db'.hazard_events, Imaged env e := by
  induction h with
  | nil => exact hi
  | snoc _ hs ih =>
      have hprev := ih (fun a ha => hc a (List.mem_append_left _ ha))
      have hlast := hc _ (List.mem_append_right _ (List.mem_singleton_self _))
      cases hs with
      | committed hx => exact Fetched.execute_imaged hlast hx hprev
      | rolled_back => exact hprev
      | failed => exact hprev

theorem current_content (hsha : Function.Injective env.sha256)
    (hshape : ∀ g, env.shape g.canon = env.shape g) {row : Row G} {e : HazardEvent G}
    (hb : Built env row) (hi : Imaged env e) (hk : e.key = row.key)
    (hh : e.content_hash = row.content_hash) (hx : e.ends_at = row.ends_at) :
    e.toRow = row.stored := by
  obtain ⟨row', ends, hb', he⟩ := hi
  simp only [HazardEvent.key, he] at hk
  have hs : row'.source = row.source := congrArg Prod.fst hk
  have hid : row'.external_id = row.external_id := congrArg Prod.snd hk
  rw [he] at hh hx
  have hsame := hb'.same_content hsha hshape hb hs hh
  rw [he]
  simp only at hx hh
  simp only [Row.stored, hs, hid, hsame.hazard_type, hsame.geom, hsame.severity, hsame.starts_at,
    hsame.attrs, hx, show row'.content_hash = row.content_hash from hh]

theorem skipped_upsert_loses_nothing (hsha : Function.Injective env.sha256)
    (hshape : ∀ g, env.shape g.canon = env.shape g) {as : List SyncAction} {db : Db G}
    (h : SyncRun env (Db.empty G) as db) (hread : ∀ a ∈ as, a.Read) (tx : Tx) {fetched : Fetched}
    (hf : fetched.Read) {rows : List (Row G)} (hr : fetched.rows env = .ok rows)
    {t : Rows G} {inserted updated : Nat}
    (hrun : upsert_batch env tx rows db.hazard_events = .ok (t, inserted, updated)) :
    ∀ row ∈ rows, ∃ e last, Table.find HazardEvent.key row.key t = some e ∧
      last_with_key row.key rows = some last ∧ e.hazard_type = last.hazard_type ∧
      e.geom = last.geom ∧ e.severity = last.severity ∧ e.starts_at = last.starts_at ∧
      e.ends_at = last.ends_at ∧ e.attrs = last.attrs.canon := by
  have hi := h.imaged (fun a ha => (hread a ha).clean) (by simp [Db.empty])
  have hb := Fetched.rows_built hf.clean hr
  obtain ⟨_, hresult⟩ := upsert_batch_ok.mp hrun
  obtain ⟨rfl, _⟩ := Prod.mk.inj hresult
  intro row hrow
  obtain ⟨last, hlast, hkey, hd⟩ := last_with_key_isSome hrow
  obtain ⟨e, he, hcase⟩ := @upsert_rows_find_mem _ env tx _ db.hazard_events
    (nodup_keys_deduplicated rows) _ hd
  have hstored : e.toRow = last.stored := by
    rcases hcase with ⟨⟨old, ho, hh, hx⟩, hold⟩ | ⟨hstored, _⟩
    · obtain rfl := Option.some.inj (ho.symm.trans hold)
      obtain ⟨hmem, hek⟩ := Table.find_some_mem hold
      exact current_content hsha hshape (hb last (mem_of_mem_deduplicated hd)) (hi old hmem) hek hh hx
    · exact hstored
  refine ⟨e, last, hkey ▸ he, hlast, ?_, ?_, ?_, ?_, ?_, ?_⟩ <;> rw [hstored] <;> rfl

-- the text that content_hash digests for the alert, and its SHA-256
def alert_text : String :=
  "\x7b\"attrs\":\x7b\"level\":\"amarillo\"\x7d,\"expires\":\"2026-07-03T10:00:00+00:00\"," ++
    "\"onset\":\"2026-07-02T10:00:00+00:00\",\"polygon\":\"0,0 0,1 1,1 0,0\"\x7d"

def alert_digest : String := "2ea93e67b41e40f1856036e4993f81fd60495db7d961f11450c95d522965655e"

def digest_env : Env (List (PyFloat × PyFloat)) := planar_env (Equiv.swap alert_text alert_digest)

def alert_row : Row (List (PyFloat × PyFloat)) where
  source := .aemet
  hazard_type := .weather_warning
  external_id := "A"
  geom := [(⟨0⟩, ⟨0⟩), (⟨0x3ff0000000000000⟩, ⟨0⟩), (⟨0x3ff0000000000000⟩, ⟨0x3ff0000000000000⟩),
    (⟨0⟩, ⟨0⟩)]
  severity := severity_two
  starts_at := (july 2 10).instant
  ends_at := some (july 3 10).instant
  attrs := .obj [("level", .str "amarillo")]
  content_hash := alert_digest

theorem alert_content_hash : content_hash digest_env (SyncAemetUseCase.hash_payload
    "0,0 0,1 1,1 0,0" [("level", .str "amarillo")] (july 2 10) (july 3 10)) = alert_digest := by
  decide +kernel

theorem alert_rows : (Fetched.aemet alert_bulletin).rows digest_env = .ok [alert_row] := by
  rw [alert_row, ← alert_content_hash]
  rfl

def withdrawn : Db (List (PyFloat × PyFloat)) :=
  ((Db.empty _).after digest_env (ran_at 1 (july 2 11)) (.aemet alert_bulletin)).after digest_env
    (ran_at 2 (july 2 12)) (.aemet [])

theorem withdrawn_run : SyncRun digest_env (Db.empty _)
    [.committed (ran_at 1 (july 2 11)) (.aemet alert_bulletin),
      .committed (ran_at 2 (july 2 12)) (.aemet [])] withdrawn :=
  .cons (SyncStep.after (by decide)) (.one (SyncStep.after (by decide)))

theorem alert_bulletin_read : (Fetched.aemet alert_bulletin).Read := by
  intro w hw
  rw [List.mem_singleton.mp hw]
  exact ⟨feed_lib, cap_alert square_ring, rfl⟩

theorem skipped_upsert_loses_nothing_withdrawn :
    ∃ t inserted updated,
      upsert_batch digest_env (ran_at 3 (july 2 13)) [alert_row] withdrawn.hazard_events =
        .ok (t, inserted, updated) ∧
      ∀ row ∈ [alert_row], ∃ e last, Table.find HazardEvent.key row.key t = some e ∧
        last_with_key row.key [alert_row] = some last ∧ e.hazard_type = last.hazard_type ∧
        e.geom = last.geom ∧ e.severity = last.severity ∧ e.starts_at = last.starts_at ∧
        e.ends_at = last.ends_at ∧ e.attrs = last.attrs.canon := by
  have hread : ∀ a ∈ [SyncAction.committed (ran_at 1 (july 2 11)) (.aemet alert_bulletin),
      .committed (ran_at 2 (july 2 12)) (.aemet [])], a.Read := by
    intro a ha
    simp only [List.mem_cons, List.not_mem_nil, or_false] at ha
    rcases ha with rfl | rfl
    · exact alert_bulletin_read
    · exact fun w hw => absurd hw List.not_mem_nil
  have hrun : upsert_batch digest_env (ran_at 3 (july 2 13)) [alert_row] withdrawn.hazard_events =
      .ok (_, _, _) := upsert_batch_ok.mpr ⟨fun row hrow => by
        rw [List.mem_singleton.mp hrow]
        decide, rfl⟩
  exact ⟨_, _, _, hrun, skipped_upsert_loses_nothing (Equiv.injective _) (fun _ => rfl) withdrawn_run
    hread (ran_at 3 (july 2 13)) alert_bulletin_read alert_rows hrun⟩

end GeoHazard

import GeoHazard.Hazards.AemetLifecycle

namespace GeoHazard

variable {G : Type} {env : Env G} {tx : Tx} {db db' : Db G} {result : SyncResult}
  {hotspots burnt_areas : List EffisRecord}

-- the records as parse_hotspots and parse_burnt_areas build them
structure EffisRecord.Hotspot (record : EffisRecord) : Prop where
  kind : record.kind = .hotspot
  external_id : ∃ id, record.external_id = "hs-" ++ id

structure EffisRecord.BurntArea (record : EffisRecord) : Prop where
  kind : record.kind = .burnt_area
  external_id : ∃ id, record.external_id = "ba-" ++ id

def Fetched.Parsed : Fetched → Prop
  | .effis hotspots burnt_areas =>
      (∀ r ∈ hotspots, r.Hotspot) ∧ ∀ r ∈ burnt_areas, r.BurntArea
  | _ => True

def SyncAction.Parsed : SyncAction → Prop
  | .committed _ fetched => fetched.Parsed
  | _ => True

theorem hs_ne_ba (x y : String) : "hs-" ++ x ≠ "ba-" ++ y := by
  intro h
  have hl := congrArg String.toList h
  simp at hl

def HazardEvent.OfHotspot (e : HazardEvent G) : Prop :=
  e.source = .effis ∧ ∃ id, e.external_id = "hs-" ++ id

def HazardEvent.OpenFire (e : HazardEvent G) : Prop := e.source = .effis ∧ e.ends_at = none

structure FireInv (db : Db G) : Prop where
  unique : Table.Unique HazardEvent.key db.hazard_events
  tracked : ∀ e ∈ db.hazard_events, e.OpenFire →
    e.external_id ∈ SyncEffisUseCase.previous_ids db.source_sync_state
  cursor : ∀ id ∈ SyncEffisUseCase.previous_ids db.source_sync_state, ∃ x, id = "ba-" ++ x
  hotspot : ∀ e ∈ db.hazard_events, e.OfHotspot → e.ends_at = some e.starts_at

namespace SyncEffisUseCase

open HazardEventRepo

theorem previous_ids_eq (states : List SourceSyncState) :
    previous_ids states = cursor_ids "burnt_area_ids"
      (((SourceSyncStateRepo.get .effis states).map SourceSyncState.cursor).getD (.obj [])) := by
  unfold previous_ids
  cases SourceSyncStateRepo.get .effis states with
  | none => rfl
  | some s => rfl

theorem previous_ids_record_failure (source : Source) (error : String) (now : Timestamptz)
    (states : List SourceSyncState) :
    previous_ids (SourceSyncStateRepo.record_failure source error now states) =
      previous_ids states := by
  rw [previous_ids_eq, previous_ids_eq, SourceSyncStateRepo.cursor_record_failure]

theorem mem_previous_ids_record_success {ids : List String} {now : Timestamptz}
    {states : List SourceSyncState} {id : String} :
    id ∈ previous_ids (SourceSyncStateRepo.record_success .effis
      (some (cursor_of "burnt_area_ids" ids)) now states) ↔ id ∈ ids := by
  obtain ⟨s, hg, hc⟩ := SourceSyncStateRepo.get_record_success_self .effis
    (cursor_of "burnt_area_ids" ids) now states
  rw [previous_ids, hg, Option.map_some, Option.getD_some, hc, SyncAemetUseCase.mem_cursor_ids]

theorem mem_vanished {states : List SourceSyncState} {burnt_areas : List EffisRecord}
    {id : String} : id ∈ vanished states burnt_areas ↔
      id ∈ previous_ids states ∧ ∀ r ∈ burnt_areas, r.external_id ≠ id := by
  simp [vanished]

theorem to_row_window {record : EffisRecord} {row : Row G} (h : to_row env record = .ok row) :
    (record.BurntArea → row.ends_at = none) ∧
      (record.Hotspot → row.ends_at = some row.starts_at) := by
  obtain ⟨_, _, rfl⟩ := to_row_ok h
  constructor
  · intro hb
    simp [hb.kind]
  · intro hh
    simp [hh.kind]

theorem collect_row {records : List EffisRecord} {rows : List (Row G)}
    (h : collect (to_row env) records = .ok rows) {row : Row G} (hr : row ∈ rows) :
    ∃ r ∈ records, to_row env r = .ok row ∧ row.key = (.effis, r.external_id) := by
  obtain ⟨r, hm, he⟩ := collect_mem h hr
  exact ⟨r, hm, he, to_row_source he⟩

theorem mem_upserted_record {rows : List (Row G)} {records : List EffisRecord}
    (hr : collect (to_row env) records = .ok rows) {t : Rows G} {e : HazardEvent G}
    (he : e ∈ upserted env tx rows t) : e ∈ t ∨ ∃ r ∈ records, e.external_id = r.external_id ∧
      (r.BurntArea → e.ends_at = none) ∧ (r.Hotspot → e.ends_at = some e.starts_at) := by
  rcases mem_upserted he with ho | ⟨row, hrow, hto⟩
  · exact .inl ho
  · obtain ⟨r, hm, hx, hk⟩ := collect_row hr hrow
    have hid : e.external_id = r.external_id := by
      rw [hto]
      exact congrArg Prod.snd hk
    have hends : e.ends_at = row.ends_at := (congrArg Row.ends_at hto).trans rfl
    have hstarts : e.starts_at = row.starts_at := (congrArg Row.starts_at hto).trans rfl
    refine .inr ⟨r, hm, hid, ?_⟩
    rw [hends, hstarts]
    exact to_row_window hx

theorem mem_closed_vanished {states : List SourceSyncState} {batch_at : Datetime} {t : Rows G}
    {e : HazardEvent G} (he : e ∈ (closed_vanished tx states burnt_areas batch_at t).1) :
    (e ∈ t ∧ (e.OpenFire → e.external_id ∉ vanished states burnt_areas)) ∨
      ∃ o ∈ t, o.external_id ∈ vanished states burnt_areas ∧ e.key = o.key ∧
        e.ends_at = some batch_at.instant := by
  rw [closed_vanished, closed_rows] at he
  obtain ⟨o, ho, hif⟩ := Table.mem_update.mp he
  split at hif
  · next hopen =>
      simp only [open_after, Bool.and_eq_true, decide_eq_true_eq] at hopen
      exact .inr ⟨o, ho, hopen.1.2, hif ▸ rfl, hif ▸ rfl⟩
  · next hopen =>
      subst hif
      refine .inl ⟨ho, fun hfire hv => hopen ?_⟩
      simp [open_after, hfire.1, hfire.2, hv]

theorem closed_vanished_keeps {states : List SourceSyncState} {batch_at : Datetime} {t : Rows G}
    {e : HazardEvent G} (he : e ∈ t) (hv : e.external_id ∉ vanished states burnt_areas) :
    e ∈ (closed_vanished tx states burnt_areas batch_at t).1 := by
  rw [closed_vanished, closed_rows]
  refine Table.mem_update.mpr ⟨e, he, ?_⟩
  simp [open_after, hv]

theorem served_open (h : execute env tx hotspots burnt_areas db = .ok (db', result))
    (hh : ∀ r ∈ hotspots, r.Hotspot) (hb : ∀ r ∈ burnt_areas, r.BurntArea) {r : EffisRecord}
    (hr : r ∈ burnt_areas) :
    ∃ e ∈ db'.hazard_events, e.OpenFire ∧ e.external_id = r.external_id := by
  obtain ⟨rows, hc, ht, _⟩ := execute_ok h
  obtain ⟨row, hrow, hto⟩ := mem_collect hc (List.mem_append_right hotspots hr)
  obtain ⟨last, _, hkey, hlast⟩ := last_with_key_isSome hrow
  have hkr := hkey.trans (to_row_source hto)
  obtain ⟨r', hm', hto', hk'⟩ := collect_row hc (mem_of_mem_deduplicated hlast)
  have hid : r'.external_id = r.external_id := congrArg Prod.snd (hk'.symm.trans hkr)
  -- the last record of the key is a burnt area as well: a hotspot has another prefix
  have hburnt : r'.BurntArea := by
    rcases List.mem_append.mp hm' with hm' | hm'
    · obtain ⟨x, hx⟩ := (hh r' hm').external_id
      obtain ⟨y, hy⟩ := (hb r hr).external_id
      exact absurd (hx.symm.trans (hid.trans hy)) (hs_ne_ba x y)
    · exact hb r' hm'
  have hfound := @upsert_rows_find_mem _ env tx _ db.hazard_events (nodup_keys_deduplicated rows) _ hlast
  obtain ⟨e, hfind, hcase⟩ := hfound
  obtain ⟨he, hke⟩ := Table.find_some_mem hfind
  have hends : e.ends_at = none := by
    rw [← (to_row_window hto').1 hburnt]
    rcases hcase with ⟨⟨o, ho, _, hends⟩, hsame⟩ | ⟨hstored, _⟩
    · rw [ho] at hsame
      exact Option.some.inj hsame ▸ hends
    · exact (congrArg Row.ends_at hstored).trans rfl
  have hke' := hke.trans hkr
  refine ⟨e, ?_, ⟨congrArg Prod.fst hke', hends⟩, congrArg Prod.snd hke'⟩
  rw [ht]
  refine closed_vanished_keeps he (fun hv => ?_)
  exact (mem_vanished.mp hv).2 r hr (congrArg Prod.snd hke').symm

theorem open_served (h : execute env tx hotspots burnt_areas db = .ok (db', result))
    (hh : ∀ r ∈ hotspots, r.Hotspot) (hi : FireInv db) {e : HazardEvent G}
    (he : e ∈ db'.hazard_events) (ho : e.OpenFire) :
    ∃ r ∈ burnt_areas, r.external_id = e.external_id := by
  obtain ⟨rows, hc, ht, _⟩ := execute_ok h
  rw [ht] at he
  rcases mem_closed_vanished he with ⟨hup, hkept⟩ | ⟨_, _, _, _, hends⟩
  · rcases mem_upserted_record hc hup with hold | ⟨r, hr, hid, _, hpoint⟩
    · by_contra hno
      refine hkept ho (mem_vanished.mpr ⟨hi.tracked e hold ho, fun r hr hre => ?_⟩)
      exact hno ⟨r, hr, hre⟩
    · rcases List.mem_append.mp hr with hr | hr
      · exact absurd (ho.2.symm.trans (hpoint (hh r hr))) (by simp)
      · exact ⟨r, hr, hid.symm⟩
  · exact absurd (ho.2.symm.trans hends) (by simp)

theorem hotspot_window (h : execute env tx hotspots burnt_areas db = .ok (db', result))
    (hh : ∀ r ∈ hotspots, r.Hotspot) (hb : ∀ r ∈ burnt_areas, r.BurntArea) (hi : FireInv db)
    {e : HazardEvent G} (he : e ∈ db'.hazard_events) (ho : e.OfHotspot) :
    e.ends_at = some e.starts_at := by
  obtain ⟨rows, hc, ht, _⟩ := execute_ok h
  obtain ⟨x, hx⟩ := ho.2
  rw [ht] at he
  rcases mem_closed_vanished he with ⟨hup, _⟩ | ⟨o, _, hv, hkey, _⟩
  · rcases mem_upserted_record hc hup with hold | ⟨r, hr, hid, _, hpoint⟩
    · exact hi.hotspot e hold ho
    · rcases List.mem_append.mp hr with hr | hr
      · exact hpoint (hh r hr)
      · obtain ⟨y, hy⟩ := (hb r hr).external_id
        exact absurd (hx.symm.trans (hid.trans hy)) (hs_ne_ba x y)
  -- only ids of the cursor are closed, and those are of burnt areas
  · have hid : e.external_id = o.external_id := congrArg Prod.snd hkey
    obtain ⟨y, hy⟩ := hi.cursor _ (mem_vanished.mp hv).1
    exact absurd (hx.symm.trans (hid.trans hy)) (hs_ne_ba x y)

end SyncEffisUseCase

open SyncEffisUseCase

theorem FireInv.execute (hi : FireInv db)
    (h : execute env tx hotspots burnt_areas db = .ok (db', result))
    (hh : ∀ r ∈ hotspots, r.Hotspot) (hb : ∀ r ∈ burnt_areas, r.BurntArea) : FireInv db' where
  unique := by
    have hing : Ingested tx .effis db db' result :=
      @Fetched.execute_ingested _ _ _ _ _ _ (.effis hotspots burnt_areas) h
    exact hing.wrote.change.unique hi.unique
  tracked e he ho := by
    obtain ⟨_, _, _, hstate, _⟩ := execute_ok h
    obtain ⟨r, hr, hid⟩ := open_served h hh hi he ho
    rw [hstate, mem_previous_ids_record_success, ← hid]
    exact List.mem_map_of_mem hr
  cursor id hid := by
    obtain ⟨_, _, _, hstate, _⟩ := execute_ok h
    rw [hstate, mem_previous_ids_record_success] at hid
    obtain ⟨r, hr, rfl⟩ := List.mem_map.mp hid
    exact (hb r hr).external_id
  hotspot _ he ho := hotspot_window h hh hb hi he ho

theorem FireInv.empty : FireInv (Db.empty G) where
  unique := unique_empty
  tracked e he := by simp [Db.empty] at he
  cursor id hid := by
    simp [previous_ids, SourceSyncStateRepo.get, Table.find, Db.empty] at hid
  hotspot e he := by simp [Db.empty] at he

theorem FireInv.frame {db db' : Db G} (hi : FireInv db)
    (hu : Table.Unique HazardEvent.key db'.hazard_events)
    (hrows : ∀ e ∈ db'.hazard_events, e.source = .effis → e ∈ db.hazard_events)
    (hids : previous_ids db'.source_sync_state = previous_ids db.source_sync_state) :
    FireInv db' where
  unique := hu
  tracked e he ho := hids ▸ hi.tracked e (hrows e he ho.1) ho
  cursor id hid := hi.cursor id (hids ▸ hid)
  hotspot e he ho := hi.hotspot e (hrows e he ho.1) ho

theorem Fetched.other_rows {fetched : Fetched} (hne : fetched.source ≠ .effis)
    (h : fetched.execute env tx db = .ok (db', result))
    (hu : Table.Unique HazardEvent.key db.hazard_events) {e : HazardEvent G}
    (he : e ∈ db'.hazard_events) (hs : e.source = .effis) : e ∈ db.hazard_events := by
  have hchange := (Fetched.execute_ingested h).wrote.change
  have hkey : e.key.1 ≠ fetched.source := fun hk => hne (hk.symm.trans hs)
  have hfind := (Table.find_unique (hchange.unique hu)).mpr ⟨he, rfl⟩
  rw [hchange.others e.key hkey] at hfind
  exact (Table.find_some_mem hfind).1

theorem FireInv.step {a : SyncAction} (hi : FireInv db) (hp : a.Parsed)
    (hs : SyncStep env db a db') : FireInv db' := by
  cases hs with
  | @committed tx fetched _ _ result hx =>
      by_cases hsrc : fetched.source = .effis
      · cases fetched with
        | effis hotspots burnt_areas => exact hi.execute hx hp.1 hp.2
        | ign records => simp [Fetched.source] at hsrc
        | aemet warnings => simp [Fetched.source] at hsrc
      · have hing := Fetched.execute_ingested hx
        refine hi.frame (hing.wrote.change.unique hi.unique)
          (fun e he => Fetched.other_rows hsrc hx hi.unique he) ?_
        simp only [previous_ids, hing.state .effis (Ne.symm hsrc)]
  | rolled_back => exact hi
  | failed =>
      exact hi.frame hi.unique (fun _ he _ => he) (previous_ids_record_failure _ _ _ _)

theorem SyncRun.fires {as : List SyncAction} (h : SyncRun env (Db.empty G) as db)
    (hp : ∀ a ∈ as, a.Parsed) : FireInv db := by
  have hall := Transition.Run.history
    (I := fun as (db : Db G) => (∀ a ∈ as, SyncAction.Parsed a) → FireInv db)
    (fun bs _ a _ hi hs hp => (hi (fun b hb => hp b (by simp [hb]))).step (hp a (by simp)) hs) h
    (fun _ => FireInv.empty)
  exact hall hp

theorem open_fires_are_served {as : List SyncAction} (h : SyncRun env (Db.empty G) as db)
    (hs : SyncStep env db (.committed tx (.effis hotspots burnt_areas)) db')
    (hp : ∀ a ∈ as ++ [.committed tx (.effis hotspots burnt_areas)], a.Parsed) :
    (∀ id, (∃ e ∈ db'.hazard_events, e.source = .effis ∧ e.ends_at = none ∧ e.external_id = id) ↔
      ∃ r ∈ burnt_areas, r.external_id = id) ∧
    (∀ e ∈ db'.hazard_events, e.source = .effis → (∃ id, e.external_id = "hs-" ++ id) →
      e.ends_at = some e.starts_at) := by
  have hi := h.fires (fun a ha => hp a (by simp [ha]))
  have hparsed : (∀ r ∈ hotspots, r.Hotspot) ∧ ∀ r ∈ burnt_areas, r.BurntArea :=
    hp (.committed tx (.effis hotspots burnt_areas)) (by simp)
  cases hs with
  | @committed _ _ _ _ result hx =>
      refine ⟨fun id => ⟨?_, ?_⟩, fun e he hsrc hid =>
        hotspot_window hx hparsed.1 hparsed.2 hi he ⟨hsrc, hid⟩⟩
      · rintro ⟨e, he, hsrc, hends, rfl⟩
        exact open_served hx hparsed.1 hi he ⟨hsrc, hends⟩
      · rintro ⟨r, hr, rfl⟩
        obtain ⟨e, he, ho, hid⟩ := served_open hx hparsed.1 hparsed.2 hr
        exact ⟨e, he, ho.1, ho.2, hid⟩

def shaped_env : Env (List (PyFloat × PyFloat)) :=
  { planar_env id with shape := fun _ => some [(⟨0⟩, ⟨0⟩)] }

def burnt (id : String) : EffisRecord := ⟨"ba-" ++ id, .burnt_area, .obj [], july 2 10, none, []⟩

def hotspot (id : String) : EffisRecord := ⟨"hs-" ++ id, .hotspot, .obj [], july 2 10, none, []⟩

theorem burnt_parsed (id : String) : (burnt id).BurntArea := ⟨rfl, id, rfl⟩

theorem hotspot_parsed (id : String) : (hotspot id).Hotspot := ⟨rfl, id, rfl⟩

def fire_out : Db (List (PyFloat × PyFloat)) :=
  ((Db.empty _).after shaped_env (ran_at 1 (july 2 11)) (.effis [hotspot "1"] [burnt "7"])).after
    shaped_env (ran_at 2 (july 2 12)) (.effis [] [burnt "8"])

def to_fire_out : List SyncAction :=
  [.committed (ran_at 1 (july 2 11)) (.effis [hotspot "1"] [burnt "7"]),
    .committed (ran_at 2 (july 2 12)) (.effis [] [burnt "8"])]

theorem fire_out_run : SyncRun shaped_env (Db.empty _) to_fire_out fire_out :=
  .cons (SyncStep.after (by decide)) (.one (SyncStep.after (by decide)))

theorem open_fires_are_served_again :
    (∀ id, (∃ e ∈ (fire_out.after shaped_env (ran_at 3 (july 2 13))
        (.effis [] [burnt "7", burnt "7"])).hazard_events,
          e.source = .effis ∧ e.ends_at = none ∧ e.external_id = id) ↔
      ∃ r ∈ [burnt "7", burnt "7"], r.external_id = id) ∧
    (∀ e ∈ (fire_out.after shaped_env (ran_at 3 (july 2 13))
        (.effis [] [burnt "7", burnt "7"])).hazard_events,
      e.source = .effis → (∃ id, e.external_id = "hs-" ++ id) → e.ends_at = some e.starts_at) := by
  refine open_fires_are_served fire_out_run (SyncStep.after (by decide)) (fun a ha => ?_)
  simp only [to_fire_out, List.cons_append, List.nil_append, List.mem_cons, List.not_mem_nil,
    or_false] at ha
  rcases ha with rfl | rfl | rfl <;>
    simp [SyncAction.Parsed, Fetched.Parsed, burnt_parsed, hotspot_parsed]

end GeoHazard

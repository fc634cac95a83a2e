import GeoHazard.Hazards.ReferenceEnv

namespace GeoHazard

variable {G : Type} {env : Env G} {tx : Tx}

-- a row without ends_at is open at every instant
def HazardEvent.OpenAfter (b : Timestamptz) (e : HazardEvent G) : Prop :=
  ∀ ends, e.ends_at = some ends → b < ends

def OpenAt (b : Timestamptz) (k : Source × String) (t : HazardEventRepo.Rows G) : Prop :=
  ∃ e, Table.find HazardEvent.key k t = some e ∧ e.OpenAfter b

theorem HazardEvent.not_openAfter {b : Timestamptz} {e : HazardEvent G} :
    ¬ e.OpenAfter b ↔ ∃ ends, e.ends_at = some ends ∧ ends ≤ b := by
  simp [HazardEvent.OpenAfter]

theorem HazardEvent.OpenAfter.mono {b c : Timestamptz} {e : HazardEvent G} (h : e.OpenAfter c)
    (hbc : b ≤ c) : e.OpenAfter b :=
  fun ends he => lt_of_le_of_lt hbc (h ends he)

theorem openAt_of_mem {b : Timestamptz} {t : HazardEventRepo.Rows G} {e : HazardEvent G}
    (hu : Table.Unique HazardEvent.key t) (he : e ∈ t) (ho : e.OpenAfter b) : OpenAt b e.key t :=
  ⟨e, (Table.find_unique hu).mpr ⟨he, rfl⟩, ho⟩

namespace HazardEventRepo

theorem openAfter_closed {source : Source} {ids : List String} {ended_at b : Timestamptz}
    {e : HazardEvent G} (hs : e.source = source) (hi : e.external_id ∈ ids) :
    (if open_after source ids ended_at e then HazardEvent.closed tx ended_at e else e).OpenAfter b ↔
      e.OpenAfter b ∧ b < ended_at := by
  cases hx : e.ends_at with
  | none => simp [open_after, hs, hi, hx, HazardEvent.closed, HazardEvent.OpenAfter]
  | some x =>
      by_cases hlt : ended_at < x
      · simp [open_after, hs, hi, hx, hlt, HazardEvent.closed, HazardEvent.OpenAfter]
        exact fun h => h.trans hlt
      · simp [open_after, hs, hi, hx, hlt, HazardEvent.OpenAfter]
        exact fun h => lt_of_lt_of_le h (not_lt.mp hlt)

theorem openAt_closed_rows {source : Source} {ids : List String} {ended_at b : Timestamptz}
    {k : Source × String} (t : Rows G) :
    OpenAt b k (closed_rows tx source ids ended_at t).1 ↔
      OpenAt b k t ∧ (k.1 = source → k.2 ∈ ids → b < ended_at) := by
  simp only [OpenAt, find_closed_rows]
  cases hf : Table.find HazardEvent.key k t with
  | none => simp
  | some e =>
      have hek := (Table.find_some_mem hf).2
      have hsrc : e.source = k.1 := congrArg Prod.fst hek
      have hid : e.external_id = k.2 := congrArg Prod.snd hek
      simp only [Option.map_some, Option.some.injEq, exists_eq_left']
      by_cases hk : k.1 = source ∧ k.2 ∈ ids
      · rw [openAfter_closed (hsrc.trans hk.1) (hid ▸ hk.2)]
        simp [hk.1, hk.2]
      · have ho : open_after source ids ended_at e = false := by
          simp only [open_after, hsrc, hid, Bool.and_eq_false_iff, decide_eq_false_iff_not]
          exact .inl (not_and_or.mp hk)
        simp only [ho, Bool.false_eq_true, if_false, iff_self_and]
        exact fun _ hs hi => absurd ⟨hs, hi⟩ hk

end HazardEventRepo

namespace SyncAemetUseCase

open HazardEventRepo

def Supersedes (m : AemetWarning) (r : String) : Prop :=
  (m.msg_type = MSG_TYPE_UPDATE ∨ m.msg_type = MSG_TYPE_CANCEL) ∧ r ∈ m.references

theorem supersedes_iff {m : AemetWarning} {r : String} :
    Supersedes m r ↔ supersedes m = true ∧ r ∈ m.references := by
  simp only [Supersedes, supersedes, Bool.and_eq_true, Bool.or_eq_true, beq_iff_eq,
    Bool.not_eq_true', List.isEmpty_eq_false_iff]
  constructor
  · rintro ⟨hm, hr⟩
    exact ⟨⟨hm, List.ne_nil_of_mem hr⟩, hr⟩
  · rintro ⟨⟨hm, _⟩, hr⟩
    exact ⟨hm, hr⟩

def add_references (d : List (Timestamptz × List String)) (w : AemetWarning) :
    List (Timestamptz × List String) :=
  Dict.set w.sent.instant ((Dict.get w.sent.instant d).getD [] ++ w.references) d

theorem by_sent_eq (warnings : List AemetWarning) :
    by_sent warnings = (warnings.filter supersedes).foldl add_references [] := rfl

theorem mem_add_references {sent : Timestamptz} {r : String} {ws : List AemetWarning}
    (d : List (Timestamptz × List String)) :
    r ∈ (Dict.get sent (ws.foldl add_references d)).getD [] ↔
      r ∈ (Dict.get sent d).getD [] ∨ ∃ w ∈ ws, w.sent.instant = sent ∧ r ∈ w.references := by
  induction ws generalizing d with
  | nil => simp
  | cons w ws ih =>
      rw [List.foldl_cons, ih]
      by_cases hs : w.sent.instant = sent
      · subst hs
        simp only [add_references, Dict.get_set_self, Option.getD_some, List.mem_append,
          List.mem_cons, exists_eq_or_imp, true_and, or_assoc]
      · simp only [add_references, Dict.get_set_other hs, List.mem_cons, exists_eq_or_imp, hs,
          false_and, false_or]

theorem nodup_keys_add_references {ws : List AemetWarning} {d : List (Timestamptz × List String)}
    (h : (Dict.keys d).Nodup) : (Dict.keys (ws.foldl add_references d)).Nodup := by
  induction ws generalizing d with
  | nil => exact h
  | cons w ws ih => exact ih (Dict.nodup_keys_set h)

theorem mem_by_sent {sent : Timestamptz} {r : String} {warnings : List AemetWarning} :
    (∃ ids, (sent, ids) ∈ by_sent warnings ∧ r ∈ ids) ↔
      ∃ m ∈ warnings, Supersedes m r ∧ m.sent.instant = sent := by
  have hn : (Dict.keys (by_sent warnings)).Nodup := nodup_keys_add_references (by simp [Dict.keys])
  have hm := @mem_add_references sent r (warnings.filter supersedes) []
  rw [← by_sent_eq] at hm
  simp only [Dict.get_nil, Option.getD_none, List.not_mem_nil, false_or, List.mem_filter] at hm
  simp only [← Dict.get_iff hn, supersedes_iff]
  constructor
  · rintro ⟨ids, hg, hr⟩
    obtain ⟨m, ⟨hw, hs⟩, he, hr⟩ := hm.mp (by simpa [hg] using hr)
    exact ⟨m, hw, ⟨hs, hr⟩, he⟩
  · rintro ⟨m, hw, ⟨hs, hr⟩, he⟩
    have hg := hm.mpr ⟨m, ⟨hw, hs⟩, he, hr⟩
    cases hd : Dict.get sent (by_sent warnings) with
    | none => simp [hd] at hg
    | some ids => exact ⟨ids, rfl, by simpa [hd] using hg⟩

theorem mem_group {warnings : List AemetWarning} {g : Timestamptz × List String}
    (hg : g ∈ by_sent warnings) {r : String} :
    r ∈ g.2 ↔ ∃ m ∈ warnings, Supersedes m r ∧ m.sent.instant = g.1 := by
  rw [← mem_by_sent]
  refine ⟨fun hr => ⟨g.2, hg, hr⟩, fun ⟨ids, hids, hr⟩ => ?_⟩
  have hn : (Dict.keys (by_sent warnings)).Nodup := nodup_keys_add_references (by simp [Dict.keys])
  have hsame := ((Dict.get_iff hn).mpr hids).symm.trans ((Dict.get_iff hn).mpr hg)
  exact Option.some.inj hsame ▸ hr

theorem openAt_closed_groups {groups : List (Timestamptz × List String)} {b : Timestamptz}
    {id : String} (t : Rows G) :
    OpenAt b (.aemet, id) (closed_groups tx groups t).1 ↔
      OpenAt b (.aemet, id) t ∧ ∀ g ∈ groups, id ∈ g.2 → b < g.1 := by
  induction groups generalizing t with
  | nil => simp [closed_groups]
  | cons g groups ih =>
      simp only [closed_groups, ih, openAt_closed_rows, List.mem_cons, forall_eq_or_imp,
        true_imp_iff, and_assoc]

theorem openAt_closed_superseded {warnings : List AemetWarning} {b : Timestamptz} {id : String}
    (t : Rows G) :
    OpenAt b (.aemet, id) (closed_superseded tx warnings t).1 ↔
      OpenAt b (.aemet, id) t ∧ ∀ m ∈ warnings, Supersedes m id → b < m.sent.instant := by
  rw [closed_superseded, openAt_closed_groups]
  refine and_congr_right (fun _ => ⟨fun h m hm hs => ?_, fun h g hg hi => ?_⟩)
  · obtain ⟨ids, hg, hi⟩ := mem_by_sent.mpr ⟨m, hm, hs, rfl⟩
    exact h _ hg hi
  · obtain ⟨m, hm, hs, he⟩ := mem_by_sent.mp ⟨g.2, hg, hi⟩
    exact he ▸ h m hm hs

theorem mem_cursor_ids {field x : String} {ids : List String} :
    x ∈ cursor_ids field (cursor_of field ids).canon ↔ x ∈ ids := by
  simp only [cursor_of, Json.canon_obj, List.map_cons, List.map_nil, Json.sortKeys,
    List.insertionSort_cons, List.insertionSort_nil, List.orderedInsert_nil, cursor_ids, Dict.get,
    if_true, Json.canon,
    Json.canonList_eq_map, List.map_map, List.mem_filterMap, List.mem_map, Function.comp]
  constructor
  · rintro ⟨_, ⟨y, hy, rfl⟩, he⟩
    simp only [Option.some.injEq] at he
    exact he ▸ (List.mem_insertionSort _).mp hy
  · intro hx
    exact ⟨_, ⟨x, (List.mem_insertionSort _).mpr hx, rfl⟩, rfl⟩

theorem mem_vanished {states : List SourceSyncState} {ingestible : List AemetWarning} {id : String} :
    id ∈ vanished states ingestible ↔
      id ∈ previous_ids states ∧ ∀ w ∈ ingestible, w.external_id ≠ id := by
  simp [vanished]

theorem previous_ids_eq (states : List SourceSyncState) :
    previous_ids states = cursor_ids "identifiers"
      (((SourceSyncStateRepo.get .aemet states).map SourceSyncState.cursor).getD (.obj [])) := by
  unfold previous_ids
  cases SourceSyncStateRepo.get .aemet states with
  | none => rfl
  | some s => rfl

theorem previous_ids_record_failure (source : Source) (error : String) (now : Timestamptz)
    (states : List SourceSyncState) :
    previous_ids (SourceSyncStateRepo.record_failure source error now states) =
      previous_ids states := by
  rw [previous_ids_eq, previous_ids_eq, SourceSyncStateRepo.cursor_record_failure]

theorem mem_previous_ids_record_success {ids : List String} {now : Timestamptz}
    {states : List SourceSyncState} {id : String} :
    id ∈ previous_ids (SourceSyncStateRepo.record_success .aemet
      (some (cursor_of "identifiers" ids)) now states) ↔ id ∈ ids := by
  obtain ⟨s, hg, hc⟩ := SourceSyncStateRepo.get_record_success_self .aemet
    (cursor_of "identifiers" ids) now states
  rw [previous_ids, hg, Option.map_some, Option.getD_some, hc, mem_cursor_ids]

theorem collect_key {ws : List AemetWarning} {rows : List (Row G)}
    (h : collect (to_row env) ws = .ok rows) {row : Row G} (hr : row ∈ rows) :
    ∃ w ∈ ws, row.key = (.aemet, w.external_id) := by
  obtain ⟨w, hw, he⟩ := collect_mem h hr
  exact ⟨w, hw, to_row_source he⟩

variable {db db' : Db G} {result : SyncResult} {warnings : List AemetWarning}

theorem openAt_execute (h : execute env tx warnings db = .ok (db', result)) :
    ∃ rows, collect (to_row env) (warnings.filter is_ingestible) = .ok rows ∧
      ∀ b id, OpenAt b (.aemet, id) db'.hazard_events ↔
        OpenAt b (.aemet, id) (upserted env tx rows db.hazard_events) ∧
          (∀ m ∈ warnings, Supersedes m id → b < m.sent.instant) ∧
          (id ∈ vanished db.source_sync_state (warnings.filter is_ingestible) → b < tx.mark) := by
  obtain ⟨rows, hr, ht, _⟩ := execute_ok h
  refine ⟨rows, hr, fun b id => ?_⟩
  rw [ht, closed_vanished, openAt_closed_rows, openAt_closed_superseded, and_assoc]
  simp [Tx.mark]

theorem execute_open_ingestible (h : execute env tx warnings db = .ok (db', result))
    (hcursor : ∀ id, OpenAt tx.mark (.aemet, id) db.hazard_events →
      id ∈ previous_ids db.source_sync_state) {id : String}
    (ho : OpenAt tx.mark (.aemet, id) db'.hazard_events) :
    ∃ w ∈ warnings.filter is_ingestible, w.external_id = id := by
  obtain ⟨rows, hr, hopen⟩ := openAt_execute h
  obtain ⟨hup, _, hvan⟩ := (hopen _ _).mp ho
  by_contra hno
  have hkey : ∀ row ∈ deduplicated rows, row.key ≠ (.aemet, id) := by
    intro row hrow he
    obtain ⟨w, hw, hk⟩ := collect_key hr (mem_of_mem_deduplicated hrow)
    exact hno ⟨w, hw, (Prod.mk.inj (hk.symm.trans he)).2⟩
  have hold : OpenAt tx.mark (.aemet, id) db.hazard_events := by
    simpa only [OpenAt, upserted, upsert_rows_find_other hkey] using hup
  have hv := hvan (mem_vanished.mpr ⟨hcursor id hold, fun w hw he => hno ⟨w, hw, he⟩⟩)
  exact lt_irrefl _ hv

theorem execute_superseded_closed (h : execute env tx warnings db = .ok (db', result))
    {m : AemetWarning} (hm : m ∈ warnings) {r : String} (hs : Supersedes m r) :
    ¬ OpenAt m.sent.instant (.aemet, r) db'.hazard_events := by
  obtain ⟨rows, _, hopen⟩ := openAt_execute h
  intro ho
  exact lt_irrefl _ (((hopen _ _).mp ho).2.1 m hm hs)

end SyncAemetUseCase

open SyncAemetUseCase

-- every warning still open after all the committed marks is in the stored cursor
def Tracked (as : List SyncAction) (db : Db G) : Prop :=
  (marks .aemet as).Pairwise (· ≤ ·) → ∀ b id, (∀ m ∈ marks .aemet as, m ≤ b) →
    OpenAt b (.aemet, id) db.hazard_events → id ∈ previous_ids db.source_sync_state

theorem Tracked.ingested {as : List SyncAction} {db db' : Db G} {fetched : Fetched} {tx : Tx}
    {result : SyncResult} (h : Tracked as db)
    (hs : fetched.execute env tx db = .ok (db', result)) (hne : fetched.source ≠ .aemet) :
    Tracked (as ++ [.committed tx fetched]) db' := by
  have hi := Fetched.execute_ingested hs
  intro hp b id hb ho
  rw [marks_append, marks_committed_other tx hne, List.append_nil] at hp hb
  have hold : OpenAt b (.aemet, id) db.hazard_events := by
    simpa only [OpenAt, hi.wrote.change.others (.aemet, id) (Ne.symm hne)] using ho
  simpa only [previous_ids, hi.state .aemet (Ne.symm hne)] using h hp b id hb hold

theorem Tracked.step {as : List SyncAction} {db db' : Db G} {a : SyncAction}
    (h : Tracked as db) (hs : SyncStep env db a db') : Tracked (as ++ [a]) db' := by
  cases hs with
  | @committed tx fetched _ _ result hx =>
      cases fetched with
      | effis hotspots burnt_areas =>
          exact h.ingested hx (by simp [Fetched.source])
      | ign records => exact h.ingested hx (by simp [Fetched.source])
      | aemet warnings =>
          intro hp b id hb ho
          rw [marks_append, marks_committed tx (by rfl)] at hp hb
          obtain ⟨hp, _, hlast⟩ := List.pairwise_append.mp hp
          have hcursor : ∀ id, OpenAt tx.mark (.aemet, id) db.hazard_events →
              id ∈ previous_ids db.source_sync_state :=
            fun id => h hp tx.mark id (fun m hm => hlast m hm tx.mark (by simp))
          have hopen : OpenAt tx.mark (.aemet, id) db'.hazard_events := by
            obtain ⟨e, he, hoe⟩ := ho
            exact ⟨e, he, hoe.mono (hb tx.mark (by simp))⟩
          obtain ⟨w, hw, hid⟩ := execute_open_ingestible hx hcursor hopen
          obtain ⟨_, _, _, hstate, _⟩ := execute_ok hx
          rw [hstate, mem_previous_ids_record_success]
          exact hid ▸ List.mem_map_of_mem hw
  | rolled_back => simpa [Tracked, marks_append, marks] using h
  | failed source error now =>
      simpa [Tracked, marks_append, marks, previous_ids_record_failure] using h

theorem SyncRun.tracked {db : Db G} {as : List SyncAction} (h : SyncRun env (Db.empty G) as db) :
    Tracked as db :=
  Transition.Run.history (I := Tracked) (fun _ _ _ _ hi hs => hi.step hs) h
    (fun _ b id _ ho => by simp [OpenAt, Db.empty, Table.find] at ho)

theorem superseded_or_vanished_never_open {as : List SyncAction} {db db' : Db G} {tx : Tx}
    {warnings : List AemetWarning} (h : SyncRun env (Db.empty G) as db)
    (hs : SyncStep env db (.committed tx (.aemet warnings)) db')
    (hmarks : (marks .aemet (as ++ [.committed tx (.aemet warnings)])).Pairwise (· ≤ ·)) :
    (∀ e ∈ db'.hazard_events, e.source = .aemet → e.OpenAfter tx.mark →
      ∃ w ∈ warnings, is_ingestible w = true ∧ w.external_id = e.external_id) ∧
    (∀ m ∈ warnings, m.msg_type = MSG_TYPE_UPDATE ∨ m.msg_type = MSG_TYPE_CANCEL →
      ∀ r ∈ m.references, ∀ e ∈ db'.hazard_events, e.source = .aemet → e.external_id = r →
        ∃ ends, e.ends_at = some ends ∧ ends ≤ m.sent.instant) := by
  have hu := hs.unique (h.unique unique_empty)
  cases hs with
  | @committed _ _ _ _ result hx =>
      constructor
      · intro e he hsrc ho
        have hk : e.key = (.aemet, e.external_id) := by rw [← hsrc]; rfl
        have hopen := hk ▸ openAt_of_mem hu he ho
        rw [marks_append, marks_committed tx (by rfl)] at hmarks
        obtain ⟨hp, _, hlast⟩ := List.pairwise_append.mp hmarks
        obtain ⟨w, hw, hid⟩ := execute_open_ingestible hx
          (fun id => h.tracked hp tx.mark id (fun m hm => hlast m hm tx.mark (by simp))) hopen
        exact ⟨w, (List.mem_filter.mp hw).1, (List.mem_filter.mp hw).2, hid⟩
      · intro m hm ht r hr e he hsrc hid
        have hk : e.key = (.aemet, r) := by rw [← hsrc, ← hid]; rfl
        have hno := execute_superseded_closed hx hm ⟨ht, hr⟩
        exact HazardEvent.not_openAfter.mp (fun ho => hno (hk ▸ openAt_of_mem hu he ho))

theorem superseded_or_vanished_never_open_update :
    (∀ e ∈ replaced.hazard_events, e.source = .aemet → e.OpenAfter (ran_at 2 (july 2 13)).mark →
      ∃ w ∈ update_bulletin, is_ingestible w = true ∧ w.external_id = e.external_id) ∧
    (∀ m ∈ update_bulletin, m.msg_type = MSG_TYPE_UPDATE ∨ m.msg_type = MSG_TYPE_CANCEL →
      ∀ r ∈ m.references, ∀ e ∈ replaced.hazard_events, e.source = .aemet → e.external_id = r →
        ∃ ends, e.ends_at = some ends ∧ ends ≤ m.sent.instant) :=
  superseded_or_vanished_never_open (.one alerted_step) replaced_step (by decide +kernel)

end GeoHazard

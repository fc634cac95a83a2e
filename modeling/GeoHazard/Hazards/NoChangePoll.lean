import GeoHazard.Hazards.AemetLifecycle
import Mathlib.Data.List.Forall2

namespace GeoHazard

variable {G : Type} {env : Env G} {tx tx' : Tx} {db db' : Db G} {result : SyncResult}

theorem find?_forall₂ {α β : Type} {R : α → β → Prop} {p : α → Bool} {q : β → Bool}
    (hpq : ∀ x y, R x y → p x = q y) {xs : List α} {ys : List β} (h : List.Forall₂ R xs ys) :
    (xs.find? p = none ∧ ys.find? q = none) ∨
      ∃ x y, xs.find? p = some x ∧ ys.find? q = some y ∧ R x y := by
  induction h with
  | nil => exact .inl ⟨rfl, rfl⟩
  | @cons x y xs ys hxy _ ih =>
      by_cases hp : p x = true
      · exact .inr ⟨x, y, by simp [hp], by simp [← hpq x y hxy, hp], hxy⟩
      · simpa [hp, ← hpq x y hxy] using ih

namespace SyncAemetUseCase

open HazardEventRepo

def last_ingestible (id : String) (warnings : List AemetWarning) : Option AemetWarning :=
  (warnings.filter is_ingestible).reverse.find? (fun w => decide (w.external_id = id))

-- no message of the bulletin cuts short a warning that the same bulletin serves
def Settled (warnings : List AemetWarning) : Prop :=
  ∀ m ∈ warnings, ∀ r, Supersedes m r → ∀ w, last_ingestible r warnings = some w →
    ∀ expires, w.expires = some expires → expires.instant ≤ m.sent.instant

def NoOp (env : Env G) (tx : Tx) (warnings : List AemetWarning) (db : Db G) : Prop :=
  ∃ db', execute env tx warnings db = .ok (db', ⟨0, 0, 0⟩) ∧
    db'.hazard_events = db.hazard_events ∧ db'.outbox_events = db.outbox_events

theorem to_row_ends_at {w : AemetWarning} {row : Row G} (h : to_row env w = .ok row) :
    ∃ expires, w.expires = some expires ∧ row.ends_at = some expires.instant := by
  obtain ⟨_, _, _, expires, _, _, _, _, he, _, _, rfl⟩ := to_row_ok h
  exact ⟨expires, he, rfl⟩

theorem last_with_key_eq {warnings : List AemetWarning} {rows : List (Row G)}
    (h : collect (to_row env) (warnings.filter is_ingestible) = .ok rows) (id : String) :
    (last_ingestible id warnings = none ∧ last_with_key (.aemet, id) rows = none) ∨
    ∃ w row, last_ingestible id warnings = some w ∧ last_with_key (.aemet, id) rows = some row ∧
      to_row env w = .ok row := by
  refine find?_forall₂ (fun w row hw => ?_) (List.forall₂_reverse_iff.mpr (collect_forall₂ h))
  simp [to_row_source hw]

theorem settled_iff {warnings : List AemetWarning} {rows : List (Row G)}
    (h : collect (to_row env) (warnings.filter is_ingestible) = .ok rows) :
    Settled warnings ↔ ∀ row ∈ deduplicated rows, ∀ m ∈ warnings,
      Supersedes m row.external_id → ∀ ends, row.ends_at = some ends → ends ≤ m.sent.instant := by
  constructor
  · intro hs row hrow m hm hsup ends hends
    obtain ⟨_, _, hkey⟩ := collect_key h (mem_of_mem_deduplicated hrow)
    have hk : row.key = (.aemet, row.external_id) := by
      rw [hkey]
      exact congrArg (Prod.mk _) (Prod.mk.inj hkey).2.symm
    have hlast := mem_deduplicated.mp hrow
    rw [hk] at hlast
    rcases last_with_key_eq h row.external_id with ⟨_, hn⟩ | ⟨w, row', hw, hr, hto⟩
    · simp [hn] at hlast
    · obtain rfl := Option.some.inj (hr.symm.trans hlast)
      obtain ⟨expires, hx, hre⟩ := to_row_ends_at hto
      have hle := hs m hm _ hsup w hw expires hx
      rw [hre] at hends
      exact Option.some.inj hends ▸ hle
  · intro hrows m hm r hsup w hw expires hx
    rcases last_with_key_eq h r with ⟨hn, _⟩ | ⟨w', row, hw', hr, hto⟩
    · simp [hn] at hw
    · obtain rfl := Option.some.inj (hw'.symm.trans hw)
      obtain ⟨expires', hx', hre⟩ := to_row_ends_at hto
      obtain rfl := Option.some.inj (hx'.symm.trans hx)
      have hkey : row.key = (.aemet, r) := by simpa using List.find?_some hr
      have hid : row.external_id = r := (Prod.mk.inj hkey).2
      exact hrows row (mem_deduplicated.mpr (hkey ▸ hr)) m hm (hid ▸ hsup) _ hre

theorem upserted_current {rows : List (Row G)} {t : Rows G} {row : Row G}
    (h : row ∈ deduplicated rows) : Current row (upserted env tx rows t) := by
  obtain ⟨e, he, hcase⟩ := @upsert_rows_find_mem _ env tx _ t (nodup_keys_deduplicated rows) _ h
  rcases hcase with ⟨⟨old, ho, hh, hx⟩, hf⟩ | ⟨hrow, _⟩
  · obtain rfl := Option.some.inj (ho.symm.trans hf)
    exact ⟨old, he, hh, hx⟩
  · exact ⟨e, he, by rw [hrow]; rfl, by rw [hrow]; rfl⟩

theorem closed_rows_keeps {source : Source} {ids : List String} {ended_at : Timestamptz}
    {k : Source × String} {e : HazardEvent G} {t : Rows G}
    (he : Table.find HazardEvent.key k t = some e)
    (h : k.1 = source → k.2 ∈ ids → ¬ e.OpenAfter ended_at) :
    Table.find HazardEvent.key k (closed_rows tx source ids ended_at t).1 = some e := by
  have hek := (Table.find_some_mem he).2
  have ho : open_after source ids ended_at e = false := by
    by_contra hne
    simp only [Bool.not_eq_false, open_after, Bool.and_eq_true, decide_eq_true_eq] at hne
    refine h (hek ▸ hne.1.1) (hek ▸ hne.1.2) (fun ends hx => ?_)
    simpa [hx] using hne.2
  simp [find_closed_rows, he, ho]

theorem closed_groups_keeps {groups : List (Timestamptz × List String)} {id : String}
    {e : HazardEvent G} {t : Rows G} (he : Table.find HazardEvent.key (.aemet, id) t = some e)
    (h : ∀ g ∈ groups, id ∈ g.2 → ¬ e.OpenAfter g.1) :
    Table.find HazardEvent.key (.aemet, id) (closed_groups tx groups t).1 = some e := by
  induction groups generalizing t with
  | nil => exact he
  | cons g groups ih =>
      exact ih (closed_rows_keeps he (fun _ => h g (by simp)))
        (fun g' hg' => h g' (by simp [hg']))

theorem closed_groups_noop {groups : List (Timestamptz × List String)} {t : Rows G}
    (h : ∀ e ∈ t, ∀ g ∈ groups, open_after .aemet g.2 g.1 e = false) :
    closed_groups tx groups t = (t, 0) := by
  induction groups with
  | nil => rfl
  | cons g groups ih =>
      have hg : ∀ e ∈ t, open_after .aemet g.2 g.1 e = false := fun e he => h e he g (by simp)
      have h0 : t.countP (open_after .aemet g.2 g.1) = 0 :=
        List.countP_eq_zero.mpr (fun e he => by simp [hg e he])
      simp only [closed_groups, closed_rows, Table.update_eq_self hg, h0,
        ih (fun e he g' hg' => h e he g' (by simp [hg']))]

variable {warnings : List AemetWarning}

theorem execute_current (h : execute env tx warnings db = .ok (db', result)) {rows : List (Row G)}
    (hr : collect (to_row env) (warnings.filter is_ingestible) = .ok rows) {row : Row G}
    (hrow : row ∈ deduplicated rows)
    (hopen : ∀ m ∈ warnings, Supersedes m row.external_id →
      ∀ ends, row.ends_at = some ends → ends ≤ m.sent.instant) :
    Current row db'.hazard_events := by
  obtain ⟨rows', hr', ht, _⟩ := execute_ok h
  obtain rfl := Except.ok.inj (hr'.symm.trans hr)
  obtain ⟨w, hw, hkey⟩ := collect_key hr (mem_of_mem_deduplicated hrow)
  obtain ⟨e, he, hh, hx⟩ := @upserted_current _ env tx _ db.hazard_events _ hrow
  have hid : row.external_id = w.external_id := (Prod.mk.inj hkey).2
  have hends : row.ends_at ≠ none := by
    obtain ⟨w', _, hto⟩ := collect_mem hr (mem_of_mem_deduplicated hrow)
    obtain ⟨_, _, hre⟩ := to_row_ends_at hto
    simp [hre]
  have hsent : ∀ m ∈ warnings, Supersedes m row.external_id → ¬ e.OpenAfter m.sent.instant := by
    intro m hm hsup
    rw [HazardEvent.not_openAfter]
    obtain ⟨ends, hre⟩ := Option.ne_none_iff_exists'.mp hends
    exact ⟨ends, hx.trans hre, hopen m hm hsup ends hre⟩
  rw [hkey, ← hid] at he
  have hgroups := @closed_groups_keeps _ tx (by_sent warnings) _ _ _ he
    (fun g hg hi => by
      obtain ⟨m, hm, hsup, hs⟩ := mem_by_sent.mp ⟨g.2, hg, hi⟩
      exact hs ▸ hsent m hm hsup)
  refine ⟨e, ?_, hh, hx⟩
  rw [ht, hkey, ← hid]
  refine closed_rows_keeps hgroups (fun _ hv => absurd (mem_vanished.mp hv).2 ?_)
  exact fun hno => hno w hw hid.symm

theorem noop_of_current {rows : List (Row G)} (hu : Table.Unique HazardEvent.key db.hazard_events)
    (hr : collect (to_row env) (warnings.filter is_ingestible) = .ok rows)
    (hstorable : Storable rows) (hcloses : ∀ g ∈ by_sent warnings, Closable g.2)
    (hcur : ∀ row ∈ deduplicated rows, Current row db.hazard_events)
    (hclosed : ∀ m ∈ warnings, ∀ r, Supersedes m r →
      ¬ OpenAt m.sent.instant (.aemet, r) db.hazard_events)
    (hvan : vanished db.source_sync_state (warnings.filter is_ingestible) = []) :
    NoOp env tx warnings db := by
  have hup : upserted env tx rows db.hazard_events = db.hazard_events := by
    rw [upserted, upsert_rows_current hcur]
  have hsup : closed_superseded tx warnings db.hazard_events = (db.hazard_events, 0) := by
    refine closed_groups_noop (fun e he g hg => ?_)
    by_contra ho
    simp only [Bool.not_eq_false, open_after, Bool.and_eq_true, decide_eq_true_eq] at ho
    obtain ⟨m, hm, hs, hsent⟩ := mem_by_sent.mp ⟨g.2, hg, ho.1.2⟩
    have hkey : e.key = (.aemet, e.external_id) := congrArg (·, e.external_id) ho.1.1
    refine hclosed m hm _ hs (hkey ▸ openAt_of_mem hu he (fun ends hx => ?_))
    simpa [hx, hsent] using ho.2
  refine ⟨⟨db.hazard_events, SourceSyncStateRepo.record_success .aemet (some (cursor_of
    "identifiers" ((warnings.filter is_ingestible).map AemetWarning.external_id))) tx.clock
    db.source_sync_state, db.outbox_events⟩, ?_, rfl, rfl⟩
  have hnone : Closable (vanished db.source_sync_state (warnings.filter is_ingestible)) :=
    hvan ▸ .nil
  refine execute_iff.mpr ⟨rows, hr, hstorable, ⟨hcloses, hnone⟩, ?_⟩
  simp [executed, hup, inserted, updated, upsert_rows_current hcur, hsup, closed_vanished, hvan,
    closed_rows_nil, outbox_after, SyncResult.changed]

theorem current_of_noop {rows : List (Row G)}
    (hr : collect (to_row env) (warnings.filter is_ingestible) = .ok rows)
    (h : NoOp env tx warnings db) : ∀ row ∈ deduplicated rows, Current row db.hazard_events := by
  obtain ⟨db', hx, _, _⟩ := h
  obtain ⟨rows', hr', _, _, hi, hu, _⟩ := execute_ok hx
  obtain rfl := Except.ok.inj (hr'.symm.trans hr)
  refine (@upsert_rows_no_flags _ env tx _ _).mp (List.eq_nil_of_length_eq_zero ?_)
  have hle := List.count_le_length (a := true)
    (l := (upsert_rows env tx (deduplicated rows') db.hazard_events).2)
  simp only [inserted, updated] at hi hu
  omega

end SyncAemetUseCase

open SyncAemetUseCase HazardEventRepo

theorem second_poll_noop_iff {as : List SyncAction} {db₀ db : Db G} {tx tx' : Tx}
    {warnings : List AemetWarning} (h : SyncRun env (Db.empty G) as db₀)
    (hs : SyncStep env db₀ (.committed tx (.aemet warnings)) db) :
    NoOp env tx' warnings db ↔ Settled warnings := by
  have hu := hs.unique (h.unique unique_empty)
  cases hs with
  | @committed _ _ _ _ result hx =>
      obtain ⟨rows, hr, hstorable, hcloses, _⟩ := execute_iff.mp hx
      obtain ⟨_, _, _, hstate, _⟩ := execute_ok hx
      rw [settled_iff hr]
      constructor
      · intro hno row hrow m hm hsup ends hends
        obtain ⟨e, he, _, hends'⟩ := current_of_noop hr hno row hrow
        obtain ⟨_, _, hkey⟩ := collect_key hr (mem_of_mem_deduplicated hrow)
        have hk : row.key = (.aemet, row.external_id) := by
          rw [hkey]
          exact congrArg (Prod.mk _) (Prod.mk.inj hkey).2.symm
        by_contra hlt
        refine execute_superseded_closed hx hm hsup ⟨e, hk ▸ he, fun x hx' => ?_⟩
        rw [hends', hends] at hx'
        exact Option.some.inj hx' ▸ not_le.mp hlt
      · intro hrows
        refine noop_of_current hu hr hstorable hcloses.superseded (fun row hrow => ?_)
          (fun m hm r hsup => ?_) ?_
        · exact execute_current hx hr hrow (hrows row hrow)
        · exact execute_superseded_closed hx hm hsup
        · refine List.eq_nil_iff_forall_not_mem.mpr (fun id hv => ?_)
          obtain ⟨hp, hno⟩ := mem_vanished.mp hv
          rw [hstate, mem_previous_ids_record_success] at hp
          obtain ⟨w, hw, hid⟩ := List.mem_map.mp hp
          exact hno w hw hid

theorem second_poll_noop_iff_alerted :
    NoOp (planar_env id) (ran_at 2 (july 2 13)) alert_bulletin alerted ↔ Settled alert_bulletin :=
  second_poll_noop_iff (.nil _) alerted_step

-- A is served and cancelled by one bulletin: each poll reopens it and closes it again
def served_and_cancelled : List AemetWarning :=
  [yellow "A" MSG_TYPE_ALERT (july 2 10) (july 3 10) [],
    yellow "C" MSG_TYPE_CANCEL (july 2 12) (july 3 12) ["A"]]

def cancelled : Db (List (PyFloat × PyFloat)) :=
  (Db.empty _).after (planar_env id) (ran_at 1 (july 2 13)) (.aemet served_and_cancelled)

theorem cancelled_step : SyncStep (planar_env id) (Db.empty _)
    (.committed (ran_at 1 (july 2 13)) (.aemet served_and_cancelled)) cancelled :=
  SyncStep.after (by decide)

theorem cancelled_second_poll : (execute (planar_env id) (ran_at 2 (july 2 14))
    served_and_cancelled cancelled).map Prod.snd = .ok ⟨0, 1, 1⟩ := by
  decide +kernel

theorem second_poll_not_always_noop :
    ¬ ∀ (as : List SyncAction) (db₀ db : Db (List (PyFloat × PyFloat))) (tx tx' : Tx)
      (warnings : List AemetWarning), SyncRun (planar_env id) (Db.empty _) as db₀ →
      SyncStep (planar_env id) db₀ (.committed tx (.aemet warnings)) db →
      NoOp (planar_env id) tx' warnings db := by
  intro hall
  obtain ⟨db', hx, _, _⟩ := hall [] _ _ _ (ran_at 2 (july 2 14)) _ (.nil _) cancelled_step
  have hr := cancelled_second_poll
  rw [hx] at hr
  simp [Except.map] at hr

end GeoHazard

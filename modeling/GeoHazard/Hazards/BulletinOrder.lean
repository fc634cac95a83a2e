import GeoHazard.Hazards.NoChangePoll
import Mathlib.Data.List.Perm.Basic
import Mathlib.Logic.Function.Basic

namespace GeoHazard

variable {G : Type} {env : Env G} {tx : Tx}

def HazardEvent.unnumbered (e : HazardEvent G) : HazardEvent G := { e with id := 0 }

-- what is at each key, but for the generated ids
def served (t : HazardEventRepo.Rows G) (k : Source × String) : Option (HazardEvent G) :=
  (Table.find HazardEvent.key k t).map HazardEvent.unnumbered

namespace HazardEventRepo

theorem openAt_served {b : Timestamptz} {k : Source × String} {t : Rows G} :
    OpenAt b k t ↔ ∃ e, served t k = some e ∧ e.OpenAfter b := by
  simp only [OpenAt, served, Option.map_eq_some_iff]
  constructor
  · rintro ⟨e, he, ho⟩
    exact ⟨e.unnumbered, ⟨e, he, rfl⟩, ho⟩
  · rintro ⟨_, ⟨e, he, rfl⟩, ho⟩
    exact ⟨e, he, ho⟩

theorem mem_unnumbered {t : Rows G} (hu : Table.Unique HazardEvent.key t) {e : HazardEvent G} :
    e ∈ t.map HazardEvent.unnumbered ↔ served t e.key = some e := by
  simp only [List.mem_map, served, Option.map_eq_some_iff]
  constructor
  · rintro ⟨e, he, rfl⟩
    exact ⟨e, (Table.find_unique hu).mpr ⟨he, rfl⟩, rfl⟩
  · rintro ⟨e', he, rfl⟩
    exact ⟨e', (Table.find_some_mem he).1, rfl⟩

theorem nodup_unnumbered {t : Rows G} (hu : Table.Unique HazardEvent.key t) :
    (t.map HazardEvent.unnumbered).Nodup := by
  refine List.Nodup.of_map HazardEvent.key ?_
  rw [List.map_map]
  exact hu

theorem perm_of_served {t u : Rows G} (ht : Table.Unique HazardEvent.key t)
    (hu : Table.Unique HazardEvent.key u) (h : served t = served u) :
    (t.map HazardEvent.unnumbered).Perm (u.map HazardEvent.unnumbered) := by
  rw [List.perm_ext_iff_of_nodup (nodup_unnumbered ht) (nodup_unnumbered hu)]
  intro e
  rw [mem_unnumbered ht, mem_unnumbered hu, h]

-- INSERT ... ON CONFLICT DO UPDATE WHERE as it acts at the key of the row
def upserted_at (env : Env G) (tx : Tx) (row : Row G) : Option (HazardEvent G) → HazardEvent G
  | none => HazardEvent.inserted env tx row 0
  | some old =>
      if old.content_hash ≠ row.content_hash ∨ old.ends_at ≠ row.ends_at then
        HazardEvent.refreshed env tx row old
      else old

def upsert_at (env : Env G) (tx : Tx) (v : Source × String → Option (HazardEvent G)) (row : Row G) :
    Source × String → Option (HazardEvent G) :=
  Function.update v row.key (some (upserted_at env tx row (v row.key)))

theorem served_upsert_row (row : Row G) (t : Rows G) :
    served (upsert_row env tx row t).1 = upsert_at env tx (served t) row := by
  funext k
  by_cases hk : k = row.key
  · subst hk
    rw [upsert_at, Function.update_self]
    rcases upsert_row_cases env tx row t with ⟨⟨e, he, hh, hx⟩, hrow⟩ | ⟨hf, hrow⟩ |
      ⟨old, hf, hc, hrow⟩ <;> rw [hrow]
    · simp [served, he, upserted_at, HazardEvent.unnumbered, hh, hx]
    · simp only [served, Table.find_concat, hf, key_inserted, if_true, Option.none_or,
        Option.map_some, Option.map_none, upserted_at]
      rfl
    · have hold := (Table.find_some_mem hf).2
      have hne : old.content_hash ≠ row.content_hash ∨ old.ends_at ≠ row.ends_at := by
        by_contra hn
        simp only [not_or, ne_eq, not_not] at hn
        exact hc ⟨old, hf, hn.1, hn.2⟩
      simp only [served]
      rw [Table.find_update (f := HazardEvent.refreshed env tx row) (fun _ _ => rfl), hf]
      simp [hold, upserted_at, HazardEvent.unnumbered, HazardEvent.refreshed, hne]
  · rw [upsert_at, Function.update_of_ne hk, served, upsert_row_find_other (Ne.symm hk), served]

theorem served_upsert_rows (rows : List (Row G)) (t : Rows G) :
    served (upsert_rows env tx rows t).1 = rows.foldl (upsert_at env tx) (served t) := by
  induction rows generalizing t with
  | nil => rfl
  | cons row rows ih => rw [upsert_rows, ih, served_upsert_row, List.foldl_cons]

theorem upsert_at_comm {row row' : Row G} (h : row.key ≠ row'.key)
    (v : Source × String → Option (HazardEvent G)) :
    upsert_at env tx (upsert_at env tx v row) row' =
      upsert_at env tx (upsert_at env tx v row') row := by
  simp only [upsert_at, Function.update_of_ne h, Function.update_of_ne (Ne.symm h)]
  exact Function.update_comm h _ _ v

theorem deduplicated_perm {rows rows' : List (Row G)} (hp : rows.Perm rows')
    (hn : (rows.map Row.key).Nodup) : (deduplicated rows).Perm (deduplicated rows') := by
  have hn' : (rows'.map Row.key).Nodup := (hp.map Row.key).nodup_iff.mp hn
  have hlast : ∀ {rows : List (Row G)}, (rows.map Row.key).Nodup → ∀ row,
      row ∈ deduplicated rows ↔ row ∈ rows := by
    intro rows hn row
    refine ⟨mem_of_mem_deduplicated, fun hr => mem_deduplicated.mpr ?_⟩
    obtain ⟨row', hl, hk, hm⟩ := last_with_key_isSome hr
    rw [hl, List.inj_on_of_nodup_map hn (mem_of_mem_deduplicated hm) hr hk]
  rw [List.perm_ext_iff_of_nodup (List.Nodup.of_map _ (nodup_keys_deduplicated rows))
    (List.Nodup.of_map _ (nodup_keys_deduplicated rows'))]
  intro row
  rw [hlast hn, hlast hn', hp.mem_iff]

theorem served_upserted {rows rows' : List (Row G)} (hp : rows.Perm rows')
    (hn : (rows.map Row.key).Nodup) (t : Rows G) :
    served (upserted env tx rows t) = served (upserted env tx rows' t) := by
  rw [upserted, upserted, served_upsert_rows, served_upsert_rows]
  refine List.Perm.foldl_eq' (deduplicated_perm hp hn) (fun row hrow row' hrow' v => ?_) _
  by_cases hk : row.key = row'.key
  · rw [List.inj_on_of_nodup_map (nodup_keys_deduplicated rows) hrow hrow' hk]
  · exact upsert_at_comm hk v

-- the conditional UPDATE of closed_rows on a row that it names
def close_at (tx : Tx) (e : HazardEvent G) (ended_at : Timestamptz) : HazardEvent G :=
  if e.ends_at.all (fun ends => decide (ended_at < ends)) then HazardEvent.closed tx ended_at e
  else e

theorem close_at_before {e : HazardEvent G} {x y : Timestamptz} (h : x ≤ y) :
    close_at tx (close_at tx e x) y = close_at tx e x := by
  unfold close_at
  split
  · simp [HazardEvent.closed, not_lt.mpr h]
  · next hx =>
      cases he : e.ends_at with
      | none => simp [he] at hx
      | some ends =>
          simp only [he, Option.all_some, decide_eq_true_eq, not_lt] at hx ⊢
          exact if_neg (not_lt.mpr (hx.trans h))

theorem close_at_after {e : HazardEvent G} {x y : Timestamptz} (h : x < y) :
    close_at tx (close_at tx e y) x = close_at tx e x := by
  conv_lhs => unfold close_at
  split
  · next hy =>
      have hx : e.ends_at.all (fun ends => decide (x < ends)) = true := by
        cases he : e.ends_at with
        | none => rfl
        | some ends =>
            simp only [he, Option.all_some, decide_eq_true_eq] at hy ⊢
            exact h.trans hy
      simp [close_at, hx, HazardEvent.closed, h]
  · rfl

theorem close_at_comm (e : HazardEvent G) (x y : Timestamptz) :
    close_at tx (close_at tx e x) y = close_at tx (close_at tx e y) x := by
  rcases lt_trichotomy x y with hxy | rfl | hxy
  · rw [close_at_before hxy.le, close_at_after hxy]
  · rfl
  · rw [close_at_before hxy.le, close_at_after hxy]

theorem close_at_ends_at (e : HazardEvent G) (x : Timestamptz) :
    (close_at tx e x).ends_at = some ((e.ends_at.map (min x)).getD x) := by
  cases he : e.ends_at with
  | none => simp [close_at, he, HazardEvent.closed]
  | some ends =>
      by_cases hx : x < ends
      · simp [close_at, he, hx, HazardEvent.closed, min_eq_left hx.le]
      · simp [close_at, he, hx, min_eq_right (not_lt.mp hx)]

theorem close_all_ends_at (e : HazardEvent G) (times : List Timestamptz) :
    (times.foldl (close_at tx) e).ends_at = (e.ends_at.toList ++ times).min? := by
  induction times generalizing e with
  | nil =>
      cases he : e.ends_at with
      | none => simp [he]
      | some ends => simp [he]
  | cons x times ih =>
      rw [List.foldl_cons, ih, close_at_ends_at]
      cases e.ends_at with
      | none => rfl
      | some ends =>
          simp only [Option.map_some, Option.getD_some, Option.toList_some, List.cons_append,
            List.nil_append, List.min?_cons', List.foldl_cons, min_comm x ends]

theorem served_closed_rows {source : Source} {ids : List String} {ended_at : Timestamptz}
    (t : Rows G) (k : Source × String) :
    served (closed_rows tx source ids ended_at t).1 k =
      (served t k).map (fun e => if k.1 = source ∧ k.2 ∈ ids then close_at tx e ended_at else e) := by
  rw [served, find_closed_rows, served]
  cases hf : Table.find HazardEvent.key k t with
  | none => rfl
  | some e =>
      obtain rfl := (Table.find_some_mem hf).2
      have ho : open_after source ids ended_at e =
          (decide (e.key.1 = source) && decide (e.key.2 ∈ ids) &&
            e.ends_at.all (fun ends => decide (ended_at < ends))) := by
        cases he : e.ends_at <;> simp only [open_after, he] <;> rfl
      by_cases hk : e.key.1 = source ∧ e.key.2 ∈ ids
      · simp only [Option.map_some, ho, hk.1, hk.2, decide_true, Bool.true_and, and_self, if_true,
          close_at, HazardEvent.unnumbered, HazardEvent.closed]
        split <;> rfl
      · have hno : (decide (e.key.1 = source) && decide (e.key.2 ∈ ids)) = false := by
          simpa using hk
        simp [ho, hno, hk]

theorem closed_rows_zero {source : Source} {ids : List String} {ended_at : Timestamptz} {t : Rows G}
    (hu : Table.Unique HazardEvent.key t) : (closed_rows tx source ids ended_at t).2 = 0 ↔
      ∀ id ∈ ids, ¬ OpenAt ended_at (source, id) t := by
  rw [closed_rows, List.countP_eq_zero]
  constructor
  · rintro h id hid ⟨e, he, ho⟩
    obtain ⟨hm, hk⟩ := Table.find_some_mem he
    have hsrc : e.source = source := congrArg Prod.fst hk
    have hext : e.external_id = id := congrArg Prod.snd hk
    refine h e hm ?_
    cases hx : e.ends_at with
    | none => simp [open_after, hsrc, hext, hid, hx]
    | some ends => simp [open_after, hsrc, hext, hid, hx, ho ends hx]
  · intro h e he ho
    simp only [open_after, Bool.and_eq_true, decide_eq_true_eq] at ho
    have hk : e.key = (source, e.external_id) := congrArg (·, e.external_id) ho.1.1
    refine h _ ho.1.2 (hk ▸ openAt_of_mem hu he (fun ends hx => ?_))
    simpa [hx] using ho.2

end HazardEventRepo

namespace SyncAemetUseCase

open HazardEventRepo

-- the times at which the groups that name a warning close it
def closing_times (id : String) (groups : List (Timestamptz × List String)) : List Timestamptz :=
  (groups.filter (fun g => decide (id ∈ g.2))).map Prod.fst

theorem served_closed_groups (id : String) (groups : List (Timestamptz × List String)) (t : Rows G) :
    served (closed_groups tx groups t).1 (.aemet, id) =
      (served t (.aemet, id)).map (fun e => (closing_times id groups).foldl (close_at tx) e) := by
  induction groups generalizing t with
  | nil => simp [closed_groups, closing_times]
  | cons g groups ih =>
      simp only [closed_groups, ih, served_closed_rows, Option.map_map]
      refine congrFun (congrArg Option.map (funext fun e => ?_)) _
      by_cases hg : id ∈ g.2
      · simp [closing_times, hg]
      · simp [closing_times, hg]

theorem served_closed_groups_other {k : Source × String} (hk : k.1 ≠ .aemet)
    (groups : List (Timestamptz × List String)) (t : Rows G) :
    served (closed_groups tx groups t).1 k = served t k := by
  induction groups generalizing t with
  | nil => rfl
  | cons g groups ih => simp [closed_groups, ih, served_closed_rows, hk]

theorem mem_closing_times {id : String} {warnings : List AemetWarning} {x : Timestamptz} :
    x ∈ closing_times id (by_sent warnings) ↔
      ∃ m ∈ warnings, Supersedes m id ∧ m.sent.instant = x := by
  rw [← mem_by_sent]
  simp only [closing_times, List.mem_map, List.mem_filter, decide_eq_true_eq]
  constructor
  · rintro ⟨⟨_, ids⟩, ⟨hg, hi⟩, rfl⟩
    exact ⟨ids, hg, hi⟩
  · rintro ⟨ids, hg, hi⟩
    exact ⟨(x, ids), ⟨hg, hi⟩, rfl⟩

theorem nodup_closing_times (id : String) (warnings : List AemetWarning) :
    (closing_times id (by_sent warnings)).Nodup := by
  have hn : (Dict.keys (by_sent warnings)).Nodup := nodup_keys_add_references (by simp [Dict.keys])
  exact hn.sublist (List.filter_sublist.map _)

theorem closing_times_perm {warnings warnings' : List AemetWarning} (hp : warnings.Perm warnings')
    (id : String) :
    (closing_times id (by_sent warnings)).Perm (closing_times id (by_sent warnings')) := by
  rw [List.perm_ext_iff_of_nodup (nodup_closing_times _ _) (nodup_closing_times _ _)]
  intro x
  simp only [mem_closing_times, hp.mem_iff]

theorem served_closed_superseded {warnings warnings' : List AemetWarning}
    (hp : warnings.Perm warnings') {t u : Rows G} (h : served t = served u) :
    served (closed_superseded tx warnings t).1 = served (closed_superseded tx warnings' u).1 := by
  funext k
  by_cases hk : k.1 = .aemet
  · obtain ⟨_, id⟩ := k
    obtain rfl := hk
    rw [closed_superseded, closed_superseded, served_closed_groups, served_closed_groups, h]
    refine congrFun (congrArg Option.map (funext fun e => ?_)) _
    exact (closing_times_perm hp id).foldl_eq' (fun x _ y _ e => close_at_comm e x y) e
  · rw [closed_superseded, closed_superseded, served_closed_groups_other hk,
      served_closed_groups_other hk, h]

theorem closed_groups_zero {groups : List (Timestamptz × List String)} {t : Rows G}
    (hu : Table.Unique HazardEvent.key t) : (closed_groups tx groups t).2 = 0 ↔
      ∀ g ∈ groups, ∀ id ∈ g.2, ¬ OpenAt g.1 (.aemet, id) t := by
  induction groups with
  | nil => simp [closed_groups]
  | cons g groups ih =>
      simp only [closed_groups, Nat.add_eq_zero_iff, List.mem_cons, forall_eq_or_imp]
      rw [closed_rows_zero hu]
      refine and_congr_right (fun h => ?_)
      have hsame : (closed_rows tx .aemet g.2 g.1 t).1 = t :=
        (closed_rows_wrote t).none ((closed_rows_zero hu).mpr h)
      rw [hsame, ih]

theorem closed_superseded_zero {warnings : List AemetWarning} {t : Rows G}
    (hu : Table.Unique HazardEvent.key t) : (closed_superseded tx warnings t).2 = 0 ↔
      ∀ m ∈ warnings, ∀ id, Supersedes m id → ¬ OpenAt m.sent.instant (.aemet, id) t := by
  rw [closed_superseded, closed_groups_zero hu]
  constructor
  · intro h m hm id hs
    obtain ⟨ids, hg, hi⟩ := mem_by_sent.mpr ⟨m, hm, hs, rfl⟩
    exact h _ hg id hi
  · intro h g hg id hi
    obtain ⟨m, hm, hs, hsent⟩ := mem_by_sent.mp ⟨g.2, hg, hi⟩
    exact hsent ▸ h m hm id hs

theorem vanished_perm {states : List SourceSyncState} {ingestible ingestible' : List AemetWarning}
    (hp : ingestible.Perm ingestible') : vanished states ingestible = vanished states ingestible' := by
  refine List.filter_congr (fun id _ => ?_)
  simp only [(hp.map AemetWarning.external_id).mem_iff]

theorem cursor_of_perm {field : String} {ids ids' : List String} (hp : ids.Perm ids') :
    cursor_of field ids = cursor_of field ids' := by
  have hsorted : ids.insertionSort (· ≤ ·) = ids'.insertionSort (· ≤ ·) :=
    List.Perm.eq_of_pairwise' (List.pairwise_insertionSort (· ≤ ·) ids)
      (List.pairwise_insertionSort (· ≤ ·) ids')
      ((List.perm_insertionSort (· ≤ ·) ids).trans
        (hp.trans (List.perm_insertionSort (· ≤ ·) ids').symm))
  rw [cursor_of, cursor_of, hsorted]

theorem collect_perm {α β : Type} {f : α → Except PyError β} {xs xs' : List α} {ys : List β}
    (hp : xs.Perm xs') (h : collect f xs = .ok ys) : ∃ ys', collect f xs' = .ok ys' ∧ ys.Perm ys' := by
  obtain ⟨ys', hall, hperm⟩ := List.perm_comp_forall₂ hp.symm (collect_forall₂ h)
  exact ⟨ys', collect_of_forall₂ hall, hperm.symm⟩

variable {db db₁ db₂ : Db G} {result : SyncResult} {warnings warnings' : List AemetWarning}

theorem collect_nodup {rows : List (Row G)} (h : collect (to_row env) warnings = .ok rows)
    (hn : (warnings.map AemetWarning.external_id).Nodup) : (rows.map Row.key).Nodup := by
  have hkeys : rows.map Row.key = (warnings.map AemetWarning.external_id).map (Source.aemet, ·) := by
    have hall := collect_forall₂ h
    clear h hn
    induction hall with
    | nil => rfl
    | cons hw _ ih => simp [to_row_source hw, ih]
  rw [hkeys]
  exact hn.map (fun x y hxy => (Prod.mk.inj hxy).2)

theorem ingestible_nodup (hn : (warnings.map AemetWarning.external_id).Nodup) :
    ((warnings.filter is_ingestible).map AemetWarning.external_id).Nodup :=
  hn.sublist (List.filter_sublist.map _)

theorem execute_unique (hu : Table.Unique HazardEvent.key db.hazard_events) (rows : List (Row G)) :
    Table.Unique HazardEvent.key (closed_superseded tx warnings
      (upserted env tx rows db.hazard_events)).1 :=
  (closed_groups_wrote _ _).change.unique (upsert_rows_unique hu)

theorem changed_iff (hu : Table.Unique HazardEvent.key db.hazard_events)
    (h : execute env tx warnings db = .ok (db₁, result)) {rows : List (Row G)}
    (hr : collect (to_row env) (warnings.filter is_ingestible) = .ok rows) :
    result.changed = false ↔ (∀ row ∈ deduplicated rows, Current row db.hazard_events) ∧
      (∀ m ∈ warnings, ∀ id, Supersedes m id →
        ¬ OpenAt m.sent.instant (.aemet, id) (upserted env tx rows db.hazard_events)) ∧
      ∀ id ∈ vanished db.source_sync_state (warnings.filter is_ingestible),
        ¬ OpenAt tx.mark (.aemet, id)
          (closed_superseded tx warnings (upserted env tx rows db.hazard_events)).1 := by
  obtain ⟨rows', hr', _, _, hi, hup, hc, _⟩ := execute_ok h
  obtain rfl := Except.ok.inj (hr'.symm.trans hr)
  have hflags := @upsert_rows_no_flags _ env tx (deduplicated rows') db.hazard_events
  have hle := List.count_le_length (a := true)
    (l := (upsert_rows env tx (deduplicated rows') db.hazard_events).2)
  have hmid : Table.Unique HazardEvent.key (upserted env tx rows' db.hazard_events) :=
    upsert_rows_unique hu
  have hlast := @closed_rows_zero _ tx .aemet
    (vanished db.source_sync_state (warnings.filter is_ingestible)) tx.mark _
    (@execute_unique _ env tx _ warnings hu rows')
  rw [← hflags, ← @closed_superseded_zero _ tx _ _ hmid, ← hlast, ← List.length_eq_zero_iff]
  simp only [SyncResult.changed, Bool.or_eq_false_iff, bne_eq_false_iff_eq, hi, hup, hc, inserted,
    updated, closed_vanished, Nat.add_eq_zero_iff, Tx.mark]
  omega

theorem length_outbox_after {source : Source} {counts : List (String × Nat)}
    (outbox : List OutboxEvent) : (outbox_after source counts tx result outbox).length =
      outbox.length + if result.changed then 1 else 0 := by
  unfold outbox_after
  split <;> simp [EventBus.publish]

-- the two runs commit the same rows, the same cursor and the same decision, or both roll back
inductive SameOutcome :
    Except PyError (Db G × SyncResult) → Except PyError (Db G × SyncResult) → Prop
  | committed {db₁ db₂ : Db G} {r₁ r₂ : SyncResult}
      (rows : (db₁.hazard_events.map HazardEvent.unnumbered).Perm
        (db₂.hazard_events.map HazardEvent.unnumbered))
      (cursor : db₁.source_sync_state = db₂.source_sync_state)
      (decision : r₁.changed = r₂.changed)
      (published : db₁.outbox_events.length = db₂.outbox_events.length) :
      SameOutcome (.ok (db₁, r₁)) (.ok (db₂, r₂))
  | rolled_back (e₁ e₂ : PyError) : SameOutcome (.error e₁) (.error e₂)

theorem Closes.perm {states : List SourceSyncState} (h : Closes states warnings)
    (hp : warnings.Perm warnings') : Closes states warnings' where
  superseded g hg := by
    cases hids : g.2 with
    | nil => exact .nil
    | cons r ids =>
        obtain ⟨m, hm, hs, hsent⟩ := (mem_group hg).mp (hids ▸ List.mem_cons_self)
        obtain ⟨ids', hg', _⟩ := mem_by_sent.mpr ⟨m, hp.mem_iff.mpr hm, hs, hsent⟩
        refine hids ▸ (h.superseded _ hg').mono (fun x hx => ?_)
        rw [mem_group hg] at hx
        rw [mem_group hg']
        simpa only [hp.mem_iff] using hx
  vanished := vanished_perm (hp.filter is_ingestible) ▸ h.vanished

section Permuted

variable (hu : Table.Unique HazardEvent.key db.hazard_events)
  (hn : (warnings.map AemetWarning.external_id).Nodup) (hp : warnings.Perm warnings')
include hu hn hp

theorem execute_perm {r₁ : SyncResult} (h : execute env tx warnings db = .ok (db₁, r₁)) :
    SameOutcome (.ok (db₁, r₁)) (execute env tx warnings' db) := by
  obtain ⟨rows, hr, ht, hstate, _, _, _, hout⟩ := execute_ok h
  obtain ⟨_, hran, hstorable, hcloses, _⟩ := execute_iff.mp h
  rw [← Except.ok.inj (hr.symm.trans hran)] at hstorable
  have hing := hp.filter is_ingestible
  obtain ⟨rows', hr', hrows⟩ := collect_perm hing hr
  have hkeys := collect_nodup hr (ingestible_nodup hn)
  have hup := @served_upserted _ env tx _ _ hrows hkeys db.hazard_events
  have hsup := @served_closed_superseded _ tx _ _ hp _ _ hup
  obtain ⟨db₂, r₂, h₂⟩ : ∃ db₂ r₂, execute env tx warnings' db = .ok (db₂, r₂) :=
    ⟨_, _, execute_iff.mpr ⟨rows', hr', fun r hr => hstorable r (hrows.mem_iff.mpr hr),
      hcloses.perm hp, rfl⟩⟩
  obtain ⟨rows₂, hr₂, ht₂, hstate₂, _, _, _, hout₂⟩ := execute_ok h₂
  obtain rfl := Except.ok.inj (hr₂.symm.trans hr')
  have hchanged : r₁.changed = r₂.changed := by
    rw [Bool.eq_iff_iff, ← not_iff_not, Bool.not_eq_true, Bool.not_eq_true,
      changed_iff hu h hr, changed_iff hu h₂ hr₂]
    have hdedup := deduplicated_perm hrows hkeys
    simp only [hdedup.mem_iff, hp.mem_iff, openAt_served, hup, hsup, vanished_perm hing]
  rw [h₂]
  refine .committed (perm_of_served ?_ ?_ ?_) ?_ hchanged ?_
  · rw [ht]
    exact closed_rows_unique (execute_unique hu rows)
  · rw [ht₂]
    exact closed_rows_unique (execute_unique hu rows₂)
  · funext k
    rw [ht, ht₂, closed_vanished, closed_vanished, served_closed_rows, served_closed_rows, hsup,
      vanished_perm hing]
  · rw [hstate, hstate₂, cursor_of_perm (hing.map AemetWarning.external_id)]
  · rw [hout, hout₂, length_outbox_after, length_outbox_after, hchanged]

theorem execute_perm_outcome :
    SameOutcome (execute env tx warnings db) (execute env tx warnings' db) := by
  cases h : execute env tx warnings db with
  | ok r => exact execute_perm hu hn hp h
  | error e₁ =>
      cases h' : execute env tx warnings' db with
      | error e₂ => exact .rolled_back e₁ e₂
      | ok r =>
          have hn' := (hp.map AemetWarning.external_id).nodup_iff.mp hn
          have hback := execute_perm hu hn' hp.symm h'
          rw [h] at hback
          cases hback

end Permuted

-- the end of a warning before any message cuts it short
def own_end (warnings : List AemetWarning) (t : Rows G) (id : String) : Option Timestamptz :=
  match last_ingestible id warnings with
  | some w => w.expires.map Datetime.instant
  | none => (Table.find HazardEvent.key (.aemet, id) t).bind (fun e => e.ends_at)

def sent_times (id : String) (warnings : List AemetWarning) : List Timestamptz :=
  (warnings.filter (fun m => supersedes m && decide (id ∈ m.references))).map
    (fun m => m.sent.instant)

def retired_at (tx : Tx) (states : List SourceSyncState) (warnings : List AemetWarning)
    (id : String) : List Timestamptz :=
  if id ∈ vanished states (warnings.filter is_ingestible) then [tx.mark] else []

theorem mem_sent_times {id : String} {x : Timestamptz} :
    x ∈ sent_times id warnings ↔ x ∈ closing_times id (by_sent warnings) := by
  simp only [mem_closing_times, supersedes_iff, sent_times, List.mem_map, List.mem_filter,
    Bool.and_eq_true, decide_eq_true_eq, and_assoc]

theorem min?_congr {xs ys : List Timestamptz} (h : ∀ x, x ∈ xs ↔ x ∈ ys) : xs.min? = ys.min? := by
  cases hy : ys.min? with
  | none =>
      obtain rfl := List.min?_eq_none_iff.mp hy
      exact List.min?_eq_none_iff.mpr (List.eq_nil_iff_forall_not_mem.mpr (by simpa using h))
  | some y =>
      obtain ⟨hm, hle⟩ := List.min?_eq_some_iff.mp hy
      exact List.min?_eq_some_iff.mpr ⟨(h y).mpr hm, fun x hx => hle x ((h x).mp hx)⟩

theorem upserted_ends_at {rows : List (Row G)} {t : Rows G} {id : String} {e : HazardEvent G}
    (hr : collect (to_row env) (warnings.filter is_ingestible) = .ok rows)
    (he : served (upserted env tx rows t) (.aemet, id) = some e) :
    e.ends_at = own_end warnings t id := by
  rw [served, Option.map_eq_some_iff] at he
  obtain ⟨e, he, rfl⟩ := he
  rcases last_with_key_eq hr id with ⟨hw, hl⟩ | ⟨w, row, hw, hl, hto⟩
  · have hkey : ∀ row ∈ deduplicated rows, row.key ≠ (.aemet, id) := by
      rintro row hrow hk
      rw [mem_deduplicated, hk, hl] at hrow
      simp at hrow
    rw [upserted, upsert_rows_find_other hkey] at he
    simp [own_end, hw, he, HazardEvent.unnumbered]
  · have hk : row.key = (.aemet, id) := by simpa using List.find?_some hl
    obtain ⟨e', he', _, hx⟩ := @upserted_current _ env tx _ t _ (mem_deduplicated.mpr (hk ▸ hl))
    obtain ⟨expires, hexp, hends⟩ := to_row_ends_at hto
    rw [hk, he] at he'
    obtain rfl := Option.some.inj he'
    simp [own_end, hw, hexp, HazardEvent.unnumbered, hx, hends]

theorem execute_ends_at (h : execute env tx warnings db = .ok (db₁, result)) {id : String}
    {e : HazardEvent G} (he : Table.find HazardEvent.key (.aemet, id) db₁.hazard_events = some e) :
    e.ends_at = ((own_end warnings db.hazard_events id).toList ++ sent_times id warnings ++
      retired_at tx db.source_sync_state warnings id).min? := by
  obtain ⟨rows, hr, ht, _⟩ := execute_ok h
  have hs : served db₁.hazard_events (.aemet, id) = some e.unnumbered := by simp [served, he]
  rw [ht, closed_vanished, served_closed_rows, closed_superseded, served_closed_groups,
    Option.map_map, Option.map_eq_some_iff] at hs
  obtain ⟨old, hold, hfold⟩ := hs
  have hall : (closing_times id (by_sent warnings) ++ retired_at tx db.source_sync_state warnings
      id).foldl (close_at tx) old = e.unnumbered := by
    rw [← hfold, List.foldl_append, retired_at]
    by_cases hv : id ∈ vanished db.source_sync_state (warnings.filter is_ingestible)
    · simp [hv, Tx.mark]
    · simp [hv]
  have hends : e.ends_at = e.unnumbered.ends_at := rfl
  rw [hends, ← hall, close_all_ends_at, upserted_ends_at hr hold]
  refine min?_congr (fun x => ?_)
  simp only [List.mem_append, mem_sent_times, or_assoc]

end SyncAemetUseCase

open SyncAemetUseCase HazardEventRepo

theorem bulletin_order {db : Db G} {warnings warnings' : List AemetWarning}
    (hu : Table.Unique HazardEvent.key db.hazard_events)
    (hn : (warnings.map AemetWarning.external_id).Nodup) (hp : warnings.Perm warnings') :
    SameOutcome (execute env tx warnings db) (execute env tx warnings' db) ∧
    ∀ db₁ result, execute env tx warnings db = .ok (db₁, result) → ∀ id e,
      Table.find HazardEvent.key (.aemet, id) db₁.hazard_events = some e →
      e.ends_at = ((own_end warnings db.hazard_events id).toList ++ sent_times id warnings ++
        retired_at tx db.source_sync_state warnings id).min? :=
  ⟨execute_perm_outcome hu hn hp, fun _ _ h _ _ he => execute_ends_at h he⟩

-- two messages with two times of elaboration close one warning
def two_updates : List AemetWarning :=
  [yellow "B" MSG_TYPE_UPDATE (july 2 14) (july 3 14) ["A"],
    yellow "C" MSG_TYPE_UPDATE (july 2 13) (july 3 13) ["A"]]

theorem alerted_unique : Table.Unique HazardEvent.key alerted.hazard_events :=
  alerted_step.unique unique_empty

theorem bulletin_order_two_updates :
    SameOutcome (execute (planar_env id) (ran_at 2 (july 2 15)) two_updates alerted)
      (execute (planar_env id) (ran_at 2 (july 2 15)) two_updates.reverse alerted) ∧
    ∀ db₁ result, execute (planar_env id) (ran_at 2 (july 2 15)) two_updates alerted =
        .ok (db₁, result) → ∀ e,
      Table.find HazardEvent.key (.aemet, "A") db₁.hazard_events = some e →
        e.ends_at = some (july 2 13).instant := by
  obtain ⟨hsame, hends⟩ := @bulletin_order _ (planar_env id) (ran_at 2 (july 2 15)) alerted
    two_updates two_updates.reverse alerted_unique (by decide) (List.reverse_perm _).symm
  refine ⟨hsame, fun db₁ result h e he => (hends db₁ result h "A" e he).trans ?_⟩
  decide +kernel

def run_early : Except PyError (Db (List (PyFloat × PyFloat)) × SyncResult) :=
  execute (planar_env id) (ran_at 2 (july 2 12)) two_updates alerted

-- both messages are later than the mark at which the warning is retired
theorem retired_before_sent :
    ¬ ∀ (tx : Tx) (db : Db (List (PyFloat × PyFloat))) (warnings warnings' : List AemetWarning),
      Table.Unique HazardEvent.key db.hazard_events →
      (warnings.map AemetWarning.external_id).Nodup → warnings.Perm warnings' →
      SameOutcome (execute (planar_env id) tx warnings db)
        (execute (planar_env id) tx warnings' db) ∧
      ∀ db₁ result, execute (planar_env id) tx warnings db = .ok (db₁, result) → ∀ id e,
        2 ≤ (sent_times id warnings).length →
        Table.find HazardEvent.key (.aemet, id) db₁.hazard_events = some e →
        e.ends_at = ((own_end warnings db.hazard_events id).toList ++ sent_times id warnings).min? := by
  intro hall
  have hends := (hall (ran_at 2 (july 2 12)) alerted two_updates two_updates alerted_unique
    (by decide) (.refl _)).2
  have hrun : (run_early.map (fun r =>
      (Table.find HazardEvent.key (.aemet, "A") r.1.hazard_events).map (fun e => e.ends_at))) =
        .ok (some (some (july 2 12).instant)) := by decide +kernel
  cases hr : run_early with
  | error e => simp [hr, Except.map] at hrun
  | ok r =>
      obtain ⟨db₁, result⟩ := r
      simp only [hr, Except.map, Except.ok.injEq, Option.map_eq_some_iff] at hrun
      obtain ⟨e, he, hx⟩ := hrun
      have hmin := hends db₁ result hr "A" e (by decide) he
      rw [hx] at hmin
      revert hmin
      decide +kernel

end GeoHazard

import GeoHazard.Library.Backfill
import GeoHazard.Hazards.Provinces
import GeoHazard.Hazards.ReferenceEnv
import GeoHazard.Hazards.RowChange

namespace GeoHazard
open HazardEventRepo Transition

variable {G A : Type} [LinearOrder A] [Zero A]

-- what the sync transactions write to hazard_events
inductive EventWrite (G : Type) where
  | upserted (tx : Tx) (rows : List (Row G))
  | closed (tx : Tx) (source : Source) (external_ids : List String) (ended_at : Timestamptz)

def EventWrite.Writes (env : Env G) : EventWrite G → Rows G → Rows G → Prop
  | .upserted tx rows, t, t' => ∃ inserted updated,
      upsert_batch env tx rows t = .ok (t', inserted, updated)
  | .closed tx source external_ids ended_at, t, t' => ∃ closed,
      close_events tx source external_ids ended_at t = .ok (t', closed)

-- the trigger computes the province of the rows that an upsert inserts or updates
def triggered (gis : Overlay G A) (provinces : List (Province G)) (env : Env G) : Env G :=
  { env with province := hazard_event_province gis provinces }

def BATCH : Nat := 5000

def HazardEvent.placed (env : Env G) (e : HazardEvent G) : HazardEvent G :=
  { e with province_code := env.province e.geom }

-- gen_random_uuid gives the n-th row the key uuid n
def backfill (env : Env G) (uuid : Nat → Nat) : Backfill.Job (HazardEvent G) Nat (EventWrite G) where
  key e := uuid e.id
  fill := HazardEvent.placed env
  limit := BATCH
  writes := EventWrite.Writes env

def Placed (env : Env G) (e : HazardEvent G) : Prop := e.province_code = env.province e.geom

def Numbered (t : Rows G) : Prop := t.map HazardEvent.id = List.range t.length

def HazardEvent.unplaced (e : HazardEvent G) : HazardEvent G := { e with province_code := none }

variable {env : Env G} {uuid : Nat → Nat}

theorem numbered_update {p : HazardEvent G → Bool} {f : HazardEvent G → HazardEvent G}
    (hf : ∀ e, (f e).id = e.id) {t : Rows G} (h : Numbered t) : Numbered (Table.update p f t) := by
  have hlen : (Table.update p f t).length = t.length := List.length_map _
  rw [Numbered, Table.keys_update (fun e _ => hf e), hlen]
  exact h

theorem upsert_batch_rows {tx : Tx} {rows : List (Row G)} {t t' : Rows G} {n m : Nat}
    (h : upsert_batch env tx rows t = .ok (t', n, m)) :
    t' = (upsert_rows env tx (deduplicated rows) t).1 :=
  (congrArg Prod.fst (upsert_batch_iff.mp h).2).symm

theorem close_events_rows {tx : Tx} {source : Source} {external_ids : List String}
    {ended_at : Timestamptz} {t t' : Rows G} {n : Nat}
    (h : close_events tx source external_ids ended_at t = .ok (t', n)) :
    t' = Table.update (open_after source external_ids ended_at) (HazardEvent.closed tx ended_at) t :=
  (congrArg Prod.fst (close_events_iff.mp h).2).symm

theorem upsert_rows_keeps {R : Rows G → Rows G → Prop} (hrefl : ∀ t, R t t)
    (htrans : ∀ {a b c}, R a b → R b c → R a c) {tx : Tx}
    (hrow : ∀ row t, R t (upsert_row env tx row t).1) (rows : List (Row G)) (t : Rows G) :
    R t (upsert_rows env tx rows t).1 := by
  induction rows generalizing t with
  | nil => exact hrefl t
  | cons row rows ih => exact htrans (hrow row t) (ih _)

-- each row of the later table is right, or an earlier row with the same geometry and province
structure Keeps (env : Env G) (t t' : Rows G) : Prop where
  kept : ∀ e ∈ t, ∃ e' ∈ t', e'.id = e.id
  written : ∀ e' ∈ t', Placed env e' ∨ ∃ e ∈ t, e.id = e'.id ∧ (Placed env e → Placed env e')
  numbered : Numbered t → Numbered t'

theorem Keeps.refl (t : Rows G) : Keeps env t t :=
  ⟨fun e he => ⟨e, he, rfl⟩, fun e he => .inr ⟨e, he, rfl, id⟩, id⟩

theorem Keeps.trans {a b c : Rows G} (h : Keeps env a b) (k : Keeps env b c) : Keeps env a c := by
  refine ⟨fun e he => ?_, fun e'' he'' => ?_, fun hn => k.numbered (h.numbered hn)⟩
  · obtain ⟨e', he', hid⟩ := h.kept e he
    obtain ⟨e'', he'', hid'⟩ := k.kept e' he'
    exact ⟨e'', he'', hid'.trans hid⟩
  · rcases k.written e'' he'' with hplaced | ⟨e', he', hid', himp'⟩
    · exact .inl hplaced
    · rcases h.written e' he' with hplaced | ⟨e, he, hid, himp⟩
      · exact .inl (himp' hplaced)
      · exact .inr ⟨e, he, hid.trans hid', himp' ∘ himp⟩

theorem Keeps.update {p : HazardEvent G → Bool} {f : HazardEvent G → HazardEvent G}
    (hid : ∀ e, (f e).id = e.id) (hf : ∀ e, Placed env (f e) ∨ (Placed env e → Placed env (f e)))
    (t : Rows G) : Keeps env t (Table.update p f t) := by
  refine ⟨fun e he => ⟨_, Table.mem_update.mpr ⟨e, he, rfl⟩, ?_⟩, fun e' he' => ?_,
    numbered_update hid⟩
  · split
    · exact hid e
    · rfl
  · obtain ⟨e, he, rfl⟩ := Table.mem_update.mp he'
    split
    · exact (hf e).imp_right (fun himp => ⟨e, he, (hid e).symm, himp⟩)
    · exact .inr ⟨e, he, rfl, id⟩

theorem inserted_keeps (tx : Tx) (row : Row G) (t : Rows G) :
    Keeps env t (t ++ [HazardEvent.inserted env tx row t.length]) := by
  refine ⟨fun e he => ⟨e, List.mem_append_left _ he, rfl⟩, fun e he => ?_, fun hn => ?_⟩
  · rcases List.mem_append.mp he with he | he
    · exact .inr ⟨e, he, rfl, id⟩
    · rw [List.mem_singleton.mp he]
      exact .inl rfl
  · rw [Numbered, List.map_append, hn, List.length_append]
    exact List.range_succ.symm

theorem upsert_row_keeps (tx : Tx) (row : Row G) (t : Rows G) :
    Keeps env t (upsert_row env tx row t).1 := by
  rcases upsert_row_cases env tx row t with ⟨-, he⟩ | ⟨-, he⟩ | ⟨old, -, -, he⟩ <;> rw [he]
  · exact .refl t
  · exact inserted_keeps tx row t
  · exact .update (f := HazardEvent.refreshed env tx row) (fun _ => rfl) (fun _ => .inl rfl) t

theorem EventWrite.keeps {w : EventWrite G} {t t' : Rows G} (h : w.Writes env t t') :
    Keeps env t t' := by
  cases w with
  | upserted tx rows =>
      obtain ⟨n, m, h⟩ := h
      rw [upsert_batch_rows h]
      exact upsert_rows_keeps .refl .trans (upsert_row_keeps tx) _ t
  | closed tx source external_ids ended_at =>
      obtain ⟨n, h⟩ := h
      rw [close_events_rows h]
      exact .update (f := HazardEvent.closed tx ended_at) (fun _ => rfl) (fun _ => .inr id) t

theorem backfill_sound (hu : Function.Injective uuid) :
    Backfill.Sound (backfill env uuid) (Placed env) Numbered where
  key _ := rfl
  good _ := rfl
  limit := Nat.succ_pos 4999
  kept h e he := by
    obtain ⟨e', he', hid⟩ := (EventWrite.keeps h).kept e he
    exact ⟨e', he', congrArg uuid hid⟩
  written h e' he' := by
    refine ((EventWrite.keeps h).written e' he').imp_right ?_
    rintro ⟨e, he, hid, himp⟩
    exact ⟨e, he, congrArg uuid hid, himp⟩
  valid h := (EventWrite.keeps h).numbered
  valid_filled h := numbered_update (f := HazardEvent.placed env) (fun _ => rfl) h
  unique {t} h := by
    have hids : (t.map HazardEvent.id).Nodup := by
      rw [h]
      exact List.nodup_range
    exact List.pairwise_map.mpr ((List.pairwise_map.mp hids).imp (fun hne heq => hne (hu heq)))

theorem unplaced_update {p : HazardEvent G → Bool} {f : HazardEvent G → HazardEvent G}
    (hp : ∀ e, p e.unplaced = p e) (hf : ∀ e, (f e.unplaced).unplaced = (f e).unplaced)
    {t u : Rows G} (h : u.map HazardEvent.unplaced = t.map HazardEvent.unplaced) :
    (Table.update p f u).map HazardEvent.unplaced = (Table.update p f t).map HazardEvent.unplaced := by
  have hmap : ∀ v : Rows G, (Table.update p f v).map HazardEvent.unplaced =
      (Table.update p f (v.map HazardEvent.unplaced)).map HazardEvent.unplaced := by
    intro v
    simp only [Table.update, List.map_map]
    refine List.map_congr_left (fun e _ => ?_)
    simp only [Function.comp_apply, hp]
    split
    · exact (hf e).symm
    · rfl
  rw [hmap u, hmap t, h]

theorem unplaced_upsert_row (tx : Tx) (row : Row G) {t u : Rows G}
    (h : u.map HazardEvent.unplaced = t.map HazardEvent.unplaced) :
    (upsert_row env tx row u).1.map HazardEvent.unplaced =
      (upsert_row env tx row t).1.map HazardEvent.unplaced := by
  have hfind : (Table.find HazardEvent.key row.key u).map HazardEvent.unplaced =
      (Table.find HazardEvent.key row.key t).map HazardEvent.unplaced := by
    have hmap := fun v : Rows G =>
      @Table.find_map _ _ _ HazardEvent.key _ HazardEvent.unplaced row.key v
    exact (hmap u).symm.trans ((congrArg _ h).trans (hmap t))
  have hlen : u.length = t.length := by simpa using congrArg List.length h
  have hupdate := @unplaced_update _ (fun e => decide (e.key = row.key))
    (HazardEvent.refreshed env tx row) (fun _ => rfl) (fun _ => rfl) t u h
  unfold upsert_row
  cases ht : Table.find HazardEvent.key row.key t with
  | none =>
      rw [ht, Option.map_none, Option.map_eq_none_iff] at hfind
      simp only [hfind, List.map_append, h, hlen]
  | some old =>
      rw [ht, Option.map_some] at hfind
      obtain ⟨old', hold', heq⟩ := Option.map_eq_some_iff.mp hfind
      have hhash := congrArg (fun e : HazardEvent G => e.content_hash) heq
      have hends := congrArg (fun e : HazardEvent G => e.ends_at) heq
      simp only [HazardEvent.unplaced] at hhash hends
      simp only [hold', hhash, hends]
      split
      · exact hupdate
      · exact h

theorem unplaced_upsert_rows (tx : Tx) (rows : List (Row G)) {t u : Rows G}
    (h : u.map HazardEvent.unplaced = t.map HazardEvent.unplaced) :
    (upsert_rows env tx rows u).1.map HazardEvent.unplaced =
      (upsert_rows env tx rows t).1.map HazardEvent.unplaced := by
  induction rows generalizing t u with
  | nil => exact h
  | cons row rows ih => exact ih (unplaced_upsert_row tx row h)

theorem backfill_hidden : Backfill.Hidden (backfill env uuid) HazardEvent.unplaced where
  fill _ := rfl
  writes {w t t' u} h hview := by
    cases w with
    | upserted tx rows =>
        obtain ⟨n, m, h⟩ := h
        rw [upsert_batch_rows h]
        exact ⟨_, ⟨_, _, upsert_batch_iff.mpr ⟨(upsert_batch_iff.mp h).1, rfl⟩⟩,
          unplaced_upsert_rows tx _ hview⟩
    | closed tx source external_ids ended_at =>
        obtain ⟨n, h⟩ := h
        refine ⟨_, ⟨_, close_events_iff.mpr ⟨(close_events_iff.mp h).1, rfl⟩⟩, ?_⟩
        rw [close_events_rows h]
        exact @unplaced_update _ _ (HazardEvent.closed tx ended_at) (fun _ => rfl) (fun _ => rfl)
          t u hview

structure BackfillOk (env : Env G) (uuid : Nat → Nat) (t : Rows G)
    (as : List (Backfill.Action (EventWrite G) Nat)) (s : Backfill.State (HazardEvent G) Nat) :
    Prop where
  finished : s.phase = .finished → ∀ e ∈ s.table, Placed env e
  once : (as.filterMap Backfill.Action.fills).Nodup
  hidden : ∃ u, Run (fun t w t' => EventWrite.Writes env w t t') t
      (as.filterMap Backfill.Action.writes) u ∧
    u.map HazardEvent.unplaced = s.table.map HazardEvent.unplaced

theorem province_backfill {gis : Overlay G A} {provinces : List (Province G)} {t : Rows G}
    {as : List (Backfill.Action (EventWrite G) Nat)} {s : Backfill.State (HazardEvent G) Nat}
    (hu : Function.Injective uuid) (hpos : ∀ n, 0 < uuid n) (ht : Numbered t)
    (hr : Run (Backfill.Step (backfill (triggered gis provinces env) uuid)) ⟨t, 0, .idle⟩ as s) :
    BackfillOk (triggered gis provinces env) uuid t as s := by
  have hstart : Backfill.Inv (backfill (triggered gis provinces env) uuid)
      (Placed (triggered gis provinces env)) ⟨t, 0, .idle⟩ :=
    fun e _ hle => absurd (hpos e.id) (not_lt.mpr hle)
  have hinv := Backfill.runs_inv (backfill_sound hu) hr hstart
  refine ⟨fun hp => ?_, Backfill.filled_once (backfill_sound hu) hr hstart rfl ht,
    Backfill.runs_hidden backfill_hidden hr⟩
  simpa only [Backfill.Inv, hp] using hinv

def quake_row : Row (List (PyFloat × PyFloat)) :=
  ⟨.ign, .earthquake, "es2026a", [], severity_two, 0, none, .null, "h"⟩

def quake_before : HazardEvent (List (PyFloat × PyFloat)) := ⟨quake_row, 0, none, 0, none, 1⟩

def everywhere : Overlay (List (PyFloat × PyFloat)) Nat :=
  ⟨fun _ _ => .ok true, fun _ => .ok 2, fun _ _ => .ok 1⟩

def quake_env : Env (List (PyFloat × PyFloat)) :=
  triggered everywhere [⟨"30", "Murcia", []⟩, ⟨"28", "Madrid", []⟩] (planar_env id)

def later_row : Row (List (PyFloat × PyFloat)) := { quake_row with external_id := "es2026b" }

def quake_after : HazardEvent (List (PyFloat × PyFloat)) :=
  HazardEvent.inserted quake_env (ran_at 2 (july 2 13)) later_row 1

-- the second event comes while the first batch is at work, with a key that the batch has passed
def quake_uuid (n : Nat) : Nat := if n = 0 then 2 else if n = 1 then 1 else n + 1

theorem province_backfill_quake :
    BackfillOk quake_env quake_uuid [quake_before]
      [.selected, .wrote (.upserted (ran_at 2 (july 2 13)) [later_row]), .filled 2, .returned,
        .selected, .returned]
      ⟨[quake_before.placed quake_env, quake_after], 2, .finished⟩ := by
  refine province_backfill (fun a b h => ?_) (fun n => ?_) rfl ?_
  · simp only [quake_uuid] at h
    split_ifs at h <;> omega
  · simp only [quake_uuid]
    split_ifs <;> omega
  · have hwrote : EventWrite.Writes quake_env (.upserted (ran_at 2 (july 2 13)) [later_row])
        [quake_before] [quake_before, quake_after] := ⟨1, 0, rfl⟩
    refine .cons (t := ⟨[quake_before], 0, .filling [2] []⟩) ⟨rfl, rfl⟩ ?_
    refine .cons (t := ⟨[quake_before, quake_after], 0, .filling [2] []⟩) ⟨_, hwrote, rfl⟩ ?_
    refine .cons (t := ⟨[quake_before.placed quake_env, quake_after], 0, .filling [] [2]⟩)
      ⟨[2], [], rfl, List.mem_singleton_self 2, rfl⟩ ?_
    refine .cons (t := ⟨[quake_before.placed quake_env, quake_after], 2, .idle⟩) ⟨[2], rfl, rfl⟩ ?_
    refine .cons (t := ⟨[quake_before.placed quake_env, quake_after], 2, .filling [] []⟩)
      ⟨rfl, rfl⟩ ?_
    exact .one ⟨[], rfl, rfl⟩

end GeoHazard

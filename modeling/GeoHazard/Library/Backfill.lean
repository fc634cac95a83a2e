import GeoHazard.Library.OrderBy
import GeoHazard.Library.Table
import GeoHazard.Library.Transition

namespace Backfill
open Transition

variable {ρ κ ω : Type} [LinearOrder κ]

inductive Phase (κ : Type) where
  | idle
  | filling (todo done : List κ)
  | finished

structure State (ρ κ : Type) where
  table : List ρ
  last : κ
  phase : Phase κ

inductive Action (ω κ : Type) where
  | wrote (w : ω)
  | selected
  | filled (k : κ)
  | returned

-- a column filled in batches by key, while others write to the table
structure Job (ρ κ ω : Type) where
  key : ρ → κ
  fill : ρ → ρ
  limit : Nat
  writes : ω → List ρ → List ρ → Prop

variable (job : Job ρ κ ω)

-- SELECT key FROM t WHERE key > last ORDER BY key LIMIT n
def batch (last : κ) (t : List ρ) : List κ :=
  OrderBy.limited (· ≤ ·) job.limit ((t.map job.key).filter (fun k => decide (last < k)))

-- SELECT key FROM done ORDER BY key DESC LIMIT 1
def greatest (done : List κ) : Option κ := (done.insertionSort (fun a b => b ≤ a)).head?

def filled (k : κ) (t : List ρ) : List ρ := Table.update (fun r => decide (job.key r = k)) job.fill t

-- a batch locks its rows one by one, in any order, and rereads each row that it locks
def Step (s : State ρ κ) : Action ω κ → State ρ κ → Prop
  | .wrote w, t => ∃ table, job.writes w s.table table ∧ t = { s with table := table }
  | .selected, t => s.phase = .idle ∧ t = { s with phase := .filling (batch job s.last s.table) [] }
  | .filled k, t => ∃ todo done, s.phase = .filling todo done ∧ k ∈ todo ∧
      t = { s with
        table := filled job k s.table
        phase := .filling (todo.erase k)
          (if s.table.any (fun r => decide (job.key r = k)) then done ++ [k] else done) }
  | .returned, t => ∃ done, s.phase = .filling [] done ∧
      t = match greatest done with
        | none => { s with phase := .finished }
        | some last => { s with last := last, phase := .idle }

-- no writer deletes a row, and each leaves the column right on the rows whose source it writes
structure Sound (Good : ρ → Prop) (Valid : List ρ → Prop) : Prop where
  key : ∀ r, job.key (job.fill r) = job.key r
  good : ∀ r, Good (job.fill r)
  limit : 0 < job.limit
  kept : ∀ {w t t'}, job.writes w t t' → ∀ r ∈ t, ∃ r' ∈ t', job.key r' = job.key r
  written : ∀ {w t t'}, job.writes w t t' → ∀ r' ∈ t', Good r' ∨
    ∃ r ∈ t, job.key r = job.key r' ∧ (Good r → Good r')
  valid : ∀ {w t t'}, job.writes w t t' → Valid t → Valid t'
  valid_filled : ∀ {k t}, Valid t → Valid (filled job k t)
  unique : ∀ {t}, Valid t → Table.Unique job.key t

variable {job} {Good : ρ → Prop} {Valid : List ρ → Prop} {s t : State ρ κ} {a : Action ω κ}
  {todo done : List κ} {k : κ}

theorem ascending : OrderBy.By (fun a b : κ => a ≤ b) id := ⟨Iff.rfl⟩

theorem descending : OrderBy.By (fun a b : κ => b ≤ a) OrderDual.toDual := ⟨Iff.rfl⟩

theorem mem_batch {last : κ} {t : List ρ} (h : k ∈ batch job last t) :
    last < k ∧ ∃ r ∈ t, job.key r = k := by
  obtain ⟨hmem, hlt⟩ := List.mem_filter.mp (OrderBy.mem_limited h)
  exact ⟨of_decide_eq_true hlt, List.mem_map.mp hmem⟩

theorem batch_covers (hn : 0 < job.limit) {last : κ} {t : List ρ} {r : ρ} (hr : r ∈ t)
    (hlt : last < job.key r)
    (hle : batch job last t = [] ∨ ∃ k ∈ batch job last t, job.key r ≤ k) :
    job.key r ∈ batch job last t := by
  have hmem : job.key r ∈ (t.map job.key).filter (fun k => decide (last < k)) :=
    List.mem_filter.mpr ⟨List.mem_map_of_mem hr, decide_eq_true hlt⟩
  obtain ⟨rest, hperm, hafter⟩ := ascending.limited_rest job.limit
    ((t.map job.key).filter (fun k => decide (last < k)))
  rcases List.mem_append.mp (hperm.mem_iff.mpr hmem) with hin | hout
  · exact hin
  · rcases hle with hnil | ⟨k, hk, hle⟩
    · have hlen : (batch job last t).length = 0 := by rw [hnil, List.length_nil]
      rw [batch, OrderBy.length_limited] at hlen
      have hpos := List.length_pos_of_mem hmem
      omega
    · exact le_antisymm hle (hafter k hk _ hout) ▸ hk

theorem batch_nodup {last : κ} {t : List ρ} (hu : Table.Unique job.key t) :
    (batch job last t).Nodup := by
  refine List.Nodup.sublist (List.take_sublist _ _) ?_
  rw [(List.perm_insertionSort _ _).nodup_iff]
  exact hu.filter _

theorem greatest_none (h : greatest done = none) : done = [] := by
  rw [greatest, List.head?_eq_none_iff] at h
  exact List.eq_nil_of_length_eq_zero (by simpa using congrArg List.length h)

theorem greatest_some (h : greatest done = some k) : k ∈ done ∧ ∀ x ∈ done, x ≤ k :=
  descending.head h

-- the rows that the batch covers are waiting for it or right
structure Filling (Good : ρ → Prop) (s : State ρ κ) (key : ρ → κ) (todo done : List κ) : Prop where
  covered : ∀ r ∈ s.table, (todo ++ done = [] ∨ ∃ k ∈ todo ++ done, key r ≤ k) →
    key r ∈ todo ∨ Good r
  above : ∀ k ∈ todo ++ done, s.last < k
  present : ∀ k ∈ todo, ∃ r ∈ s.table, key r = k

def Inv (job : Job ρ κ ω) (Good : ρ → Prop) (s : State ρ κ) : Prop :=
  match s.phase with
  | .idle => ∀ r ∈ s.table, job.key r ≤ s.last → Good r
  | .filling todo done => Filling Good s job.key todo done
  | .finished => ∀ r ∈ s.table, Good r

theorem Inv.wrote {w : ω} {table : List ρ} (hs : Sound job Good Valid) (h : Inv job Good s)
    (hw : job.writes w s.table table) : Inv job Good { s with table := table } := by
  obtain ⟨old, last, phase⟩ := s
  cases phase with
  | idle =>
      intro r' hr' hle
      rcases hs.written hw r' hr' with hgood | ⟨r, hr, hkey, himp⟩
      · exact hgood
      · exact himp (h r hr (hkey ▸ hle))
  | filling todo done =>
      have hf : Filling Good ⟨old, last, .filling todo done⟩ job.key todo done := h
      refine ⟨fun r' hr' hle => ?_, hf.above, fun k hk => ?_⟩
      · rcases hs.written hw r' hr' with hgood | ⟨r, hr, hkey, himp⟩
        · exact .inr hgood
        · rw [← hkey] at hle ⊢
          exact (hf.covered r hr hle).imp_right himp
      · obtain ⟨r, hr, rfl⟩ := hf.present k hk
        exact hs.kept hw r hr
  | finished =>
      intro r' hr'
      rcases hs.written hw r' hr' with hgood | ⟨r, hr, _, himp⟩
      · exact hgood
      · exact himp (h r hr)

theorem Inv.selected (hs : Sound job Good Valid) (h : Inv job Good s) (hp : s.phase = .idle) :
    Inv job Good { s with phase := .filling (batch job s.last s.table) [] } := by
  obtain ⟨table, last, phase⟩ := s
  obtain rfl : phase = .idle := hp
  refine ⟨fun r hr hle => ?_, fun k hk => ?_, fun k hk => (mem_batch hk).2⟩
  · rw [List.append_nil] at hle
    by_cases hlt : last < job.key r
    · exact .inl (batch_covers hs.limit hr hlt hle)
    · exact .inr (h r hr (not_lt.mp hlt))
  · rw [List.append_nil] at hk
    exact (mem_batch hk).1

theorem mem_filled {r' : ρ} {t : List ρ} (hs : Sound job Good Valid) (h : r' ∈ filled job k t) :
    ∃ r ∈ t, job.key r' = job.key r ∧ (job.key r = k → Good r') ∧ (job.key r ≠ k → r' = r) := by
  obtain ⟨r, hr, rfl⟩ := Table.mem_update.mp h
  refine ⟨r, hr, ?_⟩
  by_cases hk : job.key r = k
  · simp [hk, hs.key, hs.good]
  · simp [hk]

theorem Inv.filled (hs : Sound job Good Valid) (h : Filling Good s job.key todo done) (hk : k ∈ todo) :
    Filling Good { s with
      table := filled job k s.table
      phase := .filling (todo.erase k) (done ++ [k]) } job.key (todo.erase k) (done ++ [k]) := by
  have hsame : ∀ x, x ∈ todo.erase k ++ (done ++ [k]) ↔ x ∈ todo ++ done := by
    intro x
    by_cases hx : x = k
    · simp [hx, hk]
    · simp [hx, List.mem_erase_of_ne hx]
  have hne : todo ++ done ≠ [] := List.ne_nil_of_mem (List.mem_append_left _ hk)
  refine ⟨fun r' hr' hle => ?_, fun x hx => h.above x ((hsame x).mp hx), fun x hx => ?_⟩
  · obtain ⟨r, hr, hkey, hfill, hother⟩ := mem_filled hs hr'
    have hle' : ∃ x ∈ todo ++ done, job.key r ≤ x := by
      rcases hle with hnil | ⟨x, hx, hle⟩
      · simp at hnil
      · exact ⟨x, (hsame x).mp hx, hkey ▸ hle⟩
    by_cases hrk : job.key r = k
    · exact .inr (hfill hrk)
    · obtain rfl := hother hrk
      exact (h.covered r' hr (.inr hle')).imp_left (List.mem_erase_of_ne hrk).mpr
  · obtain ⟨r, hr, rfl⟩ := h.present x (List.mem_of_mem_erase hx)
    refine ⟨if job.key r = k then job.fill r else r, Table.mem_update.mpr ⟨r, hr, by simp⟩, ?_⟩
    split
    · exact hs.key r
    · rfl

theorem Inv.returned (h : Filling Good s job.key [] done) :
    Inv job Good (match greatest done with
      | none => { s with phase := .finished }
      | some last => { s with last := last, phase := .idle }) := by
  cases hg : greatest done with
  | none =>
      obtain rfl := greatest_none hg
      exact fun r hr => (h.covered r hr (.inl rfl)).resolve_left (by simp)
  | some last =>
      obtain ⟨hmem, -⟩ := greatest_some hg
      exact fun r hr hle => (h.covered r hr (.inr ⟨last, hmem, hle⟩)).resolve_left (by simp)

theorem Filling.any (h : Filling Good s job.key todo done) (hk : k ∈ todo) :
    s.table.any (fun r => decide (job.key r = k)) = true := by
  obtain ⟨r, hr, hkey⟩ := h.present k hk
  exact List.any_eq_true.mpr ⟨r, hr, decide_eq_true hkey⟩

theorem Inv.filling (h : Inv job Good s) (hp : s.phase = .filling todo done) :
    Filling Good s job.key todo done := by
  simpa only [Inv, hp] using h

theorem Step.inv (hs : Sound job Good Valid) (hstep : Step job s a t) (h : Inv job Good s) :
    Inv job Good t := by
  cases a with
  | wrote w =>
      obtain ⟨table, hw, rfl⟩ := hstep
      exact h.wrote hs hw
  | selected =>
      obtain ⟨hp, rfl⟩ := hstep
      exact h.selected hs hp
  | filled k =>
      obtain ⟨todo, done, hp, hk, rfl⟩ := hstep
      rw [if_pos ((h.filling hp).any hk)]
      exact Inv.filled hs (h.filling hp) hk
  | returned =>
      obtain ⟨done, hp, rfl⟩ := hstep
      exact Inv.returned (h.filling hp)

theorem runs_inv (hs : Sound job Good Valid) {as : List (Action ω κ)} (hr : Run (Step job) s as t)
    (h : Inv job Good s) : Inv job Good t :=
  hr.invariant (I := Inv job Good) (fun _ _ _ h hstep => hstep.inv hs h) h

theorem filterMap_snoc {α β : Type} (f : α → Option β) (xs : List α) (x : α) :
    (xs ++ [x]).filterMap f = xs.filterMap f ++ (f x).toList := by
  cases h : f x <;> simp [h]

def Action.fills : Action ω κ → Option κ
  | .filled k => some k
  | _ => none

-- the keys written so far, against the batch at work
structure Once (Valid : List ρ → Prop) (s : State ρ κ) (seen : List κ) : Prop where
  valid : Valid s.table
  once : seen.Nodup
  behind : ∀ k ∈ seen, k ≤ s.last ∨ ∃ todo done, s.phase = .filling todo done ∧ k ∈ done
  batch : ∀ todo done, s.phase = .filling todo done → todo.Nodup ∧ ∀ k ∈ todo, k ∉ done

theorem Step.once (hs : Sound job Good Valid) (hstep : Step job s a t) (hi : Inv job Good s)
    {seen : List κ} (h : Once Valid s seen) : Once Valid t (seen ++ a.fills.toList) := by
  cases a with
  | wrote w =>
      obtain ⟨table, hw, rfl⟩ := hstep
      exact ⟨hs.valid hw h.valid, by simpa [Action.fills] using h.once,
        by simpa [Action.fills] using h.behind, h.batch⟩
  | selected =>
      obtain ⟨hp, rfl⟩ := hstep
      refine ⟨h.valid, by simpa [Action.fills] using h.once, fun k hk => .inl ?_,
        fun todo done heq => ?_⟩
      · rcases h.behind k (by simpa [Action.fills] using hk) with hle | ⟨todo, done, heq, -⟩
        · exact hle
        · simp [hp] at heq
      · obtain ⟨rfl, rfl⟩ := Phase.filling.inj heq
        exact ⟨batch_nodup (hs.unique h.valid), by simp⟩
  | filled k =>
      obtain ⟨todo, done, hp, hk, rfl⟩ := hstep
      have hf := hi.filling hp
      obtain ⟨hnodup, hapart⟩ := h.batch todo done hp
      rw [if_pos (hf.any hk)]
      refine ⟨hs.valid_filled h.valid, ?_, fun x hx => ?_,
        fun todo' done' heq => ?_⟩
      · refine List.nodup_append.mpr ⟨h.once, by simp [Action.fills], fun x hx y hy => ?_⟩
        obtain rfl : y = k := by simpa [Action.fills] using hy
        rintro rfl
        rcases h.behind x hx with hle | ⟨todo', done', heq, hdone⟩
        · exact absurd (hf.above x (List.mem_append_left _ hk)) (not_lt.mpr hle)
        · obtain ⟨rfl, rfl⟩ := Phase.filling.inj (hp.symm.trans heq)
          exact hapart x hk hdone
      · rcases List.mem_append.mp hx with hx | hx
        · refine (h.behind x hx).imp_right ?_
          rintro ⟨todo', done', heq, hdone⟩
          obtain ⟨rfl, rfl⟩ := Phase.filling.inj (hp.symm.trans heq)
          exact ⟨_, _, rfl, List.mem_append_left _ hdone⟩
        · obtain rfl : x = k := by simpa [Action.fills] using hx
          exact .inr ⟨_, _, rfl, by simp⟩
      · obtain ⟨rfl, rfl⟩ := Phase.filling.inj heq
        refine ⟨hnodup.erase k, fun x hx hdone => ?_⟩
        obtain ⟨hne, hx⟩ := (hnodup.mem_erase_iff).mp hx
        rcases List.mem_append.mp hdone with hdone | hdone
        · exact hapart x hx hdone
        · exact hne (List.mem_singleton.mp hdone)
  | returned =>
      obtain ⟨done, hp, rfl⟩ := hstep
      have hseen : seen ++ (Action.fills (Action.returned : Action ω κ)).toList = seen := by
        simp [Action.fills]
      rw [hseen]
      have hbehind : ∀ k ∈ seen, k ≤ s.last ∨ k ∈ done := by
        intro k hk
        refine (h.behind k hk).imp_right ?_
        rintro ⟨todo', done', heq, hdone⟩
        obtain ⟨-, rfl⟩ := Phase.filling.inj (hp.symm.trans heq)
        exact hdone
      cases hg : greatest done with
      | none =>
          obtain rfl := greatest_none hg
          exact ⟨h.valid, h.once, fun k hk => .inl ((hbehind k hk).resolve_right (by simp)),
            by simp⟩
      | some last =>
          obtain ⟨hmem, hle⟩ := greatest_some hg
          have hlast := (hi.filling hp).above last (by simpa using hmem)
          exact ⟨h.valid, h.once, fun k hk => .inl ((hbehind k hk).elim
            (fun hk => hk.trans hlast.le) (hle k)), by simp⟩

theorem filled_once (hs : Sound job Good Valid) {as : List (Action ω κ)} (hr : Run (Step job) s as t)
    (hi : Inv job Good s) (hp : s.phase = .idle) (hv : Valid s.table) :
    (as.filterMap Action.fills).Nodup := by
  have hboth : Inv job Good t ∧ Once Valid t (as.filterMap Action.fills) := by
    refine hr.history (I := fun as s => Inv job Good s ∧ Once Valid s (as.filterMap Action.fills))
      (fun as s a t h hstep => ⟨hstep.inv hs h.1, ?_⟩) ⟨hi, hv, List.nodup_nil, by simp, by simp [hp]⟩
    exact filterMap_snoc Action.fills as a ▸ hstep.once hs h.1 h.2
  exact hboth.2.once

def Action.writes : Action ω κ → Option ω
  | .wrote w => some w
  | _ => none

-- the writers neither read the column nor see it written
structure Hidden {ν : Type} (job : Job ρ κ ω) (view : ρ → ν) : Prop where
  fill : ∀ r, view (job.fill r) = view r
  writes : ∀ {w t t' u}, job.writes w t t' → u.map view = t.map view →
    ∃ u', job.writes w u u' ∧ u'.map view = t'.map view

theorem runs_hidden {ν : Type} {view : ρ → ν} (hh : Hidden job view) {as : List (Action ω κ)}
    (hr : Run (Step job) s as t) :
    ∃ u, Run (fun t w t' => job.writes w t t') s.table (as.filterMap Action.writes) u ∧
      u.map view = t.table.map view := by
  induction hr with
  | nil => exact ⟨_, .nil _, rfl⟩
  | @snoc s t as a hr hstep ih =>
      obtain ⟨u, hu, hview⟩ := ih
      rw [filterMap_snoc]
      cases a with
      | wrote w =>
          obtain ⟨table, hw, rfl⟩ := hstep
          obtain ⟨u', hu', hview'⟩ := hh.writes hw hview
          exact ⟨u', .snoc hu hu', hview'⟩
      | selected =>
          obtain ⟨-, rfl⟩ := hstep
          exact ⟨u, by simpa only [Action.writes, Option.toList_none, List.append_nil] using hu, hview⟩
      | filled k =>
          obtain ⟨todo, done, -, -, rfl⟩ := hstep
          refine ⟨u, by simpa only [Action.writes, Option.toList_none, List.append_nil] using hu,
            hview.trans ?_⟩
          exact (Table.keys_update (fun r _ => hh.fill r) _).symm
      | returned =>
          obtain ⟨done, -, rfl⟩ := hstep
          refine ⟨u, by simpa only [Action.writes, Option.toList_none, List.append_nil] using hu, ?_⟩
          cases greatest done <;> exact hview

end Backfill

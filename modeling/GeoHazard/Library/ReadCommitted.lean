import GeoHazard.Library.Dict
import GeoHazard.Library.Transition

namespace ReadCommitted
open Transition

variable {δ ω π κ ε ρ : Type}

-- what is left of the program of an open transaction, and what it has written so far
structure Session (ω π : Type) where
  todo : List π
  writes : List ω

structure Shared (δ ω π : Type) where
  db : δ
  sessions : List (Nat × Session ω π)

inductive Move (κ : Type) where
  | start (session : Nat) (command : κ)
  | next (session : Nat)
  | commit (session : Nat)
  | abort (session : Nat)

structure Engine (δ ω π κ ε ρ : Type) where
  program : κ → List π
  perform : π → δ → Except ε (List ω × List π)
  apply : δ → ω → δ
  -- what a write takes from the sequences, which no abort gives back
  draw : δ → ω → δ
  -- the rows a write keeps locked until its transaction ends
  rows : ω → List ρ

variable (E : Engine δ ω π κ ε ρ)

-- a statement reads what is committed, and on top of it the writes of its own transaction
def Engine.view (db : δ) (writes : List ω) : δ := writes.foldl E.apply db

def Engine.drawn (db : δ) (writes : List ω) : δ := writes.foldl E.draw db

def Engine.disjoint [DecidableEq ρ] (ws writes : List ω) : Bool :=
  ws.all (fun w => writes.all (fun w' => (E.rows w).all (fun r => decide (r ∉ E.rows w'))))

def Engine.unlocked [DecidableEq ρ] (s : Shared δ ω π) (i : Nat) (ws : List ω) : Bool :=
  s.sessions.all (fun p => decide (p.1 = i) || E.disjoint ws p.2.writes)

def Engine.step [DecidableEq ρ] (s : Shared δ ω π) : Move κ → Option (Shared δ ω π)
  | .start i command =>
      match Dict.get i s.sessions with
      | none => some { s with sessions := Dict.set i ⟨E.program command, []⟩ s.sessions }
      | some _ => none
  | .next i =>
      match Dict.get i s.sessions with
      | some ⟨p :: todo, writes⟩ =>
          match E.perform p (E.view s.db writes) with
          | .ok (ws, ps) =>
              -- a statement that meets a locked row waits
              if E.unlocked s i ws then
                some ⟨E.drawn s.db ws, Dict.set i ⟨ps ++ todo, writes ++ ws⟩ s.sessions⟩
              else none
          | .error _ => none
      | _ => none
  | .commit i =>
      match Dict.get i s.sessions with
      | some ⟨[], writes⟩ => some ⟨E.view s.db writes, Dict.erase i s.sessions⟩
      | _ => none
  | .abort i =>
      match Dict.get i s.sessions with
      | some _ => some { s with sessions := Dict.erase i s.sessions }
      | none => none

def Engine.Step [DecidableEq ρ] (s : Shared δ ω π) (a : Move κ) (t : Shared δ ω π) : Prop :=
  E.step s a = some t

variable {E} [DecidableEq ρ]

theorem Step.cases {s t : Shared δ ω π} {a : Move κ} (h : E.Step s a t) :
    (∃ i command, a = .start i command ∧ Dict.get i s.sessions = none ∧
      t = ⟨s.db, Dict.set i ⟨E.program command, []⟩ s.sessions⟩) ∨
    (∃ i p todo writes ws ps, a = .next i ∧ Dict.get i s.sessions = some ⟨p :: todo, writes⟩ ∧
      E.perform p (E.view s.db writes) = .ok (ws, ps) ∧ E.unlocked s i ws = true ∧
      t = ⟨E.drawn s.db ws, Dict.set i ⟨ps ++ todo, writes ++ ws⟩ s.sessions⟩) ∨
    (∃ i writes, a = .commit i ∧ Dict.get i s.sessions = some ⟨[], writes⟩ ∧
      t = ⟨E.view s.db writes, Dict.erase i s.sessions⟩) ∨
    (∃ i x, a = .abort i ∧ Dict.get i s.sessions = some x ∧
      t = ⟨s.db, Dict.erase i s.sessions⟩) := by
  cases a with
  | start i command =>
      simp only [Engine.Step, Engine.step] at h
      split at h
      · next hi => exact .inl ⟨i, command, rfl, hi, (Option.some.inj h).symm⟩
      · simp at h
  | next i =>
      simp only [Engine.Step, Engine.step] at h
      split at h
      · next p todo writes hi =>
          split at h
          · next ws ps hp =>
              split at h
              · next hu =>
                  exact .inr (.inl ⟨i, p, todo, writes, ws, ps, rfl, hi, hp, hu,
                    (Option.some.inj h).symm⟩)
              · simp at h
          · simp at h
      · simp at h
  | commit i =>
      simp only [Engine.Step, Engine.step] at h
      split at h
      · next writes hi =>
          exact .inr (.inr (.inl ⟨i, writes, rfl, hi, (Option.some.inj h).symm⟩))
      · simp at h
  | abort i =>
      simp only [Engine.Step, Engine.step] at h
      split at h
      · next x hi => exact .inr (.inr (.inr ⟨i, x, rfl, hi, (Option.some.inj h).symm⟩))
      · simp at h

theorem disjoint_append {ws ws' writes : List ω} :
    E.disjoint (ws ++ ws') writes = true ↔
      E.disjoint ws writes = true ∧ E.disjoint ws' writes = true := by
  simp [Engine.disjoint]

theorem rows_disjoint_iff {ws writes : List ω} :
    E.disjoint ws writes = true ↔ ∀ w ∈ ws, ∀ w' ∈ writes, ∀ r ∈ E.rows w, r ∉ E.rows w' := by
  simp [Engine.disjoint]

theorem disjoint_comm {ws writes : List ω} (h : E.disjoint ws writes = true) :
    E.disjoint writes ws = true := by
  rw [rows_disjoint_iff] at h ⊢
  exact fun w hw w' hw' r hr hr' => h w' hw' w hw r hr' hr

variable {C : Shared δ ω π → Move κ → Prop}

def Engine.run (E : Engine δ ω π κ ε ρ) (C : Shared δ ω π → Move κ → Prop)
    [∀ s a, Decidable (C s a)] (s : Shared δ ω π) : List (Move κ) → Option (Shared δ ω π)
  | [] => some s
  | a :: as => if C s a then (E.step s a).bind (fun t => E.run C t as) else none

theorem run_sound [∀ s a, Decidable (C s a)] {s t : Shared δ ω π} {as : List (Move κ)}
    (h : E.run C s as = some t) : Run (Guarded C E.Step) s as t := by
  induction as generalizing s with
  | nil => exact Option.some.inj h ▸ .nil s
  | cons a as ih =>
      simp only [Engine.run] at h
      split at h
      · next hc =>
          obtain ⟨u, hu, ht⟩ := Option.bind_eq_some_iff.mp h
          exact .cons ⟨hc, hu⟩ (ih ht)
      · simp at h

-- an assertion about what is committed, and one for each open transaction
def Holds (J : δ → Prop) (L : δ → Session ω π → Prop) (s : Shared δ ω π) : Prop :=
  J s.db ∧ ∀ i x, Dict.get i s.sessions = some x → L s.db x

-- what a proof owes: each transaction keeps its own assertion and the commits of the others keep it
structure Outline (E : Engine δ ω π κ ε ρ) (C : Shared δ ω π → Move κ → Prop) (J : δ → Prop)
    (L : δ → Session ω π → Prop) : Prop where
  start : ∀ db command, L db ⟨E.program command, []⟩
  next : ∀ db p todo writes ws ps, J db → L db ⟨p :: todo, writes⟩ →
    E.perform p (E.view db writes) = .ok (ws, ps) →
    L (E.drawn db ws) ⟨ps ++ todo, writes ++ ws⟩
  draw : ∀ db w, J db → J (E.draw db w)
  drawn : ∀ db w x, L db x → L (E.draw db w) x
  commit : ∀ s i writes, Holds J L s → C s (.commit i) →
    Dict.get i s.sessions = some ⟨[], writes⟩ → J (E.view s.db writes) ∧
      ∀ j x, j ≠ i → Dict.get j s.sessions = some x → L (E.view s.db writes) x

variable {J : δ → Prop} {L : δ → Session ω π → Prop}

omit [DecidableEq ρ] in
theorem Outline.drawn_all (h : Outline E C J L) {db : δ} (ws : List ω) :
    (J db → J (E.drawn db ws)) ∧ ∀ x, L db x → L (E.drawn db ws) x := by
  induction ws generalizing db with
  | nil => exact ⟨id, fun _ => id⟩
  | cons w ws ih =>
      exact ⟨fun hj => ih.1 (h.draw db w hj), fun x hx => ih.2 x (h.drawn db w x hx)⟩

theorem Outline.step (h : Outline E C J L) {s t : Shared δ ω π} {a : Move κ} (hs : Holds J L s)
    (ha : Guarded C E.Step s a t) : Holds J L t := by
  obtain ⟨hc, hstep⟩ := ha
  rcases Step.cases hstep with ⟨i, command, rfl, _, rfl⟩ |
    ⟨i, p, todo, writes, ws, ps, rfl, hi, hp, _, rfl⟩ | ⟨i, writes, rfl, hi, rfl⟩ |
    ⟨i, x, rfl, _, rfl⟩
  · refine ⟨hs.1, fun j y hj => ?_⟩
    rw [Dict.get_set] at hj
    split at hj
    · exact Option.some.inj hj ▸ h.start s.db command
    · exact hs.2 j y hj
  · refine ⟨(h.drawn_all ws).1 hs.1, fun j y hj => ?_⟩
    rw [Dict.get_set] at hj
    split at hj
    · exact Option.some.inj hj ▸ h.next s.db p todo writes ws ps hs.1 (hs.2 i _ hi) hp
    · exact (h.drawn_all ws).2 y (hs.2 j y hj)
  · obtain ⟨hj, hl⟩ := h.commit s i writes hs hc hi
    refine ⟨hj, fun j y hy => ?_⟩
    rw [Dict.get_erase] at hy
    split at hy
    · simp at hy
    · next hne => exact hl j y (fun he => hne he.symm) hy
  · refine ⟨hs.1, fun j y hy => ?_⟩
    rw [Dict.get_erase] at hy
    split at hy
    · simp at hy
    · exact hs.2 j y hy

theorem Outline.run (h : Outline E C J L) {s t : Shared δ ω π} {as : List (Move κ)}
    (hr : Run (Guarded C E.Step) s as t) (hs : Holds J L s) : Holds J L t :=
  hr.invariant (fun _ _ _ hu ha => h.step hu ha) hs

-- a program with no other transaction around, from one state of the database to the next
inductive Alone (E : Engine δ ω π κ ε ρ) : δ → List π → δ → Prop
  | done (db : δ) : Alone E db [] db
  | next {db db' : δ} {p : π} {todo ps : List π} {ws : List ω} : E.perform p db = .ok (ws, ps) →
      Alone E (E.drawn (E.view db ws) ws) (ps ++ todo) db' → Alone E db (p :: todo) db'

omit [DecidableEq ρ] in
theorem Alone.append {db db' db'' : δ} {ps qs : List π} (h : Alone E db ps db')
    (k : Alone E db' qs db'') : Alone E db (ps ++ qs) db'' := by
  induction h with
  | done _ => exact k
  | next hp _ ih => exact .next hp (by simpa using ih k)

section Alone

variable (hcomm : ∀ db w w', E.apply (E.draw db w) w' = E.draw (E.apply db w') w)
include hcomm

omit [DecidableEq ρ] in
theorem view_draw (db : δ) (w : ω) (writes : List ω) :
    E.view (E.draw db w) writes = E.draw (E.view db writes) w := by
  induction writes generalizing db with
  | nil => rfl
  | cons w' writes ih =>
      simp only [Engine.view, List.foldl_cons, hcomm] at ih ⊢
      exact ih _

omit [DecidableEq ρ] in
theorem view_drawn (db : δ) (ws writes : List ω) :
    E.view (E.drawn db ws) writes = E.drawn (E.view db writes) ws := by
  induction ws generalizing db with
  | nil => rfl
  | cons w ws ih =>
      simp only [Engine.drawn, List.foldl_cons] at ih ⊢
      rw [ih, view_draw hcomm]

theorem Alone.run {db base : δ} {todo : List π} {db' : δ} (h : Alone E db todo db') (i : Nat)
    {writes : List ω} (hv : E.view base writes = db) :
    ∃ n, Run E.Step ⟨base, [(i, ⟨todo, writes⟩)]⟩ (List.replicate n (.next i) ++ [.commit i])
      ⟨db', []⟩ := by
  induction h generalizing base writes with
  | done db =>
      refine ⟨0, .one ?_⟩
      simp [Engine.Step, Engine.step, Dict.get, Dict.erase, hv]
  | @next db db' p todo ps ws hp _ ih =>
      have hview : E.view (E.drawn base ws) (writes ++ ws) = E.drawn (E.view db ws) ws := by
        rw [view_drawn hcomm, Engine.view, List.foldl_append]
        exact congrArg (fun d => E.drawn (E.view d ws) ws) hv
      obtain ⟨n, hn⟩ := ih hview
      refine ⟨n + 1, .cons ?_ hn⟩
      simp [Engine.Step, Engine.step, Engine.unlocked, Dict.get, Dict.set, hv, hp]

end Alone

end ReadCommitted

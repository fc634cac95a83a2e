import GeoHazard.Library.ReadCommitted

namespace ReadCommitted
open Transition

variable {δ ω π κ ε ρ : Type} {E : Engine δ ω π κ ε ρ}

-- statements that take nothing from the sequences, and neither do those they go on to
structure Drawless (E : Engine δ ω π κ ε ρ) (N : π → Prop) : Prop where
  drawn : ∀ p v ws ps, N p → E.perform p v = .ok (ws, ps) → ∀ db, E.drawn db ws = db
  todo : ∀ p v ws ps, N p → E.perform p v = .ok (ws, ps) → ∀ q ∈ ps, N q

-- what a session has been through over a committed state that stays as it is
inductive Trace (E : Engine δ ω π κ ε ρ) (N : π → Prop) (db : δ) (program : List π) :
    List ω → List π → Prop
  | start : Trace E N db program [] program
  | next {writes ws : List ω} {p : π} {todo ps : List π} :
      Trace E N db program writes (p :: todo) → N p →
      E.perform p (E.view db writes) = .ok (ws, ps) →
      Trace E N db program (writes ++ ws) (ps ++ todo)

variable {N : π → Prop} {db X Y : δ} {program todo : List π} {writes : List ω}

theorem view_append (db : δ) (writes ws : List ω) :
    E.view db (writes ++ ws) = E.view (E.view db writes) ws := by
  simp [Engine.view]

theorem Trace.mono {M : π → Prop} (h : Trace E N db program writes todo) (hN : ∀ p, N p → M p) :
    Trace E M db program writes todo := by
  induction h with
  | start => exact .start
  | next _ hp hq ih => exact .next ih (hN _ hp) hq

theorem Trace.drawless (hd : Drawless E N) (hN : ∀ p ∈ program, N p)
    (h : Trace E N db program writes todo) : ∀ p ∈ todo, N p := by
  induction h with
  | start => exact hN
  | next _ hp hq ih =>
      intro q hq'
      rcases List.mem_append.mp hq' with hm | hm
      · exact hd.todo _ _ _ _ hp hq q hm
      · exact ih q (List.mem_cons_of_mem _ hm)

theorem Alone.step {p : π} {ws : List ω} {ps : List π} (h : Alone E db (p :: todo) X)
    (hp : E.perform p db = .ok (ws, ps)) : Alone E (E.drawn (E.view db ws) ws) (ps ++ todo) X := by
  cases h with
  | next hq h =>
      rw [hp, Except.ok.injEq, Prod.mk.injEq] at hq
      obtain ⟨rfl, rfl⟩ := hq
      exact h

theorem Alone.end_eq (h : Alone E db [] X) : db = X := by
  cases h with
  | done => rfl

theorem Alone.unique (h : Alone E db todo X) (k : Alone E db todo Y) : X = Y := by
  induction h with
  | done db => exact k.end_eq
  | next hp _ ih => exact ih (k.step hp)

theorem Alone.after {ps qs : List π} (h : Alone E db ps Y) (k : Alone E db (ps ++ qs) X) :
    Alone E Y qs X := by
  induction h with
  | done => exact k
  | next hp _ ih =>
      rw [List.cons_append] at k
      have hrest := k.step hp
      rw [← List.append_assoc] at hrest
      exact ih hrest

theorem Alone.split {ps qs : List π} (h : Alone E db (ps ++ qs) X) :
    ∃ Y, Alone E db ps Y ∧ Alone E Y qs X := by
  generalize hts : ps ++ qs = todo at h
  induction h generalizing ps with
  | done db =>
      obtain ⟨rfl, rfl⟩ := List.append_eq_nil_iff.mp hts
      exact ⟨db, .done db, .done db⟩
  | @next db db' p todo ts ws hp hrest ih =>
      cases ps with
      | nil =>
          obtain rfl := hts
          exact ⟨db, .done db, .next hp hrest⟩
      | cons q ps =>
          obtain ⟨rfl, rfl⟩ := List.cons.inj hts
          obtain ⟨Y, hY, hX⟩ := @ih (ts ++ ps) (List.append_assoc ts ps qs)
          exact ⟨Y, .next hp hY, hX⟩

theorem Trace.rest (hd : Drawless E N) (h : Trace E N db program writes todo)
    (hX : Alone E db program X) : Alone E (E.view db writes) todo X := by
  induction h with
  | start => exact hX
  | next _ hp hq ih =>
      have hrest := ih.step hq
      rwa [hd.drawn _ _ _ _ hp hq, ← view_append] at hrest

theorem Trace.alone (hd : Drawless E N) (h : Trace E N db program writes todo)
    (hX : Alone E (E.view db writes) todo X) : Alone E db program X := by
  induction h with
  | start => exact hX
  | next _ hp hq ih =>
      refine ih (.next hq ?_)
      rwa [hd.drawn _ _ _ _ hp hq, ← view_append]

theorem Alone.reach (hd : Drawless E N) {ps qs : List π} (h : Alone E db (ps ++ qs) X)
    (hN : ∀ p ∈ ps, N p) : ∃ writes, Trace E N db (ps ++ qs) writes qs := by
  have hreach : ∀ {v Y : δ} {todo : List π}, Alone E v todo Y → ∀ {rs : List π} {writes : List ω},
      todo = rs ++ qs → v = E.view db writes → (∀ p ∈ rs, N p) →
      Trace E N db (ps ++ qs) writes (rs ++ qs) → ∃ writes, Trace E N db (ps ++ qs) writes qs := by
    intro v Y todo h
    induction h with
    | done db' =>
        intro rs writes ht _ _ htrace
        obtain ⟨rfl, _⟩ := List.append_eq_nil_iff.mp ht.symm
        exact ⟨writes, htrace⟩
    | @next v Y p todo ts ws hp hrest ih =>
        intro rs writes ht hv hrs htrace
        cases rs with
        | nil => exact ⟨writes, htrace⟩
        | cons q rs =>
            rw [List.cons_append] at ht htrace
            obtain ⟨rfl, rfl⟩ := List.cons.inj ht
            have hNp := hrs p List.mem_cons_self
            have hnext := htrace.next hNp (hv ▸ hp)
            rw [← List.append_assoc] at hnext
            refine ih (List.append_assoc ts rs qs).symm ?_ (fun x hx => ?_) hnext
            · rw [hd.drawn _ _ _ _ hNp hp, hv, view_append]
            · exact (List.mem_append.mp hx).elim (hd.todo p v ws ts hNp hp x)
                (fun hx => hrs x (List.mem_cons_of_mem _ hx))
  exact hreach h rfl rfl hN .start

theorem view_comm {f : δ → δ} (h : ∀ w ∈ writes, ∀ d, E.apply (f d) w = f (E.apply d w)) (db : δ) :
    E.view (f db) writes = f (E.view db writes) := by
  induction writes generalizing db with
  | nil => rfl
  | cons w writes ih =>
      simp only [Engine.view, List.foldl_cons, h w (by simp)]
      exact ih (fun w' hw' => h w' (by simp [hw'])) _

theorem Trace.transfer {f : δ → δ} (h : Trace E N db program writes todo)
    (hsame : ∀ p v, N p → E.perform p (f v) = E.perform p v)
    (hcomm : ∀ w ∈ writes, ∀ d, E.apply (f d) w = f (E.apply d w)) :
    Trace E N (f db) program writes todo := by
  induction h with
  | start => exact .start
  | @next writes ws p todo ps _ hp hq ih =>
      have hleft : ∀ w ∈ writes, ∀ d, E.apply (f d) w = f (E.apply d w) :=
        fun w hw => hcomm w (List.mem_append_left _ hw)
      refine .next (ih hleft) hp ?_
      rw [view_comm hleft, hsame _ _ hp, hq]

-- statements closed under what they go on to, that do not see f and commute with it
structure Blind (E : Engine δ ω π κ ε ρ) (f : δ → δ) (N : π → Prop) : Prop where
  same : ∀ p v, N p → E.perform p (f v) = E.perform p v
  comm : ∀ p v ws ps, N p → E.perform p v = .ok (ws, ps) →
    ∀ w ∈ ws, ∀ d, E.apply (f d) w = f (E.apply d w)

theorem Alone.transfer {f : δ → δ} (hd : Drawless E N) (hf : Blind E f N)
    (h : Alone E db todo X) (hN : ∀ p ∈ todo, N p) : Alone E (f db) todo (f X) := by
  induction h with
  | done => exact .done _
  | @next db X p todo ps ws hp _ ih =>
      have hNp := hN p List.mem_cons_self
      refine .next ((hf.same p db hNp).trans hp) ?_
      have hrest := ih (fun q hq => (List.mem_append.mp hq).elim
        (hd.todo p db ws ps hNp hp q) (fun hq => hN q (List.mem_cons_of_mem _ hq)))
      rw [hd.drawn p db ws ps hNp hp] at hrest ⊢
      rwa [view_comm (hf.comm p db ws ps hNp hp)]

def Move.Advances : Move κ → Prop
  | .next _ | .commit _ => True
  | .start _ _ | .abort _ => False

theorem blocked {s : Shared δ ω π} [DecidableEq ρ] (h : s.sessions.all (fun p =>
    (E.step s (.next p.1)).isNone && (E.step s (.commit p.1)).isNone) = true) :
    ∀ a t, a.Advances → ¬ E.Step s a t := by
  have hall : ∀ i x, Dict.get i s.sessions = some x →
      E.step s (.next i) = none ∧ E.step s (.commit i) = none := by
    intro i x hi
    simpa using List.all_eq_true.mp h (i, x) (Dict.mem_of_get hi)
  intro a t ha hst
  rcases Step.cases hst with ⟨_, _, rfl, _⟩ | ⟨i, _, _, _, _, _, rfl, hi, _⟩ | ⟨i, _, rfl, hi, _⟩ |
    ⟨_, _, rfl, _⟩
  · exact ha.elim
  · simp [Engine.Step, (hall i _ hi).1] at hst
  · simp [Engine.Step, (hall i _ hi).2] at hst
  · exact ha.elim

section Weight

variable [DecidableEq ρ]

-- each statement goes on to less than it was
structure Shrinks (E : Engine δ ω π κ ε ρ) (N : π → Prop) (weight : π → Nat) : Prop where
  todo : ∀ p v ws ps, N p → E.perform p v = .ok (ws, ps) → ∀ q ∈ ps, N q
  less : ∀ p v ws ps, N p → E.perform p v = .ok (ws, ps) → Dict.total weight ps < weight p

def Shared.weight (weight : π → Nat) (s : Shared δ ω π) : Nat :=
  Dict.total (fun x => Dict.total weight x.todo + 1) (Dict.values s.sessions)

def Shared.Within (N : π → Prop) (s : Shared δ ω π) : Prop :=
  ∀ p ∈ s.sessions, ∀ q ∈ p.2.todo, N q

theorem Shrinks.step {weight : π → Nat} (h : Shrinks E N weight) {s t : Shared δ ω π} {a : Move κ}
    (hs : s.Within N) (ha : a.Advances) (hst : E.Step s a t) :
    t.Within N ∧ t.weight weight < s.weight weight := by
  rcases Step.cases hst with ⟨i, command, rfl, _⟩ | ⟨i, p, todo, writes, ws, ps, rfl, hi, hp, _, rfl⟩ |
    ⟨i, writes, rfl, hi, rfl⟩ | ⟨i, x, rfl, _⟩
  · exact ha.elim
  · have hmem := hs _ (Dict.mem_of_get hi)
    have hNp := hmem p List.mem_cons_self
    refine ⟨fun r hr q hq => ?_, ?_⟩
    · rcases Dict.mem_set hr with rfl | hr
      · rcases List.mem_append.mp hq with hq | hq
        · exact h.todo _ _ _ _ hNp hp q hq
        · exact hmem q (List.mem_cons_of_mem _ hq)
      · exact hs r hr q hq
    · have hsum := @Dict.total_set _ _ _ i ⟨ps ++ todo, writes ++ ws⟩ _ s.sessions
        (fun x => Dict.total weight x.todo + 1) hi
      have hless := h.less _ _ _ _ hNp hp
      simp only [Shared.weight, Dict.total_append, Dict.total_cons] at hsum ⊢
      omega
  · refine ⟨fun r hr => hs r (List.mem_filter.mp hr).1, ?_⟩
    have hsum := Dict.total_erase (fun x : Session ω π => Dict.total weight x.todo + 1) hi
    simp only [Shared.weight, Dict.total_nil] at hsum ⊢
    omega
  · exact ha.elim

theorem Shrinks.run {weight : π → Nat} (h : Shrinks E N weight)
    {C : Shared δ ω π → Move κ → Prop} (hC : ∀ s a, C s a → a.Advances) {s t : Shared δ ω π}
    {as : List (Move κ)} (hr : Run (Guarded C E.Step) s as t) (hs : s.Within N) :
    as.length + t.weight weight ≤ s.weight weight := by
  have hall : t.Within N ∧ as.length + t.weight weight ≤ s.weight weight := by
    refine hr.history (I := fun as t => t.Within N ∧ as.length + t.weight weight ≤ s.weight weight)
      (fun as u a v hu ha => ?_) ⟨hs, by simp⟩
    obtain ⟨hin, hlt⟩ := h.step hu.1 (hC _ _ ha.1) ha.2
    have hle := hu.2
    simp only [List.length_append, List.length_singleton]
    exact ⟨hin, by omega⟩
  exact hall.2

end Weight

section Pair

variable [DecidableEq ρ]

def pair (db : δ) (x y : Session ω π) : Shared δ ω π := ⟨db, [(0, x), (1, y)]⟩

-- two sessions of which none has committed
structure Both (E : Engine δ ω π κ ε ρ) (N : π → Prop) (db : δ) (ps qs : List π)
    (x y : Session ω π) : Prop where
  left : Trace E N db ps x.writes x.todo
  right : Trace E N db qs y.writes y.todo
  apart : E.disjoint x.writes y.writes = true

-- at most one of the two is still open, and what it has left to do ends in X
inductive Phase (E : Engine δ ω π κ ε ρ) (N : π → Prop) (J : Session ω π → Session ω π → Prop)
    (Ends : δ → Prop) (db : δ) (ps qs : List π) : Shared δ ω π → Prop
  | both {x y : Session ω π} : Both E N db ps qs x y → J x y →
      Phase E N J Ends db ps qs (pair db x y)
  | one {db' X : δ} {x : Session ω π} (i : Nat) : Ends X →
      Alone E (E.view db' x.writes) x.todo X → Phase E N J Ends db ps qs ⟨db', [(i, x)]⟩
  | none {X : δ} : Ends X → Phase E N J Ends db ps qs ⟨X, []⟩

structure Duel (E : Engine δ ω π κ ε ρ) (N : π → Prop) (C : Shared δ ω π → Move κ → Prop)
    (J : Session ω π → Session ω π → Prop) (Ends : δ → Prop) (db : δ) (ps qs : List π) : Prop where
  drawless : Drawless E N
  left : ∀ p ∈ ps, N p
  right : ∀ p ∈ qs, N p
  draw_apply : ∀ db w w', E.apply (E.draw db w) w' = E.draw (E.apply db w') w
  moves : ∀ s a, C s a → a.Advances
  start : J ⟨ps, []⟩ ⟨qs, []⟩
  left_next : ∀ x y x', Both E N db ps qs x y → J x y → C (pair db x y) (.next 0) →
    E.Step (pair db x y) (.next 0) (pair db x' y) → J x' y
  right_next : ∀ x y y', Both E N db ps qs x y → J x y → C (pair db x y) (.next 1) →
    E.Step (pair db x y) (.next 1) (pair db x y') → J x y'
  left_commit : ∀ x y, Both E N db ps qs x y → x.todo = [] → C (pair db x y) (.commit 0) →
    ∃ X, Ends X ∧ Alone E (E.view (E.view db x.writes) y.writes) y.todo X
  right_commit : ∀ x y, Both E N db ps qs x y → y.todo = [] → C (pair db x y) (.commit 1) →
    ∃ X, Ends X ∧ Alone E (E.view (E.view db y.writes) x.writes) x.todo X
  progress : ∀ x y, Both E N db ps qs x y → J x y → ∃ a t, a.Advances ∧ E.Step (pair db x y) a t

variable {C : Shared δ ω π → Move κ → Prop} {J : Session ω π → Session ω π → Prop}
  {Ends : δ → Prop} {ps qs : List π}

theorem get_one {x z : Session ω π} {i j : Nat} (h : Dict.get j [(i, x)] = some z) :
    i = j ∧ x = z := by
  simp only [Dict.get] at h
  split at h
  · next hi => exact ⟨hi, Option.some.inj h⟩
  · simp at h

theorem get_pair {db : δ} {x y z : Session ω π} {i : Nat}
    (h : Dict.get i (pair db x y).sessions = some z) : (i = 0 ∧ z = x) ∨ (i = 1 ∧ z = y) := by
  simp only [pair, Dict.get] at h
  split at h
  · next hi => exact .inl ⟨hi.symm, (Option.some.inj h).symm⟩
  · split at h
    · next hi => exact .inr ⟨hi.symm, (Option.some.inj h).symm⟩
    · simp at h

section Left

variable {x y : Session ω π}

theorem Both.left_next (hd : Drawless E N) (hN : ∀ p ∈ ps, N p) {p : π} {todo ps' : List π}
    {writes ws : List ω} (h : Both E N db ps qs ⟨p :: todo, writes⟩ y)
    (hp : E.perform p (E.view db writes) = .ok (ws, ps'))
    (hu : E.unlocked (pair db ⟨p :: todo, writes⟩ y) 0 ws = true) :
    Both E N db ps qs ⟨ps' ++ todo, writes ++ ws⟩ y := by
  have hNp := h.left.drawless hd hN p List.mem_cons_self
  refine ⟨.next h.left hNp hp, h.right, disjoint_append.mpr ⟨h.apart, ?_⟩⟩
  simpa [Engine.unlocked, pair] using hu

theorem Both.right_next (hd : Drawless E N) (hN : ∀ p ∈ qs, N p) {p : π} {todo ps' : List π}
    {writes ws : List ω} (h : Both E N db ps qs x ⟨p :: todo, writes⟩)
    (hp : E.perform p (E.view db writes) = .ok (ws, ps'))
    (hu : E.unlocked (pair db x ⟨p :: todo, writes⟩) 1 ws = true) :
    Both E N db ps qs x ⟨ps' ++ todo, writes ++ ws⟩ := by
  have hNp := h.right.drawless hd hN p List.mem_cons_self
  have hws : E.disjoint ws x.writes = true := by simpa [Engine.unlocked, pair] using hu
  exact ⟨h.left, .next h.right hNp hp,
    disjoint_comm (disjoint_append.mpr ⟨disjoint_comm h.apart, hws⟩)⟩

end Left

theorem Duel.step (h : Duel E N C J Ends db ps qs) {s t : Shared δ ω π} {a : Move κ}
    (hs : Phase E N J Ends db ps qs s) (ha : Guarded C E.Step s a t) :
    Phase E N J Ends db ps qs t := by
  obtain ⟨hc, hstep⟩ := ha
  have hmove := h.moves s a hc
  cases hs with
  | @both x y hb hj =>
      rcases Step.cases hstep with ⟨i, command, rfl, _⟩ |
        ⟨i, p, todo, writes, ws, ps', rfl, hi, hp, hu, rfl⟩ | ⟨i, writes, rfl, hi, rfl⟩ |
        ⟨i, z, rfl, _⟩
      · exact hmove.elim
      · rcases get_pair hi with ⟨rfl, rfl⟩ | ⟨rfl, rfl⟩
        · have hNp := hb.left.drawless h.drawless h.left p List.mem_cons_self
          have heq : (⟨E.drawn db ws, Dict.set 0 ⟨ps' ++ todo, writes ++ ws⟩
              (pair db ⟨p :: todo, writes⟩ y).sessions⟩ : Shared δ ω π) =
              pair db ⟨ps' ++ todo, writes ++ ws⟩ y := by
            rw [h.drawless.drawn _ _ _ _ hNp hp]
            rfl
          have ht := hstep
          simp only [pair] at heq ht ⊢
          rw [heq] at ht ⊢
          exact .both (hb.left_next h.drawless h.left hp hu) (h.left_next _ _ _ hb hj hc ht)
        · have hNp := hb.right.drawless h.drawless h.right p List.mem_cons_self
          have heq : (⟨E.drawn db ws, Dict.set 1 ⟨ps' ++ todo, writes ++ ws⟩
              (pair db x ⟨p :: todo, writes⟩).sessions⟩ : Shared δ ω π) =
              pair db x ⟨ps' ++ todo, writes ++ ws⟩ := by
            rw [h.drawless.drawn _ _ _ _ hNp hp]
            rfl
          have ht := hstep
          simp only [pair] at heq ht ⊢
          rw [heq] at ht ⊢
          exact .both (hb.right_next h.drawless h.right hp hu) (h.right_next _ _ _ hb hj hc ht)
      · rcases get_pair hi with ⟨rfl, rfl⟩ | ⟨rfl, rfl⟩
        · obtain ⟨X, hX, hrest⟩ := h.left_commit _ _ hb rfl hc
          exact .one 1 hX hrest
        · obtain ⟨X, hX, hrest⟩ := h.right_commit _ _ hb rfl hc
          exact .one 0 hX hrest
      · exact hmove.elim
  | @one db' X x i hX hrest =>
      rcases Step.cases hstep with ⟨j, command, rfl, _⟩ |
        ⟨j, p, todo, writes, ws, ps', rfl, hj, hp, _, rfl⟩ | ⟨j, writes, rfl, hj, rfl⟩ |
        ⟨j, z, rfl, _⟩
      · exact hmove.elim
      · obtain ⟨rfl, rfl⟩ := get_one hj
        have hnext := hrest.step hp
        simp only [Dict.set, if_true]
        refine .one i hX ?_
        rwa [view_drawn h.draw_apply, view_append]
      · obtain ⟨rfl, rfl⟩ := get_one hj
        simp only [Dict.erase, List.filter_cons, List.filter_nil, ne_eq, not_true, decide_false,
          Bool.false_eq_true, if_false]
        exact hrest.end_eq ▸ .none hX
      · exact hmove.elim
  | none hX =>
      rcases Step.cases hstep with ⟨i, command, rfl, _⟩ | ⟨i, p, todo, writes, ws, ps', rfl, hi, _⟩ |
        ⟨i, writes, rfl, hi, _⟩ | ⟨i, z, rfl, _⟩
      · exact hmove.elim
      · simp at hi
      · simp at hi
      · exact hmove.elim

theorem Duel.run (h : Duel E N C J Ends db ps qs) {as : List (Move κ)} {s : Shared δ ω π}
    (hr : Run (Guarded C E.Step) (pair db ⟨ps, []⟩ ⟨qs, []⟩) as s) :
    Phase E N J Ends db ps qs s :=
  hr.invariant (fun _ _ _ hs ha => h.step hs ha)
    (.both ⟨.start, .start, by simp [Engine.disjoint]⟩ h.start)

theorem next_step {s : Shared δ ω π} {i : Nat} {p : π} {todo ps' : List π} {writes ws : List ω}
    (hi : Dict.get i s.sessions = some ⟨p :: todo, writes⟩)
    (hp : E.perform p (E.view s.db writes) = .ok (ws, ps')) (hu : E.unlocked s i ws = true) :
    ∃ a t, a.Advances ∧ E.Step s a t := by
  refine ⟨.next i, ⟨E.drawn s.db ws, Dict.set i ⟨ps' ++ todo, writes ++ ws⟩ s.sessions⟩, trivial, ?_⟩
  simp only [Engine.Step, Engine.step, hi, hp, hu, if_true]

theorem commit_step {s : Shared δ ω π} {i : Nat} {writes : List ω}
    (hi : Dict.get i s.sessions = some ⟨[], writes⟩) : ∃ a t, a.Advances ∧ E.Step s a t := by
  refine ⟨.commit i, ⟨E.view s.db writes, Dict.erase i s.sessions⟩, trivial, ?_⟩
  simp only [Engine.Step, Engine.step, hi]

theorem Duel.outcome (h : Duel E N C J Ends db ps qs) {as : List (Move κ)} {s : Shared δ ω π}
    (hr : Run (Guarded C E.Step) (pair db ⟨ps, []⟩ ⟨qs, []⟩) as s) :
    (s.sessions ≠ [] → ∃ a t, a.Advances ∧ E.Step s a t) ∧ (s.sessions = [] → Ends s.db) := by
  cases h.run hr with
  | both hb hj => exact ⟨fun _ => h.progress _ _ hb hj, fun he => by simp [pair] at he⟩
  | @one db' X x i hX hrest =>
      refine ⟨fun _ => ?_, fun he => by simp at he⟩
      have hget : Dict.get i [(i, x)] = some x := by simp [Dict.get]
      obtain ⟨todo, writes⟩ := x
      cases hrest with
      | done => exact commit_step hget
      | next hp _ => exact next_step hget hp (by simp [Engine.unlocked])
  | none hX => exact ⟨fun he => absurd rfl he, fun _ => hX⟩

end Pair

end ReadCommitted

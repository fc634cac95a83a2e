import GeoHazard.Library.ReadCommitted
import Mathlib.Logic.Hydra

namespace ReadCommitted
open Transition

variable {δ ω π κ ε ρ σ η : Type}

-- the command of each open transaction
def Move.track (opens : List (Nat × κ)) : Move κ → List (Nat × κ)
  | .start i command => Dict.set i command opens
  | .next _ => opens
  | .commit i | .abort i => Dict.erase i opens

def Move.finished (opens : List (Nat × κ)) : Move κ → List κ
  | .commit i => (Dict.get i opens).toList
  | _ => []

-- the commands whose transactions commit, in the order of the commits
def committed (opens : List (Nat × κ)) : List (Move κ) → List κ
  | [] => []
  | a :: as => a.finished opens ++ committed (a.track opens) as

def serially (exec : κ → σ → Except η σ) (commands : List κ) (v : σ) : Except η σ :=
  commands.foldlM (fun v command => exec command v) v

theorem serially_append {exec : κ → σ → Except η σ} {cs ds : List κ} {v w : σ}
    (h : serially exec cs v = .ok w) : serially exec (cs ++ ds) v = serially exec ds w := by
  simp only [serially, List.foldlM_append, bind, Except.bind] at h ⊢
  rw [h]

-- what a proof owes so that the order of the commits is a serial order of the same effect: sim
-- compares what is committed with what the commands leave one after the other
structure CommitOrder [DecidableEq ρ] (E : Engine δ ω π κ ε ρ) (J : δ → Prop)
    (L : κ → δ → Session ω π → Prop) (exec : κ → σ → Except η σ) (sim : δ → σ → Prop) : Prop where
  start : ∀ c db, J db → L c db ⟨E.program c, []⟩
  next : ∀ c db p todo writes ws ps, J db → L c db ⟨p :: todo, writes⟩ →
    E.perform p (E.view db writes) = .ok (ws, ps) →
    L c (E.drawn db ws) ⟨ps ++ todo, writes ++ ws⟩
  draw : ∀ db w, J db → J (E.draw db w)
  draw_open : ∀ c db w x, L c db x → L c (E.draw db w) x
  draw_sim : ∀ db w v, sim db v → sim (E.draw db w) v
  commit : ∀ c db writes, J db → L c db ⟨[], writes⟩ → J (E.view db writes)
  frame : ∀ c d db writes x, J db → L c db ⟨[], writes⟩ → L d db x →
    E.disjoint x.writes writes = true → L d (E.view db writes) x
  serial : ∀ c db writes v, J db → L c db ⟨[], writes⟩ → sim db v →
    ∃ w, exec c v = .ok w ∧ sim (E.view db writes) w

structure Tracked [DecidableEq ρ] (E : Engine δ ω π κ ε ρ) (J : δ → Prop)
    (L : κ → δ → Session ω π → Prop) (opens : List (Nat × κ)) (s : Shared δ ω π) : Prop where
  db : J s.db
  each : ∀ i x, Dict.get i s.sessions = some x → ∃ c, Dict.get i opens = some c ∧ L c s.db x
  apart : ∀ i j x y, i ≠ j → Dict.get i s.sessions = some x → Dict.get j s.sessions = some y →
    E.disjoint x.writes y.writes = true

variable [DecidableEq ρ] {E : Engine δ ω π κ ε ρ} {J : δ → Prop} {L : κ → δ → Session ω π → Prop}
  {exec : κ → σ → Except η σ} {sim : δ → σ → Prop} {opens : List (Nat × κ)}
  {s t : Shared δ ω π}

theorem unlocked_apart {i j : Nat} {ws : List ω} {y : Session ω π}
    (h : E.unlocked s i ws = true) (hy : Dict.get j s.sessions = some y) (hne : j ≠ i) :
    E.disjoint ws y.writes = true := by
  have hall := List.all_eq_true.mp h (j, y) (Dict.mem_of_get hy)
  simpa [hne] using hall

theorem CommitOrder.drawn (h : CommitOrder E J L exec sim) (ws : List ω) (db : δ) :
    (J db → J (E.drawn db ws)) ∧ (∀ c x, L c db x → L c (E.drawn db ws) x) ∧
      ∀ v, sim db v → sim (E.drawn db ws) v := by
  induction ws generalizing db with
  | nil => exact ⟨id, fun _ _ => id, fun _ => id⟩
  | cons w ws ih =>
      obtain ⟨hj, hl, hs⟩ := ih (E.draw db w)
      exact ⟨fun hd => hj (h.draw db w hd), fun c x hx => hl c x (h.draw_open c db w x hx),
        fun v hv => hs v (h.draw_sim db w v hv)⟩

theorem Tracked.ended (hs : Tracked E J L opens s) {db : δ} (i : Nat) (hj : J db)
    (hl : ∀ c j x, j ≠ i → Dict.get j s.sessions = some x → L c s.db x → L c db x) :
    Tracked E J L (Dict.erase i opens) ⟨db, Dict.erase i s.sessions⟩ := by
  have hget : ∀ j x, Dict.get j (Dict.erase i s.sessions) = some x →
      j ≠ i ∧ Dict.get j s.sessions = some x := by
    intro j x hx
    rw [Dict.get_erase] at hx
    split at hx
    · simp at hx
    · next hne => exact ⟨fun he => hne he.symm, hx⟩
  refine ⟨hj, fun j x hx => ?_, fun j k x y hne hx hy =>
    hs.apart j k x y hne (hget j x hx).2 (hget k y hy).2⟩
  obtain ⟨hne, hx⟩ := hget j x hx
  obtain ⟨c, hc, hcl⟩ := hs.each j x hx
  refine ⟨c, ?_, hl c j x hne hx hcl⟩
  rw [Dict.get_erase, if_neg (fun he => hne he.symm), hc]

theorem CommitOrder.started (h : CommitOrder E J L exec sim) (hs : Tracked E J L opens s)
    (i : Nat) (c : κ) :
    Tracked E J L (Dict.set i c opens) ⟨s.db, Dict.set i ⟨E.program c, []⟩ s.sessions⟩ := by
  have hempty : ∀ writes : List ω, E.disjoint [] writes = true ∧ E.disjoint writes [] = true := by
    intro writes
    simp [Engine.disjoint]
  refine ⟨hs.db, fun j x hx => ?_, fun j k x y hne hx hy => ?_⟩
  · rw [Dict.get_set] at hx ⊢
    split at hx
    · next he => exact ⟨c, if_pos he, Option.some.inj hx ▸ h.start c s.db hs.db⟩
    · next hne =>
        obtain ⟨d, hd, hl⟩ := hs.each j x hx
        exact ⟨d, by rw [if_neg hne, hd], hl⟩
  · rw [Dict.get_set] at hx hy
    split at hx
    · exact Option.some.inj hx ▸ (hempty y.writes).1
    · split at hy
      · exact Option.some.inj hy ▸ (hempty x.writes).2
      · exact hs.apart j k x y hne hx hy

theorem CommitOrder.advanced (h : CommitOrder E J L exec sim) (hs : Tracked E J L opens s) {i : Nat}
    {p : π} {todo ps : List π} {writes ws : List ω}
    (hi : Dict.get i s.sessions = some ⟨p :: todo, writes⟩)
    (hp : E.perform p (E.view s.db writes) = .ok (ws, ps)) (hu : E.unlocked s i ws = true) :
    Tracked E J L opens ⟨E.drawn s.db ws, Dict.set i ⟨ps ++ todo, writes ++ ws⟩ s.sessions⟩ := by
  have happart : ∀ j y, j ≠ i → Dict.get j s.sessions = some y →
      E.disjoint (writes ++ ws) y.writes = true := fun j y hne hy =>
    disjoint_append.mpr ⟨hs.apart i j _ y (fun he => hne he.symm) hi hy,
      unlocked_apart hu hy hne⟩
  refine ⟨(h.drawn ws s.db).1 hs.db, fun j x hx => ?_, fun j k x y hne hx hy => ?_⟩
  · rw [Dict.get_set] at hx
    split at hx
    · next he =>
        obtain ⟨c, hc, hl⟩ := hs.each i _ hi
        exact ⟨c, he ▸ hc, Option.some.inj hx ▸ h.next c s.db p todo writes ws ps hs.db hl hp⟩
    · obtain ⟨c, hc, hl⟩ := hs.each j x hx
      exact ⟨c, hc, (h.drawn ws s.db).2.1 c x hl⟩
  · rw [Dict.get_set] at hx hy
    split at hx
    · next he =>
        split at hy
        · next he' => exact absurd (he.symm.trans he') hne
        · next hk => exact Option.some.inj hx ▸ happart k y (fun he => hk he.symm) hy
    · next hj =>
        split at hy
        · exact Option.some.inj hy ▸ disjoint_comm (happart j x (fun he => hj he.symm) hx)
        · exact hs.apart j k x y hne hx hy

theorem CommitOrder.step (h : CommitOrder E J L exec sim) (hs : Tracked E J L opens s) {v : σ}
    (hv : sim s.db v) {a : Move κ} (ha : E.Step s a t) :
    Tracked E J L (a.track opens) t ∧
      ∃ w, serially exec (a.finished opens) v = .ok w ∧ sim t.db w := by
  rcases Step.cases ha with ⟨i, c, rfl, _, rfl⟩ |
    ⟨i, p, todo, writes, ws, ps, rfl, hi, hp, hu, rfl⟩ |
    ⟨i, writes, rfl, hi, rfl⟩ | ⟨i, x, rfl, _, rfl⟩
  · exact ⟨h.started hs i c, v, rfl, hv⟩
  · exact ⟨h.advanced hs hi hp hu, v, rfl, (h.drawn ws s.db).2.2 v hv⟩
  · obtain ⟨c, hc, hl⟩ := hs.each i _ hi
    refine ⟨hs.ended i (h.commit c s.db writes hs.db hl) (fun d j x hne hx hd =>
      h.frame c d s.db writes x hs.db hl hd (hs.apart j i x _ hne hx hi)), ?_⟩
    obtain ⟨w, hw, hsim⟩ := h.serial c s.db writes v hs.db hl hv
    refine ⟨w, ?_, hsim⟩
    simp [Move.finished, hc, serially, hw]
  · exact ⟨hs.ended i hs.db (fun _ _ _ _ _ hl => hl), v, rfl, hv⟩

theorem CommitOrder.run (h : CommitOrder E J L exec sim) {as : List (Move κ)}
    (hr : Run E.Step s as t) (hs : Tracked E J L opens s) {v : σ} (hv : sim s.db v) :
    J t.db ∧ ∃ w, serially exec (committed opens as) v = .ok w ∧ sim t.db w := by
  induction as generalizing s opens v with
  | nil =>
      obtain rfl := Run.nil_iff.mp hr
      exact ⟨hs.db, v, rfl, hv⟩
  | cons a as ih =>
      obtain ⟨u, hu, hk⟩ := Run.cons_inv hr
      obtain ⟨htrack, w, hw, hsim⟩ := h.step hs hv hu
      obtain ⟨hj, w', hw', hsim'⟩ := ih hk htrack hsim
      exact ⟨hj, w', (serially_append hw).trans hw', hsim'⟩

theorem CommitOrder.serializable (h : CommitOrder E J L exec sim) {db : δ} {as : List (Move κ)}
    (hr : Run E.Step ⟨db, []⟩ as t) (hj : J db) {v : σ} (hv : sim db v) :
    J t.db ∧ ∃ w, serially exec (committed [] as) v = .ok w ∧ sim t.db w :=
  h.run hr ⟨hj, fun _ _ hx => by simp at hx, fun _ _ _ _ _ hx => by simp at hx⟩ hv

def Move.starts : Move κ → Bool
  | .start _ _ => true
  | _ => false

-- whatever the order of their moves, the open transactions come to an end
inductive Ends (E : Engine δ ω π κ ε ρ) : Shared δ ω π → Prop
  | intro (s : Shared δ ω π) :
      (∀ a t, a.starts = false → E.Step s a t → Ends E t) →
      (s.sessions ≠ [] → ∃ a t, a.starts = false ∧ E.Step s a t) → Ends E s

def work (sessions : List (Nat × Session ω π)) : Multiset π :=
  (sessions.map (fun p => (p.2.todo : Multiset π))).sum

omit [DecidableEq ρ] in
theorem work_erase (i : Nat) (sessions : List (Nat × Session ω π)) :
    work (Dict.erase i sessions) ≤ work sessions := by
  induction sessions with
  | nil => exact le_refl _
  | cons p sessions ih =>
      simp only [work, Dict.erase, List.filter_cons] at ih ⊢
      split
      · simpa using ih
      · exact le_trans ih (by simp)

omit [DecidableEq ρ] in
theorem length_erase {i : Nat} {x : Session ω π} {sessions : List (Nat × Session ω π)}
    (h : Dict.get i sessions = some x) : (Dict.erase i sessions).length < sessions.length :=
  List.length_filter_lt_length_iff_exists.mpr ⟨(i, x), Dict.mem_of_get h, by simp⟩

omit [DecidableEq ρ] in
theorem work_set {i : Nat} {p : π} {todo ps : List π} {writes ws : List ω}
    {sessions : List (Nat × Session ω π)}
    (h : Dict.get i sessions = some ⟨p :: todo, writes⟩) :
    work (Dict.set i ⟨ps ++ todo, ws⟩ sessions) + {p} = work sessions + (ps : Multiset π) := by
  induction sessions with
  | nil => simp at h
  | cons q sessions ih =>
      obtain ⟨j, y⟩ := q
      simp only [Dict.get] at h
      split at h
      · next hj =>
          obtain rfl := Option.some.inj h
          simp only [work, Dict.set, if_pos hj, List.map_cons, List.sum_cons, ← Multiset.coe_add,
            ← Multiset.cons_coe, ← Multiset.singleton_add]
          ac_rfl
      · next hj =>
          have hrest := ih h
          simp only [work, Dict.set, if_neg hj, List.map_cons, List.sum_cons] at hrest ⊢
          rw [add_assoc, hrest, add_assoc]

theorem ends {r : π → π → Prop} (hr : WellFounded r)
    (hsmall : ∀ p db ws ps, E.perform p db = .ok (ws, ps) → ∀ q ∈ ps, r q p)
    (s : Shared δ ω π) : Ends E s := by
  have hall : ∀ m : Multiset π, ∀ n : Nat, ∀ s : Shared δ ω π, work s.sessions ≤ m →
      s.sessions.length < n → Ends E s := by
    intro m
    induction m using (WellFounded.cutExpand hr).induction with
    | _ m ihm =>
      intro n
      induction n with
      | zero => exact fun s _ hn => absurd hn (Nat.not_lt_zero _)
      | succ n ihn =>
          intro s hm hn
          have hless : ∀ i x, Dict.get i s.sessions = some x → ∀ db,
              Ends E ⟨db, Dict.erase i s.sessions⟩ := fun i x hi db =>
            ihn _ (le_trans (work_erase i _) hm)
              (lt_of_lt_of_le (length_erase hi) (Nat.lt_succ_iff.mp hn))
          refine .intro s (fun a t hstart ha => ?_) (fun hopen => ?_)
          · rcases Step.cases ha with ⟨i, c, rfl, _⟩ |
              ⟨i, p, todo, writes, ws, ps, rfl, hi, hp, _, rfl⟩ |
              ⟨i, writes, rfl, hi, rfl⟩ | ⟨i, x, rfl, hi, rfl⟩
            · simp [Move.starts] at hstart
            · obtain ⟨k, rfl⟩ := Multiset.le_iff_exists_add.mp hm
              refine ihm (work (Dict.set i ⟨ps ++ todo, writes ++ ws⟩ s.sessions) + k)
                ⟨ps, p, fun q hq => hsmall p _ ws ps hp q hq, ?_⟩ _ _ (Multiset.le_add_right _ k)
                (Nat.lt_succ_self _)
              rw [add_right_comm, work_set hi, add_right_comm]
            · exact hless i _ hi _
            · exact hless i x hi _
          · obtain ⟨⟨i, x⟩, rest, hs⟩ := List.exists_cons_of_ne_nil hopen
            have hi : Dict.get i s.sessions = some x := by simp [hs, Dict.get]
            exact ⟨.abort i, ⟨s.db, Dict.erase i s.sessions⟩, rfl, by
              simp only [Engine.Step, Engine.step, hi]⟩
  exact hall _ _ s (le_refl _) (Nat.lt_succ_self _)

end ReadCommitted

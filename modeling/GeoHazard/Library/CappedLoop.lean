import GeoHazard.Library.Dict

namespace CappedLoop

-- what the next turn of a for loop over a source finds; the source need not end
inductive Event (α ε : Type) where
  | item (a : α)
  | stop
  | failed (e : ε)

def Event.mapError {α ε δ : Type} (f : ε → δ) : Event α ε → Event α δ
  | .item a => .item a
  | .stop => .stop
  | .failed e => .failed (f e)

-- each item counts against the cap before it is looked at
structure Loop (α ε σ : Type) where
  cap : Nat
  weight : α → Nat
  exceeded : ε
  step : σ → α → Except ε σ
  weight_pos : ∀ a, 0 < weight a

variable {α ε σ : Type}

def Loop.run (l : Loop α ε σ) (events : Nat → Event α ε) (i used : Nat) (s : σ) : Except ε σ :=
  match events i with
  | .stop => .ok s
  | .failed e => .error e
  | .item a =>
      if l.cap < used + l.weight a then .error l.exceeded
      else
        match l.step s a with
        | .error e => .error e
        | .ok s => l.run events (i + 1) (used + l.weight a) s
termination_by l.cap - used
decreasing_by
  have hpos := l.weight_pos a
  omega

def Items (events : Nat → Event α ε) (i : Nat) : List α → Prop
  | [] => True
  | a :: as => events i = .item a ∧ Items events (i + 1) as

@[simp] theorem mapError_item {δ : Type} {f : ε → δ} {e : Event α ε} {a : α} :
    e.mapError f = .item a ↔ e = .item a := by
  cases e <;> simp [Event.mapError]

@[simp] theorem mapError_stop {δ : Type} {f : ε → δ} {e : Event α ε} :
    e.mapError f = .stop ↔ e = .stop := by
  cases e <;> simp [Event.mapError]

theorem items_mapError {δ : Type} {f : ε → δ} {events : Nat → Event α ε} {i : Nat} {as : List α} :
    Items (fun k => (events k).mapError f) i as ↔ Items events i as := by
  induction as generalizing i with
  | nil => exact Iff.rfl
  | cons a as ih => simp only [Items, mapError_item, ih]

-- the items that the loop has taken, from s to s', before it stands at event i
inductive Taken (l : Loop α ε σ) (events : Nat → Event α ε) : Nat → σ → List α → σ → Prop
  | nil (i : Nat) (s : σ) : Taken l events i s [] s
  | cons {i : Nat} {s t s' : σ} {a : α} {as : List α} (ha : events i = .item a)
      (hs : l.step s a = .ok t) (h : Taken l events (i + 1) t as s') :
      Taken l events i s (a :: as) s'

-- why the loop ends at event i
inductive Ends (l : Loop α ε σ) (events : Nat → Event α ε) (i used : Nat) (s : σ) :
    Except ε σ → Prop
  | stop (h : events i = .stop) : Ends l events i used s (.ok s)
  | failed {e : ε} (h : events i = .failed e) : Ends l events i used s (.error e)
  | exceeded {a : α} (h : events i = .item a) (hover : l.cap < used + l.weight a) :
      Ends l events i used s (.error l.exceeded)
  | step {a : α} {e : ε} (h : events i = .item a) (hfits : used + l.weight a ≤ l.cap)
      (hs : l.step s a = .error e) : Ends l events i used s (.error e)

variable {l : Loop α ε σ} {events : Nat → Event α ε} {i used : Nat} {s s' : σ} {as : List α}

theorem Taken.items (h : Taken l events i s as s') : Items events i as := by
  induction h with
  | nil => trivial
  | cons ha _ _ ih => exact ⟨ha, ih⟩

theorem length_le_total (hpos : ∀ a, 0 < l.weight a) (as : List α) :
    as.length ≤ Dict.total l.weight as := by
  induction as with
  | nil => simp
  | cons a as ih =>
      have ha := hpos a
      simp only [List.length_cons, Dict.total_cons]
      omega

theorem run_spec (l : Loop α ε σ) (events : Nat → Event α ε) (i used : Nat) (s : σ)
    (hu : used ≤ l.cap) :
    ∃ as s', Taken l events i s as s' ∧ used + Dict.total l.weight as ≤ l.cap ∧
      Ends l events (i + as.length) (used + Dict.total l.weight as) s' (l.run events i used s) := by
  induction i, used, s using Loop.run.induct l events with
  | case1 i used s he =>
      rw [Loop.run, he]
      exact ⟨[], s, .nil i s, hu, .stop he⟩
  | case2 i used s e he =>
      rw [Loop.run, he]
      exact ⟨[], s, .nil i s, hu, .failed he⟩
  | case3 i used s a he hover =>
      rw [Loop.run, he]
      simp only [hover, if_true]
      exact ⟨[], s, .nil i s, hu, .exceeded he hover⟩
  | case4 i used s a he hfits e hs =>
      rw [Loop.run, he]
      simp only [hfits, if_false, hs]
      exact ⟨[], s, .nil i s, hu, .step he (Nat.le_of_not_lt hfits) hs⟩
  | case5 i used s a he hfits t hs ih =>
      obtain ⟨as, s', ht, hle, hend⟩ := ih (Nat.le_of_not_lt hfits)
      rw [Loop.run, he]
      simp only [hfits, if_false, hs]
      refine ⟨a :: as, s', .cons he hs ht, ?_, ?_⟩
      · simp only [Dict.total_cons]
        omega
      · simpa only [Dict.total_cons, List.length_cons, Nat.add_assoc, Nat.add_comm 1] using hend

theorem run_ok (h : l.run events i used s = .ok s') (hu : used ≤ l.cap) :
    ∃ as, Taken l events i s as s' ∧ used + Dict.total l.weight as ≤ l.cap ∧
      events (i + as.length) = .stop := by
  obtain ⟨as, t, ht, hle, hend⟩ := run_spec l events i used s hu
  rw [h] at hend
  cases hend with
  | stop hstop => exact ⟨as, ht, hle, hstop⟩

theorem run_of_taken (h : Taken l events i s as s') (hu : used + Dict.total l.weight as ≤ l.cap)
    (hstop : events (i + as.length) = .stop) : l.run events i used s = .ok s' := by
  induction h generalizing used with
  | nil i s =>
      rw [Loop.run, show events i = .stop from hstop]
  | @cons i s t s' a as ha hs _ ih =>
      simp only [Dict.total_cons] at hu
      have hfits : ¬ l.cap < used + l.weight a := by omega
      rw [Loop.run, ha]
      simp only [hfits, if_false, hs]
      refine ih (by omega) ?_
      simpa only [List.length_cons, Nat.add_assoc, Nat.add_comm 1] using hstop

theorem length_taken_le (hu : used + Dict.total l.weight as ≤ l.cap) : as.length ≤ l.cap := by
  have hle := length_le_total (l := l) l.weight_pos as
  omega

theorem run_congr {events' : Nat → Event α ε}
    (h : ∀ k ≤ l.cap - used, events (i + k) = events' (i + k)) :
    l.run events i used s = l.run events' i used s := by
  induction i, used, s using Loop.run.induct l events with
  | case1 i used s he | case2 i used s e he =>
      rw [Loop.run, Loop.run, ← show events i = events' i from h 0 (Nat.zero_le _), he]
  | case3 i used s a he hover =>
      rw [Loop.run, Loop.run, ← show events i = events' i from h 0 (Nat.zero_le _), he]
      simp only [hover, if_true]
  | case4 i used s a he hfits e hs =>
      rw [Loop.run, Loop.run, ← show events i = events' i from h 0 (Nat.zero_le _), he]
      simp only [hfits, if_false, hs]
  | case5 i used s a he hfits t hs ih =>
      have hpos := l.weight_pos a
      have hrest := ih (fun k hk => by
        have hnext := h (k + 1) (by omega)
        simpa only [Nat.add_assoc, Nat.add_comm 1] using hnext)
      rw [Loop.run, Loop.run, ← show events i = events' i from h 0 (Nat.zero_le _), he]
      simp only [hfits, if_false, hs, hrest]

end CappedLoop

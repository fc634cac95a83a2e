import GeoHazard.Library.Transition

namespace RetryLease
open Transition

-- a claim ends as sent, failed, released or lost; a pause by hand and its end come at any time
inductive Event where
  | claimed (now : Int)
  | sent (now : Int)
  | failed (now : Int)
  | released
  | lost
  | paused
  | resumed
  deriving DecidableEq

structure Policy where
  backoff : Nat → Nat
  min_interval : Nat
  pause_after : Nat

structure State where
  failures : Nat
  failing_since : Option Int
  retry_at : Option Int
  last_sent_at : Option Int
  paused : Bool
  -- the retry_at that the claim under way has replaced
  claim : Option (Option Int)

def State.init : State := ⟨0, none, none, none, false, none⟩

variable (policy : Policy)

def Due (at_ : Option Int) (limit : Int) : Prop := ∀ x ∈ at_, x ≤ limit

def Enabled (s : State) : Event → Prop
  | .claimed now => s.claim = none ∧ s.paused = false ∧ Due s.retry_at now ∧
      Due s.last_sent_at (now - policy.min_interval)
  | .sent _ => s.claim ≠ none
  | .failed _ => s.claim ≠ none
  | .released => s.claim ≠ none
  | .lost => s.claim ≠ none
  | .paused => True
  | .resumed => s.claim = none

def gives_up (now : Int) (s : State) : Bool :=
  decide (s.failing_since.getD now ≤ now - policy.pause_after)

def after (s : State) : Event → State
  | .claimed now =>
      { s with retry_at := some (now + policy.backoff s.failures), claim := some s.retry_at }
  | .sent now =>
      { s with
        failures := 0, failing_since := none, retry_at := none, last_sent_at := some now
        claim := none }
  | .failed now =>
      { s with
        failures := s.failures + 1, failing_since := some (s.failing_since.getD now)
        paused := s.paused || gives_up policy now s, claim := none }
  | .released => { s with retry_at := s.claim.getD s.retry_at, claim := none }
  | .lost => { s with claim := none }
  | .paused => { s with paused := true }
  | .resumed => { s with failures := 0, failing_since := none, retry_at := none, paused := false }

def Step (s : State) (e : Event) (t : State) : Prop := Enabled policy s e ∧ t = after policy s e

def failed_since (xs : List Int) : Event → List Int
  | .failed now => xs ++ [now]
  | .sent _ => []
  | .resumed => []
  | _ => xs

-- when the failures since the last success or resume were recorded
def failures (h : List Event) : List Int := h.foldl failed_since []

def held (b : Bool) : Event → Bool
  | .paused => true
  | .resumed => false
  | _ => b

def paused_by_hand (h : List Event) : Bool := h.foldl held false

@[simp] theorem failures_concat (h : List Event) (e : Event) :
    failures (h ++ [e]) = failed_since (failures h) e := by simp [failures]

@[simp] theorem paused_by_hand_concat (h : List Event) (e : Event) :
    paused_by_hand (h ++ [e]) = held (paused_by_hand h) e := by simp [paused_by_hand]

-- a failure recorded at least pause_after after the first one
def Late (xs : List Int) (x : Int) : Prop := ∃ first ∈ xs.head?, first + policy.pause_after ≤ x

structure Inv (h : List Event) (s : State) : Prop where
  failures : s.failures = (failures h).length
  failing_since : s.failing_since = (RetryLease.failures h).head?
  paused : s.paused = true ↔ paused_by_hand h = true ∨
    ∃ x ∈ RetryLease.failures h, Late policy (RetryLease.failures h) x
  first : ∀ x ∈ (RetryLease.failures h).dropLast, ¬ Late policy (RetryLease.failures h) x
  claimed : s.claim ≠ none → ∀ x ∈ RetryLease.failures h, ¬ Late policy (RetryLease.failures h) x

theorem Inv.init : Inv policy [] State.init :=
  ⟨rfl, rfl, by simp [State.init, paused_by_hand, RetryLease.failures], by simp [RetryLease.failures],
    by simp [State.init]⟩

variable {policy} {s t u : State} {h : List Event} {e : Event}

theorem late_concat {xs : List Int} {now x : Int} (hne : xs ≠ []) :
    Late policy (xs ++ [now]) x ↔ Late policy xs x := by
  obtain ⟨first, rest, rfl⟩ := List.exists_cons_of_ne_nil hne
  simp [Late]

theorem late_now {xs : List Int} {now : Int} : Late policy (xs ++ [now]) now ↔
    xs.head?.getD now ≤ now - policy.pause_after := by
  cases xs with
  | nil =>
      simp only [Late, List.nil_append, List.head?_cons, List.head?_nil, Option.mem_some,
        exists_eq_left', Option.getD_none]
      omega
  | cons first rest =>
      simp only [Late, List.cons_append, List.head?_cons, Option.mem_some, exists_eq_left',
        Option.getD_some]
      omega

theorem Inv.by_hand (hi : Inv policy h s) (hopen : s.claim ≠ none) :
    s.paused = true ↔ paused_by_hand h = true := by
  rw [hi.paused]
  exact ⟨fun hp => hp.resolve_right (fun ⟨x, hx, hl⟩ => hi.claimed hopen x hx hl), .inl⟩

theorem Inv.failed {now : Int} (hi : Inv policy h s) (hopen : s.claim ≠ none) :
    Inv policy (h ++ [.failed now]) (after policy s (.failed now)) := by
  have hbelow : ∀ x ∈ RetryLease.failures h, ¬ Late policy (RetryLease.failures h ++ [now]) x := by
    intro x hx
    rw [late_concat (List.ne_nil_of_mem hx)]
    exact hi.claimed hopen x hx
  refine ⟨?_, ?_, ?_, ?_, ?_⟩
  · simp [after, failed_since, hi.failures]
  · simp only [after, failures_concat, failed_since, hi.failing_since]
    cases RetryLease.failures h <;> rfl
  · simp only [after, failures_concat, paused_by_hand_concat, failed_since, held, gives_up,
      Bool.or_eq_true, decide_eq_true_eq, hi.failing_since, hi.by_hand hopen, ← late_now]
    refine or_congr_right ⟨fun hl => ⟨now, by simp, hl⟩, ?_⟩
    rintro ⟨x, hx, hl⟩
    rcases List.mem_append.mp hx with hx | hx
    · exact absurd hl (hbelow x hx)
    · exact List.mem_singleton.mp hx ▸ hl
  · simpa [failed_since] using hbelow
  · simp [after]

theorem Inv.kept (hi : Inv policy h s) (hf : failed_since (RetryLease.failures h) e =
      RetryLease.failures h) (hn : t.failures = s.failures) (hs : t.failing_since = s.failing_since)
    (hp : t.paused = true ↔ held (paused_by_hand h) e = true ∨
      ∃ x ∈ RetryLease.failures h, Late policy (RetryLease.failures h) x)
    (hc : t.claim ≠ none → ∀ x ∈ RetryLease.failures h, ¬ Late policy (RetryLease.failures h) x) :
    Inv policy (h ++ [e]) t := by
  refine ⟨?_, ?_, ?_, ?_, ?_⟩
  · rw [hn, failures_concat, hf, hi.failures]
  · rw [hs, failures_concat, hf, hi.failing_since]
  · rw [failures_concat, hf, paused_by_hand_concat, hp]
  · rw [failures_concat, hf]
    exact hi.first
  · rw [failures_concat, hf]
    exact hc

theorem Inv.cleared (hf : failed_since (RetryLease.failures h) e = []) (hn : t.failures = 0)
    (hs : t.failing_since = none) (hp : t.paused = true ↔ held (paused_by_hand h) e = true) :
    Inv policy (h ++ [e]) t := by
  refine ⟨?_, ?_, ?_, ?_, ?_⟩ <;> rw [failures_concat, hf]
  · exact hn
  · exact hs
  · simpa using hp
  · simp
  · simp

theorem Inv.step (hs : Step policy s e t) (hi : Inv policy h s) : Inv policy (h ++ [e]) t := by
  obtain ⟨hen, rfl⟩ := hs
  cases e with
  | claimed now =>
      obtain ⟨_, hrun, _, _⟩ := hen
      refine hi.kept rfl rfl rfl hi.paused (fun _ x hx hl => ?_)
      have hpaused := hi.paused.mpr (.inr ⟨x, hx, hl⟩)
      simp [hrun] at hpaused
  | sent now => exact .cleared rfl rfl rfl (hi.by_hand hen)
  | failed now => exact hi.failed hen
  | released => exact hi.kept rfl rfl rfl hi.paused (fun hne => absurd rfl hne)
  | lost => exact hi.kept rfl rfl rfl hi.paused (fun hne => absurd rfl hne)
  | paused => exact hi.kept rfl rfl rfl (by simp [after, held]) hi.claimed
  | resumed => exact .cleared rfl rfl rfl (by simp [after, held])

theorem Inv.run (hr : Run (Step policy) State.init h s) : Inv policy h s :=
  hr.history (fun _ _ _ _ hi hs => hi.step hs) (Inv.init policy)

def NoClaim (h : List Event) : Prop := ∀ now, Event.claimed now ∉ h

theorem NoClaim.append {h k : List Event} : NoClaim (h ++ k) ↔ NoClaim h ∧ NoClaim k := by
  simp only [NoClaim, List.mem_append, not_or, forall_and]

theorem NoClaim.last (hn : NoClaim (h ++ [e])) : NoClaim h ∧ ∀ now, e ≠ .claimed now := by
  obtain ⟨hh, he⟩ := NoClaim.append.mp hn
  exact ⟨hh, fun now heq => he now (by simp [heq])⟩

theorem still_ended (hr : Run (Step policy) s h t) (hn : NoClaim h) (hs : s.claim = none) :
    t.claim = none ∧ t.last_sent_at = s.last_sent_at ∧
      (Event.resumed ∉ h → t.retry_at = s.retry_at) := by
  induction hr with
  | nil => exact ⟨hs, rfl, fun _ => rfl⟩
  | @snoc t u as e _ hstep ih =>
      obtain ⟨hn, he⟩ := hn.last
      obtain ⟨hc, hl, hr⟩ := ih hn
      obtain ⟨hen, rfl⟩ := hstep
      cases e with
      | claimed now => exact absurd rfl (he now)
      | sent now => exact absurd hc hen
      | failed now => exact absurd hc hen
      | released => exact absurd hc hen
      | lost => exact absurd hc hen
      | paused => exact ⟨hc, hl, fun hres => hr (fun hm => hres (List.mem_append_left _ hm))⟩
      | resumed => exact ⟨hc, hl, fun hres => absurd (by simp) hres⟩

theorem still_claimed (hr : Run (Step policy) s h t) (hn : NoClaim h) (ht : t.claim ≠ none) :
    t.retry_at = s.retry_at := by
  induction hr with
  | nil => rfl
  | @snoc t u as e _ hstep ih =>
      obtain ⟨hearlier, he⟩ := hn.last
      obtain ⟨hen, rfl⟩ := hstep
      cases e with
      | claimed now => exact absurd rfl (he now)
      | sent now => exact absurd rfl ht
      | failed now => exact absurd rfl ht
      | released => exact absurd rfl ht
      | lost => exact absurd rfl ht
      | paused => exact ih hearlier ht
      | resumed => exact absurd hen ht

theorem Run.split {pre post : List Event} (hr : Run (Step policy) s (pre ++ e :: post) u) :
    ∃ v w, Run (Step policy) s pre v ∧ Step policy v e w ∧ Run (Step policy) w post u := by
  obtain ⟨v, hv, hrest⟩ := hr.append_inv
  obtain ⟨w, hw, hpost⟩ := hrest.cons_inv
  exact ⟨v, w, hv, hw, hpost⟩

theorem claimed_after_failed {pre mid rest post : List Event} {T T' x : Int}
    (hr : Run (Step policy) State.init
      (pre ++ .claimed T :: (mid ++ .failed x :: (rest ++ .claimed T' :: post))) s)
    (hmid : NoClaim mid) (hrest : NoClaim rest) (hno : Event.resumed ∉ rest) :
    T + policy.backoff (failures pre).length ≤ T' := by
  obtain ⟨a, b, ha, ⟨_, rfl⟩, hb⟩ := Run.split hr
  obtain ⟨c, d, hc, ⟨hopen, rfl⟩, hd⟩ := Run.split hb
  obtain ⟨f, g, hf, ⟨⟨_, _, hdue, _⟩, _⟩, _⟩ := Run.split hd
  have hlease := still_claimed hc hmid hopen
  have hkept := (still_ended hf hrest rfl).2.2 hno
  rw [← (Inv.run ha).failures]
  exact hdue _ (hkept.trans hlease)

theorem claimed_after_sent {pre rest post : List Event} {T x : Int}
    (hr : Run (Step policy) State.init (pre ++ .sent x :: (rest ++ .claimed T :: post)) s)
    (hrest : NoClaim rest) : x + policy.min_interval ≤ T := by
  obtain ⟨a, b, _, ⟨_, rfl⟩, hb⟩ := Run.split hr
  obtain ⟨f, g, hf, ⟨⟨_, _, _, hdue⟩, _⟩, _⟩ := Run.split hb
  have hlast := hdue x (still_ended hf hrest rfl).2.1
  omega

end RetryLease

import GeoHazard.Core.JobWorker

namespace GeoHazard.JobWorker

variable {W : Type}

abbrev JobRun [DecidableEq W] (lease_seconds : Nat) :
    JobState W → List (JobAction W) → JobState W → Prop :=
  Transition.Run (JobStep lease_seconds)

def applied (job_id : Nat) (log : List Ended) : Nat :=
  log.countP (fun e => match e with
    | .rescheduled id _ => decide (id = job_id)
    | .recovered _ _ => false)

structure Seeded (s : JobState W) : Prop where
  unique : Table.Unique ScheduledJob.id s.jobs
  jobs : ∀ j ∈ s.jobs, j.status = .PENDING ∧ j.claimed_by = none ∧ j.lease_until = none ∧
    j.run_count = 0
  workers : ∀ w, s.workers w = none
  holder : ∀ id, s.holder id = none
  log : s.log = []

-- which claim holds which row, and how the earlier ones ended
structure Ledger (s : JobState W) : Prop where
  fresh : ∀ id c, s.holder id = some c → c < s.claims
  distinct : ∀ id id' c, s.holder id = some c → s.holder id' = some c → id = id'
  old : ∀ e ∈ s.log, e.claim < s.claims
  open_ : ∀ e ∈ s.log, ∀ id, s.holder id ≠ some e.claim
  once : (s.log.map Ended.claim).Nodup

structure Held (s : JobState W) (j : ScheduledJob W) : Prop where
  running : j.status = .RUNNING
  claimed : j.claimed_by ≠ none
  lease : j.lease_until ≠ none
  holder : s.holder j.id ≠ none

structure Free (s : JobState W) (j : ScheduledJob W) : Prop where
  pending : j.status = .PENDING
  claimed : j.claimed_by = none
  lease : j.lease_until = none
  holder : s.holder j.id = none

structure Inv (s : JobState W) : Prop where
  unique : Table.Unique ScheduledJob.id s.jobs
  ledger : Ledger s
  rows : ∀ j ∈ s.jobs, Held s j ∨ Free s j
  fence : ∀ w x, s.workers w = some x → ∀ j ∈ s.jobs, j.id = x.job_id → j.claimed_by = some w →
    s.holder j.id = some x.claim
  counts : ∀ j ∈ s.jobs, j.run_count = applied j.id s.log

theorem Seeded.inv {s : JobState W} (h : Seeded s) : Inv s where
  unique := h.unique
  ledger := by
    refine ⟨fun id c hc => ?_, fun id _ c hc => ?_, fun e he => ?_, fun e he => ?_, ?_⟩
    · simp [h.holder] at hc
    · simp [h.holder] at hc
    · simp [h.log] at he
    · simp [h.log] at he
    · simp [h.log]
  rows j hj := by
    obtain ⟨hp, hc, hl, _⟩ := h.jobs j hj
    exact .inr ⟨hp, hc, hl, h.holder j.id⟩
  fence w x hw := by simp [h.workers] at hw
  counts j hj := by simp [h.log, applied, (h.jobs j hj).2.2.2]

theorem mem_job_ids {p : ScheduledJob W → Bool} {jobs : List (ScheduledJob W)} {id : Nat} :
    id ∈ job_ids p jobs ↔ ∃ j ∈ jobs, p j = true ∧ j.id = id := by
  simp [job_ids, and_assoc]

theorem nodup_job_ids {p : ScheduledJob W → Bool} {jobs : List (ScheduledJob W)}
    (h : Table.Unique ScheduledJob.id jobs) : (job_ids p jobs).Nodup :=
  h.sublist List.filter_sublist

theorem mem_job_ids_self {p : ScheduledJob W → Bool} {jobs : List (ScheduledJob W)}
    (h : Table.Unique ScheduledJob.id jobs) {j : ScheduledJob W} (hj : j ∈ jobs) :
    j.id ∈ job_ids p jobs ↔ p j = true := by
  rw [mem_job_ids]
  refine ⟨?_, fun hp => ⟨j, hj, hp, rfl⟩⟩
  rintro ⟨o, ho, hp, hid⟩
  exact Table.unique_eq h ho hj hid ▸ hp

theorem Ledger.end_claims {s : JobState W} (h : Ledger s) {ids : List Nat} (hn : ids.Nodup)
    {ended : Nat → Nat → Ended} (he : ∀ id c, (ended id c).claim = c) :
    Ledger (s.end_claims ids ended) := by
  have hnew : ∀ e ∈ ids.filterMap (fun id => (s.holder id).map (ended id)),
      ∃ id ∈ ids, s.holder id = some e.claim := by
    intro e hm
    obtain ⟨id, hid, hmap⟩ := List.mem_filterMap.mp hm
    obtain ⟨c, hc, rfl⟩ := Option.map_eq_some_iff.mp hmap
    exact ⟨id, hid, by rw [he, hc]⟩
  have hsome : ∀ id c, (s.end_claims ids ended).holder id = some c →
      id ∉ ids ∧ s.holder id = some c := by
    intro id c hc
    by_cases hid : id ∈ ids
    · simp [JobState.end_claims, hid] at hc
    · exact ⟨hid, by simpa [JobState.end_claims, hid] using hc⟩
  refine ⟨fun id c hc => h.fresh id c (hsome id c hc).2,
    fun id id' c hc hc' => h.distinct id id' c (hsome id c hc).2 (hsome id' c hc').2,
    fun e hm => ?_, fun e hm id hc => ?_, ?_⟩
  · rcases List.mem_append.mp hm with hm | hm
    · exact h.old e hm
    · obtain ⟨id, _, hc⟩ := hnew e hm
      exact h.fresh id _ hc
  · obtain ⟨hid, hc⟩ := hsome id _ hc
    rcases List.mem_append.mp hm with hm | hm
    · exact h.open_ e hm id hc
    · obtain ⟨id', hid', hc'⟩ := hnew e hm
      exact hid (h.distinct id id' _ hc hc' ▸ hid')
  · have hmap : (ids.filterMap (fun id => (s.holder id).map (ended id))).map Ended.claim =
        ids.filterMap s.holder := by
      rw [List.map_filterMap]
      congr 1
      funext id
      cases s.holder id <;> simp [he]
    simp only [JobState.end_claims, List.map_append, hmap]
    refine List.nodup_append.mpr ⟨h.once, ?_, ?_⟩
    · exact hn.filterMap (fun id id' c hc hc' => h.distinct id id' c hc hc')
    · intro a ha b hb heq
      obtain ⟨e, hem, rfl⟩ := List.mem_map.mp ha
      obtain ⟨id, _, hc⟩ := List.mem_filterMap.mp hb
      exact h.open_ e hem id (heq ▸ hc)

theorem applied_recovered (s : JobState W) (ids : List Nat) (id : Nat) :
    applied id (s.end_claims ids .recovered).log = applied id s.log := by
  simp only [applied, JobState.end_claims, List.countP_append, Nat.add_eq_left,
    List.countP_eq_zero, List.mem_filterMap]
  rintro e ⟨i, _, he⟩
  obtain ⟨c, _, rfl⟩ := Option.map_eq_some_iff.mp he
  simp

theorem applied_rescheduled_other (s : JobState W) {ids : List Nat} {id : Nat} (h : id ∉ ids) :
    applied id (s.end_claims ids .rescheduled).log = applied id s.log := by
  simp only [applied, JobState.end_claims, List.countP_append, Nat.add_eq_left,
    List.countP_eq_zero, List.mem_filterMap]
  rintro e ⟨i, hi, he⟩
  obtain ⟨c, _, rfl⟩ := Option.map_eq_some_iff.mp he
  simpa using fun he' : i = id => h (he' ▸ hi)

theorem Ledger.claim {s : JobState W} (h : Ledger s) (job_id : Nat) {jobs : List (ScheduledJob W)}
    {workers : W → Option Execution} :
    Ledger { s with
      jobs := jobs, workers := workers, claims := s.claims + 1
      holder := Function.update s.holder job_id (some s.claims) } := by
  have hsome : ∀ id c, Function.update s.holder job_id (some s.claims) id = some c →
      (id = job_id ∧ c = s.claims) ∨ (s.holder id = some c ∧ c < s.claims) := by
    intro id c hc
    rcases Transition.update_some hc with ⟨hid, hx⟩ | ⟨_, hx⟩
    · exact .inl ⟨hid, (Option.some.inj hx).symm⟩
    · exact .inr ⟨hx, h.fresh id c hx⟩
  refine ⟨fun id c hc => ?_, fun id id' c hc hc' => ?_, fun e he => ?_, fun e he id hc => ?_, h.once⟩
  · rcases hsome id c hc with ⟨_, rfl⟩ | ⟨_, hlt⟩
    · exact Nat.lt_succ_self _
    · exact Nat.lt_succ_of_lt hlt
  · rcases hsome id c hc with ⟨hid, rfl⟩ | ⟨hh, hlt⟩
    · rcases hsome id' _ hc' with ⟨hid', _⟩ | ⟨_, hlt⟩
      · exact hid.trans hid'.symm
      · exact absurd hlt (Nat.lt_irrefl _)
    · rcases hsome id' c hc' with ⟨_, rfl⟩ | ⟨hh', _⟩
      · exact absurd hlt (Nat.lt_irrefl _)
      · exact h.distinct id id' c hh hh'
  · exact Nat.lt_succ_of_lt (h.old e he)
  · rcases hsome id _ hc with ⟨_, hx⟩ | ⟨hh, _⟩
    · exact absurd (h.old e he) (hx ▸ Nat.lt_irrefl _)
    · exact h.open_ e he id hh

theorem Inv.release {s : JobState W} (h : Inv s) {p : ScheduledJob W → Bool}
    {f : ScheduledJob W → ScheduledJob W} {ended : Nat → Nat → Ended}
    {workers : W → Option Execution} (he : ∀ id c, (ended id c).claim = c)
    (hid : ∀ j, (f j).id = j.id)
    (hf : ∀ j, (f j).status = .PENDING ∧ (f j).claimed_by = none ∧ (f j).lease_until = none)
    (hw : ∀ w x, workers w = some x → s.workers w = some x)
    (hcount : ∀ j ∈ s.jobs, (if p j then f j else j).run_count =
      applied j.id (s.end_claims (job_ids p s.jobs) ended).log) :
    Inv ({ s with jobs := Table.update p f s.jobs, workers := workers }.end_claims
      (job_ids p s.jobs) ended) := by
  have hkept : ∀ j ∈ s.jobs, p j = false → ∀ t : JobState W,
      t.holder = s.holder → (t.end_claims (job_ids p s.jobs) ended).holder j.id = s.holder j.id := by
    intro j hj hp t ht
    have hn : j.id ∉ job_ids p s.jobs := by simp [mem_job_ids_self h.unique hj, hp]
    simp [JobState.end_claims, hn, ht]
  refine ⟨Table.unique_update (f := f) (fun j _ => hid j) h.unique, ?_, fun j hj => ?_,
    fun w x hwx j hj hjx hc => ?_, fun j hj => ?_⟩
  · exact Ledger.end_claims (s := { s with jobs := Table.update p f s.jobs, workers := workers })
      ⟨h.ledger.fresh, h.ledger.distinct, h.ledger.old, h.ledger.open_, h.ledger.once⟩
      (nodup_job_ids h.unique) he
  · obtain ⟨o, ho, rfl⟩ := Table.mem_update.mp hj
    by_cases hp : p o = true
    · obtain ⟨hst, hcl, hle⟩ := hf o
      refine .inr ⟨by simp [hp, hst], by simp [hp, hcl], by simp [hp, hle], ?_⟩
      have hm := (mem_job_ids_self (p := p) h.unique ho).mpr hp
      simp [hp, JobState.end_claims, hid, hm]
    · have hp' : p o = false := by simpa using hp
      simp only [hp', Bool.false_eq_true, if_false]
      have hk := hkept o ho hp' { s with jobs := Table.update p f s.jobs, workers := workers } rfl
      rcases h.rows o ho with hh | hh
      · exact .inl ⟨hh.running, hh.claimed, hh.lease, hk ▸ hh.holder⟩
      · exact .inr ⟨hh.pending, hh.claimed, hh.lease, hk.trans hh.holder⟩
  · obtain ⟨o, ho, rfl⟩ := Table.mem_update.mp hj
    by_cases hp : p o = true
    · simp [hp, hf o] at hc
    · have hp' : p o = false := by simpa using hp
      simp only [hp', Bool.false_eq_true, if_false] at hjx hc ⊢
      rw [hkept o ho hp' { s with jobs := Table.update p f s.jobs, workers := workers } rfl]
      exact h.fence w x (hw w x hwx) o ho hjx hc
  · obtain ⟨o, ho, rfl⟩ := Table.mem_update.mp hj
    have hoid : (if p o then f o else o).id = o.id := by
      split
      · exact hid o
      · rfl
    rw [hoid]
    exact hcount o ho

theorem Inv.recover {s : JobState W} (h : Inv s) (now : Timestamptz) :
    Inv ({ s with jobs := Table.update (stale now) recovered s.jobs }.end_claims
      (job_ids (stale now) s.jobs) .recovered) := by
  refine h.release (fun _ _ => rfl) (fun _ => rfl) (fun _ => ⟨rfl, rfl, rfl⟩) (fun _ _ hw => hw)
    (fun j hj => ?_)
  rw [applied_recovered, ← h.counts j hj]
  split <;> rfl

def JobAction.readings : JobAction W → List Timestamptz
  | .recover now => [now]
  | .claim _ _ lease_from due now => [lease_from, due, now]
  | .lost _ _ due => [due]
  | .reschedule _ now => [now]
  | _ => []

def InHandler (s : JobState W) (w : W) (x : Execution) : Prop :=
  s.workers w = some x ∧ x.phase = .handler

-- one clock, never read ahead of itself, and no handler that outlives its lease
def OnTime (s : JobState W) (a : JobAction W) : Prop :=
  (∀ now ∈ a.readings, now ≤ s.clock) ∧ ∀ w x, InHandler s w x → s.clock ≤ x.lease_until

def Exclusive (s : JobState W) : Prop :=
  ∀ w x, InHandler s w x → ∃ j ∈ s.jobs, j.id = x.job_id ∧ j.status = .RUNNING ∧
    j.claimed_by = some w ∧ j.lease_until = some x.lease_until

theorem Exclusive.keep {s s' : JobState W} (h : Exclusive s)
    (hw : ∀ w x, InHandler s' w x → InHandler s w x)
    (hj : ∀ w x, InHandler s' w x → ∀ j ∈ s.jobs, j.id = x.job_id → j.claimed_by = some w →
      j.lease_until = some x.lease_until → j ∈ s'.jobs) : Exclusive s' := by
  intro w x hx
  obtain ⟨j, hm, hid, hst, hc, hl⟩ := h w x (hw w x hx)
  exact ⟨j, hj w x hx j hm hid hc hl, hid, hst, hc, hl⟩

theorem Exclusive.alone {s : JobState W} (hu : Table.Unique ScheduledJob.id s.jobs)
    (h : Exclusive s) {w w' : W} {x x' : Execution} (hx : InHandler s w x)
    (hx' : InHandler s w' x') (hjob : x.job_id = x'.job_id) : w = w' := by
  obtain ⟨j, hj, hid, _, hc, _⟩ := h w x hx
  obtain ⟨j', hj', hid', _, hc', _⟩ := h w' x' hx'
  obtain rfl := Table.unique_eq hu hj hj' (hid.trans (hjob.trans hid'.symm))
  exact Option.some.inj (hc.symm.trans hc')

theorem claimable_iff {job_id : Nat} {due : Timestamptz} {j : ScheduledJob W} :
    claimable job_id due j = true ↔ j.id = job_id ∧ j.status = .PENDING ∧ j.next_run_at ≤ due := by
  simp [claimable, and_assoc]

variable [DecidableEq W]

theorem held_by_iff {job_id : Nat} {w : W} {j : ScheduledJob W} :
    held_by job_id w j = true ↔ j.id = job_id ∧ j.claimed_by = some w := by
  simp [held_by]

theorem Inv.held_ids {s : JobState W} (h : Inv s) {w : W} {x : Execution}
    (hw : s.workers w = some x) :
    (∀ j ∈ s.jobs, held_by x.job_id w j = false) ∨
      (job_ids (held_by x.job_id w) s.jobs = [x.job_id] ∧ s.holder x.job_id = some x.claim) := by
  by_cases hany : ∃ j ∈ s.jobs, held_by x.job_id w j = true
  · obtain ⟨j, hj, hp⟩ := hany
    obtain ⟨hid, hc⟩ := held_by_iff.mp hp
    refine .inr ⟨?_, hid ▸ h.fence w x hw j hj hid hc⟩
    have hall : ∀ i ∈ job_ids (held_by x.job_id w) s.jobs, i = x.job_id := by
      intro i hi
      obtain ⟨o, _, hp', rfl⟩ := mem_job_ids.mp hi
      exact (held_by_iff.mp hp').1
    have hmem : x.job_id ∈ job_ids (held_by x.job_id w) s.jobs := mem_job_ids.mpr ⟨j, hj, hp, hid⟩
    have hn : (job_ids (held_by x.job_id w) s.jobs).Nodup := nodup_job_ids h.unique
    generalize job_ids (held_by x.job_id w) s.jobs = ids at hall hmem hn
    match ids, hall, hmem, hn with
    | [i], hall, _, _ => rw [hall i (by simp)]
    | i :: i' :: _, hall, _, hn =>
        have he : i = i' := (hall i (by simp)).trans (hall i' (by simp)).symm
        simp [he] at hn
  · refine .inl (fun j hj => ?_)
    by_contra hp
    exact hany ⟨j, hj, by simpa using hp⟩

theorem Inv.reschedule {s : JobState W} (h : Inv s) {w : W} {x : Execution}
    (hw : s.workers w = some x) (now : Timestamptz) (error : Option String) :
    Inv ({ s with
        jobs := Table.update (held_by x.job_id w) (rescheduled x.interval_seconds now error) s.jobs
        workers := Function.update s.workers w none }.end_claims
      (job_ids (held_by x.job_id w) s.jobs) .rescheduled) := by
  refine h.release (fun _ _ => rfl) (fun _ => rfl) (fun _ => ⟨rfl, rfl, rfl⟩) (fun w' x' hw' => ?_)
    (fun j hj => ?_)
  · rcases Transition.update_some hw' with ⟨_, hx⟩ | ⟨_, hx⟩
    · simp at hx
    · exact hx
  · by_cases hp : held_by x.job_id w j = true
    · obtain ⟨hid, hc⟩ := held_by_iff.mp hp
      rcases h.held_ids hw with hno | ⟨hids, hholder⟩
      · simp [hno j hj] at hp
      · simp only [hp, if_true, hids, rescheduled, h.counts j hj, hid]
        simp [applied, JobState.end_claims, hholder]
    · have hn : j.id ∉ job_ids (held_by x.job_id w) s.jobs := by
        rw [mem_job_ids_self h.unique hj]
        exact hp
      rw [applied_rescheduled_other _ hn, ← h.counts j hj, if_neg hp]

theorem Inv.claim {s : JobState W} (h : Inv s) {w : W} {j : ScheduledJob W}
    {due now lease_until : Timestamptz} {interval_seconds : Nat} (hj : j ∈ s.jobs)
    (hc : claimable j.id due j = true) :
    Inv { s with
      jobs := Table.update (claimable j.id due) (claimed w lease_until now) s.jobs
      workers := Function.update s.workers w
        (some ⟨j.id, interval_seconds, lease_until, s.claims, .handler⟩)
      claims := s.claims + 1
      holder := Function.update s.holder j.id (some s.claims) } := by
  have hrow : ∀ o ∈ s.jobs, claimable j.id due o = true ↔ o.id = j.id := by
    intro o ho
    refine ⟨fun hp => (claimable_iff.mp hp).1, fun hid => ?_⟩
    rw [Table.unique_eq h.unique ho hj hid]
    exact hc
  refine ⟨Table.unique_update (f := claimed w lease_until now) (fun _ _ => rfl) h.unique,
    h.ledger.claim j.id, fun o' ho' => ?_, fun w' x hw' o' ho' hid hcl => ?_, fun o' ho' => ?_⟩
  · obtain ⟨o, ho, rfl⟩ := Table.mem_update.mp ho'
    by_cases hp : claimable j.id due o = true
    · refine .inl ⟨by simp [hp, claimed], by simp [hp, claimed], by simp [hp, claimed], ?_⟩
      simp [hp, claimed, (hrow o ho).mp hp]
    · have hne : o.id ≠ j.id := fun hid => hp ((hrow o ho).mpr hid)
      rw [if_neg hp]
      rcases h.rows o ho with hh | hf
      · exact .inl ⟨hh.running, hh.claimed, hh.lease, by simpa [hne] using hh.holder⟩
      · exact .inr ⟨hf.pending, hf.claimed, hf.lease, by simpa [hne] using hf.holder⟩
  · obtain ⟨o, ho, rfl⟩ := Table.mem_update.mp ho'
    by_cases hp : claimable j.id due o = true
    · rw [if_pos hp] at hid hcl ⊢
      have hww : w = w' := Option.some.inj hcl
      subst hww
      rcases Transition.update_some hw' with ⟨_, hx⟩ | ⟨hne, _⟩
      · obtain rfl := Option.some.inj hx
        simp [claimed, (hrow o ho).mp hp]
      · exact absurd rfl hne
    · have hne : o.id ≠ j.id := fun hid => hp ((hrow o ho).mpr hid)
      rw [if_neg hp] at hid hcl ⊢
      rcases Transition.update_some hw' with ⟨_, hx⟩ | ⟨_, hx⟩
      · obtain rfl := Option.some.inj hx
        exact absurd hid hne
      · simpa [hne] using h.fence w' x hx o ho hid hcl
  · obtain ⟨o, ho, rfl⟩ := Table.mem_update.mp ho'
    have hcount := h.counts o ho
    by_cases hp : claimable j.id due o = true
    · simpa [hp, claimed] using hcount
    · simpa [hp] using hcount

theorem Inv.execute {s : JobState W} (h : Inv s) {w : W} {x : Option Execution}
    (hx : ∀ y, x = some y → ∃ z, s.workers w = some z ∧ z.job_id = y.job_id ∧ z.claim = y.claim) :
    Inv (s.execute w x) := by
  refine ⟨h.unique, ⟨h.ledger.fresh, h.ledger.distinct, h.ledger.old, h.ledger.open_,
    h.ledger.once⟩, fun j hj => ?_, fun w' y hw' j hj hid hc => ?_, h.counts⟩
  · rcases h.rows j hj with hh | hf
    · exact .inl ⟨hh.running, hh.claimed, hh.lease, hh.holder⟩
    · exact .inr ⟨hf.pending, hf.claimed, hf.lease, hf.holder⟩
  · rcases Transition.update_some hw' with ⟨rfl, hy⟩ | ⟨_, hy⟩
    · obtain ⟨z, hz, hjob, hclaim⟩ := hx y hy
      exact hclaim ▸ h.fence w' z hz j hj (hid.trans hjob.symm) hc
    · exact h.fence w' y hy j hj hid hc

variable {lease_seconds : Nat}

theorem Inv.step {s s' : JobState W} {a : JobAction W} (h : Inv s)
    (hs : JobStep lease_seconds s a s') : Inv s' := by
  cases hs with
  | recover now => exact h.recover now
  | claim _ hj hc => exact h.claim hj hc
  | lost => exact h
  | handler_end hw =>
      refine h.execute (fun y hy => ⟨_, hw, ?_, ?_⟩) <;> rw [← Option.some.inj hy]
  | reschedule hw => exact h.reschedule hw _ _
  | crash w => exact h.execute (fun y hy => by simp at hy)
  | tick =>
      exact ⟨h.unique, ⟨h.ledger.fresh, h.ledger.distinct, h.ledger.old, h.ledger.open_,
        h.ledger.once⟩, fun j hj => (h.rows j hj).imp
          (fun hh => ⟨hh.running, hh.claimed, hh.lease, hh.holder⟩)
          (fun hf => ⟨hf.pending, hf.claimed, hf.lease, hf.holder⟩), h.fence, h.counts⟩

theorem JobRun.inv {s s' : JobState W} {as : List (JobAction W)} (h : JobRun lease_seconds s as s')
    (hi : Inv s) : Inv s' :=
  Transition.Run.invariant (fun _ _ _ hi hs => hi.step hs) h hi

theorem Inv.reschedule_fenced {s s' : JobState W} (h : Inv s) {w : W} {now : Timestamptz}
    (hs : JobStep lease_seconds s (.reschedule w now) s') :
    ∃ x error, s.workers w = some x ∧ x.phase = .ended error ∧
      ((s'.jobs = s.jobs ∧ s'.holder = s.holder ∧ s'.log = s.log) ∨
      (s.holder x.job_id = some x.claim ∧
        (∃ j ∈ s.jobs, j.id = x.job_id ∧ j.claimed_by = some w) ∧
        s'.jobs = Table.update (held_by x.job_id w) (rescheduled x.interval_seconds now error)
          s.jobs ∧
        s'.log = s.log ++ [.rescheduled x.job_id x.claim])) := by
  cases hs with
  | @reschedule _ x error _ hw hp =>
      refine ⟨x, error, hw, hp, ?_⟩
      rcases h.held_ids hw with hno | ⟨hids, hholder⟩
      · have hnil : job_ids (held_by x.job_id w) s.jobs = [] := by
          rw [job_ids, List.filter_eq_nil_iff.mpr (fun j hj => by simp [hno j hj])]
          rfl
        refine .inl ⟨Table.update_eq_self hno, ?_, ?_⟩
        · simp [JobState.end_claims, hnil]
        · simp [JobState.end_claims, hnil]
      · have hmem : x.job_id ∈ job_ids (held_by x.job_id w) s.jobs := by simp [hids]
        obtain ⟨j, hj, hp', _⟩ := mem_job_ids.mp hmem
        obtain ⟨hid, hc⟩ := held_by_iff.mp hp'
        refine .inr ⟨hholder, ⟨j, hj, hid, hc⟩, rfl, ?_⟩
        simp [JobState.end_claims, hids, hholder]

theorem InHandler.of_update {s : JobState W} {w w' : W} {x : Option Execution} {y : Execution}
    (h : Function.update s.workers w x w' = some y) (hp : y.phase = .handler)
    (hx : ∀ z, x = some z → z.phase ≠ .handler) : w' ≠ w ∧ InHandler s w' y := by
  rcases Transition.update_some h with ⟨_, hz⟩ | ⟨hne, hz⟩
  · exact absurd hp (hx y hz)
  · exact ⟨hne, hz, hp⟩

theorem Exclusive.step {s s' : JobState W} {a : JobAction W} (h : Exclusive s)
    (ht : OnTime s a) (hs : JobStep lease_seconds s a s') : Exclusive s' := by
  cases hs with
  | recover now =>
      refine h.keep (fun _ _ hx => hx) (fun w x hx j hm _ _ hl => ?_)
      refine Table.mem_update.mpr ⟨j, hm, ?_⟩
      have hnow : now ≤ s.clock := ht.1 now (by simp [JobAction.readings])
      have hns : stale now j = false := by
        simp [stale, hl, Int.le_trans hnow (ht.2 w x hx)]
      simp [hns]
  | @claim w j lease_from due now hwk hj hc =>
      intro w' x hx
      rcases Transition.update_some hx.1 with ⟨rfl, he⟩ | ⟨hne, he⟩
      · obtain rfl := Option.some.inj he
        exact ⟨_, Table.mem_update.mpr ⟨j, hj, if_pos hc⟩, rfl, rfl, rfl, rfl⟩
      · obtain ⟨o, ho, hid, hst, hcl, hl⟩ := h w' x ⟨he, hx.2⟩
        have hnc : ¬ claimable j.id due o = true := by
          simp [claimable, hst]
        exact ⟨o, Table.mem_update.mpr ⟨o, ho, if_neg hnc⟩, hid, hst, hcl, hl⟩
  | lost => exact h
  | handler_end =>
      refine h.keep (fun w x hx => ?_) (fun _ _ _ _ hm _ _ _ => hm)
      exact (InHandler.of_update hx.1 hx.2 (fun z hz => by simp [← Option.some.inj hz])).2
  | @reschedule w y error now hw hp =>
      have hother : ∀ w' x, Function.update s.workers w none w' = some x → x.phase = .handler →
          w' ≠ w ∧ InHandler s w' x :=
        fun w' x hx hph => InHandler.of_update hx hph (fun z hz => nomatch hz)
      refine h.keep (fun w' x hx => (hother w' x hx.1 hx.2).2) (fun w' x hx j hm _ hc _ => ?_)
      refine Table.mem_update.mpr ⟨j, hm, ?_⟩
      have hnot : ¬ held_by y.job_id w j = true := by
        rw [held_by_iff, hc]
        exact fun hh => (hother w' x hx.1 hx.2).1 (Option.some.inj hh.2)
      rw [if_neg hnot]
  | crash w =>
      refine h.keep (fun w' x hx => ?_) (fun _ _ _ _ hm _ _ _ => hm)
      exact (InHandler.of_update hx.1 hx.2 (fun z hz => by simp at hz)).2
  | tick => exact h.keep (fun _ _ hx => hx) (fun _ _ _ _ hm _ _ _ => hm)

theorem exclusive_run {s s' : JobState W} {as : List (JobAction W)} (hi : Inv s) (h : Exclusive s)
    (hr : Transition.Run (Transition.Guarded OnTime (JobStep lease_seconds)) s as s') :
    Inv s' ∧ Exclusive s' :=
  Transition.Run.invariant (I := fun s => Inv s ∧ Exclusive s)
    (fun _ _ _ hi hs => ⟨hi.1.step hs.2, hi.2.step hs.1 hs.2⟩) hr ⟨hi, h⟩

theorem job_lease_and_fencing {s₀ : JobState W} (hseed : Seeded s₀) (lease_seconds : Nat) :
    (∀ as s, JobRun lease_seconds s₀ as s →
      (∀ j ∈ s.jobs,
        (j.status = .RUNNING ↔ j.claimed_by ≠ none ∧ j.lease_until ≠ none) ∧
        (j.status = .PENDING ↔ j.claimed_by = none ∧ j.lease_until = none) ∧
        (j.status = .RUNNING ↔ s.holder j.id ≠ none)) ∧
      (∀ w now s', JobStep lease_seconds s (.reschedule w now) s' →
        ∃ x error, s.workers w = some x ∧ x.phase = .ended error ∧
          ((s'.jobs = s.jobs ∧ s'.holder = s.holder ∧ s'.log = s.log) ∨
          (s.holder x.job_id = some x.claim ∧
            (∃ j ∈ s.jobs, j.id = x.job_id ∧ j.claimed_by = some w) ∧
            s'.jobs = Table.update (held_by x.job_id w) (rescheduled x.interval_seconds now error)
              s.jobs ∧
            s'.log = s.log ++ [.rescheduled x.job_id x.claim]))) ∧
      (∀ claim, s.log.countP (fun e => decide (e.claim = claim)) ≤ 1) ∧
      (∀ j ∈ s.jobs, j.run_count = applied j.id s.log)) ∧
    (∀ as s, Transition.Run (Transition.Guarded OnTime (JobStep lease_seconds)) s₀ as s →
      ∀ w w' x x', InHandler s w x → InHandler s w' x' → x.job_id = x'.job_id → w = w') := by
  refine ⟨fun as s h => ?_, fun as s h w w' x x' hx hx' hjob => ?_⟩
  · have hi := h.inv hseed.inv
    refine ⟨fun j hj => ?_, fun w now s' hs => hi.reschedule_fenced hs, fun claim => ?_, hi.counts⟩
    · rcases hi.rows j hj with hh | hf
      · simp [hh.running, hh.claimed, hh.lease, hh.holder]
      · simp [hf.pending, hf.claimed, hf.lease, hf.holder]
    · have hone := List.nodup_iff_count_le_one.mp hi.ledger.once claim
      simpa [List.count, List.countP_map, Function.comp_def, beq_eq_decide] using hone
  · have hex : Exclusive s₀ := fun w x hx => by simp [InHandler, hseed.workers] at hx
    obtain ⟨hi, he⟩ := exclusive_run hseed.inv hex h
    exact he.alone hi.unique hx hx' hjob

def aemet_sync : ScheduledJob Bool where
  id := 0
  job_name := "aemet_sync"
  interval_seconds := 1800
  status := .PENDING
  last_run_at := none
  next_run_at := 0
  last_error := none
  run_count := 0
  claimed_by := none
  lease_until := none
  updated_at := none

def seeded : JobState Bool := ⟨[aemet_sync], fun _ => none, 0, 0, fun _ => none, []⟩

theorem job_lease_and_fencing_seeded :
    (∀ as s, JobRun 120 seeded as s →
      (∀ j ∈ s.jobs,
        (j.status = .RUNNING ↔ j.claimed_by ≠ none ∧ j.lease_until ≠ none) ∧
        (j.status = .PENDING ↔ j.claimed_by = none ∧ j.lease_until = none) ∧
        (j.status = .RUNNING ↔ s.holder j.id ≠ none)) ∧
      (∀ w now s', JobStep 120 s (.reschedule w now) s' →
        ∃ x error, s.workers w = some x ∧ x.phase = .ended error ∧
          ((s'.jobs = s.jobs ∧ s'.holder = s.holder ∧ s'.log = s.log) ∨
          (s.holder x.job_id = some x.claim ∧
            (∃ j ∈ s.jobs, j.id = x.job_id ∧ j.claimed_by = some w) ∧
            s'.jobs = Table.update (held_by x.job_id w) (rescheduled x.interval_seconds now error)
              s.jobs ∧
            s'.log = s.log ++ [.rescheduled x.job_id x.claim]))) ∧
      (∀ claim, s.log.countP (fun e => decide (e.claim = claim)) ≤ 1) ∧
      (∀ j ∈ s.jobs, j.run_count = applied j.id s.log)) ∧
    (∀ as s, Transition.Run (Transition.Guarded OnTime (JobStep 120)) seeded as s →
      ∀ w w' x x', InHandler s w x → InHandler s w' x' → x.job_id = x'.job_id → w = w') :=
  job_lease_and_fencing
    { unique := by simp [seeded, Table.Unique]
      jobs := by simp [seeded, aemet_sync]
      workers := fun _ => rfl
      holder := fun _ => rfl
      log := rfl } 120

end GeoHazard.JobWorker

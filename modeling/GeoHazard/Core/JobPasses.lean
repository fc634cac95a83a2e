import GeoHazard.Core.JobRuns
import GeoHazard.Library.Backlog
import GeoHazard.Library.OrderBy

namespace GeoHazard.JobWorker

variable {W : Type}

def BATCH_SIZE : Nat := 10

def candidate (registered_jobs : List String) (now : Timestamptz) (j : ScheduledJob W) : Bool :=
  decide (j.status = .PENDING) && decide (j.next_run_at ≤ now) &&
    decide (j.job_name ∈ registered_jobs)

def earlier (i j : ScheduledJob W) : Prop := i.next_run_at ≤ j.next_run_at

instance : DecidableRel (earlier (W := W)) := fun _ _ => inferInstanceAs (Decidable (_ ≤ _))

-- rows of one next_run_at come in any order
def Candidates (registered_jobs : List String) (now : Timestamptz) (jobs : List (ScheduledJob W))
    (candidate_ids : List Nat) : Prop :=
  ∃ rows, rows.Perm (jobs.filter (candidate registered_jobs now)) ∧
    candidate_ids = (OrderBy.limited earlier BATCH_SIZE rows).map ScheduledJob.id

structure LoopState (W : Type) extends JobState W where
  candidate_ids : W → List Nat

inductive LoopAction (W : Type) where
  | select (w : W) (now : Timestamptz) (candidate_ids : List Nat)
  | work (a : JobAction W)

def JobAction.tries : JobAction W → Option (W × Nat)
  | .claim w job_id _ _ _ => some (w, job_id)
  | .lost w job_id _ => some (w, job_id)
  | _ => none

def rest [DecidableEq W] (candidate_ids : W → List Nat) : JobAction W → W → List Nat
  | .claim w _ _ _ _ => Function.update candidate_ids w (candidate_ids w).tail
  | .lost w _ _ => Function.update candidate_ids w (candidate_ids w).tail
  | .crash w => Function.update candidate_ids w []
  | _ => candidate_ids

inductive LoopStep [DecidableEq W] (registered_jobs : W → List String) (lease_seconds : Nat) :
    LoopState W → LoopAction W → LoopState W → Prop
  | select {s : LoopState W} {w : W} {now : Timestamptz} {candidate_ids : List Nat}
      (hw : s.workers w = none) (hdone : s.candidate_ids w = [])
      (hc : Candidates (registered_jobs w) now s.jobs candidate_ids) :
      LoopStep registered_jobs lease_seconds s (.select w now candidate_ids)
        { s with candidate_ids := Function.update s.candidate_ids w candidate_ids }
  | work {s : LoopState W} {a : JobAction W} {t : JobState W}
      (hs : JobStep lease_seconds s.toJobState a t)
      (hnext : ∀ w job_id, a.tries = some (w, job_id) →
        (s.candidate_ids w).head? = some job_id) :
      LoopStep registered_jobs lease_seconds s (.work a) ⟨t, rest s.candidate_ids a⟩

abbrev LoopRun [DecidableEq W] (registered_jobs : W → List String) (lease_seconds : Nat) :
    LoopState W → List (LoopAction W) → LoopState W → Prop :=
  Transition.Run (LoopStep registered_jobs lease_seconds)

def LoopAction.worked : LoopAction W → Option (JobAction W)
  | .select _ _ _ => none
  | .work a => some a

def LoopAction.readings : LoopAction W → List Timestamptz
  | .select _ now _ => [now]
  | .work a => a.readings

theorem earlier_by : OrderBy.By (earlier (W := W)) ScheduledJob.next_run_at := ⟨Iff.rfl⟩

theorem candidate_iff {registered_jobs : List String} {now : Timestamptz} {j : ScheduledJob W} :
    candidate registered_jobs now j = true ↔
      j.status = .PENDING ∧ j.next_run_at ≤ now ∧ j.job_name ∈ registered_jobs := by
  simp [candidate, and_assoc]

theorem Candidates.cases {registered_jobs : List String} {now : Timestamptz}
    {jobs : List (ScheduledJob W)} {candidate_ids : List Nat}
    (h : Candidates registered_jobs now jobs candidate_ids)
    (hu : Table.Unique ScheduledJob.id jobs) {j : ScheduledJob W} (hj : j ∈ jobs)
    (hc : candidate registered_jobs now j = true) :
    j.id ∈ candidate_ids ∨ ∃ taken : List (ScheduledJob W),
      candidate_ids = taken.map ScheduledJob.id ∧ taken.Nodup ∧ taken.length = BATCH_SIZE ∧
      ∀ o ∈ taken, o ∈ jobs ∧ candidate registered_jobs now o = true ∧
        o.next_run_at ≤ j.next_run_at ∧ o.id ≠ j.id := by
  obtain ⟨rows, hperm, rfl⟩ := h
  obtain ⟨left, hsplit, hbefore⟩ := earlier_by.limited_rest BATCH_SIZE rows
  have hall := hsplit.trans hperm
  have hrows : ∀ o, o ∈ OrderBy.limited earlier BATCH_SIZE rows ++ left →
      o ∈ jobs ∧ candidate registered_jobs now o = true :=
    fun o ho => List.mem_filter.mp (hall.mem_iff.mp ho)
  rcases List.mem_append.mp (hall.mem_iff.mpr (List.mem_filter.mpr ⟨hj, hc⟩)) with hin | hout
  · exact .inl (List.mem_map_of_mem hin)
  · have hnodup : (OrderBy.limited earlier BATCH_SIZE rows ++ left).Nodup :=
      hall.nodup_iff.mpr ((List.Nodup.of_map _ hu).filter _)
    obtain ⟨htaken, _, hdisj⟩ := List.nodup_append.mp hnodup
    refine .inr ⟨_, rfl, htaken, ?_, fun o ho => ?_⟩
    · have hlen := hsplit.length_eq
      have hpos := List.length_pos_of_mem hout
      rw [List.length_append] at hlen
      rw [OrderBy.length_limited] at hlen ⊢
      omega
    · obtain ⟨hmem, hcand⟩ := hrows o (List.mem_append_left _ ho)
      refine ⟨hmem, hcand, hbefore o ho j hout, fun hid => ?_⟩
      exact hdisj o ho j hout (Table.unique_eq hu hmem hj hid)

variable [DecidableEq W] {registered_jobs : W → List String} {lease_seconds : Nat}

theorem LoopRun.jobs {s t : LoopState W} {as : List (LoopAction W)}
    (h : LoopRun registered_jobs lease_seconds s as t) :
    JobRun lease_seconds s.toJobState (as.filterMap LoopAction.worked) t.toJobState := by
  induction h with
  | nil => exact .nil _
  | snoc _ hk ih =>
      rw [List.filterMap_append]
      cases hk with
      | select => simpa only [List.filterMap_cons_none (LoopAction.worked.eq_1 _ _ _),
          List.filterMap_nil, List.append_nil] using ih
      | work hs => exact ih.append (.one hs)

theorem JobStep.names {s t : JobState W} {a : JobAction W} (h : JobStep lease_seconds s a t) :
    t.jobs.map (fun j => (j.id, j.job_name)) = s.jobs.map (fun j => (j.id, j.job_name)) := by
  cases h with
  | recover => exact Table.keys_update (f := recovered) (fun _ _ => rfl) _
  | claim => exact Table.keys_update (f := claimed _ _ _) (fun _ _ => rfl) _
  | reschedule => exact Table.keys_update (f := rescheduled _ _ _) (fun _ _ => rfl) _
  | lost => rfl
  | handler_end => rfl
  | crash => rfl
  | tick => rfl

theorem JobStep.waits {s t : JobState W} {a : JobAction W} (h : JobStep lease_seconds s a t)
    {j : ScheduledJob W} (hj : j ∈ s.jobs) (hp : j.status = .PENDING) (hfree : j.claimed_by = none)
    (ha : ∀ w lease_from due now, a ≠ .claim w j.id lease_from due now) : j ∈ t.jobs := by
  cases h with
  | recover now =>
      exact Table.mem_update.mpr ⟨j, hj, by simp [stale, hp]⟩
  | @claim w o lease_from due now _ _ hc =>
      refine Table.mem_update.mpr ⟨j, hj, ?_⟩
      have hne : ¬ claimable o.id due j = true :=
        fun hcl => ha w lease_from due now (by rw [(claimable_iff.mp hcl).1])
      rw [if_neg hne]
  | @reschedule w x error now _ _ =>
      exact Table.mem_update.mpr ⟨j, hj, by simp [held_by, hfree]⟩
  | lost => exact hj
  | handler_end => exact hj
  | crash => exact hj
  | tick => exact hj

def OwnJob (registered_jobs : List String) (jobs : List (ScheduledJob W)) (job_id : Nat) : Prop :=
  ∃ j ∈ jobs, j.id = job_id ∧ j.job_name ∈ registered_jobs

omit [DecidableEq W] in
theorem OwnJob.kept {names : List String} {jobs jobs' : List (ScheduledJob W)} {job_id : Nat}
    (h : OwnJob names jobs job_id)
    (hn : jobs'.map (fun j => (j.id, j.job_name)) = jobs.map (fun j => (j.id, j.job_name))) :
    OwnJob names jobs' job_id := by
  obtain ⟨j, hj, rfl, hname⟩ := h
  have hm : (j.id, j.job_name) ∈ jobs'.map (fun j => (j.id, j.job_name)) :=
    hn ▸ List.mem_map_of_mem hj
  obtain ⟨j', hj', he⟩ := List.mem_map.mp hm
  obtain ⟨hid, hname'⟩ := Prod.mk.inj he
  exact ⟨j', hj', hid, hname' ▸ hname⟩

structure Own (registered_jobs : W → List String) (s : LoopState W) : Prop where
  candidates : ∀ w, ∀ job_id ∈ s.candidate_ids w, OwnJob (registered_jobs w) s.jobs job_id
  workers : ∀ w x, s.workers w = some x → OwnJob (registered_jobs w) s.jobs x.job_id

theorem rest_subset {candidate_ids : W → List Nat} {a : JobAction W} {w : W} {job_id : Nat}
    (h : job_id ∈ rest candidate_ids a w) : job_id ∈ candidate_ids w := by
  have htail : ∀ v, job_id ∈ Function.update candidate_ids v (candidate_ids v).tail w →
      job_id ∈ candidate_ids w := by
    intro v hv
    by_cases hwv : w = v
    · subst hwv
      rw [Function.update_self] at hv
      exact List.mem_of_mem_tail hv
    · rwa [Function.update_of_ne hwv] at hv
  cases a with
  | claim v => exact htail v h
  | lost v => exact htail v h
  | crash v =>
      by_cases hwv : w = v
      · simp [rest, hwv] at h
      · simpa [rest, Function.update_of_ne hwv] using h
  | recover => exact h
  | handler_end => exact h
  | reschedule => exact h
  | tick => exact h

theorem JobStep.executes {s t : JobState W} {a : JobAction W} (h : JobStep lease_seconds s a t)
    {w : W} {x : Execution} (hx : t.workers w = some x) :
    (∃ y, s.workers w = some y ∧ y.job_id = x.job_id) ∨ a.tries = some (w, x.job_id) := by
  cases h with
  | claim =>
      rcases Transition.update_some hx with ⟨rfl, he⟩ | ⟨_, he⟩
      · exact .inr (by rw [← Option.some.inj he]; rfl)
      · exact .inl ⟨x, he, rfl⟩
  | @handler_end v y _ hw _ =>
      rcases Transition.update_some hx with ⟨rfl, he⟩ | ⟨_, he⟩
      · exact .inl ⟨y, hw, by rw [← Option.some.inj he]⟩
      · exact .inl ⟨x, he, rfl⟩
  | reschedule =>
      rcases Transition.update_some hx with ⟨_, he⟩ | ⟨_, he⟩
      · cases he
      · exact .inl ⟨x, he, rfl⟩
  | crash v =>
      rcases Transition.update_some hx with ⟨_, he⟩ | ⟨_, he⟩
      · cases he
      · exact .inl ⟨x, he, rfl⟩
  | recover => exact .inl ⟨x, hx, rfl⟩
  | lost => exact .inl ⟨x, hx, rfl⟩
  | tick => exact .inl ⟨x, hx, rfl⟩

theorem Own.step {s t : LoopState W} {a : LoopAction W} (h : Own registered_jobs s)
    (hs : LoopStep registered_jobs lease_seconds s a t) : Own registered_jobs t := by
  cases hs with
  | @select w now candidate_ids _ _ hc =>
      refine ⟨fun v job_id hid => ?_, h.workers⟩
      by_cases hv : v = w
      · subst hv
        simp only [Function.update_self] at hid
        obtain ⟨rows, hperm, rfl⟩ := hc
        obtain ⟨j, hj, rfl⟩ := List.mem_map.mp hid
        obtain ⟨hmem, hcand⟩ := List.mem_filter.mp (hperm.mem_iff.mp (OrderBy.mem_limited hj))
        exact ⟨j, hmem, rfl, (candidate_iff.mp hcand).2.2⟩
      · simp only [Function.update_of_ne hv] at hid
        exact h.candidates v job_id hid
  | work hk hnext =>
      refine ⟨fun v job_id hid => (h.candidates v job_id (rest_subset hid)).kept hk.names,
        fun v x hx => ?_⟩
      rcases hk.executes hx with ⟨y, hy, hjob⟩ | htry
      · exact (hjob ▸ h.workers v y hy).kept hk.names
      · exact (h.candidates v x.job_id (List.mem_of_head? (hnext v x.job_id htry))).kept hk.names

theorem LoopRun.own {s t : LoopState W} {as : List (LoopAction W)}
    (h : LoopRun registered_jobs lease_seconds s as t) (ho : Own registered_jobs s) :
    Own registered_jobs t :=
  Transition.Run.invariant (fun _ _ _ ho hs => ho.step hs) h ho

omit [DecidableEq W] in
theorem Seeded.own {s : LoopState W} (h : Seeded s.toJobState) (hq : ∀ w, s.candidate_ids w = []) :
    Own registered_jobs s where
  candidates w job_id hid := by simp [hq] at hid
  workers w x hx := by simp [h.workers] at hx

theorem registered_jobs_only {s₀ s : LoopState W} (hseed : Seeded s₀.toJobState)
    (hq : ∀ w, s₀.candidate_ids w = []) {as : List (LoopAction W)}
    (h : LoopRun registered_jobs lease_seconds s₀ as s) :
    (∀ w x, s.workers w = some x →
      ∃ j ∈ s.jobs, j.id = x.job_id ∧ j.job_name ∈ registered_jobs w) ∧
    (∀ j ∈ s₀.jobs, (∀ w, j.job_name ∉ registered_jobs w) → j ∈ s.jobs) := by
  refine ⟨(LoopRun.own h (hseed.own hq)).workers, fun j hj hno => ?_⟩
  obtain ⟨hp, hfree, _, _⟩ := hseed.jobs j hj
  have hinit : Own registered_jobs s₀ ∧ Inv s₀.toJobState ∧ j ∈ s₀.jobs :=
    ⟨hseed.own hq, hseed.inv, hj⟩
  refine (Transition.Run.invariant (I := fun s => Own registered_jobs s ∧ Inv s.toJobState ∧
    j ∈ s.jobs) (fun s a t hi hs => ⟨hi.1.step hs, ?_⟩) h hinit).2.2
  cases hs with
  | select => exact hi.2
  | work hk hnext =>
      refine ⟨hi.2.1.step hk, hk.waits hi.2.2 hp hfree ?_⟩
      rintro w lease_from due now rfl
      obtain ⟨o, ho, hid, hname⟩ :=
        hi.1.candidates w j.id (List.mem_of_head? (hnext w j.id rfl))
      exact hno w (Table.unique_eq hi.2.1.unique ho hi.2.2 hid ▸ hname)

def ign_sync : ScheduledJob Bool := { aemet_sync with id := 1, job_name := "ign_sync" }

-- a deployment: the process that goes has no handler for ign_sync, the one that comes has
def deployed (w : Bool) : List String := if w then ["aemet_sync", "ign_sync"] else ["aemet_sync"]

def two_seeded : LoopState Bool :=
  ⟨{ seeded with jobs := [aemet_sync, ign_sync] }, fun _ => []⟩

theorem two_seeded_ok : Seeded two_seeded.toJobState where
  unique := by simp [two_seeded, Table.Unique, aemet_sync, ign_sync]
  jobs := by simp [two_seeded, seeded, aemet_sync, ign_sync]
  workers := fun _ => rfl
  holder := fun _ => rfl
  log := rfl

def effis_sync : ScheduledJob Bool := { aemet_sync with id := 2, job_name := "effis_sync" }

def three_seeded : LoopState Bool :=
  ⟨{ seeded with jobs := [aemet_sync, ign_sync, effis_sync] }, fun _ => []⟩

theorem three_seeded_ok : Seeded three_seeded.toJobState where
  unique := by simp [three_seeded, Table.Unique, aemet_sync, ign_sync, effis_sync]
  jobs := by simp [three_seeded, seeded, aemet_sync, ign_sync, effis_sync]
  workers := fun _ => rfl
  holder := fun _ => rfl
  log := rfl

-- the new process runs aemet_sync to its end, and is in the handler of ign_sync
theorem deployed_run : ∃ as s x, LoopRun deployed 120 three_seeded as s ∧
    s.workers true = some x ∧ x.job_id = 1 ∧ s.jobs.map ScheduledJob.run_count = [1, 0, 0] := by
  have hselected : LoopRun deployed 120 three_seeded [.select true 5 [0, 1]] _ :=
    .one (.select rfl rfl ⟨[aemet_sync, ign_sync], .refl _, rfl⟩)
  have hclaimed := hselected.snoc (a := .work (.claim true aemet_sync.id 5 5 5))
    (.work (.claim rfl (by decide) rfl) (by rintro w job_id ⟨⟩; rfl))
  have hended := hclaimed.snoc (a := .work (.handler_end true none))
    (.work (.handler_end rfl rfl) (by simp [JobAction.tries]))
  have hdone := hended.snoc (a := .work (.reschedule true 6))
    (.work (.reschedule rfl rfl) (by simp [JobAction.tries]))
  have hnext := hdone.snoc (a := .work (.claim true ign_sync.id 6 6 6))
    (.work (.claim rfl (by decide) rfl) (by rintro w job_id ⟨⟩; rfl))
  exact ⟨_, _, _, hnext, rfl, rfl, rfl⟩

theorem registered_jobs_only_deployed : ∃ as s x, LoopRun deployed 120 three_seeded as s ∧
    (s.workers true = some x ∧ x.job_id = 1 ∧ s.jobs.map ScheduledJob.run_count = [1, 0, 0]) ∧
    (effis_sync ∈ three_seeded.jobs ∧ ∀ w, effis_sync.job_name ∉ deployed w) ∧
    (∀ w x, s.workers w = some x →
      ∃ j ∈ s.jobs, j.id = x.job_id ∧ j.job_name ∈ deployed w) ∧
    (∀ j ∈ three_seeded.jobs, (∀ w, j.job_name ∉ deployed w) → j ∈ s.jobs) := by
  obtain ⟨as, s, x, hrun, hworking⟩ := deployed_run
  exact ⟨as, s, x, hrun, hworking, ⟨by decide, by decide⟩,
    registered_jobs_only three_seeded_ok (fun _ => rfl) hrun⟩

def passes (w : W) (as : List (LoopAction W)) : Nat :=
  as.countP (fun a => match a with
    | .select v _ _ => decide (v = w)
    | .work _ => false)

def recoveries (log : List Ended) : Nat :=
  log.countP (fun e => match e with
    | .recovered _ _ => true
    | .rescheduled _ _ => false)

-- jobs of this worker that its passes may take before j, and have not taken yet
def ahead (registered_jobs : W → List String) (w : W) (j : ScheduledJob W) (s : LoopState W) : Nat :=
  s.jobs.countP (fun o => (candidate (registered_jobs w) j.next_run_at o && decide (o.id ≠ j.id)) &&
    decide (o.id ∉ s.candidate_ids w))

-- a pass that has j among its candidates is the last one before j is claimed
def potential (registered_jobs : W → List String) (w : W) (j : ScheduledJob W) (s : LoopState W) :
    Nat :=
  if j.id ∈ s.candidate_ids w then 0 else ahead registered_jobs w j s + BATCH_SIZE

-- every clock is past the time of j, worker w does not stop and nobody claims j
structure Waits (w : W) (j : ScheduledJob W) (a : LoopAction W) : Prop where
  overdue : ∀ now ∈ a.readings, j.next_run_at < now
  alive : a ≠ .work (.crash w)
  unclaimed : ∀ v lease_from due now, a ≠ .work (.claim v j.id lease_from due now)

omit [DecidableEq W] in
theorem Inv.recoveries {s : JobState W} (h : Inv s) (now : Timestamptz) :
    recoveries (s.end_claims (job_ids (stale now) s.jobs) .recovered).log =
      recoveries s.log + s.jobs.countP (stale now) := by
  have hheld : ∀ id ∈ job_ids (stale now) s.jobs,
      ((s.holder id).map (Ended.recovered id)).isSome = true := by
    intro id hid
    obtain ⟨j, hj, hstale, rfl⟩ := mem_job_ids.mp hid
    rcases h.rows j hj with hh | hf
    · simpa [Option.isSome_iff_ne_none] using hh.holder
    · simp [stale, hf.pending] at hstale
  have hall : JobWorker.recoveries ((job_ids (stale now) s.jobs).filterMap
      (fun id => (s.holder id).map (Ended.recovered id))) =
      ((job_ids (stale now) s.jobs).filterMap
        (fun id => (s.holder id).map (Ended.recovered id))).length := by
    refine List.countP_eq_length.mpr (fun e he => ?_)
    obtain ⟨id, _, hc⟩ := List.mem_filterMap.mp he
    obtain ⟨c, _, rfl⟩ := Option.map_eq_some_iff.mp hc
    rfl
  have hlen : ((job_ids (stale now) s.jobs).filterMap
      (fun id => (s.holder id).map (Ended.recovered id))).length =
      (job_ids (stale now) s.jobs).length := by
    rw [List.length_filterMap_eq_countP]
    exact List.countP_eq_length.mpr hheld
  rw [JobWorker.recoveries, JobState.end_claims, List.countP_append]
  rw [JobWorker.recoveries] at hall
  rw [hall, hlen, job_ids, List.length_map, ← List.countP_eq_length_filter]
  rfl

theorem JobAction.tries_rest {candidate_ids : W → List Nat} {a : JobAction W} {w : W}
    {job_id : Nat} (hnext : ∀ w job_id, a.tries = some (w, job_id) →
      (candidate_ids w).head? = some job_id) (hid : job_id ∈ candidate_ids w)
    (hout : job_id ∉ rest candidate_ids a w) : a.tries = some (w, job_id) ∨ a = .crash w := by
  have hhead : ∀ v tried, a.tries = some (v, tried) →
      rest candidate_ids a = Function.update candidate_ids v (candidate_ids v).tail →
      a.tries = some (w, job_id) := by
    intro v tried htry hrest
    rw [hrest] at hout
    by_cases hwv : w = v
    · subst hwv
      rw [Function.update_self] at hout
      have hh := hnext w tried htry
      cases hl : candidate_ids w with
      | nil => simp [hl] at hid
      | cons head tail =>
          rw [hl] at hh hid hout
          obtain rfl := Option.some.inj hh
          rcases List.mem_cons.mp hid with rfl | htail
          · exact htry
          · exact absurd htail hout
    · rw [Function.update_of_ne hwv] at hout
      exact absurd hid hout
  cases a with
  | claim v tried => exact .inl (hhead v tried rfl rfl)
  | lost v tried => exact .inl (hhead v tried rfl rfl)
  | crash v =>
      by_cases hwv : w = v
      · exact .inr (by rw [hwv])
      · exact absurd hid (by simpa [rest, Function.update_of_ne hwv] using hout)
  | recover => exact absurd hid hout
  | handler_end => exact absurd hid hout
  | reschedule => exact absurd hid hout
  | tick => exact absurd hid hout

theorem JobStep.tried {s t : JobState W} {a : JobAction W} (h : JobStep lease_seconds s a t) {w : W}
    {o : ScheduledJob W} (htry : a.tries = some (w, o.id)) (ho : o ∈ s.jobs)
    (hp : o.status = .PENDING) (hdue : ∀ now ∈ a.readings, o.next_run_at ≤ now) :
    ∃ lease_from due now, a = .claim w o.id lease_from due now ∧ claimable o.id due o = true := by
  cases h with
  | @claim v i lease_from due now =>
      obtain ⟨rfl, hid⟩ := Prod.mk.inj (Option.some.inj htry)
      refine ⟨lease_from, due, now, by rw [hid], ?_⟩
      exact claimable_iff.mpr ⟨rfl, hp, hdue due (by simp [JobAction.readings])⟩
  | @lost v job_id due _ hc =>
      obtain ⟨rfl, rfl⟩ := Prod.mk.inj (Option.some.inj htry)
      have hno := hc o ho
      rw [claimable_iff.mpr ⟨rfl, hp, hdue due (by simp [JobAction.readings])⟩] at hno
      cases hno
  | recover => cases htry
  | handler_end => cases htry
  | reschedule => cases htry
  | crash => cases htry
  | tick => cases htry

omit [DecidableEq W] in
theorem recoveries_append (log log' : List Ended) : recoveries log ≤ recoveries (log ++ log') := by
  simp [recoveries, List.countP_append]

theorem JobStep.recoveries_le {s t : JobState W} {a : JobAction W}
    (h : JobStep lease_seconds s a t) : recoveries s.log ≤ recoveries t.log := by
  cases h with
  | recover => exact recoveries_append _ _
  | reschedule => exact recoveries_append _ _
  | claim => exact le_refl _
  | lost => exact le_refl _
  | handler_end => exact le_refl _
  | crash => exact le_refl _
  | tick => exact le_refl _

section
variable {w : W} {j : ScheduledJob W}

theorem JobStep.ahead {s : LoopState W} {a : JobAction W} {t : JobState W} (hi : Inv s.toJobState)
    (h : JobStep lease_seconds s.toJobState a t) (ha : Waits w j (.work a))
    (hnext : ∀ w job_id, a.tries = some (w, job_id) → (s.candidate_ids w).head? = some job_id) :
    ahead registered_jobs w j ⟨t, rest s.candidate_ids a⟩ + recoveries s.log ≤
      ahead registered_jobs w j s + recoveries t.log := by
  -- a row that the step leaves alone was not among the candidates either
  have hkept : ∀ o ∈ s.jobs, (∀ lease_from due now, a = .claim w o.id lease_from due now →
      claimable o.id due o = false) →
      ((candidate (registered_jobs w) j.next_run_at o && decide (o.id ≠ j.id)) &&
        decide (o.id ∉ rest s.candidate_ids a w)) = true →
      ((candidate (registered_jobs w) j.next_run_at o && decide (o.id ≠ j.id)) &&
        decide (o.id ∉ s.candidate_ids w)) = true := by
    intro o ho hclaim hq
    simp only [Bool.and_eq_true, decide_eq_true_eq] at hq ⊢
    obtain ⟨⟨hc, hne⟩, hout⟩ := hq
    obtain ⟨hp, hle, _⟩ := candidate_iff.mp hc
    refine ⟨⟨hc, hne⟩, fun hin => ?_⟩
    rcases JobAction.tries_rest hnext hin hout with htry | rfl
    · obtain ⟨lease_from, due, now, hact, hcl⟩ :=
        h.tried htry ho hp (fun now hn => hle.trans (ha.overdue now hn).le)
      simp [hclaim lease_from due now hact] at hcl
    · exact ha.alive rfl
  cases h with
  | recover now =>
      have hlog := hi.recoveries now
      refine (Nat.add_le_add_right (Backlog.countP_update_le_add _ _ _ _) _).trans ?_
      rw [Nat.add_assoc, Nat.add_comm (List.countP (stale now) s.jobs)]
      exact Nat.add_le_add_left hlog.ge _
  | @claim v i lease_from due now _ _ hc =>
      refine Nat.add_le_add_right (Backlog.countP_update_le (fun o ho hq => ?_)) _
      by_cases hcl : claimable i.id due o = true
      · simp [hcl, claimed, candidate] at hq
      · rw [if_neg hcl] at hq
        refine hkept o ho (fun lease_from' due' now' hact => ?_) hq
        injection hact with _ hid _ hdue _
        rw [← hid, ← hdue]
        simpa using hcl
  | @reschedule v x error now _ _ =>
      refine Nat.add_le_add (Backlog.countP_update_le (fun o ho hq => ?_)) (recoveries_append _ _)
      by_cases hh : held_by x.job_id v o = true
      · have hlate : j.next_run_at < now := ha.overdue now (by simp [LoopAction.readings,
          JobAction.readings])
        simp only [hh, if_true, Bool.and_eq_true] at hq
        have hle := (candidate_iff.mp hq.1.1).2.1
        have hwait : now ≤ now + ((x.interval_seconds * second : Nat) : Int) :=
          Int.le_add_of_nonneg_right (Int.natCast_nonneg _)
        exact absurd (hwait.trans hle) (not_le.mpr hlate)
      · rw [if_neg hh] at hq
        exact hkept o ho (fun _ _ _ hact => by cases hact) hq
  | @lost v job_id due _ hc =>
      refine Nat.add_le_add_right (List.countP_mono_left (fun o ho hq => ?_)) _
      exact hkept o ho (fun _ _ _ hact => by cases hact) hq
  | handler_end =>
      exact Nat.add_le_add_right (List.countP_mono_left (fun o ho hq =>
        hkept o ho (fun _ _ _ hact => by cases hact) hq)) _
  | crash =>
      exact Nat.add_le_add_right (List.countP_mono_left (fun o ho hq =>
        hkept o ho (fun _ _ _ hact => by cases hact) hq)) _
  | tick =>
      exact Nat.add_le_add_right (List.countP_mono_left (fun o ho hq =>
        hkept o ho (fun _ _ _ hact => by cases hact) hq)) _

theorem JobStep.candidate_kept {s : LoopState W} {a : JobAction W} {t : JobState W}
    (h : JobStep lease_seconds s.toJobState a t) (ha : Waits w j (.work a)) (hj : j ∈ s.jobs)
    (hp : j.status = .PENDING)
    (hnext : ∀ w job_id, a.tries = some (w, job_id) → (s.candidate_ids w).head? = some job_id)
    (hin : j.id ∈ s.candidate_ids w) : j.id ∈ rest s.candidate_ids a w := by
  by_contra hout
  rcases JobAction.tries_rest hnext hin hout with htry | rfl
  · obtain ⟨lease_from, due, now, hact, _⟩ :=
      h.tried htry hj hp (fun now hn => (ha.overdue now hn).le)
    exact ha.unclaimed w lease_from due now (by rw [hact])
  · exact ha.alive rfl

def pass_cost (w : W) : LoopAction W → Nat
  | .select v _ _ => if v = w then BATCH_SIZE else 0
  | .work _ => 0

theorem LoopStep.waits {s t : LoopState W} {a : LoopAction W}
    (hs : LoopStep registered_jobs lease_seconds s a t) (hi : Inv s.toJobState) (hj : j ∈ s.jobs)
    (hp : j.status = .PENDING) (hname : j.job_name ∈ registered_jobs w) (ha : Waits w j a) :
    potential registered_jobs w j t + pass_cost w a + recoveries s.log ≤
      potential registered_jobs w j s + recoveries t.log := by
  cases hs with
  | @select v now candidate_ids hw hdone hc =>
      simp only [pass_cost]
      refine Nat.add_le_add_right ?_ _
      by_cases hv : v = w
      · subst hv
        have hcand : candidate (registered_jobs v) now j = true := candidate_iff.mpr
          ⟨hp, (ha.overdue now (by simp [LoopAction.readings])).le, hname⟩
        simp only [potential, Function.update_self, hdone, List.not_mem_nil, if_false, if_true]
        rcases hc.cases hi.unique hj hcand with hin | ⟨taken, rfl, hnodup, hlen, htaken⟩
        · simp only [hin, if_true]
          omega
        · have hout : j.id ∉ taken.map ScheduledJob.id := fun hm => by
            obtain ⟨o, ho, hid⟩ := List.mem_map.mp hm
            exact (htaken o ho).2.2.2 hid
          have hcount : s.jobs.countP (fun o =>
              (candidate (registered_jobs v) j.next_run_at o && decide (o.id ≠ j.id)) &&
                decide (o.id ∉ taken.map ScheduledJob.id)) + taken.length ≤ s.jobs.countP (fun o =>
              candidate (registered_jobs v) j.next_run_at o && decide (o.id ≠ j.id)) :=
            Backlog.countP_taken hnodup (fun o ho => ?_)
          · simp only [hout, if_false, JobWorker.ahead, Function.update_self, hdone,
              List.not_mem_nil, not_false_eq_true, decide_true, Bool.and_true]
            omega
          · obtain ⟨hmem, hc, hle, hne⟩ := htaken o ho
            obtain ⟨hpo, _, hno⟩ := candidate_iff.mp hc
            simp [hmem, hne, candidate_iff.mpr ⟨hpo, hle, hno⟩]
      · simp [potential, JobWorker.ahead, Function.update_of_ne (Ne.symm hv), hv]
  | work hk hnext =>
      have hahead := @JobStep.ahead _ _ registered_jobs _ _ _ _ _ _ hi hk ha hnext
      by_cases hin : j.id ∈ s.candidate_ids w
      · have hstays := hk.candidate_kept ha hj hp hnext hin
        have hlog := hk.recoveries_le
        simp only [potential, hin, hstays, if_true, pass_cost]
        omega
      · simp only [potential, hin, if_false, pass_cost]
        split <;> omega

theorem pass_costs (w : W) (as : List (LoopAction W)) :
    (as.map (pass_cost w)).sum = BATCH_SIZE * passes w as := by
  induction as with
  | nil => rfl
  | cons a as ih =>
      simp only [passes] at ih
      cases a with
      | select v now candidate_ids =>
          by_cases hv : v = w <;>
            simp [passes, pass_cost, ih, hv, Nat.mul_add, Nat.add_comm]
      | work a => simp [passes, pass_cost, ih]

-- an overdue job is claimed once a worker that can run it has passed over the jobs ahead of it and
-- those that recoveries hand back, whatever the other workers do
theorem overdue_job_claimed {s₀ s t : LoopState W} {bs as : List (LoopAction W)}
    (hseed : Seeded s₀.toJobState) (h₀ : LoopRun registered_jobs lease_seconds s₀ bs s)
    (hj : j ∈ s.jobs) (hp : j.status = .PENDING) (hname : j.job_name ∈ registered_jobs w)
    (h : LoopRun registered_jobs lease_seconds s as t)
    (hclock : ∀ a ∈ as, ∀ now ∈ a.readings, j.next_run_at < now)
    (halive : .work (.crash w) ∉ as) :
    (∃ v lease_from due now, .work (.claim v j.id lease_from due now) ∈ as) ∨
      BATCH_SIZE * passes w as + recoveries s.log ≤
        ahead registered_jobs w j s + BATCH_SIZE + recoveries t.log := by
  refine or_iff_not_imp_left.mpr (fun hno => ?_)
  have hwait : ∀ a ∈ as, Waits w j a := by
    intro a ha
    refine ⟨hclock a ha, fun hc => halive (hc ▸ ha), fun v lease_from due now hc => ?_⟩
    exact hno ⟨v, lease_from, due, now, hc ▸ ha⟩
  have hi : Inv s.toJobState := h₀.jobs.inv hseed.inv
  have hfree : j.claimed_by = none := by
    rcases hi.rows j hj with hh | hf
    · simp [hh.running] at hp
    · exact hf.claimed
  have hpaid := (Backlog.run_paid (I := fun s : LoopState W => Inv s.toJobState ∧ j ∈ s.jobs)
    (C := Waits w j) (Φ := potential registered_jobs w j) (E := fun s => recoveries s.log)
    (c := pass_cost w) (fun s a t hi ha hs => ⟨?_, hs.waits hi.1 hi.2 hp hname ha⟩) h ⟨hi, hj⟩
    hwait).2
  · have hstart : potential registered_jobs w j s ≤ ahead registered_jobs w j s + BATCH_SIZE := by
      unfold potential
      split <;> omega
    rw [pass_costs] at hpaid
    omega
  · cases hs with
    | select => exact hi
    | work hk =>
        exact ⟨hi.1.step hk, hk.waits hi.2 hp hfree
          (fun v lease_from due now hact => ha.unclaimed v lease_from due now (by rw [hact]))⟩

end

def new_selected : LoopState Bool :=
  { two_seeded with candidate_ids := Function.update two_seeded.candidate_ids true [0, 1] }

theorem new_select_step :
    LoopStep deployed 120 two_seeded (.select true 5 [0, 1]) new_selected :=
  .select rfl rfl ⟨[aemet_sync, ign_sync], .refl _, rfl⟩

theorem overdue_job_claimed_deployed :
    (∃ v lease_from due now, .work (.claim v 1 lease_from due now) ∈
      [LoopAction.select true 5 [0, 1]]) ∨
      BATCH_SIZE * passes true [LoopAction.select true 5 [0, 1]] + recoveries two_seeded.log ≤
        ahead deployed true ign_sync two_seeded + BATCH_SIZE +
          recoveries new_selected.log :=
  overdue_job_claimed two_seeded_ok (.nil two_seeded) (j := ign_sync) (by decide) rfl (by decide)
    (.one new_select_step) (by simp [LoopAction.readings, ign_sync, aemet_sync]) (by simp)

end GeoHazard.JobWorker

import GeoHazard.Core.Attribution
import GeoHazard.Core.JobRuns
import GeoHazard.Hazards.SyncJobs
import Mathlib.Data.Rat.Cast.Order

namespace GeoHazard

def SYNC_JOB_SUFFIX : String := "_sync"

def endswith (suffix s : String) : Bool := suffix.toList.isSuffixOf s.toList

def removesuffix (suffix s : String) : String :=
  if endswith suffix s then
    String.ofList (s.toList.take (s.toList.length - suffix.toList.length))
  else s

def sync_jobs (jobs : List (String × Nat)) : List (String × Nat) :=
  (jobs.filter (fun job => endswith SYNC_JOB_SUFFIX job.1)).map
    (fun job => (removesuffix SYNC_JOB_SUFFIX job.1, job.2))

def sync_intervals (jobs : List (String × Nat)) : List (String × Nat) := Dict.ofList (sync_jobs jobs)

structure SourceStatus where
  source : String
  last_run_at : Option Timestamptz
  last_success_at : Option Timestamptz
  seconds_since_success : Option ℚ
  consecutive_failures : Nat
  has_error : Bool
  interval_seconds : Option Nat
  stale : Bool
  healthy : Bool
  attribution : Option SourceAttribution

inductive ReportStatus where
  | ok | degraded
  deriving DecidableEq

structure SourcesStatusResponse where
  status : ReportStatus
  sources : List SourceStatus

def is_stale (staleness_factor : Int) (interval : Option Nat) (seconds_since : Option ℚ) : Bool :=
  match interval, seconds_since with
  | none, _ => false
  | some _, none => true
  | some interval, some seconds => decide (((staleness_factor * interval : Int) : ℚ) < seconds)

def union_of (intervals : List (String × Nat)) (by_source : List (String × SourceSyncState)) :
    List String :=
  (Dict.keys intervals ++ Dict.keys by_source).dedup.insertionSort (· ≤ ·)

section
variable (now : Timestamptz) (staleness_factor max_failures : Int)

def source_status (by_source : List (String × SourceSyncState)) (intervals : List (String × Nat))
    (source : String) : SourceStatus :=
  let st := Dict.get source by_source
  let interval := Dict.get source intervals
  let last_success := st.bind SourceSyncState.last_success_at
  let seconds_since := last_success.map (fun at_ => ((now - at_ : Int) : ℚ) / 1000000)
  let failures := (st.map SourceSyncState.consecutive_failures).getD 0
  let stale := is_stale staleness_factor interval seconds_since
  { source := source
    last_run_at := st.bind SourceSyncState.last_run_at
    last_success_at := last_success
    seconds_since_success := seconds_since
    consecutive_failures := failures
    has_error := truthy (st.bind SourceSyncState.last_error)
    interval_seconds := interval
    stale := stale
    healthy := !stale && decide ((failures : Int) < max_failures)
    attribution := Dict.get source ATTRIBUTIONS }

def assess_sources (states : List SourceSyncState) (intervals : List (String × Nat)) :
    SourcesStatusResponse :=
  let by_source := Dict.ofList (states.map (fun st => (st.source.name, st)))
  let sources := (union_of intervals by_source).map
    (source_status now staleness_factor max_failures by_source intervals)
  { status := if sources.all SourceStatus.healthy then .ok else .degraded, sources := sources }

variable {G W : Type}

def sources_status (db : Db G) (jobs : List (ScheduledJob W)) : SourcesStatusResponse :=
  assess_sources now staleness_factor max_failures db.source_sync_state
    (sync_intervals (jobs.map (fun job => (job.job_name, job.interval_seconds))))

def degraded_sources (db : Db G) (jobs : List (ScheduledJob W)) : List String :=
  ((sources_status now staleness_factor max_failures db jobs).sources.filter
    (fun s => !s.healthy)).map SourceStatus.source

end

theorem endswith_iff {suffix s : String} :
    endswith suffix s = true ↔ ∃ name, s = name ++ suffix := by
  simp only [endswith, List.isSuffixOf_iff_suffix]
  constructor
  · rintro ⟨start, hs⟩
    exact ⟨String.ofList start, String.toList_injective (by simp [← hs])⟩
  · rintro ⟨name, rfl⟩
    exact ⟨name.toList, by simp⟩

theorem removesuffix_append (name suffix : String) : removesuffix suffix (name ++ suffix) = name := by
  have hends : endswith suffix (name ++ suffix) = true := endswith_iff.mpr ⟨name, rfl⟩
  simp [removesuffix, hends]

theorem mem_sync_jobs {jobs : List (String × Nat)} {name : String} {seconds : Nat} :
    (name, seconds) ∈ sync_jobs jobs ↔ (name ++ SYNC_JOB_SUFFIX, seconds) ∈ jobs := by
  simp only [sync_jobs, List.mem_map, List.mem_filter, Prod.mk.injEq]
  constructor
  · rintro ⟨⟨job_name, _⟩, ⟨hmem, hends⟩, rfl, rfl⟩
    obtain ⟨start, rfl⟩ := endswith_iff.mp hends
    rwa [removesuffix_append]
  · intro hmem
    exact ⟨_, ⟨hmem, endswith_iff.mpr ⟨name, rfl⟩⟩, removesuffix_append _ _, rfl⟩

-- the names of the jobs are unique in scheduled_jobs
theorem get_sync_intervals {jobs : List (String × Nat)} (hn : (jobs.map Prod.fst).Nodup)
    {name : String} {seconds : Nat} : Dict.get name (sync_intervals jobs) = some seconds ↔
      (name ++ SYNC_JOB_SUFFIX, seconds) ∈ jobs := by
  have hkeys : (Dict.keys (sync_jobs jobs)).Nodup := by
    rw [Dict.keys, sync_jobs, List.map_map]
    refine List.Nodup.map_on (fun a ha b hb hab => ?_) ((List.Nodup.of_map _ hn).filter _)
    obtain ⟨hamem, haends⟩ := List.mem_filter.mp ha
    obtain ⟨hbmem, hbends⟩ := List.mem_filter.mp hb
    obtain ⟨start, hstart⟩ := endswith_iff.mp haends
    obtain ⟨start', hstart'⟩ := endswith_iff.mp hbends
    simp only [Function.comp_apply, hstart, hstart', removesuffix_append] at hab
    exact List.inj_on_of_nodup_map hn hamem hbmem (by rw [hstart, hstart', hab])
  have hrev : (Dict.keys (sync_jobs jobs).reverse).Nodup := by
    rw [Dict.keys, List.map_reverse]
    exact List.nodup_reverse.mpr hkeys
  rw [sync_intervals, Dict.get_ofList, Dict.get_iff hrev, List.mem_reverse, mem_sync_jobs]

namespace SourceSyncStateRepo

theorem unique_upsert {source : Source} {fresh : SourceSyncState}
    {f : SourceSyncState → SourceSyncState} (hfresh : fresh.source = source)
    (hf : ∀ s, (f s).source = s.source) {t : List SourceSyncState}
    (h : Table.Unique SourceSyncState.source t) :
    Table.Unique SourceSyncState.source (upsert source fresh f t) := by
  unfold upsert
  cases hget : get source t with
  | none => exact Table.unique_concat h (by rw [hfresh]; exact hget)
  | some s => exact Table.unique_update (fun s _ => hf s) h

theorem unique_record_success (source : Source) (cursor : Option PyJson) (now : Timestamptz)
    {t : List SourceSyncState} (h : Table.Unique SourceSyncState.source t) :
    Table.Unique SourceSyncState.source (record_success source cursor now t) := by
  unfold record_success
  exact unique_upsert (by rfl) (by intro s; rfl) h

theorem unique_record_failure (source : Source) (error : String) (now : Timestamptz)
    {t : List SourceSyncState} (h : Table.Unique SourceSyncState.source t) :
    Table.Unique SourceSyncState.source (record_failure source error now t) := by
  unfold record_failure
  exact unique_upsert (by rfl) (by intro s; rfl) h

theorem run_record_success (source : Source) (cursor : Option PyJson) (now : Timestamptz)
    (t : List SourceSyncState) :
    (get source (record_success source cursor now t)).map
      (fun s => (s.last_run_at, s.last_error)) = some (some now, none) := by
  unfold record_success
  rw [get_upsert_self (by rfl) (by intro s; rfl)]
  cases get source t <;> rfl

theorem run_record_failure (source : Source) (error : String) (now : Timestamptz)
    (t : List SourceSyncState) :
    (get source (record_failure source error now t)).map
      (fun s => (s.last_run_at, s.last_error)) =
      some (some now, some (String.ofList (error.toList.take 500))) := by
  unfold record_failure
  rw [get_upsert_self (by rfl) (by intro s; rfl)]
  cases get source t <;> rfl

end SourceSyncStateRepo

variable {G : Type} {env : Env G} {db db' : Db G} {o : Finished} {os : List Finished}

-- the runs that leave their mark on source_sync_state
def counted (os : List Finished) : List Finished := os.filter Finished.counted

def last_run (source : Source) (os : List Finished) : Option Finished :=
  (runs_of source os).getLast?

def Finished.recorded_at (o : Finished) : Timestamptz :=
  if o.committed then o.tx.clock else o.failed_at

def Finished.error (o : Finished) : Option String :=
  match o.response.fetched with
  | .error e => some (String.ofList (e.message.toList.take 500))
  | .ok _ => none

theorem SyncJobRun.counted (h : SyncJobRun env (Db.empty G) os db) :
    SyncJobRun env (Db.empty G) (counted os) db := by
  induction h with
  | nil => exact .nil _
  | @snoc t u before last _ hk ih =>
      simp only [GeoHazard.counted, List.filter_append] at ih ⊢
      rcases JobStep.cases hk with ⟨hcom, _⟩ | ⟨_, hcut, hacc, e, hf, _⟩ | ⟨_, _, hno, rfl⟩
      · simpa [Finished.counted, hcom] using Transition.Run.snoc ih hk
      · simpa [Finished.counted, hcut, hacc, hf] using Transition.Run.snoc ih hk
      · simpa [hno] using ih

structure Recorded (source : Source) (os : List Finished) (t : List SourceSyncState) : Prop where
  unique : Table.Unique SourceSyncState.source t
  run : (SourceSyncStateRepo.get source t).map (fun s => (s.last_run_at, s.last_error)) =
    (last_run source os).map (fun o => (some o.recorded_at, o.error))

theorem last_run_self {source : Source} (h : o.response.source = source) (os : List Finished) :
    last_run source (os ++ [o]) = some o := by
  simp [last_run, runs_of_self h]

theorem last_run_other {source : Source} (h : o.response.source ≠ source) (os : List Finished) :
    last_run source (os ++ [o]) = last_run source os := by
  simp [last_run, runs_of_other h]

theorem Recorded.other {source : Source} {t t' : List SourceSyncState} (h : Recorded source os t)
    (hne : o.response.source ≠ source) (hu : Table.Unique SourceSyncState.source t')
    (hget : SourceSyncStateRepo.get source t' = SourceSyncStateRepo.get source t) :
    Recorded source (os ++ [o]) t' :=
  ⟨hu, by rw [hget, last_run_other hne, h.run]⟩

theorem Recorded.step {source : Source} (h : Recorded source os db.source_sync_state)
    (hs : JobStep env db o db') (hc : o.counted = true) :
    Recorded source (os ++ [o]) db'.source_sync_state := by
  rcases JobStep.cases hs with ⟨hcom, _, _, fetched, result, hf, hx⟩ | ⟨hcom, _, _, e, hf, rfl⟩ |
    ⟨_, _, hno, _⟩
  · have hsrc := Response.fetched_source hf
    rw [Fetched.execute_state hx, hsrc]
    have hu := SourceSyncStateRepo.unique_record_success o.response.source fetched.cursor o.tx.clock
      h.unique
    by_cases hown : o.response.source = source
    · subst hown
      refine ⟨hu, ?_⟩
      rw [SourceSyncStateRepo.run_record_success, last_run_self rfl]
      simp [Finished.recorded_at, Finished.error, hcom, hf]
    · exact h.other hown hu (SourceSyncStateRepo.get_record_success_other (Ne.symm hown) _ _ _)
  · have hu := SourceSyncStateRepo.unique_record_failure o.response.source e.message o.failed_at
      h.unique
    by_cases hown : o.response.source = source
    · subst hown
      refine ⟨hu, ?_⟩
      rw [SourceSyncStateRepo.run_record_failure, last_run_self rfl]
      simp [Finished.recorded_at, Finished.error, hcom, hf]
    · exact h.other hown hu (SourceSyncStateRepo.get_record_failure_other (Ne.symm hown) _ _ _)
  · simp [hc] at hno

theorem SyncJobRun.recorded (h : SyncJobRun env (Db.empty G) os db)
    (hc : ∀ o ∈ os, o.counted = true) (source : Source) :
    Recorded source os db.source_sync_state := by
  refine Transition.Run.history (I := fun os (db : Db G) =>
    (∀ o ∈ os, o.counted = true) → Recorded source os db.source_sync_state)
    (fun before d o d' hi hs hall => ?_) h (fun _ => ⟨List.nodup_nil, rfl⟩) hc
  exact (hi (fun p hp => hall p (by simp [hp]))).step hs (hall o (by simp))

section
variable {W : Type} (jobs : List (ScheduledJob W)) (now : Timestamptz)
  (staleness_factor max_failures : Int)

-- what a report says of a source whose runs are os
structure StatusOf (os : List Finished) (source : Source) (s : SourceStatus) : Prop where
  last_run_at : s.last_run_at = (last_run source os).map Finished.recorded_at
  last_success_at : s.last_success_at = (last_committed source os).map (fun o => o.tx.clock)
  consecutive_failures : s.consecutive_failures = failure_streak source os
  has_error : s.has_error = true ↔
    ∃ o, last_run source os = some o ∧ ∃ e, o.response.fetched = .error e ∧ e.message ≠ ""
  stale : s.stale = true ↔ ∃ seconds, s.interval_seconds = some seconds ∧
    ∀ o, last_committed source os = some o →
      staleness_factor * seconds * 1000000 < now - o.tx.clock
  healthy : s.healthy = true ↔ s.stale = false ∧ (failure_streak source os : Int) < max_failures

structure ReportOf (os : List Finished) (report : SourcesStatusResponse) : Prop where
  sorted : (report.sources.map SourceStatus.source).Pairwise (· < ·)
  sources : ∀ name, name ∈ report.sources.map SourceStatus.source ↔
    (∃ job ∈ jobs, job.job_name = name ++ SYNC_JOB_SUFFIX) ∨ ∃ o ∈ os, o.response.source.name = name
  intervals : ∀ s ∈ report.sources, ∀ seconds, s.interval_seconds = some seconds ↔
    ∃ job ∈ jobs, job.job_name = s.source ++ SYNC_JOB_SUFFIX ∧ job.interval_seconds = seconds
  known : ∀ s ∈ report.sources, ∀ source : Source, s.source = source.name →
    StatusOf now staleness_factor max_failures os source s
  -- a job of a source that no code syncs
  unknown : ∀ s ∈ report.sources, (∀ source : Source, s.source ≠ source.name) →
    s.last_success_at = none ∧ s.stale = true ∧ s.healthy = false
  status : report.status = .ok ↔ ∀ s ∈ report.sources, s.healthy = true

end

theorem Source.name_inj {a b : Source} (h : a.name = b.name) : a = b := by
  cases a <;> cases b <;> first | rfl | simp [Source.name] at h

theorem get_by_source {states : List SourceSyncState} (hu : Table.Unique SourceSyncState.source states)
    (source : Source) :
    Dict.get source.name (Dict.ofList (states.map (fun st => (st.source.name, st)))) =
      SourceSyncStateRepo.get source states := by
  have hkeys : (Dict.keys (states.map (fun st => (st.source.name, st))).reverse).Nodup := by
    rw [Dict.keys, List.map_reverse, List.nodup_reverse, List.map_map]
    refine List.Nodup.map_on (fun a ha b hb hab => ?_) (List.Nodup.of_map _ hu)
    exact Table.unique_eq hu ha hb (Source.name_inj hab)
  refine Option.ext (fun st => ?_)
  rw [Dict.get_ofList, Dict.get_iff hkeys, SourceSyncStateRepo.get, Table.find_unique hu,
    List.mem_reverse, List.mem_map]
  constructor
  · rintro ⟨o, ho, he⟩
    obtain ⟨hname, rfl⟩ := Prod.mk.inj he
    exact ⟨ho, Source.name_inj hname⟩
  · rintro ⟨hst, rfl⟩
    exact ⟨st, hst, rfl⟩

theorem get_by_unknown {states : List SourceSyncState} {name : String}
    (h : ∀ source : Source, name ≠ source.name) :
    Dict.get name (Dict.ofList (states.map (fun st => (st.source.name, st)))) = none := by
  rw [Dict.get_eq_none, Dict.mem_keys_ofList]
  intro hmem
  obtain ⟨_, hpair, rfl⟩ := List.mem_map.mp hmem
  obtain ⟨st, _, rfl⟩ := List.mem_map.mp hpair
  exact h st.source rfl

theorem Recorded.found {source : Source} {t : List SourceSyncState} (h : Recorded source os t) :
    SourceSyncStateRepo.get source t ≠ none ↔ ∃ o ∈ os, o.response.source = source := by
  have hrun := congrArg Option.isSome h.run
  simp only [Option.isSome_map] at hrun
  rw [← Option.isSome_iff_ne_none, hrun, Option.isSome_iff_ne_none, last_run, ne_eq,
    List.getLast?_eq_none_iff]
  simp [runs_of, List.filter_eq_nil_iff]

theorem is_stale_iff {factor : Int} {interval : Option Nat} {now : Timestamptz}
    {at_ : Option Timestamptz} :
    is_stale factor interval (at_.map (fun t => ((now - t : Int) : ℚ) / 1000000)) = true ↔
      ∃ seconds : Nat, interval = some seconds ∧
        ∀ t, at_ = some t → factor * seconds * 1000000 < now - t := by
  cases interval with
  | none => simp [is_stale]
  | some seconds =>
      cases at_ with
      | none => simp [is_stale]
      | some t =>
          simp only [is_stale, Option.map_some, decide_eq_true_eq, Option.some.injEq,
            exists_eq_left', forall_eq']
          rw [lt_div_iff₀ (by norm_num)]
          exact_mod_cast Iff.rfl

theorem truthy_error {o : Finished} : truthy o.error = true ↔
    ∃ e, o.response.fetched = .error e ∧ e.message ≠ "" := by
  cases hf : o.response.fetched with
  | ok fetched => simp [Finished.error, hf, truthy]
  | error e =>
      have hempty : String.ofList (e.message.toList.take 500) = "" ↔ e.message = "" := by
        constructor
        · intro he
          have hl := congrArg String.toList he
          simp only [String.toList_ofList, String.toList_empty, List.take_eq_nil_iff] at hl
          exact String.toList_injective (by simpa using hl)
        · intro he
          simp [he]
      simp [Finished.error, hf, truthy, hempty]

theorem union_of_sorted (intervals : List (String × Nat))
    (by_source : List (String × SourceSyncState)) :
    (union_of intervals by_source).Pairwise (· < ·) := by
  have hsorted := List.pairwise_insertionSort (· ≤ ·)
    (Dict.keys intervals ++ Dict.keys by_source).dedup
  have hnodup : (union_of intervals by_source).Nodup :=
    (List.perm_insertionSort (· ≤ ·) _).nodup_iff.mpr (List.nodup_dedup _)
  exact (hsorted.and hnodup).imp (fun hab => lt_of_le_of_ne hab.1 hab.2)

theorem mem_union_of {intervals : List (String × Nat)} {by_source : List (String × SourceSyncState)}
    {name : String} : name ∈ union_of intervals by_source ↔
      name ∈ Dict.keys intervals ∨ name ∈ Dict.keys by_source := by
  simp [union_of]

theorem mem_scheduled {jobs : List (String × Nat)} {name : String} :
    name ∈ Dict.keys (sync_intervals jobs) ↔
      ∃ seconds, (name ++ SYNC_JOB_SUFFIX, seconds) ∈ jobs := by
  rw [sync_intervals, Dict.mem_keys_ofList, Dict.keys, List.mem_map]
  constructor
  · rintro ⟨⟨_, seconds⟩, hmem, rfl⟩
    exact ⟨seconds, mem_sync_jobs.mp hmem⟩
  · rintro ⟨seconds, hmem⟩
    exact ⟨(name, seconds), mem_sync_jobs.mpr hmem, rfl⟩

theorem mem_by_source {states : List SourceSyncState} {name : String} :
    name ∈ Dict.keys (Dict.ofList (states.map (fun st => (st.source.name, st)))) ↔
      ∃ source : Source, source.name = name ∧ SourceSyncStateRepo.get source states ≠ none := by
  rw [Dict.mem_keys_ofList, Dict.keys, List.map_map, List.mem_map]
  constructor
  · rintro ⟨st, hst, rfl⟩
    exact ⟨st.source, rfl, fun hnone => Table.find_none.mp hnone st hst rfl⟩
  · rintro ⟨source, rfl, hfound⟩
    obtain ⟨st, hget⟩ := Option.ne_none_iff_exists'.mp hfound
    obtain ⟨hst, hs⟩ := Table.find_some_mem hget
    exact ⟨st, hst, by simp [hs]⟩

theorem sources_map (now : Timestamptz) (staleness_factor max_failures : Int)
    (states : List SourceSyncState) (intervals : List (String × Nat)) :
    (assess_sources now staleness_factor max_failures states intervals).sources.map
      SourceStatus.source =
      union_of intervals (Dict.ofList (states.map (fun st => (st.source.name, st)))) := by
  simp [assess_sources, Function.comp_def, source_status]

theorem Recorded.status_of {source : Source} {states : List SourceSyncState}
    (h : Recorded source os states) (ha : Accounted source os states) (now : Timestamptz)
    (staleness_factor max_failures : Int) (intervals : List (String × Nat)) :
    StatusOf now staleness_factor max_failures os source
      (source_status now staleness_factor max_failures
        (Dict.ofList (states.map (fun st => (st.source.name, st)))) intervals source.name) := by
  have hget := get_by_source h.unique source
  have hlast := ha.last_success_at
  have hfail := ha.consecutive_failures
  have hrun : (SourceSyncStateRepo.get source states).bind SourceSyncState.last_run_at =
      (last_run source os).map Finished.recorded_at ∧
      (SourceSyncStateRepo.get source states).bind SourceSyncState.last_error =
      (last_run source os).bind Finished.error := by
    have hboth := h.run
    cases hst : SourceSyncStateRepo.get source states with
    | none =>
        rw [hst, Option.map_none] at hboth
        simp [Option.map_eq_none_iff.mp hboth.symm]
    | some st =>
        rw [hst, Option.map_some] at hboth
        obtain ⟨o, ho, he⟩ := Option.map_eq_some_iff.mp hboth.symm
        obtain ⟨hrun, herr⟩ := Prod.mk.inj he
        simp [ho, ← hrun, ← herr]
  refine ⟨?_, ?_, ?_, ?_, ?_, ?_⟩ <;> simp only [source_status, hget]
  · exact hrun.1
  · exact hlast
  · exact hfail
  · rw [hrun.2]
    cases last_run source os with
    | none => simp [truthy]
    | some o => simpa using truthy_error
  · rw [is_stale_iff, hlast]
    simp
  · simp [hfail]

theorem report_of_runs {W : Type} {jobs : List (ScheduledJob W)}
    (h : SyncJobRun env (Db.empty G) os db) (hjobs : (jobs.map ScheduledJob.job_name).Nodup)
    (now : Timestamptz) (staleness_factor max_failures : Int) :
    ReportOf jobs now staleness_factor max_failures (counted os)
      (sources_status now staleness_factor max_failures db jobs) := by
  have hall : ∀ o ∈ counted os, o.counted = true := fun o ho => (List.mem_filter.mp ho).2
  have hrecorded := fun source => SyncJobRun.recorded h.counted hall source
  have haccounted := fun source => SyncJobRun.accounted h.counted hall source
  have hu := (hrecorded .ign).unique
  have hnames : ((jobs.map (fun job => (job.job_name, job.interval_seconds))).map Prod.fst).Nodup := by
    simpa [List.map_map, Function.comp_def] using hjobs
  have hmem : ∀ s ∈ (sources_status now staleness_factor max_failures db jobs).sources,
      s = source_status now staleness_factor max_failures
        (Dict.ofList (db.source_sync_state.map (fun st => (st.source.name, st))))
        (sync_intervals (jobs.map (fun job => (job.job_name, job.interval_seconds)))) s.source := by
    intro s hs
    obtain ⟨name, _, rfl⟩ := List.mem_map.mp hs
    rfl
  have hinterval : ∀ s ∈ (sources_status now staleness_factor max_failures db jobs).sources,
      ∀ seconds, s.interval_seconds = some seconds ↔
        ∃ job ∈ jobs, job.job_name = s.source ++ SYNC_JOB_SUFFIX ∧
          job.interval_seconds = seconds := by
    intro s hs seconds
    rw [hmem s hs]
    refine (get_sync_intervals hnames).trans ?_
    simp [source_status]
  refine ⟨?_, fun name => ?_, hinterval, fun s hs source hname => ?_, fun s hs hno => ?_, ?_⟩
  · rw [sources_status, sources_map]
    exact union_of_sorted _ _
  · rw [sources_status, sources_map, mem_union_of, mem_scheduled]
    refine or_congr (by simp) ?_
    simp only [mem_by_source, (hrecorded _).found]
    exact ⟨fun ⟨source, hname, o, ho, hs⟩ => ⟨o, ho, hs ▸ hname⟩,
      fun ⟨o, ho, hname⟩ => ⟨o.response.source, hname, o, ho, rfl⟩⟩
  · rw [hmem s hs, hname]
    exact (hrecorded source).status_of (haccounted source) _ _ _ _
  · have hnone := @get_by_unknown db.source_sync_state _ hno
    have hsome : s.interval_seconds ≠ none := by
      have hs' := List.mem_map_of_mem (f := SourceStatus.source) hs
      rw [sources_status, sources_map, mem_union_of, Dict.keys, or_iff_left] at hs'
      · rw [hmem s hs]
        exact fun hget => Dict.get_eq_none.mp hget hs'
      · exact Dict.get_eq_none.mp hnone
    obtain ⟨seconds, hseconds⟩ := Option.ne_none_iff_exists'.mp hsome
    rw [hmem s hs] at hseconds ⊢
    simp only [source_status] at hseconds
    simp [source_status, hnone, hseconds, is_stale]
  · simp [sources_status, assess_sources]

theorem mem_degraded_sources {W : Type} {jobs : List (ScheduledJob W)} {now : Timestamptz}
    {staleness_factor max_failures : Int} {name : String} :
    name ∈ degraded_sources now staleness_factor max_failures db jobs ↔
      ∃ s ∈ (sources_status now staleness_factor max_failures db jobs).sources,
        s.source = name ∧ s.healthy = false := by
  simp only [degraded_sources, List.mem_map, List.mem_filter, Bool.not_eq_true', and_assoc]
  exact exists_congr (fun s => and_congr_right (fun _ => and_comm))

theorem ReportOf.degraded {W : Type} {jobs : List (ScheduledJob W)} {now : Timestamptz}
    {staleness_factor max_failures : Int} {report : SourcesStatusResponse}
    (h : ReportOf jobs now staleness_factor max_failures os report) (name : String) :
    (∃ s ∈ report.sources, s.source = name ∧ s.healthy = false) ↔
      (∃ job ∈ jobs, job.job_name = name ++ SYNC_JOB_SUFFIX ∧
        ∀ source o, source.name = name → last_committed source os = some o →
          staleness_factor * job.interval_seconds * 1000000 < now - o.tx.clock) ∨
      (∃ o ∈ os, o.response.source.name = name ∧
        max_failures ≤ failure_streak o.response.source os) := by
  have hunhealthy : ∀ s ∈ report.sources, ∀ source : Source, s.source = source.name →
      (s.healthy = false ↔ s.stale = true ∨ max_failures ≤ failure_streak source os) := by
    intro s hs source hname
    rw [← Bool.not_eq_true, (h.known s hs source hname).healthy, not_and_or, Bool.not_eq_false,
      not_lt]
  constructor
  · rintro ⟨s, hs, rfl, hill⟩
    have hlisted := (h.sources s.source).mp (List.mem_map_of_mem hs)
    by_cases hknown : ∃ source : Source, s.source = source.name
    · obtain ⟨source, hname⟩ := hknown
      have hof := h.known s hs source hname
      by_cases hstale : s.stale = true
      · obtain ⟨seconds, hseconds, hlate⟩ := hof.stale.mp hstale
        obtain ⟨job, hjob, hjname, rfl⟩ := (h.intervals s hs seconds).mp hseconds
        refine .inl ⟨job, hjob, hjname, fun other o hother hlast => hlate o ?_⟩
        rwa [Source.name_inj (hother.trans hname)] at hlast
      · have hfail := ((hunhealthy s hs source hname).mp hill).resolve_left hstale
        by_cases hrun : ∃ o ∈ os, o.response.source = source
        · obtain ⟨o, ho, rfl⟩ := hrun
          exact .inr ⟨o, ho, hname.symm, hfail⟩
        · rcases hlisted with ⟨job, hjob, hjname⟩ | ⟨o, ho, hso⟩
          · have hnone : last_committed source os = none := by
              simp only [last_committed, runs_of, List.find?_eq_none, List.mem_reverse,
                List.mem_filter, decide_eq_true_eq]
              exact fun o ho => absurd ⟨o, ho.1, ho.2⟩ hrun
            exact absurd (hof.stale.mpr ⟨_, (h.intervals s hs _).mpr ⟨job, hjob, hjname, rfl⟩,
              by simp [hnone]⟩) hstale
          · exact absurd ⟨o, ho, Source.name_inj (hso.trans hname)⟩ hrun
    · rcases hlisted with ⟨job, hjob, hjname⟩ | ⟨o, _, hso⟩
      · exact .inl ⟨job, hjob, hjname, fun source _ hname _ => absurd ⟨source, hname.symm⟩ hknown⟩
      · exact absurd ⟨_, hso.symm⟩ hknown
  · rintro (⟨job, hjob, hjname, hlate⟩ | ⟨o, ho, rfl, hfail⟩)
    · obtain ⟨s, hs, rfl⟩ := List.mem_map.mp ((h.sources name).mpr (.inl ⟨job, hjob, hjname⟩))
      refine ⟨s, hs, rfl, ?_⟩
      by_cases hknown : ∃ source : Source, s.source = source.name
      · obtain ⟨source, hname⟩ := hknown
        refine (hunhealthy s hs source hname).mpr (.inl ?_)
        exact (h.known s hs source hname).stale.mpr ⟨job.interval_seconds,
          (h.intervals s hs _).mpr ⟨job, hjob, hjname, rfl⟩, fun o => hlate source o hname.symm⟩
      · exact (h.unknown s hs (fun source hname => hknown ⟨source, hname⟩)).2.2
    · obtain ⟨s, hs, hname⟩ := List.mem_map.mp ((h.sources _).mpr (.inr ⟨o, ho, rfl⟩))
      exact ⟨s, hs, hname, (hunhealthy s hs o.response.source hname).mpr (.inr hfail)⟩

theorem source_health_reported {W : Type} {jobs : List (ScheduledJob W)}
    (h : SyncJobRun env (Db.empty G) os db) (hjobs : (jobs.map ScheduledJob.job_name).Nodup)
    (now : Timestamptz) (staleness_factor max_failures : Int) :
    ReportOf jobs now staleness_factor max_failures (counted os)
      (sources_status now staleness_factor max_failures db jobs) ∧
    ∀ name, name ∈ degraded_sources now staleness_factor max_failures db jobs ↔
      (∃ job ∈ jobs, job.job_name = name ++ SYNC_JOB_SUFFIX ∧
        ∀ source o, source.name = name → last_committed source (counted os) = some o →
          staleness_factor * job.interval_seconds * 1000000 < now - o.tx.clock) ∨
      (∃ o ∈ counted os, o.response.source.name = name ∧
        max_failures ≤ failure_streak o.response.source (counted os)) := by
  have hreport := report_of_runs h hjobs now staleness_factor max_failures
  exact ⟨hreport, fun name => mem_degraded_sources.trans (hreport.degraded name)⟩

theorem source_health_reported_outage :
    ReportOf [JobWorker.aemet_sync] (july 2 12).instant 3 3
      (counted bulletin_then_outage)
      (sources_status (july 2 12).instant 3 3 after_outage [JobWorker.aemet_sync]) ∧
    ∀ name, name ∈ degraded_sources (july 2 12).instant 3 3 after_outage [JobWorker.aemet_sync] ↔
      (∃ job ∈ [JobWorker.aemet_sync], job.job_name = name ++ SYNC_JOB_SUFFIX ∧
        ∀ source o, source.name = name →
          last_committed source (counted bulletin_then_outage) = some o →
          3 * job.interval_seconds * 1000000 < (july 2 12).instant - o.tx.clock) ∨
      (∃ o ∈ counted bulletin_then_outage, o.response.source.name = name ∧
        (3 : Int) ≤
          failure_streak o.response.source (counted bulletin_then_outage)) :=
  have hjobs : ([JobWorker.aemet_sync].map ScheduledJob.job_name).Nodup := List.nodup_singleton _
  source_health_reported after_outage_run hjobs (july 2 12).instant 3 3

end GeoHazard

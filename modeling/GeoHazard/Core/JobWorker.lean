import GeoHazard.Library.Table
import GeoHazard.Library.Transition
import GeoHazard.Core.Datetime

namespace GeoHazard

inductive JobStatus where
  | PENDING | RUNNING
  deriving DecidableEq

structure ScheduledJob (W : Type) where
  id : Nat
  job_name : String
  interval_seconds : Nat
  status : JobStatus
  last_run_at : Option Timestamptz
  next_run_at : Timestamptz
  last_error : Option String
  run_count : Nat
  claimed_by : Option W
  lease_until : Option Timestamptz
  updated_at : Option Timestamptz
  deriving DecidableEq

namespace JobWorker

variable {W : Type}

def second : Nat := 1000000

def stale (now : Timestamptz) (j : ScheduledJob W) : Bool :=
  decide (j.status = .RUNNING) &&
    (match j.lease_until with
      | none => true
      | some lease_until => decide (lease_until < now))

def recovered (j : ScheduledJob W) : ScheduledJob W :=
  { j with status := .PENDING, claimed_by := none, lease_until := none }

def claimable (job_id : Nat) (now : Timestamptz) (j : ScheduledJob W) : Bool :=
  decide (j.id = job_id) && decide (j.status = .PENDING) && decide (j.next_run_at ≤ now)

def claimed (w : W) (lease_until now : Timestamptz) (j : ScheduledJob W) : ScheduledJob W :=
  { j with
    status := .RUNNING, claimed_by := some w, lease_until := some lease_until,
    updated_at := some now }

def held_by [DecidableEq W] (job_id : Nat) (w : W) (j : ScheduledJob W) : Bool :=
  decide (j.id = job_id) && decide (j.claimed_by = some w)

def rescheduled (interval_seconds : Nat) (now : Timestamptz) (error : Option String)
    (j : ScheduledJob W) : ScheduledJob W :=
  { j with
    status := .PENDING, claimed_by := none, lease_until := none,
    next_run_at := now + (interval_seconds * second : Nat), last_run_at := some now,
    run_count := j.run_count + 1,
    last_error := match error with
      | some e =>
          if e = "" then none else some (String.ofList (e.toList.drop (e.toList.length - 500)))
      | none => none
    updated_at := some now }

inductive Phase where
  | handler
  | ended (error : Option String)
  deriving DecidableEq

-- one call of _execute_job after its claim; claim numbers are not in the database
structure Execution where
  job_id : Nat
  interval_seconds : Nat
  lease_until : Timestamptz
  claim : Nat
  phase : Phase
  deriving DecidableEq

inductive Ended where
  | rescheduled (job_id claim : Nat)
  | recovered (job_id claim : Nat)
  deriving DecidableEq

def Ended.claim : Ended → Nat
  | .rescheduled _ c => c
  | .recovered _ c => c

structure JobState (W : Type) where
  jobs : List (ScheduledJob W)
  workers : W → Option Execution
  clock : Timestamptz
  claims : Nat
  holder : Nat → Option Nat
  log : List Ended

def JobState.execute [DecidableEq W] (s : JobState W) (w : W) (x : Option Execution) : JobState W :=
  { s with workers := Function.update s.workers w x }

-- the claims that hold these rows end here
def JobState.end_claims (s : JobState W) (job_ids : List Nat) (ended : Nat → Nat → Ended) :
    JobState W :=
  { s with
    holder := fun id => if id ∈ job_ids then none else s.holder id
    log := s.log ++ job_ids.filterMap (fun id => (s.holder id).map (ended id)) }

def job_ids (p : ScheduledJob W → Bool) (jobs : List (ScheduledJob W)) : List Nat :=
  (jobs.filter p).map ScheduledJob.id

inductive JobAction (W : Type) where
  | recover (now : Timestamptz)
  | claim (w : W) (job_id : Nat) (lease_from due now : Timestamptz)
  | lost (w : W) (job_id : Nat) (due : Timestamptz)
  | handler_end (w : W) (error : Option String)
  | reschedule (w : W) (now : Timestamptz)
  | crash (w : W)
  | tick (clock : Timestamptz)

inductive JobStep [DecidableEq W] (lease_seconds : Nat) : JobState W → JobAction W → JobState W → Prop
  | recover (s : JobState W) (now : Timestamptz) :
      JobStep lease_seconds s (.recover now)
        ({ s with jobs := Table.update (stale now) recovered s.jobs }.end_claims
          (job_ids (stale now) s.jobs) .recovered)
  | claim {s : JobState W} {w : W} {j : ScheduledJob W} {lease_from due now : Timestamptz}
      (hw : s.workers w = none) (hj : j ∈ s.jobs) (hc : claimable j.id due j = true) :
      JobStep lease_seconds s (.claim w j.id lease_from due now)
        { s with
          jobs := Table.update (claimable j.id due)
            (claimed w (lease_from + (lease_seconds * second : Nat)) now) s.jobs
          workers := Function.update s.workers w (some ⟨j.id, j.interval_seconds,
            lease_from + (lease_seconds * second : Nat), s.claims, .handler⟩)
          claims := s.claims + 1
          holder := Function.update s.holder j.id (some s.claims) }
  | lost {s : JobState W} {w : W} {job_id : Nat} {due : Timestamptz} (hw : s.workers w = none)
      (hc : ∀ j ∈ s.jobs, claimable job_id due j = false) :
      JobStep lease_seconds s (.lost w job_id due) s
  | handler_end {s : JobState W} {w : W} {x : Execution} {error : Option String}
      (hw : s.workers w = some x) (hp : x.phase = .handler) :
      JobStep lease_seconds s (.handler_end w error)
        (s.execute w (some { x with phase := .ended error }))
  | reschedule {s : JobState W} {w : W} {x : Execution} {error : Option String} {now : Timestamptz}
      (hw : s.workers w = some x) (hp : x.phase = .ended error) :
      JobStep lease_seconds s (.reschedule w now)
        ({ s with
            jobs := Table.update (held_by x.job_id w) (rescheduled x.interval_seconds now error)
              s.jobs
            workers := Function.update s.workers w none }.end_claims
          (job_ids (held_by x.job_id w) s.jobs) .rescheduled)
  | crash (s : JobState W) (w : W) : JobStep lease_seconds s (.crash w) (s.execute w none)
  | tick {s : JobState W} {clock : Timestamptz} (h : s.clock ≤ clock) :
      JobStep lease_seconds s (.tick clock) { s with clock := clock }

end JobWorker

end GeoHazard

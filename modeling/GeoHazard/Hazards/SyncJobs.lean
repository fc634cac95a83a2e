import GeoHazard.Hazards.ReferenceEnv

namespace GeoHazard

open HazardEventRepo

variable {G : Type} (env : Env G)

-- IgnError, AemetError and EffisError have these two subclasses each
inductive ClientError where
  | transient (message : String)
  | protocol (message : String)

def ClientError.message : ClientError → String
  | .transient message | .protocol message => message

inductive Response where
  | ign (earthquakes : Except ClientError (List IgnRecord))
  | aemet (warnings : Except ClientError (List AemetWarning))
  | effis (hotspots burnt_areas : Except ClientError (List EffisRecord))

def Response.source : Response → Source
  | .ign _ => .ign
  | .aemet _ => .aemet
  | .effis _ _ => .effis

def Response.fetched : Response → Except ClientError Fetched
  | .ign earthquakes => do .ok (.ign (← earthquakes))
  | .aemet warnings => do .ok (.aemet (← warnings))
  | .effis hotspots burnt_areas => do .ok (.effis (← hotspots) (← burnt_areas))

inductive Raised where
  | client (e : ClientError)
  | use_case (e : PyError)

structure Handled (G : Type) where
  db : Db G
  committed : Bool
  raised : Option Raised

def Handled.failed (raised : Option Raised) (db : Db G) : Handled G := ⟨db, false, raised⟩

-- what the database raises on the statements of a run or on its commit, if it raises
abbrev Refusal := Option PyError

-- only the client's exceptions are counted: any other leaves the session without a commit
def sync_handler (tx : Tx) (failed_at : Timestamptz) (response : Response) (refusal : Refusal)
    (db : Db G) : Handled G :=
  match response.fetched, refusal with
  | .error _, some refused => .failed (some (.use_case refused)) db
  | .error e, none =>
      .failed
        (match e with
          | .transient _ => none
          | .protocol _ => some (.client e))
        { db with
          source_sync_state := SourceSyncStateRepo.record_failure response.source e.message
            failed_at db.source_sync_state }
  | .ok fetched, refusal =>
      match fetched.execute env tx db, refusal with
      | .error e, _ => .failed (some (.use_case e)) db
      | .ok _, some refused => .failed (some (.use_case refused)) db
      | .ok (db', _), none => ⟨db', true, none⟩

def ign_sync (tx : Tx) (failed_at : Timestamptz)
    (fetch_earthquakes : Except ClientError (List IgnRecord)) (refusal : Refusal) (db : Db G) :
    Handled G :=
  sync_handler env tx failed_at (.ign fetch_earthquakes) refusal db

def aemet_sync (tx : Tx) (failed_at : Timestamptz)
    (fetch_warnings : Except ClientError (List AemetWarning)) (refusal : Refusal) (db : Db G) :
    Handled G :=
  sync_handler env tx failed_at (.aemet fetch_warnings) refusal db

def effis_sync (tx : Tx) (failed_at : Timestamptz)
    (fetch_hotspots fetch_burnt_areas : Except ClientError (List EffisRecord)) (refusal : Refusal)
    (db : Db G) : Handled G :=
  sync_handler env tx failed_at (.effis fetch_hotspots fetch_burnt_areas) refusal db

-- wait_for cancels the handler at one of its awaits; what it has not committed by then is lost
inductive Cancellation where
  | never | before_commit | after_commit
  deriving DecidableEq

structure Attempt where
  tx : Tx
  failed_at : Timestamptz
  response : Response
  refusal : Refusal
  cancellation : Cancellation

structure Finished extends Attempt where
  committed : Bool

def Attempt.run (a : Attempt) (db : Db G) : Db G × Bool :=
  if a.cancellation = .before_commit then (db, false)
  else
    let handled := sync_handler env a.tx a.failed_at a.response a.refusal db
    (handled.db, handled.committed)

def JobStep (db : Db G) (o : Finished) (db' : Db G) : Prop :=
  o.toAttempt.run env db = (db', o.committed)

abbrev SyncJobRun : Db G → List Finished → Db G → Prop := Transition.Run (JobStep env)

def Fetched.cursor : Fetched → Option PyJson
  | .effis _ burnt_areas =>
      some (cursor_of "burnt_area_ids" (burnt_areas.map EffisRecord.external_id))
  | .ign records => SyncIgnUseCase.cursor records
  | .aemet warnings => some (cursor_of "identifiers"
      ((warnings.filter SyncAemetUseCase.is_ingestible).map AemetWarning.external_id))

-- the cursor a run stores; an ign feed with no earthquake leaves the one before
def Finished.cursor (o : Finished) : Option PyJson :=
  match o.response.fetched with
  | .error _ => none
  | .ok fetched => if o.committed then fetched.cursor.map Json.canon else none

def runs_of (source : Source) (os : List Finished) : List Finished :=
  os.filter (fun o => decide (o.response.source = source))

def failure_streak (source : Source) (os : List Finished) : Nat :=
  ((runs_of source os).reverse.takeWhile (fun o => !o.committed)).length

def last_committed (source : Source) (os : List Finished) : Option Finished :=
  (runs_of source os).reverse.find? Finished.committed

def last_cursor (source : Source) (os : List Finished) : PyJson :=
  ((runs_of source os).reverse.findSome? Finished.cursor).getD (.obj [])

structure Accounted (source : Source) (os : List Finished) (t : List SourceSyncState) : Prop where
  consecutive_failures : ((SourceSyncStateRepo.get source t).map
    SourceSyncState.consecutive_failures).getD 0 = failure_streak source os
  last_success_at : (SourceSyncStateRepo.get source t).bind SourceSyncState.last_success_at =
    (last_committed source os).map (fun o => o.tx.clock)
  cursor : ((SourceSyncStateRepo.get source t).map SourceSyncState.cursor).getD (.obj []) =
    last_cursor source os

-- no UPDATE that closes the superseded and the vanished names too many identifiers
def Fetched.Closes (states : List SourceSyncState) : Fetched → Prop
  | .effis _ burnt_areas => Closable (SyncEffisUseCase.vanished states burnt_areas)
  | .ign _ => True
  | .aemet warnings => SyncAemetUseCase.Closes states warnings

-- an Attempt whose failure, if it fails, is one the handler counts
structure Attempt.Counted (a : Attempt) (db : Db G) : Prop where
  left : a.cancellation ≠ .before_commit
  accepted : a.refusal = none
  rows : ∀ fetched, a.response.fetched = .ok fetched → ∃ rows, fetched.rows env = .ok rows ∧
    Storable rows ∧ fetched.Closes db.source_sync_state

-- a finished run that leaves its mark on source_sync_state
def Finished.counted (o : Finished) : Bool :=
  o.committed || decide (o.cancellation ≠ .before_commit) && o.refusal.isNone &&
    (match o.response.fetched with
      | .error _ => true
      | .ok _ => false)

variable {env} {db db' : Db G} {o : Finished} {a : Attempt} {os : List Finished}

theorem Response.fetched_source {response : Response} {fetched : Fetched}
    (h : response.fetched = .ok fetched) : fetched.source = response.source := by
  cases response with
  | ign earthquakes =>
      cases earthquakes <;> simp [Response.fetched, bind, Except.bind] at h
      exact h ▸ rfl
  | aemet warnings =>
      cases warnings <;> simp [Response.fetched, bind, Except.bind] at h
      exact h ▸ rfl
  | effis hotspots burnt_areas =>
      cases hotspots <;> cases burnt_areas <;> simp [Response.fetched, bind, Except.bind] at h
      exact h ▸ rfl

theorem Fetched.execute_state {fetched : Fetched} {tx : Tx} {result : SyncResult}
    (h : fetched.execute env tx db = .ok (db', result)) :
    db'.source_sync_state = SourceSyncStateRepo.record_success fetched.source fetched.cursor tx.clock
      db.source_sync_state := by
  cases fetched with
  | effis hotspots burnt_areas =>
      obtain ⟨_, _, _, hs, _⟩ := SyncEffisUseCase.execute_ok h
      exact hs
  | ign records => exact (SyncIgnUseCase.execute_ok h).2.1
  | aemet warnings =>
      obtain ⟨_, _, _, hs, _⟩ := SyncAemetUseCase.execute_ok h
      exact hs

theorem Fetched.execute_iff {fetched : Fetched} {tx : Tx} :
    (∃ r, fetched.execute env tx db = .ok r) ↔ ∃ rows, fetched.rows env = .ok rows ∧
      Storable rows ∧ fetched.Closes db.source_sync_state := by
  cases fetched with
  | effis hotspots burnt_areas =>
      simp only [Fetched.execute, SyncEffisUseCase.execute_iff, Fetched.rows, Fetched.Closes]
      constructor
      · rintro ⟨_, rows, hr, hs, hc, _⟩
        exact ⟨rows, hr, hs, hc⟩
      · rintro ⟨rows, hr, hs, hc⟩
        exact ⟨_, rows, hr, hs, hc, rfl⟩
  | ign records =>
      simp [Fetched.execute, SyncIgnUseCase.execute_iff, Fetched.rows, Fetched.Closes]
  | aemet warnings =>
      simp only [Fetched.execute, SyncAemetUseCase.execute_iff, Fetched.rows, Fetched.Closes]
      constructor
      · rintro ⟨_, rows, hr, hs, hc, _⟩
        exact ⟨rows, hr, hs, hc⟩
      · rintro ⟨rows, hr, hs, hc⟩
        exact ⟨_, rows, hr, hs, hc, rfl⟩

theorem JobStep.cases (h : JobStep env db o db') :
    (o.committed = true ∧ o.cancellation ≠ .before_commit ∧ o.refusal = none ∧
      ∃ fetched result, o.response.fetched = .ok fetched ∧
        fetched.execute env o.tx db = .ok (db', result)) ∨
    (o.committed = false ∧ o.cancellation ≠ .before_commit ∧ o.refusal = none ∧
      ∃ e, o.response.fetched = .error e ∧ db' = { db with
        source_sync_state := SourceSyncStateRepo.record_failure o.response.source e.message
          o.failed_at db.source_sync_state }) ∨
    (o.committed = false ∧ ¬ o.toAttempt.Counted env db ∧ o.counted = false ∧ db' = db) := by
  simp only [JobStep, Attempt.run] at h
  by_cases hcut : o.cancellation = .before_commit
  · simp only [hcut, if_true, Prod.mk.injEq] at h
    exact .inr (.inr ⟨h.2.symm, fun hc => hc.left hcut, by simp [Finished.counted, ← h.2, hcut],
      h.1.symm⟩)
  · simp only [hcut, if_false, Prod.mk.injEq] at h
    obtain ⟨hdb, hcom⟩ := h
    cases hf : o.response.fetched with
    | error e =>
        cases hr : o.refusal with
        | some refused =>
            simp only [sync_handler, hf, hr, Handled.failed] at hdb hcom
            exact .inr (.inr ⟨hcom.symm, fun hc => by simp [hc.accepted] at hr,
              by simp [Finished.counted, ← hcom, hr], hdb.symm⟩)
        | none =>
            simp only [sync_handler, hf, hr, Handled.failed] at hdb hcom
            exact .inr (.inl ⟨hcom.symm, hcut, rfl, e, rfl, hdb.symm⟩)
    | ok fetched =>
        cases hx : fetched.execute env o.tx db with
        | error e =>
            simp only [sync_handler, hf, hx, Handled.failed] at hdb hcom
            refine .inr (.inr ⟨hcom.symm, fun hc => ?_, by simp [Finished.counted, ← hcom, hf],
              hdb.symm⟩)
            have hran : ∃ r, fetched.execute env o.tx db = .ok r :=
              Fetched.execute_iff.mpr (hc.rows fetched hf)
            obtain ⟨r, hok⟩ := hran
            simp [hx] at hok
        | ok r =>
            cases hr : o.refusal with
            | some refused =>
                simp only [sync_handler, hf, hx, hr, Handled.failed] at hdb hcom
                exact .inr (.inr ⟨hcom.symm, fun hc => by simp [hc.accepted] at hr,
                  by simp [Finished.counted, ← hcom, hr], hdb.symm⟩)
            | none =>
                simp only [sync_handler, hf, hx, hr] at hdb hcom
                exact .inl ⟨hcom.symm, hcut, rfl, fetched, r.2, rfl, hdb ▸ hx⟩

theorem JobStep.counted_iff (h : JobStep env db o db') :
    o.counted = true ↔ o.toAttempt.Counted env db := by
  rcases JobStep.cases h with ⟨hcom, hcut, hacc, fetched, result, hf, hx⟩ |
    ⟨_, hcut, hacc, e, hf, _⟩ | ⟨_, hno, hnot, _⟩
  · refine ⟨fun _ => ⟨hcut, hacc, fun fetched' hf' => ?_⟩, fun _ => by simp [Finished.counted, hcom]⟩
    obtain rfl : fetched = fetched' := Except.ok.inj (hf.symm.trans hf')
    exact Fetched.execute_iff.mp ⟨_, hx⟩
  · exact ⟨fun _ => ⟨hcut, hacc, fun fetched' hf' => by simp [hf] at hf'⟩,
      fun _ => by simp [Finished.counted, hcut, hacc, hf]⟩
  · simp [hno, hnot]

section
variable {source : Source}

theorem runs_of_self (h : o.response.source = source) (os : List Finished) :
    runs_of source (os ++ [o]) = runs_of source os ++ [o] := by
  simp [runs_of, h]

theorem runs_of_other (h : o.response.source ≠ source) (os : List Finished) :
    runs_of source (os ++ [o]) = runs_of source os := by
  simp [runs_of, h]

theorem failure_streak_self (h : o.response.source = source) (os : List Finished) :
    failure_streak source (os ++ [o]) =
      if o.committed then 0 else failure_streak source os + 1 := by
  cases hc : o.committed <;> simp [failure_streak, runs_of_self h, hc]

theorem last_committed_self (h : o.response.source = source) (os : List Finished) :
    last_committed source (os ++ [o]) = if o.committed then some o else last_committed source os := by
  cases hc : o.committed <;> simp [last_committed, runs_of_self h, hc]

theorem last_cursor_self (h : o.response.source = source) (os : List Finished) :
    last_cursor source (os ++ [o]) = o.cursor.getD (last_cursor source os) := by
  cases hc : o.cursor <;> simp [last_cursor, runs_of_self h, hc]

theorem Accounted.empty : Accounted source [] (Db.empty G).source_sync_state where
  consecutive_failures := rfl
  last_success_at := rfl
  cursor := rfl

theorem Accounted.other {t t' : List SourceSyncState} (h : Accounted source os t)
    (hne : o.response.source ≠ source)
    (hget : SourceSyncStateRepo.get source t' = SourceSyncStateRepo.get source t) :
    Accounted source (os ++ [o]) t' := by
  obtain ⟨hf, hl, hc⟩ := h
  refine ⟨?_, ?_, ?_⟩
  · rwa [hget, failure_streak, runs_of_other hne]
  · rwa [hget, last_committed, runs_of_other hne]
  · rwa [hget, last_cursor, runs_of_other hne]

theorem Accounted.committed {t : List SourceSyncState} (h : Accounted source os t)
    (hs : o.response.source = source) (hc : o.committed = true) {fetched : Fetched}
    (hf : o.response.fetched = .ok fetched) :
    Accounted source (os ++ [o])
      (SourceSyncStateRepo.record_success source fetched.cursor o.tx.clock t) := by
  obtain ⟨s, hget, hlast, hfail, hcursor⟩ :=
    SourceSyncStateRepo.get_record_success source fetched.cursor o.tx.clock t
  refine ⟨?_, ?_, ?_⟩
  · simp [hget, hfail, failure_streak_self hs, hc]
  · simp [hget, hlast, last_committed_self hs, hc]
  · have hown : o.cursor = fetched.cursor.map Json.canon := by simp [Finished.cursor, hf, hc]
    rw [hget, Option.map_some, Option.getD_some, hcursor, h.cursor, last_cursor_self hs, hown]

theorem Accounted.failed {t : List SourceSyncState} (h : Accounted source os t)
    (hs : o.response.source = source) (hc : o.committed = false) {e : ClientError}
    (hf : o.response.fetched = .error e) :
    Accounted source (os ++ [o])
      (SourceSyncStateRepo.record_failure source e.message o.failed_at t) := by
  obtain ⟨s, hget, hlast, hfail, hcursor⟩ :=
    SourceSyncStateRepo.get_record_failure source e.message o.failed_at t
  refine ⟨?_, ?_, ?_⟩
  · simp [hget, hfail, failure_streak_self hs, hc, h.consecutive_failures]
  · simp [hget, hlast, last_committed_self hs, hc, h.last_success_at]
  · have hown : o.cursor = none := by simp [Finished.cursor, hf]
    simp [hget, hcursor, last_cursor_self hs, hown, h.cursor]

theorem Accounted.step (h : Accounted source os db.source_sync_state) (hs : JobStep env db o db')
    (hc : o.counted = true) : Accounted source (os ++ [o]) db'.source_sync_state := by
  rcases JobStep.cases hs with ⟨hcom, _, _, fetched, result, hf, hx⟩ | ⟨hcom, _, _, e, hf, rfl⟩ |
    ⟨_, _, hno, _⟩
  · have hsrc := Response.fetched_source hf
    rw [Fetched.execute_state hx, hsrc]
    by_cases hown : o.response.source = source
    · exact hown ▸ (hown ▸ h).committed rfl hcom hf
    · exact h.other hown
        (SourceSyncStateRepo.get_record_success_other (Ne.symm hown) _ _ _)
  · by_cases hown : o.response.source = source
    · exact hown ▸ (hown ▸ h).failed rfl hcom hf
    · exact h.other hown
        (SourceSyncStateRepo.get_record_failure_other (Ne.symm hown) _ _ _)
  · simp [hc] at hno

end

theorem SyncJobRun.accounted (h : SyncJobRun env (Db.empty G) os db)
    (hc : ∀ o ∈ os, o.counted = true) (source : Source) :
    Accounted source os db.source_sync_state := by
  refine Transition.Run.history (I := fun os (db : Db G) =>
    (∀ o ∈ os, o.counted = true) → Accounted source os db.source_sync_state)
    (fun before d o d' hi hs hall => ?_) h (fun _ => Accounted.empty) hc
  have hprior := hi (fun p hp => hall p (by simp [hp]))
  exact hprior.step hs (hall o (by simp))

theorem JobStep.untouched (h : JobStep env db o db') (hc : o.committed = false) :
    db'.hazard_events = db.hazard_events ∧ db'.outbox_events = db.outbox_events := by
  rcases JobStep.cases h with ⟨hcom, _⟩ | ⟨_, _, _, e, _, rfl⟩ | ⟨_, _, _, rfl⟩
  · simp [hc] at hcom
  · exact ⟨rfl, rfl⟩
  · exact ⟨rfl, rfl⟩

-- what every run of the jobs from empty tables owes after each of its steps
def Audited (env : Env G) (os : List Finished) : Prop :=
  ∀ before o d d', before ++ [o] <+: os → SyncJobRun env (Db.empty G) before d →
    JobStep env d o d' → (∀ source, Accounted source (before ++ [o]) d'.source_sync_state) ∧
      (o.committed = false →
        d'.hazard_events = d.hazard_events ∧ d'.outbox_events = d.outbox_events)

-- every run meets the condition in the state that it finds
def CountedRun (env : Env G) (os : List Finished) : Prop :=
  ∀ before o d, before ++ [o] <+: os → SyncJobRun env (Db.empty G) before d →
    o.toAttempt.Counted env d

theorem Accounted.uncounted {source : Source} {t : List SourceSyncState}
    (h : Accounted source os t) (hs : o.response.source = source) (hc : o.committed = false) :
    ¬ Accounted source (os ++ [o]) t := by
  intro hnext
  have hsame := hnext.consecutive_failures.symm.trans h.consecutive_failures
  simp [failure_streak_self hs, hc] at hsame

theorem CountedRun.counted (hc : CountedRun env os) (h : SyncJobRun env (Db.empty G) os db) :
    ∀ o ∈ os, o.counted = true := by
  intro o ho
  obtain ⟨before, rest, rfl⟩ := List.append_of_mem ho
  obtain ⟨d, hbefore, hk⟩ := Transition.Run.append_inv h
  obtain ⟨d', hstep, _⟩ := Transition.Run.cons_inv hk
  exact hstep.counted_iff.mpr (hc before o d ⟨rest, by simp⟩ hbefore)

theorem JobStep.deterministic {u v : Db G} (hu : JobStep env db o u) (hv : JobStep env db o v) :
    u = v :=
  (Prod.mk.inj (hu.symm.trans hv)).1

theorem SyncJobRun.deterministic {u v : Db G} (hu : SyncJobRun env db os u)
    (hv : SyncJobRun env db os v) : u = v :=
  Transition.Run.deterministic (fun _ _ _ _ hs ht => hs.deterministic ht) hu hv

theorem sync_failures_accounted (h : SyncJobRun env (Db.empty G) os db) :
    Audited env os ↔ CountedRun env os := by
  constructor
  · intro haudit before o d hpre hbefore
    obtain ⟨rest, rfl⟩ := hpre
    rw [List.append_assoc] at h
    obtain ⟨d₁, hbefore₁, hk⟩ := Transition.Run.append_inv h
    obtain rfl := hbefore.deterministic hbefore₁
    obtain ⟨d', hstep, _⟩ := Transition.Run.cons_inv hk
    have hafter := (haudit before o d d' ⟨rest, rfl⟩ hbefore hstep).1 o.response.source
    have hprior : Accounted o.response.source before d.source_sync_state := by
      cases hbefore with
      | nil => exact Accounted.empty
      | @snoc u _ earlier last hr hl =>
          exact (haudit earlier last u d ⟨o :: rest, by simp⟩ hr hl).1 o.response.source
    by_contra hno
    rcases JobStep.cases hstep with ⟨_, hcut, hacc, fetched, result, hf, hx⟩ |
      ⟨_, hcut, hacc, e, hf, _⟩ | ⟨hcom, _, _, rfl⟩
    · refine hno ⟨hcut, hacc, fun fetched' hf' => ?_⟩
      obtain rfl : fetched = fetched' := Except.ok.inj (hf.symm.trans hf')
      exact Fetched.execute_iff.mp ⟨_, hx⟩
    · exact hno ⟨hcut, hacc, fun fetched' hf' => by simp [hf] at hf'⟩
    · exact hprior.uncounted rfl hcom hafter
  · intro hc before o d d' hpre hbefore hstep
    have hprior := hbefore.accounted (CountedRun.counted (fun b p e hb =>
      hc b p e (hb.trans ((List.prefix_append before [o]).trans hpre))) hbefore)
    have hcounted := hstep.counted_iff.mpr (hc before o d hpre hbefore)
    exact ⟨fun source => (hprior source).step hstep hcounted, hstep.untouched⟩

theorem JobStep.sync (h : JobStep env db o db') : ∃ a, SyncStep env db a db' := by
  rcases JobStep.cases h with ⟨_, _, _, fetched, result, _, hx⟩ | ⟨_, _, _, e, _, rfl⟩ |
    ⟨_, _, _, rfl⟩
  · exact ⟨_, .committed hx⟩
  · exact ⟨_, .failed db o.response.source e.message o.failed_at⟩
  · exact ⟨_, .rolled_back db' (.ign [])⟩

def sync_attempt (xid hour : Nat) (response : Response) (cancellation : Cancellation) : Attempt :=
  ⟨ran_at xid (july 2 hour), (july 2 hour).instant, response, none, cancellation⟩

def bulletin_then_outage : List Finished :=
  [⟨sync_attempt 1 11 (.aemet (.ok alert_bulletin)) .never, true⟩,
    ⟨sync_attempt 2 12 (.aemet (.error (.transient "503"))) .never, false⟩]

def after_outage : Db (List (PyFloat × PyFloat)) :=
  bulletin_then_outage.foldl (fun db o => (o.toAttempt.run (planar_env id) db).1) (Db.empty _)

theorem after_outage_run :
    SyncJobRun (planar_env id) (Db.empty _) bulletin_then_outage after_outage :=
  .cons (Prod.ext rfl (by decide)) (.one (Prod.ext rfl (by decide)))

theorem sync_failures_accounted_outage : Audited (planar_env id) bulletin_then_outage ↔
    CountedRun (planar_env id) bulletin_then_outage :=
  sync_failures_accounted after_outage_run

-- a level the severity table does not have: to_row raises ValueError
def grey_bulletin : List AemetWarning :=
  [{ yellow "A" MSG_TYPE_ALERT (july 2 10) (july 3 10) [] with level := some "gris" }]

theorem value_error_not_counted : ¬ ∀ os db,
    SyncJobRun (planar_env id) (Db.empty _) os db → Audited (planar_env id) os := by
  intro hall
  let o : Finished := ⟨sync_attempt 1 11 (.aemet (.ok grey_bulletin)) .never, false⟩
  have hstep : JobStep (planar_env id) (Db.empty _) o (Db.empty _) := Prod.ext rfl (by decide)
  have haudit := hall [o] _ (.one hstep) [] o _ _ (List.prefix_refl _) (.nil _) hstep
  have hfail := (haudit.1 .aemet).consecutive_failures
  exact absurd hfail (by decide)

end GeoHazard

import GeoHazard.Library.RetryLease
import GeoHazard.Notifications.DeliverOutcomes

namespace GeoHazard
open Transition RetryLease

variable {G : Type} {gis : Gis G} {settings : MatchSettings} {deliver : DeliverSettings}

def retry_policy (deliver : DeliverSettings) : Policy :=
  ⟨DeliveryRepo.backoff, deliver.min_interval, deliver.pause_after⟩

def DeliverRun.claimed (run : DeliverRun) : List ClaimedSubscription :=
  run.outcomes.map Outcome.claim ++ run.claims

def claims_in (s : DeliverState G) (id : Nat) : List ClaimedSubscription :=
  (s.run.elim [] DeliverRun.claimed).filter (fun c => decide (c.id = id))

def outcome_event (now : Timestamptz) (o : Outcome) : Event :=
  if o.skipped then .released else if o.message_id.isSome then .sent now else .failed now

-- what a step adds to the history of a subscription
def happened (id : Nat) (s : DeliverState G) (a : DeliverAction G) (t : DeliverState G) :
    List Event :=
  match a with
  | .claimed now => (claims_in t id).map (fun _ => .claimed now)
  | .recorded now => ((s.run.elim [] DeliverRun.outcomes).filter
      (fun o => decide (o.claim.id = id))).map (outcome_event now)
  | .crashed => (claims_in s id).map (fun _ => .lost)
  | .paused i => if i = id then [.paused] else []
  | .resumed i => if i = id then [.resumed] else []
  | _ => []

-- a run of the system beside the history of one subscription; the operator resumes between runs
def RetryStep (gis : Gis G) (settings : MatchSettings) (deliver : DeliverSettings) (id : Nat)
    (p : DeliverState G × List Event) (a : DeliverAction G) (q : DeliverState G × List Event) :
    Prop :=
  (∀ i, a = .resumed i → p.1.run = none) ∧ DeliverStep gis settings deliver p.1 a q.1 ∧
    q.2 = p.2 ++ happened id p.1 a q.1

structure Columns (r : Subscription) (σ : State) : Prop where
  consecutive_failures : r.consecutive_failures = σ.failures
  failing_since : r.failing_since = σ.failing_since
  retry_at : r.retry_at = σ.retry_at
  last_sent_at : r.last_sent_at = σ.last_sent_at
  status : r.status = .paused ↔ σ.paused = true

structure Linked (id : Nat) (s : DeliverState G) (σ : State) : Prop where
  row : ∀ r ∈ Table.find Subscription.id id s.db.subscriptions, Columns r σ
  claim : (claims_in s id).map ClaimedSubscription.previous_retry_at = σ.claim.toList
  fresh : s.db.next_id ≤ id → σ = .init

-- the columns and the claim move as the history says
def Follows (deliver : DeliverSettings) (id : Nat) (s : DeliverState G) (a : DeliverAction G)
    (t : DeliverState G) (σ : State) : Prop :=
  ∃ τ, Run (Step (retry_policy deliver)) σ (happened id s a t) τ ∧ Linked id t τ

variable {s t : DeliverState G} {a : DeliverAction G} {id : Nat} {σ τ : State} {r : Subscription}

theorem Linked.empty : Linked id (DeliverState.empty (G := G)) .init :=
  ⟨by simp [DeliverState.empty, NotificationsDb.empty, Table.find],
    by simp [claims_in, DeliverState.empty, State.init], fun _ => rfl⟩

theorem Linked.quiet (h : Linked id s σ) (hh : happened id s a t = [])
    (hr : ∀ r ∈ Table.find Subscription.id id t.db.subscriptions, Columns r σ)
    (hc : claims_in t id = claims_in s id) (hn : s.db.next_id ≤ t.db.next_id) :
    Follows deliver id s a t σ :=
  ⟨σ, hh ▸ .nil σ, hr, hc ▸ h.claim, fun hid => h.fresh (le_trans hn hid)⟩

theorem Linked.frame (h : Linked id s σ) (hh : happened id s a t = [])
    (hr : t.db.subscriptions = s.db.subscriptions) (hc : claims_in t id = claims_in s id)
    (hn : s.db.next_id ≤ t.db.next_id) : Follows deliver id s a t σ :=
  h.quiet hh (hr ▸ h.row) hc hn

theorem Linked.event {e : Event} (hh : happened id s a t = [e])
    (hen : Enabled (retry_policy deliver) σ e)
    (hr : ∀ r ∈ Table.find Subscription.id id t.db.subscriptions,
      Columns r (after (retry_policy deliver) σ e))
    (hc : (claims_in t id).map ClaimedSubscription.previous_retry_at =
      (after (retry_policy deliver) σ e).claim.toList)
    (hn : id < t.db.next_id) : Follows deliver id s a t σ :=
  ⟨_, hh ▸ .one ⟨hen, rfl⟩, hr, hc, fun hid => absurd hn (not_lt.mpr hid)⟩

theorem claims_attempt {outcome : ClaimedSubscription → Outcome} {c : ClaimedSubscription}
    {run : DeliverRun} {accepted : List Message} (hat : s.Attempt outcome c run)
    (hc : (outcome c).claim = c) :
    claims_in { s with run := some run, accepted := accepted } id = claims_in s id := by
  obtain ⟨rest, outcomes, hrun, rfl⟩ := hat
  simp [claims_in, hrun, DeliverRun.claimed, hc]

theorem find_written_row {i : Nat} {f : Subscription → Subscription} (hf : ∀ r, (f r).id = r.id)
    {rows : List Subscription}
    (h : r ∈ Table.find Subscription.id id
      (Table.update (fun r => decide (r.id = i)) f rows)) :
    ∃ o ∈ Table.find Subscription.id id rows, r = if i = id then f o else o := by
  rw [find_written f hf] at h
  obtain ⟨o, ho, rfl⟩ := Option.map_eq_some_iff.mp h
  exact ⟨o, ho, rfl⟩

theorem Linked.claim_none (h : Linked id s σ) (hrun : s.run = none) : σ.claim = none := by
  have hc := h.claim
  simp only [claims_in, hrun, Option.elim_none, List.filter_nil, List.map_nil] at hc
  exact Option.toList_eq_nil_iff.mp hc.symm

theorem Linked.claims_eq (h : Linked id s σ) : (σ.claim = none ∧ claims_in s id = []) ∨
    ∃ c, σ.claim = some c.previous_retry_at ∧ claims_in s id = [c] := by
  have hc := h.claim
  cases hclaim : σ.claim with
  | none =>
      rw [hclaim, Option.toList_none, List.map_eq_nil_iff] at hc
      exact .inl ⟨rfl, hc⟩
  | some prev =>
      rw [hclaim, Option.toList_some, List.map_eq_singleton_iff] at hc
      obtain ⟨c, heq, rfl⟩ := hc
      exact .inr ⟨c, rfl, heq⟩

theorem claims_of_rows {rows : List Subscription} {claims : List ClaimedSubscription}
    (h : List.Forall₂ (fun r c => c.id = r.id ∧ c.previous_retry_at = r.retry_at) rows claims) :
    (claims.filter (fun c => decide (c.id = id))).map ClaimedSubscription.previous_retry_at =
      (rows.filter (fun r => decide (r.id = id))).map Subscription.retry_at := by
  induction h with
  | nil => rfl
  | @cons r c rows claims hrc _ ih =>
      by_cases hid : r.id = id
      · simp [hrc.1, hrc.2, hid, ih]
      · simp [hrc.1, hid, ih]

theorem claimed_unique {now : Timestamptz} {min_interval limit : Nat} {db : NotificationsDb G}
    (hu : Table.Unique Subscription.id db.subscriptions) :
    Table.Unique Subscription.id (DeliveryRepo.claimed now min_interval limit db) := by
  refine List.Nodup.sublist ((List.take_sublist _ _).map _) ?_
  refine ((List.perm_insertionSort _ _).map _).nodup_iff.mpr ?_
  exact hu.sublist List.filter_sublist

theorem due_iff {at_ : Option Timestamptz} {limit : Timestamptz} :
    DeliveryRepo.due at_ limit = true ↔ Due at_ limit := by
  cases at_ <;> simp [DeliveryRepo.due, Due]

theorem Columns.enabled {now : Timestamptz} {db : NotificationsDb G} (hc : Columns r σ)
    (hclaim : σ.claim = none)
    (h : DeliveryRepo.claimable now deliver.min_interval db r = true) :
    Enabled (retry_policy deliver) σ (.claimed now) := by
  simp only [DeliveryRepo.claimable, Bool.and_eq_true, due_iff, beq_iff_eq] at h
  obtain ⟨⟨⟨hactive, hretry⟩, hlast⟩, _⟩ := h
  refine ⟨hclaim, ?_, hc.retry_at ▸ hretry, hc.last_sent_at ▸ hlast⟩
  have hne : ¬ r.status = .paused := by simp [hactive]
  simpa [hc.status] using hne

theorem Columns.leased {now : Timestamptz} (hc : Columns r σ) :
    Columns (DeliveryRepo.leased now r) (after (retry_policy deliver) σ (.claimed now)) :=
  ⟨hc.consecutive_failures, hc.failing_since,
    congrArg (fun k => some (now + (DeliveryRepo.backoff k : Int))) hc.consecutive_failures,
    hc.last_sent_at, hc.status⟩

theorem Linked.claimed {now : Timestamptz} {db : NotificationsDb G}
    {claims : List ClaimedSubscription} (h : Linked id s σ) (hi : DeliverInv s)
    (hnone : s.run = none)
    (hc : DeliverNotificationsUseCase.claim deliver now s.db = .ok (db, claims)) :
    Follows deliver id s (.claimed now) { s with db := db, run := some ⟨claims, []⟩ } σ := by
  obtain ⟨hrows, hclaims⟩ := DeliveryRepo.claim_rows hc
  have hnext := (DeliveryRepo.claim_spec hc).1
  have hu := @claimed_unique _ now deliver.min_interval MAX_SUBSCRIPTIONS_PER_RUN s.db
    hi.subscriptions
  have hof : (claims.filter (fun c => decide (c.id = id))).map
      ClaimedSubscription.previous_retry_at = (Table.find Subscription.id id
        (DeliveryRepo.claimed now deliver.min_interval MAX_SUBSCRIPTIONS_PER_RUN s.db)).toList.map
          Subscription.retry_at := by
    rw [← Table.filter_unique hu]
    exact claims_of_rows hclaims
  have hin : claims_in { s with db := db, run := some ⟨claims, []⟩ } id =
      claims.filter (fun c => decide (c.id = id)) := by simp [claims_in, DeliverRun.claimed]
  have hfind : Table.find Subscription.id id db.subscriptions = (Table.find Subscription.id id
      s.db.subscriptions).map (fun r => if r.id ∈ (DeliveryRepo.claimed now deliver.min_interval
        MAX_SUBSCRIPTIONS_PER_RUN s.db).map Subscription.id then DeliveryRepo.leased now r else r) := by
    rw [hrows, Table.find_update (f := DeliveryRepo.leased now) (fun _ _ => rfl)]
    simp
  cases hf : Table.find Subscription.id id
      (DeliveryRepo.claimed now deliver.min_interval MAX_SUBSCRIPTIONS_PER_RUN s.db) with
  | none =>
      have hempty : claims.filter (fun c => decide (c.id = id)) = [] := by simpa [hf] using hof
      refine h.quiet (by simp [happened, hin, hempty]) (fun r hr => ?_) ?_ hnext.symm.le
      · obtain ⟨o, ho, rfl⟩ := Option.map_eq_some_iff.mp (hfind ▸ hr)
        have hout : o.id ∉ (DeliveryRepo.claimed now deliver.min_interval MAX_SUBSCRIPTIONS_PER_RUN
            s.db).map Subscription.id := by
          rw [(Table.find_some_mem ho).2, List.mem_map]
          rintro ⟨x, hx, hxid⟩
          exact Table.find_none.mp hf x hx hxid
        rw [if_neg hout]
        exact h.row o ho
      · rw [hin, hempty]
        simp [claims_in, hnone]
  | some o =>
      obtain ⟨ho, rfl⟩ := Table.find_some_mem hf
      obtain ⟨hdb, hcan⟩ := DeliveryRepo.mem_claimed ho
      have hrow := (Table.find_unique hi.subscriptions).mpr ⟨hdb, rfl⟩
      have hcols := h.row o hrow
      have hprev : (claims.filter (fun c => decide (c.id = o.id))).map
          ClaimedSubscription.previous_retry_at = [o.retry_at] := by simpa [hf] using hof
      obtain ⟨c, hone, _⟩ := List.map_eq_singleton_iff.mp hprev
      refine Linked.event (e := .claimed now) (by simp [happened, hin, hone])
        (hcols.enabled (h.claim_none hnone) hcan) (fun r hr => ?_) ?_ (hnext ▸ hi.subscribers o hdb)
      · rw [hfind, hrow, Option.map_some, if_pos (List.mem_map_of_mem ho)] at hr
        exact Option.some.inj hr ▸ hcols.leased
      · simp [hin, hprev, after, hcols.retry_at]

theorem Columns.recorded {now : Timestamptz} {o : Outcome} (hc : Columns r σ)
    (hclaim : σ.claim = some o.claim.previous_retry_at) :
    Columns (outcome_effect gis deliver now o r)
      (after (retry_policy deliver) σ (outcome_event now o)) := by
  unfold outcome_effect outcome_event
  cases hskip : o.skipped with
  | true =>
      exact ⟨hc.consecutive_failures, hc.failing_since, by simp [after, hclaim], hc.last_sent_at,
        hc.status⟩
  | false =>
      cases hm : o.message_id with
      | some m => exact ⟨rfl, rfl, rfl, rfl, hc.status⟩
      | none =>
          have hgives : DeliveryRepo.gives_up now deliver.pause_after r =
              gives_up (retry_policy deliver) now σ := by
            unfold DeliveryRepo.gives_up
            rw [hc.failing_since]
            rfl
          cases hg : gives_up (retry_policy deliver) now σ with
          | true =>
              simp only [hgives, hg, Bool.false_eq_true, if_false, if_true, Option.isSome_none]
              exact ⟨congrArg (· + 1) hc.consecutive_failures,
                congrArg (fun x : Option Timestamptz => some (x.getD now)) hc.failing_since, hc.retry_at,
                hc.last_sent_at, by simp [after, hg, DeliveryRepo.given_up]⟩
          | false =>
              simp only [hgives, hg, Bool.false_eq_true, if_false, Option.isSome_none]
              exact ⟨congrArg (· + 1) hc.consecutive_failures,
                congrArg (fun x : Option Timestamptz => some (x.getD now)) hc.failing_since, hc.retry_at,
                hc.last_sent_at, by simpa [after, hg, DeliveryRepo.failing] using hc.status⟩

theorem outcome_event_enabled {now : Timestamptz} {o : Outcome} (h : σ.claim ≠ none) :
    Enabled (retry_policy deliver) σ (outcome_event now o) ∧
      (after (retry_policy deliver) σ (outcome_event now o)).claim = none := by
  unfold outcome_event
  split
  · exact ⟨h, rfl⟩
  · split
    · exact ⟨h, rfl⟩
    · exact ⟨h, rfl⟩

theorem Linked.recorded {now : Timestamptz} {outcomes : List Outcome} (h : Linked id s σ)
    (hrun : s.run = some ⟨[], outcomes⟩) :
    Follows deliver id s (.recorded now) { s with
      db := (DeliverNotificationsUseCase.finished gis deliver now outcomes s.db).1, run := none } σ := by
  have hin : claims_in s id = (outcomes.filter (fun o => decide (o.claim.id = id))).map
      Outcome.claim := by
    simp [claims_in, hrun, DeliverRun.claimed, List.filter_map, Function.comp_def]
  have hnext : (DeliverNotificationsUseCase.finished gis deliver now outcomes s.db).1.next_id =
      s.db.next_id :=
    (@DeliverNotificationsUseCase.record_recorded _ gis deliver now outcomes s.db).next_id
  have hrow : ∀ r ∈ Table.find Subscription.id id
      (DeliverNotificationsUseCase.finished gis deliver now outcomes s.db).1.subscriptions,
      ∃ o ∈ Table.find Subscription.id id s.db.subscriptions, r =
        (outcomes.filter (fun o => decide (o.claim.id = id))).foldl
          (fun r o => outcome_effect gis deliver now o r) o := by
    intro r hr
    have hr' : r ∈ Table.find Subscription.id id
      (DeliverNotificationsUseCase.recorded gis deliver now outcomes s.db).1.subscriptions := hr
    rw [record_row] at hr'
    obtain ⟨o, ho, rfl⟩ := Option.map_eq_some_iff.mp hr'
    exact ⟨o, ho, rfl⟩
  rcases h.claims_eq with ⟨_, hnil⟩ | ⟨c, hclaim, hone⟩
  · have hnone : outcomes.filter (fun o => decide (o.claim.id = id)) = [] := by
      rwa [hin, List.map_eq_nil_iff] at hnil
    refine h.quiet (by simp [happened, hrun, hnone]) (fun r hr => ?_) ?_ hnext.symm.le
    · obtain ⟨o, ho, rfl⟩ := hrow r hr
      rw [hnone]
      exact h.row o ho
    · rw [hnil]
      rfl
  · rw [hin, List.map_eq_singleton_iff] at hone
    obtain ⟨o, heq, rfl⟩ := hone
    obtain ⟨hen, hended⟩ := @outcome_event_enabled deliver σ now o (by simp [hclaim])
    refine ⟨after (retry_policy deliver) σ (outcome_event now o), ?_, fun r hr => ?_,
      by rw [hended]; rfl, fun hid => ?_⟩
    · have hh : happened id s (.recorded now) { s with
          db := (DeliverNotificationsUseCase.finished gis deliver now outcomes s.db).1, run := none } =
          [outcome_event now o] := by simp [happened, hrun, heq]
      exact hh ▸ .one ⟨hen, rfl⟩
    · obtain ⟨r', hr', rfl⟩ := hrow r hr
      rw [heq]
      exact (h.row r' hr').recorded hclaim
    · rw [h.fresh (hnext ▸ hid)] at hclaim
      simp [State.init] at hclaim

theorem Linked.crashed (h : Linked id s σ) :
    Follows deliver id s .crashed { s with run := none } σ := by
  rcases h.claims_eq with ⟨_, hnil⟩ | ⟨c, hclaim, hone⟩
  · refine h.quiet (by simp [happened, hnil]) h.row ?_ (le_refl _)
    rw [hnil]
    rfl
  · have hlost : happened id s .crashed { s with run := none } = [.lost] := by
      simp [happened, hone]
    refine ⟨after (retry_policy deliver) σ .lost, hlost ▸ .one ⟨by simp [Enabled, hclaim], rfl⟩,
      fun r hr => ?_, rfl, fun hid => ?_⟩
    · obtain ⟨hfailures, hsince, hretry, hlast, hstatus⟩ := h.row r hr
      exact ⟨hfailures, hsince, hretry, hlast, hstatus⟩
    · rw [h.fresh hid] at hclaim
      simp [State.init] at hclaim

theorem Linked.added {area : WatchArea G} {hazard_types : List HazardType}
    {severity_min : Severity} {channel : Channel} {endpoint credential : String}
    (h : Linked id s σ) :
    Follows deliver id s (.added area hazard_types severity_min channel endpoint credential)
      (s.write (SubscriptionAdmin.add area hazard_types severity_min channel endpoint credential
        s.db)) σ := by
  refine h.quiet rfl (fun r hr => ?_) rfl (Nat.le_add_right _ 2)
  have hfind : r ∈ Table.find Subscription.id id (s.db.subscriptions ++ [SubscriptionAdmin.created
      s.db.next_id hazard_types severity_min channel endpoint credential (s.db.next_id + 1)]) := hr
  rw [Table.find_concat] at hfind
  rcases Option.or_eq_some_iff.mp hfind with hold | ⟨_, hnew⟩
  · exact h.row r hold
  · obtain ⟨hid, hcreated⟩ := Option.ite_none_right_eq_some.mp hnew
    obtain rfl := Option.some.inj hcreated
    rw [h.fresh (by rw [← hid]; exact Nat.le_succ _)]
    exact ⟨rfl, rfl, rfl, rfl, by simp [SubscriptionAdmin.created, State.init]⟩

theorem Linked.written {i : Nat} {e : Event} {f : Subscription → Subscription}
    {db : NotificationsDb G} (h : Linked id s σ) (hi : DeliverInv s) (hf : ∀ r, (f r).id = r.id)
    (hget : ∃ r, SubscriptionAdmin.get i s.db = .ok r)
    (hsubs : db.subscriptions = Table.update (fun r => decide (r.id = i)) f s.db.subscriptions)
    (hnext : db.next_id = s.db.next_id)
    (hh : happened id s a (s.write db) = if i = id then [e] else [])
    (hen : Enabled (retry_policy deliver) σ e)
    (hc : (after (retry_policy deliver) σ e).claim = σ.claim)
    (hcols : ∀ r, Columns r σ → Columns (f r) (after (retry_policy deliver) σ e)) :
    Follows deliver id s a (s.write db) σ := by
  have hrow : ∀ r ∈ Table.find Subscription.id id db.subscriptions,
      ∃ o ∈ Table.find Subscription.id id s.db.subscriptions, r = if i = id then f o else o :=
    fun r hr => find_written_row hf (hsubs ▸ hr)
  by_cases hid : i = id
  · obtain ⟨o, ho⟩ := hget
    obtain ⟨hmem, hoid⟩ := get_ok ho
    have hlt : id < (s.write db).db.next_id := by
      rw [← hid, ← hoid]
      exact hnext.symm ▸ hi.subscribers o hmem
    refine Linked.event (by rw [hh, if_pos hid]) hen (fun r hr => ?_) (by rw [hc]; exact h.claim) hlt
    obtain ⟨o, ho, rfl⟩ := hrow r hr
    rw [if_pos hid]
    exact hcols o (h.row o ho)
  · refine h.quiet (by rw [hh, if_neg hid]) (fun r hr => ?_) rfl hnext.symm.le
    obtain ⟨o, ho, rfl⟩ := hrow r hr
    rw [if_neg hid]
    exact h.row o ho

theorem Linked.removed {r : Subscription} (h : Linked id s σ) (hi : DeliverInv s)
    (hh : happened id s a t = []) (hdb : t.db = SubscriptionAdmin.removed r s.db)
    (hrun : t.run = s.run) : Follows deliver id s a t σ := by
  refine h.quiet hh (fun o ho => ?_) (by simp [claims_in, hrun]) (hdb ▸ le_refl _)
  rw [hdb] at ho
  obtain ⟨hmem, hid⟩ := Table.find_some_mem ho
  exact h.row o ((Table.find_unique hi.subscriptions).mpr ⟨(List.mem_filter.mp hmem).1, hid⟩)

theorem Linked.step (h : Linked id s σ) (hi : DeliverInv s)
    (hb : ∀ i, a = .resumed i → s.run = none) (hs : DeliverStep gis settings deliver s a t) :
    Follows deliver id s a t σ := by
  cases a with
  | matched source batch_at now events =>
      obtain ⟨db, n, hx, rfl⟩ := hs
      have hg := MatchBatchUseCase.execute_grown hx
      exact h.frame rfl hg.subscriptions rfl hg.next_id
  | claimed now =>
      obtain ⟨hnone, db, claims, hc, rfl⟩ := hs
      exact h.claimed hi hnone hc
  | accepted message_id =>
      obtain ⟨c, run, hat, rfl⟩ := hs
      exact h.frame rfl rfl (claims_attempt hat rfl) (le_refl _)
  | refused error =>
      obtain ⟨c, run, hat, rfl⟩ := hs
      exact h.frame rfl rfl (claims_attempt hat rfl) (le_refl _)
  | deferred =>
      obtain ⟨c, run, hat, _, rfl⟩ := hs
      exact h.frame rfl rfl (claims_attempt hat rfl) (le_refl _)
  | recorded now =>
      obtain ⟨outcomes, hrun, _, rfl⟩ := hs.recorded_inv
      exact h.recorded hrun
  | crashed => exact hs ▸ h.crashed
  | added area hazard_types severity_min channel endpoint credential => exact hs ▸ h.added
  | paused i =>
      obtain ⟨db, hp, rfl⟩ := hs
      have hget := pause_get hp
      obtain rfl := pause_ok hp
      refine h.written (f := SubscriptionAdmin.paused) hi (fun _ => rfl) hget rfl rfl rfl trivial rfl
        (fun r hc => ?_)
      exact ⟨hc.consecutive_failures, hc.failing_since, hc.retry_at, hc.last_sent_at,
        by simp [SubscriptionAdmin.paused, after]⟩
  | resumed i =>
      obtain ⟨db, hp, rfl⟩ := hs
      have hget := resume_get hp
      obtain rfl := resume_ok hp
      refine h.written (f := SubscriptionAdmin.resumed) hi (fun _ => rfl) hget rfl rfl rfl
        (h.claim_none (hb i rfl)) rfl (fun r hc => ?_)
      exact ⟨rfl, rfl, rfl, hc.last_sent_at, by simp [SubscriptionAdmin.resumed, after]⟩
  | removed i =>
      obtain ⟨db, hp, rfl⟩ := hs
      obtain ⟨r, _, rfl⟩ := remove_ok hp
      exact h.removed hi rfl rfl rfl

theorem Run.simulated {as : List (DeliverAction G)} {h : List Event}
    (hr : Run (RetryStep gis settings deliver id) (DeliverState.empty, []) as (s, h)) :
    DeliverInv s ∧ ∃ σ, Run (Step (retry_policy deliver)) .init h σ ∧ Linked id s σ :=
  hr.invariant (I := fun p => DeliverInv p.1 ∧
    ∃ σ, Run (Step (retry_policy deliver)) .init p.2 σ ∧ Linked id p.1 σ)
    (fun p a q hp hs => by
      obtain ⟨hi, σ, hσ, hl⟩ := hp
      obtain ⟨hb, hstep, hq⟩ := hs
      obtain ⟨τ, hτ, hl'⟩ := hl.step hi hb hstep
      exact ⟨hstep.inv hi, τ, hq ▸ hσ.append hτ, hl'⟩)
    ⟨.empty, .init, .nil _, .empty⟩

theorem Run.history_exists {as : List (DeliverAction G)}
    (hr : Run (Guarded (fun s a => ∀ i, a = .resumed i → s.run = none)
      (DeliverStep gis settings deliver)) DeliverState.empty as s) :
    ∃ h, Run (RetryStep gis settings deliver id) (DeliverState.empty, []) as (s, h) := by
  induction hr with
  | nil => exact ⟨[], .nil _⟩
  | snoc _ hs ih =>
      obtain ⟨h, hr⟩ := ih
      exact ⟨h ++ happened id _ _ _, .snoc hr ⟨hs.1, hs.2, rfl⟩⟩

structure RetryOk (deliver : DeliverSettings) (id : Nat) (h : List Event) (s : DeliverState G) :
    Prop where
  counted : ∀ r ∈ s.db.subscriptions, r.id = id →
    r.consecutive_failures = (failures h).length ∧ r.failing_since = (failures h).head?
  paused : ∀ r ∈ s.db.subscriptions, r.id = id → (r.status = .paused ↔
    paused_by_hand h = true ∨ ∃ x ∈ failures h, Late (retry_policy deliver) (failures h) x)
  first : ∀ x ∈ (failures h).dropLast, ¬ Late (retry_policy deliver) (failures h) x
  backoff : ∀ before during since later (T x T' : Timestamptz),
    h = before ++ .claimed T :: (during ++ .failed x :: (since ++ .claimed T' :: later)) →
    NoClaim during → NoClaim since → .resumed ∉ since →
    T + (min (60 * 2 ^ (failures before).length) 3600 * 1000000 : Nat) ≤ T'
  min_interval : ∀ before since later (x T : Timestamptz),
    h = before ++ .sent x :: (since ++ .claimed T :: later) → NoClaim since →
      x + deliver.min_interval ≤ T

theorem retry_state {as : List (DeliverAction G)} {h : List Event}
    (hr : Run (RetryStep gis settings deliver id) (DeliverState.empty, []) as (s, h)) :
    RetryOk deliver id h s := by
  obtain ⟨hi, σ, hσ, hl⟩ := Run.simulated hr
  have hinv := Inv.run hσ
  have hcols : ∀ r ∈ s.db.subscriptions, r.id = id → Columns r σ := fun r hm hid =>
    hl.row r ((Table.find_unique hi.subscriptions).mpr ⟨hm, hid⟩)
  refine ⟨fun r hm hid => ?_, fun r hm hid => ?_, hinv.first, ?_, ?_⟩
  · exact ⟨(hcols r hm hid).consecutive_failures.trans hinv.failures,
      (hcols r hm hid).failing_since.trans hinv.failing_since⟩
  · exact (hcols r hm hid).status.trans hinv.paused
  · rintro before during since later T x T' rfl hduring hsince hno
    exact claimed_after_failed hσ hduring hsince hno
  · rintro before since later x T rfl hsince
    exact claimed_after_sent hσ hsince

theorem Run.quiet {as : List (DeliverAction G)} {h : List Event}
    (hr : Run (DeliverStep gis settings deliver) s as t)
    (hq : ∀ a ∈ as, (∀ i, a ≠ .resumed i) ∧ ∀ u v, happened id u a v = []) :
    Run (RetryStep gis settings deliver id) (s, h) as (t, h) := by
  induction hr with
  | nil => exact .nil _
  | @snoc t u as a _ hs ih =>
      obtain ⟨hres, hnone⟩ := hq a (by simp)
      refine .snoc (ih (fun b hb => hq b (List.mem_append_left _ hb)))
        ⟨fun i hi => absurd hi (hres i), hs, ?_⟩
      rw [hnone, List.append_nil]

def refused_claim (s : DeliverState Ring) : DeliverState Ring :=
  { s with run := s.run.map (fun run => ⟨run.claims.drop 1,
    run.outcomes ++ (run.claims.take 1).map (fun c => ⟨c, none, some "HTTP 500", false⟩)⟩) }

theorem claim_left {s : DeliverState G}
    (h : s.run.elim false (fun run => !run.claims.isEmpty) = true) :
    ∃ c rest outcomes, s.run = some ⟨c :: rest, outcomes⟩ := by
  cases hrun : s.run with
  | none => simp [hrun] at h
  | some run =>
      obtain ⟨claims, outcomes⟩ := run
      cases claims with
      | nil => simp [hrun] at h
      | cons c rest => exact ⟨c, rest, outcomes, rfl⟩

theorem refused_step {s : DeliverState Ring}
    (h : s.run.elim false (fun run => !run.claims.isEmpty) = true) :
    DeliverStep planar_gis default_settings default_deliver s (.refused "HTTP 500")
      (refused_claim s) := by
  obtain ⟨c, rest, outcomes, hrun⟩ := claim_left h
  exact ⟨c, ⟨rest, outcomes ++ [⟨c, none, some "HTTP 500", false⟩]⟩,
    ⟨rest, outcomes, hrun, rfl⟩, by simp [refused_claim, hrun]⟩

def DeliverState.recorded (now : Timestamptz) (s : DeliverState Ring) : DeliverState Ring :=
  { s with
    db := (DeliverNotificationsUseCase.finished planar_gis default_deliver now
      (s.run.elim [] DeliverRun.outcomes) s.db).1
    run := none }

theorem recorded_step {now : Timestamptz} {s : DeliverState Ring}
    (h : s.run.elim false (fun run => run.claims.isEmpty) = true)
    (hlen : (s.run.elim [] DeliverRun.outcomes).all
      (fun o => decide (o.claim.deliveries.length + 3 ≤ 32767)) = true) :
    DeliverStep planar_gis default_settings default_deliver s (.recorded now) (s.recorded now) := by
  cases hrun : s.run with
  | none => simp [hrun] at h
  | some run =>
      obtain ⟨claims, outcomes⟩ := run
      obtain rfl : claims = [] := by simpa [hrun] using h
      have hbinds : ∀ o ∈ outcomes, DeliverNotificationsUseCase.Binds o := by
        simp only [hrun, Option.elim_some, List.all_eq_true, decide_eq_true_eq] at hlen
        exact fun o ho _ _ => hlen o ho
      exact ⟨outcomes, _, _, hrun, DeliverNotificationsUseCase.finish_iff.mpr ⟨hbinds, rfl⟩,
        by simp [DeliverState.recorded, DeliverNotificationsUseCase.finished, hrun]⟩

def refused : DeliverState Ring := refused_claim (waiting.claimed (july 2 12).instant)

theorem retry_state_refused :
    RetryOk default_deliver 1 [.claimed (july 2 12).instant, .failed (july 2 13).instant]
      (refused.recorded (july 2 13).instant) := by
  have hstart : Run (RetryStep planar_gis default_settings default_deliver 1)
      (DeliverState.empty, []) to_waiting (waiting, []) :=
    Run.quiet waiting_run (by simp [to_waiting, happened])
  have hclaimed : RetryStep planar_gis default_settings default_deliver 1 (waiting, [])
      (.claimed (july 2 12).instant)
      (waiting.claimed (july 2 12).instant, [.claimed (july 2 12).instant]) :=
    ⟨by simp, waiting_claimed, by decide +kernel⟩
  have hrefused : RetryStep planar_gis default_settings default_deliver 1
      (waiting.claimed (july 2 12).instant, [.claimed (july 2 12).instant]) (.refused "HTTP 500")
      (refused, [.claimed (july 2 12).instant]) :=
    ⟨by simp, refused_step (by decide +kernel), rfl⟩
  have hrecorded : RetryStep planar_gis default_settings default_deliver 1
      (refused, [.claimed (july 2 12).instant]) (.recorded (july 2 13).instant)
      (refused.recorded (july 2 13).instant,
        [.claimed (july 2 12).instant, .failed (july 2 13).instant]) :=
    ⟨by simp, recorded_step (by decide +kernel) (by decide +kernel), by decide +kernel⟩
  exact retry_state (((hstart.snoc hclaimed).snoc hrefused).snoc hrecorded)

end GeoHazard

import GeoHazard.Hazards.AemetCaps
import GeoHazard.Hazards.PointWindows

namespace GeoHazard
open HazardEventRepo AemetHttpClient CappedLoop

variable {G : Type} (env : Env G) (w : WireLib) (settings : HttpSettings) (network : Network)

structure AemetPoll where
  tx : Tx
  failed_at : Timestamptz
  refusal : Refusal
  cancellation : Cancellation

structure PollState (G : Type) where
  sent : List HttpRequest
  db : Db G

def AemetPoll.attempt (p : AemetPoll) (fetched : Except ClientError (List AemetWarning)) : Attempt :=
  ⟨p.tx, p.failed_at, .aemet fetched, p.refusal, p.cancellation⟩

-- the handler catches AemetError; any other exception leaves the session without a commit
def AemetPoll.handle (p : AemetPoll) (fetched : Except FetchError (List AemetWarning)) (db : Db G) :
    Db G :=
  match fetched with
  | .ok warnings => ((p.attempt (.ok warnings)).run env db).1
  | .error (.client e) => ((p.attempt (.error e)).run env db).1
  | .error (.other _) => db

def AemetPoll.run (p : AemetPoll) (s : PollState G) : PollState G :=
  let fetched := fetch_warnings w settings network s.sent
  ⟨fetched.1, p.handle env fetched.2 s.db⟩

inductive PollAction where
  | polled (p : AemetPoll)
  | cut (p : AemetPoll) (requests : Nat)

-- wait_for may also cut the fetch, when some of its requests are sent
inductive PollStep : PollState G → PollAction → PollState G → Prop
  | polled (s : PollState G) (p : AemetPoll) :
      PollStep s (.polled p) (p.run env w settings network s)
  | cut (s : PollState G) (p : AemetPoll) (requests : Nat) :
      PollStep s (.cut p requests)
        { s with
          sent := (fetch_warnings w settings network s.sent).1.take (s.sent.length + requests) }

abbrev PollRun : PollState G → List PollAction → PollState G → Prop :=
  Transition.Run (PollStep env w settings network)

def Confined (r : HttpRequest) : Prop :=
  r = bulletin_request settings ∨ r.headers = [] ∧ r.params = [] ∧ OfAemet w r.url

-- a warning that a file of an archive says, which a 200 answer brought whole and within the cap from
-- where the answer to the bulletin request said
inductive Served : List HttpRequest → AemetWarning → Prop
  | file {before after : List HttpRequest} {url : String} {body : Nat → Event Chunk String}
      {data payload : Bytes} {members : List TarMember} {warning : AemetWarning}
      (hnames : Names w settings network before url)
      (hurl : OfAemet w url)
      (hanswer : network (before ++ [bulletin_request settings, datos_request url]) =
        .response 200 body)
      (hwhole : Whole body data) (hcap : data.length ≤ settings.HTTP_MAX_RESPONSE_BYTES)
      (harchive : Archive w data members) (hholds : HoldsFile members payload)
      (hparse : parse_payload w payload = .ok warning) :
      Served (before ++ [bulletin_request settings, datos_request url] ++ after) warning

-- closing moves the end of a row and leaves its other columns
def SameRow (row : Row G) (e : HazardEvent G) : Prop := e.toRow = { row with ends_at := e.ends_at }

inductive RowOrigin (before : HazardEventRepo.Rows G) (sent : List HttpRequest)
    (e : HazardEvent G) : Prop
  | old {o : HazardEvent G} (ho : o ∈ before) (h : SameRow o.toRow e) : RowOrigin before sent e
  | served {warning : AemetWarning} {row : Row G} (hs : Served w settings network sent warning)
      (hrow : SyncAemetUseCase.to_row env warning = .ok row) (h : SameRow row.stored e) :
      RowOrigin before sent e

variable {env w settings network} {s s' : PollState G} {sent : List HttpRequest}
  {asked : List HttpRequest} {warning : AemetWarning}

theorem AemetHttpClient.Hops.confined (h : Hops w settings network sent asked) :
    asked.length ≤ 2 ∧ ∀ r ∈ asked, Confined w settings r := by
  cases h with
  | none => simp
  | bulletin =>
      refine ⟨by simp, fun r hr => ?_⟩
      obtain rfl := List.mem_singleton.mp hr
      exact .inl rfl
  | datos hnames =>
      refine ⟨by simp, fun r hr => ?_⟩
      rcases List.mem_cons.mp hr with rfl | hr
      · exact .inl rfl
      · obtain rfl := List.mem_singleton.mp hr
        obtain ⟨_, _, _, _, _, _, hread⟩ := hnames.answer
        exact .inr ⟨rfl, rfl, hread.of_aemet⟩

theorem fetch_warnings_asked (w : WireLib) (settings : HttpSettings) (network : Network)
    (sent : List HttpRequest) : ∃ asked,
    (fetch_warnings w settings network sent).1 = sent ++ asked ∧ Hops w settings network sent asked :=
  fetch_archive_asked w settings network sent

theorem fetch_warnings_ok {warnings : List AemetWarning}
    (h : (fetch_warnings w settings network sent).2 = .ok warnings) :
    ∀ warning ∈ warnings, Served w settings network (fetch_warnings w settings network sent).1
      warning := by
  intro warning hw
  obtain ⟨hvalid, url, body, data, members, hnames, hvalid2, hn, hwhole, hcap, harchive, rfl, _⟩ :=
    fetch_warnings_ok_iff.mp h
  obtain ⟨payload, hholds, hparse⟩ := holds_of_warning harchive hw
  have hsent : (fetch_warnings w settings network sent).1 =
      sent ++ [bulletin_request settings, datos_request url] ++ [] := by
    rw [fetch_warnings, fetch_archive_ok_iff.mpr ⟨hvalid, url, body, hnames, hvalid2, rfl, hn, hwhole,
      hcap⟩, List.append_nil]
  obtain ⟨_, _, _, _, _, _, hread⟩ := hnames.answer
  have hurl := hread.of_aemet
  rw [hsent]
  exact .file hnames hurl hn hwhole hcap harchive hholds hparse

theorem Served.more (h : Served w settings network sent warning) (more : List HttpRequest) :
    Served w settings network (sent ++ more) warning := by
  cases h with
  | @file before after _ _ _ _ _ _ hnames hurl hanswer hwhole hcap harchive hholds hparse =>
      rw [List.append_assoc]
      exact .file hnames hurl hanswer hwhole hcap harchive hholds hparse

section Rows

variable {before : HazardEventRepo.Rows G} {tx : Tx} {t : HazardEventRepo.Rows G}

theorem SameRow.closed {row : Row G} {o : HazardEvent G} (h : SameRow row o) (ended_at : Timestamptz) :
    SameRow row (HazardEvent.closed tx ended_at o) := by
  have hr : ∀ ends, { o.toRow with ends_at := ends } = { row with ends_at := ends } := fun ends => by
    rw [h]
  exact hr (some ended_at)

theorem RowOrigin.closed {o : HazardEvent G} (h : RowOrigin env w settings network before sent o)
    (ended_at : Timestamptz) :
    RowOrigin env w settings network before sent (HazardEvent.closed tx ended_at o) := by
  cases h with
  | old ho h => exact .old ho (h.closed ended_at)
  | served hs hrow h => exact .served hs hrow (h.closed ended_at)

def AllFrom (env : Env G) (w : WireLib) (settings : HttpSettings) (network : Network)
    (before : HazardEventRepo.Rows G) (sent : List HttpRequest) (t : HazardEventRepo.Rows G) : Prop :=
  ∀ e ∈ t, e.source = .aemet → RowOrigin env w settings network before sent e

theorem AllFrom.closed_rows (h : AllFrom env w settings network before sent t) (source : Source)
    (ids : List String) (ended_at : Timestamptz) :
    AllFrom env w settings network before sent (closed_rows tx source ids ended_at t).1 := by
  intro e he hs
  rcases PointWindows.mem_closed_rows he with he | ⟨o, ho, rfl, _⟩
  · exact h e he hs
  · exact (h o ho hs).closed ended_at

theorem AllFrom.closed_groups (h : AllFrom env w settings network before sent t)
    (groups : List (Timestamptz × List String)) :
    AllFrom env w settings network before sent (SyncAemetUseCase.closed_groups tx groups t).1 := by
  induction groups generalizing t with
  | nil => exact h
  | cons g groups ih => exact ih (h.closed_rows .aemet g.2 g.1)

theorem AllFrom.upserted (h : AllFrom env w settings network before sent t)
    {warnings : List AemetWarning} (hs : ∀ warning ∈ warnings, Served w settings network sent warning)
    {rows : List (Row G)} (hr : collect (SyncAemetUseCase.to_row env) warnings = .ok rows) :
    AllFrom env w settings network before sent (upserted env tx rows t) := by
  intro e he hsource
  rcases mem_upserted he with he | ⟨row, hrow, hto⟩
  · exact h e he hsource
  · obtain ⟨warning, hw, hx⟩ := collect_mem hr hrow
    refine .served (hs warning hw) hx ?_
    rw [SameRow, hto]

theorem AllFrom.execute {db db' : Db G} {warnings : List AemetWarning} {result : SyncResult}
    (h : AllFrom env w settings network before sent db.hazard_events)
    (hs : ∀ warning ∈ warnings, Served w settings network sent warning)
    (hx : SyncAemetUseCase.execute env tx warnings db = .ok (db', result)) :
    AllFrom env w settings network before sent db'.hazard_events := by
  obtain ⟨rows, hr, ht, _⟩ := SyncAemetUseCase.execute_ok hx
  rw [ht]
  have hkept : ∀ warning ∈ warnings.filter SyncAemetUseCase.is_ingestible,
      Served w settings network sent warning :=
    fun warning hw => hs warning (List.mem_of_mem_filter hw)
  exact ((h.upserted hkept hr).closed_groups _).closed_rows _ _ _

theorem AllFrom.more (h : AllFrom env w settings network before sent t) (more : List HttpRequest) :
    AllFrom env w settings network before (sent ++ more) t := by
  intro e he hs
  cases h e he hs with
  | old ho h => exact .old ho h
  | served hserved hrow h => exact .served (hserved.more more) hrow h

end Rows

theorem AemetPoll.lost (p : AemetPoll) (db : Db G) : JobStep env db
    ⟨⟨p.tx, p.failed_at, .aemet (.ok []), p.refusal, .before_commit⟩, false⟩ db := rfl

theorem AemetPoll.handle_job (p : AemetPoll) (fetched : Except FetchError (List AemetWarning))
    (db : Db G) : ∃ o : Finished, o.response.source = .aemet ∧
      JobStep env db o (p.handle env fetched db) ∧
      (o.committed = true →
        ∃ warnings, fetched = .ok warnings ∧ o.response = .aemet (.ok warnings)) := by
  match fetched with
  | .ok warnings =>
      exact ⟨⟨p.attempt (.ok warnings), ((p.attempt (.ok warnings)).run env db).2⟩, rfl, rfl,
        fun _ => ⟨warnings, rfl, rfl⟩⟩
  | .error (.client e) =>
      refine ⟨⟨p.attempt (.error e), ((p.attempt (.error e)).run env db).2⟩, rfl, rfl, fun hc => ?_⟩
      have hstep : JobStep env db ⟨p.attempt (.error e), true⟩ ((p.attempt (.error e)).run env db).1 :=
        Prod.ext rfl hc
      rcases JobStep.cases hstep with ⟨_, _, _, _, _, hf, _⟩ | ⟨hno, _⟩ | ⟨hno, _⟩
      · simp [AemetPoll.attempt, Response.fetched, bind, Except.bind] at hf
      · simp at hno
      · simp at hno
  | .error (.other _) => exact ⟨_, rfl, p.lost db, fun hc => by simp at hc⟩

theorem PollStep.requests {a : PollAction} (h : PollStep env w settings network s a s') :
    ∃ asked, s'.sent = s.sent ++ asked ∧ asked.length ≤ 2 ∧ ∀ r ∈ asked, Confined w settings r := by
  obtain ⟨asked, hsent, hasked⟩ := fetch_warnings_asked w settings network s.sent
  obtain ⟨hlen, hconfined⟩ := hasked.confined
  cases h with
  | polled p => exact ⟨asked, hsent, hlen, hconfined⟩
  | cut p requests =>
      refine ⟨asked.take requests, ?_, (List.length_take_le' _ _).trans hlen,
        fun r hr => hconfined r (List.mem_of_mem_take hr)⟩
      simp only [hsent, List.take_length_add_append]

theorem PollStep.job {a : PollAction} (h : PollStep env w settings network s a s') :
    ∃ o : Finished, o.response.source = .aemet ∧ JobStep env s.db o s'.db ∧
      (o.committed = true → ∃ warnings, o.response = .aemet (.ok warnings) ∧
        ∀ warning ∈ warnings, Served w settings network s'.sent warning) := by
  cases h with
  | polled p =>
      obtain ⟨o, hsource, hstep, hc⟩ := @AemetPoll.handle_job _ env p
        (fetch_warnings w settings network s.sent).2 s.db
      refine ⟨o, hsource, hstep, fun hcom => ?_⟩
      obtain ⟨warnings, hok, hr⟩ := hc hcom
      exact ⟨warnings, hr, fetch_warnings_ok hok⟩
  | cut p requests => exact ⟨_, rfl, p.lost s.db, fun hc => by simp at hc⟩

theorem AllFrom.job {before : HazardEventRepo.Rows G} {db db' : Db G} {o : Finished}
    (h : AllFrom env w settings network before sent db.hazard_events) (hj : JobStep env db o db')
    (hc : o.committed = true → ∃ warnings, o.response = .aemet (.ok warnings) ∧
      ∀ warning ∈ warnings, Served w settings network sent warning) :
    AllFrom env w settings network before sent db'.hazard_events := by
  rcases JobStep.cases hj with ⟨hcom, _, _, fetched, result, hf, hx⟩ | ⟨hno, _⟩ | ⟨hno, _⟩
  · obtain ⟨warnings, hr, hs⟩ := hc hcom
    rw [hr] at hf
    obtain rfl : .aemet warnings = fetched := by
      simpa [Response.fetched, bind, Except.bind] using hf
    exact h.execute hs hx
  · rw [(JobStep.untouched hj hno).1]
    exact h
  · rw [(JobStep.untouched hj hno).1]
    exact h

theorem PollRun.requests {as : List PollAction} (h : PollRun env w settings network s as s') :
    ∃ asked, s'.sent = s.sent ++ asked ∧ asked.length ≤ 2 * as.length ∧
      ∀ r ∈ asked, Confined w settings r := by
  induction h with
  | nil => exact ⟨[], by simp⟩
  | snoc _ hk ih =>
      obtain ⟨asked, hsent, hlen, hall⟩ := ih
      obtain ⟨more, hmore, hlen', hall'⟩ := hk.requests
      refine ⟨asked ++ more, by rw [hmore, hsent, List.append_assoc], ?_, fun r hr => ?_⟩
      · simp only [List.length_append, List.length_singleton]
        omega
      · exact (List.mem_append.mp hr).elim (hall r) (hall' r)

theorem PollRun.from {as : List PollAction} (h : PollRun env w settings network s as s') :
    AllFrom env w settings network s.db.hazard_events s'.sent s'.db.hazard_events := by
  induction h with
  | nil => exact fun e he _ => .old he rfl
  | snoc _ hk ih =>
      obtain ⟨more, hmore, _⟩ := hk.requests
      obtain ⟨o, _, hj, hc⟩ := hk.job
      have hgrown := ih.more more
      rw [← hmore] at hgrown
      exact hgrown.job hj hc

theorem PollRun.jobs {as : List PollAction} (h : PollRun env w settings network s as s') :
    ∃ os : List Finished, os.length = as.length ∧ (∀ o ∈ os, o.response.source = .aemet) ∧
      SyncJobRun env s.db os s'.db := by
  induction h with
  | nil => exact ⟨[], rfl, by simp, .nil _⟩
  | snoc _ hk ih =>
      obtain ⟨os, hlen, hall, hrun⟩ := ih
      obtain ⟨o, hsource, hj, _⟩ := hk.job
      refine ⟨os ++ [o], by simp [hlen], fun p hp => ?_, .snoc hrun hj⟩
      rcases List.mem_append.mp hp with hp | hp
      · exact hall p hp
      · obtain rfl := List.mem_singleton.mp hp
        exact hsource

theorem JobStep.others {db db' : Db G} {o : Finished} (h : JobStep env db o db')
    (k : Source × String) (hk : k.1 ≠ o.response.source) :
    Table.find HazardEvent.key k db'.hazard_events = Table.find HazardEvent.key k db.hazard_events := by
  rcases JobStep.cases h with ⟨_, _, _, fetched, result, hf, hx⟩ | ⟨hno, _⟩ | ⟨hno, _⟩
  · rw [← Response.fetched_source hf] at hk
    exact (Fetched.execute_ingested hx).wrote.change.others k hk
  · rw [(h.untouched hno).1]
  · rw [(h.untouched hno).1]

theorem SyncJobRun.others {db db' : Db G} {os : List Finished} (h : SyncJobRun env db os db')
    {source : Source} (hall : ∀ o ∈ os, o.response.source = source) (k : Source × String)
    (hk : k.1 ≠ source) :
    Table.find HazardEvent.key k db'.hazard_events = Table.find HazardEvent.key k db.hazard_events := by
  induction h with
  | nil => rfl
  | snoc _ hj ih =>
      have hlast := hj.others k (by rw [hall _ (by simp)]; exact hk)
      exact hlast.trans (ih (fun o ho => hall o (by simp [ho])))

theorem aemet_polls {as : List PollAction} (h : PollRun env w settings network s as s') :
    (∃ asked, s'.sent = s.sent ++ asked ∧ asked.length ≤ 2 * as.length ∧
      ∀ r ∈ asked, Confined w settings r) ∧
    (∀ e ∈ s'.db.hazard_events, e.source = .aemet →
      RowOrigin env w settings network s.db.hazard_events s'.sent e) ∧
    (∀ k : Source × String, k.1 ≠ .aemet →
      Table.find HazardEvent.key k s'.db.hazard_events =
        Table.find HazardEvent.key k s.db.hazard_events) ∧
    ∃ os : List Finished, os.length = as.length ∧ (∀ o ∈ os, o.response.source = .aemet) ∧
      SyncJobRun env s.db os s'.db := by
  obtain ⟨os, hlen, hall, hrun⟩ := h.jobs
  exact ⟨h.requests, h.from, fun k hk => hrun.others hall k hk, os, hlen, hall, hrun⟩

def alert_poll : AemetPoll := ⟨ran_at 1 (july 2 11), (july 2 11).instant, none, .never⟩

def polled_alert : PollState (List (PyFloat × PyFloat)) :=
  alert_poll.run vertex_env alert_lib alert_settings alert_network ⟨[], Db.empty _⟩

theorem polled_alert_stored : ∃ e ∈ polled_alert.db.hazard_events, e.source = .aemet := by
  have hdb : polled_alert.db =
      ((alert_poll.attempt (.ok [alert_warning square_ring])).run vertex_env (Db.empty _)).1 := by
    simp [polled_alert, AemetPoll.run, AemetPoll.handle, fetch_warnings_ok_iff.mpr alert_delivers]
  rw [hdb]
  decide +kernel

theorem aemet_polls_alert :
    (∃ e ∈ polled_alert.db.hazard_events, e.source = .aemet ∧
      RowOrigin vertex_env alert_lib alert_settings alert_network [] polled_alert.sent e) ∧
    polled_alert.sent.length ≤ 2 ∧ ∀ r ∈ polled_alert.sent, Confined alert_lib alert_settings r := by
  have hrun : PollRun vertex_env alert_lib alert_settings alert_network ⟨[], Db.empty _⟩
      [.polled alert_poll] polled_alert := .one (.polled _ alert_poll)
  obtain ⟨⟨asked, hsent, hlen, hall⟩, hfrom, _⟩ := aemet_polls hrun
  obtain ⟨e, he, hs⟩ := polled_alert_stored
  rw [List.nil_append] at hsent
  exact ⟨⟨e, he, hs, hfrom e he hs⟩, hsent ▸ hlen, hsent ▸ hall⟩

end GeoHazard

import GeoHazard.Notifications.DeliveryLifeCycle
import GeoHazard.Notifications.HttpChannel
import Mathlib.Data.List.DropRight

namespace GeoHazard

open DeliveryRepo HttpChannelSender DeliverNotificationsUseCase

variable {G : Type} {gis : Gis G} {settings : DeliverSettings} {lib : UrlLib} {messages : Messages}
  {degraded : List Source} {world : Nat → Turn}

def target (claim : ClaimedSubscription) : String :=
  match claim.channel with
  | .ntfy => server_root claim.endpoint
  | .webhook => claim.endpoint

def message (messages : Messages) (claim : ClaimedSubscription) (degraded : List Source) (turn : Turn) :
    Except String String :=
  match claim.channel with
  | .ntfy => messages.render_ntfy claim degraded
  | .webhook => messages.render_webhook claim degraded turn.message_id turn.sent_at

-- SubscriptionAdmin.add keeps an endpoint that check_endpoint returns on
def Added (lib : UrlLib) (endpoint : String) : Prop :=
  ∃ resolved, check_endpoint lib endpoint resolved = .ok ()

def Attempted (world : Nat → Turn) (i : Nat) : Prop := i = 0 ∨ (world i).expired = false

-- the guard lets the address through and the server answers that it has the message
def Accepted (lib : UrlLib) (messages : Messages) (degraded : List Source)
    (claim : ClaimedSubscription) (turn : Turn) : Prop :=
  (∃ text, message messages claim degraded turn = .ok text) ∧
    assert_public_https lib (target claim) turn.resolved = .ok () ∧
    lib.invalid_url (target claim) = false ∧
    ∃ status_code, turn.posted = .response status_code ∧ is_success status_code = true

def SendError.caught : SendError → Prop
  | .channel_error _ => True
  | _ => False

theorem send_eq (claim : ClaimedSubscription) (turn : Turn) : send lib messages claim degraded turn =
    (do let _ ← rendered (message messages claim degraded turn); post lib (target claim) turn) := by
  cases hc : claim.channel with
  | ntfy => simp only [send, message, target, hc, send_ntfy]
  | webhook => simp only [send, message, target, hc, send_webhook]

theorem send_ok_iff {claim : ClaimedSubscription} {turn : Turn} :
    send lib messages claim degraded turn = .ok () ↔
      Accepted lib messages degraded claim turn := by
  rw [send_eq, Accepted]
  cases message messages claim degraded turn with
  | error text => simp [rendered, Except.mapError, bind, Except.bind]
  | ok text =>
      simp only [rendered, Except.mapError, bind, Except.bind, post, Except.ok.injEq, exists_eq',
        true_and]
      cases assert_public_https lib (target claim) turn.resolved with
      | error e => simp
      | ok u =>
          cases lib.invalid_url (target claim) with
          | true => simp
          | false => cases turn.posted <;> simp

structure Readable (lib : UrlLib) (url : String) (parts : SplitUrl) : Prop where
  split : lib.urlsplit url = some parts
  scheme : parts.scheme = "https"
  hostname : parts.hostname.getD "" ≠ ""
  port : parts.port ≠ none
  idna : lib.idna (parts.hostname.getD "") = true

theorem Added.readable {endpoint : String} (h : Added lib endpoint) :
    ∃ parts, Readable lib endpoint parts := by
  obtain ⟨resolved, h⟩ := h
  simp only [check_endpoint, assert_public_https] at h
  split at h
  · simp at h
  · next parts hsplit =>
      split at h
      · simp at h
      · next hhost =>
          split at h
          · simp at h
          · next p hport =>
              split at h
              · simp at h
              · next hidna =>
                  rw [not_or, not_not] at hhost
                  exact ⟨parts, hsplit, hhost.1, hhost.2, by simp [hport], by simpa using hidna⟩

theorem Readable.root {url : String} {parts : SplitUrl} (h : Readable lib url parts) :
    ∃ root, Readable lib (server_root url) root := by
  obtain ⟨root, hsplit, hscheme, hhost, hport⟩ := lib.urlsplit_root url parts h.split h.hostname
  exact ⟨root, hsplit, hscheme.trans h.scheme, hhost ▸ h.hostname, hport ▸ h.port, hhost ▸ h.idna⟩

theorem Added.target {claim : ClaimedSubscription} (h : Added lib claim.endpoint) :
    ∃ parts, Readable lib (target claim) parts := by
  obtain ⟨parts, hr⟩ := h.readable
  cases hc : claim.channel with
  | ntfy => simpa only [GeoHazard.target, hc] using hr.root
  | webhook => exact ⟨parts, by simpa only [GeoHazard.target, hc] using hr⟩

theorem Readable.refusal {url : String} {parts : SplitUrl} (h : Readable lib url parts)
    {resolved : Resolved} {e : SendError} (he : assert_public_https lib url resolved = .error e) :
    e.caught := by
  obtain ⟨p, hp⟩ := Option.ne_none_iff_exists'.mp h.port
  have hhost : ¬ (parts.scheme ≠ "https" ∨ parts.hostname.getD "" = "") := by
    simp [h.scheme, h.hostname]
  simp only [assert_public_https, h.split, if_neg hhost, hp, h.idna, Bool.true_eq_false, if_false] at he
  split at he
  · simp only [Except.error.injEq] at he
    exact he ▸ trivial
  · simp only [Except.error.injEq] at he
    exact he ▸ trivial
  · split at he
    · simp at he
    · simp only [Except.error.injEq] at he
      exact he ▸ trivial

inductive OutcomeOf (lib : UrlLib) (messages : Messages) (degraded : List Source)
    (world : Nat → Turn) (i : Nat) (claim : ClaimedSubscription) : Outcome → Prop
  | skipped (h : ¬ Attempted world i) : OutcomeOf lib messages degraded world i claim
      ⟨claim, none, none, true⟩
  | sent (h : Attempted world i) (hs : send lib messages claim degraded (world i) = .ok ()) :
      OutcomeOf lib messages degraded world i claim ⟨claim, some (world i).message_id, none, false⟩
  | failed (h : Attempted world i) {text : String}
      (hs : send lib messages claim degraded (world i) = .error (.channel_error text)) :
      OutcomeOf lib messages degraded world i claim ⟨claim, none, some text, false⟩

def Unraised (lib : UrlLib) (messages : Messages) (degraded : List Source) (world : Nat → Turn)
    (i : Nat) (claim : ClaimedSubscription) : Prop :=
  Attempted world i → ∀ e, send lib messages claim degraded (world i) = .error e → e.caught

theorem attempted_iff {i : Nat} :
    Attempted world i ↔ ¬ (i ≠ 0 ∧ (world i).expired = true) := by
  simp only [Attempted, not_and, Bool.not_eq_true]
  exact ⟨fun h hi => h.resolve_left hi, fun h => (Decidable.em (i = 0)).imp_right h⟩

theorem send_all_cons {i : Nat} {claim : ClaimedSubscription} {claims : List ClaimedSubscription}
    {outcomes : List Outcome} :
    send_all lib messages degraded world i (claim :: claims) = .ok outcomes ↔
      ∃ o rest, OutcomeOf lib messages degraded world i claim o ∧
        send_all lib messages degraded world (i + 1) claims = .ok rest ∧ outcomes = o :: rest := by
  simp only [send_all]
  split
  · next hskip =>
      have hnot : ¬ Attempted world i := fun h => attempted_iff.mp h hskip
      simp only [bind_ok, Except.ok.injEq]
      constructor
      · rintro ⟨rest, hrest, rfl⟩
        exact ⟨_, rest, .skipped hnot, hrest, rfl⟩
      · rintro ⟨o, rest, ho, hrest, rfl⟩
        cases ho with
        | skipped => exact ⟨rest, hrest, rfl⟩
        | sent h => exact absurd h hnot
        | failed h => exact absurd h hnot
  · next hskip =>
      have hatt : Attempted world i := attempted_iff.mpr hskip
      split
      · next text hs =>
          simp only [bind_ok, Except.ok.injEq]
          constructor
          · rintro ⟨rest, hrest, rfl⟩
            exact ⟨_, rest, .failed hatt hs, hrest, rfl⟩
          · rintro ⟨o, rest, ho, hrest, rfl⟩
            cases ho with
            | skipped h => exact absurd hatt h
            | sent _ hs' => simp [hs] at hs'
            | failed _ hs' =>
                rw [hs, Except.error.injEq, SendError.channel_error.injEq] at hs'
                exact ⟨rest, hrest, by rw [hs']⟩
      · next e hne hs =>
          simp only [reduceCtorEq, false_iff, not_exists, not_and]
          intro o rest ho _ _
          cases ho with
          | skipped h => exact h hatt
          | sent _ hs' => simp [hs] at hs'
          | failed _ hs' =>
              rw [hs, Except.error.injEq] at hs'
              exact hne _ hs'
      · next u hs =>
          simp only [bind_ok, Except.ok.injEq]
          constructor
          · rintro ⟨rest, hrest, rfl⟩
            exact ⟨_, rest, .sent hatt hs, hrest, rfl⟩
          · rintro ⟨o, rest, ho, hrest, rfl⟩
            cases ho with
            | skipped h => exact absurd hatt h
            | sent _ _ => exact ⟨rest, hrest, rfl⟩
            | failed _ hs' => simp [hs] at hs'

theorem outcome_exists_iff {i : Nat} {claim : ClaimedSubscription} :
    (∃ o, OutcomeOf lib messages degraded world i claim o) ↔
      Unraised lib messages degraded world i claim := by
  constructor
  · rintro ⟨o, ho⟩ hatt e he
    cases ho with
    | skipped h => exact absurd hatt h
    | sent _ hs => simp [hs] at he
    | failed _ hs =>
        rw [hs, Except.error.injEq] at he
        exact he ▸ trivial
  · intro h
    by_cases hatt : Attempted world i
    · cases hs : send lib messages claim degraded (world i) with
      | ok u => exact ⟨_, .sent hatt hs⟩
      | error e =>
          have hcaught := h hatt e hs
          cases e with
          | channel_error text => exact ⟨_, .failed hatt hs⟩
          | _ => exact hcaught.elim
    · exact ⟨_, .skipped hatt⟩

theorem send_all_returns_iff {i : Nat} {claims : List ClaimedSubscription} :
    (∃ outcomes, send_all lib messages degraded world i claims = .ok outcomes) ↔
      ∀ k c, claims[k]? = some c → Unraised lib messages degraded world (i + k) c := by
  induction claims generalizing i with
  | nil => simp [send_all]
  | cons claim claims ih =>
      simp only [send_all_cons]
      constructor
      · rintro ⟨_, o, rest, ho, hrest, _⟩ k c hk
        cases k with
        | zero =>
            simp only [List.getElem?_cons_zero, Option.some.injEq] at hk
            exact hk ▸ outcome_exists_iff.mp ⟨o, ho⟩
        | succ k =>
            have hnext := ih.mp ⟨rest, hrest⟩ k c (by simpa using hk)
            have hk' : i + 1 + k = i + (k + 1) := by omega
            exact hk' ▸ hnext
      · intro h
        obtain ⟨o, ho⟩ := outcome_exists_iff.mpr (h 0 claim rfl)
        obtain ⟨rest, hrest⟩ := ih.mpr (fun k c hk => by
          have hk' : i + 1 + k = i + (k + 1) := by omega
          exact hk' ▸ h (k + 1) c (by simpa using hk))
        exact ⟨_, o, rest, ho, hrest, rfl⟩

theorem send_all_outcomes {i : Nat} {claims : List ClaimedSubscription} {outcomes : List Outcome}
    (h : send_all lib messages degraded world i claims = .ok outcomes) :
    outcomes.map Outcome.claim = claims ∧
      ∀ k o, outcomes[k]? = some o → OutcomeOf lib messages degraded world (i + k) o.claim o := by
  induction claims generalizing i outcomes with
  | nil =>
      simp only [send_all, Except.ok.injEq] at h
      subst h
      simp
  | cons claim claims ih =>
      obtain ⟨o, rest, ho, hrest, rfl⟩ := send_all_cons.mp h
      obtain ⟨hmap, hall⟩ := ih hrest
      have hclaim : o.claim = claim := by cases ho <;> rfl
      refine ⟨by rw [List.map_cons, hmap, hclaim], fun k o' hk => ?_⟩
      cases k with
      | zero =>
          simp only [List.getElem?_cons_zero, Option.some.injEq] at hk
          subst hk
          exact hclaim ▸ ho
      | succ k =>
          have hnext := hall k o' (by simpa using hk)
          have hk' : i + 1 + k = i + (k + 1) := by omega
          exact hk' ▸ hnext

-- what recording an outcome writes into the row of its subscription
def outcome_effect (gis : Gis G) (settings : DeliverSettings) (now : Timestamptz) (o : Outcome)
    (s : Subscription) : Subscription :=
  if o.skipped then { s with retry_at := o.claim.previous_retry_at }
  else
    match o.message_id with
    | some _ => recovered now s
    | none =>
        if gives_up now settings.pause_after s then given_up gis (error_text o) now s
        else failing (error_text o) now s

theorem find_written {id subscription_id : Nat} (f : Subscription → Subscription)
    (hf : ∀ s, (f s).id = s.id) (t : List Subscription) :
    Table.find Subscription.id id (Table.update (fun s => decide (s.id = subscription_id)) f t) =
      (Table.find Subscription.id id t).map (fun s => if subscription_id = id then f s else s) := by
  rw [Table.find_update (fun s _ => hf s)]
  cases hfind : Table.find Subscription.id id t with
  | none => rfl
  | some s =>
      obtain ⟨_, hid⟩ := Table.find_some_mem hfind
      simp [hid, eq_comm]

theorem mark_failed_find (id subscription_id : Nat) (error : String) (now : Timestamptz)
    (pause_after : Nat) (db : NotificationsDb G) :
    Table.find Subscription.id id
        (mark_failed gis subscription_id error now pause_after db).1.subscriptions =
      (Table.find Subscription.id id db.subscriptions).map (fun s => if subscription_id = id then
        (if gives_up now pause_after s then given_up gis error now s else failing error now s)
        else s) := by
  have hfailing := @find_written id subscription_id (failing error now) (fun _ => rfl)
    db.subscriptions
  have hgiven := @find_written id subscription_id (given_up gis error now) (fun _ => rfl)
    db.subscriptions
  simp only [mark_failed]
  cases hfind : Table.find Subscription.id subscription_id db.subscriptions with
  | none =>
      by_cases hid : subscription_id = id
      · simp [← hid, hfind]
      · simp [hid]
  | some s =>
      cases hg : gives_up now pause_after s with
      | true =>
          simp only [hg, if_true, fail_pending]
          rw [hgiven]
          by_cases hid : subscription_id = id
          · simp [← hid, hfind, hg]
          · simp [hid]
      | false =>
          simp only [hg, Bool.false_eq_true, if_false]
          rw [hfailing]
          by_cases hid : subscription_id = id
          · simp [← hid, hfind, hg]
          · simp [hid]

theorem record_outcome_find (now : Timestamptz) (o : Outcome) (p : NotificationsDb G × DeliveryReport)
    (id : Nat) : Table.find Subscription.id id (recorded_outcome gis settings now p o).1.subscriptions =
      (Table.find Subscription.id id p.1.subscriptions).map
        (fun s => if o.claim.id = id then outcome_effect gis settings now o s else s) := by
  cases hskip : o.skipped with
  | true =>
      simp only [recorded_outcome, outcome_effect, hskip, if_true]
      exact find_written (fun s => { s with retry_at := o.claim.previous_retry_at }) (fun _ => rfl)
        p.1.subscriptions
  | false =>
      cases hm : o.message_id with
      | some m =>
          simp only [recorded_outcome, outcome_effect, hskip, hm, Bool.false_eq_true, if_false]
          exact find_written (recovered now) (fun _ => rfl) p.1.subscriptions
      | none =>
          simp only [recorded_outcome, outcome_effect, hskip, hm, Bool.false_eq_true, if_false]
          exact mark_failed_find id o.claim.id (error_text o) now settings.pause_after p.1

theorem record_row (now : Timestamptz) (outcomes : List Outcome) (db : NotificationsDb G)
    (id : Nat) :
    Table.find Subscription.id id (recorded gis settings now outcomes db).1.subscriptions =
      (Table.find Subscription.id id db.subscriptions).map (fun r =>
        (outcomes.filter (fun o => decide (o.claim.id = id))).foldl
          (fun r o => outcome_effect gis settings now o r) r) := by
  have hfold : ∀ p : NotificationsDb G × DeliveryReport, Table.find Subscription.id id
      (outcomes.foldl (recorded_outcome gis settings now) p).1.subscriptions =
      (Table.find Subscription.id id p.1.subscriptions).map (fun r =>
        (outcomes.filter (fun o => decide (o.claim.id = id))).foldl
          (fun r o => outcome_effect gis settings now o r) r) := by
    induction outcomes with
    | nil => simp
    | cons o outcomes ih =>
        intro p
        rw [List.foldl_cons, ih, record_outcome_find, Option.map_map]
        by_cases hid : o.claim.id = id <;> simp [hid, Function.comp_def]
  exact hfold (db, _)

theorem rstrip_server_root (url : String) : rstrip_slash (server_root url) = rstrip_slash url := by
  simp only [server_root, rstrip_slash, String.toList_append, String.toList_ofList]
  simp [List.dropWhile_idempotent]

def known_urls : List (String × SplitUrl) :=
  [("https://ntfy.sh", ⟨"https", some "ntfy.sh", some none⟩),
    ("https://example.org/\x01", ⟨"https", some "example.org", some none⟩)]

-- right on the addresses of known_urls
def plain_urls : UrlLib where
  urlsplit url := (known_urls.find? (fun known => rstrip_slash known.1 == rstrip_slash url)).map
    Prod.snd
  idna _ := true
  invalid_url url := url.toList.any (fun c => decide (c.toNat < 32) || c.toNat == 127)
  urlsplit_root url parts h _ := ⟨parts, by rw [rstrip_server_root]; exact h, rfl, rfl, rfl⟩
  non_printable url h := by simpa using h

def plain_messages : Messages := ⟨fun _ _ => .ok "Aviso", fun _ _ _ _ => .ok "Aviso"⟩

def accepting (i : Nat) : Turn := ⟨false, i, 0, .addresses [⟨true, false⟩], .response 200⟩

def claims_of (db : NotificationsDb Ring) : List ClaimedSubscription :=
  match DeliverNotificationsUseCase.claim default_deliver (july 2 12).instant db with
  | .ok (_, claims) => claims
  | .error _ => []

theorem claims_of_eq {db : NotificationsDb Ring}
    (h : (DeliverNotificationsUseCase.claim default_deliver (july 2 12).instant db).isOk = true) :
    ∃ db', DeliverNotificationsUseCase.claim default_deliver (july 2 12).instant db =
      .ok (db', claims_of db) := by
  unfold claims_of
  cases hc : DeliverNotificationsUseCase.claim default_deliver (july 2 12).instant db with
  | error e => simp [hc, Except.isOk, Except.toBool] at h
  | ok r => exact ⟨r.1, rfl⟩

end GeoHazard

import GeoHazard.Notifications.Schema

namespace GeoHazard

inductive Action where
  | OPEN | ESCALATE | TOUCH
  deriving DecidableEq

structure OpenEpisode where
  id : Nat
  notified_severity : Nat
  expires_at : Option Timestamptz

def truthy_json : PyJson → Bool
  | .null => false
  | .bool b => b
  | .int n => n != 0
  | .float x => x.val.magnitude != 0
  | .str s => s != ""
  | .arr xs => !xs.isEmpty
  | .obj kvs => !kvs.isEmpty

def attr (name : String) : PyJson → Option PyJson
  | .obj kvs => Dict.get name kvs
  | _ => none

def truthy_attr (name : String) (attrs : PyJson) : Option PyJson :=
  (attr name attrs).filter truthy_json

def py_str {G : Type} (gis : Gis G) : PyJson → String
  | .str s => s
  | v => gis.str v

def phenomenon_code {G : Type} (gis : Gis G) (attrs : PyJson) : String :=
  let raw := ((truthy_attr "phenomenon" attrs).or (truthy_attr "event" attrs)).getD
    (.str "desconocido")
  strip (partition ';' (py_str gis raw)).1

def episode_key {G : Type} (gis : Gis G) (source : Source) (external_id : String) (attrs : PyJson) :
    String :=
  match source with
  | .aemet => "aemet:" ++ phenomenon_code gis attrs
  | _ => source.name ++ ":" ++ external_id

-- in UTC
def datetime_max : Timestamptz := 253402300799999999

def add_timedelta (at_ : Timestamptz) (delta : Nat) : Except PyError Timestamptz :=
  if at_ + delta ≤ datetime_max then .ok (at_ + delta)
  else .error (.overflow_error "date value out of range")

def is_current (episode : Option OpenEpisode) (batch_at : Timestamptz) (grace : Nat) :
    Except PyError Bool :=
  match episode with
  | none => .ok false
  | some e =>
      match e.expires_at with
      | none => .ok true
      | some expires_at => do
          let until_ ← add_timedelta expires_at grace
          .ok (decide (batch_at < until_))

def decide_action (episode : Option OpenEpisode) (severity : Nat) (batch_at : Timestamptz)
    (grace : Nat) : Except PyError Action :=
  match episode with
  | none => .ok .OPEN
  | some e => do
      let current ← is_current (some e) batch_at grace
      .ok (if !current then .OPEN else if e.notified_severity < severity then .ESCALATE else .TOUCH)

-- the sum of is_current is a datetime
def Addable (grace : Nat) (expires_at : Option Timestamptz) : Prop :=
  ∀ x, expires_at = some x → x + grace ≤ datetime_max

section
variable {cur : OpenEpisode} {batch_at : Timestamptz} {grace severity : Nat}

theorem add_timedelta_ok {at_ x : Timestamptz} {delta : Nat} :
    add_timedelta at_ delta = .ok x ↔ at_ + delta ≤ datetime_max ∧ at_ + delta = x := by
  unfold add_timedelta
  split <;> simp_all

theorem is_current_iff {b : Bool} : is_current (some cur) batch_at grace = .ok b ↔
    Addable grace cur.expires_at ∧
      (b = true ↔ ∀ x, cur.expires_at = some x → batch_at < x + grace) := by
  cases hx : cur.expires_at with
  | none => simp [is_current, Addable, hx, eq_comm]
  | some x =>
      simp only [is_current, hx, bind_ok, add_timedelta_ok, Except.ok.injEq, Addable,
        Option.some.injEq, forall_eq']
      constructor
      · rintro ⟨_, ⟨hle, rfl⟩, rfl⟩
        exact ⟨hle, decide_eq_true_iff⟩
      · rintro ⟨hle, hb⟩
        exact ⟨_, ⟨hle, rfl⟩, by rw [Bool.eq_iff_iff, decide_eq_true_iff, hb]⟩

theorem decide_action_iff {action : Action} :
    decide_action (some cur) severity batch_at grace = .ok action ↔
      ∃ b, is_current (some cur) batch_at grace = .ok b ∧
        action = if !b then .OPEN else if cur.notified_severity < severity then .ESCALATE
          else .TOUCH := by
  simp only [decide_action, bind_ok, Except.ok.injEq, @eq_comm _ action]

theorem decide_action_addable {action : Action}
    (h : decide_action (some cur) severity batch_at grace = .ok action) :
    Addable grace cur.expires_at := by
  obtain ⟨b, hb, -⟩ := decide_action_iff.mp h
  exact (is_current_iff.mp hb).1

theorem decide_action_open (h : is_current (some cur) batch_at grace = .ok false) (severity : Nat) :
    decide_action (some cur) severity batch_at grace = .ok .OPEN :=
  decide_action_iff.mpr ⟨false, h, rfl⟩

theorem decide_action_escalate (h : is_current (some cur) batch_at grace = .ok true)
    (hlt : cur.notified_severity < severity) :
    decide_action (some cur) severity batch_at grace = .ok .ESCALATE :=
  decide_action_iff.mpr ⟨true, h, by simp [hlt]⟩

theorem decide_action_touch (h : is_current (some cur) batch_at grace = .ok true)
    (hle : severity ≤ cur.notified_severity) :
    decide_action (some cur) severity batch_at grace = .ok .TOUCH :=
  decide_action_iff.mpr ⟨true, h, by simp [not_lt.mpr hle]⟩

theorem decide_action_lower (h : decide_action (some cur) severity batch_at grace = .ok .TOUCH) :
    severity ≤ cur.notified_severity := by
  obtain ⟨b, -, ha⟩ := decide_action_iff.mp h
  grind

theorem decide_action_higher
    (h : decide_action (some cur) severity batch_at grace = .ok .ESCALATE) :
    cur.notified_severity < severity := by
  obtain ⟨b, -, ha⟩ := decide_action_iff.mp h
  grind

end

def is_aemet_key (key : String) : Bool := key.toList.take 6 == "aemet:".toList

theorem is_aemet_key_episode_key {G : Type} (gis : Gis G) (source : Source) (external_id : String)
    (attrs : PyJson) :
    is_aemet_key (episode_key gis source external_id attrs) = decide (source = .aemet) := by
  cases source with
  | aemet => simp [is_aemet_key, episode_key]
  | ign =>
      simp [is_aemet_key, episode_key, Source.name]
  | effis => simp [is_aemet_key, episode_key, Source.name]

end GeoHazard

import GeoHazard.Notifications.RecordPositions

namespace GeoHazard.Sessions
open ReadCommitted DeliveryRepo

variable {G : Type}

inductive Operator where
  | pause | resume
  deriving DecidableEq

namespace Operator

def command (S : Nat) : Operator → Command G
  | .pause => .pause S
  | .resume => .resume S

def read (S : Nat) : Operator → Statement G
  | .pause => .get_paused S
  | .resume => .get_resumed S

def change : Operator → Subscription → Subscription
  | .pause => SubscriptionAdmin.paused
  | .resume => SubscriptionAdmin.resumed

-- what follows the UPDATE of the row
def finishing (S : Nat) : Operator → List (Statement G)
  | .pause => [.fail_pending S]
  | .resume => []

def apply (S : Nat) (op : Operator) (db : NotificationsDb G) : NotificationsDb G :=
  match op with
  | .pause => fail_pending S (SubscriptionAdmin.write S SubscriptionAdmin.paused db)
  | .resume => SubscriptionAdmin.write S SubscriptionAdmin.resumed db

theorem change_orm (op : Operator) (r : Subscription) :
    orm_update r (op.change r) r = op.change r := by
  cases op <;> exact orm_update_self rfl

theorem change_keeps (op : Operator) : Keeps op.change := by
  cases op <;> exact fun _ => rfl

variable {gis : Gis G} {match_settings : MatchSettings} {settings : DeliverSettings}
  {db : NotificationsDb G} {S : Nat} {r : Subscription}

theorem get_found (h : Table.find Subscription.id S db.subscriptions = some r) :
    SubscriptionAdmin.get S db = .ok r := by
  simp only [SubscriptionAdmin.get, h]

theorem perform_read (op : Operator)
    (h : Table.find Subscription.id S db.subscriptions = some r) :
    (op.read S).perform gis match_settings settings db =
      .ok ([], edits r (op.change r) ++ op.finishing S) := by
  have hget := get_found h
  cases op with
  | pause => simp only [read, Statement.perform, hget, bind, Except.bind, change, finishing]
  | resume =>
      simp only [read, Statement.perform, hget, bind, Except.bind, change, finishing,
        List.append_nil]

theorem execute_ok (op : Operator)
    (h : Table.find Subscription.id S db.subscriptions = some r) :
    (op.command S).execute gis match_settings settings db = .ok (op.apply S db) := by
  have hget := get_found h
  cases op with
  | pause =>
      simp only [command, Command.execute, SubscriptionAdmin.pause, hget, bind, Except.bind, apply]
  | resume =>
      simp only [command, Command.execute, SubscriptionAdmin.resume, hget, bind, Except.bind, apply]

theorem serial (op : Operator) (hk : Keyed db)
    (h : Table.find Subscription.id S db.subscriptions = some r) :
    Serial gis match_settings settings db [op.read S] (op.apply S db) := by
  have hexecute := @execute_ok G gis match_settings settings db S r op h
  cases op with
  | pause => exact pause_serial hk.subscriptions hexecute
  | resume => exact resume_serial hk.subscriptions hexecute

end Operator

namespace Recording

variable (R : Recording G) (op : Operator)

def update : Subscription → Subscription := orm_update R.row (op.change R.row)

-- how far the command has come, while what it started from is still what is committed
inductive Operated : List (Write G) → List (Statement G) → Prop
  | unread : Operated [] [op.read R.S]
  | read : op.change R.row ≠ R.row → Operated [] (.update R.S (R.update op) :: op.finishing R.S)
  | updated : op.change R.row ≠ R.row →
      Operated [.updated R.S (R.update op)] (op.finishing R.S)
  | dropped : op.change R.row ≠ R.row → op = .pause →
      Operated [.updated R.S (R.update op), .failed R.S R.T] []
  | same : op.change R.row = R.row → Operated [] (op.finishing R.S)
  | same_dropped : op.change R.row = R.row → op = .pause → Operated [.failed R.S R.T] []

variable {R op}

theorem finishing_inv {p : Statement G} {todo : List (Statement G)}
    (h : p :: todo = op.finishing R.S) : op = .pause ∧ p = .fail_pending R.S ∧ todo = [] := by
  cases op with
  | pause =>
      obtain ⟨rfl, rfl⟩ := List.cons.inj h
      exact ⟨rfl, rfl, rfl⟩
  | resume => simp [Operator.finishing] at h

theorem Operated.step {writes ws : List (Write G)} {p : Statement G} {todo ps : List (Statement G)}
    (h : R.Operated op writes (p :: todo))
    (hp : R.engine.perform p (view R.db writes) = .ok (ws, ps)) :
    R.Operated op (writes ++ ws) (ps ++ todo) := by
  generalize ht : p :: todo = t at h
  cases h with
  | unread =>
      obtain ⟨rfl, rfl⟩ := List.cons.inj ht
      have hread := (op.perform_read R.found).symm.trans hp
      obtain ⟨rfl, rfl⟩ := Prod.mk.inj (Except.ok.inj hread)
      simp only [List.append_nil, edits]
      split
      · next heq => exact .same heq
      · next hne => exact row_id ▸ .read hne
  | read hne =>
      obtain ⟨rfl, rfl⟩ := List.cons.inj ht
      cases hp
      exact .updated hne
  | updated hne =>
      obtain ⟨rfl, rfl, rfl⟩ := finishing_inv ht
      cases hp
      exact .dropped hne rfl
  | dropped _ _ => simp at ht
  | same heq =>
      obtain ⟨rfl, rfl, rfl⟩ := finishing_inv ht
      cases hp
      exact .same_dropped heq rfl
  | same_dropped _ _ => simp at ht

theorem operated_of_trace {N : Statement G → Prop} {writes : List (Write G)}
    {todo : List (Statement G)} (h : Trace R.engine N R.db [op.read R.S] writes todo) :
    R.Operated op writes todo := by
  induction h with
  | start => exact .unread
  | next _ _ hp ih => exact ih.step hp

theorem update_keeps : Keeps (R.update op) := orm_update_keeps _ _

theorem view_updated (S : Nat) (g : Subscription → Subscription) (db : NotificationsDb G) :
    view db [.updated S g] = touched S g [] db := by
  have hd : Table.update (fun d => decide (d.id ∈ ([] : List Nat)) && is_pending_of S d) dropped
      db.deliveries = db.deliveries := Table.update_eq_self (by simp)
  exact congrArg (fun deliveries => { SubscriptionAdmin.write S g db with
    deliveries := deliveries }) hd.symm

theorem view_failed (S : Nat) (T : List Nat) (db : NotificationsDb G) :
    view db [.failed S T] = touched S id T db := by
  have hs : Table.update (fun s => decide (s.id = S)) id db.subscriptions = db.subscriptions := by
    simp [Table.update]
  exact congrArg (fun subscriptions => { Write.apply db (.failed S T) with
    subscriptions := subscriptions }) hs.symm

theorem wrote_updated {S : Nat} {g : Subscription → Subscription} (hg : Keeps g) :
    Wrote S g [] ([.updated S g] : List (Write G)) :=
  ⟨view_updated S g, hg, .inr (by simp), .inl rfl⟩

theorem wrote_dropped {S : Nat} {g : Subscription → Subscription} (hg : Keeps g) (T : List Nat) :
    Wrote S g T ([.updated S g, .failed S T] : List (Write G)) :=
  ⟨fun _ => rfl, hg, .inr (by simp), .inr (by simp)⟩

theorem wrote_failed (S : Nat) (T : List Nat) : Wrote S id T ([.failed S T] : List (Write G)) :=
  ⟨view_failed S T, fun _ => rfl, .inl rfl, .inr (by simp)⟩

end Recording

end GeoHazard.Sessions

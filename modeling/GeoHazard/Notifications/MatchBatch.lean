import GeoHazard.Notifications.Matching
import GeoHazard.Notifications.EpisodeRepo

namespace GeoHazard

-- microseconds; the settings are in seconds
structure MatchSettings where
  quake_max_age : Nat
  grace : Nat

structure Group where
  severity : Nat
  expires_at : Option Timestamptz
  matches_ : List Match

def MAX_ITEMS_PER_DELIVERY : Nat := 20

namespace MatchBatchUseCase

variable {G : Type} (gis : Gis G) (settings : MatchSettings)

def feature (m : Match) : PyJson :=
  .obj [("type", .str "Feature"), ("id", .str (toString m.event_id)), ("geometry", m.geometry),
    ("properties", .obj [("source", .str m.source.name),
      ("hazard_type", .str m.hazard_type.name), ("severity", .int m.severity.val),
      ("starts_at", .str (gis.isoformat m.starts_at)),
      ("ends_at", match m.ends_at with
        | none => .null
        | some ends_at => .str (gis.isoformat ends_at)),
      ("external_id", .str m.external_id), ("attrs", m.attrs)])]

abbrev Groups := List ((Nat × String) × Group)

def slot_of (m : Match) : Nat × String :=
  (m.subscription_id, episode_key gis m.source m.external_id m.attrs)

def grown (g : Group) (m : Match) : Group where
  severity := max g.severity m.severity.val
  matches_ := g.matches_ ++ [m]
  expires_at :=
    match m.source, m.ends_at with
    | .aemet, some ends_at => some (max (g.expires_at.getD ends_at) ends_at)
    | _, _ => g.expires_at

def add_match (groups : Groups) (m : Match) : Groups :=
  Dict.set (slot_of gis m) (grown ((Dict.get (slot_of gis m) groups).getD ⟨0, none, []⟩) m) groups

def group (ms : List Match) : Groups := ms.foldl (add_match gis) []

def add_delivery (slot : Nat × String) (episode_id : Nat) (reason : Reason) (g : Group)
    (now : Timestamptz) (db : NotificationsDb G) : NotificationsDb G × Bool :=
  EpisodeRepo.add_delivery slot.1 episode_id g.severity reason
    ((g.matches_.take MAX_ITEMS_PER_DELIVERY).map (feature gis)) g.matches_.length now db

-- the body of the loop over the groups; the flag tells whether add_delivery created a row
def match_group (batch_at now : Timestamptz) (current : Option OpenEpisode) (slot : Nat × String)
    (g : Group) (db : NotificationsDb G) : Except PyError (NotificationsDb G × Bool) := do
  let action ← decide_action current g.severity batch_at settings.grace
  match action, current with
  | .TOUCH, some cur =>
      .ok (EpisodeRepo.refresh cur.id cur.notified_severity g.expires_at batch_at db, false)
  | .ESCALATE, some cur =>
      .ok (add_delivery gis slot cur.id .escalated g now
        (EpisodeRepo.refresh cur.id g.severity g.expires_at batch_at db))
  | action, current => do
      let db := match current with
        | some cur => EpisodeRepo.close cur.id batch_at db
        | none => db
      let (db, episode_id) ← EpisodeRepo.open_ slot g.severity g.expires_at batch_at db
      .ok (add_delivery gis slot episode_id (if action = .ESCALATE then .escalated else .opened) g
        now db)

def match_groups (batch_at now : Timestamptz) (open_episodes : List ((Nat × String) × OpenEpisode)) :
    Groups → NotificationsDb G → Except PyError (NotificationsDb G × Groups)
  | [], db => .ok (db, [])
  | (slot, g) :: groups, db => do
      let (db, created) ←
        match_group gis settings batch_at now (Dict.get slot open_episodes) slot g db
      let (db, rest) ← match_groups batch_at now open_episodes groups db
      .ok (db, if created then (slot, g) :: rest else rest)

def groups_of (source : Source) (batch_at : Timestamptz) (events : List (HazardEvent G))
    (db : NotificationsDb G) : Groups :=
  if MatchingRepo.has_active_subscriptions db then
    group gis (MatchingRepo.matches_ gis source batch_at settings.quake_max_age events db)
  else []

-- the groups whose delivery was created; their number is what execute returns
def execute_groups (source : Source) (batch_at now : Timestamptz) (events : List (HazardEvent G))
    (db : NotificationsDb G) : Except PyError (NotificationsDb G × Groups) := do
  let groups := groups_of gis settings source batch_at events db
  let open_episodes ← EpisodeRepo.open_episodes (Dict.keys groups) db
  match_groups gis settings batch_at now open_episodes groups db

def execute (source : Source) (batch_at now : Timestamptz) (events : List (HazardEvent G))
    (db : NotificationsDb G) : Except PyError (NotificationsDb G × Nat) := do
  let (db, created) ← execute_groups gis settings source batch_at now events db
  .ok (db, created.length)

variable {gis settings} {batch_at now : Timestamptz} {current : Option OpenEpisode}
  {slot : Nat × String} {g : Group} {db : NotificationsDb G}

def vacated (batch_at : Timestamptz) (current : Option OpenEpisode) (db : NotificationsDb G) :
    NotificationsDb G :=
  match current with
  | some cur => EpisodeRepo.close cur.id batch_at db
  | none => db

theorem match_group_touch {cur : OpenEpisode}
    (h : decide_action (some cur) g.severity batch_at settings.grace = .ok .TOUCH) :
    match_group gis settings batch_at now (some cur) slot g db =
      .ok (EpisodeRepo.refresh cur.id cur.notified_severity g.expires_at batch_at db, false) := by
  simp only [match_group, h]
  rfl

theorem match_group_escalate {cur : OpenEpisode}
    (h : decide_action (some cur) g.severity batch_at settings.grace = .ok .ESCALATE) :
    match_group gis settings batch_at now (some cur) slot g db =
      .ok (add_delivery gis slot cur.id .escalated g now
        (EpisodeRepo.refresh cur.id g.severity g.expires_at batch_at db)) := by
  simp only [match_group, h]
  rfl

theorem match_group_open (h : decide_action current g.severity batch_at settings.grace = .ok .OPEN) :
    match_group gis settings batch_at now current slot g db =
      (EpisodeRepo.open_ slot g.severity g.expires_at batch_at (vacated batch_at current db) >>=
        fun p => .ok (add_delivery gis slot p.2 .opened g now p.1)) := by
  simp only [match_group, h]
  cases current <;> rfl

theorem match_group_cases {r : NotificationsDb G × Bool}
    (h : match_group gis settings batch_at now current slot g db = .ok r) :
    (∃ cur, current = some cur ∧
      decide_action (some cur) g.severity batch_at settings.grace = .ok .TOUCH ∧
      r = (EpisodeRepo.refresh cur.id cur.notified_severity g.expires_at batch_at db, false)) ∨
    (∃ cur, current = some cur ∧
      decide_action (some cur) g.severity batch_at settings.grace = .ok .ESCALATE ∧
      r = add_delivery gis slot cur.id .escalated g now
        (EpisodeRepo.refresh cur.id g.severity g.expires_at batch_at db)) ∨
    ∃ p, decide_action current g.severity batch_at settings.grace = .ok .OPEN ∧
      EpisodeRepo.open_ slot g.severity g.expires_at batch_at (vacated batch_at current db) = .ok p ∧
      r = add_delivery gis slot p.2 .opened g now p.1 := by
  obtain ⟨action, hact, -⟩ := bind_ok.mp h
  have hopen : decide_action current g.severity batch_at settings.grace = .ok .OPEN →
      ∃ p, decide_action current g.severity batch_at settings.grace = .ok .OPEN ∧
        EpisodeRepo.open_ slot g.severity g.expires_at batch_at (vacated batch_at current db) =
          .ok p ∧ r = add_delivery gis slot p.2 .opened g now p.1 := by
    intro ha
    obtain ⟨p, hp, hr⟩ := bind_ok.mp ((match_group_open ha).symm.trans h)
    exact ⟨p, ha, hp, (Except.ok.inj hr).symm⟩
  cases current with
  | none => exact .inr (.inr (hopen rfl))
  | some cur =>
      cases action with
      | TOUCH =>
          exact .inl ⟨cur, rfl, hact, (Except.ok.inj ((match_group_touch hact).symm.trans h)).symm⟩
      | ESCALATE =>
          exact .inr (.inl ⟨cur, rfl, hact,
            (Except.ok.inj ((match_group_escalate hact).symm.trans h)).symm⟩)
      | OPEN => exact .inr (.inr (hopen hact))

theorem execute_groups_iff {source : Source} {events : List (HazardEvent G)}
    {r : NotificationsDb G × Groups} :
    execute_groups gis settings source batch_at now events db = .ok r ↔
      2 * (groups_of gis settings source batch_at events db).length ≤ 32767 ∧
        match_groups gis settings batch_at now
          (EpisodeRepo.open_rows (Dict.keys (groups_of gis settings source batch_at events db)) db)
          (groups_of gis settings source batch_at events db) db = .ok r := by
  simp only [execute_groups, bind_ok, EpisodeRepo.open_episodes_iff, Dict.keys, List.length_map]
  constructor
  · rintro ⟨_, ⟨hn, rfl⟩, hr⟩
    exact ⟨hn, hr⟩
  · rintro ⟨hn, hr⟩
    exact ⟨_, ⟨hn, rfl⟩, hr⟩

end MatchBatchUseCase

end GeoHazard

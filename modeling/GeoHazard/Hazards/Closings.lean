import GeoHazard.Hazards.AemetLifecycle

namespace GeoHazard

open HazardEventRepo

variable {G : Type} {env : Env G}

-- the rows of a run between its upsert and its closing passes
def SyncAction.upserted (env : Env G) (db : Db G) : SyncAction → Rows G
  | .committed tx fetched =>
      match fetched.rows env with
      | .ok rows => HazardEventRepo.upserted env tx rows db.hazard_events
      | .error _ => db.hazard_events
  | _ => db.hazard_events

-- the closing passes of a run have left the row closed at x
def Closes (env : Env G) (db : Db G) (a : SyncAction) (db' : Db G) (k : Source × String)
    (x : Timestamptz) : Prop :=
  ∃ e, Table.find HazardEvent.key k db'.hazard_events = some e ∧ e.ends_at = some x ∧
    Table.find HazardEvent.key k (a.upserted env db) ≠ some e

-- the upsert of a run has written the row, so that its ends_at is the served one again
def Reopens (env : Env G) (db : Db G) (a : SyncAction) (k : Source × String) : Prop :=
  Table.find HazardEvent.key k (a.upserted env db) ≠ Table.find HazardEvent.key k db.hazard_events

-- a run of the history has closed the row at x, and no later run has closed it again or reopened it
inductive ClosedAt (env : Env G) : List SyncAction → Db G → Source × String → Timestamptz → Prop
  | closed {as : List SyncAction} {a : SyncAction} {db db' : Db G} {k : Source × String}
      {x : Timestamptz} (hr : SyncRun env (Db.empty G) as db) (hs : SyncStep env db a db')
      (hc : Closes env db a db' k x) : ClosedAt env (as ++ [a]) db' k x
  | kept {as : List SyncAction} {a : SyncAction} {db db' : Db G} {k : Source × String}
      {x : Timestamptz} (h : ClosedAt env as db k x) (hs : SyncStep env db a db')
      (hno : ¬ Reopens env db a k) (hc : ∀ y, ¬ Closes env db a db' k y) :
      ClosedAt env (as ++ [a]) db' k x

-- a closing pass leaves a row as it is or gives it the instant of one of its closures
def Closing (k : Source × String) (instants : Timestamptz → Prop) (t t' : Rows G) : Prop :=
  Table.find HazardEvent.key k t' = Table.find HazardEvent.key k t ∨
    ∃ e x, Table.find HazardEvent.key k t' = some e ∧ e.ends_at = some x ∧ instants x

theorem Closing.trans {k : Source × String} {p q : Timestamptz → Prop} {t u v : Rows G}
    (h : Closing k p t u) (h' : Closing k q u v) : Closing k (fun x => p x ∨ q x) t v := by
  rcases h' with heq | ⟨e, x, he, hx, hq⟩
  · rcases h with heq' | ⟨e, x, he, hx, hp⟩
    · exact .inl (heq.trans heq')
    · exact .inr ⟨e, x, heq.trans he, hx, .inl hp⟩
  · exact .inr ⟨e, x, he, hx, .inr hq⟩

theorem Closing.mono {k : Source × String} {p q : Timestamptz → Prop} {t u : Rows G}
    (h : Closing k p t u) (hpq : ∀ x, p x → q x) : Closing k q t u :=
  h.imp id (fun ⟨e, x, he, hx, hp⟩ => ⟨e, x, he, hx, hpq x hp⟩)

theorem closed_rows_closing {tx : Tx} {source : Source} {ids : List String}
    {ended_at : Timestamptz} (k : Source × String) (t : Rows G) :
    Closing k (fun x => k.1 = source ∧ k.2 ∈ ids ∧ x = ended_at) t
      (closed_rows tx source ids ended_at t).1 := by
  rw [Closing, find_closed_rows]
  cases hf : Table.find HazardEvent.key k t with
  | none => exact .inl rfl
  | some e =>
      have hek := (Table.find_some_mem hf).2
      by_cases ho : open_after source ids ended_at e = true
      · have hmem := ho
        simp only [open_after, Bool.and_eq_true, decide_eq_true_eq] at hmem
        refine .inr ⟨_, ended_at, rfl, by simp [ho, HazardEvent.closed], ?_, ?_, rfl⟩
        · exact (congrArg Prod.fst hek).symm.trans hmem.1.1
        · exact (congrArg Prod.snd hek) ▸ hmem.1.2
      · exact .inl (by simp [ho])

theorem closed_groups_closing {tx : Tx} {groups : List (Timestamptz × List String)}
    (k : Source × String) (t : Rows G) :
    Closing k (fun x => ∃ g ∈ groups, k.2 ∈ g.2 ∧ x = g.1) t
      (SyncAemetUseCase.closed_groups tx groups t).1 := by
  induction groups generalizing t with
  | nil => exact .inl rfl
  | cons g groups ih =>
      refine ((closed_rows_closing k t).trans (ih _)).mono (fun x hx => ?_)
      rcases hx with ⟨_, hid, rfl⟩ | ⟨g', hg, hid, rfl⟩
      · exact ⟨g, by simp, hid, rfl⟩
      · exact ⟨g', List.mem_cons_of_mem _ hg, hid, rfl⟩

-- when the closing of a run takes effect: its mark, or the sent of a message that references the row
def ClosingInstant (a : SyncAction) (k : Source × String) (x : Timestamptz) : Prop :=
  match a with
  | .committed tx (.aemet warnings) =>
      x = tx.mark ∨ ∃ m ∈ warnings, SyncAemetUseCase.Supersedes m k.2 ∧ x = m.sent.instant
  | .committed tx (.effis _ _) => x = tx.mark
  | _ => False

theorem SyncStep.closing {db db' : Db G} {a : SyncAction} (hs : SyncStep env db a db')
    (k : Source × String) :
    Closing k (ClosingInstant a k) (a.upserted env db) db'.hazard_events := by
  cases hs with
  | @committed tx fetched _ _ result hx =>
      cases fetched with
      | effis hotspots burnt_areas =>
          obtain ⟨rows, hr, ht, _⟩ := SyncEffisUseCase.execute_ok hx
          have hup : (SyncAction.committed tx (.effis hotspots burnt_areas)).upserted env db =
              HazardEventRepo.upserted env tx rows db.hazard_events := by
            simp [SyncAction.upserted, Fetched.rows, hr]
          rw [hup, ht, SyncEffisUseCase.closed_vanished]
          exact (closed_rows_closing k _).mono (fun x hx => hx.2.2)
      | ign records =>
          obtain ⟨ht, _⟩ := SyncIgnUseCase.execute_ok hx
          exact .inl (by rw [ht]; rfl)
      | aemet warnings =>
          obtain ⟨rows, hr, ht, _⟩ := SyncAemetUseCase.execute_ok hx
          have hup : (SyncAction.committed tx (.aemet warnings)).upserted env db =
              HazardEventRepo.upserted env tx rows db.hazard_events := by
            simp [SyncAction.upserted, Fetched.rows, hr]
          rw [hup, ht, SyncAemetUseCase.closed_vanished]
          refine ((closed_groups_closing k _).trans (closed_rows_closing k _)).mono (fun x hx => ?_)
          rcases hx with ⟨g, hg, hid, rfl⟩ | ⟨_, _, rfl⟩
          · obtain ⟨m, hm, hsup, hsent⟩ := SyncAemetUseCase.mem_by_sent.mp ⟨g.2, hg, hid⟩
            exact .inr ⟨m, hm, hsup, hsent.symm⟩
          · exact .inl rfl
  | rolled_back => exact .inl rfl
  | failed => exact .inl rfl

theorem Closes.instant {db db' : Db G} {a : SyncAction} {k : Source × String} {x : Timestamptz}
    (h : Closes env db a db' k x) (hs : SyncStep env db a db') : ClosingInstant a k x := by
  obtain ⟨e, he, hx, hne⟩ := h
  rcases hs.closing k with heq | ⟨e', x', he', hx', hi⟩
  · exact absurd (heq.symm.trans he) hne
  · obtain rfl := Option.some.inj (he.symm.trans he')
    exact Option.some.inj (hx.symm.trans hx') ▸ hi

theorem ClosedAt.run {as : List SyncAction} {db : Db G} {k : Source × String} {x : Timestamptz}
    (h : ClosedAt env as db k x) : SyncRun env (Db.empty G) as db := by
  induction h with
  | closed hr hs _ => exact .snoc hr hs
  | kept _ hs _ _ ih => exact .snoc ih hs

theorem ClosedAt.ends_at {as : List SyncAction} {db : Db G} {k : Source × String} {x : Timestamptz}
    (h : ClosedAt env as db k x) :
    ∃ e, Table.find HazardEvent.key k db.hazard_events = some e ∧ e.ends_at = some x := by
  induction h with
  | closed _ _ hc =>
      obtain ⟨e, he, hx, _⟩ := hc
      exact ⟨e, he, hx⟩
  | @kept as a db db' k x _ hs hno hc ih =>
      obtain ⟨e, he, hx⟩ := ih
      have hup : Table.find HazardEvent.key k (a.upserted env db) = some e :=
        (not_not.mp hno).trans he
      rcases hs.closing k with heq | ⟨e', x', he', hx', _⟩
      · exact ⟨e, heq.trans hup, hx⟩
      · by_cases hsame : Table.find HazardEvent.key k (a.upserted env db) = some e'
        · obtain rfl := Option.some.inj (hup.symm.trans hsame)
          exact ⟨e, he', hx⟩
        · exact absurd ⟨e', he', hx', hsame⟩ (hc x')

end GeoHazard

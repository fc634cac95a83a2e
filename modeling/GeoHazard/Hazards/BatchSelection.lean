import GeoHazard.Hazards.ReferenceEnv

namespace GeoHazard

variable {G : Type} {env : Env G} {tx : Tx}

def Selected (batch_at : Timestamptz) (e : HazardEvent G) : Prop :=
  e.created_at = batch_at ∨ e.updated_at = some batch_at

instance (batch_at : Timestamptz) (e : HazardEvent G) : Decidable (Selected batch_at e) :=
  inferInstanceAs (Decidable (_ ∨ _))

def raw_batch_at : PyJson → Option String
  | .obj kvs =>
      match Dict.get "batch_at" kvs with
      | some (.str s) => some s
      | _ => none
  | _ => none

def batch_at_of (payload : PyJson) : Option Datetime :=
  (raw_batch_at payload).bind Datetime.fromisoformat

theorem batch_at_of_batch_payload {source : Source} {batch_at : Datetime}
    {counts : List (String × Nat)} (h : "batch_at" ∉ Dict.keys counts) :
    batch_at_of (batch_payload source batch_at counts) = some batch_at := by
  have hc : Dict.get "batch_at"
      (counts.map (fun c => (c.1, (Json.int c.2 : PyJson)))) = none := by
    rw [Dict.get_eq_none]
    simpa [Dict.keys, List.map_map] using h
  simp [batch_at_of, raw_batch_at, batch_payload, Dict.get, Dict.get_append, hc,
    Datetime.fromisoformat_isoformat]

def InsertedBy (db db' : Db G) (k : Source × String) : Prop :=
  Table.find HazardEvent.key k db.hazard_events = none ∧
    Table.find HazardEvent.key k db'.hazard_events ≠ none

-- what the database and its clock promise about a history
structure Clocked (as : List SyncAction) : Prop where
  distinct_marks : ∀ source, (marks source as).Nodup
  distinct_xids : (xids as).Nodup

theorem nodup_middle {α : Type} {xs ys : List α} {x : α} (h : (xs ++ ([x] ++ ys)).Nodup) :
    x ∉ xs ∧ x ∉ ys := by
  simp only [List.singleton_append, List.nodup_middle, List.nodup_cons, List.mem_append,
    not_or] at h
  exact h.1

theorem Clocked.fresh_mark {as bs : List SyncAction} {tx : Tx} {fetched : Fetched}
    (h : Clocked (as ++ ([.committed tx fetched] ++ bs))) :
    tx.mark ∉ marks fetched.source as ∧ tx.mark ∉ marks fetched.source bs := by
  have hd := h.distinct_marks fetched.source
  rw [marks_append, marks_append, marks_committed tx rfl] at hd
  exact nodup_middle hd

theorem Clocked.fresh_xid {as bs : List SyncAction} {tx : Tx} {fetched : Fetched}
    (h : Clocked (as ++ ([.committed tx fetched] ++ bs))) : tx.xid ∉ xids as ∧ tx.xid ∉ xids bs := by
  have hd := h.distinct_xids
  rw [xids_append, xids_append] at hd
  exact nodup_middle hd

-- the rows carry marks of earlier runs of their own source, and transactions that committed
def Stamped (as : List SyncAction) (e : HazardEvent G) : Prop :=
  e.created_at ∈ marks e.source as ∧ (∀ u, e.updated_at = some u → u ∈ marks e.source as) ∧
    e.xmin ∈ xids as

theorem Stamped.append {as : List SyncAction} {e : HazardEvent G} (h : Stamped as e)
    (bs : List SyncAction) : Stamped (as ++ bs) e := by
  refine ⟨?_, fun u hu => ?_, ?_⟩
  · rw [marks_append]
    exact List.mem_append_left _ h.1
  · rw [marks_append]
    exact List.mem_append_left _ (h.2.1 u hu)
  · rw [xids_append]
    exact List.mem_append_left _ h.2.2

theorem Change.source_of_new {tx : Tx} {source : Source} {t t' : HazardEventRepo.Rows G}
    (h : Change tx source t t') {k : Source × String} {e : HazardEvent G}
    (he : Table.find HazardEvent.key k t' = some e)
    (hne : Table.find HazardEvent.key k t ≠ some e) : e.source = source := by
  have hk : e.source = k.1 := congrArg Prod.fst (Table.find_some_mem he).2
  rw [hk]
  by_contra hs
  exact hne ((h.others k hs).symm.trans he)

def AllStamped (as : List SyncAction) (db : Db G) : Prop :=
  ∀ k e, Table.find HazardEvent.key k db.hazard_events = some e → Stamped as e

theorem AllStamped.step {as : List SyncAction} {db db' : Db G} {a : SyncAction}
    (h : AllStamped as db) (hs : SyncStep env db a db') : AllStamped (as ++ [a]) db' := by
  intro k e he
  rcases hs.change with ht | ⟨tx, fetched, rfl, hc⟩
  · rw [ht] at he
    exact (h k e he).append _
  · have hr := hc.row k
    have hmark : tx.mark ∈ marks fetched.source (as ++ [.committed tx fetched]) := by
      simp [marks_append, marks_committed]
    have hxid : tx.xid ∈ xids (as ++ [.committed tx fetched]) := by
      simp [xids]
    by_cases hnew : Table.find HazardEvent.key k db.hazard_events = some e
    · exact (h k e hnew).append _
    · have hsrc := hc.source_of_new he hnew
      rw [he] at hr
      generalize ho : Table.find HazardEvent.key k db.hazard_events = o at hr hnew
      cases hr with
      | kept => exact absurd rfl hnew
      | inserted _ hx hcr hup =>
          refine ⟨by rwa [hcr, hsrc], fun u hu => ?_, hx ▸ hxid⟩
          rcases hup with hup | hup
          · simp [hup] at hu
          · rw [hup] at hu
            rwa [← Option.some.inj hu, hsrc]
      | rewritten old _ hx hcr hup =>
          have hold := (h k old ho).append [.committed tx fetched]
          have hk : old.source = e.source :=
            congrArg Prod.fst
              ((Table.find_some_mem ho).2.trans (Table.find_some_mem he).2.symm)
          refine ⟨hcr ▸ hk ▸ hold.1, fun u hu => ?_, hx ▸ hxid⟩
          rw [hup] at hu
          rwa [← Option.some.inj hu, hsrc]

theorem SyncRun.allStamped {db : Db G} {as : List SyncAction} (h : SyncRun env (Db.empty G) as db) :
    AllStamped as db :=
  Transition.Run.history (I := AllStamped) (fun _ _ _ _ hi hs => hi.step hs) h
    (fun k e he => by simp [Db.empty, Table.find] at he)

theorem Stamped.not_selected {as : List SyncAction} {e : HazardEvent G} (h : Stamped as e)
    {b : Timestamptz} (hb : b ∉ marks e.source as) : ¬ Selected b e := by
  rintro (hc | hu)
  · exact hb (hc ▸ h.1)
  · exact hb (h.2.1 b hu)

-- what distinguishes, at any later time, the rows of the batch b of a source
structure BatchRow (b : Timestamptz) (xid : Nat) (db db' : Db G) (k : Source × String)
    (e : HazardEvent G) : Prop where
  created : e.created_at = b ↔ InsertedBy db db' k
  updated : e.updated_at = some b → e.xmin = xid
  written : e.xmin = xid → Selected b e

theorem BatchRow.selected {b : Timestamptz} {xid : Nat} {db db' : Db G} {k : Source × String}
    {e : HazardEvent G} (h : BatchRow b xid db db' k e) :
    Selected b e ↔ InsertedBy db db' k ∨ e.xmin = xid := by
  constructor
  · rintro (hc | hu)
    · exact .inl (h.created.mp hc)
    · exact .inr (h.updated hu)
  · rintro (hi | hx)
    · exact .inl (h.created.mpr hi)
    · exact h.written hx

def BatchRows (source : Source) (b : Timestamptz) (xid : Nat) (db db' db'' : Db G) : Prop :=
  (∀ k, Table.find HazardEvent.key k db'.hazard_events ≠ none →
    Table.find HazardEvent.key k db''.hazard_events ≠ none) ∧
  ∀ k e, Table.find HazardEvent.key k db''.hazard_events = some e → k.1 = source →
    BatchRow b xid db db' k e

theorem BatchRows.self {as : List SyncAction} {db db' : Db G} {tx : Tx} {fetched : Fetched}
    (h : AllStamped as db) (hb : tx.mark ∉ marks fetched.source as) (hxid : tx.xid ∉ xids as)
    (hc : Change tx fetched.source db.hazard_events db'.hazard_events) :
    BatchRows fetched.source tx.mark tx.xid db db' db' := by
  refine ⟨fun _ hk => hk, fun k e he hk => ?_⟩
  have hr := hc.row k
  have hold : ∀ old, Table.find HazardEvent.key k db.hazard_events = some old →
      ¬ Selected tx.mark old ∧ old.xmin ≠ tx.xid := by
    intro old ho
    have hst := h k old ho
    have hs : old.source = fetched.source :=
      (congrArg Prod.fst (Table.find_some_mem ho).2).trans hk
    exact ⟨hst.not_selected (hs ▸ hb), fun hx => hxid (hx ▸ hst.2.2)⟩
  have hins : ∀ old, Table.find HazardEvent.key k db.hazard_events = some old →
      ¬ InsertedBy db db' k := fun old ho hi => by simp [InsertedBy, ho] at hi
  rw [he] at hr
  generalize ho : Table.find HazardEvent.key k db.hazard_events = o at hr
  cases hr with
  | kept =>
      obtain ⟨hns, hnx⟩ := hold e ho
      exact ⟨⟨fun hcr => absurd (.inl hcr) hns, fun hi => absurd hi (hins e ho)⟩,
        fun hu => absurd (.inr hu) hns, fun hx => absurd hx hnx⟩
  | inserted _ hx hcr hup =>
      exact ⟨⟨fun _ => ⟨ho, by simp [he]⟩, fun _ => hcr⟩, fun _ => hx, fun _ => .inl hcr⟩
  | rewritten old _ hx hcr hup =>
      have hns := (hold old ho).1
      exact ⟨⟨fun hc' => absurd (.inl (hcr ▸ hc')) hns, fun hi => absurd hi (hins old ho)⟩,
        fun _ => hx, fun _ => .inr hup⟩

theorem BatchRows.step {source : Source} {b : Timestamptz} {xid : Nat} {db db' db'' db₃ : Db G}
    {a : SyncAction} (h : BatchRows source b xid db db' db'') (hs : SyncStep env db'' a db₃)
    (hmark : b ∉ marks source [a]) (hxid : xid ∉ xids [a]) :
    BatchRows source b xid db db' db₃ := by
  rcases hs.change with ht | ⟨tx, fetched, rfl, hc⟩
  · simpa only [BatchRows, ht] using h
  · refine ⟨fun k hk hn => ?_, fun k e he hk => ?_⟩
    · have hr := hc.row k
      rw [hn] at hr
      generalize ho : Table.find HazardEvent.key k db''.hazard_events = o at hr
      cases hr with
      | kept => exact h.1 k hk ho
    · by_cases hsrc : fetched.source = source
      · have hb : tx.mark ≠ b := by simpa [marks_committed tx hsrc, eq_comm] using hmark
        have hx' : tx.xid ≠ xid := by simpa [xids, eq_comm] using hxid
        have hr := hc.row k
        rw [he] at hr
        generalize ho : Table.find HazardEvent.key k db''.hazard_events = o at hr
        cases hr with
        | kept => exact h.2 k e ho hk
        | inserted _ hx hcr hup =>
            refine ⟨⟨fun hc' => absurd (hcr.symm.trans hc') hb,
              fun hi => absurd ho (h.1 k hi.2)⟩, fun hu => ?_, fun hx'' => ?_⟩
            · rcases hup with hup | hup
              · simp [hup] at hu
              · exact absurd (Option.some.inj (hup.symm.trans hu)) hb
            · exact absurd (hx.symm.trans hx'') hx'
        | rewritten old _ hx hcr hup =>
            refine ⟨hcr ▸ (h.2 k old ho hk).created,
              fun hu => absurd (Option.some.inj (hup.symm.trans hu)) hb,
              fun hx'' => absurd (hx.symm.trans hx'') hx'⟩
      · have hk' : k.1 ≠ fetched.source := fun he' => hsrc (he'.symm.trans hk)
        exact h.2 k e ((hc.others k hk').symm.trans he) hk

theorem BatchRows.run {source : Source} {b : Timestamptz} {xid : Nat} {db db' db'' : Db G}
    {bs : List SyncAction} (h : BatchRows source b xid db db' db') (hr : SyncRun env db' bs db'')
    (hmark : b ∉ marks source bs) (hxid : xid ∉ xids bs) :
    BatchRows source b xid db db' db'' := by
  induction hr with
  | nil => exact h
  | snoc _ hs ih =>
      simp only [marks_append, xids_append, List.mem_append, not_or] at hmark hxid
      exact (ih hmark.1 hxid.1).step hs hmark.2 hxid.2

theorem Ingested.batch {tx : Tx} {source : Source} {db db' : Db G} {result : SyncResult}
    (h : Ingested tx source db db' result) (hu : Table.Unique HazardEvent.key db.hazard_events) :
    (db'.hazard_events = db.hazard_events ∧ db'.outbox_events = db.outbox_events) ∨
    (Touched tx db'.hazard_events ∧ ∃ event, db'.outbox_events = db.outbox_events ++ [event] ∧
      event.event_type = BATCH_INGESTED ∧ batch_at_of event.payload = some tx.now) := by
  obtain ⟨counts, hcounts, hout⟩ := h.published
  have hchanged : result.changed = true ↔
      result.inserted + result.updated + result.closed ≠ 0 := by
    simp only [SyncResult.changed, Bool.or_eq_true, bne_iff_ne]
    omega
  by_cases hc : result.changed = true
  · refine .inr ⟨h.wrote.some hu (hchanged.mp hc), ?_⟩
    rw [outbox_after, if_pos hc] at hout
    exact ⟨_, hout, rfl, batch_at_of_batch_payload hcounts⟩
  · refine .inl ⟨h.wrote.none (not_not.mp (fun hn => hc (hchanged.mpr hn))), ?_⟩
    rwa [outbox_after, if_neg hc] at hout

theorem Touched.row_of_source {tx : Tx} {source : Source} {as : List SyncAction} {db db' : Db G}
    (h : Touched tx db'.hazard_events) (hst : AllStamped as db) (hx : tx.xid ∉ xids as)
    (hc : Change tx source db.hazard_events db'.hazard_events) :
    ∃ k e, Table.find HazardEvent.key k db'.hazard_events = some e ∧ e.source = source ∧
      e.xmin = tx.xid := by
  obtain ⟨k, e, he, hxe⟩ := h
  exact ⟨k, e, he, hc.source_of_new he (fun ho => hx (hxe ▸ (hst k e ho).2.2)), hxe⟩

theorem InsertedBy.xmin {tx : Tx} {source : Source} {db db' : Db G} {k : Source × String}
    {e : HazardEvent G} (h : InsertedBy db db' k)
    (hc : Change tx source db.hazard_events db'.hazard_events)
    (he : Table.find HazardEvent.key k db'.hazard_events = some e) : e.xmin = tx.xid := by
  have hr := hc.row k
  rw [h.1, he] at hr
  cases hr with
  | inserted _ hx _ _ => exact hx

theorem batch_selection_exact {as bs : List SyncAction} {db db' db'' : Db G} {tx : Tx}
    {fetched : Fetched} (h : SyncRun env (Db.empty G) as db)
    (hs : SyncStep env db (.committed tx fetched) db') (hr : SyncRun env db' bs db'')
    (hclock : Clocked (as ++ ([.committed tx fetched] ++ bs))) :
    (∀ e ∈ db'.hazard_events, e.source = fetched.source →
      (Selected tx.mark e ↔ e.xmin = tx.xid)) ∧
    ((∃ e ∈ db'.hazard_events, e.source = fetched.source ∧ Selected tx.mark e) ↔
      ∃ event, db'.outbox_events = db.outbox_events ++ [event] ∧
        event.event_type = BATCH_INGESTED ∧
        ∃ batch_at, batch_at_of event.payload = some batch_at ∧ batch_at.instant = tx.mark) ∧
    ((¬ ∃ e ∈ db'.hazard_events, e.source = fetched.source ∧ Selected tx.mark e) →
      db'.outbox_events = db.outbox_events) ∧
    (∀ e ∈ db''.hazard_events, e.source = fetched.source →
      (Selected tx.mark e ↔ InsertedBy db db' e.key ∨ e.xmin = tx.xid)) := by
  have hst := h.allStamped
  have hu := h.unique unique_empty
  have hu' := hs.unique hu
  have hu'' := hr.unique hu'
  obtain ⟨hb, hb'⟩ := hclock.fresh_mark
  obtain ⟨hx, hx'⟩ := hclock.fresh_xid
  cases hs with
  | @committed _ _ _ _ result hexec =>
      have hi := Fetched.execute_ingested hexec
      have hself := BatchRows.self hst hb hx hi.wrote.change
      have hlater := hself.run hr hb' hx'
      have hrow : ∀ e ∈ db'.hazard_events, e.source = fetched.source →
          BatchRow tx.mark tx.xid db db' e.key e := fun e he hsrc =>
        hself.2 e.key e ((Table.find_unique hu').mpr ⟨he, rfl⟩) hsrc
      have hsel : ∀ e ∈ db'.hazard_events, e.source = fetched.source →
          (Selected tx.mark e ↔ e.xmin = tx.xid) := by
        intro e he hsrc
        rw [(hrow e he hsrc).selected]
        refine ⟨fun ho => ho.elim (fun hins => ?_) id, .inr⟩
        exact hins.xmin hi.wrote.change ((Table.find_unique hu').mpr ⟨he, rfl⟩)
      have hbatch : ((∃ e ∈ db'.hazard_events, e.source = fetched.source ∧ Selected tx.mark e) ∧
            ∃ event, db'.outbox_events = db.outbox_events ++ [event] ∧
              event.event_type = BATCH_INGESTED ∧
              ∃ batch_at, batch_at_of event.payload = some batch_at ∧
                batch_at.instant = tx.mark) ∨
          ((¬ ∃ e ∈ db'.hazard_events, e.source = fetched.source ∧ Selected tx.mark e) ∧
            db'.outbox_events = db.outbox_events) := by
        rcases hi.batch hu with ⟨ht, hout⟩ | ⟨htouched, event, hout, htype, hmark⟩
        · refine .inr ⟨?_, hout⟩
          rintro ⟨e, he, hsrc, hsel'⟩
          have hfind := (Table.find_unique hu).mpr ⟨ht ▸ he, rfl⟩
          exact (hst e.key e hfind).not_selected (hsrc ▸ hb) hsel'
        · obtain ⟨k, e, he, hsrc, hxe⟩ := htouched.row_of_source hst hx hi.wrote.change
          have hmem := (Table.find_some_mem he).1
          exact .inl ⟨⟨e, hmem, hsrc, (hsel e hmem hsrc).mpr hxe⟩,
            event, hout, htype, tx.now, hmark, rfl⟩
      refine ⟨hsel, ?_, ?_, fun e he hsrc => ?_⟩
      · rcases hbatch with ⟨hrows, hev⟩ | ⟨hno, hout⟩
        · exact ⟨fun _ => hev, fun _ => hrows⟩
        · refine ⟨fun hrows => absurd hrows hno, ?_⟩
          rintro ⟨event, hev, _⟩
          simp [hout] at hev
      · rcases hbatch with ⟨hrows, _⟩ | ⟨_, hout⟩
        · exact fun hno => absurd hrows hno
        · exact fun _ => hout
      · exact (hlater.2 e.key e ((Table.find_unique hu'').mpr ⟨he, rfl⟩) hsrc).selected

theorem batch_selection_exact_alerted :
    (∀ e ∈ alerted.hazard_events, e.source = .aemet →
      (Selected (ran_at 1 (july 2 11)).mark e ↔ e.xmin = 1)) ∧
    ((∃ e ∈ alerted.hazard_events, e.source = .aemet ∧ Selected (ran_at 1 (july 2 11)).mark e) ↔
      ∃ event, alerted.outbox_events = [] ++ [event] ∧ event.event_type = BATCH_INGESTED ∧
        ∃ batch_at, batch_at_of event.payload = some batch_at ∧
          batch_at.instant = (ran_at 1 (july 2 11)).mark) ∧
    ((¬ ∃ e ∈ alerted.hazard_events, e.source = .aemet ∧
        Selected (ran_at 1 (july 2 11)).mark e) → alerted.outbox_events = []) ∧
    (∀ e ∈ replaced.hazard_events, e.source = .aemet →
      (Selected (ran_at 1 (july 2 11)).mark e ↔
        InsertedBy (Db.empty _) alerted e.key ∨ e.xmin = 1)) :=
  batch_selection_exact (.nil _) alerted_step (.one replaced_step)
    ⟨fun source => by cases source <;> decide +kernel, by decide +kernel⟩

end GeoHazard

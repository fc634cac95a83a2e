import GeoHazard.Analytics.Zones
import GeoHazard.Hazards.ReferenceEnv

namespace GeoHazard

namespace Zones

variable {G : Type} {db : DuckDb G} {year : Int} {group : ZoneGroup} {province : Option String}
  {circle : Option Circle} {snapshot : HazardEventRepo.Rows G}

-- the validity interval of the warning contains an instant of the day
def InForceOn (db : DuckDb G) (e : HazardEvent G) (day : Int) : Prop :=
  ∃ t, e.starts_at ≤ t ∧ t ≤ until_ e ∧ db.local_date t = day

theorem inForceOn_iff {e : HazardEvent G} {day : Int} :
    InForceOn db e day ↔ e.starts_at ≤ until_ e ∧ d0 db e ≤ day ∧ day ≤ d1 db e := by
  constructor
  · rintro ⟨t, hs, hu, rfl⟩
    exact ⟨hs.trans hu, db.local_date_monotone _ _ hs, db.local_date_monotone _ _ hu⟩
  · rintro ⟨hle, h0, h1⟩
    rcases h0.eq_or_lt with rfl | h0
    · exact ⟨e.starts_at, le_rfl, hle, rfl⟩
    · rcases h1.eq_or_lt with rfl | h1
      · exact ⟨until_ e, hle, le_rfl, rfl⟩
      · obtain ⟨t, rfl⟩ := db.local_date_onto day
        refine ⟨t, ?_, ?_, rfl⟩
        · exact le_of_not_ge fun ht => not_le_of_gt h0 (db.local_date_monotone _ _ ht)
        · exact le_of_not_ge fun ht => not_le_of_gt h1 (db.local_date_monotone _ _ ht)

-- a warning of the zone that counts for the key on the day
def Counts (db : DuckDb G) (group : ZoneGroup) (province : Option String) (circle : Option Circle)
    (snapshot : HazardEventRepo.Rows G) (k : ZoneKey) (day : Int) (e : HazardEvent G) : Prop :=
  e ∈ snapshot ∧ e.hazard_type = .weather_warning ∧ zone_filter db province circle e = true ∧
    key db group (grouped group ⟨e.province_code, day, e.severity.val⟩) = some k

def WorstInForce (db : DuckDb G) (year : Int) (group : ZoneGroup) (province : Option String)
    (circle : Option Circle) (snapshot : HazardEventRepo.Rows G) (k : ZoneKey) (day : Int)
    (severity : Nat) : Prop :=
  db.year day = year ∧ 2 ≤ severity ∧
    (∃ e, Counts db group province circle snapshot k day e ∧ InForceOn db e day ∧
      e.severity.val = severity) ∧
    ∀ e, Counts db group province circle snapshot k day e → InForceOn db e day →
      e.severity.val ≤ severity

-- a warning closed before its onset, on the day of its onset: it is in force at no instant
def EmptyWindow (db : DuckDb G) (e : HazardEvent G) (day : Int) : Prop :=
  until_ e < e.starts_at ∧ d0 db e = day ∧ d1 db e = day

def EmptyWindowsCovered (db : DuckDb G) (year : Int) (group : ZoneGroup) (province : Option String)
    (circle : Option Circle) (snapshot : HazardEventRepo.Rows G) : Prop :=
  ∀ k day e, db.year day = year → Counts db group province circle snapshot k day e →
    EmptyWindow db e day → 2 ≤ e.severity.val →
    ∃ e', Counts db group province circle snapshot k day e' ∧ InForceOn db e' day ∧
      e.severity.val ≤ e'.severity.val

theorem covers_iff {e : HazardEvent G} {day : Int} :
    d0 db e ≤ day ∧ day ≤ d1 db e ↔ InForceOn db e day ∨ EmptyWindow db e day := by
  rw [inForceOn_iff]
  constructor
  · rintro ⟨h0, h1⟩
    by_cases hle : e.starts_at ≤ until_ e
    · exact .inl ⟨hle, h0, h1⟩
    · have hback : d1 db e ≤ d0 db e := db.local_date_monotone _ _ (le_of_not_ge hle)
      exact .inr ⟨lt_of_not_ge hle, by omega, by omega⟩
  · rintro (h | ⟨_, h0, h1⟩)
    · exact h.2
    · omega

theorem mem_days {r : WarningDay} (hy : db.year r.day = year) :
    r ∈ days db year province circle snapshot ↔
      ∃ e ∈ snapshot, e.hazard_type = .weather_warning ∧ zone_filter db province circle e = true ∧
        2 ≤ e.severity.val ∧ (d0 db e ≤ r.day ∧ r.day ≤ d1 db e) ∧
        r = ⟨e.province_code, r.day, e.severity.val⟩ := by
  simp only [days, w, List.mem_flatMap, List.mem_filter, Bool.and_eq_true, decide_eq_true_eq,
    List.mem_map, mem_generate_series]
  constructor
  · rintro ⟨e, ⟨he, ⟨⟨⟨ht, hs⟩, hy0⟩, hy1⟩, hz⟩, day, hday, rfl⟩
    exact ⟨e, he, ht, hz, hs, hday, rfl⟩
  · rintro ⟨e, he, ht, hz, hs, hday, hr⟩
    have h0 := db.year_monotone _ _ hday.1
    have h1 := db.year_monotone _ _ hday.2
    exact ⟨e, ⟨he, ⟨⟨⟨ht, hs⟩, hy ▸ h0⟩, hy ▸ h1⟩, hz⟩, r.day, hday, hr.symm⟩

theorem grouped_of_key {r r' : WarningDay} {k : ZoneKey} (hd : r.day = r'.day)
    (h : key db group (grouped group r) = some k) (h' : key db group (grouped group r') = some k) :
    grouped group r = grouped group r' := by
  cases group with
  | month => simp [grouped, hd]
  | province =>
      simp only [key, grouped, if_pos, Option.map_eq_some_iff] at h h'
      obtain ⟨p, hp, rfl⟩ := h
      obtain ⟨p', hp', he⟩ := h'
      simp only [ZoneKey.province.injEq] at he
      simp [grouped, hd, hp, hp', he]

theorem mem_worst {g : Option String × Int} {severity : Nat} :
    (g, severity) ∈ worst db year group province circle snapshot ↔
      (∃ r ∈ days db year province circle snapshot, db.year r.day = year ∧ grouped group r = g ∧
        r.severity = severity) ∧
      ∀ r ∈ days db year province circle snapshot, db.year r.day = year → grouped group r = g →
        r.severity ≤ severity := by
  rw [worst, GroupBy.mem_aggregate_maximum]
  simp only [List.mem_filter, decide_eq_true_eq, and_imp, and_assoc]

theorem mem_keyed {k : ZoneKey} {day : Int} {severity : Nat} :
    (k, day, severity) ∈ keyed db year group province circle snapshot ↔
      db.year day = year ∧
      (∃ e, Counts db group province circle snapshot k day e ∧ 2 ≤ e.severity.val ∧
        (InForceOn db e day ∨ EmptyWindow db e day) ∧ e.severity.val = severity) ∧
      ∀ e, Counts db group province circle snapshot k day e → 2 ≤ e.severity.val →
        (InForceOn db e day ∨ EmptyWindow db e day) → e.severity.val ≤ severity := by
  simp only [keyed, List.mem_filterMap, Option.map_eq_some_iff, Prod.mk.injEq, ← covers_iff]
  constructor
  · rintro ⟨⟨g, s⟩, hworst, _, hk, rfl, rfl, rfl⟩
    obtain ⟨⟨r, hr, hy, rfl, rfl⟩, hmax⟩ := mem_worst.mp hworst
    obtain ⟨e, he, ht, hz, hs, hday, hreq⟩ := (mem_days hy).mp hr
    have hy' : db.year (grouped group r).2 = year := hy
    refine ⟨hy', ⟨e, ⟨he, ht, hz, hreq ▸ hk⟩, hs, hday, by rw [hreq]⟩, ?_⟩
    rintro e' ⟨he', ht', hz', hk'⟩ hs' hday'
    have hyr : db.year (WarningDay.mk e'.province_code r.day e'.severity.val).day = year := hy
    exact hmax _ ((mem_days hyr).mpr ⟨e', he', ht', hz', hs', hday', rfl⟩) hyr
      (grouped_of_key rfl hk' hk)
  · rintro ⟨hy, ⟨e, ⟨he, ht, hz, hk⟩, hs, hday, rfl⟩, hmax⟩
    refine ⟨(grouped group ⟨e.province_code, day, e.severity.val⟩, e.severity.val), ?_, k, hk,
      rfl, rfl, rfl⟩
    refine mem_worst.mpr ⟨⟨⟨e.province_code, day, e.severity.val⟩, ?_, hy, rfl, rfl⟩, ?_⟩
    · exact (mem_days hy).mpr ⟨e, he, ht, hz, hs, hday, rfl⟩
    · intro r hr hyr hg
      obtain ⟨e', he', ht', hz', hs', hday', hreq⟩ := (mem_days hyr).mp hr
      have hrday : r.day = day := congrArg Prod.snd hg
      rw [hrday] at hday' hreq
      rw [hreq] at hg ⊢
      exact hmax e' ⟨he', ht', hz', hg ▸ hk⟩ hs' hday'

theorem keyed_of_counts {k : ZoneKey} {day : Int} {e : HazardEvent G} (hy : db.year day = year)
    (hc : Counts db group province circle snapshot k day e) (hs : 2 ≤ e.severity.val)
    (hcover : InForceOn db e day ∨ EmptyWindow db e day) :
    ∃ severity, (k, day, severity) ∈ keyed db year group province circle snapshot ∧
      e.severity.val ≤ severity := by
  obtain ⟨he, ht, hz, hk⟩ := hc
  obtain ⟨rows, hrows⟩ : ∃ rows, rows = (days db year province circle snapshot).filter
    (fun r => decide (db.year r.day = year)) := ⟨_, rfl⟩
  have hrow : WarningDay.mk e.province_code day e.severity.val ∈ rows := by
    rw [hrows]
    refine List.mem_filter.mpr ⟨(mem_days hy).mpr ⟨e, he, ht, hz, hs, covers_iff.mpr hcover, rfl⟩, ?_⟩
    simpa using hy
  obtain ⟨g, hg⟩ : ∃ g, g = grouped group ⟨e.province_code, day, e.severity.val⟩ := ⟨_, rfl⟩
  have hworst : (g, GroupBy.maximum WarningDay.severity (GroupBy.group (grouped group) g rows)) ∈
      worst db year group province circle snapshot := by
    rw [worst, ← hrows]
    exact GroupBy.mem_aggregate.mpr ⟨⟨_, hrow, hg.symm⟩, rfl⟩
  have hle : (WarningDay.mk e.province_code day e.severity.val).severity ≤
      GroupBy.maximum WarningDay.severity (GroupBy.group (grouped group) g rows) :=
    GroupBy.le_maximum (GroupBy.mem_group.mpr ⟨hrow, hg.symm⟩)
  refine ⟨_, List.mem_filterMap.mpr ⟨_, hworst, ?_⟩, hle⟩
  simp only [hg, hk, Option.map_some]
  rfl

theorem assigned_iff : (∀ k day severity,
      (k, day, severity) ∈ keyed db year group province circle snapshot ↔
        WorstInForce db year group province circle snapshot k day severity) ↔
    EmptyWindowsCovered db year group province circle snapshot := by
  constructor
  · intro h k day e hy hc hempty hs
    obtain ⟨severity, hmem, hle⟩ := keyed_of_counts hy hc hs (.inr hempty)
    obtain ⟨_, _, ⟨e', hc', hf', rfl⟩, _⟩ := (h k day severity).mp hmem
    exact ⟨e', hc', hf', hle⟩
  · intro h k day severity
    rw [mem_keyed]
    constructor
    · rintro ⟨hy, ⟨e, hc, hs, hcover, rfl⟩, hmax⟩
      have hbelow : ∀ e', Counts db group province circle snapshot k day e' → InForceOn db e' day →
          e'.severity.val ≤ e.severity.val := by
        intro e' hc' hf'
        by_cases hs' : 2 ≤ e'.severity.val
        · exact hmax e' hc' hs' (.inl hf')
        · omega
      refine ⟨hy, hs, ?_, hbelow⟩
      rcases hcover with hf | hempty
      · exact ⟨e, hc, hf, rfl⟩
      · obtain ⟨e', hc', hf', hle⟩ := h k day e hy hc hempty hs
        exact ⟨e', hc', hf', le_antisymm (hbelow e' hc' hf') hle⟩
    · rintro ⟨hy, hs, ⟨e, hc, hf, rfl⟩, hmax⟩
      refine ⟨hy, ⟨e, hc, hs, .inl hf, rfl⟩, fun e' hc' hs' hcover' => ?_⟩
      rcases hcover' with hf' | hempty'
      · exact hmax e' hc' hf'
      · obtain ⟨e'', hc'', hf'', hle⟩ := h k day e' hy hc' hempty' hs'
        exact hle.trans (hmax e'' hc'' hf'')

theorem day_of_key {g g' : Option String × Int} {k : ZoneKey}
    (hg : ∃ r ∈ days db year province circle snapshot, grouped group r = g)
    (hg' : ∃ r ∈ days db year province circle snapshot, grouped group r = g')
    (hd : g.2 = g'.2) (hk : key db group g = some k) (hk' : key db group g' = some k) : g = g' := by
  obtain ⟨r, _, rfl⟩ := hg
  obtain ⟨r', _, rfl⟩ := hg'
  exact grouped_of_key hd hk hk'

theorem nodup_keyed : ((keyed db year group province circle snapshot).map
    (fun a => (a.1, a.2.1))).Nodup := by
  have hworst : (worst db year group province circle snapshot).Pairwise (fun a b => a.1 ≠ b.1) :=
    List.pairwise_map.mp GroupBy.nodup_keys_aggregate
  have hdrawn : ∀ a ∈ worst db year group province circle snapshot,
      ∃ r ∈ days db year province circle snapshot, grouped group r = a.1 := by
    intro a ha
    obtain ⟨⟨r, hr, _, hg, _⟩, _⟩ := mem_worst.mp ha
    exact ⟨r, hr, hg⟩
  refine List.pairwise_map.mpr (List.pairwise_filterMap.mpr (hworst.imp_of_mem ?_))
  intro a b ha hb hne x hx y hy heq
  obtain ⟨k, hk, rfl⟩ := Option.map_eq_some_iff.mp hx
  obtain ⟨k', hk', rfl⟩ := Option.map_eq_some_iff.mp hy
  simp only [Prod.mk.injEq] at heq
  obtain ⟨rfl, hd⟩ := heq
  exact hne (day_of_key (hdrawn a ha) (hdrawn b hb) hd hk hk')

theorem keyed_unique {k : ZoneKey} {day : Int} {s s' : Nat}
    (h : (k, day, s) ∈ keyed db year group province circle snapshot)
    (h' : (k, day, s') ∈ keyed db year group province circle snapshot) : s = s' :=
  congrArg (fun a => a.2.2) (List.inj_on_of_nodup_map nodup_keyed h h' rfl)

theorem lookup_warning_days (k : ZoneKey) (severity : Nat) :
    (GroupBy.lookup k severity (warning_days db year group province circle snapshot)).getD 0 =
      ((keyed db year group province circle snapshot).filter
        (fun r => decide ((r.1, r.2.2) = (k, severity)))).length := by
  rw [warning_days, GroupBy.lookup_nest GroupBy.nodup_keys_aggregate, GroupBy.get_aggregate]
  split
  · rfl
  · next h =>
      rw [eq_comm, Option.getD_none, List.length_eq_zero_iff, List.filter_eq_nil_iff]
      intro r hr
      simpa using fun hk hs => h ⟨r, hr, by rw [hk, hs]⟩

theorem days_counted (k : ZoneKey) (severity : Nat) : ∃ ds : List Int, ds.Nodup ∧
    (∀ day, day ∈ ds ↔ (k, day, severity) ∈ keyed db year group province circle snapshot) ∧
    (GroupBy.lookup k severity (warning_days db year group province circle snapshot)).getD 0 =
      ds.length := by
  refine ⟨((keyed db year group province circle snapshot).filter
    (fun r => decide ((r.1, r.2.2) = (k, severity)))).map (fun r => r.2.1), ?_, fun day => ?_, ?_⟩
  · have hpairs : (keyed db year group province circle snapshot).Pairwise
        (fun a b => (a.1, a.2.1) ≠ (b.1, b.2.1)) := List.pairwise_map.mp nodup_keyed
    refine List.pairwise_map.mpr ((hpairs.filter _).imp_of_mem ?_)
    intro a b ha hb hne heq
    simp only [List.mem_filter, decide_eq_true_eq, Prod.mk.injEq] at ha hb
    exact hne (Prod.ext (ha.2.1.trans hb.2.1.symm) heq)
  · simp only [List.mem_map, List.mem_filter, decide_eq_true_eq, Prod.mk.injEq]
    constructor
    · rintro ⟨⟨_, _, _⟩, ⟨hr, rfl, rfl⟩, rfl⟩
      exact hr
    · intro h
      exact ⟨(k, day, severity), ⟨h, rfl, rfl⟩, rfl⟩
  · rw [lookup_warning_days, List.length_map]

theorem warning_days_exact :
    ((∀ k day severity, (k, day, severity) ∈ keyed db year group province circle snapshot ↔
        WorstInForce db year group province circle snapshot k day severity) ↔
      EmptyWindowsCovered db year group province circle snapshot) ∧
    ∀ k, (∀ day s s', (k, day, s) ∈ keyed db year group province circle snapshot →
        (k, day, s') ∈ keyed db year group province circle snapshot → s = s') ∧
      ∀ severity, ∃ ds : List Int, ds.Nodup ∧
        (∀ day, day ∈ ds ↔ (k, day, severity) ∈ keyed db year group province circle snapshot) ∧
        (GroupBy.lookup k severity (warning_days db year group province circle snapshot)).getD 0 =
          ds.length :=
  ⟨assigned_iff, fun k => ⟨fun _ _ _ => keyed_unique, days_counted k⟩⟩

-- the year and the day of the year from 0, as the proleptic calendar of Python counts them
def year_day (day : Int) : Int × Int :=
  let n := day + (Datetime.epoch_ordinal - 1 : Int)
  let n100 := min (n % 146097 / 36524) 3
  let r := n % 146097 - n100 * 36524
  let n1 := min (r % 1461 / 365) 3
  (n / 146097 * 400 + n100 * 100 + r / 1461 * 4 + n1 + 1, r % 1461 - n1 * 365)

theorem year_day_succ (day : Int) : (year_day day).1 ≤ (year_day (day + 1)).1 := by
  simp only [year_day, Datetime.epoch_ordinal]
  omega

theorem year_day_nonneg (day : Int) : 0 ≤ (year_day day).2 := by
  simp only [year_day]
  omega

-- the months that have begun by that day
def month_of (day : Int) : Nat :=
  (List.range' 1 12).countP (fun m =>
    decide ((days_before_month (year_day day).1.toNat m : Int) ≤ (year_day day).2))

theorem month_of_range (day : Int) : 1 ≤ month_of day ∧ month_of day ≤ 12 := by
  have hfirst := decide_eq_true (year_day_nonneg day)
  exact ⟨List.countP_pos_iff.mpr ⟨1, by decide, hfirst⟩, List.countP_le_length⟩

-- Europe/Madrid in summer time, two hours ahead
def madrid_summer : DuckDb (List (PyFloat × PyFloat)) where
  local_date t := (t + 7200000000) / 86400000000
  year day := (year_day day).1
  month := month_of
  ST_DWithin _ _ := true
  local_date_monotone _ _ h := Int.ediv_le_ediv (by decide) (Int.add_le_add_right h _)
  local_date_onto day := ⟨day * 86400000000, by omega⟩
  year_monotone _ _ h := monotone_int_of_le_succ year_day_succ h

def orange_alert : AemetWarning :=
  { yellow "A" MSG_TYPE_ALERT (july 2 10) (july 3 20) [] with
    level := some "naranja", onset := some (july 3 14) }

def yellow_update : AemetWarning := yellow "B" MSG_TYPE_UPDATE (july 3 10) (july 3 20) ["A"]

def warned : Db (List (PyFloat × PyFloat)) :=
  (Db.empty _).after (planar_env id) (ran_at 1 (july 2 11)) (.aemet [orange_alert])

def downgraded : Db (List (PyFloat × PyFloat)) :=
  warned.after (planar_env id) (ran_at 2 (july 3 11)) (.aemet [yellow_update])

-- the 3rd of July counts as an orange day, though the orange warning never came into force
theorem superseded_before_onset_counts :
    SyncStep (planar_env id) (Db.empty _) (.committed (ran_at 1 (july 2 11)) (.aemet [orange_alert]))
      warned ∧
    SyncStep (planar_env id) warned (.committed (ran_at 2 (july 3 11)) (.aemet [yellow_update]))
      downgraded ∧
    ¬ ∀ k day severity, (k, day, severity) ∈ keyed madrid_summer 2026 .month none none
        (HazardEventRepo.fetch_export_rows .aemet downgraded.hazard_events) ↔
      WorstInForce madrid_summer 2026 .month none none
        (HazardEventRepo.fetch_export_rows .aemet downgraded.hazard_events) k day severity := by
  refine ⟨SyncStep.after (by decide), SyncStep.after (by decide), fun h => ?_⟩
  have hmem : (ZoneKey.month 7, (20637 : Int), 3) ∈ keyed madrid_summer 2026 .month none none
      (HazardEventRepo.fetch_export_rows .aemet downgraded.hazard_events) := by decide
  obtain ⟨_, _, ⟨e, ⟨he, _⟩, hf, hs⟩, _⟩ := (h _ _ _).mp hmem
  have hnever : ∀ e ∈ HazardEventRepo.fetch_export_rows .aemet downgraded.hazard_events,
      e.severity.val = 3 → ¬ e.starts_at ≤ until_ e := by decide
  exact hnever e he hs (inForceOn_iff.mp hf).1

end Zones

end GeoHazard

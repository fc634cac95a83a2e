import GeoHazard.Hazards.SnapshotRuns

namespace GeoHazard

open Transition OutboxWorker

variable {G W : Type} {env : Env G} {s t : ExportState G W} {source : Source}

-- the rows of a snapshot are those of the source at the place of its read in the history
def ReadFrom (history : List (Db G)) (source : Source) (f : Snapshot G) : Prop :=
  ∃ v, history[f.read_at]? = some v ∧
    f.rows = HazardEventRepo.fetch_export_rows source v.hazard_events

theorem getElem?_later {α : Type} {l l' : List α} {n : Nat} {x : α} (h : l[n]? = some x)
    (hl : l <+: l') : l'[n]? = some x := by
  obtain ⟨more, rfl⟩ := hl
  rw [List.getElem?_append_left (List.getElem?_eq_some_iff.mp h).1]
  exact h

theorem ReadFrom.later {history history' : List (Db G)} {f : Snapshot G}
    (h : ReadFrom history source f) (hl : history <+: history') : ReadFrom history' source f := by
  obtain ⟨v, hv, hrows⟩ := h
  exact ⟨v, getElem?_later hv hl, hrows⟩

theorem ReadFrom.lt {history : List (Db G)} {f : Snapshot G} (h : ReadFrom history source f) :
    f.read_at < history.length := by
  obtain ⟨_, hv, _⟩ := h
  exact (List.getElem?_eq_some_iff.mp hv).1

structure Writing (s : ExportState G W) : Prop where
  drawn : ∀ wr ∈ s.writers, wr.tmp < s.next_tmp
  unique : Table.Unique Writer.tmp s.writers
  read : ∀ wr ∈ s.writers, ReadFrom s.history wr.source wr.toSnapshot
  installed : ∀ source f, s.files source = some f → ReadFrom s.history source f
  -- of the threads of a source at most one has its replacement ahead
  alone : ∀ wr ∈ s.writers, ∀ wr' ∈ s.writers, wr.source = wr'.source → wr.stage ≠ .replaced →
    wr'.stage ≠ .replaced → wr = wr'
  newer : ∀ wr ∈ s.writers, wr.stage ≠ .replaced → ∀ f, s.files wr.source = some f →
    f.read_at ≤ wr.read_at
  served : ∀ wr ∈ s.writers, wr.stage = .replaced → ∃ f, s.files wr.source = some f ∧
    wr.read_at ≤ f.read_at

theorem Writing.init : Writing (ExportState.init G W) where
  drawn wr h := by simp [ExportState.init] at h
  unique := List.nodup_nil
  read wr h := by simp [ExportState.init] at h
  installed source f h := by simp [ExportState.init] at h
  alone wr h := by simp [ExportState.init] at h
  newer wr h := by simp [ExportState.init] at h
  served wr h := by simp [ExportState.init] at h

theorem Writing.keep (h : Writing s) (hw : t.writers.Sublist s.writers)
    (hn : t.next_tmp = s.next_tmp) (hf : t.files = s.files) (hh : s.history <+: t.history) :
    Writing t where
  drawn wr hwr := hn ▸ h.drawn wr (hw.mem hwr)
  unique := h.unique.sublist hw
  read wr hwr := (h.read wr (hw.mem hwr)).later hh
  installed source f hs := (h.installed source f (hf ▸ hs)).later hh
  alone wr hwr wr' hwr' := h.alone wr (hw.mem hwr) wr' (hw.mem hwr')
  newer wr hwr hst f hs := h.newer wr (hw.mem hwr) hst f (hf ▸ hs)
  served wr hwr hst := hf ▸ h.served wr (hw.mem hwr) hst

theorem mem_at_stage {tmp : Nat} {stage : WriterStage} {wr : Writer G} :
    wr ∈ s.at_stage tmp stage ↔ (wr ∈ s.writers ∧ wr.tmp ≠ tmp) ∨
      ∃ o ∈ s.writers, o.tmp = tmp ∧ wr = { o with stage := stage } := by
  simp only [ExportState.at_stage, Table.mem_update]
  constructor
  · rintro ⟨o, ho, rfl⟩
    by_cases hid : o.tmp = tmp
    · exact .inr ⟨o, ho, hid, by simp [hid]⟩
    · exact .inl ⟨by simpa [hid] using ho, by simp [hid]⟩
  · rintro (⟨ho, hid⟩ | ⟨o, ho, hid, rfl⟩)
    · exact ⟨wr, ho, by simp [hid]⟩
    · exact ⟨o, ho, by simp [hid]⟩

theorem Writing.copied (h : Writing s) {wr : Writer G} (hwr : wr ∈ s.writers)
    (hst : wr.stage = .converting) : Writing { s with writers := s.at_stage wr.tmp .copied } := by
  have hold : ∀ r ∈ s.at_stage wr.tmp .copied, ∃ o ∈ s.writers, r.tmp = o.tmp ∧
      r.toSnapshot = o.toSnapshot ∧ r.source = o.source ∧
        (r.stage = .replaced ↔ o.stage = .replaced) := by
    intro r hr
    rcases mem_at_stage.mp hr with ⟨hr, _⟩ | ⟨o, ho, hid, rfl⟩
    · exact ⟨r, hr, rfl, rfl, rfl, Iff.rfl⟩
    · obtain rfl := Table.unique_eq h.unique ho hwr hid
      exact ⟨o, ho, rfl, rfl, rfl, by simp [hst]⟩
  have hunique : Table.Unique Writer.tmp (s.at_stage wr.tmp .copied) :=
    Table.unique_update (f := fun wr : Writer G => { wr with stage := .copied }) (fun _ _ => rfl)
      h.unique
  refine ⟨fun r hr => ?_, hunique, fun r hr => ?_, h.installed, fun r hr r' hr' hsrc hst hst' => ?_,
    fun r hr hst => ?_, fun r hr hst => ?_⟩
  · obtain ⟨o, ho, htmp, _⟩ := hold r hr
    exact htmp ▸ h.drawn o ho
  · obtain ⟨o, ho, _, hsnap, hsrc, _⟩ := hold r hr
    exact hsnap ▸ hsrc ▸ h.read o ho
  · obtain ⟨o, ho, htmp, _, hsource, hstage⟩ := hold r hr
    obtain ⟨o', ho', htmp', _, hsource', hstage'⟩ := hold r' hr'
    have hoo := h.alone o ho o' ho' (hsource ▸ hsource' ▸ hsrc) (fun hs => hst (hstage.mpr hs))
      (fun hs => hst' (hstage'.mpr hs))
    exact Table.unique_eq hunique hr hr' (htmp.trans (hoo ▸ htmp'.symm))
  · obtain ⟨o, ho, _, hsnap, hsource, hstage⟩ := hold r hr
    rw [hsource, hsnap]
    exact h.newer o ho (fun hs => hst (hstage.mpr hs))
  · obtain ⟨o, ho, _, hsnap, hsource, hstage⟩ := hold r hr
    rw [hsource, hsnap]
    exact h.served o ho (hstage.mp hst)

theorem Writing.replaced (h : Writing s) {wr : Writer G} (hwr : wr ∈ s.writers)
    (hst : wr.stage = .copied) :
    Writing { s with
      writers := s.at_stage wr.tmp .replaced
      files := Function.update s.files wr.source (some wr.toSnapshot) } := by
  have hahead : wr.stage ≠ .replaced := by simp [hst]
  have hstays : ∀ r ∈ s.at_stage wr.tmp .replaced, r.stage ≠ .replaced →
      r ∈ s.writers ∧ r.source ≠ wr.source := by
    intro r hr hne
    rcases mem_at_stage.mp hr with ⟨hr, hid⟩ | ⟨o, _, _, rfl⟩
    · exact ⟨hr, fun hsrc => hid (congrArg Writer.tmp (h.alone r hr wr hwr hsrc hne hahead))⟩
    · exact absurd rfl hne
  have hcases : ∀ r ∈ s.at_stage wr.tmp .replaced,
      r ∈ s.writers ∨ r = { wr with stage := .replaced } := by
    intro r hr
    rcases mem_at_stage.mp hr with ⟨hr, _⟩ | ⟨o, ho, hid, rfl⟩
    · exact .inl hr
    · rw [Table.unique_eq h.unique ho hwr hid]
      exact .inr rfl
  refine ⟨fun r hr => ?_, ?_, fun r hr => ?_, fun source f hf => ?_, fun r hr r' hr' hsrc hne hne' => ?_,
    fun r hr hne f hf => ?_, fun r hr hrep => ?_⟩
  · rcases hcases r hr with hr | rfl
    · exact h.drawn r hr
    · exact h.drawn wr hwr
  · exact Table.unique_update (f := fun wr : Writer G => { wr with stage := .replaced })
      (fun _ _ => rfl) h.unique
  · rcases hcases r hr with hr | rfl
    · exact h.read r hr
    · exact h.read wr hwr
  · rcases update_some hf with ⟨hsrc, hx⟩ | ⟨_, hx⟩
    · subst hsrc
      exact Option.some.inj hx ▸ h.read wr hwr
    · exact h.installed source f hx
  · exact h.alone r (hstays r hr hne).1 r' (hstays r' hr' hne').1 hsrc hne hne'
  · obtain ⟨hmem, hsrc⟩ := hstays r hr hne
    rcases update_some hf with ⟨hs, _⟩ | ⟨_, hf⟩
    · exact absurd hs hsrc
    · exact h.newer r hmem hne f hf
  · rcases hcases r hr with hr | rfl
    · by_cases hsrc : r.source = wr.source
      · obtain ⟨f, hf, hle⟩ := h.served r hr hrep
        refine ⟨wr.toSnapshot, by simp [hsrc], hle.trans (h.newer wr hwr hahead f (hsrc ▸ hf))⟩
      · simp only [Function.update_of_ne hsrc]
        exact h.served r hr hrep
    · exact ⟨wr.toSnapshot, by simp, le_rfl⟩

-- the file of the source was read when the event had been published
def Exported (s : ExportState G W) (source : Source) (event_id : Nat) : Prop :=
  ∃ f v, s.files source = some f ∧ s.history[f.read_at]? = some v ∧
    event_id < v.outbox_events.length

structure Advances (s t : ExportState G W) : Prop where
  history : s.history <+: t.history
  files : ∀ source f, s.files source = some f →
    ∃ f', t.files source = some f' ∧ f.read_at ≤ f'.read_at

theorem Advances.of_eq (hh : s.history <+: t.history) (hf : t.files = s.files) : Advances s t :=
  ⟨hh, fun _ f hs => ⟨f, hf ▸ hs, le_rfl⟩⟩

theorem lengths_le (h : Recording s) {i j : Nat} {v v' : Db G} (hij : i ≤ j)
    (hv : s.history[i]? = some v) (hv' : s.history[j]? = some v') :
    v.outbox_events.length ≤ v'.outbox_events.length := by
  obtain ⟨hi, rfl⟩ := List.getElem?_eq_some_iff.mp hv
  obtain ⟨hj, rfl⟩ := List.getElem?_eq_some_iff.mp hv'
  rcases hij.eq_or_lt with rfl | hlt
  · exact le_rfl
  · exact List.pairwise_iff_getElem.mp h.ordered i j hi hj hlt

theorem Exported.advance {event_id : Nat} (hc : Exported s source event_id) (ha : Advances s t)
    (hr : Recording t) (hw : Writing t) : Exported t source event_id := by
  obtain ⟨f, v, hf, hv, hlt⟩ := hc
  obtain ⟨f', hf', hle⟩ := ha.files source f hf
  obtain ⟨v', hv', _⟩ := hw.installed source f' hf'
  have hlater : t.history[f.read_at]? = some v := getElem?_later hv ha.history
  exact ⟨f', v', hf', hv', hlt.trans_le (lengths_le hr hle hlater hv')⟩

-- a thread that a worker awaits reads for the event that the worker dispatches
def Awaited (s : ExportState G W) : Prop :=
  ∀ w tmp, s.calls w = some (.run_blocking tmp) → tmp < s.next_tmp ∧ ∃ d, s.txs w = some d ∧
    ∀ wr ∈ s.writers, wr.tmp = tmp → source_of d.event.payload = some wr.source ∧
      ∃ v, s.history[wr.read_at]? = some v ∧ d.event.id < v.outbox_events.length

theorem Awaited.keep (h : Awaited s) (hh : s.history <+: t.history)
    (hn : t.next_tmp = s.next_tmp)
    (hw : ∀ r ∈ t.writers, ∃ o ∈ s.writers, r.tmp = o.tmp ∧ r.source = o.source ∧
      r.read_at = o.read_at)
    (hc : ∀ w tmp, t.calls w = some (.run_blocking tmp) →
      s.calls w = some (.run_blocking tmp) ∧ t.txs w = s.txs w) : Awaited t := by
  intro w tmp hcall
  obtain ⟨hcall', htx⟩ := hc w tmp hcall
  obtain ⟨hdrawn, d, hd, hall⟩ := h w tmp hcall'
  refine ⟨hn ▸ hdrawn, d, htx ▸ hd, fun r hr htmp => ?_⟩
  obtain ⟨o, ho, hto, hso, hro⟩ := hw r hr
  obtain ⟨hsource, v, hv, hlt⟩ := hall o ho (hto ▸ htmp)
  exact ⟨hso ▸ hsource, v, hro ▸ getElem?_later hv hh, hlt⟩

variable [DecidableEq W]

theorem Writing.fetched (h : Writing s) {w : W} {c : Option Suspended}
    (hleft : ∀ wr ∈ s.writers, wr.source = source → wr.stage = .replaced) :
    Writing { s.suspend w c with
      writers := s.writers ++ [⟨⟨HazardEventRepo.fetch_export_rows source s.db.hazard_events,
        s.history.length⟩, s.next_tmp, source, .converting⟩]
      history := s.history ++ [s.db]
      next_tmp := s.next_tmp + 1 } := by
  refine ⟨fun r hr => ?_, ?_, fun r hr => ?_,
    fun source f hf => (h.installed source f hf).later (List.prefix_append _ _),
    fun r hr r' hr' hsrc hne hne' => ?_, fun r hr hne f hf => ?_, fun r hr hrep => ?_⟩
  · rcases List.mem_append.mp hr with hr | hr
    · exact Nat.lt_succ_of_lt (h.drawn r hr)
    · rw [List.mem_singleton.mp hr]
      exact Nat.lt_succ_self _
  · refine Table.unique_concat h.unique (Table.find_none.mpr (fun r hr => ?_))
    exact (h.drawn r hr).ne
  · rcases List.mem_append.mp hr with hr | hr
    · exact (h.read r hr).later (List.prefix_append _ _)
    · rw [List.mem_singleton.mp hr]
      exact ⟨s.db, by simp, rfl⟩
  · rcases List.mem_append.mp hr with hr | hr
    · rcases List.mem_append.mp hr' with hr' | hr'
      · exact h.alone r hr r' hr' hsrc hne hne'
      · rw [List.mem_singleton.mp hr'] at hsrc
        exact absurd (hleft r hr hsrc) hne
    · rcases List.mem_append.mp hr' with hr' | hr'
      · rw [List.mem_singleton.mp hr] at hsrc
        exact absurd (hleft r' hr' hsrc.symm) hne'
      · rw [List.mem_singleton.mp hr, List.mem_singleton.mp hr']
  · rcases List.mem_append.mp hr with hr | hr
    · exact h.newer r hr hne f hf
    · rw [List.mem_singleton.mp hr] at hf ⊢
      exact (h.installed source f hf).lt.le
  · rcases List.mem_append.mp hr with hr | hr
    · exact h.served r hr hrep
    · rw [List.mem_singleton.mp hr] at hrep
      simp at hrep

theorem Writing.step (h : Writing s) {a : ExportAction W} (hc : NoneLeft s a)
    (hs : ExportStep env s a t) : Writing t := by
  have hsub : ∀ tmp, (s.without tmp).Sublist s.writers := fun _ => List.filter_sublist
  cases hs with
  | synced => exact h.keep (List.Sublist.refl _) rfl rfl (List.prefix_append _ _)
  | outbox => exact h.keep (List.Sublist.refl _) rfl rfl (List.prefix_refl _)
  | started => exact h.keep (List.Sublist.refl _) rfl rfl (List.prefix_refl _)
  | fetched hw _ hsource => exact h.fetched (hc _ _ hw hsource)
  | copied hwr hst => exact h.copied hwr hst
  | replaced hwr hst => exact h.replaced hwr hst
  | returned => exact h.keep (hsub _) rfl rfl (List.prefix_refl _)
  | @raised _ _ c _ _ _ _ =>
      refine h.keep ?_ rfl rfl (List.prefix_refl _)
      cases c with
      | fetching => exact List.Sublist.refl _
      | run_blocking tmp => exact hsub tmp
  | timed_out => exact h.keep (List.Sublist.refl _) rfl rfl (List.prefix_refl _)
  | crashed => exact h.keep (List.Sublist.refl _) rfl rfl (List.prefix_refl _)
  | ended => exact h.keep (hsub _) rfl rfl (List.prefix_refl _)

theorem ExportStep.advances {a : ExportAction W} (h : Writing s) (hs : ExportStep env s a t) :
    Advances s t := by
  cases hs with
  | synced => exact .of_eq (List.prefix_append _ _) rfl
  | fetched => exact .of_eq (List.prefix_append _ _) rfl
  | @replaced wr hwr hst =>
      refine ⟨List.prefix_refl _, fun source f hf => ?_⟩
      by_cases hsrc : source = wr.source
      · subst hsrc
        exact ⟨wr.toSnapshot, by simp, h.newer wr hwr (by simp [hst]) f hf⟩
      · exact ⟨f, by simp [hsrc, hf], le_rfl⟩
  | _ => exact .of_eq (List.prefix_refl _) rfl

end GeoHazard

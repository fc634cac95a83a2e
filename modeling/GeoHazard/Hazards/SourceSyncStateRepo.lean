import GeoHazard.Hazards.Schema

namespace GeoHazard.SourceSyncStateRepo

def get (source : Source) (t : List SourceSyncState) : Option SourceSyncState :=
  Table.find SourceSyncState.source source t

def upsert (source : Source) (fresh : SourceSyncState) (f : SourceSyncState → SourceSyncState)
    (t : List SourceSyncState) : List SourceSyncState :=
  match get source t with
  | none => t ++ [fresh]
  | some _ => Table.update (fun s => decide (s.source = source)) f t

def record_success (source : Source) (cursor : Option PyJson) (now : Timestamptz)
    (t : List SourceSyncState) : List SourceSyncState :=
  upsert source
    { source := source, last_run_at := some now, last_success_at := some now,
      cursor := (cursor.getD (.obj [])).canon, last_error := none, consecutive_failures := 0 }
    (fun old =>
      { old with
        last_run_at := some now, last_success_at := some now,
        cursor := (cursor.map Json.canon).getD old.cursor, last_error := none,
        consecutive_failures := 0 })
    t

def record_failure (source : Source) (error : String) (now : Timestamptz)
    (t : List SourceSyncState) : List SourceSyncState :=
  upsert source
    { source := source, last_run_at := some now, last_success_at := none,
      cursor := .obj [], last_error := some (String.ofList (error.toList.take 500)),
      consecutive_failures := 1 }
    (fun old =>
      { old with
        last_run_at := some now, last_error := some (String.ofList (error.toList.take 500)),
        consecutive_failures := old.consecutive_failures + 1 })
    t

theorem get_upsert_self {source : Source} {fresh : SourceSyncState}
    {f : SourceSyncState → SourceSyncState} (hfresh : fresh.source = source)
    (hf : ∀ s, (f s).source = s.source) (t : List SourceSyncState) :
    get source (upsert source fresh f t) = some ((get source t).elim fresh f) := by
  unfold upsert
  cases h : get source t with
  | none =>
      simp only [get] at h
      simp [get, Table.find_concat, h, hfresh]
  | some s =>
      simp only [get] at h
      have hs := (Table.find_some_mem h).2
      simp [get, Table.find_update (fun s _ => hf s), h, hs]

theorem get_upsert_other {source other : Source} {fresh : SourceSyncState}
    {f : SourceSyncState → SourceSyncState} (hfresh : fresh.source = source)
    (hf : ∀ s, (f s).source = s.source) (hne : source ≠ other) (t : List SourceSyncState) :
    get other (upsert source fresh f t) = get other t := by
  unfold upsert
  cases h : get source t with
  | none => simp [get, Table.find_concat, hfresh, hne]
  | some s =>
      simp only [get, Table.find_update (fun s _ => hf s)]
      cases ho : Table.find SourceSyncState.source other t with
      | none => rfl
      | some o =>
          have hso := (Table.find_some_mem ho).2
          have : ¬ o.source = source := fun he => hne (he.symm.trans hso)
          simp [this]

theorem get_record_success_self (source : Source) (cursor : PyJson) (now : Timestamptz)
    (t : List SourceSyncState) :
    ∃ s, get source (record_success source (some cursor) now t) = some s ∧
      s.cursor = cursor.canon := by
  unfold record_success
  rw [get_upsert_self (by rfl) (by intro s; rfl)]
  cases get source t with
  | none => exact ⟨_, rfl, rfl⟩
  | some s => exact ⟨_, rfl, rfl⟩

theorem get_record_success_other {source other : Source} (hne : other ≠ source)
    (cursor : Option PyJson) (now : Timestamptz) (t : List SourceSyncState) :
    get other (record_success source cursor now t) = get other t := by
  unfold record_success
  exact get_upsert_other (by rfl) (by intro s; rfl) (Ne.symm hne) t

theorem cursor_record_failure (source other : Source) (error : String) (now : Timestamptz)
    (t : List SourceSyncState) :
    ((get other (record_failure source error now t)).map SourceSyncState.cursor).getD (.obj []) =
      ((get other t).map SourceSyncState.cursor).getD (.obj []) := by
  unfold record_failure
  by_cases h : source = other
  · subst h
    rw [get_upsert_self (by rfl) (by intro s; rfl)]
    cases get source t with
    | none => rfl
    | some s => rfl
  · rw [get_upsert_other (by rfl) (by intro s; rfl) h]

theorem get_record_success (source : Source) (cursor : Option PyJson) (now : Timestamptz)
    (t : List SourceSyncState) :
    ∃ s, get source (record_success source cursor now t) = some s ∧
      s.last_success_at = some now ∧ s.consecutive_failures = 0 ∧ s.cursor =
        (cursor.map Json.canon).getD (((get source t).map SourceSyncState.cursor).getD (.obj [])) := by
  unfold record_success
  rw [get_upsert_self (by rfl) (by intro s; rfl)]
  cases get source t with
  | none => cases cursor <;> exact ⟨_, rfl, rfl, rfl, rfl⟩
  | some s => exact ⟨_, rfl, rfl, rfl, rfl⟩

theorem get_record_failure (source : Source) (error : String) (now : Timestamptz)
    (t : List SourceSyncState) :
    ∃ s, get source (record_failure source error now t) = some s ∧
      s.last_success_at = (get source t).bind SourceSyncState.last_success_at ∧
      s.consecutive_failures =
        ((get source t).map SourceSyncState.consecutive_failures).getD 0 + 1 ∧
      s.cursor = ((get source t).map SourceSyncState.cursor).getD (.obj []) := by
  unfold record_failure
  rw [get_upsert_self (by rfl) (by intro s; rfl)]
  cases get source t with
  | none => exact ⟨_, rfl, rfl, rfl, rfl⟩
  | some s => exact ⟨_, rfl, rfl, rfl, rfl⟩

theorem get_record_failure_other {source other : Source} (hne : other ≠ source) (error : String)
    (now : Timestamptz) (t : List SourceSyncState) :
    get other (record_failure source error now t) = get other t := by
  unfold record_failure
  exact get_upsert_other (by rfl) (by intro s; rfl) (Ne.symm hne) t

end GeoHazard.SourceSyncStateRepo

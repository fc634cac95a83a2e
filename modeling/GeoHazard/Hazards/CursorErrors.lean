import GeoHazard.Hazards.KeysetWalk

namespace GeoHazard

namespace Pagination

variable {lib : CursorText} {cursor : String} {value starts_at_iso event_id : Json PyFloat}
  {e : CursorError}

def text_or_null : Json PyFloat → Bool
  | .str _ | .null => true
  | _ => false

-- a list of a timestamp and of something that uuid.UUID cannot be given
def OddId (lib : CursorText) (value : Json PyFloat) : Prop :=
  ∃ s event_id, value = .arr [.str s, event_id] ∧ (lib.fromisoformat s).isSome = true ∧
    text_or_null event_id = false

def Slips (lib : CursorText) (cursor : String) : Prop :=
  ∃ raw, lib.urlsafe_b64decode cursor = some raw ∧
    (lib.loads raw = .error .recursion_error ∨ ∃ value, lib.loads raw = .ok value ∧ OddId lib value)

theorem raise_value_error_ok {α : Type} {x : Option α} {a : α} :
    raise_value_error x = .ok a ↔ x = some a := by
  cases x <;> simp [raise_value_error]

theorem raise_value_error_caught {α : Type} {x : Option α} (h : raise_value_error x = .error e) :
    caught e = true := by
  cases x with
  | none =>
      obtain rfl := Except.error.inj h
      rfl
  | some a => simp [raise_value_error] at h

theorem loads_ok {raw : String} : loads lib raw = .ok value ↔ lib.loads raw = .ok value := by
  unfold loads
  split <;> simp [*]

theorem loads_uncaught {raw : String} : (∃ e, loads lib raw = .error e ∧ caught e = false) ↔
    lib.loads raw = .error .recursion_error := by
  unfold loads
  split <;> simp [*, caught]

theorem unpack_caught (h : unpack value = .error e) : caught e = true := by
  unfold unpack at h
  split at h
  · simp at h
  · simp at h
  · split at h
    · simp at h
    · exact Except.error.inj h ▸ rfl
  all_goals exact Except.error.inj h ▸ rfl

theorem unpack_ok (h : unpack value = .ok (starts_at_iso, event_id)) :
    value = .arr [starts_at_iso, event_id] ∨ text_or_null event_id = true := by
  unfold unpack at h
  split at h
  · obtain ⟨rfl, rfl⟩ := Prod.mk.inj (Except.ok.inj h)
    exact .inl rfl
  · obtain ⟨_, rfl⟩ := Prod.mk.inj (Except.ok.inj h)
    exact .inr rfl
  · split at h
    · obtain ⟨_, rfl⟩ := Prod.mk.inj (Except.ok.inj h)
      exact .inr rfl
    · simp at h
  all_goals simp at h

theorem fromisoformat_caught (h : fromisoformat lib value = .error e) : caught e = true := by
  unfold fromisoformat at h
  split at h
  · exact raise_value_error_caught h
  · exact Except.error.inj h ▸ rfl

theorem fromisoformat_ok {t : Timestamptz} :
    fromisoformat lib value = .ok t ↔ ∃ s, value = .str s ∧ lib.fromisoformat s = some t := by
  unfold fromisoformat
  split
  · simp [raise_value_error_ok]
  · next h => simpa using fun s hs => absurd hs (h s)

theorem UUID_uncaught :
    (∃ e, UUID lib event_id = .error e ∧ caught e = false) ↔ text_or_null event_id = false := by
  unfold UUID
  split
  · simpa [text_or_null] using fun e he => raise_value_error_caught he
  · simp [text_or_null, caught]
  · next hs hn =>
      cases event_id with
      | str s => exact absurd rfl (hs s)
      | null => exact absurd rfl hn
      | bool _ | int _ | float _ | arr _ | obj _ => simp [text_or_null, caught]

theorem read_cursor_uncaught :
    (∃ e, read_cursor lib cursor = .error e ∧ caught e = false) ↔ Slips lib cursor := by
  constructor
  · rintro ⟨e, h, hc⟩
    have hnot : ¬ caught e = true := by simp [hc]
    rcases bind_error.mp h with h | ⟨raw, hraw, h⟩
    · exact absurd (raise_value_error_caught h) hnot
    refine ⟨raw, raise_value_error_ok.mp hraw, ?_⟩
    rcases bind_error.mp h with h | ⟨value, hvalue, h⟩
    · exact .inl (loads_uncaught.mp ⟨e, h, hc⟩)
    refine .inr ⟨value, loads_ok.mp hvalue, ?_⟩
    rcases bind_error.mp h with h | ⟨⟨starts_at_iso, event_id⟩, hpair, h⟩
    · exact absurd (unpack_caught h) hnot
    rcases bind_error.mp h with h | ⟨t, ht, hid⟩
    · exact absurd (fromisoformat_caught h) hnot
    obtain ⟨s, rfl, hs⟩ := fromisoformat_ok.mp ht
    rcases bind_error.mp hid with hid | ⟨id, _, hid⟩
    · have hodd := UUID_uncaught.mp ⟨e, hid, hc⟩
      rcases unpack_ok hpair with rfl | htext
      · exact ⟨s, event_id, rfl, by simp [hs], hodd⟩
      · simp [htext] at hodd
    · simp at hid
  · rintro ⟨raw, hraw, hloads⟩
    have hraw' := raise_value_error_ok.mpr hraw
    rcases hloads with hdeep | ⟨_, hvalue, s, event_id, rfl, hs, hodd⟩
    · obtain ⟨e, he, hc⟩ := loads_uncaught.mpr hdeep
      exact ⟨e, bind_error.mpr (.inr ⟨raw, hraw', bind_error.mpr (.inl he)⟩), hc⟩
    · obtain ⟨t, ht⟩ := Option.isSome_iff_exists.mp hs
      obtain ⟨e, he, hc⟩ := UUID_uncaught.mpr hodd
      refine ⟨e, ?_, hc⟩
      have hid : (UUID lib event_id >>= fun id => .ok (t, id)) = .error e := bind_error.mpr (.inl he)
      have hmoment := fromisoformat_ok.mpr ⟨s, rfl, ht⟩
      exact bind_error.mpr (.inr ⟨raw, hraw', bind_error.mpr (.inr ⟨_, loads_ok.mpr hvalue,
        bind_error.mpr (.inr ⟨_, rfl, bind_error.mpr (.inr ⟨t, hmoment, hid⟩)⟩)⟩)⟩)

theorem decode_cursor_value_error_or :
    ((∃ key, decode_cursor lib cursor = .ok key) ∨ decode_cursor lib cursor = .error .value_error) ↔
      ¬ Slips lib cursor := by
  rw [← read_cursor_uncaught]
  unfold decode_cursor
  cases read_cursor lib cursor with
  | ok key => simp
  | error e => cases e <;> simp [caught]

end Pagination

open Pagination

section

variable {G : Type} {env : Env G} {lib : Shapely env} {text : CursorText} {sql : SpatialSql G}
  {bbox_raw province : Option String} {f : Filters} {limit : Nat} {cursor_raw : String}
  {now : Timestamptz} {t : HazardEventRepo.Rows G} {bbox : Option Bbox} {e : CursorError}

def serve_error : CursorError → ServeError
  | .value_error => .business_validation "invalid cursor"
  | e => .cursor_error e

theorem parse_cursor_error (h : decode_cursor text cursor_raw = .error e) :
    ListEventsUseCase.parse_cursor text (some cursor_raw) = .error (serve_error e) := by
  cases e <;> simp [ListEventsUseCase.parse_cursor, h, serve_error]

theorem execute_cursor_error (hb : parse_bbox env bbox_raw = .ok bbox)
    (h : decode_cursor text cursor_raw = .error e) :
    ListEventsUseCase.execute lib text sql bbox_raw province f limit (some cursor_raw) now t =
      .error (serve_error e) := by
  simp only [ListEventsUseCase.execute, hb, catch_value_error, Except.mapError,
    parse_cursor_error h, bind, Except.bind]

theorem corrupt_cursor_rejected :
    (((∃ key, decode_cursor text cursor_raw = .ok key) ∨
      decode_cursor text cursor_raw = .error .value_error) ↔ ¬ Slips text cursor_raw) ∧
    (parse_bbox env bbox_raw = .ok bbox → (∀ key, decode_cursor text cursor_raw ≠ .ok key) →
      (ListEventsUseCase.execute lib text sql bbox_raw province f limit (some cursor_raw) now t =
        .error (.business_validation "invalid cursor") ↔ ¬ Slips text cursor_raw)) := by
  refine ⟨decode_cursor_value_error_or, fun hb hnone => ?_⟩
  rw [← decode_cursor_value_error_or]
  cases hd : decode_cursor text cursor_raw with
  | ok key => exact absurd hd (hnone key)
  | error e => cases e <;> simp [execute_cursor_error hb hd, serve_error]

end

def odd_json : String := "[\"2026-07-02T12:00:00+00:00\", 5]"

def odd_cursor : String := "WyIyMDI2LTA3LTAyVDEyOjAwOjAwKzAwOjAwIiwgNV0="

theorem spelled_ne {α : Type} [DecidableEq α] {value : α} {text : List Char}
    {other : α → List Char} {s : String} (hs : s.toList.head? ≠ some '=') (ht : s.toList ≠ text)
    (a : α) : spelled value text other a ≠ s := by
  rintro rfl
  unfold spelled at hs ht
  split at hs
  · next h => exact ht (by simp [h])
  · simp at hs

theorem base64_ne {s : String} (hs : s.toList.head? ≠ some '=')
    (ht : s.toList ≠ noon_cursor.toList) : Function.partialInv base64 s = none :=
  dif_neg (fun ⟨raw, h⟩ => spelled_ne hs ht raw h)

noncomputable def odd_text : CursorText where
  __ := cursor_text
  loads raw := if raw = odd_json then .ok (.arr [.str noon_iso, .int 5]) else cursor_text.loads raw
  urlsafe_b64decode cursor :=
    if cursor = odd_cursor then some odd_json else cursor_text.urlsafe_b64decode cursor
  loads_dumps p := by
    have hne : json_pair p ≠ odd_json := spelled_ne (by decide) (by decide) p
    exact (if_neg hne).trans (cursor_text.loads_dumps p)
  urlsafe_b64decode_encode raw := by
    have hne : base64 raw ≠ odd_cursor := spelled_ne (by decide) (by decide) raw
    exact (if_neg hne).trans (cursor_text.urlsafe_b64decode_encode raw)

open PlaneShape

theorem corrupt_cursor_rejected_garbage :
    ListEventsUseCase.execute shapely odd_text plane_sql none none no_filters 100
      (some "no-base64!") noon [] = .error (.business_validation "invalid cursor") := by
  have hgarbage : odd_text.urlsafe_b64decode "no-base64!" = none := by
    have hne : "no-base64!" ≠ odd_cursor := by decide
    have hinv : Function.partialInv base64 "no-base64!" = none := base64_ne (by decide) (by decide)
    simp only [odd_text, cursor_text, if_neg hne, hinv]
  have hnone : ∀ key, decode_cursor odd_text "no-base64!" ≠ .ok key := by
    simp [decode_cursor, read_cursor, hgarbage, raise_value_error, bind, Except.bind]
  refine ((@corrupt_cursor_rejected _ plane_env shapely odd_text plane_sql none none no_filters 100
    "no-base64!" noon [] none).2 rfl hnone).mpr ?_
  rintro ⟨raw, hraw, _⟩
  rw [hgarbage] at hraw
  simp at hraw

theorem numeric_id_escapes :
    decode_cursor odd_text odd_cursor = .error .attribute_error ∧
      ListEventsUseCase.execute shapely odd_text plane_sql none none no_filters 100
        (some odd_cursor) noon [] = .error (.cursor_error .attribute_error) := by
  have hraw : odd_text.urlsafe_b64decode odd_cursor = some odd_json := by
    simp only [odd_text, if_true]
  have hloads : odd_text.loads odd_json = .ok (.arr [.str noon_iso, .int 5]) := by
    simp only [odd_text, if_true]
  have hnoon : odd_text.fromisoformat noon_iso = some noon :=
    Function.partialInv_left isoformat_injective noon
  have hdecode : decode_cursor odd_text odd_cursor = .error .attribute_error := by
    simp [decode_cursor, read_cursor, hraw, loads, hloads, unpack, fromisoformat, UUID, hnoon,
      raise_value_error, caught, bind, Except.bind]
  exact ⟨hdecode, execute_cursor_error rfl hdecode⟩

end GeoHazard

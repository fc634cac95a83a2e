import GeoHazard.Hazards.SyncRuns

namespace GeoHazard

def bits_text (x : FiniteFloat) : List Char := Json.intText x.val.bits.toNat ++ ['.', '0']

theorem dot_not_mem_intText (n : Int) : '.' ∉ Json.intText n := by
  intro h
  rcases Json.intText_numeric h with hd | hm
  · exact absurd hd (by decide)
  · exact absurd hm (by decide)

theorem bits_text_injective : Function.Injective bits_text := by
  intro x y h
  have hn := Json.intText_injective (List.append_cancel_right h)
  have hb : x.val.bits = y.val.bits := BitVec.eq_of_toNat_eq (Int.ofNat.inj hn)
  apply Subtype.ext
  cases hx : x.val
  cases hy : y.val
  simp_all

def bits_float_text : Json.FloatText FiniteFloat where
  text := bits_text
  numeric x c hc := by
    rcases List.mem_append.mp hc with hc | hc
    · rcases Json.intText_numeric hc with hd | hm
      · exact .inl hd
      · exact .inr (.inl hm)
    · simp only [List.mem_cons, List.not_mem_nil, or_false] at hc
      rcases hc with rfl | rfl <;> simp
  first x := by
    obtain ⟨c, cs, he, hc⟩ := Json.intText_first x.val.bits.toNat
    exact ⟨c, cs ++ ['.', '0'], by simp [bits_text, he], hc⟩
  injective := bits_text_injective
  not_int x n h := dot_not_mem_intText n (by
    rw [Json.intText, ← h]
    simp [bits_text])

-- a planar stand-in for PROJ, GEOS and PostGIS: a geometry is its list of vertices
def planar_env (sha256 : String → String) : Env (List (PyFloat × PyFloat)) where
  float s := Dict.get s [("0", ⟨0x0000000000000000⟩), ("1", ⟨0x3ff0000000000000⟩)]
  float_text := bits_float_text
  sha256 := sha256
  Point lon lat := [(lon.val, lat.val)]
  Polygon ring := ring
  shape _ := none
  is_valid _ := true
  is_empty ring := ring.isEmpty
  make_valid ring := ring
  province _ := none

def Db.after {G : Type} (env : Env G) (tx : Tx) (fetched : Fetched) (db : Db G) : Db G :=
  match fetched.execute env tx db with
  | .ok (db', _) => db'
  | .error _ => db

theorem SyncStep.after {G : Type} {env : Env G} {tx : Tx} {fetched : Fetched} {db : Db G}
    (h : (fetched.execute env tx db).isOk = true) :
    SyncStep env db (.committed tx fetched) (db.after env tx fetched) := by
  unfold Db.after
  cases he : fetched.execute env tx db with
  | error e => simp [he, Except.isOk, Except.toBool] at h
  | ok r => exact @SyncStep.committed _ _ _ _ _ _ r.2 he

-- a day past the 31st and an hour past the 23rd wrap round
def july (day hour : Nat) : Datetime where
  year := 2026
  month := 7
  day := (day - 1) % 31 + 1
  hour := hour % 24
  minute := 0
  second := 0
  microsecond := 0
  utcoffset := 0
  valid := ⟨by decide, by decide, ⟨by omega, Nat.mod_lt (day - 1) (by decide)⟩,
    Nat.mod_lt hour (by decide), by decide, by decide, by decide, by decide⟩

def yellow (id msg_type : String) (sent expires : Datetime) (references : List String) :
    AemetWarning where
  external_id := id
  msg_type := msg_type
  sent := sent
  references := references
  event := none
  phenomenon := none
  level := some "amarillo"
  onset := some sent
  expires := some expires
  polygon := some "0,0 0,1 1,1 0,0"
  zone := none
  area_desc := none
  attrs := []

def ran_at (xid : Nat) (now : Datetime) : Tx := ⟨xid, now, now.instant⟩

def alert_bulletin : List AemetWarning := [yellow "A" MSG_TYPE_ALERT (july 2 10) (july 3 10) []]

def update_bulletin : List AemetWarning := [yellow "B" MSG_TYPE_UPDATE (july 2 12) (july 3 12) ["A"]]

def alerted : Db (List (PyFloat × PyFloat)) :=
  (Db.empty _).after (planar_env id) (ran_at 1 (july 2 11)) (.aemet alert_bulletin)

def replaced : Db (List (PyFloat × PyFloat)) :=
  alerted.after (planar_env id) (ran_at 2 (july 2 13)) (.aemet update_bulletin)

theorem alerted_step : SyncStep (planar_env id) (Db.empty _)
    (.committed (ran_at 1 (july 2 11)) (.aemet alert_bulletin)) alerted :=
  SyncStep.after (by decide)

theorem replaced_step : SyncStep (planar_env id) alerted
    (.committed (ran_at 2 (july 2 13)) (.aemet update_bulletin)) replaced :=
  SyncStep.after (by decide)

end GeoHazard

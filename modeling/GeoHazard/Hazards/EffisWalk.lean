import GeoHazard.Hazards.StoredVertices

namespace GeoHazard.EffisParser

def in_bound (bound : Int) (low high : PyFloat) : JsonValue → Bool
  | .bool _ => true
  | .int n => decide (-bound ≤ n) && decide (n ≤ bound)
  | .float x => x.isfinite && (low.le x && x.le high)
  | _ => false

-- an integer past the doubles, where math.isfinite and float raise OverflowError
def too_large : JsonValue → Bool
  | .int n => (PyFloat.of_int n).isNone
  | _ => false

def is_finite : JsonValue → Bool
  | .bool _ => true
  | .int n => (PyFloat.of_int n).isSome
  | .float x => x.isfinite
  | _ => false

-- the walk ends with every pair swapped
inductive Walks : Nat → JsonValue → Prop
  | pair {frames : Nat} {lat lon : JsonValue} {rest : List JsonValue}
      (hlat : in_bound 90 minus_90 plus_90 lat = true)
      (hlon : in_bound 180 minus_180 plus_180 lon = true) :
      Walks (frames + 1) (.arr (lat :: lon :: rest))
  | parts {frames : Nat} {part : JsonValue} {rest : List JsonValue}
      (hn : is_number part = false) (h : ∀ p ∈ part :: rest, Walks frames p) :
      Walks (frames + 1) (.arr (part :: rest))

-- before anything that it rejects, the walk meets the recursion limit, a text or an integer past
-- the doubles
inductive Escapes : Nat → JsonValue → Prop
  | limit (coords : JsonValue) : Escapes 0 coords
  | text {frames : Nat} {s : String} (hs : s ≠ "") : Escapes (frames + 1) (.str s)
  | latitude {frames : Nat} {lat lon : JsonValue} {rest : List JsonValue}
      (h : too_large lat = true) : Escapes (frames + 1) (.arr (lat :: lon :: rest))
  | longitude {frames : Nat} {lat lon : JsonValue} {rest : List JsonValue}
      (hlat : is_finite lat = true) (h : too_large lon = true) :
      Escapes (frames + 1) (.arr (lat :: lon :: rest))
  | part {frames : Nat} {first : JsonValue} {rest walked after : List JsonValue} {p : JsonValue}
      (hn : is_number first = false) (hs : first :: rest = walked ++ p :: after)
      (hw : ∀ q ∈ walked, Walks frames q) (h : Escapes frames p) :
      Escapes (frames + 1) (.arr (first :: rest))

def Uncaught {α : Type} (x : Except ParseError α) : Prop := ∃ e, x = .error e ∧ caught e = false

theorem uncaught_ok {α : Type} {a : α} : ¬ Uncaught (.ok a : Except ParseError α) := by
  rintro ⟨e, he, _⟩
  simp at he

theorem uncaught_error {α : Type} {e : ParseError} :
    Uncaught (.error e : Except ParseError α) ↔ caught e = false := by
  constructor
  · rintro ⟨e', he, hc⟩
    exact (Except.error.inj he) ▸ hc
  · exact fun hc => ⟨e, rfl, hc⟩

theorem uncaught_bind {α β : Type} {x : Except ParseError α} {f : α → Except ParseError β} :
    Uncaught (x >>= f) ↔ Uncaught x ∨ ∃ a, x = .ok a ∧ Uncaught (f a) := by
  cases x with
  | error e => simp [Uncaught, bind, Except.bind]
  | ok a => simp [Uncaught, bind, Except.bind]

theorem uncaught_map {α β : Type} {x : Except ParseError α} {f : α → β} :
    Uncaught (x.map f) ↔ Uncaught x := by
  cases x with
  | error e => simp [Uncaught, Except.map]
  | ok a => simp [Uncaught, Except.map]

theorem uncaught_raise_none {α : Type} {e : ParseError} {o : Option α} :
    Uncaught (raise_none e o) ↔ o = none ∧ caught e = false := by
  cases o with
  | none => simp [Uncaught, raise_none]
  | some a => simp [Uncaught, raise_none]

theorem too_large_number {x : JsonValue} (h : too_large x = true) : is_number x = true := by
  cases x <;> simp_all [too_large, is_number]

theorem in_bound_number {bound : Int} {low high : PyFloat} {x : JsonValue}
    (h : in_bound bound low high x = true) : is_number x = true := by
  cases x <;> simp_all [in_bound, is_number]

theorem finite_uncaught {x : JsonValue} : Uncaught (finite x) ↔ too_large x = true := by
  cases x with
  | int n =>
      cases hn : PyFloat.of_int n with
      | none => simp [finite, too_large, hn, uncaught_error, caught]
      | some f => simp [finite, too_large, hn, uncaught_ok]
  | float x =>
      by_cases hx : x.isfinite = true
      · simp [finite, too_large, hx, uncaught_ok]
      · simp [finite, too_large, hx, uncaught_error, caught]
  | bool b => simp [finite, too_large, uncaught_ok]
  | _ => simp [finite, too_large, uncaught_error, caught]

theorem finite_isOk {x : JsonValue} : (∃ y, finite x = .ok y) ↔ is_finite x = true := by
  cases x with
  | int n => cases hn : PyFloat.of_int n <;> simp [finite, is_finite, hn]
  | float x => by_cases hx : x.isfinite = true <;> simp [finite, is_finite, hx]
  | _ => simp [finite, is_finite]

theorem finite_between {bound : Int} {low high : PyFloat}
    (hint : ∀ {n : Int}, -bound ≤ n → n ≤ bound →
      ∃ x, PyFloat.of_int n = some x ∧ low.le x = true ∧ x.le high = true) {x : JsonValue} :
    (∃ y, finite x = .ok y ∧ between bound low high y = true) ↔ in_bound bound low high x = true := by
  cases x with
  | int n =>
      cases hn : PyFloat.of_int n with
      | none =>
          simp only [finite, hn, in_bound, Option.isSome_none, Bool.false_eq_true, if_false,
            reduceCtorEq, false_and, exists_false, false_iff, Bool.and_eq_true, decide_eq_true_eq]
          rintro ⟨hl, hh⟩
          obtain ⟨x, hx, _⟩ := hint hl hh
          simp [hn] at hx
      | some f => simp [finite, in_bound, hn, between]
  | float x => by_cases hx : x.isfinite = true <;> simp [finite, in_bound, hx, between]
  | _ => simp [finite, in_bound, between]

theorem swap_pair_isOk {lat lon : JsonValue} : (∃ c, swap_pair lat lon = .ok c) ↔
    in_bound 90 minus_90 plus_90 lat = true ∧ in_bound 180 minus_180 plus_180 lon = true := by
  rw [← finite_between of_int_90, ← finite_between of_int_180]
  simp only [swap_pair, bind_ok]
  constructor
  · rintro ⟨c, lat', hlat, lon', hlon, h⟩
    split at h
    · next hb =>
        obtain ⟨hbl, hbo⟩ := Bool.and_eq_true_iff.mp hb
        exact ⟨⟨lat', hlat, hbl⟩, lon', hlon, hbo⟩
    · simp at h
  · rintro ⟨⟨lat', hlat, hbl⟩, lon', hlon, hbo⟩
    exact ⟨_, lat', hlat, lon', hlon, by rw [hbl, hbo]; rfl⟩

theorem swap_pair_uncaught {lat lon : JsonValue} : Uncaught (swap_pair lat lon) ↔
    too_large lat = true ∨ (is_finite lat = true ∧ too_large lon = true) := by
  simp only [swap_pair, uncaught_bind, finite_uncaught, ← finite_isOk]
  refine or_congr_right ⟨?_, ?_⟩
  · rintro ⟨lat', hlat, hlon | ⟨lon', _, h⟩⟩
    · exact ⟨⟨lat', hlat⟩, hlon⟩
    · split at h
      · exact absurd h uncaught_ok
      · simp [uncaught_error, caught] at h
  · rintro ⟨⟨lat', hlat⟩, hlon⟩
    exact ⟨lat', hlat, .inl hlon⟩

variable {frames : Nat}

theorem swap_parts_isOk {xs : List JsonValue} : (∃ cs, swap_parts frames xs = .ok cs) ↔
    ∀ x ∈ xs, ∃ c, swap_pairs frames x = .ok c := by
  induction xs with
  | nil => simp [swap_parts]
  | cons x xs ih =>
      simp only [swap_parts, bind_ok, List.mem_cons, forall_eq_or_imp, ← ih]
      constructor
      · rintro ⟨_, c, hc, cs, hcs, _⟩
        exact ⟨⟨c, hc⟩, cs, hcs⟩
      · rintro ⟨⟨c, hc⟩, cs, hcs⟩
        exact ⟨_, c, hc, cs, hcs, rfl⟩

theorem swap_parts_uncaught {xs : List JsonValue} : Uncaught (swap_parts frames xs) ↔
    ∃ walked p after, xs = walked ++ p :: after ∧
      (∀ q ∈ walked, ∃ c, swap_pairs frames q = .ok c) ∧ Uncaught (swap_pairs frames p) := by
  induction xs with
  | nil => simp [swap_parts, uncaught_ok]
  | cons x xs ih =>
      simp only [swap_parts, uncaught_bind, ih, uncaught_ok, and_false, exists_false, or_false]
      constructor
      · rintro (hx | ⟨c, hc, walked, p, after, rfl, hw, hp⟩)
        · exact ⟨[], x, xs, rfl, by simp, hx⟩
        · refine ⟨x :: walked, p, after, rfl, fun q hq => ?_, hp⟩
          rcases List.mem_cons.mp hq with rfl | hq
          · exact ⟨c, hc⟩
          · exact hw q hq
      · rintro ⟨walked, p, after, hs, hw, hp⟩
        cases walked with
        | nil =>
            simp only [List.nil_append, List.cons.injEq] at hs
            exact .inl (hs.1 ▸ hp)
        | cons y walked =>
            simp only [List.cons_append, List.cons.injEq] at hs
            obtain ⟨rfl, rfl⟩ := hs
            obtain ⟨c, hc⟩ := hw x (by simp)
            exact .inr ⟨c, hc, walked, p, after, rfl, fun q hq => hw q (by simp [hq]), hp⟩

theorem swap_pairs_parts {first : JsonValue} {rest : List JsonValue} (hn : is_number first = false) :
    swap_pairs (frames + 1) (.arr (first :: rest)) = (swap_parts frames (first :: rest)).map .arr := by
  cases rest <;> simp [swap_pairs, hn]

theorem swap_pairs_pair {lat lon : JsonValue} {rest : List JsonValue} (hn : is_number lat = true) :
    swap_pairs (frames + 1) (.arr (lat :: lon :: rest)) = swap_pair lat lon := by
  simp [swap_pairs, hn]

theorem map_isOk {ε α β : Type} {x : Except ε α} {f : α → β} :
    (∃ b, x.map f = .ok b) ↔ ∃ a, x = .ok a := by
  cases x <;> simp [Except.map]

theorem swap_pairs_walks {coords : JsonValue} :
    (∃ c, swap_pairs frames coords = .ok c) ↔ Walks frames coords := by
  induction frames generalizing coords with
  | zero => exact iff_of_false (by simp [swap_pairs]) (by rintro ⟨⟩)
  | succ frames ih =>
      have hother : (∀ xs, coords ≠ .arr xs) → ¬ Walks (frames + 1) coords := by
        intro hno h
        cases h with
        | pair => exact hno _ rfl
        | parts => exact hno _ rfl
      cases coords with
      | arr xs =>
          cases xs with
          | nil => exact iff_of_false (by simp [swap_pairs]) (by rintro ⟨⟩)
          | cons first rest =>
              by_cases hn : is_number first = true
              · cases rest with
                | nil =>
                    refine iff_of_false (by simp [swap_pairs, hn]) (fun h => ?_)
                    cases h with
                    | parts hn' => simp [hn] at hn'
                | cons second rest =>
                    rw [swap_pairs_pair hn, swap_pair_isOk]
                    refine ⟨fun h => .pair h.1 h.2, fun h => ?_⟩
                    cases h with
                    | pair hlat hlon => exact ⟨hlat, hlon⟩
                    | parts hn' => simp [hn] at hn'
              · rw [Bool.not_eq_true] at hn
                rw [swap_pairs_parts hn, map_isOk, swap_parts_isOk]
                simp only [ih]
                refine ⟨.parts hn, fun h => ?_⟩
                cases h with
                | pair hlat => simp [in_bound_number hlat] at hn
                | parts _ h => exact h
      | _ => exact iff_of_false (by simp [swap_pairs]) (hother (by simp))

theorem swap_pairs_escapes {coords : JsonValue} :
    Uncaught (swap_pairs frames coords) ↔ Escapes frames coords := by
  induction frames generalizing coords with
  | zero => exact iff_of_true (by simp [swap_pairs, uncaught_error, caught]) (.limit coords)
  | succ frames ih =>
      cases coords with
      | arr xs =>
          cases xs with
          | nil =>
              exact iff_of_false (by simp [swap_pairs, uncaught_error, caught]) (by rintro ⟨⟩)
          | cons first rest =>
              by_cases hn : is_number first = true
              · cases rest with
                | nil =>
                    refine iff_of_false (by simp [swap_pairs, hn, uncaught_error, caught]) (fun h => ?_)
                    cases h with
                    | part hn' => simp [hn] at hn'
                | cons second rest =>
                    rw [swap_pairs_pair hn, swap_pair_uncaught]
                    constructor
                    · rintro (h | ⟨hlat, h⟩)
                      · exact .latitude h
                      · exact .longitude hlat h
                    · intro h
                      cases h with
                      | latitude h => exact .inl h
                      | longitude hlat h => exact .inr ⟨hlat, h⟩
                      | part hn' => simp [hn] at hn'
              · rw [Bool.not_eq_true] at hn
                rw [swap_pairs_parts hn, uncaught_map, swap_parts_uncaught]
                simp only [ih, swap_pairs_walks]
                constructor
                · rintro ⟨walked, p, after, hs, hw, hp⟩
                  exact .part hn hs hw hp
                · intro h
                  cases h with
                  | latitude h => simp [too_large_number h] at hn
                  | longitude hlat h =>
                      obtain ⟨y, hy⟩ := finite_isOk.mpr hlat
                      cases first <;> simp_all [is_finite, is_number]
                  | part _ hs hw hp => exact ⟨_, _, _, hs, hw, hp⟩
      | str s =>
          by_cases hs : s = ""
          · refine iff_of_false (by simp [swap_pairs, hs, uncaught_error, caught]) (fun h => ?_)
            cases h with
            | text hne => exact hne hs
          · exact iff_of_true (by simp [swap_pairs, hs, uncaught_error, caught]) (.text hs)
      | bool b =>
          refine iff_of_false ?_ (by rintro ⟨⟩)
          cases b <;> simp [swap_pairs, uncaught_error, caught]
      | null =>
          exact iff_of_false (by simp [swap_pairs, uncaught_error, caught]) (by rintro ⟨⟩)
      | int n =>
          refine iff_of_false ?_ (by rintro ⟨⟩)
          by_cases hn : n = 0 <;> simp [swap_pairs, hn, uncaught_error, caught]
      | float x =>
          refine iff_of_false ?_ (by rintro ⟨⟩)
          by_cases hx : x.magnitude = 0 <;> simp [swap_pairs, hx, uncaught_error, caught]
      | obj kvs =>
          refine iff_of_false ?_ (by rintro ⟨⟩)
          by_cases hk : kvs = [] <;> simp [swap_pairs, hk, uncaught_error, caught]

end GeoHazard.EffisParser

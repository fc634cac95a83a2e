import GeoHazard.Library.OrderBy
import GeoHazard.Core.Text
import Mathlib.Data.String.Basic

namespace GeoHazard

structure Province (G : Type) where
  code : String
  name : String
  geom : G

-- PostGIS; any of its functions can raise. overlap is ST_Area(ST_Intersection(_, _))
structure Overlay (G A : Type) where
  ST_Intersects : G → G → Except PyError Bool
  ST_Dimension : G → Except PyError Nat
  overlap : G → G → Except PyError A

variable {G A : Type} [LinearOrder A] [Zero A] (gis : Overlay G A)

def overlap_of (g : G) (p : Province G) : Except PyError A := do
  let dimension ← gis.ST_Dimension g
  if dimension = 0 then .ok 0 else gis.overlap p.geom g

def hit (g : G) (p : Province G) : Except PyError (Option (A × String)) := do
  let intersects ← gis.ST_Intersects p.geom g
  if intersects then do
    let overlap ← overlap_of gis g p
    .ok (some (overlap, p.code))
  else .ok none

-- ORDER BY the overlap DESC, code; the codes are two digits, so no collation changes their order
def overlaps_before (a b : A × String) : Prop := b.1 < a.1 ∨ (a.1 = b.1 ∧ a.2 ≤ b.2)

instance (a b : A × String) : Decidable (overlaps_before a b) := inferInstanceAs (Decidable (_ ∨ _))

def hazard_event_province (provinces : List (Province G)) (g : G) : Option String :=
  match collect (hit gis g) provinces with
  | .ok hits => (OrderBy.limited overlaps_before 1 (hits.filterMap id)).head?.map Prod.snd
  -- EXCEPTION WHEN OTHERS
  | .error _ => none

variable {gis} {provinces provinces' : List (Province G)} {g : G} {c : String}

-- the province is among those that the event meets, and none has more of it or as much and a
-- smaller code
def Belongs (gis : Overlay G A) (provinces : List (Province G)) (g : G) (c : String) : Prop :=
  ∃ p ∈ provinces, p.code = c ∧ ∃ overlap, hit gis g p = .ok (some (overlap, c)) ∧
    ∀ q ∈ provinces, ∀ r, hit gis g q = .ok (some r) → r.1 < overlap ∨ (r.1 = overlap ∧ c ≤ r.2)

omit [Zero A] in
theorem overlaps_by : OrderBy.By (fun a b : A × String => overlaps_before a b)
    (fun r => toLex (OrderDual.toDual r.1, r.2)) :=
  ⟨fun {a b} => by rw [Prod.Lex.toLex_le_toLex]; rfl⟩

omit [LinearOrder A] in
theorem hit_code {p : Province G} {r : A × String} (h : hit gis g p = .ok (some r)) : r.2 = p.code := by
  obtain ⟨intersects, -, h⟩ := bind_ok.mp h
  split at h
  · obtain ⟨overlap, -, h⟩ := bind_ok.mp h
    rw [← Option.some.inj (Except.ok.inj h)]
  · simp at h

omit [LinearOrder A] in
theorem mem_hits {hits : List (Option (A × String))} (h : collect (hit gis g) provinces = .ok hits)
    {r : A × String} :
    r ∈ hits.filterMap id ↔ ∃ p ∈ provinces, hit gis g p = .ok (some r) := by
  rw [List.mem_filterMap]
  constructor
  · rintro ⟨o, ho, rfl⟩
    exact collect_mem h ho
  · rintro ⟨p, hp, hr⟩
    obtain ⟨o, ho, heq⟩ := mem_collect h hp
    exact ⟨o, ho, (Except.ok.inj (hr.symm.trans heq)).symm⟩

theorem province_of_hits {hits : List (Option (A × String))}
    (h : collect (hit gis g) provinces = .ok hits) :
    hazard_event_province gis provinces g =
      ((hits.filterMap id).insertionSort overlaps_before).head?.map Prod.snd := by
  rw [hazard_event_province, h]
  simp [OrderBy.limited, List.head?_take]

theorem province_iff :
    hazard_event_province gis provinces g = some c ↔
      (∀ p ∈ provinces, ∃ o, hit gis g p = .ok o) ∧ Belongs gis provinces g c := by
  constructor
  · intro h
    cases hc : collect (hit gis g) provinces with
    | error e => simp [hazard_event_province, hc] at h
    | ok hits =>
        rw [province_of_hits hc] at h
        obtain ⟨⟨overlap, code⟩, hhead, rfl⟩ := Option.map_eq_some_iff.mp h
        obtain ⟨hmem, hleast⟩ := overlaps_by.head hhead
        obtain ⟨p, hp, hhit⟩ := (mem_hits hc).mp hmem
        refine ⟨fun q hq => ?_, p, hp, (hit_code hhit).symm, overlap, hhit, fun q hq r hr => ?_⟩
        · obtain ⟨o, -, ho⟩ := mem_collect hc hq
          exact ⟨o, ho⟩
        · exact (hleast r ((mem_hits hc).mpr ⟨q, hq, hr⟩)).imp_right (fun h => ⟨h.1.symm, h.2⟩)
  · rintro ⟨hall, p, hp, -, overlap, hhit, hbest⟩
    obtain ⟨hits, hc⟩ := collect_exists hall
    have hmem := (mem_hits hc).mpr ⟨p, hp, hhit⟩
    rw [province_of_hits hc]
    cases hhead : ((hits.filterMap id).insertionSort overlaps_before).head? with
    | none =>
        have hsorted := (List.mem_insertionSort overlaps_before).mpr hmem
        rw [List.head?_eq_none_iff.mp hhead] at hsorted
        exact absurd hsorted List.not_mem_nil
    | some x =>
        obtain ⟨hx, hleast⟩ := overlaps_by.head hhead
        obtain ⟨q, hq, hqx⟩ := (mem_hits hc).mp hx
        refine congrArg some ?_
        rcases hleast _ hmem with hlt | ⟨heq, hle⟩
        · rcases hbest q hq x hqx with hlt' | ⟨heq', -⟩
          · exact absurd hlt hlt'.asymm
          · exact absurd heq' hlt.ne'
        · rcases hbest q hq x hqx with hlt' | ⟨-, hle'⟩
          · exact absurd heq hlt'.ne
          · exact le_antisymm hle hle'

theorem province_none :
    hazard_event_province gis provinces g = none ↔
      (∃ p ∈ provinces, ∃ e, hit gis g p = .error e) ∨ ∀ p ∈ provinces, hit gis g p = .ok none := by
  cases hc : collect (hit gis g) provinces with
  | error e =>
      have hno : ¬ ∀ p ∈ provinces, ∃ o, hit gis g p = .ok o := by
        intro hall
        obtain ⟨hits, heq⟩ := collect_exists hall
        simp [hc] at heq
      obtain ⟨p, hno⟩ := not_forall.mp hno
      obtain ⟨hp, hne⟩ := Classical.not_imp.mp hno
      refine iff_of_true (by rw [hazard_event_province, hc]) (.inl ⟨p, hp, ?_⟩)
      cases hh : hit gis g p with
      | error e => exact ⟨e, rfl⟩
      | ok o => exact absurd ⟨o, hh⟩ hne
  | ok hits =>
      have hok : ∀ p ∈ provinces, ∃ o ∈ hits, hit gis g p = .ok o := fun p hp => mem_collect hc hp
      rw [province_of_hits hc, Option.map_eq_none_iff, List.head?_eq_none_iff]
      have hnil : (hits.filterMap id).insertionSort overlaps_before = [] ↔ hits.filterMap id = [] := by
        rw [← List.length_eq_zero_iff, List.length_insertionSort, List.length_eq_zero_iff]
      rw [hnil]
      constructor
      · intro hempty
        refine .inr (fun p hp => ?_)
        obtain ⟨o, ho, hhit⟩ := hok p hp
        cases o with
        | none => exact hhit
        | some r =>
            have hmem := (mem_hits hc).mpr ⟨p, hp, hhit⟩
            rw [hempty] at hmem
            exact absurd hmem List.not_mem_nil
      · rintro (⟨p, hp, e, he⟩ | hall)
        · obtain ⟨o, -, hhit⟩ := hok p hp
          simp [he] at hhit
        · refine List.eq_nil_iff_forall_not_mem.mpr (fun r hr => ?_)
          obtain ⟨p, hp, hhit⟩ := (mem_hits hc).mp hr
          simp [hall p hp] at hhit

theorem province_perm (hp : provinces.Perm provinces') :
    hazard_event_province gis provinces g = hazard_event_province gis provinces' g := by
  have hsame : ∀ p, p ∈ provinces ↔ p ∈ provinces' := fun p => hp.mem_iff
  refine Option.ext (fun c => ?_)
  rw [province_iff, province_iff]
  simp only [Belongs, hsame]

end GeoHazard

import GeoHazard.Library.JsonText
import Mathlib.Data.List.Perm.Basic

namespace Json

variable {F : Type}

-- equal up to the order of the keys of their objects, at every level
mutual
inductive Reordered : Json F → Json F → Prop
  | null : Reordered .null .null
  | bool (b : Bool) : Reordered (.bool b) (.bool b)
  | int (n : Int) : Reordered (.int n) (.int n)
  | float (x : F) : Reordered (.float x) (.float x)
  | str (s : String) : Reordered (.str s) (.str s)
  | arr {xs ys : List (Json F)} (items : ReorderedList xs ys) : Reordered (.arr xs) (.arr ys)
  | obj {kvs lvs mvs : List (String × Json F)} (fields : ReorderedFields kvs lvs)
      (order : lvs.Perm mvs) : Reordered (.obj kvs) (.obj mvs)

inductive ReorderedList : List (Json F) → List (Json F) → Prop
  | nil : ReorderedList [] []
  | cons {x y : Json F} {xs ys : List (Json F)} (head : Reordered x y) (tail : ReorderedList xs ys) :
      ReorderedList (x :: xs) (y :: ys)

inductive ReorderedFields : List (String × Json F) → List (String × Json F) → Prop
  | nil : ReorderedFields [] []
  | cons (k : String) {v w : Json F} {kvs lvs : List (String × Json F)} (head : Reordered v w)
      (tail : ReorderedFields kvs lvs) : ReorderedFields ((k, v) :: kvs) ((k, w) :: lvs)
end

-- no object has a key twice
mutual
def Keyed : Json F → Prop
  | .arr xs => KeyedList xs
  | .obj kvs => (Dict.keys kvs).Nodup ∧ KeyedFields kvs
  | _ => True

def KeyedList : List (Json F) → Prop
  | [] => True
  | x :: xs => Keyed x ∧ KeyedList xs

def KeyedFields : List (String × Json F) → Prop
  | [] => True
  | (_, v) :: kvs => Keyed v ∧ KeyedFields kvs
end

theorem keys_canonFields (kvs : List (String × Json F)) :
    Dict.keys (canonFields kvs) = Dict.keys kvs := by
  rw [canonFields_eq_map]
  simp [Dict.keys]

theorem sortKeys_pairwise {α : Type} (kvs : List (String × α)) :
    (sortKeys kvs).Pairwise (fun a b => a.1 ≤ b.1) := by
  have htotal : Std.Total (fun a b : String × α => a.1 ≤ b.1) := ⟨fun a b => le_total a.1 b.1⟩
  have htrans : IsTrans (String × α) (fun a b => a.1 ≤ b.1) := ⟨fun _ _ _ => le_trans⟩
  exact List.pairwise_insertionSort _ kvs

theorem sortKeys_eq_of_perm {α : Type} {kvs lvs : List (String × α)} (h : kvs.Perm lvs)
    (hn : (Dict.keys kvs).Nodup) : sortKeys kvs = sortKeys lvs := by
  have hperm : (sortKeys kvs).Perm (sortKeys lvs) :=
    (sortKeys_perm kvs).trans (h.trans (sortKeys_perm lvs).symm)
  refine hperm.eq_of_pairwise (fun a b ha hb hab hba => ?_) (sortKeys_pairwise kvs)
    (sortKeys_pairwise lvs)
  have ha' : a ∈ kvs := (sortKeys_perm kvs).mem_iff.mp ha
  have hb' : b ∈ kvs := h.mem_iff.mpr ((sortKeys_perm lvs).mem_iff.mp hb)
  have hkey : a.1 = b.1 := le_antisymm hab hba
  have hva := (Dict.get_iff hn).mpr ha'
  have hvb := (Dict.get_iff hn).mpr hb'
  rw [hkey, hvb] at hva
  exact Prod.ext hkey (Option.some.inj hva).symm

theorem exists_of_perm_map {α β : Type} {f : α → β} {ys : List β} {xs : List α}
    (h : ys.Perm (xs.map f)) : ∃ zs : List α, ys = zs.map f ∧ zs.Perm xs := by
  have heq := congrFun (congrFun (List.eq_map_comp_perm f) ys) xs
  exact heq.mpr h

mutual
theorem canon_eq_of_reordered : ∀ {v w : Json F}, Reordered v w → Keyed v → canon v = canon w
  | _, _, .null, _ => rfl
  | _, _, .bool _, _ => rfl
  | _, _, .int _, _ => rfl
  | _, _, .float _, _ => rfl
  | _, _, .str _, _ => rfl
  | _, _, .arr items, hk => by
      simp only [Keyed] at hk
      rw [canon, canon, canonList_eq_of_reordered items hk]
  | .obj kvs, .obj mvs, .obj fields order, hk => by
      obtain ⟨hn, hk⟩ := hk
      have hfields := canonFields_eq_of_reordered fields hk
      have hperm : (canonFields kvs).Perm (canonFields mvs) := by
        rw [hfields, canonFields_eq_map, canonFields_eq_map]
        exact order.map _
      rw [canon, canon, sortKeys_eq_of_perm hperm (by rwa [keys_canonFields])]

theorem canonList_eq_of_reordered : ∀ {xs ys : List (Json F)}, ReorderedList xs ys →
    KeyedList xs → canonList xs = canonList ys
  | _, _, .nil, _ => rfl
  | _, _, .cons head tail, hk => by
      rw [canonList, canonList, canon_eq_of_reordered head hk.1, canonList_eq_of_reordered tail hk.2]

theorem canonFields_eq_of_reordered : ∀ {kvs lvs : List (String × Json F)},
    ReorderedFields kvs lvs → KeyedFields kvs → canonFields kvs = canonFields lvs
  | _, _, .nil, _ => rfl
  | _, _, .cons k head tail, hk => by
      rw [canonFields, canonFields, canon_eq_of_reordered head hk.1,
        canonFields_eq_of_reordered tail hk.2]
end

mutual
theorem reordered_of_canon : ∀ (v w : Json F), canon v = canon w → Reordered v w := by
  intro v w h
  match v with
  | .null =>
      cases w <;> simp only [canon, reduceCtorEq] at h
      exact .null
  | .bool b =>
      cases w <;> simp only [canon, reduceCtorEq, Json.bool.injEq] at h
      exact h ▸ .bool b
  | .int n =>
      cases w <;> simp only [canon, reduceCtorEq, Json.int.injEq] at h
      exact h ▸ .int n
  | .float x =>
      cases w <;> simp only [canon, reduceCtorEq, Json.float.injEq] at h
      exact h ▸ .float x
  | .str s =>
      cases w <;> simp only [canon, reduceCtorEq, Json.str.injEq] at h
      exact h ▸ .str s
  | .arr xs =>
      cases w <;> simp only [canon, reduceCtorEq, Json.arr.injEq] at h
      exact .arr (reorderedList_of_canon xs _ h)
  | .obj kvs =>
      cases w <;> simp only [canon, reduceCtorEq, Json.obj.injEq] at h
      next mvs =>
      have hperm : (canonFields kvs).Perm (canonFields mvs) := by
        refine (sortKeys_perm _).symm.trans ?_
        rw [h]
        exact sortKeys_perm _
      rw [canonFields_eq_map mvs] at hperm
      obtain ⟨lvs, hl, horder⟩ := exists_of_perm_map hperm
      rw [← canonFields_eq_map] at hl
      exact .obj (reorderedFields_of_canon kvs lvs hl) horder

theorem reorderedList_of_canon : ∀ (xs ys : List (Json F)), canonList xs = canonList ys →
    ReorderedList xs ys := by
  intro xs ys h
  match xs with
  | [] =>
      cases ys <;> simp only [canonList, reduceCtorEq] at h
      exact .nil
  | x :: xs =>
      cases ys <;> simp only [canonList, reduceCtorEq, List.cons.injEq] at h
      exact .cons (reordered_of_canon x _ h.1) (reorderedList_of_canon xs _ h.2)

theorem reorderedFields_of_canon : ∀ (kvs lvs : List (String × Json F)),
    canonFields kvs = canonFields lvs → ReorderedFields kvs lvs := by
  intro kvs lvs h
  match kvs with
  | [] =>
      match lvs with
      | [] => exact .nil
      | (l, w) :: lvs => simp [canonFields] at h
  | (k, v) :: kvs =>
      match lvs with
      | [] => simp [canonFields] at h
      | (l, w) :: lvs =>
          simp only [canonFields, List.cons.injEq, Prod.mk.injEq] at h
          obtain ⟨⟨rfl, hv⟩, ht⟩ := h
          exact .cons k (reordered_of_canon v w hv) (reorderedFields_of_canon kvs lvs ht)
end

theorem canon_eq_iff {v w : Json F} (h : Keyed v) : canon v = canon w ↔ Reordered v w :=
  ⟨reordered_of_canon v w, fun hr => canon_eq_of_reordered hr h⟩

end Json

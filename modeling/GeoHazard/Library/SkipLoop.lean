namespace GeoHazard.SkipLoop

variable {α β ε : Type} (f : α → Except ε (Option β))

-- the loop of a lenient reader: an element that gives nothing is left out, an exception ends it
def loop : List α → Except ε (List β)
  | [] => .ok []
  | x :: xs =>
      match f x with
      | .error e => .error e
      | .ok y =>
          match loop xs with
          | .error e => .error e
          | .ok ys => .ok (y.toList ++ ys)

variable {f} {usable : α → Option β} {xs : List α}

theorem loop_error {e : ε} (h : loop f xs = .error e) : ∃ x ∈ xs, f x = .error e := by
  induction xs with
  | nil => simp [loop] at h
  | cons x xs ih =>
      cases hx : f x with
      | error e' =>
          simp only [loop, hx, Except.error.injEq] at h
          exact ⟨x, by simp, h ▸ hx⟩
      | ok y =>
          cases hxs : loop f xs with
          | error e' =>
              simp only [loop, hx, hxs, Except.error.injEq] at h
              obtain ⟨z, hz, he⟩ := ih (hxs.trans (congrArg Except.error h))
              exact ⟨z, by simp [hz], he⟩
          | ok ys => simp [loop, hx, hxs] at h

theorem loop_usable (h : ∀ x ∈ xs, f x = .ok (usable x)) : loop f xs = .ok (xs.filterMap usable) := by
  induction xs with
  | nil => rfl
  | cons x xs ih =>
      have hx := h x (by simp)
      have hrest := ih (fun y hy => h y (by simp [hy]))
      simp only [loop, hx, hrest, List.filterMap_cons]
      cases usable x <;> rfl

theorem length_usable_le (hkeep : ∀ x y, usable x = some y → f x = .ok (some y)) {ys : List β}
    (h : loop f xs = .ok ys) : (xs.filterMap usable).length ≤ ys.length := by
  induction xs generalizing ys with
  | nil => simp
  | cons x xs ih =>
      cases hx : f x with
      | error e => simp [loop, hx] at h
      | ok y =>
          cases hxs : loop f xs with
          | error e => simp [loop, hx, hxs] at h
          | ok zs =>
              simp only [loop, hx, hxs, Except.ok.injEq] at h
              subst h
              have hle := ih hxs
              cases hu : usable x with
              | none =>
                  simp only [List.filterMap_cons, hu, List.length_append]
                  omega
              | some z =>
                  obtain rfl := Except.ok.inj (hx.symm.trans (hkeep x z hu))
                  simp only [List.filterMap_cons, hu, List.length_cons, Option.toList_some,
                    List.length_append, List.length_nil]
                  omega

theorem usable_of_loop (hkeep : ∀ x y, usable x = some y → f x = .ok (some y))
    (h : loop f xs = .ok (xs.filterMap usable)) : ∀ x ∈ xs, f x = .ok (usable x) := by
  induction xs with
  | nil => simp
  | cons x xs ih =>
      cases hx : f x with
      | error e => simp [loop, hx] at h
      | ok y =>
          cases hxs : loop f xs with
          | error e => simp [loop, hx, hxs] at h
          | ok zs =>
              have hle := length_usable_le hkeep hxs
              simp only [loop, hx, hxs, Except.ok.injEq] at h
              cases hu : usable x with
              | none =>
                  simp only [List.filterMap_cons, hu] at h
                  cases y with
                  | some z =>
                      have hlen := congrArg List.length h
                      simp only [Option.toList_some, List.length_append, List.length_singleton] at hlen
                      omega
                  | none =>
                      simp only [Option.toList_none, List.nil_append] at h
                      simp only [List.mem_cons, forall_eq_or_imp, hx, hu, true_and]
                      exact ih (hxs.trans (congrArg Except.ok h))
              | some z =>
                  have hy := Except.ok.inj (hx.symm.trans (hkeep x z hu))
                  subst hy
                  simp only [List.filterMap_cons, hu, Option.toList_some, List.cons_append,
                    List.nil_append, List.cons.injEq, true_and] at h
                  simp only [List.mem_cons, forall_eq_or_imp, hx, hu, true_and]
                  exact ih (hxs.trans (congrArg Except.ok h))

theorem loop_usable_iff (hkeep : ∀ x y, usable x = some y → f x = .ok (some y)) :
    loop f xs = .ok (xs.filterMap usable) ↔ ∀ x ∈ xs, f x = .ok (usable x) :=
  ⟨usable_of_loop hkeep, loop_usable⟩

end GeoHazard.SkipLoop

import Mathlib.Tactic.Common

namespace GeoHazard

def isspace (c : Char) : Bool :=
  (9 ≤ c.toNat && c.toNat ≤ 13) || (28 ≤ c.toNat && c.toNat ≤ 32) || c.toNat == 0x85 ||
    c.toNat == 0xa0 || c.toNat == 0x1680 || (0x2000 ≤ c.toNat && c.toNat ≤ 0x200a) ||
    c.toNat == 0x2028 || c.toNat == 0x2029 || c.toNat == 0x202f || c.toNat == 0x205f ||
    c.toNat == 0x3000

def strip (s : String) : String :=
  String.ofList ((s.toList.dropWhile isspace).reverse.dropWhile isspace).reverse

def lower (s : String) : String := String.ofList (s.toList.map Char.toLower)

def splitWords (word : List Char) : List Char → List (List Char)
  | [] => if word = [] then [] else [word.reverse]
  | c :: cs =>
      if isspace c then
        if word = [] then splitWords [] cs else word.reverse :: splitWords [] cs
      else splitWords (c :: word) cs

def split (s : String) : List String := (splitWords [] s.toList).map String.ofList

def startswith (start s : String) : Bool := start.toList.isPrefixOf s.toList

def partition (sep : Char) (s : String) : String × String :=
  (String.ofList (s.toList.takeWhile (· ≠ sep)),
    String.ofList ((s.toList.dropWhile (· ≠ sep)).drop 1))

def truthy : Option String → Bool
  | none => false
  | some s => s != ""

theorem bind_ok {ε α β : Type} {x : Except ε α} {f : α → Except ε β} {b : β} :
    x >>= f = .ok b ↔ ∃ a, x = .ok a ∧ f a = .ok b := by
  cases x with
  | error e => simp [bind, Except.bind]
  | ok a => simp [bind, Except.bind]

theorem bind_error {ε α β : Type} {x : Except ε α} {f : α → Except ε β} {e : ε} :
    x >>= f = .error e ↔ x = .error e ∨ ∃ a, x = .ok a ∧ f a = .error e := by
  cases x with
  | error e => simp [bind, Except.bind]
  | ok a => simp [bind, Except.bind]

inductive PyError where
  | value_error (message : String) (value : Option String)
  | dbapi_error (message : String)
  | runtime_error (message : String)
  | overflow_error (message : String)
  | key_error (key : Nat)
  | not_found (entity : String) (entity_id : Nat)
  deriving DecidableEq

-- asyncpg binds at most 32767 arguments to a statement
def bind_arguments (n : Nat) : Except PyError Unit :=
  if n ≤ 32767 then .ok ()
  else .error (.dbapi_error "the number of query arguments cannot exceed 32767")

theorem bind_arguments_ok {n : Nat} {u : Unit} : bind_arguments n = .ok u ↔ n ≤ 32767 := by
  simp [bind_arguments]

def collect {α β : Type} (f : α → Except PyError β) : List α → Except PyError (List β)
  | [] => .ok []
  | x :: xs =>
      match f x with
      | .error e => .error e
      | .ok y =>
          match collect f xs with
          | .error e => .error e
          | .ok ys => .ok (y :: ys)

theorem collect_forall₂ {α β : Type} {f : α → Except PyError β} {xs : List α} {ys : List β}
    (h : collect f xs = .ok ys) : List.Forall₂ (fun x y => f x = .ok y) xs ys := by
  induction xs generalizing ys with
  | nil =>
      simp only [collect, Except.ok.injEq] at h
      exact h ▸ .nil
  | cons x xs ih =>
      simp only [collect] at h
      split at h
      · simp at h
      · next y hy =>
          split at h
          · simp at h
          · next zs hz =>
              simp only [Except.ok.injEq] at h
              exact h ▸ .cons hy (ih hz)

theorem collect_of_forall₂ {α β : Type} {f : α → Except PyError β} {xs : List α} {ys : List β}
    (h : List.Forall₂ (fun x y => f x = .ok y) xs ys) : collect f xs = .ok ys := by
  induction h with
  | nil => rfl
  | cons hxy _ ih => simp only [collect, hxy, ih]

theorem collect_mem {α β : Type} {f : α → Except PyError β} {xs : List α} {ys : List β}
    (h : collect f xs = .ok ys) {y : β} (hy : y ∈ ys) : ∃ x ∈ xs, f x = .ok y := by
  have hall := collect_forall₂ h
  clear h
  induction hall with
  | nil => simp at hy
  | @cons x z xs zs hxz _ ih =>
      rcases List.mem_cons.mp hy with rfl | hy
      · exact ⟨x, by simp, hxz⟩
      · obtain ⟨w, hw, hf⟩ := ih hy
        exact ⟨w, by simp [hw], hf⟩

theorem collect_exists {α β : Type} {f : α → Except PyError β} {xs : List α}
    (h : ∀ x ∈ xs, ∃ y, f x = .ok y) : ∃ ys, collect f xs = .ok ys := by
  induction xs with
  | nil => exact ⟨[], rfl⟩
  | cons x xs ih =>
      obtain ⟨y, hy⟩ := h x (by simp)
      obtain ⟨ys, hys⟩ := ih (fun x hx => h x (by simp [hx]))
      exact ⟨y :: ys, collect_of_forall₂ (.cons hy (collect_forall₂ hys))⟩

theorem mem_collect {α β : Type} {f : α → Except PyError β} {xs : List α} {ys : List β}
    (h : collect f xs = .ok ys) {x : α} (hx : x ∈ xs) : ∃ y ∈ ys, f x = .ok y := by
  have hall := collect_forall₂ h
  clear h
  induction hall with
  | nil => simp at hx
  | @cons w y ws ys hwy _ ih =>
      rcases List.mem_cons.mp hx with rfl | hx
      · exact ⟨y, by simp, hwy⟩
      · obtain ⟨z, hz, hf⟩ := ih hx
        exact ⟨z, by simp [hz], hf⟩

end GeoHazard

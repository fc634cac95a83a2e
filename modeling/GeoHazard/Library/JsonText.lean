import GeoHazard.Library.Json
import Mathlib.Data.Char

namespace Json

def hex4 (n : Nat) : List Char :=
  [Nat.digitChar (n / 4096 % 16), Nat.digitChar (n / 256 % 16), Nat.digitChar (n / 16 % 16),
    Nat.digitChar (n % 16)]

def escape (c : Char) : List Char :=
  if c = '"' then ['\\', '"']
  else if c = '\\' then ['\\', '\\']
  else if c = '\n' then ['\\', 'n']
  else if c = '\r' then ['\\', 'r']
  else if c = '\t' then ['\\', 't']
  else if c = Char.ofNat 12 then ['\\', 'f']
  else if c = Char.ofNat 8 then ['\\', 'b']
  else if 32 ≤ c.toNat ∧ c.toNat ≤ 126 then [c]
  else if c.toNat < 65536 then '\\' :: 'u' :: hex4 c.toNat
  else '\\' :: 'u' :: hex4 (0xd800 + (c.toNat - 65536) / 1024) ++
    '\\' :: 'u' :: hex4 (0xdc00 + (c.toNat - 65536) % 1024)

def hexVal (c : Char) : Nat := if c.isDigit then c.toNat - 48 else c.toNat - 87

def val4 (a b c d : Char) : Nat := ((hexVal a * 16 + hexVal b) * 16 + hexVal c) * 16 + hexVal d

def readUnicode : List Char → Option (Nat × List Char)
  | '\\' :: 'u' :: a :: b :: c :: d :: cs => some (val4 a b c d, cs)
  | _ => none

def readEscaped (e : Char) (cs : List Char) : Option (Char × List Char) :=
  if e = 'n' then some ('\n', cs)
  else if e = 'r' then some ('\r', cs)
  else if e = 't' then some ('\t', cs)
  else if e = 'f' then some (Char.ofNat 12, cs)
  else if e = 'b' then some (Char.ofNat 8, cs)
  else some (e, cs)

def unescape : List Char → Option (Char × List Char)
  | [] => none
  | [c] => some (c, [])
  | c :: e :: cs =>
      if c = '\\' then
        if e = 'u' then do
          let (v, cs) ← readUnicode (c :: e :: cs)
          if 0xd800 ≤ v ∧ v < 0xdc00 then do
            let (w, cs) ← readUnicode cs
            some (Char.ofNat (65536 + (v - 0xd800) * 1024 + (w - 0xdc00)), cs)
          else some (Char.ofNat v, cs)
        else readEscaped e cs
      else some (c, e :: cs)

def quoteTail : List Char → List Char
  | [] => ['"']
  | c :: cs => escape c ++ quoteTail cs

def quote (s : String) : List Char := '"' :: quoteTail s.toList

theorem hexVal_digitChar : ∀ d < 16, hexVal (Nat.digitChar d) = d := by decide

theorem readUnicode_hex4 {n : Nat} (h : n < 65536) (cs : List Char) :
    readUnicode ('\\' :: 'u' :: hex4 n ++ cs) = some (n, cs) := by
  have h1 := hexVal_digitChar (n / 4096 % 16) (Nat.mod_lt _ (by decide))
  have h2 := hexVal_digitChar (n / 256 % 16) (Nat.mod_lt _ (by decide))
  have h3 := hexVal_digitChar (n / 16 % 16) (Nat.mod_lt _ (by decide))
  have h4 := hexVal_digitChar (n % 16) (Nat.mod_lt _ (by decide))
  simp only [hex4, List.cons_append, List.nil_append, readUnicode, val4, h1, h2, h3, h4,
    Option.some.injEq, Prod.mk.injEq, and_true]
  omega

theorem toNat_valid (c : Char) :
    c.toNat < 0xd800 ∨ (0xdfff < c.toNat ∧ c.toNat < 0x110000) := c.valid

theorem unescape_unicode {n : Nat} (h : n < 65536) (hs : ¬ (0xd800 ≤ n ∧ n < 0xdc00))
    (cs : List Char) : unescape ('\\' :: 'u' :: hex4 n ++ cs) = some (Char.ofNat n, cs) := by
  have hr := readUnicode_hex4 h cs
  simp only [List.cons_append] at hr
  simp only [List.cons_append, unescape, if_true, hr, Option.bind_eq_bind, Option.bind_some,
    if_neg hs]

theorem unescape_surrogates {m n : Nat} (hm : m < 1024) (hn : n < 1024) (cs : List Char) :
    unescape ('\\' :: 'u' :: hex4 (0xd800 + m) ++ ('\\' :: 'u' :: hex4 (0xdc00 + n) ++ cs)) =
      some (Char.ofNat (65536 + m * 1024 + n), cs) := by
  have hr := readUnicode_hex4 (n := 0xd800 + m) (by omega)
    ('\\' :: 'u' :: hex4 (0xdc00 + n) ++ cs)
  have hq := readUnicode_hex4 (n := 0xdc00 + n) (by omega) cs
  have hs : 0xd800 ≤ 0xd800 + m ∧ 0xd800 + m < 0xdc00 := by omega
  simp only [List.cons_append] at hr hq
  simp only [List.cons_append, unescape, if_true, hr, hq, Option.bind_eq_bind, Option.bind_some,
    if_pos hs, Nat.add_sub_cancel_left]

theorem unescape_escape (c : Char) (cs : List Char) : unescape (escape c ++ cs) = some (c, cs) := by
  have hv := toNat_valid c
  unfold escape
  split
  · next h => simp [h, unescape, readEscaped]
  split
  · next h => simp [h, unescape, readEscaped]
  split
  · next h => simp [h, unescape, readEscaped]
  split
  · next h => simp [h, unescape, readEscaped]
  split
  · next h => simp [h, unescape, readEscaped]
  split
  · next h => simp [h, unescape, readEscaped]
  split
  · next h => simp [h, unescape, readEscaped]
  next h1 h2 h3 h4 h5 h6 h7 =>
  split
  · cases cs with
    | nil => rfl
    | cons e cs => simp [unescape, h2]
  split
  · next h8 h9 =>
      rw [unescape_unicode h9 (by omega), Char.ofNat_toNat]
  · next h8 h9 =>
      have hsum : 65536 + (c.toNat - 65536) / 1024 * 1024 + (c.toNat - 65536) % 1024 = c.toNat := by
        omega
      rw [List.append_assoc, unescape_surrogates (by omega) (Nat.mod_lt _ (by decide)), hsum,
        Char.ofNat_toNat]

theorem escape_head (c : Char) : ∃ d ds, escape c = d :: ds ∧ d ≠ '"' := by
  unfold escape
  repeat' split
  all_goals first | exact ⟨_, _, rfl, by decide⟩ | exact ⟨_, _, rfl, by assumption⟩

theorem quoteTail_inj {s s' : List Char} {r r' : List Char}
    (h : quoteTail s ++ r = quoteTail s' ++ r') : s = s' ∧ r = r' := by
  induction s generalizing s' with
  | nil =>
      cases s' with
      | nil => simpa [quoteTail] using h
      | cons c cs =>
          obtain ⟨d, ds, hd, hne⟩ := escape_head c
          simp only [quoteTail, hd, List.cons_append, List.nil_append, List.cons.injEq] at h
          exact absurd h.1.symm hne
  | cons c cs ih =>
      cases s' with
      | nil =>
          obtain ⟨d, ds, hd, hne⟩ := escape_head c
          simp only [quoteTail, hd, List.cons_append, List.nil_append, List.cons.injEq] at h
          exact absurd h.1 hne
      | cons c' cs' =>
          simp only [quoteTail, List.append_assoc] at h
          have hu := congrArg unescape h
          simp only [unescape_escape, Option.some.injEq, Prod.mk.injEq] at hu
          obtain ⟨hc, ht⟩ := ih hu.2
          exact ⟨by rw [hu.1, hc], ht⟩

theorem quote_inj {s s' : String} {r r' : List Char} (h : quote s ++ r = quote s' ++ r') :
    s = s' ∧ r = r' := by
  simp only [quote, List.cons_append, List.cons.injEq, true_and] at h
  obtain ⟨hs, hr⟩ := quoteTail_inj h
  exact ⟨String.toList_inj.mp hs, hr⟩

def intText (n : Int) : List Char := (toString n).toList

def isNumChar (c : Char) : Bool := c.isDigit || c == '-' || c == '+' || c == '.' || c == 'e'

variable {F : Type} (ft : FloatText F)

mutual
def dump : Json F → List Char
  | .null => ['n', 'u', 'l', 'l']
  | .bool true => ['t', 'r', 'u', 'e']
  | .bool false => ['f', 'a', 'l', 's', 'e']
  | .int n => intText n
  | .float x => ft.text x
  | .str s => quote s
  | .arr [] => ['[', ']']
  | .arr (x :: xs) => '[' :: (dump x ++ dumpTail xs)
  | .obj [] => ['{', '}']
  | .obj ((k, v) :: kvs) => '{' :: (quote k ++ ':' :: (dump v ++ dumpFields kvs))

def dumpTail : List (Json F) → List Char
  | [] => [']']
  | x :: xs => ',' :: (dump x ++ dumpTail xs)

def dumpFields : List (String × Json F) → List Char
  | [] => ['}']
  | (k, v) :: kvs => ',' :: (quote k ++ ':' :: (dump v ++ dumpFields kvs))
end

def dumps (v : Json F) : String := String.ofList (dump ft (canon v))

theorem intText_eq (n : Int) :
    intText n = if 0 ≤ n then Nat.toDigits 10 n.toNat else '-' :: Nat.toDigits 10 (-n).toNat := by
  simp only [intText, Int.toString_eq_repr, Int.repr_eq_if]
  split
  · exact Nat.toList_repr
  · simp [String.toList_append, Nat.toList_repr]

theorem isDigit_toDigits {n : Nat} {c : Char} (h : c ∈ Nat.toDigits 10 n) : c.isDigit = true :=
  Nat.isDigit_of_mem_toDigits (by decide) (by decide) h

theorem toDigits_injective {m n : Nat} (h : Nat.toDigits 10 m = Nat.toDigits 10 n) : m = n := by
  rw [← Nat.ofDigitChars_ten_toDigits (n := m), h, Nat.ofDigitChars_ten_toDigits]

theorem intText_numeric {n : Int} {c : Char} (h : c ∈ intText n) : c.isDigit ∨ c = '-' := by
  rw [intText_eq] at h
  split at h
  · exact .inl (isDigit_toDigits h)
  · rcases List.mem_cons.mp h with rfl | h
    · exact .inr rfl
    · exact .inl (isDigit_toDigits h)

theorem minus_not_mem_toDigits (n : Nat) : '-' ∉ Nat.toDigits 10 n := by
  intro h
  exact absurd (isDigit_toDigits h) (by decide)

theorem intText_injective {m n : Int} (h : intText m = intText n) : m = n := by
  rw [intText_eq, intText_eq] at h
  split at h <;> split at h
  · have := toDigits_injective h
    omega
  · exact absurd (h ▸ List.mem_cons_self) (minus_not_mem_toDigits _)
  · exact absurd (h ▸ List.mem_cons_self) (minus_not_mem_toDigits _)
  · have := toDigits_injective (List.cons.inj h).2
    omega

theorem intText_first (n : Int) : ∃ c cs, intText n = c :: cs ∧ (c.isDigit ∨ c = '-') := by
  cases hc : intText n with
  | nil =>
      rw [intText_eq] at hc
      split at hc
      · exact absurd hc Nat.toDigits_ne_nil
      · simp at hc
  | cons c cs => exact ⟨c, cs, rfl, intText_numeric (n := n) (by simp [hc])⟩

def Delimited (r : List Char) : Prop := ∀ c cs, r = c :: cs → isNumChar c = false

theorem number_inj {t t' r r' : List Char} (ht : ∀ c ∈ t, isNumChar c = true)
    (ht' : ∀ c ∈ t', isNumChar c = true) (hr : Delimited r) (hr' : Delimited r')
    (h : t ++ r = t' ++ r') : t = t' ∧ r = r' := by
  have hspan : ∀ t r : List Char, (∀ c ∈ t, isNumChar c = true) → Delimited r →
      (t ++ r).takeWhile isNumChar = t := by
    intro t r ht hr
    rw [List.takeWhile_append_of_pos ht]
    cases r with
    | nil => simp
    | cons c cs => simp [hr c cs rfl]
  have hl : t = t' := by rw [← hspan t r ht hr, h, hspan t' r' ht' hr']
  subst hl
  exact ⟨rfl, List.append_cancel_left h⟩

theorem intText_isNumChar (n : Int) : ∀ c ∈ intText n, isNumChar c = true := by
  intro c hc
  rcases intText_numeric hc with h | h <;> simp [isNumChar, h]

theorem floatText_isNumChar (x : F) : ∀ c ∈ ft.text x, isNumChar c = true := by
  intro c hc
  rcases ft.numeric x c hc with h | h | h | h | h <;> simp [isNumChar, h]

inductive Kind where
  | null | true | false | number | str | arr | obj
  deriving DecidableEq

def kind : Json F → Kind
  | .null => .null
  | .bool true => .true
  | .bool false => .false
  | .int _ => .number
  | .float _ => .number
  | .str _ => .str
  | .arr _ => .arr
  | .obj _ => .obj

def headKind (c : Char) : Option Kind :=
  if c.isDigit || c == '-' then some .number
  else if c = 'n' then some .null
  else if c = 't' then some .true
  else if c = 'f' then some .false
  else if c = '"' then some .str
  else if c = '[' then some .arr
  else if c = '{' then some .obj
  else none

theorem headKind_number {c : Char} (h : c.isDigit ∨ c = '-') : headKind c = some .number := by
  rcases h with h | h <;> simp [headKind, h]

theorem dump_head (v : Json F) : ∃ c cs, dump ft v = c :: cs ∧ headKind c = some (kind v) := by
  cases v with
  | null => exact ⟨_, _, by rw [dump], rfl⟩
  | bool b => cases b <;> exact ⟨_, _, by rw [dump], rfl⟩
  | int n =>
      obtain ⟨c, cs, hc, hd⟩ := intText_first n
      exact ⟨c, cs, by rw [dump, hc], headKind_number hd⟩
  | float x =>
      obtain ⟨c, cs, hc, hd⟩ := ft.first x
      exact ⟨c, cs, by rw [dump, hc], headKind_number hd⟩
  | str s => exact ⟨_, _, by rw [dump, quote], rfl⟩
  | arr xs => cases xs <;> exact ⟨_, _, by rw [dump], rfl⟩
  | obj kvs => cases kvs <;> exact ⟨_, _, by rw [dump], rfl⟩

theorem kind_eq {v w : Json F} {r r' : List Char} (h : dump ft v ++ r = dump ft w ++ r') :
    kind v = kind w := by
  obtain ⟨c, cs, hc, hk⟩ := dump_head ft v
  obtain ⟨c', cs', hc', hk'⟩ := dump_head ft w
  rw [hc, hc', List.cons_append, List.cons_append] at h
  rw [← Option.some_inj, ← hk, ← hk', (List.cons.inj h).1]

theorem dumpTail_delimited (xs : List (Json F)) (r : List Char) : Delimited (dumpTail ft xs ++ r) := by
  intro c cs h
  cases xs <;> simp only [dumpTail, List.cons_append, List.cons.injEq] at h <;>
    rw [← h.1] <;> rfl

theorem dumpFields_delimited (kvs : List (String × Json F)) (r : List Char) :
    Delimited (dumpFields ft kvs ++ r) := by
  intro c cs h
  cases kvs <;> simp only [dumpFields, List.cons_append, List.cons.injEq] at h <;>
    rw [← h.1] <;> rfl

mutual
theorem dump_inj : ∀ (v w : Json F) (r r' : List Char), Delimited r → Delimited r' →
    dump ft v ++ r = dump ft w ++ r' → v = w ∧ r = r' := by
  intro v w r r' hr hr' h
  have hk := kind_eq ft h
  match v, w with
  | .null, .null => simpa [dump] using h
  | .bool true, .bool true => simpa [dump] using h
  | .bool false, .bool false => simpa [dump] using h
  | .int m, .int n =>
      simp only [dump] at h
      obtain ⟨hl, hr⟩ := number_inj (intText_isNumChar m) (intText_isNumChar n) hr hr' h
      exact ⟨by rw [intText_injective hl], hr⟩
  | .int m, .float y =>
      simp only [dump] at h
      obtain ⟨hl, _⟩ := number_inj (intText_isNumChar m) (floatText_isNumChar ft y) hr hr' h
      exact absurd hl.symm (ft.not_int y m)
  | .float x, .int n =>
      simp only [dump] at h
      obtain ⟨hl, _⟩ := number_inj (floatText_isNumChar ft x) (intText_isNumChar n) hr hr' h
      exact absurd hl (ft.not_int x n)
  | .float x, .float y =>
      simp only [dump] at h
      obtain ⟨hl, hr⟩ := number_inj (floatText_isNumChar ft x) (floatText_isNumChar ft y) hr hr' h
      exact ⟨by rw [ft.injective hl], hr⟩
  | .str s, .str t =>
      simp only [dump] at h
      obtain ⟨hs, hr⟩ := quote_inj h
      exact ⟨by rw [hs], hr⟩
  | .arr [], .arr [] => simpa [dump] using h
  | .arr [], .arr (y :: ys) =>
      obtain ⟨c, cs, hc, hh⟩ := dump_head ft y
      simp only [dump, hc, List.cons_append, List.nil_append, List.cons.injEq, true_and] at h
      rw [← h.1] at hh
      exact absurd hh (by simp [headKind])
  | .arr (x :: xs), .arr [] =>
      obtain ⟨c, cs, hc, hh⟩ := dump_head ft x
      simp only [dump, hc, List.cons_append, List.nil_append, List.cons.injEq, true_and] at h
      rw [h.1] at hh
      exact absurd hh (by simp [headKind])
  | .arr (x :: xs), .arr (y :: ys) =>
      simp only [dump, List.cons_append, List.append_assoc, List.cons.injEq, true_and] at h
      obtain ⟨hx, ht⟩ := dump_inj x y _ _ (dumpTail_delimited ft xs r) (dumpTail_delimited ft ys r') h
      obtain ⟨hxs, hr⟩ := dumpTail_inj xs ys r r' ht
      exact ⟨by rw [hx, hxs], hr⟩
  | .obj [], .obj [] => simpa [dump] using h
  | .obj [], .obj ((k, y) :: ys) => simp [dump, quote] at h
  | .obj ((k, x) :: xs), .obj [] => simp [dump, quote] at h
  | .obj ((k, x) :: xs), .obj ((l, y) :: ys) =>
      simp only [dump, List.cons_append, List.append_assoc, List.cons.injEq, true_and] at h
      obtain ⟨hkl, ht⟩ := quote_inj h
      simp only [List.cons.injEq, true_and] at ht
      obtain ⟨hx, ht⟩ := dump_inj x y _ _ (dumpFields_delimited ft xs r)
        (dumpFields_delimited ft ys r') ht
      obtain ⟨hxs, hr⟩ := dumpFields_inj xs ys r r' ht
      exact ⟨by rw [hkl, hx, hxs], hr⟩

theorem dumpTail_inj : ∀ (xs ys : List (Json F)) (r r' : List Char),
    dumpTail ft xs ++ r = dumpTail ft ys ++ r' → xs = ys ∧ r = r' := by
  intro xs ys r r' h
  match xs, ys with
  | [], [] => simpa [dumpTail] using h
  | [], y :: ys => simp [dumpTail] at h
  | x :: xs, [] => simp [dumpTail] at h
  | x :: xs, y :: ys =>
      simp only [dumpTail, List.cons_append, List.append_assoc, List.cons.injEq, true_and] at h
      obtain ⟨hx, ht⟩ := dump_inj x y _ _ (dumpTail_delimited ft xs r) (dumpTail_delimited ft ys r') h
      obtain ⟨hxs, hr⟩ := dumpTail_inj xs ys r r' ht
      exact ⟨by rw [hx, hxs], hr⟩

theorem dumpFields_inj : ∀ (xs ys : List (String × Json F)) (r r' : List Char),
    dumpFields ft xs ++ r = dumpFields ft ys ++ r' → xs = ys ∧ r = r' := by
  intro xs ys r r' h
  match xs, ys with
  | [], [] => simpa [dumpFields] using h
  | [], (l, y) :: ys => simp [dumpFields] at h
  | (k, x) :: xs, [] => simp [dumpFields] at h
  | (k, x) :: xs, (l, y) :: ys =>
      simp only [dumpFields, List.cons_append, List.append_assoc, List.cons.injEq, true_and] at h
      obtain ⟨hkl, ht⟩ := quote_inj h
      simp only [List.cons.injEq, true_and] at ht
      obtain ⟨hx, ht⟩ := dump_inj x y _ _ (dumpFields_delimited ft xs r)
        (dumpFields_delimited ft ys r') ht
      obtain ⟨hxs, hr⟩ := dumpFields_inj xs ys r r' ht
      exact ⟨by rw [hkl, hx, hxs], hr⟩
end

theorem dumps_eq_iff {v w : Json F} : dumps ft v = dumps ft w ↔ canon v = canon w := by
  constructor
  · intro h
    have hl : dump ft (canon v) ++ [] = dump ft (canon w) ++ [] := by
      simpa using String.ofList_injective h
    exact (dump_inj ft _ _ [] [] (fun _ _ h => by simp at h) (fun _ _ h => by simp at h) hl).1
  · intro h
    rw [dumps, dumps, h]

end Json

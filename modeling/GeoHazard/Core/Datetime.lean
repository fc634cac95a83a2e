import GeoHazard.Library.Decimal

namespace GeoHazard
open Decimal

abbrev Timestamptz := Int

def is_leap (year : Nat) : Bool :=
  year % 4 == 0 && (year % 100 != 0 || year % 400 == 0)

def days_in_month (year month : Nat) : Nat :=
  match month with
  | 2 => if is_leap year then 29 else 28
  | 4 | 6 | 9 | 11 => 30
  | _ => 31

def days_before_year (year : Nat) : Nat :=
  (year - 1) * 365 + (year - 1) / 4 - (year - 1) / 100 + (year - 1) / 400

def days_before_month (year : Nat) : Nat → Nat
  | 0 => 0
  | 1 => 0
  | m + 2 => days_before_month year (m + 1) + days_in_month year (m + 1)

def day_micros : Nat := 86400000000

structure Datetime where
  year : Nat
  month : Nat
  day : Nat
  hour : Nat
  minute : Nat
  second : Nat
  microsecond : Nat
  utcoffset : Int
  valid : (1 ≤ year ∧ year ≤ 9999) ∧ (1 ≤ month ∧ month ≤ 12) ∧
    (1 ≤ day ∧ day ≤ days_in_month year month) ∧ hour < 24 ∧ minute < 60 ∧ second < 60 ∧
    microsecond < 1000000 ∧ utcoffset.natAbs < day_micros
  deriving DecidableEq

namespace Datetime

def toordinal (d : Datetime) : Nat :=
  days_before_year d.year + days_before_month d.year d.month + d.day

def epoch_ordinal : Nat := 719163

def instant (d : Datetime) : Timestamptz :=
  ((d.toordinal : Int) - epoch_ordinal) * day_micros +
    (((d.hour * 60 + d.minute) * 60 + d.second) * 1000000 + d.microsecond : Nat) - d.utcoffset

def fraction (us : Nat) : List Char :=
  if us = 0 then [] else '.' :: pad 6 us

def seconds_text (a : Nat) : List Char :=
  if a % 60000000 = 0 then [] else ':' :: (pad 2 (a / 1000000 % 60) ++ fraction (a % 1000000))

def sign_char (offset : Int) : Char := if offset < 0 then '-' else '+'

def offset_text (offset : Int) : List Char :=
  sign_char offset :: (pad 2 (offset.natAbs / 3600000000) ++
    ':' :: (pad 2 (offset.natAbs / 60000000 % 60) ++ seconds_text offset.natAbs))

def iso_chars (d : Datetime) : List Char :=
  pad 4 d.year ++ '-' :: pad 2 d.month ++ '-' :: pad 2 d.day ++ 'T' :: pad 2 d.hour ++
    ':' :: pad 2 d.minute ++ ':' :: pad 2 d.second ++ fraction d.microsecond ++ offset_text d.utcoffset

def isoformat (d : Datetime) : String := String.ofList d.iso_chars

def read_fraction : List Char → Option (Nat × List Char)
  | '.' :: cs => digits 6 cs
  | cs => some (0, cs)

def read_sign : List Char → Option (Int × List Char)
  | '+' :: cs => some (1, cs)
  | '-' :: cs => some (-1, cs)
  | _ => none

def read_seconds : List Char → Option (Nat × List Char)
  | ':' :: cs => do
      let (s, cs) ← digits 2 cs
      let (us, cs) ← read_fraction cs
      some (s * 1000000 + us, cs)
  | cs => some (0, cs)

def read_offset (cs : List Char) : Option (Int × List Char) := do
  let (sign, cs) ← read_sign cs
  let (h, cs) ← digits 2 cs
  let cs ← lit ':' cs
  let (m, cs) ← digits 2 cs
  let (s, cs) ← read_seconds cs
  some (sign * ((h * 60 + m) * 60000000 + s : Nat), cs)

def fromisochars (cs : List Char) : Option Datetime := do
  let (year, cs) ← digits 4 cs
  let cs ← lit '-' cs
  let (month, cs) ← digits 2 cs
  let cs ← lit '-' cs
  let (day, cs) ← digits 2 cs
  let cs ← lit 'T' cs
  let (hour, cs) ← digits 2 cs
  let cs ← lit ':' cs
  let (minute, cs) ← digits 2 cs
  let cs ← lit ':' cs
  let (second, cs) ← digits 2 cs
  let (microsecond, cs) ← read_fraction cs
  let (utcoffset, cs) ← read_offset cs
  if cs = [] then
    if h : _ then some ⟨year, month, day, hour, minute, second, microsecond, utcoffset, h⟩ else none
  else none

def fromisoformat (s : String) : Option Datetime := fromisochars s.toList

theorem days_in_month_le (year month : Nat) : days_in_month year month ≤ 31 := by
  unfold days_in_month
  split <;> (try split) <;> omega

theorem read_fraction_fraction {us : Nat} (h : us < 1000000) {c : Char} (cs : List Char)
    (hc : c ≠ '.') : read_fraction (fraction us ++ c :: cs) = some (us, c :: cs) := by
  by_cases h0 : us = 0
  · subst h0
    simp only [fraction, if_true, List.nil_append]
    unfold read_fraction
    split
    · next heq => exact absurd (List.cons.inj heq).1 hc
    · rfl
  · simp only [fraction, if_neg h0, List.cons_append, read_fraction]
    exact digits_pad 6 _ h

theorem read_seconds_text (a : Nat) :
    read_seconds (seconds_text a) = some (a % 60000000, []) := by
  by_cases h0 : a % 60000000 = 0
  · simp [seconds_text, h0, read_seconds]
  · have hs : a / 1000000 % 60 < 10 ^ 2 := by omega
    have hf : read_fraction (fraction (a % 1000000)) = some (a % 1000000, []) := by
      by_cases hz : a % 1000000 = 0
      · simp [hz, fraction, read_fraction]
      · have hlt : a % 1000000 < 10 ^ 6 := by omega
        have hd := digits_pad 6 [] hlt
        simp only [List.append_nil] at hd
        simp [fraction, hz, read_fraction, hd]
    have hv : a / 1000000 % 60 * 1000000 + a % 1000000 = a % 60000000 := by omega
    simp [seconds_text, h0, read_seconds, digits_pad 2 _ hs, hf, hv]

theorem read_sign_char (offset : Int) (cs : List Char) :
    read_sign (sign_char offset :: cs) = some (if offset < 0 then -1 else 1, cs) := by
  unfold sign_char
  split <;> rfl

theorem read_offset_text {offset : Int} (h : offset.natAbs < day_micros) :
    read_offset (offset_text offset) = some (offset, []) := by
  have hh : offset.natAbs / 3600000000 < 10 ^ 2 := by
    simp only [day_micros] at h
    omega
  have hm : offset.natAbs / 60000000 % 60 < 10 ^ 2 := by omega
  have hsum : (offset.natAbs / 3600000000 * 60 + offset.natAbs / 60000000 % 60) * 60000000 +
      offset.natAbs % 60000000 = offset.natAbs := by omega
  have hsign : (if offset < 0 then -1 else 1) * (offset.natAbs : Int) = offset := by
    split <;> omega
  simp only [offset_text, read_offset, read_sign_char, digits_pad 2 _ hh, lit_cons,
    digits_pad 2 _ hm, read_seconds_text, Option.bind_eq_bind, Option.bind_some, hsum, hsign]

theorem sign_char_ne_dot (offset : Int) : sign_char offset ≠ '.' := by
  unfold sign_char
  split <;> decide

theorem fromisochars_iso_chars (d : Datetime) : fromisochars d.iso_chars = some d := by
  obtain ⟨⟨_, hy⟩, ⟨_, hmo⟩, ⟨_, hda⟩, hh, hmi, hs, hus, ho⟩ := d.valid
  have hd31 := days_in_month_le d.year d.month
  have hfrac := read_fraction_fraction hus (pad 2 (d.utcoffset.natAbs / 3600000000) ++
      ':' :: (pad 2 (d.utcoffset.natAbs / 60000000 % 60) ++ seconds_text d.utcoffset.natAbs))
    (sign_char_ne_dot d.utcoffset)
  have hread := read_offset_text ho
  have hy' : d.year < 10 ^ 4 := by omega
  have hmo' : d.month < 10 ^ 2 := by omega
  have hda' : d.day < 10 ^ 2 := by omega
  have hh' : d.hour < 10 ^ 2 := by omega
  have hmi' : d.minute < 10 ^ 2 := by omega
  have hs' : d.second < 10 ^ 2 := by omega
  rw [← offset_text] at hfrac
  have hchars : d.iso_chars = pad 4 d.year ++ '-' :: (pad 2 d.month ++ '-' :: (pad 2 d.day ++
      'T' :: (pad 2 d.hour ++ ':' :: (pad 2 d.minute ++ ':' :: (pad 2 d.second ++
        (fraction d.microsecond ++ offset_text d.utcoffset)))))) := by
    simp only [iso_chars, List.append_assoc, List.cons_append]
  rw [fromisochars, hchars, digits_pad 4 _ hy', Option.bind_eq_bind, Option.bind_some]
  simp only [digits_pad 2 _ hmo', digits_pad 2 _ hda', digits_pad 2 _ hh', digits_pad 2 _ hmi',
    digits_pad 2 _ hs', lit_cons, hfrac, hread, Option.bind_eq_bind,
    Option.bind_some, if_true]
  rw [dif_pos d.valid]

theorem fromisoformat_isoformat (d : Datetime) : fromisoformat d.isoformat = some d := by
  simp [fromisoformat, isoformat, fromisochars_iso_chars]

theorem isoformat_injective : Function.Injective isoformat := by
  intro d e h
  have hd := fromisoformat_isoformat d
  rw [h, fromisoformat_isoformat] at hd
  exact (Option.some.inj hd).symm

end Datetime

end GeoHazard

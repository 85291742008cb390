import Mathlib.Algebra.BigOperators.Group.List.Basic
import Mathlib.Algebra.GroupWithZero.Nat
import StubServer.Proofs.Generators

/-!
# The check digit of an article number

The digits of an article number, weighted by 1 and 3 in turn from the last one on, add up to a
multiple of ten. The check digit is found from the digits in front of it, weighted by 3 and 1 in
turn from their last one on: put behind them it is the one that counts once, whatever their number
(`articleNumber_checks`).

What the digits in front count is added up in 32 bits, which is enough for 238609294 of them and
not for one more: among the longer article numbers there are some that do not check
(`nines_articleNumber_not_checks`).
-/

namespace StubServer

namespace Fake

/-- What a digit counts that has a number of digits behind it. -/
def weightAt (behind : Nat) : Nat :=
  if behind % 2 = 0 then 1 else 3

/-- Digits added up, the first of which has so many behind it and each other one more. -/
def sumFrom (behind : Nat) (digits : List Nat) : Nat :=
  ((digits.zipIdx behind).map fun p => weightAt p.2 * p.1).sum

/-- The digits added up, each with the weight of its place. -/
def weightedSum (digits : List Nat) : Nat :=
  sumFrom 0 digits.reverse

def digitValues (code : String) : List Nat :=
  code.toList.map fun c => c.toNat - '0'.toNat

/-! ## Weights -/

theorem weightAt_succ (behind : Nat) : weightAt (behind + 1) = 4 - weightAt behind := by
  unfold weightAt
  split <;> split <;> omega

theorem sumFrom_cons (behind d : Nat) (digits : List Nat) :
    sumFrom behind (d :: digits) = weightAt behind * d + sumFrom (behind + 1) digits := by
  simp [sumFrom]

/-- Weights that alternate are those of the places, from any place on. -/
theorem toNat_weighted (digits : List Nat) (behind : Nat) :
    (weighted (weightAt behind) digits).toNat = sumFrom behind digits % Number.size32 := by
  induction digits generalizing behind with
  | nil => rfl
  | cons d digits ih =>
    rw [weighted, UInt32.toNat_add, ← weightAt_succ, ih, sumFrom_cons, UInt32.toNat_ofNat']
    exact (Nat.add_mod _ _ _).symm

theorem weightedSum_concat (digits : List Nat) (d : Nat) :
    weightedSum (digits ++ [d]) = d + weightedSum (digits ++ [0]) := by
  simp [weightedSum, sumFrom_cons, weightAt]

/-- With a zero behind them the digits count as if each had one more behind it. -/
theorem weightedSum_concat_zero (digits : List Nat) :
    weightedSum (digits ++ [0]) = sumFrom 1 digits.reverse := by
  simp [weightedSum, sumFrom_cons]

theorem toNat_weighted_reverse (digits : List Nat) :
    (weighted 3 digits.reverse).toNat = weightedSum (digits ++ [0]) % Number.size32 := by
  rw [weightedSum_concat_zero]
  exact toNat_weighted digits.reverse 1

theorem checkDigit_lt (digits : List Nat) : checkDigit digits < 10 :=
  Nat.mod_lt _ (by omega)

/-- Going over 2 to the 32 five times does no harm, as that is a multiple of two. -/
theorem ten_dvd_size32_mul_iff (n : Nat) : 10 ∣ Number.size32 * n ↔ 5 ∣ n := by
  have hsize : Number.size32 * n = 2 * (0x80000000 * n) := Nat.mul_assoc 2 0x80000000 n
  rw [hsize, show 10 = 2 * 5 from rfl, Nat.mul_dvd_mul_iff_left Nat.two_pos]
  exact ⟨Nat.Coprime.dvd_of_dvd_mul_left (by decide), fun h => Nat.dvd_mul_left_of_dvd h _⟩

/-- Behind the digits, the check digit is the one that counts once, and all others move on to the
other weight. It makes up for what they count beside multiples of 2 to the 32. -/
theorem dvd_weightedSum_iff (digits : List Nat) :
    10 ∣ weightedSum (digits ++ [checkDigit digits]) ↔
      5 ∣ weightedSum (digits ++ [0]) / Number.size32 := by
  generalize hsum : weightedSum (digits ++ [0]) = sum
  have hrest : 10 ∣ checkDigit digits + sum % Number.size32 := by
    rw [checkDigit, toNat_weighted_reverse, hsum]
    omega
  have hparts : weightedSum (digits ++ [checkDigit digits]) =
      Number.size32 * (sum / Number.size32) + (checkDigit digits + sum % Number.size32) := by
    rw [weightedSum_concat, hsum, Nat.add_left_comm, Nat.div_add_mod]
  rw [hparts, Nat.dvd_add_left hrest, ten_dvd_size32_mul_iff]

/-! ## How much digits count -/

theorem sumFrom_le_nines {digits : List Nat} (h : ∀ d ∈ digits, d < 10) (behind : Nat) :
    sumFrom behind digits ≤ sumFrom behind (List.replicate digits.length 9) := by
  induction digits generalizing behind with
  | nil => exact Nat.le_refl _
  | cons d digits ih =>
    rw [List.forall_mem_cons] at h
    rw [List.length_cons, List.replicate_succ, sumFrom_cons, sumFrom_cons]
    exact Nat.add_le_add (Nat.mul_le_mul_left _ (Nat.le_of_lt_succ h.1)) (ih h.2 _)

theorem sumFrom_nines (behind count : Nat) :
    sumFrom behind (List.replicate count 9) =
      if behind % 2 = 0 then 18 * count - 9 * (count % 2) else 18 * count + 9 * (count % 2) := by
  induction count generalizing behind with
  | zero => simp [sumFrom]
  | succ count ih =>
    rw [List.replicate_succ, sumFrom_cons, ih, weightAt]
    split <;> split <;> omega

theorem weightedSum_nines (count : Nat) :
    weightedSum (List.replicate count 9 ++ [0]) = 18 * count + 9 * (count % 2) := by
  simp [weightedSum_concat_zero, sumFrom_nines]

theorem weightedSum_le_nines {digits : List Nat} (h : ∀ d ∈ digits, d < 10) :
    weightedSum (digits ++ [0]) ≤ 18 * digits.length + 9 * (digits.length % 2) := by
  have hreverse : ∀ d ∈ digits.reverse, d < 10 := fun d hd => h d (List.mem_reverse.1 hd)
  have hle := sumFrom_le_nines hreverse 1
  rw [List.length_reverse, sumFrom_nines] at hle
  rw [weightedSum_concat_zero]
  simpa using hle

/-! ## Digits as characters -/

theorem isDigit_ofNat {d : Nat} (h : d < 10) :
    Text.isDigit (.ofNat ('0'.toNat + d)) = true ∧
      (Char.ofNat ('0'.toNat + d)).toNat - '0'.toNat = d := by
  have hall : ∀ d < 10, Text.isDigit (.ofNat ('0'.toNat + d)) = true ∧
      (Char.ofNat ('0'.toNat + d)).toNat - '0'.toNat = d := by
    decide
  exact hall d h

theorem digitValues_ofList {digits : List Nat} (h : ∀ d ∈ digits, d < 10) :
    digitValues (.ofList (digits.map fun d => Char.ofNat ('0'.toNat + d))) = digits := by
  rw [digitValues, String.toList_ofList, List.map_map]
  exact (List.map_congr_left fun d hd => (isDigit_ofNat (h d hd)).2).trans (List.map_id digits)

/-! ## Drawing the digits -/

/-- What holds of every result of a draw holds of all results of its repetition. -/
theorem Making.forall_of_times {α : Type} {m : Making α} {P : α → Prop}
    (hm : ∀ d a d', m d = some (.ok a, d') → P a) :
    ∀ (count : Nat) {d d' : Draws} {drawn : List α}, times m count d = some (.ok drawn, d') →
      drawn.length = count ∧ ∀ a ∈ drawn, P a
  | 0, d, d', drawn, h => by
    cases h
    simp
  | count + 1, d, d', drawn, h => by
    rw [times, bind_eq] at h
    rcases hfirst : m d with _ | ⟨e | a, d₁⟩ <;> rw [hfirst] at h <;> simp only [] at h
    · cases h
    · cases h
    rw [bind_eq] at h
    rcases hrest : times m count d₁ with _ | ⟨e | rest, d₂⟩ <;> rw [hrest] at h <;>
      simp only [] at h
    · cases h
    · cases h
    cases h
    obtain ⟨hlength, hall⟩ := forall_of_times hm count hrest
    exact ⟨by rw [List.length_cons, hlength], List.forall_mem_cons.2 ⟨hm d a d₁ hfirst, hall⟩⟩

/-- What an article number is put together from. -/
theorem exists_digits_of_articleNumber {length : Nat} {d d' : Draws}
    {outcome : Except Misdraw String} (h : articleNumber length d = some (outcome, d')) :
    ∃ digits : List Nat, digits.length = length - 1 ∧ (∀ n ∈ digits, n < 10) ∧
      outcome = .ok (.ofList ((digits ++ [checkDigit digits]).map fun n =>
        Char.ofNat ('0'.toNat + n))) := by
  rcases outcome with e | code
  · exact absurd h (faultless_articleNumber length d e d')
  rw [articleNumber, Making.bind_eq] at h
  rcases hdigits : Making.times (Making.below32 10) (length - 1) d with _ | ⟨e | digits, d₁⟩ <;>
    rw [hdigits] at h <;> simp only [] at h
  · cases h
  · cases h
  cases h
  obtain ⟨hlength, hall⟩ :=
    Making.forall_of_times (fun _ _ _ => Making.lt_of_below32) (length - 1) hdigits
  exact ⟨digits, hlength, hall, rfl⟩

/-- Whatever words there are, a draw of an article number that returns gives as many decimal digits
as it is to have. These add up to a multiple of ten just if what those in front of the last one
count has gone over 2 to the 32 a multiple of five times, and up to a length of 238609295 it never
does. -/
theorem articleNumber_checks {length : Nat} {d d' : Draws} {outcome : Except Misdraw String}
    (hlength : 1 ≤ length) (h : articleNumber length d = some (outcome, d')) :
    ∃ code, outcome = .ok code ∧ code.toList.length = length ∧
      (∀ c ∈ code.toList, Text.isDigit c = true) ∧
      (10 ∣ weightedSum (digitValues code) ↔
        5 ∣ weightedSum ((digitValues code).dropLast ++ [0]) / Number.size32) ∧
      (length ≤ 238609295 → 10 ∣ weightedSum (digitValues code)) := by
  obtain ⟨digits, hdigits, hlt, rfl⟩ := exists_digits_of_articleNumber h
  have hall : ∀ n ∈ digits ++ [checkDigit digits], n < 10 := by
    rw [List.forall_mem_append, List.forall_mem_singleton]
    exact ⟨hlt, checkDigit_lt digits⟩
  refine ⟨_, rfl, ?_, ?_, ?_, fun hshort => ?_⟩
  · simp only [String.toList_ofList, List.length_map, List.length_append, List.length_singleton]
    omega
  · rw [String.toList_ofList, List.forall_mem_map]
    exact fun n hn => (isDigit_ofNat (hall n hn)).1
  · rw [digitValues_ofList hall, List.dropLast_concat]
    exact dvd_weightedSum_iff digits
  · have hsize : Number.size32 = 4294967296 := rfl
    have hle := weightedSum_le_nines hlt
    rw [digitValues_ofList hall, dvd_weightedSum_iff, hsize,
      Nat.div_eq_of_lt (show weightedSum (digits ++ [0]) < 4294967296 by omega)]
    exact Nat.dvd_zero 5

/-- Words from which the digits 1 to 9 are drawn in turn, then 0. -/
def counting : Draws where
  word n := .ofNat (((n + 1) % 10 * 0x100000000 + 9) / 10 * 0x100000000)

/-- A number of even length and one of odd length. -/
theorem counting_articleNumber_checks :
    (∃ d', articleNumber 8 counting = some (.ok "12345670", d') ∧
      10 ∣ weightedSum (digitValues "12345670")) ∧
    ∃ d', articleNumber 13 counting = some (.ok "1234567890128", d') ∧
      10 ∣ weightedSum (digitValues "1234567890128") := by
  obtain ⟨d, heven⟩ : ∃ d', articleNumber 8 counting = some (.ok "12345670", d') := ⟨_, rfl⟩
  obtain ⟨d', hodd⟩ : ∃ d', articleNumber 13 counting = some (.ok "1234567890128", d') := ⟨_, rfl⟩
  refine ⟨⟨d, heven, ?_⟩, ⟨d', hodd, ?_⟩⟩
  · obtain ⟨code, hcode, -, -, -, hsum⟩ := articleNumber_checks (by omega) heven
    cases hcode
    exact hsum (by omega)
  · obtain ⟨code, hcode, -, -, -, hsum⟩ := articleNumber_checks (by omega) hodd
    cases hcode
    exact hsum (by omega)

/-! ## Numbers that are too long -/

/-- Words from which only nines are drawn. -/
def ninesFrom (position : Nat) : Draws where
  word _ := .ofNat ((9 * 0x100000000 + 9) / 10 * 0x100000000)
  position

theorem word32_ninesFrom (position : Nat) :
    Random.word32 (ninesFrom position) = some (3865470567, ninesFrom (position + 1)) := by
  have hword : (UInt64.ofNat ((9 * 0x100000000 + 9) / 10 * 0x100000000) >>> 32).toUInt32.toNat =
      3865470567 := by
    decide
  rw [← hword]
  rfl

theorem below32_ninesFrom (position : Nat) :
    Making.below32 10 (ninesFrom position) = some (.ok 9, ninesFrom (position + 1)) := by
  have hdraw : Random.below32 10 (ninesFrom position) = some (9, ninesFrom (position + 1)) := by
    rw [Random.below32, show Random.patience = 4294967295 + 1 from rfl, Random.accept,
      Random.bind_eq_some]
    exact ⟨_, _, word32_ninesFrom position, rfl⟩
  change (liftM (Random.below32 10) : Making Nat) (ninesFrom position) = _
  rw [Making.lift_eq, hdraw, Option.map_some]

theorem times_ninesFrom (position count : Nat) :
    Making.times (Making.below32 10) count (ninesFrom position) =
      some (.ok (List.replicate count 9), ninesFrom (position + count)) := by
  induction count generalizing position with
  | zero => rfl
  | succ count ih =>
    rw [Making.times, Making.bind_eq, below32_ninesFrom]
    simp only []
    rw [Making.bind_eq, ih, Nat.add_right_comm]
    rfl

/-- An article number of nines and a check digit. -/
theorem articleNumber_ninesFrom (position count : Nat) :
    ∃ code, articleNumber (count + 1) (ninesFrom position) =
        some (.ok code, ninesFrom (position + count)) ∧
      digitValues code = List.replicate count 9 ++ [checkDigit (List.replicate count 9)] := by
  have hall : ∀ n ∈ List.replicate count 9 ++ [checkDigit (List.replicate count 9)], n < 10 := by
    rw [List.forall_mem_append, List.forall_mem_singleton]
    exact ⟨fun n hn => by rw [List.eq_of_mem_replicate hn]; decide, checkDigit_lt _⟩
  refine ⟨_, ?_, digitValues_ofList hall⟩
  rw [articleNumber, Making.bind_eq, Nat.add_sub_cancel, times_ninesFrom]
  rfl

/-- One digit more than are sure to check, all of them as high as they can be: what they count goes
over 2 to the 32 once. -/
theorem nines_articleNumber_not_checks :
    ∃ code d', articleNumber 238609296 (ninesFrom 0) = some (.ok code, d') ∧
      ¬ 10 ∣ weightedSum (digitValues code) := by
  obtain ⟨code, hcode, hdigits⟩ := articleNumber_ninesFrom 0 238609295
  refine ⟨code, _, hcode, ?_⟩
  rw [hdigits, dvd_weightedSum_iff, weightedSum_nines]
  decide

end Fake

end StubServer

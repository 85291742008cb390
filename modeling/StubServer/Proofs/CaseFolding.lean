import Mathlib.Data.List.Chain
import StubServer.Pattern.CharClass

/-!
# Case folding

Folding a character twice is folding it once, and the variants of a character are the characters
with the same folding (`mem_foldVariants_iff`). So a folded class of one character holds the
characters that are equal to it without regard to case (`mem_folded_single_iff`).
-/

namespace StubServer

namespace Text

/-! ## Ranges of the table -/

namespace Range

/-- All code points of the range are characters. -/
def isValid (r : Range) : Bool :=
  (r.last < 0xD800 || 0xDFFF < r.first) && r.last < 0x110000

/-- No code point is in both ranges: one lies before the other, or the second has every other code
point and the first none of those. -/
def apart (a b : Range) : Bool :=
  a.last < b.first || b.last < a.first ||
    ((a.step == 2 || a.first == a.last) && b.step == 2 && a.first % 2 != b.first % 2)

theorem mem_iff {r : Range} {n : Nat} :
    r.mem n = true ↔ r.first ≤ n ∧ n ≤ r.last ∧ (n - r.first) % r.step = 0 := by
  simp [mem, and_assoc]

theorem isValidChar_of_mem {r : Range} {n : Nat} (hr : r.isValid = true) (h : r.mem n = true) :
    n.isValidChar := by
  simp only [isValid, Bool.and_eq_true, Bool.or_eq_true, decide_eq_true_eq] at hr
  rw [mem_iff] at h
  rw [Nat.isValidChar]
  omega

theorem mem_of_apart {a b : Range} {n : Nat} (h : a.apart b = true) (ha : a.mem n = true) :
    b.mem n = false := by
  rw [← Bool.not_eq_true]
  intro hb
  simp only [apart, Bool.or_eq_true, Bool.and_eq_true, decide_eq_true_eq, beq_iff_eq,
    bne_iff_ne] at h
  rw [mem_iff] at ha hb
  rcases h with (h | h) | ⟨⟨ha2 | ha1, hb2⟩, hparity⟩
  · omega
  · omega
  · rw [ha2] at ha
    rw [hb2] at hb
    omega
  · rw [hb2] at hb
    omega

end Range

namespace Shift

/-- The code points that the shift leads to. -/
def image (s : Shift) : Range :=
  ⟨(s.range.first + s.distance).toNat, (s.range.last + s.distance).toNat, s.range.step⟩

/-- The shift leads from characters that are not ASCII to characters that are no capital letters of
ASCII and that no shift of the table goes on from. -/
def isFolding (table : List Shift) (s : Shift) : Bool :=
  s.range.isValid && 128 ≤ s.range.first && 0 ≤ s.range.first + s.distance && s.image.isValid &&
    (s.image.last < 'A'.toNat || 'Z'.toNat < s.image.first) &&
      table.all fun t => s.image.apart t.range

end Shift

/-- The range of the first shift lies before that of the second. -/
def Shift.Before (s t : Shift) : Prop :=
  s.range.first ≤ s.range.last ∧ s.range.last < t.range.first

instance : DecidableRel Shift.Before :=
  fun s t => inferInstanceAs
    (Decidable (s.range.first ≤ s.range.last ∧ s.range.last < t.range.first))

instance : IsTrans Shift Shift.Before where
  trans _ _ _ hst htu := ⟨hst.1, Nat.lt_trans (Nat.lt_of_lt_of_le hst.2 htu.1) htu.2⟩

def isFoldTable (table : List Shift) : Bool :=
  table.IsChain Shift.Before && table.all (·.isFolding table)

-- The rows are turned into shifts first, so that the checks are made on numbers.
set_option maxRecDepth 4000 in
theorem isFoldTable_foldShifts : isFoldTable foldShifts = true := by
  rw [foldShifts, Shift.ofRows]
  simp only [List.flatMap_cons, List.flatMap_nil]
  repeat rw [String.toList_ofList]
  conv =>
    lhs
    arg 1
    cbv
  decide +kernel

theorem foldShifts_pairwise : foldShifts.Pairwise Shift.Before := by
  have h := isFoldTable_foldShifts
  simp only [isFoldTable, Bool.and_eq_true, decide_eq_true_eq] at h
  exact List.isChain_iff_pairwise.1 h.1

theorem isFolding_of_mem {s : Shift} (hs : s ∈ foldShifts) : s.isFolding foldShifts = true := by
  have h := isFoldTable_foldShifts
  simp only [isFoldTable, Bool.and_eq_true, List.all_eq_true] at h
  exact h.2 s hs

/-! ## Folding by the table -/

theorem toNat_ofNat {n : Nat} (h : n.isValidChar) : (Char.ofNat n).toNat = n := by
  rw [Char.ofNat, dif_pos h]
  rfl

theorem findSome?_target? {table : List Shift} (h : table.Pairwise Shift.Before) {s : Shift}
    (hs : s ∈ table) {n : Nat} (hn : s.range.mem n = true) :
    table.findSome? (·.target? n) = some (n + s.distance).toNat := by
  induction table with
  | nil => cases hs
  | cons t table ih =>
    rw [List.pairwise_cons] at h
    rw [List.findSome?_cons]
    rcases List.mem_cons.1 hs with rfl | hs
    · simp [Shift.target?, hn]
    · have hbefore := (h.1 s hs).2
      have ht : t.range.mem n = false := by
        rw [← Bool.not_eq_true, Range.mem_iff]
        rw [Range.mem_iff] at hn
        omega
      simpa [Shift.target?, ht] using ih h.2 hs

theorem foldChar_of_ascii {c : Char} (h : c.toNat < 128) : foldChar c = c.toLower := by
  rw [foldChar, if_pos h]

theorem foldChar_of_fixed {c : Char} (hascii : 128 ≤ c.toNat)
    (hnone : ∀ s ∈ foldShifts, s.range.mem c.toNat = false) : foldChar c = c := by
  have hshifted : shifted? foldShifts c = none := by
    rw [shifted?, Option.map_eq_none_iff, List.findSome?_eq_none_iff]
    intro s hs
    simp [Shift.target?, hnone s hs]
  rw [foldChar, if_neg (by omega), hshifted, Option.getD_none]

/-- A character of a shift's range goes to one of its image. -/
theorem foldChar_of_mem {s : Shift} (hs : s ∈ foldShifts) {c : Char}
    (hc : s.range.mem c.toNat = true) :
    128 ≤ c.toNat ∧ ((foldChar c).toNat : Int) = c.toNat + s.distance ∧
      s.image.mem (foldChar c).toNat = true := by
  have hfolding := isFolding_of_mem hs
  simp only [Shift.isFolding, Bool.and_eq_true, decide_eq_true_eq] at hfolding
  obtain ⟨⟨⟨⟨⟨-, hascii⟩, hpositive⟩, hvalid⟩, -⟩, -⟩ := hfolding
  obtain ⟨hfirst, hlast, hstep⟩ := Range.mem_iff.1 hc
  have himage : s.image.mem (c.toNat + s.distance).toNat = true := by
    have hdifference : (c.toNat + s.distance).toNat - s.image.first = c.toNat - s.range.first := by
      simp only [Shift.image]
      omega
    rw [Range.mem_iff, hdifference]
    refine ⟨?_, ?_, hstep⟩ <;> simp only [Shift.image] <;> omega
  have hfold : foldChar c = Char.ofNat (c.toNat + s.distance).toNat := by
    rw [foldChar, if_neg (by omega), shifted?, findSome?_target? foldShifts_pairwise hs hc]
    rfl
  have htoNat : (foldChar c).toNat = (c.toNat + s.distance).toNat := by
    rw [hfold, toNat_ofNat (Range.isValidChar_of_mem hvalid himage)]
  exact ⟨by omega, by omega, htoNat ▸ himage⟩

/-- A character is ASCII, in the range of a shift, or its own folding. -/
theorem foldChar_cases (c : Char) :
    c.toNat < 128 ∨ (∃ s ∈ foldShifts, s.range.mem c.toNat = true) ∨ foldChar c = c := by
  by_cases hascii : c.toNat < 128
  · exact .inl hascii
  · by_cases hs : ∃ s ∈ foldShifts, s.range.mem c.toNat = true
    · exact .inr (.inl hs)
    · refine .inr (.inr (foldChar_of_fixed (by omega) fun s hmem => ?_))
      rw [← Bool.not_eq_true]
      exact fun hrange => hs ⟨s, hmem, hrange⟩

theorem ascii_cases {c : Char} (h : c.toNat < 128) :
    c.toLower.toNat < 128 ∧ c.toLower.toLower = c.toLower ∧ c.toUpper.toLower = c.toLower ∧
      c.toUpper.toNat < 128 ∧ (c = c.toLower ∨ c = c.toLower.toUpper) ∧
      (c.toNat < 'A'.toNat ∨ 'Z'.toNat < c.toNat → c.toLower = c) := by
  have hall : ∀ n < 128, (Char.ofNat n).toLower.toNat < 128 ∧
      (Char.ofNat n).toLower.toLower = (Char.ofNat n).toLower ∧
      (Char.ofNat n).toUpper.toLower = (Char.ofNat n).toLower ∧
      (Char.ofNat n).toUpper.toNat < 128 ∧
      (Char.ofNat n = (Char.ofNat n).toLower ∨ Char.ofNat n = (Char.ofNat n).toLower.toUpper) ∧
      (n < 'A'.toNat ∨ 'Z'.toNat < n → (Char.ofNat n).toLower = Char.ofNat n) := by
    decide
  simpa only [Char.ofNat_toNat] using hall c.toNat h

theorem foldChar_foldChar (c : Char) : foldChar (foldChar c) = foldChar c := by
  rcases foldChar_cases c with hascii | ⟨s, hs, hc⟩ | hfixed
  · obtain ⟨hlower, hidempotent, -⟩ := ascii_cases hascii
    rw [foldChar_of_ascii hascii, foldChar_of_ascii hlower, hidempotent]
  · have hfolding := isFolding_of_mem hs
    simp only [Shift.isFolding, Bool.and_eq_true, Bool.or_eq_true, decide_eq_true_eq,
      List.all_eq_true] at hfolding
    obtain ⟨⟨-, hletters⟩, hapart⟩ := hfolding
    obtain ⟨-, -, himage⟩ := foldChar_of_mem hs hc
    by_cases hascii : (foldChar c).toNat < 128
    · rw [foldChar_of_ascii hascii]
      refine (ascii_cases hascii).2.2.2.2.2 ?_
      rw [Range.mem_iff] at himage
      omega
    · exact foldChar_of_fixed (by omega) fun t ht => Range.mem_of_apart (hapart t ht) himage
  · rw [hfixed, hfixed]

/-! ## Variants -/

theorem mem_foldVariants {c d : Char} :
    d ∈ foldVariants c ↔ d = foldChar c ∨
      ((foldChar c).toNat < 128 ∧ d = (foldChar c).toUpper) ∨
      ∃ s ∈ foldShifts, ∃ n, s.source? (foldChar c).toNat = some n ∧ Char.ofNat n = d := by
  simp only [foldVariants, List.cons_append, List.mem_cons, List.mem_append, List.mem_map,
    List.mem_filterMap]
  refine or_congr_right (or_congr ?_ ?_)
  · split <;> simp_all
  · constructor
    · rintro ⟨n, ⟨s, hs, hn⟩, rfl⟩
      exact ⟨s, hs, n, hn, rfl⟩
    · rintro ⟨s, hs, n, hn, rfl⟩
      exact ⟨n, ⟨s, hs, hn⟩, rfl⟩

theorem mem_foldVariants_iff {c d : Char} : d ∈ foldVariants c ↔ foldChar d = foldChar c := by
  rw [mem_foldVariants]
  constructor
  · rintro (rfl | ⟨hascii, rfl⟩ | ⟨s, hs, n, hn, rfl⟩)
    · exact foldChar_foldChar c
    · have hfolded := foldChar_foldChar c
      rw [foldChar_of_ascii hascii] at hfolded
      obtain ⟨-, -, hupper, hlt, -⟩ := ascii_cases hascii
      rw [foldChar_of_ascii hlt, hupper, hfolded]
    · simp only [Shift.source?, Option.ite_none_right_eq_some, Option.some.injEq] at hn
      obtain ⟨hmem, hsource⟩ := hn
      rw [hsource] at hmem
      have hfolding := isFolding_of_mem hs
      simp only [Shift.isFolding, Bool.and_eq_true] at hfolding
      have htoNat : (Char.ofNat n).toNat = n :=
        toNat_ofNat (Range.isValidChar_of_mem hfolding.1.1.1.1.1 hmem)
      obtain ⟨hascii, hdistance, -⟩ := foldChar_of_mem hs (c := Char.ofNat n) (htoNat.symm ▸ hmem)
      refine Char.toNat_inj.1 ?_
      omega
  · intro heq
    rcases foldChar_cases d with hascii | ⟨s, hs, hd⟩ | hfixed
    · obtain ⟨hlower, -, -, -, hcase, -⟩ := ascii_cases hascii
      rw [← heq, foldChar_of_ascii hascii]
      exact hcase.imp_right fun hupper => .inl ⟨hlower, hupper⟩
    · obtain ⟨-, hdistance, -⟩ := foldChar_of_mem hs hd
      refine .inr (.inr ⟨s, hs, d.toNat, ?_, Char.ofNat_toNat d⟩)
      have hsource : ((foldChar c).toNat - s.distance).toNat = d.toNat := by
        rw [← heq]
        omega
      simp [Shift.source?, hsource, hd]
    · exact .inl (by rw [← heq, hfixed])

end Text

namespace Pattern

theorem mem_single {c d : Char} : (CharClass.single c).mem d = true ↔ d = c := by
  simp only [CharClass.single, CharClass.mem, Bool.and_eq_true, decide_eq_true_eq]
  constructor
  · rintro ⟨hle, hge⟩
    exact Char.le_antisymm hge hle
  · rintro rfl
    exact ⟨Char.le_refl _, Char.le_refl _⟩

/-- The folded class of a character holds the characters with the same folding. -/
theorem mem_folded_single_iff {c d : Char} :
    (CharClass.folded (.single c)).mem d = true ↔ Text.foldChar d = Text.foldChar c := by
  simp only [CharClass.mem, Bool.or_eq_true, List.any_eq_true, mem_single]
  constructor
  · rintro (rfl | ⟨_, hvariant, rfl⟩)
    · rfl
    · exact (Text.mem_foldVariants_iff.1 hvariant).symm
  · exact fun heq => .inr ⟨c, Text.mem_foldVariants_iff.2 heq.symm, rfl⟩

end Pattern

end StubServer

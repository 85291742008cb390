import Mathlib.Data.List.Basic
import StubServer.Url.Match

/-!
# Complex segments

A part of a path is split at the literals of a complex segment, which leaves a piece for each
parameter. There may be several ways to do so; the one taken has the longest first piece, of those
the one with the longest second piece, and so on (`captures?_eq_some_iff`).
-/

namespace StubServer

namespace Url

open Text (foldChar)

/-- The characters are the literals, in any case, with a piece for each parameter between them.
Pieces are not empty and have no line break. -/
inductive Splits : List Part → List Char → List (Parameter × String) → Prop
  | nil : Splits [] [] []
  | literal {text : String} {spelled cs : List Char} {parts : List Part}
      {pieces : List (Parameter × String)}
      (hspelled : spelled.map foldChar = text.toList.map foldChar) (h : Splits parts cs pieces) :
      Splits (.literal text :: parts) (spelled ++ cs) pieces
  | parameter {p : Parameter} {piece cs : List Char} {parts : List Part}
      {pieces : List (Parameter × String)} (hne : piece ≠ []) (hline : '\n' ∉ piece)
      (h : Splits parts cs pieces) :
      Splits (.parameter p :: parts) (piece ++ cs) ((p, .ofList piece) :: pieces)

/-- The lengths of the pieces, by which ways to split are compared. -/
def pieceLengths (pieces : List (Parameter × String)) : List Nat :=
  pieces.map fun q => q.2.length

/-- Of all ways to split, the one whose pieces, from the first on, are as long as they can be. -/
structure SplitsLongest (parts : List Part) (cs : List Char) (pieces : List (Parameter × String)) :
    Prop where
  splits : Splits parts cs pieces
  longest : ∀ other, Splits parts cs other →
    ¬ List.Lex (· < ·) (pieceLengths pieces) (pieceLengths other)

/-! ## Ways to split -/

theorem Splits.map_fst {parts : List Part} {cs : List Char} {pieces : List (Parameter × String)}
    (h : Splits parts cs pieces) : pieces.map Prod.fst = parts.filterMap Part.parameter? := by
  induction h with
  | nil => rfl
  | literal _ _ ih => exact ih
  | @parameter p _ _ _ _ _ _ _ ih =>
    rw [List.map_cons, ih, List.filterMap_cons_some (show Part.parameter? (.parameter p) = some p
      from rfl)]

/-- The pieces are made of the characters that are split. -/
theorem Splits.piece {parts : List Part} {cs : List Char} {pieces : List (Parameter × String)}
    (h : Splits parts cs pieces) {q : Parameter × String} (hq : q ∈ pieces) :
    q.2 ≠ "" ∧ ∀ c ∈ q.2.toList, c ∈ cs := by
  induction h with
  | nil => simp at hq
  | literal _ _ ih =>
    exact ⟨(ih hq).1, fun c hc => List.mem_append_right _ ((ih hq).2 c hc)⟩
  | @parameter p piece _ _ _ hne _ _ ih =>
    rcases List.mem_cons.1 hq with rfl | hq
    · refine ⟨fun hempty => hne ?_, fun c hc => List.mem_append_left _ (by simpa using hc)⟩
      simpa using congrArg String.toList hempty
    · exact ⟨(ih hq).1, fun c hc => List.mem_append_right _ ((ih hq).2 c hc)⟩

theorem splits_literal_iff {text : String} {parts : List Part} {cs : List Char}
    {pieces : List (Parameter × String)} :
    Splits (.literal text :: parts) cs pieces ↔
      ∃ spelled rest, spelled.map foldChar = text.toList.map foldChar ∧ cs = spelled ++ rest ∧
        Splits parts rest pieces := by
  constructor
  · rintro ⟨⟩
    exact ⟨_, _, ‹_›, rfl, ‹_›⟩
  · rintro ⟨spelled, rest, hspelled, rfl, h⟩
    exact .literal hspelled h

theorem splits_parameter_iff {p : Parameter} {parts : List Part} {cs : List Char}
    {pieces : List (Parameter × String)} :
    Splits (.parameter p :: parts) cs pieces ↔
      ∃ piece rest behind, piece ≠ [] ∧ '\n' ∉ piece ∧ cs = piece ++ rest ∧
        pieces = (p, .ofList piece) :: behind ∧ Splits parts rest behind := by
  constructor
  · rintro ⟨⟩
    exact ⟨_, _, _, ‹_›, ‹_›, rfl, rfl, ‹_›⟩
  · rintro ⟨piece, rest, behind, hne, hline, rfl, rfl, h⟩
    exact .parameter hne hline h

/-- What a literal leaves does not depend on how the rest is split. -/
theorem afterFolded?_eq_some_iff {literal cs rest : List Char} :
    afterFolded? literal cs = some rest ↔
      ∃ spelled, spelled.map foldChar = literal.map foldChar ∧ cs = spelled ++ rest := by
  induction literal generalizing cs with
  | nil => simp [afterFolded?, eq_comm]
  | cons l literal ih =>
    rcases cs with _ | ⟨c, cs⟩
    · simp only [afterFolded?, reduceCtorEq, List.map_cons, false_iff, not_exists, not_and]
      intro spelled hspelled hnil
      obtain ⟨rfl, -⟩ := List.append_eq_nil_iff.1 hnil.symm
      cases hspelled
    · rw [afterFolded?]
      split
      · rename_i hfold
        rw [ih]
        constructor
        · rintro ⟨spelled, hspelled, rfl⟩
          exact ⟨c :: spelled, by simp [hfold, hspelled], rfl⟩
        · rintro ⟨spelled, hspelled, heq⟩
          obtain ⟨d, spelled, rfl⟩ : ∃ d ds, spelled = d :: ds :=
            List.exists_cons_of_ne_nil (by rintro rfl; cases hspelled)
          simp only [List.map_cons, List.cons.injEq, List.cons_append] at hspelled heq
          exact ⟨spelled, hspelled.2, heq.2⟩
      · rename_i hfold
        simp only [reduceCtorEq, List.map_cons, false_iff, not_exists, not_and]
        intro spelled hspelled heq
        obtain ⟨d, spelled, rfl⟩ : ∃ d ds, spelled = d :: ds :=
          List.exists_cons_of_ne_nil (by rintro rfl; cases hspelled)
        simp only [List.map_cons, List.cons.injEq, List.cons_append] at hspelled heq
        exact hfold (heq.1 ▸ hspelled.1.symm)

theorem splits_literal_of_afterFolded? {text : String} {parts : List Part} {cs : List Char}
    {pieces : List (Parameter × String)} :
    Splits (.literal text :: parts) cs pieces ↔
      ∃ rest, afterFolded? text.toList cs = some rest ∧ Splits parts rest pieces := by
  simp only [splits_literal_iff, afterFolded?_eq_some_iff]
  constructor
  · rintro ⟨spelled, rest, hspelled, heq, h⟩
    exact ⟨rest, ⟨spelled, hspelled, heq⟩, h⟩
  · rintro ⟨rest, ⟨spelled, hspelled, heq⟩, h⟩
    exact ⟨spelled, rest, hspelled, heq, h⟩

/-! ## The way that is taken -/

/-- A search from the largest number down finds the largest. -/
theorem findSome?_reverse_range_eq_some {α : Type} {f : Nat → Option α} {k : Nat} {a : α} :
    (List.range k).reverse.findSome? f = some a ↔
      ∃ n, n < k ∧ f n = some a ∧ ∀ m, n < m → m < k → f m = none := by
  induction k with
  | zero => simp
  | succ k ih =>
    rw [List.range_succ, List.reverse_append, List.reverse_singleton, List.singleton_append,
      List.findSome?_cons]
    rcases hk : f k with _ | b
    · simp only [ih]
      constructor
      · rintro ⟨n, hn, hfn, hlast⟩
        refine ⟨n, by omega, hfn, fun m hm hmk => ?_⟩
        rcases Nat.lt_succ_iff_lt_or_eq.1 hmk with hmk | rfl
        · exact hlast m hm hmk
        · exact hk
      · rintro ⟨n, hn, hfn, hlast⟩
        have hne : n ≠ k := by
          rintro rfl
          rw [hk] at hfn
          cases hfn
        exact ⟨n, by omega, hfn, fun m hm hmk => hlast m hm (by omega)⟩
    · constructor
      · intro h
        exact ⟨k, Nat.lt_succ_self k, hk.trans h, fun m hm hmk => by omega⟩
      · rintro ⟨n, hn, hfn, hlast⟩
        rcases Nat.lt_succ_iff_lt_or_eq.1 hn with hn | rfl
        · rw [hlast k hn (Nat.lt_succ_self k)] at hk
          cases hk
        · exact hk.symm.trans hfn

/-- A piece is the beginning of the characters up to a line break at the latest. -/
theorem length_le_takeWhile_iff {cs : List Char} {n : Nat} (hn : n ≤ cs.length) :
    n ≤ (cs.takeWhile (· != '\n')).length ↔ '\n' ∉ cs.take n := by
  induction cs generalizing n with
  | nil => simp_all
  | cons c cs ih =>
    rcases n with _ | n
    · simp
    · have hn : n ≤ cs.length := by simpa using hn
      by_cases hc : c = '\n'
      · simp [hc]
      · simp [hc, Ne.symm hc, ih hn]

theorem captures?_parameter_eq_some_iff {p : Parameter} {parts : List Part} {cs : List Char}
    {pieces : List (Parameter × String)} :
    captures? (.parameter p :: parts) cs = some pieces ↔
      ∃ n behind, n < (cs.takeWhile (· != '\n')).length ∧
        captures? parts (cs.drop (n + 1)) = some behind ∧
        pieces = (p, .ofList (cs.take (n + 1))) :: behind ∧
        ∀ m, n < m → m < (cs.takeWhile (· != '\n')).length →
          captures? parts (cs.drop (m + 1)) = none := by
  simp only [captures?, findSome?_reverse_range_eq_some, Option.map_eq_some_iff,
    Option.map_eq_none_iff]
  constructor
  · rintro ⟨n, hn, ⟨behind, hbehind, rfl⟩, hlast⟩
    exact ⟨n, behind, hn, hbehind, rfl, hlast⟩
  · rintro ⟨n, behind, hn, hbehind, rfl, hlast⟩
    exact ⟨n, hn, ⟨behind, hbehind, rfl⟩, hlast⟩

theorem splits_of_captures? {parts : List Part} {cs : List Char}
    {pieces : List (Parameter × String)} (h : captures? parts cs = some pieces) :
    Splits parts cs pieces := by
  induction parts generalizing cs pieces with
  | nil =>
    simp only [captures?, List.isEmpty_iff, Option.ite_none_right_eq_some, Option.some.injEq] at h
    obtain ⟨rfl, rfl⟩ := h
    exact .nil
  | cons part parts ih =>
    rcases part with text | p
    · rw [captures?, Option.bind_eq_some_iff] at h
      obtain ⟨rest, hrest, h⟩ := h
      exact splits_literal_of_afterFolded?.2 ⟨rest, hrest, ih h⟩
    · obtain ⟨n, behind, hn, hbehind, rfl, -⟩ := captures?_parameter_eq_some_iff.1 h
      have hlength : n + 1 ≤ cs.length := Nat.le_trans hn (List.takeWhile_prefix _).length_le
      have hline : '\n' ∉ cs.take (n + 1) := (length_le_takeWhile_iff hlength).1 hn
      have hne : cs.take (n + 1) ≠ [] := by
        rw [ne_eq, List.take_eq_nil_iff]
        rintro (h0 | rfl)
        · omega
        · simp at hlength
      exact splits_parameter_iff.2
        ⟨_, _, behind, hne, hline, (List.take_append_drop (n + 1) cs).symm, rfl, ih hbehind⟩

/-- Where there is a way to split, one is taken, and its pieces are no shorter. -/
theorem exists_captures?_of_splits {parts : List Part} {cs : List Char}
    {other : List (Parameter × String)} (h : Splits parts cs other) :
    ∃ pieces, captures? parts cs = some pieces ∧
      ¬ List.Lex (· < ·) (pieceLengths pieces) (pieceLengths other) := by
  induction parts generalizing cs other with
  | nil =>
    cases h
    exact ⟨[], rfl, List.not_lex_nil⟩
  | cons part parts ih =>
    rcases part with text | p
    · obtain ⟨rest, hrest, h⟩ := splits_literal_of_afterFolded?.1 h
      obtain ⟨pieces, hpieces, hle⟩ := ih h
      exact ⟨pieces, by rw [captures?, hrest, Option.bind_some, hpieces], hle⟩
    · obtain ⟨piece, rest, behind, hne, hline, rfl, rfl, hbehind⟩ := splits_parameter_iff.1 h
      obtain ⟨pieces, hpieces, hle⟩ := ih hbehind
      obtain ⟨k, hk⟩ : ∃ k, piece.length = k + 1 :=
        Nat.exists_eq_add_one.2 (List.length_pos_iff.2 hne)
      have hkline : k < ((piece ++ rest).takeWhile (· != '\n')).length := by
        refine (length_le_takeWhile_iff (by simp [hk])).2 ?_
        rwa [Nat.succ_eq_add_one, ← hk, List.take_left]
      have hdrop : captures? parts ((piece ++ rest).drop (k + 1)) = some pieces := by
        rw [← hk, List.drop_left, hpieces]
      -- The search goes down from the longest piece, so it stops at this one at the latest.
      obtain ⟨found, hfound⟩ : ∃ found, captures? (.parameter p :: parts) (piece ++ rest) =
          some found := by
        rw [← Option.isSome_iff_exists, captures?, List.findSome?_isSome_iff]
        exact ⟨k, by simpa using hkline, by simp [hdrop]⟩
      refine ⟨found, hfound, ?_⟩
      obtain ⟨n, behind', hn, hbehind', rfl, hlast⟩ := captures?_parameter_eq_some_iff.1 hfound
      have hlength : (piece ++ rest).length ≥ n + 1 :=
        Nat.le_trans hn (List.takeWhile_prefix _).length_le
      have hkn : k ≤ n := by
        by_contra hlt
        rw [hlast k (by omega) hkline] at hdrop
        cases hdrop
      simp only [pieceLengths, List.map_cons, String.length_ofList, List.length_take, hk,
        List.cons_lex_cons_iff, Nat.min_eq_left hlength]
      rintro (hlt | ⟨heq, hlex⟩)
      · omega
      · obtain rfl : n = k := by omega
        rw [hdrop] at hbehind'
        obtain rfl := Option.some.inj hbehind'
        exact hle hlex

/-- The pieces are told by their lengths. -/
theorem Splits.eq_of_lengths {parts : List Part} {cs : List Char}
    {pieces other : List (Parameter × String)} (h : Splits parts cs pieces)
    (hother : Splits parts cs other) (heq : pieceLengths pieces = pieceLengths other) :
    pieces = other := by
  induction parts generalizing cs pieces other with
  | nil =>
    cases h
    cases hother
    rfl
  | cons part parts ih =>
    rcases part with text | p
    · obtain ⟨rest, hrest, h⟩ := splits_literal_of_afterFolded?.1 h
      obtain ⟨rest', hrest', hother⟩ := splits_literal_of_afterFolded?.1 hother
      rw [hrest] at hrest'
      obtain rfl := Option.some.inj hrest'
      exact ih h hother heq
    · obtain ⟨piece, rest, behind, -, -, rfl, rfl, hbehind⟩ := splits_parameter_iff.1 h
      obtain ⟨piece', rest', behind', -, -, hcs, rfl, hbehind'⟩ := splits_parameter_iff.1 hother
      simp only [pieceLengths, List.map_cons, String.length_ofList, List.cons.injEq] at heq
      obtain ⟨rfl, rfl⟩ := List.append_inj hcs heq.1
      rw [ih hbehind hbehind' heq.2]

/-- The pieces captured are those of the way to split whose pieces are longest, from the first
piece on. -/
theorem captures?_eq_some_iff {parts : List Part} {cs : List Char}
    {pieces : List (Parameter × String)} :
    captures? parts cs = some pieces ↔ SplitsLongest parts cs pieces := by
  constructor
  · intro h
    refine ⟨splits_of_captures? h, fun other hother => ?_⟩
    obtain ⟨found, hfound, hle⟩ := exists_captures?_of_splits hother
    rw [h] at hfound
    exact Option.some.inj hfound ▸ hle
  · rintro ⟨hsplits, hlongest⟩
    obtain ⟨found, hfound, hle⟩ := exists_captures?_of_splits hsplits
    have hfoundSplits := splits_of_captures? hfound
    have hlengths : pieceLengths pieces = pieceLengths found :=
      List.le_antisymm hle (hlongest found hfoundSplits)
    rw [hfound, hsplits.eq_of_lengths hfoundSplits hlengths]

end Url

end StubServer

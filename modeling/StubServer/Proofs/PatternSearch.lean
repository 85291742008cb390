import Mathlib.Data.List.Basic
import StubServer.Pattern.Basic

/-!
# Searching a pattern

What an expression matches is told by a relation between the expression, the place where the match
begins and the characters that are matched. The steps of an expression are its derivatives, so the
search finds a match exactly where there is one (`isMatch_iff`).
-/

namespace StubServer

namespace Pattern

namespace Regex

/-- The last character in front of a place, when the characters were passed since `before`. -/
def lastOf (before : Option Char) (passed : List Char) : Option Char :=
  passed.getLast?.or before

theorem lastOf_nil (before : Option Char) : lastOf before [] = before := by
  rfl

theorem lastOf_cons (before : Option Char) (c : Char) (passed : List Char) :
    lastOf before (c :: passed) = lastOf (some c) passed := by
  cases passed <;> simp [lastOf, List.getLast?_cons]

/-- The expression matches the characters behind `before` that `rest` follows. -/
inductive Matches : Regex → Option Char → List Char → List Char → Prop
  | empty {before : Option Char} {rest : List Char} : Matches .empty before [] rest
  | one {k : CharClass} {before : Option Char} {c : Char} {rest : List Char} (h : k.mem c = true) :
      Matches (.one k) before [c] rest
  | anchor {a : Anchor} {before : Option Char} {rest : List Char}
      (h : a.holds ⟨before, rest.head?⟩ = true) : Matches (.anchor a) before [] rest
  | seq {a b : Regex} {before : Option Char} {xs ys rest : List Char}
      (ha : Matches a before xs (ys ++ rest)) (hb : Matches b (lastOf before xs) ys rest) :
      Matches (.seq a b) before (xs ++ ys) rest
  | left {a b : Regex} {before : Option Char} {xs rest : List Char}
      (h : Matches a before xs rest) : Matches (.alt a b) before xs rest
  | right {a b : Regex} {before : Option Char} {xs rest : List Char}
      (h : Matches b before xs rest) : Matches (.alt a b) before xs rest
  | stop {a : Regex} {before : Option Char} {rest : List Char} : Matches (.star a) before [] rest
  | more {a : Regex} {before : Option Char} {xs ys rest : List Char}
      (ha : Matches a before xs (ys ++ rest)) (hb : Matches (.star a) (lastOf before xs) ys rest) :
      Matches (.star a) before (xs ++ ys) rest

variable {a b r : Regex} {before : Option Char} {c : Char} {xs cs rest : List Char}

theorem matches_seq_iff : Matches (.seq a b) before cs rest ↔
    ∃ xs ys, cs = xs ++ ys ∧ Matches a before xs (ys ++ rest) ∧
      Matches b (lastOf before xs) ys rest := by
  constructor
  · rintro ⟨⟩
    exact ⟨_, _, rfl, ‹_›, ‹_›⟩
  · rintro ⟨xs, ys, rfl, ha, hb⟩
    exact .seq ha hb

theorem matches_alt_iff :
    Matches (.alt a b) before cs rest ↔ Matches a before cs rest ∨ Matches b before cs rest := by
  constructor
  · rintro ⟨⟩
    · exact .inl ‹_›
    · exact .inr ‹_›
  · rintro (h | h)
    · exact .left h
    · exact .right h

theorem matches_empty_iff : Matches .empty before cs rest ↔ cs = [] := by
  constructor
  · rintro ⟨⟩
    rfl
  · rintro rfl
    exact .empty

theorem matches_one_iff {k : CharClass} :
    Matches (.one k) before cs rest ↔ ∃ c, cs = [c] ∧ k.mem c = true := by
  constructor
  · rintro ⟨⟩
    exact ⟨_, rfl, ‹_›⟩
  · rintro ⟨c, rfl, h⟩
    exact .one h

theorem matches_anchor_iff {k : Anchor} :
    Matches (.anchor k) before cs rest ↔ cs = [] ∧ k.holds ⟨before, rest.head?⟩ = true := by
  constructor
  · rintro ⟨⟩
    exact ⟨rfl, ‹_›⟩
  · rintro ⟨rfl, h⟩
    exact .anchor h

theorem matches_andThen_iff : Matches (andThen a b) before cs rest ↔
    Matches (.seq a b) before cs rest := by
  unfold andThen
  split
  · rename_i hempty
    subst hempty
    simp [matches_seq_iff, matches_empty_iff, lastOf_nil]
  · rfl

/-! ## Steps -/

theorem matches_nil_iff :
    Matches r before [] rest ↔ r.nullable ⟨before, rest.head?⟩ = true := by
  induction r generalizing before rest with
  | never => exact ⟨nofun, nofun⟩
  | empty => simp [matches_empty_iff, nullable]
  | one k => simp [matches_one_iff, nullable]
  | anchor k => simp [matches_anchor_iff, nullable]
  | seq a b iha ihb =>
    rw [matches_seq_iff, nullable, Bool.and_eq_true, ← iha, ← ihb]
    constructor
    · rintro ⟨xs, ys, heq, ha, hb⟩
      obtain ⟨rfl, rfl⟩ := List.append_eq_nil_iff.1 heq.symm
      exact ⟨ha, hb⟩
    · rintro ⟨ha, hb⟩
      exact ⟨[], [], rfl, ha, hb⟩
  | alt a b iha ihb => rw [matches_alt_iff, iha, ihb, nullable, Bool.or_eq_true]
  | star a => exact ⟨fun _ => rfl, fun _ => .stop⟩

/-- A repetition that matches something has a round that does; rounds before it are empty. -/
theorem matches_star_cons_iff : Matches (.star a) before (c :: cs) rest ↔
    ∃ xs ys, cs = xs ++ ys ∧ Matches a before (c :: xs) (ys ++ rest) ∧
      Matches (.star a) (lastOf (some c) xs) ys rest := by
  constructor
  · intro h
    generalize hr : Regex.star a = r at h
    generalize hcs : c :: cs = ds at h
    induction h with
    | @more a' before xs ys rest ha hb _ ih =>
      cases hr
      rcases xs with _ | ⟨x, xs⟩
      · exact ih rfl hcs
      · obtain ⟨rfl, rfl⟩ := List.cons_eq_cons.1 hcs
        exact ⟨xs, ys, rfl, ha, lastOf_cons before c xs ▸ hb⟩
    | stop => cases hcs
    | _ => cases hr
  · rintro ⟨xs, ys, rfl, ha, hb⟩
    exact .more ha (lastOf_cons before c xs ▸ hb)

/-- A match of a character and more is a match of what may follow the character. -/
theorem matches_cons_iff : Matches r before (c :: cs) rest ↔
    ∃ s ∈ r.steps ⟨before, some c⟩ c, Matches s (some c) cs rest := by
  induction r generalizing before cs rest with
  | never => exact ⟨nofun, by simp [steps]⟩
  | empty => simp [matches_empty_iff, steps]
  | one k =>
    rw [matches_one_iff, steps]
    constructor
    · rintro ⟨d, heq, hd⟩
      obtain ⟨rfl, rfl⟩ := List.cons_eq_cons.1 heq
      exact ⟨.empty, by simp [hd], .empty⟩
    · rintro ⟨s, hs, h⟩
      split at hs
      · rename_i hmem
        rw [List.mem_singleton] at hs
        subst hs
        rw [matches_empty_iff] at h
        exact ⟨c, by rw [h], hmem⟩
      · cases hs
  | anchor k => simp [matches_anchor_iff, steps]
  | seq a b iha ihb =>
    simp only [steps, List.mem_append, List.mem_map]
    constructor
    · intro h
      obtain ⟨xs, ys, heq, ha, hb⟩ := matches_seq_iff.1 h
      rcases xs with _ | ⟨x, xs⟩
      · rw [List.nil_append] at heq
        subst heq
        rw [lastOf_nil] at hb
        obtain ⟨s, hs, hmatch⟩ := ihb.1 hb
        have hnullable : a.nullable ⟨before, some c⟩ = true := matches_nil_iff.1 ha
        exact ⟨s, .inr (by simpa [hnullable] using hs), hmatch⟩
      · obtain ⟨rfl, rfl⟩ := List.cons_eq_cons.1 heq
        obtain ⟨s, hs, hmatch⟩ := iha.1 ha
        refine ⟨andThen s b, .inl ⟨s, hs, rfl⟩, matches_andThen_iff.2 (.seq hmatch ?_)⟩
        rwa [lastOf_cons] at hb
    · rintro ⟨_, ⟨s, hs, rfl⟩ | hs, hmatch⟩
      · obtain ⟨xs, ys, rfl, ha, hb⟩ := matches_seq_iff.1 (matches_andThen_iff.1 hmatch)
        exact .seq (iha.2 ⟨s, hs, ha⟩) (lastOf_cons before c xs ▸ hb)
      · split at hs
        · rename_i hnullable
          exact matches_seq_iff.2
            ⟨[], c :: cs, rfl, matches_nil_iff.2 hnullable, ihb.2 ⟨_, hs, hmatch⟩⟩
        · cases hs
  | alt a b iha ihb =>
    simp only [matches_alt_iff, iha, ihb, steps, List.mem_append, or_and_right, exists_or]
  | star a iha =>
    simp only [matches_star_cons_iff, steps, List.mem_map]
    constructor
    · rintro ⟨xs, ys, rfl, ha, hb⟩
      obtain ⟨s, hs, hmatch⟩ := iha.1 ha
      exact ⟨_, ⟨s, hs, rfl⟩, matches_andThen_iff.2 (.seq hmatch hb)⟩
    · rintro ⟨_, ⟨s, hs, rfl⟩, hmatch⟩
      obtain ⟨xs, ys, rfl, ha, hb⟩ := matches_seq_iff.1 (matches_andThen_iff.1 hmatch)
      exact ⟨xs, ys, rfl, iha.2 ⟨s, hs, ha⟩, hb⟩

/-! ## The search -/

/-- A match begins at the place and is followed by whatever the text has left. -/
def Begins (r : Regex) (before : Option Char) (cs : List Char) : Prop :=
  ∃ xs rest, cs = xs ++ rest ∧ Matches r before xs rest

/-- A match begins somewhere behind the place. -/
def Occurs (r : Regex) (before : Option Char) (cs : List Char) : Prop :=
  ∃ passed behind, cs = passed ++ behind ∧ Begins r (lastOf before passed) behind

theorem begins_nil_iff : Begins r before [] ↔ r.nullable ⟨before, none⟩ = true := by
  constructor
  · rintro ⟨xs, rest, heq, h⟩
    obtain ⟨rfl, rfl⟩ := List.append_eq_nil_iff.1 heq.symm
    exact matches_nil_iff.1 h
  · exact fun h => ⟨[], [], rfl, matches_nil_iff.2 h⟩

theorem begins_cons_iff : Begins r before (c :: cs) ↔
    r.nullable ⟨before, some c⟩ = true ∨
      ∃ s ∈ r.steps ⟨before, some c⟩ c, Begins s (some c) cs := by
  constructor
  · rintro ⟨xs, rest, heq, h⟩
    rcases xs with _ | ⟨x, xs⟩
    · rw [List.nil_append] at heq
      subst heq
      exact .inl (matches_nil_iff.1 h)
    · obtain ⟨rfl, rfl⟩ := List.cons_eq_cons.1 heq
      obtain ⟨s, hs, hmatch⟩ := matches_cons_iff.1 h
      exact .inr ⟨s, hs, xs, rest, rfl, hmatch⟩
  · rintro (h | ⟨s, hs, xs, rest, rfl, h⟩)
    · exact ⟨[], c :: cs, rfl, matches_nil_iff.2 h⟩
    · exact ⟨c :: xs, rest, rfl, matches_cons_iff.2 ⟨s, hs, h⟩⟩

theorem occurs_nil_iff : Occurs r before [] ↔ Begins r before [] := by
  constructor
  · rintro ⟨passed, behind, heq, h⟩
    obtain ⟨rfl, rfl⟩ := List.append_eq_nil_iff.1 heq.symm
    exact h
  · exact fun h => ⟨[], [], rfl, h⟩

theorem occurs_cons_iff :
    Occurs r before (c :: cs) ↔ Begins r before (c :: cs) ∨ Occurs r (some c) cs := by
  constructor
  · rintro ⟨passed, behind, heq, h⟩
    rcases passed with _ | ⟨d, passed⟩
    · rw [List.nil_append] at heq
      subst heq
      exact .inl h
    · obtain ⟨rfl, rfl⟩ := List.cons_eq_cons.1 heq
      exact .inr ⟨passed, behind, rfl, lastOf_cons before c passed ▸ h⟩
  · rintro (h | ⟨passed, behind, rfl, h⟩)
    · exact ⟨[], c :: cs, rfl, h⟩
    · exact ⟨c :: passed, behind, rfl, lastOf_cons before c passed ▸ h⟩

/-- The search keeps what the begun matches may go on with, and begins a match at every place. -/
theorem searchFrom_iff {states : List Regex} : searchFrom r before states cs = true ↔
    (∃ s ∈ states, Begins s before cs) ∨ Occurs r before cs := by
  induction cs generalizing before states with
  | nil =>
    simp only [searchFrom, List.any_cons, Bool.or_eq_true, List.any_eq_true, begins_nil_iff,
      occurs_nil_iff]
    exact or_comm
  | cons c cs ih =>
    simp only [searchFrom, List.any_cons, Bool.or_eq_true, List.any_eq_true, ih, stepAll,
      List.mem_eraseDups, List.mem_flatMap, List.mem_cons, begins_cons_iff, occurs_cons_iff]
    constructor
    · rintro ((h | ⟨s, hs, h⟩) | ⟨t, ⟨s, rfl | hs, ht⟩, h⟩ | h)
      · exact .inr (.inl (.inl h))
      · exact .inl ⟨s, hs, .inl h⟩
      · exact .inr (.inl (.inr ⟨t, ht, h⟩))
      · exact .inl ⟨s, hs, .inr ⟨t, ht, h⟩⟩
      · exact .inr (.inr h)
    · rintro (⟨s, hs, h | ⟨t, ht, h⟩⟩ | (h | ⟨t, ht, h⟩) | h)
      · exact .inl (.inr ⟨s, hs, h⟩)
      · exact .inr (.inl ⟨t, ⟨s, .inr hs, ht⟩, h⟩)
      · exact .inl (.inl h)
      · exact .inr (.inl ⟨t, ⟨r, .inl rfl, ht⟩, h⟩)
      · exact .inr (.inr h)

/-- A match is found when there is one, at any place of the text. -/
theorem isMatch_iff {text : String} : r.isMatch text = true ↔
    ∃ passed xs rest, text.toList = passed ++ (xs ++ rest) ∧
      Matches r passed.getLast? xs rest := by
  rw [isMatch, searchFrom_iff]
  constructor
  · rintro (⟨s, hs, -⟩ | ⟨passed, behind, heq, xs, rest, rfl, h⟩)
    · cases hs
    · exact ⟨passed, xs, rest, heq, by simpa [lastOf] using h⟩
  · rintro ⟨passed, xs, rest, heq, h⟩
    exact .inr ⟨passed, xs ++ rest, heq, xs, rest, rfl, by simpa [lastOf] using h⟩

end Regex

end Pattern

end StubServer

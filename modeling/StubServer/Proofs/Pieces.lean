import StubServer.Template.Function.Array
import StubServer.Template.Function.Text

/-!
# The pieces of a text

A text is cut at the occurrences of a separator, from the left and so that they do not overlap
(`cutsAt_splitAtText`). What is cut off is the separator each time, so joining the pieces with it
gives the text again, and an occurrence that is left in a piece would have been cut
(`join_undoes_split`).
-/

namespace StubServer

namespace Text

/-- A list is cut into pieces at the first occurrence of the separator, and what follows it in the
same way. An occurrence is the first one when none is complete before its last character. -/
inductive CutsAt (sep : List Char) : List Char → List (List Char) → Prop
  | last {cs : List Char} (hnone : ¬ sep <:+: cs) : CutsAt sep cs [cs]
  | cut {piece rest : List Char} {pieces : List (List Char)}
      (hfirst : ¬ sep <:+: piece ++ sep.dropLast) (hrest : CutsAt sep rest pieces) :
      CutsAt sep (piece ++ sep ++ rest) (piece :: pieces)

namespace CutsAt

variable {sep cs : List Char} {pieces : List (List Char)}

theorem ne_nil (h : CutsAt sep cs pieces) : pieces ≠ [] := by
  cases h <;> exact List.cons_ne_nil _ _

theorem intercalate_eq (h : CutsAt sep cs pieces) : sep.intercalate pieces = cs := by
  induction h with
  | last => exact List.intercalate_singleton
  | cut _ hrest ih => rw [List.intercalate_cons_of_ne_nil hrest.ne_nil, ih]

theorem not_occurs (h : CutsAt sep cs pieces) : ∀ piece ∈ pieces, ¬ sep <:+: piece := by
  induction h with
  | last hnone => simpa using hnone
  | cut hfirst _ ih =>
    refine List.forall_mem_cons.2 ⟨fun hpiece => hfirst ?_, ih⟩
    exact hpiece.trans (List.prefix_append _ _).isInfix

end CutsAt

/-- No occurrence of the separator begins in the piece that has been read, whatever of the rest it
takes. -/
def BeginsBehind (sep piece rest : List Char) : Prop :=
  ∀ before after, piece ++ rest = before ++ sep ++ after → piece.length ≤ before.length

section

variable {sep piece rest : List Char}

/-- At the end no occurrence is left. -/
theorem BeginsBehind.not_occurs (h : BeginsBehind sep piece []) (hsep : sep ≠ []) :
    ¬ sep <:+: piece := by
  rintro ⟨before, after, hpiece⟩
  have hlength := congrArg List.length hpiece
  have hle := h before after (by rw [List.append_nil, hpiece])
  have hpos := List.length_pos_iff.2 hsep
  simp only [List.length_append] at hlength
  omega

/-- An occurrence right behind the piece is the first one. -/
theorem BeginsBehind.not_occurs_dropLast (h : BeginsBehind sep piece (sep ++ rest))
    (hsep : sep ≠ []) : ¬ sep <:+: piece ++ sep.dropLast := by
  rintro ⟨before, after, hpiece⟩
  have hlength := congrArg List.length hpiece
  have hle := h before (after ++ [sep.getLast hsep] ++ rest) (by
    calc piece ++ (sep ++ rest)
        = piece ++ (sep.dropLast ++ [sep.getLast hsep]) ++ rest := by
          rw [List.dropLast_concat_getLast, List.append_assoc]
      _ = before ++ sep ++ (after ++ [sep.getLast hsep] ++ rest) := by
          rw [← List.append_assoc, ← hpiece]
          simp only [List.append_assoc])
  have hpos := List.length_pos_iff.2 hsep
  simp only [List.length_append, List.length_dropLast] at hlength
  omega

/-- Where no occurrence begins one more character is read. -/
theorem BeginsBehind.concat {c : Char} (h : BeginsBehind sep piece (c :: rest))
    (hnone : ¬ sep <+: c :: rest) : BeginsBehind sep (piece ++ [c]) rest := by
  intro before after heq
  rw [List.append_assoc, List.singleton_append] at heq
  have hle := h before after heq
  rw [List.length_append, List.length_singleton]
  refine Nat.lt_of_le_of_ne hle fun hlength => hnone ⟨after, ?_⟩
  rw [List.append_assoc] at heq
  exact (List.append_inj heq hlength).2.symm

end

theorem after?_eq_none_iff {start cs : List Char} : after? start cs = none ↔ ¬ start <+: cs := by
  rw [← Option.not_isSome_iff_eq_none, Option.isSome_iff_exists]
  simp only [after?_eq_some_iff, List.prefix_iff_exists_eq_append]

/-- The characters still to be skipped are dropped from what is to be cut. -/
theorem cutsAt_splitAtTextFrom (s : Char) (sep : List Char) (skip : Nat) (piece cs : List Char)
    (hskip : skip ≠ 0 → piece = []) (hpiece : BeginsBehind (s :: sep) piece.reverse cs) :
    CutsAt (s :: sep) (piece.reverse ++ cs.drop skip) (splitAtTextFrom s sep skip piece cs) := by
  induction cs generalizing skip piece with
  | nil =>
    rw [splitAtTextFrom, List.drop_nil, List.append_nil]
    exact .last (hpiece.not_occurs (List.cons_ne_nil _ _))
  | cons c cs ih =>
    cases skip with
    | succ k =>
      obtain rfl := hskip (Nat.succ_ne_zero k)
      exact ih k [] (fun _ => rfl) fun _ _ _ => Nat.zero_le _
    | zero =>
      rw [splitAtTextFrom, List.drop_zero]
      split
      · rename_i rest hafter
        have hcs := after?_eq_some_iff.1 hafter
        have hrest : rest = cs.drop sep.length := by
          rw [(List.cons.inj hcs).2]
          exact (List.drop_left).symm
        rw [hcs] at hpiece ⊢
        rw [← List.append_assoc, hrest]
        exact .cut (hpiece.not_occurs_dropLast (List.cons_ne_nil _ _))
          (ih sep.length [] (fun _ => rfl) fun _ _ _ => Nat.zero_le _)
      · rename_i hafter
        have hread := ih 0 (c :: piece) (absurd rfl) (by
          rw [List.reverse_cons]
          exact hpiece.concat (after?_eq_none_iff.1 hafter))
        rwa [List.reverse_cons, List.append_assoc, List.singleton_append] at hread

theorem cutsAt_splitAtText {sep : List Char} (hsep : sep ≠ []) (cs : List Char) :
    CutsAt sep cs (splitAtText sep cs) := by
  obtain ⟨s, sep, rfl⟩ := List.exists_cons_of_ne_nil hsep
  exact cutsAt_splitAtTextFrom s sep 0 [] cs (absurd rfl) fun _ _ _ => Nat.zero_le _

/-- The pieces are joined to the text, also by the empty separator, which cuts nothing. -/
theorem intercalate_splitAtText (sep cs : List Char) :
    sep.intercalate (splitAtText sep cs) = cs := by
  cases sep with
  | nil => exact List.intercalate_singleton
  | cons s sep => exact (cutsAt_splitAtText (List.cons_ne_nil s sep) cs).intercalate_eq

theorem splitAtText_ne_nil (sep cs : List Char) : splitAtText sep cs ≠ [] := by
  cases sep with
  | nil => exact List.cons_ne_nil _ _
  | cons s sep => exact (cutsAt_splitAtText (List.cons_ne_nil s sep) cs).ne_nil

end Text

namespace Template

namespace TextFunction

theorem map_toList_pieces (s separator : String) :
    (pieces s separator).map String.toList = Text.splitAtText separator.toList s.toList := by
  simp [pieces, Function.comp_def]

theorem pieces_ne_nil (s separator : String) : pieces s separator ≠ [] := by
  rw [pieces, Ne, List.map_eq_nil_iff]
  exact Text.splitAtText_ne_nil _ _

theorem not_occurs_of_mem_pieces {s separator piece : String} (hseparator : separator ≠ "")
    (h : piece ∈ pieces s separator) : ¬ separator.toList <:+: piece.toList := by
  have hne : separator.toList ≠ [] := fun h => hseparator (String.toList_eq_nil_iff.1 h)
  refine (Text.cutsAt_splitAtText hne s.toList).not_occurs _ ?_
  rw [← map_toList_pieces]
  exact List.mem_map_of_mem h

end TextFunction

theorem ArrayFunction.joined_pieces (s separator : String) :
    joined ((TextFunction.pieces s separator).map .string) separator = s := by
  have htexts : ((TextFunction.pieces s separator).map Value.string).map Value.text =
      TextFunction.pieces s separator := by
    rw [List.map_map]
    exact List.map_id'' (fun t => by rw [Function.comp_apply, Value.text]) _
  refine String.toList_injective ?_
  rw [joined, htexts, Text.toList_join, TextFunction.map_toList_pieces,
    Text.intercalate_splitAtText]

/-- A text is split into one piece or more, and joining them gives the text again: for every
separator, be it empty, and when both functions are left to take a space. Unless the separator is
empty it occurs in none of the pieces. -/
theorem join_undoes_split (s : String) (more : Arguments) :
    let separator := more.stringOr 0 " "
    ∃ pieces : List String, pieces ≠ [] ∧
      TextFunction.split.call (.string s :: more) = .ok (.array (pieces.map .string)) ∧
      ArrayFunction.join.call (.array (pieces.map .string) :: more) = .ok (.string s) ∧
      (separator ≠ "" → ∀ piece ∈ pieces, ¬ separator.toList <:+: piece.toList) := by
  intro separator
  refine ⟨TextFunction.pieces s separator, TextFunction.pieces_ne_nil s separator, rfl, ?_,
    fun hne piece => TextFunction.not_occurs_of_mem_pieces hne⟩
  change Except.ok (Value.string (ArrayFunction.joined _ separator)) = _
  rw [ArrayFunction.joined_pieces]

/-- The separator overlaps itself, and the text begins and ends with it. -/
theorem overlapping_join_undoes_split :
    "aa" ≠ "" ∧ ∃ pieces : List String, pieces ≠ [] ∧
      TextFunction.split.call [.string "aaabaa", .string "aa"] =
        .ok (.array (pieces.map .string)) ∧
      ArrayFunction.join.call [.array (pieces.map .string), .string "aa"] =
        .ok (.string "aaabaa") ∧
      ∀ piece ∈ pieces, ¬ ['a', 'a'] <:+: piece.toList := by
  have hne : "aa" ≠ "" := by decide
  obtain ⟨pieces, hpieces, hsplit, hjoin, hnone⟩ := join_undoes_split "aaabaa" [.string "aa"]
  exact ⟨hne, pieces, hpieces, hsplit, hjoin, hnone hne⟩

/-- Of two occurrences that overlap the first one is cut. -/
example : TextFunction.pieces "aaabaa" "aa" = ["", "ab", ""] := by decide

end Template

end StubServer

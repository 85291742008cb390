/-!
# Splitting and joining

Cutting a text at a separator and putting the pieces together again. A separator is a character
or a text that is not empty; occurrences are taken from the left and do not overlap.
-/

namespace StubServer

namespace Text

theorem takeWhile_dropWhile_iff {α : Type} {p : α → Bool} {xs run rest : List α} :
    (xs.takeWhile p = run ∧ xs.dropWhile p = rest) ↔
      xs = run ++ rest ∧ (∀ x ∈ run, p x = true) ∧ ∀ x ∈ rest.head?, p x = false := by
  constructor
  · rintro ⟨rfl, rfl⟩
    refine ⟨List.takeWhile_append_dropWhile.symm, List.all_eq_true.1 List.all_takeWhile, ?_⟩
    intro x hx
    have h := List.head?_dropWhile_not p xs
    rw [Option.mem_def.1 hx] at h
    simpa using h
  · rintro ⟨rfl, hrun, hrest⟩
    rw [List.takeWhile_append_of_pos hrun, List.dropWhile_append_of_pos hrun]
    cases rest with
    | nil => simp
    | cons x rest => simp [hrest x rfl]

/-- The list after the given beginning, when it has that beginning. -/
def after? : List Char → List Char → Option (List Char)
  | [], cs => some cs
  | _ :: _, [] => none
  | p :: ps, c :: cs => if p = c then after? ps cs else none

theorem after?_eq_some_iff {start cs rest : List Char} :
    after? start cs = some rest ↔ cs = start ++ rest := by
  induction start generalizing cs with
  | nil => simp [after?, eq_comm]
  | cons p ps ih =>
    cases cs with
    | nil => simp [after?]
    | cons c cs =>
      by_cases h : p = c
      · simp [after?, h, ih]
      · simp [after?, h, Ne.symm h]

/-- The list without the given ending, when it has that ending. -/
def before? (ending cs : List Char) : Option (List Char) :=
  (after? ending.reverse cs.reverse).map List.reverse

theorem before?_eq_some_iff {ending cs rest : List Char} :
    before? ending cs = some rest ↔ cs = rest ++ ending := by
  simp only [before?, Option.map_eq_some_iff, after?_eq_some_iff]
  constructor
  · rintro ⟨r, hr, rfl⟩
    rw [← List.reverse_reverse cs, hr, List.reverse_append, List.reverse_reverse]
  · rintro rfl
    exact ⟨rest.reverse, List.reverse_append, List.reverse_reverse rest⟩

/-- The pieces between the occurrences of one character. -/
def splitAtChar (sep : Char) : List Char → List (List Char)
  | [] => [[]]
  | c :: cs =>
    if c = sep then [] :: splitAtChar sep cs
    else
      match splitAtChar sep cs with
      | [] => [[c]]
      | piece :: pieces => (c :: piece) :: pieces

theorem splitAtChar_eq_splitOn (sep : Char) (cs : List Char) :
    splitAtChar sep cs = cs.splitOn sep := by
  induction cs with
  | nil => rfl
  | cons c cs ih =>
    rw [List.splitOn_cons_eq_if_modifyHead, splitAtChar, ih]
    by_cases hc : c = sep
    · simp [hc]
    · obtain ⟨piece, pieces, h⟩ := List.exists_cons_of_ne_nil (List.splitOn_ne_nil sep cs)
      simp [hc, h]

theorem notMem_of_mem_splitAtChar {sep : Char} {cs piece : List Char}
    (h : piece ∈ splitAtChar sep cs) : sep ∉ piece := by
  induction cs generalizing piece with
  | nil =>
    rw [splitAtChar, List.mem_singleton] at h
    simp [h]
  | cons c cs ih =>
    unfold splitAtChar at h
    split at h
    · rcases List.mem_cons.1 h with rfl | h
      · simp
      · exact ih h
    · rename_i hc
      split at h
      · rw [List.mem_singleton] at h
        simp [h, Ne.symm hc]
      · rename_i first rest hsplit
        rw [hsplit] at ih
        rcases List.mem_cons.1 h with rfl | h
        · simpa [Ne.symm hc] using ih List.mem_cons_self
        · exact ih (List.mem_cons_of_mem _ h)

theorem splitAtChar_ne_nil (c : Char) (cs : List Char) : splitAtChar c cs ≠ [] :=
  splitAtChar_eq_splitOn c cs ▸ List.splitOn_ne_nil c cs

theorem intercalate_splitAtChar (c : Char) (cs : List Char) :
    [c].intercalate (splitAtChar c cs) = cs := by
  rw [splitAtChar_eq_splitOn, List.intercalate_splitOn]

theorem splitAtChar_of_notMem {c : Char} {cs : List Char} (h : c ∉ cs) :
    splitAtChar c cs = [cs] := by
  have hsplit : ([c].intercalate [cs]).splitOn c = [cs] :=
    List.splitOn_intercalate c (by simpa using h) (List.cons_ne_nil _ _)
  rwa [List.intercalate_singleton, ← splitAtChar_eq_splitOn] at hsplit

/-- What precedes the first occurrence of the character and what follows it. -/
def cutAt? (sep : Char) : List Char → Option (List Char × List Char)
  | [] => none
  | c :: cs =>
    if c = sep then some ([], cs) else (cutAt? sep cs).map fun (a, b) => (c :: a, b)

theorem cutAt?_eq_some_iff {sep : Char} {cs a b : List Char} :
    cutAt? sep cs = some (a, b) ↔ sep ∉ a ∧ cs = a ++ sep :: b := by
  induction cs generalizing a with
  | nil => simp [cutAt?]
  | cons c cs ih =>
    by_cases hc : c = sep
    · subst hc
      cases a with
      | nil => simp [cutAt?]
      | cons x a =>
        simp only [cutAt?, if_true, Option.some.injEq, Prod.mk.injEq, reduceCtorEq, false_and,
          List.mem_cons, not_or, List.cons_append, List.cons.injEq, false_iff]
        rintro ⟨⟨hx, -⟩, rfl, -⟩
        exact hx rfl
    · cases a with
      | nil => simp [cutAt?, hc]
      | cons x a =>
        simp only [cutAt?, hc, if_false, Option.map_eq_some_iff, Prod.exists, Prod.mk.injEq,
          List.cons.injEq, List.mem_cons, not_or, List.cons_append]
        constructor
        · rintro ⟨a', b', h, ⟨rfl, rfl⟩, rfl⟩
          exact ⟨⟨fun he => hc he.symm, (ih.1 h).1⟩, rfl, (ih.1 h).2⟩
        · rintro ⟨⟨-, ha⟩, rfl, rfl⟩
          exact ⟨a, b, ih.2 ⟨ha, rfl⟩, ⟨rfl, rfl⟩, rfl⟩

theorem cutAt?_eq_none_iff {sep : Char} {cs : List Char} : cutAt? sep cs = none ↔ sep ∉ cs := by
  induction cs with
  | nil => simp [cutAt?]
  | cons c cs ih =>
    by_cases hc : c = sep
    · simp [cutAt?, hc]
    · simp [cutAt?, hc, ih, Ne.symm hc]

/-- The pieces between the occurrences of `s :: sep`; `skip` characters still belong to the last
occurrence, and `piece` is the piece being read, backwards. -/
def splitAtTextFrom (s : Char) (sep : List Char) (skip : Nat) (piece : List Char) :
    List Char → List (List Char)
  | [] => [piece.reverse]
  | c :: cs =>
    match skip with
    | k + 1 => splitAtTextFrom s sep k piece cs
    | 0 =>
      match after? (s :: sep) (c :: cs) with
      | some _ => piece.reverse :: splitAtTextFrom s sep sep.length [] cs
      | none => splitAtTextFrom s sep 0 (c :: piece) cs

/-- The pieces between the occurrences of a separator; without one the text is one piece. -/
def splitAtText (sep : List Char) (cs : List Char) : List (List Char) :=
  match sep with
  | [] => [cs]
  | s :: sep => splitAtTextFrom s sep 0 [] cs

/-- The text occurs somewhere in the list. -/
def occursIn (part : List Char) : List Char → Bool
  | [] => part.isEmpty
  | c :: cs => (after? part (c :: cs)).isSome || occursIn part cs

theorem occursIn_iff {part cs : List Char} : occursIn part cs = true ↔ part <:+: cs := by
  induction cs with
  | nil => simp [occursIn]
  | cons c cs ih =>
    rw [occursIn, Bool.or_eq_true, ih, List.infix_cons_iff, Option.isSome_iff_exists]
    refine or_congr_left (exists_congr fun rest => ?_)
    rw [after?_eq_some_iff, eq_comm]

def contains (s part : String) : Bool :=
  occursIn part.toList s.toList

def startsWith (s start : String) : Bool :=
  (after? start.toList s.toList).isSome

/-- The texts with the separator between neighbours. -/
def join (sep : String) : List String → String
  | [] => ""
  | [s] => s
  | s :: rest => s ++ sep ++ join sep rest

theorem toList_join (sep : String) (ss : List String) :
    (join sep ss).toList = sep.toList.intercalate (ss.map String.toList) := by
  fun_induction join sep ss with
  | case1 => rfl
  | case2 s => simp
  | case3 s rest hrest ih =>
    rw [List.map_cons, List.intercalate_cons_of_ne_nil (by simpa using hrest), ← ih]
    simp [String.toList_append]

theorem intercalate_append {α : Type} {sep : List α} {xs ys : List (List α)} (hxs : xs ≠ [])
    (hys : ys ≠ []) :
    sep.intercalate (xs ++ ys) = sep.intercalate xs ++ sep ++ sep.intercalate ys := by
  induction xs with
  | nil => exact absurd rfl hxs
  | cons x xs ih =>
    rcases xs with _ | ⟨x', xs⟩
    · simp [List.intercalate_cons_of_ne_nil hys]
    · rw [List.cons_append, List.intercalate_cons_of_ne_nil (by simp), ih (List.cons_ne_nil _ _),
        List.intercalate_cons_of_ne_nil (List.cons_ne_nil _ _)]
      simp

theorem notMem_intercalate {α : Type} {sep : List α} {xs : List (List α)} {a : α} (hsep : a ∉ sep)
    (hxs : ∀ x ∈ xs, a ∉ x) : a ∉ sep.intercalate xs := by
  induction xs with
  | nil => simp
  | cons x xs ih =>
    rw [List.forall_mem_cons] at hxs
    rcases xs with _ | ⟨x', xs⟩
    · simpa using hxs.1
    · rw [List.intercalate_cons_of_ne_nil (List.cons_ne_nil _ _)]
      simp [hxs.1, hsep, ih hxs.2]

/-- The number of bytes of the UTF-8 form. -/
def byteCount (cs : List Char) : Nat :=
  cs.foldr (fun c n => c.utf8Size + n) 0

end Text

end StubServer

import Mathlib.Data.List.Basic
import Mathlib.Tactic.FinCases
import StubServer.Pattern.Read
import StubServer.Proofs.CaseFolding
import StubServer.Proofs.Matching
import StubServer.Proofs.PatternSearch

/-!
# The pattern of a complex segment

A complex segment stands for a pattern: its literals, with a backslash in front of whatever has a
meaning of its own, and a group that takes one character or more for each parameter. The pattern can
be read, it matches what can be split at the literals, and what the segment captures is the split
with the longest pieces, from the first one on (`splits_by_pattern`).
-/

namespace StubServer

namespace Pattern

/-- The pattern that matches just these characters. -/
def escaped (cs : List Char) : List Char :=
  cs.flatMap fun c => if Read.isMeta c then ['\\', c] else [c]

/-- The flags of a pattern in which case does not matter. -/
def foldingFlags : Flags :=
  { ignoreCase := true }

/-- The character in any case. -/
def inAnyCase (c : Char) : Regex :=
  .one (.folded (.single c))

/-- One character or more, none of them a line break. -/
def something : Regex :=
  .seqs [.repeated (.one (.complement (.single '\n'))) 1 none]

/-! ## Reading the pattern -/

namespace Read

theorem skip_foldingFlags (cs : List Char) : skip foldingFlags cs = cs := by
  rfl

/-- The state after more items were read. -/
def GroupState.pushAll (s : GroupState) (rs : List Regex) : GroupState :=
  { s with items := (rs.map some).reverse ++ s.items }

theorem GroupState.pushAll_cons (s : GroupState) (r : Regex) (rs : List Regex) :
    s.pushAll (r :: rs) = (s.push r).pushAll rs := by
  simp [pushAll, push]

theorem GroupState.pushAll_append (s : GroupState) (rs ts : List Regex) :
    s.pushAll (rs ++ ts) = (s.pushAll rs).pushAll ts := by
  simp [pushAll]

variable {s : GroupState}

theorem isMeta_iff {c : Char} : isMeta c = true ↔
    c ∈ ['\\', '.', '+', '*', '?', '(', ')', '|', '[', ']', '\x7b', '\x7d', '^', '$', '#', '&', '-',
      '~'] := by
  simp [isMeta]

theorem group_literal (hs : s.flags = foldingFlags) {c : Char} (hc : isMeta c = false) (fuel : Nat)
    (rest : List Char) :
    group s (fuel + 1) (c :: rest) = group (s.push (inAnyCase c)) fuel rest := by
  rw [← Bool.not_eq_true, isMeta_iff] at hc
  simp only [List.mem_cons, not_or] at hc
  rw [group]
  simp [skip, hs, foldingFlags, hc, foldIf, inAnyCase]

theorem group_escaped (hs : s.flags = foldingFlags) {c : Char} (hc : isMeta c = true) (fuel : Nat)
    (rest : List Char) :
    group s (fuel + 1) ('\\' :: c :: rest) = group (s.push (inAnyCase c)) fuel rest := by
  have hescape : escape foldingFlags (c :: rest) = some (.literal c, rest) := by
    rw [isMeta_iff] at hc
    fin_cases hc <;> rfl
  rw [group]
  simp only [hs, skip_foldingFlags, hescape]
  rfl

theorem group_something (hs : s.flags = foldingFlags) (fuel : Nat) (rest : List Char) :
    group s (fuel + 4) ("(.+)".toList ++ rest) = group (s.push something) (fuel + 3) rest := by
  change group s (fuel + 3 + 1) ('(' :: '.' :: '+' :: ')' :: rest) = _
  rw [group]
  simp only [hs, skip_foldingFlags]
  rfl

/-- What is read of a pattern before a complex segment begins. -/
def startState : GroupState :=
  { flags := foldingFlags, items := [some (.anchor .textStart), none], names := [] }

theorem group_start (fuel : Nat) (cs : List Char) :
    group { flags := { ignoreCase := false }, names := [] } (fuel + 2) ("(?i)^".toList ++ cs) =
      group startState fuel cs := by
  rfl

theorem group_end (hs : s.flags = foldingFlags) (fuel : Nat) :
    group s (fuel + 2) ['$'] = some (s.push (.anchor .textEnd), []) := by
  rw [group]
  simp only [hs, skip_foldingFlags]
  rw [group]
  simp only [GroupState.push, hs, skip_foldingFlags]
  rfl

/-- Each character of an escaped text is read as itself, with less fuel than it has characters. -/
theorem group_escaped_append (hs : s.flags = foldingFlags) (cs : List Char) {fuel : Nat}
    {rest : List Char} (hfuel : (escaped cs ++ rest).length < fuel) :
    ∃ fuel', rest.length < fuel' ∧
      group s fuel (escaped cs ++ rest) = group (s.pushAll (cs.map inAnyCase)) fuel' rest := by
  induction cs generalizing s fuel with
  | nil => exact ⟨fuel, hfuel, by rw [List.map_nil, GroupState.pushAll]; rfl⟩
  | cons c cs ih =>
    rw [escaped, List.flatMap_cons, ← escaped, List.append_assoc] at hfuel ⊢
    obtain ⟨fuel, rfl⟩ : ∃ n, fuel = n + 1 := Nat.exists_eq_add_one.2 (by omega)
    have hpush : (s.push (inAnyCase c)).flags = foldingFlags := hs
    by_cases hc : isMeta c = true
    · rw [if_pos hc] at hfuel ⊢
      have hrest : (escaped cs ++ rest).length < fuel := by
        simp only [List.cons_append, List.nil_append, List.length_cons] at hfuel
        omega
      obtain ⟨fuel', hlt, heq⟩ := ih hpush hrest
      refine ⟨fuel', hlt, ?_⟩
      rw [List.map_cons, GroupState.pushAll_cons, ← heq]
      exact group_escaped hs hc fuel _
    · rw [if_neg hc] at hfuel ⊢
      have hrest : (escaped cs ++ rest).length < fuel := by
        simp only [List.singleton_append, List.length_cons] at hfuel
        omega
      obtain ⟨fuel', hlt, heq⟩ := ih hpush hrest
      refine ⟨fuel', hlt, ?_⟩
      rw [List.map_cons, GroupState.pushAll_cons, ← heq]
      exact group_literal hs (Bool.not_eq_true _ ▸ hc) fuel _

end Read

end Pattern

namespace Url

open Pattern (Regex escaped inAnyCase something)

/-- What stands for a part in the pattern of a segment. -/
def Part.pattern : Part → List Char
  | literal text => escaped text.toList
  | parameter _ => "(.+)".toList

/-- The pattern of a complex segment. -/
def segmentPattern (parts : List Part) : String :=
  .ofList ("(?i)^".toList ++ (parts.flatMap Part.pattern ++ ['$']))

/-- The expressions that a part's pattern stands for, one after another. -/
def Part.expressions : Part → List Regex
  | literal text => text.toList.map inAnyCase
  | parameter _ => [something]

theorem group_parts {s : Pattern.Read.GroupState} (hs : s.flags = Pattern.foldingFlags)
    (parts : List Part) {fuel : Nat} {rest : List Char}
    (hfuel : (parts.flatMap Part.pattern ++ rest).length < fuel) :
    ∃ fuel', rest.length < fuel' ∧
      Pattern.Read.group s fuel (parts.flatMap Part.pattern ++ rest) =
        Pattern.Read.group (s.pushAll (parts.flatMap Part.expressions)) fuel' rest := by
  induction parts generalizing s fuel with
  | nil => exact ⟨fuel, hfuel, rfl⟩
  | cons part parts ih =>
    rw [List.flatMap_cons, List.append_assoc] at hfuel ⊢
    rw [List.flatMap_cons, Pattern.Read.GroupState.pushAll_append]
    cases part with
    | literal text =>
      obtain ⟨fuel', hlt, heq⟩ := Pattern.Read.group_escaped_append hs text.toList hfuel
      have hpush : (s.pushAll (text.toList.map inAnyCase)).flags = Pattern.foldingFlags := hs
      rw [Part.pattern, heq]
      exact ih hpush hlt
    | parameter p =>
      have hlength : (parts.flatMap Part.pattern ++ rest).length + 4 < fuel := by
        simpa [Part.pattern] using hfuel
      obtain ⟨fuel, rfl⟩ : ∃ n, fuel = n + 4 := ⟨fuel - 4, by omega⟩
      have hpush : (s.push something).flags = Pattern.foldingFlags := hs
      rw [Part.pattern, Pattern.Read.group_something hs]
      exact ih hpush (by omega)

/-- The expression that the pattern of a complex segment stands for. -/
def segmentRegex (parts : List Part) : Regex :=
  .seqs (.anchor .textStart :: (parts.flatMap Part.expressions ++ [.anchor .textEnd]))

theorem toList_segmentPattern (parts : List Part) : (segmentPattern parts).toList =
    "(?i)^".toList ++ (parts.flatMap Part.pattern ++ ['$']) :=
  String.toList_ofList

theorem length_segmentPattern (parts : List Part) : (segmentPattern parts).toList.length =
    (parts.flatMap Part.pattern ++ ['$']).length + 5 := by
  rw [toList_segmentPattern, List.length_append, Nat.add_comm]
  rfl

theorem read?_segmentPattern (parts : List Part) :
    Regex.read? (segmentPattern parts) false = some (segmentRegex parts) := by
  have hfuel : (parts.flatMap Part.pattern ++ ['$']).length <
      (parts.flatMap Part.pattern ++ ['$']).length + 4 :=
    Nat.lt_add_of_pos_right (Nat.succ_pos 3)
  obtain ⟨fuel, hlt, heq⟩ := group_parts (s := Pattern.Read.startState) rfl parts hfuel
  have htwo : 2 ≤ fuel := hlt
  obtain ⟨fuel, rfl⟩ := Nat.exists_eq_add_of_le' htwo
  have hflags : (Pattern.Read.startState.pushAll (parts.flatMap Part.expressions)).flags =
      Pattern.foldingFlags := by
    rfl
  rw [Regex.read?, length_segmentPattern, toList_segmentPattern, Pattern.Read.group_start, heq,
    Pattern.Read.group_end hflags]
  simp [Pattern.Read.GroupState.result, Pattern.Read.GroupState.sequence,
    Pattern.Read.GroupState.pushAll, Pattern.Read.GroupState.push, segmentRegex,
    Pattern.Read.startState]

/-! ## What the pattern matches -/

section Matches

variable {before : Option Char} {cs rest : List Char} {tail : List Regex}

theorem lastOf_append (before : Option Char) (xs ys : List Char) :
    Regex.lastOf before (xs ++ ys) = Regex.lastOf (Regex.lastOf before xs) ys := by
  simp [Regex.lastOf, List.getLast?_append, Option.or_assoc]

theorem matches_seqs_cons_iff {r : Regex} {rs : List Regex} :
    Regex.Matches (.seqs (r :: rs)) before cs rest ↔
      ∃ xs ys, cs = xs ++ ys ∧ Regex.Matches r before xs (ys ++ rest) ∧
        Regex.Matches (.seqs rs) (Regex.lastOf before xs) ys rest :=
  Regex.matches_andThen_iff.trans Regex.matches_seq_iff

theorem matches_inAnyCase_iff {c : Char} :
    Regex.Matches (inAnyCase c) before cs rest ↔
      ∃ d, cs = [d] ∧ Text.foldChar d = Text.foldChar c := by
  simp only [inAnyCase, Regex.matches_one_iff, Pattern.mem_folded_single_iff]

theorem matches_star_one_iff {k : Pattern.CharClass} :
    Regex.Matches (.star (.one k)) before cs rest ↔ ∀ c ∈ cs, k.mem c = true := by
  induction cs generalizing before with
  | nil => exact ⟨fun _ => nofun, fun _ => .stop⟩
  | cons c cs ih =>
    rw [Regex.matches_star_cons_iff, List.forall_mem_cons]
    constructor
    · rintro ⟨xs, ys, rfl, hone, hstar⟩
      obtain ⟨d, heq, hd⟩ := Regex.matches_one_iff.1 hone
      obtain ⟨rfl, rfl⟩ := List.cons_eq_cons.1 heq
      exact ⟨hd, ih.1 hstar⟩
    · rintro ⟨hc, hcs⟩
      exact ⟨[], cs, rfl, .one hc, ih.2 hcs⟩

theorem matches_something_iff :
    Regex.Matches something before cs rest ↔ cs ≠ [] ∧ '\n' ∉ cs := by
  have hmem (c : Char) : (Pattern.CharClass.complement (.single '\n')).mem c = true ↔ c ≠ '\n' := by
    simp [Pattern.CharClass.mem, ← Pattern.mem_single]
  -- Of the repetition, the first round is apart and the others are a star.
  simp only [something, Regex.seqs, List.foldr_cons, List.foldr_nil, Regex.repeated, Regex.times,
    Regex.matches_andThen_iff, Regex.matches_seq_iff, Regex.matches_empty_iff,
    Regex.matches_one_iff, matches_star_one_iff, hmem]
  constructor
  · rintro ⟨_, _, rfl, ⟨_, ys, rfl, ⟨_, _, rfl, ⟨c, rfl, hc⟩, rfl⟩, hys⟩, rfl⟩
    have hline : '\n' ∉ ys := fun hmem => hys _ hmem rfl
    simp [hline, Ne.symm hc]
  · rintro ⟨hne, hline⟩
    obtain ⟨c, cs, rfl⟩ := List.exists_cons_of_ne_nil hne
    rw [List.mem_cons, not_or] at hline
    exact ⟨c :: cs, [], by simp, ⟨[c], cs, rfl, ⟨[c], [], rfl, ⟨c, rfl, Ne.symm hline.1⟩, rfl⟩,
      fun d hd heq => hline.2 (heq ▸ hd)⟩, rfl⟩

theorem matches_literal_iff (literal : List Char) :
    Regex.Matches (.seqs (literal.map inAnyCase ++ tail)) before cs rest ↔
      ∃ spelled ys, spelled.map Text.foldChar = literal.map Text.foldChar ∧ cs = spelled ++ ys ∧
        Regex.Matches (.seqs tail) (Regex.lastOf before spelled) ys rest := by
  induction literal generalizing before cs with
  | nil => simp [Regex.lastOf_nil]
  | cons c literal ih =>
    rw [List.map_cons, List.cons_append, matches_seqs_cons_iff]
    constructor
    · rintro ⟨xs, ys, rfl, hc, hliteral⟩
      obtain ⟨d, rfl, hd⟩ := matches_inAnyCase_iff.1 hc
      obtain ⟨spelled, ys, hspelled, rfl, htail⟩ := ih.1 hliteral
      refine ⟨d :: spelled, ys, by simp [hd, hspelled], rfl, ?_⟩
      rwa [← lastOf_append] at htail
    · rintro ⟨spelled, ys, hspelled, rfl, htail⟩
      obtain ⟨d, spelled, rfl⟩ : ∃ d ds, spelled = d :: ds :=
        List.exists_cons_of_ne_nil (by rintro rfl; cases hspelled)
      rw [List.map_cons, List.map_cons, List.cons_eq_cons] at hspelled
      refine ⟨[d], spelled ++ ys, rfl, matches_inAnyCase_iff.2 ⟨d, rfl, hspelled.1⟩,
        ih.2 ⟨spelled, ys, hspelled.2, rfl, ?_⟩⟩
      rwa [← lastOf_append]

theorem matches_parts_iff (parts : List Part) :
    Regex.Matches (.seqs (parts.flatMap Part.expressions ++ tail)) before cs rest ↔
      ∃ xs ys pieces, cs = xs ++ ys ∧ Splits parts xs pieces ∧
        Regex.Matches (.seqs tail) (Regex.lastOf before xs) ys rest := by
  induction parts generalizing before cs with
  | nil =>
    constructor
    · exact fun h => ⟨[], cs, [], rfl, .nil, h⟩
    · rintro ⟨xs, ys, pieces, rfl, ⟨⟩, h⟩
      exact h
  | cons part parts ih =>
    rw [List.flatMap_cons, List.append_assoc]
    cases part with
    | literal text =>
      rw [Part.expressions, matches_literal_iff]
      constructor
      · rintro ⟨spelled, ys, hspelled, rfl, h⟩
        obtain ⟨xs, ys, pieces, rfl, hsplits, h⟩ := ih.1 h
        refine ⟨spelled ++ xs, ys, pieces, by simp, .literal hspelled hsplits, ?_⟩
        rwa [lastOf_append]
      · rintro ⟨xs, ys, pieces, rfl, hsplits, h⟩
        obtain ⟨spelled, xs, hspelled, rfl, hbehind⟩ := splits_literal_iff.1 hsplits
        refine ⟨spelled, xs ++ ys, hspelled, by simp, ih.2 ⟨xs, ys, pieces, rfl, hbehind, ?_⟩⟩
        rwa [← lastOf_append]
    | parameter p =>
      rw [Part.expressions, List.singleton_append, matches_seqs_cons_iff]
      constructor
      · rintro ⟨piece, ys, rfl, hpiece, h⟩
        obtain ⟨hne, hline⟩ := matches_something_iff.1 hpiece
        obtain ⟨xs, ys, pieces, rfl, hsplits, h⟩ := ih.1 h
        refine ⟨piece ++ xs, ys, _, by simp, .parameter hne hline hsplits, ?_⟩
        rwa [lastOf_append]
      · rintro ⟨xs, ys, pieces, rfl, hsplits, h⟩
        obtain ⟨piece, xs, behind, hne, hline, rfl, rfl, hbehind⟩ :=
          splits_parameter_iff.1 hsplits
        refine ⟨piece, xs ++ ys, by simp, matches_something_iff.2 ⟨hne, hline⟩,
          ih.2 ⟨xs, ys, behind, rfl, hbehind, ?_⟩⟩
        rwa [← lastOf_append]

/-- The anchors leave nothing on either side. -/
theorem isMatch_segmentRegex_iff {parts : List Part} {text : String} :
    (segmentRegex parts).isMatch text = true ↔ ∃ pieces, Splits parts text.toList pieces := by
  rw [Regex.isMatch_iff, segmentRegex]
  simp only [matches_seqs_cons_iff, Regex.matches_anchor_iff, matches_parts_iff]
  constructor
  · rintro ⟨passed, _, rest, heq, _, _, rfl, ⟨rfl, hstart⟩, xs, _, pieces, rfl, hsplits, _, _, rfl,
      ⟨rfl, hend⟩, hnil⟩
    obtain rfl := Regex.matches_empty_iff.1 hnil
    obtain rfl : passed = [] := by simpa [Pattern.Anchor.holds] using hstart
    obtain rfl : rest = [] := by simpa [Pattern.Anchor.holds] using hend
    exact ⟨pieces, by simpa [heq] using hsplits⟩
  · rintro ⟨pieces, h⟩
    exact ⟨[], text.toList, [], by simp, [], text.toList, (List.nil_append _).symm, ⟨rfl, rfl⟩,
      text.toList, [], pieces, (List.append_nil _).symm, h, [], [], rfl, ⟨rfl, rfl⟩, .empty⟩

end Matches

theorem captureAll_eq (values : Bindings String) (pieces : List (Parameter × String)) :
    captureAll values pieces =
      if pieces.all fun q => q.1.accepts q.2 then some (withTaken values pieces) else none := by
  split
  · rename_i hall
    exact captureAll_eq_some_iff.2 ⟨List.all_eq_true.1 hall, rfl⟩
  · rename_i hall
    rw [Option.eq_none_iff_forall_ne_some]
    intro found hfound
    exact hall (List.all_eq_true.2 (captureAll_eq_some_iff.1 hfound).1)

/-- A complex segment takes what its pattern matches. The pieces of the parameters are those of the
split whose pieces are longest, from the first one on, and whether they are accepted is asked of
these pieces alone. Pieces have no line break, which says nothing of a text without one. -/
theorem splits_by_pattern {parts : List Part} (hlength : 2 ≤ parts.length)
    (hplain : ∀ p, .parameter p ∈ parts → p.isPlain = true) :
    Segment.ofParts parts = .ok (.complex parts) ∧
      ∃ r, Regex.read? (segmentPattern parts) false = some r ∧ ∀ text : String,
        (r.isMatch text = true ↔ ∃ pieces, Splits parts text.toList pieces) ∧
        (r.isMatch text = true → ∃ pieces, captures? parts text.toList = some pieces ∧
          SplitsLongest parts text.toList pieces ∧ ∀ values,
            (Segment.complex parts).matchPart text.toList values =
              if pieces.all fun q => q.1.accepts q.2 then some (withTaken values pieces)
              else none) ∧
        (r.isMatch text = false → ∀ values,
          (Segment.complex parts).matchPart text.toList values = none) := by
  refine ⟨(Segment.ofParts_eq_ok_iff hlength).2 ⟨hplain, rfl⟩, segmentRegex parts,
    read?_segmentPattern parts,
    fun text => ⟨isMatch_segmentRegex_iff, fun h => ?_, fun h values => ?_⟩⟩
  · obtain ⟨other, hother⟩ := isMatch_segmentRegex_iff.1 h
    obtain ⟨pieces, hpieces, -⟩ := exists_captures?_of_splits hother
    refine ⟨pieces, hpieces, captures?_eq_some_iff.1 hpieces, fun values => ?_⟩
    rw [Segment.matchPart, hpieces, Option.bind_some, captureAll_eq]
  · rw [Segment.matchPart, Option.bind_eq_none_iff]
    intro pieces hpieces
    have hmatch := isMatch_segmentRegex_iff.2 ⟨pieces, splits_of_captures? hpieces⟩
    rw [h] at hmatch
    cases hmatch

/-- A literal with signs that have a meaning in a pattern, and two parameters with nothing between
them. -/
def dottedParts : List Part :=
  [.parameter ⟨"a", false, .required, []⟩, .literal ".(x",
    .parameter ⟨"b", false, .required, [.int]⟩, .parameter ⟨"c", false, .required, []⟩]

/-- The first of the two places where the literal occurs goes to the first parameter. -/
theorem dotted_splits_by_pattern : ∃ r, Regex.read? (segmentPattern dottedParts) false = some r ∧
    r.isMatch "1.(X2.(x34" = true ∧
      ((Segment.complex dottedParts).matchPart "1.(X2.(x34".toList .empty).map Bindings.toList =
        some [("c", "4"), ("b", "3"), ("a", "1.(X2")] := by
  have hlength : 2 ≤ dottedParts.length := by decide
  have hplain : ∀ p, .parameter p ∈ dottedParts → p.isPlain = true := by
    simp [dottedParts, Parameter.isPlain]
  obtain ⟨-, r, hr, htext⟩ := splits_by_pattern hlength hplain
  obtain ⟨hmatch, htaken, -⟩ := htext "1.(X2.(x34"
  have hcaptured : captures? dottedParts "1.(X2.(x34".toList =
      some [(⟨"a", false, .required, []⟩, "1.(X2"), (⟨"b", false, .required, [.int]⟩, "3"),
        (⟨"c", false, .required, []⟩, "4")] := by
    decide
  have hfound := hmatch.2 ⟨_, splits_of_captures? hcaptured⟩
  obtain ⟨pieces, hpieces, -, hvalues⟩ := htaken hfound
  obtain rfl := Option.some.inj (hcaptured.symm.trans hpieces)
  refine ⟨r, hr, hfound, ?_⟩
  rw [hvalues]
  decide

end Url

end StubServer

import Mathlib.Data.List.Basic
import Mathlib.Data.List.Nodup
import StubServer.Proofs.Outcome
import StubServer.Url.Read

/-!
# Well-formed route templates

A template that can be read has parameters whose names differ in more than their case, and only its
last segment may take the rest of a path (`wellFormed_of_read`).
-/

namespace StubServer

namespace Url

/-- The name of a parameter, by which parameters are told apart. -/
def Parameter.lowered (p : Parameter) : String :=
  Text.lower p.name

/-- What a template that can be read is like. -/
structure Template.WellFormed (t : Template) : Prop where
  names : ((t.segments.flatMap Segment.parameters).map Parameter.lowered).Nodup
  catchAll_last : ∀ s ∈ t.segments.dropLast, s.catchAll? = none

theorem Template.WellFormed.nodup_name {t : Template} (h : t.WellFormed) :
    ((t.segments.flatMap Segment.parameters).map Parameter.name).Nodup := by
  refine List.Nodup.of_map Text.lower ?_
  rw [List.map_map]
  exact h.names

/-- The parts of the segments of a template. -/
def partsOf (text : String) : Except TemplateError (List (List Part)) :=
  segmentParts text [] [] (scan none (body text))

theorem read_eq_ok_iff {text : String} {t : Template} :
    Template.read text = .ok t ↔
      ∃ raw segments, partsOf text = .ok raw ∧ buildSegments [] raw = .ok segments ∧
        t = ⟨text, segments⟩ := by
  simp only [Template.read, partsOf, bind_eq_ok, pure_eq_ok]
  constructor
  · rintro ⟨raw, hraw, segments, hsegments, rfl⟩
    exact ⟨raw, segments, hraw, hsegments, rfl⟩
  · rintro ⟨raw, segments, hraw, hsegments, rfl⟩
    exact ⟨raw, hraw, segments, hsegments, rfl⟩

/-! ## The segments of parts -/

theorem mem_filterMap_parameter? {parts : List Part} {p : Parameter} :
    p ∈ parts.filterMap Part.parameter? ↔ Part.parameter p ∈ parts := by
  simp only [List.mem_filterMap]
  constructor
  · rintro ⟨part, hpart, hp⟩
    cases part <;> cases hp
    exact hpart
  · exact fun h => ⟨_, h, rfl⟩

/-- Parts that stand together make a segment when the parameters among them are plain. -/
theorem Segment.ofParts_eq_ok_iff {parts : List Part} {s : Segment} (h : 2 ≤ parts.length) :
    Segment.ofParts parts = .ok s ↔
      (∀ p, .parameter p ∈ parts → p.isPlain = true) ∧ s = .complex parts := by
  unfold Segment.ofParts
  split
  · simp at h
  · simp at h
  split
  · rename_i p hp
    have hmem := mem_filterMap_parameter?.1 (List.mem_of_find?_eq_some hp)
    have hplain := List.find?_some hp
    simp only [reduceCtorEq, false_iff, not_and]
    intro hall
    simp [hall p hmem] at hplain
  · rename_i hnone
    have hall : ∀ p, .parameter p ∈ parts → p.isPlain = true := by
      intro p hp
      simpa using List.find?_eq_none.1 hnone p (mem_filterMap_parameter?.2 hp)
    rw [Except.ok.injEq, and_iff_right hall, eq_comm]

theorem addNames_eq_ok_iff {seen seen' : List String} {ps : List Parameter} :
    addNames seen ps = .ok seen' ↔
      (ps.map Parameter.lowered).Nodup ∧ (∀ name ∈ ps.map Parameter.lowered, name ∉ seen) ∧
        seen' = (ps.map Parameter.lowered).reverse ++ seen := by
  induction ps generalizing seen with
  | nil => simp [addNames, eq_comm]
  | cons p ps ih =>
    simp only [addNames, List.contains_eq_mem, decide_eq_true_eq]
    split
    · rename_i hp
      simp [Parameter.lowered, hp]
    · rename_i hp
      simp only [ih, List.map_cons, List.nodup_cons, List.mem_cons, not_or, forall_eq_or_imp,
        List.reverse_cons, List.append_assoc, List.singleton_append, imp_and, forall_and]
      constructor
      · rintro ⟨hnodup, ⟨hne, hseen⟩, rfl⟩
        exact ⟨⟨fun hmem => hne _ hmem rfl, hnodup⟩, ⟨hp, hseen⟩, rfl⟩
      · rintro ⟨⟨hmem, hnodup⟩, ⟨-, hseen⟩, rfl⟩
        refine ⟨hnodup, ⟨fun name hname heq => hmem ?_, hseen⟩, rfl⟩
        rwa [Parameter.lowered, ← heq]

/-- The names of the parameters of all segments. -/
def namesOf (raw : List (List Part)) : List String :=
  (raw.flatMap fun parts => parts.filterMap Part.parameter?).map Parameter.lowered

theorem namesOf_cons (parts : List Part) (raw : List (List Part)) :
    namesOf (parts :: raw) =
      (parts.filterMap Part.parameter?).map Parameter.lowered ++ namesOf raw := by
  simp [namesOf]

theorem dropLast_catchAll_iff {s : Segment} {segments : List Segment} :
    (∀ s' ∈ (s :: segments).dropLast, s'.catchAll? = none) ↔
      (segments ≠ [] → s.catchAll? = none) ∧ ∀ s' ∈ segments.dropLast, s'.catchAll? = none := by
  rcases segments with _ | ⟨s', segments⟩ <;> simp

/-- Nothing follows a segment that takes the rest, if it may stand at the end only. -/
theorem eq_nil_of_catchAll? {α : Type} {s : Segment} {p : Parameter} {rest : List α}
    (hlast : rest ≠ [] → s.catchAll? = none) (hs : s.catchAll? = some p) : rest = [] := by
  by_contra hne
  rw [hlast hne] at hs
  cases hs

theorem buildSegments_cons_eq_ok_iff {seen : List String} {parts : List Part}
    {raw : List (List Part)} {segments : List Segment} :
    buildSegments seen (parts :: raw) = .ok segments ↔
      ∃ seen' s rest, addNames seen (parts.filterMap Part.parameter?) = .ok seen' ∧
        Segment.ofParts parts = .ok s ∧ (raw ≠ [] → s.catchAll? = none) ∧
        buildSegments seen' raw = .ok rest ∧ segments = s :: rest := by
  simp only [buildSegments, bind_eq_ok]
  constructor
  · rintro ⟨seen', hseen, s, hs, hrest⟩
    split at hrest
    · cases hrest
    · rename_i hlast
      obtain ⟨rest, hrest, heq⟩ := bind_eq_ok.1 hrest
      refine ⟨seen', s, rest, hseen, hs, fun hraw => ?_, hrest, (pure_eq_ok.1 heq).symm⟩
      obtain ⟨parts', raw', rfl⟩ := List.exists_cons_of_ne_nil hraw
      exact Option.eq_none_iff_forall_ne_some.2 fun p hp => hlast p parts' raw' hp rfl
  · rintro ⟨seen', s, rest, hseen, hs, hlast, hrest, rfl⟩
    refine ⟨seen', hseen, s, hs, ?_⟩
    split
    · rename_i p parts' raw' hp
      rw [hlast (List.cons_ne_nil _ _)] at hp
      cases hp
    · exact bind_eq_ok.2 ⟨rest, hrest, rfl⟩

/-- Every segment is that of its parts, no name occurs twice and only the last segment may take the
rest of a path. -/
theorem buildSegments_eq_ok_iff {seen : List String} {raw : List (List Part)}
    {segments : List Segment} :
    buildSegments seen raw = .ok segments ↔
      List.Forall₂ (fun parts s => Segment.ofParts parts = .ok s) raw segments ∧
        (namesOf raw).Nodup ∧ (∀ name ∈ namesOf raw, name ∉ seen) ∧
        ∀ s ∈ segments.dropLast, s.catchAll? = none := by
  induction raw generalizing seen segments with
  | nil =>
    simp only [buildSegments, Except.ok.injEq, List.forall₂_nil_left_iff]
    constructor
    · rintro rfl
      simp [namesOf]
    · rintro ⟨rfl, -⟩
      rfl
  | cons parts raw ih =>
    simp only [buildSegments_cons_eq_ok_iff, addNames_eq_ok_iff, ih, List.forall₂_cons_left_iff,
      namesOf_cons, List.nodup_append, List.mem_append, or_imp, forall_and]
    constructor
    · rintro ⟨seen', s, rest, ⟨hown, hnew, rfl⟩, hs, hlast, ⟨hforall, hnodup, hrest, hdrop⟩, rfl⟩
      simp only [List.mem_append, List.mem_reverse, not_or, imp_and, forall_and] at hrest
      refine ⟨⟨s, rest, hs, hforall, rfl⟩, ⟨hown, hnodup, ?_⟩, ⟨hnew, hrest.2⟩, ?_⟩
      · rintro name hname _ hname' rfl
        exact hrest.1 name hname' hname
      · refine dropLast_catchAll_iff.2 ⟨fun hne => hlast ?_, hdrop⟩
        rintro rfl
        exact hne (List.forall₂_nil_left_iff.1 hforall)
    · rintro ⟨⟨s, rest, hs, hforall, rfl⟩, ⟨hown, hnodup, hne⟩, ⟨hnew, hrest⟩, hdrop⟩
      obtain ⟨hlast, hdrop⟩ := dropLast_catchAll_iff.1 hdrop
      refine ⟨_, s, rest, ⟨hown, hnew, rfl⟩, hs, fun hraw => hlast ?_,
        ⟨hforall, hnodup, ?_, hdrop⟩, rfl⟩
      · rintro rfl
        exact hraw (List.forall₂_nil_right_iff.1 hforall)
      · intro name hname hmem
        rcases List.mem_append.1 hmem with hown' | hseen
        · exact hne name (List.mem_reverse.1 hown') name hname rfl
        · exact hrest name hname hseen

theorem Segment.parameters_of_ofParts {parts : List Part} {s : Segment}
    (h : Segment.ofParts parts = .ok s) : s.parameters = parts.filterMap Part.parameter? := by
  unfold Segment.ofParts at h
  split at h
  · cases h
    rfl
  · cases h
    rfl
  · split at h <;> cases h
    rfl

theorem parameters_of_ofParts_all {raw : List (List Part)} {segments : List Segment}
    (h : List.Forall₂ (fun parts s => Segment.ofParts parts = .ok s) raw segments) :
    segments.flatMap Segment.parameters =
      raw.flatMap fun parts => parts.filterMap Part.parameter? := by
  induction h with
  | nil => rfl
  | cons hs _ ih => rw [List.flatMap_cons, List.flatMap_cons, ih, Segment.parameters_of_ofParts hs]

theorem wellFormed_of_read {text : String} {t : Template} (h : Template.read text = .ok t) :
    t.WellFormed := by
  obtain ⟨raw, segments, -, hsegments, rfl⟩ := read_eq_ok_iff.1 h
  obtain ⟨hforall, hnodup, -, hlast⟩ := buildSegments_eq_ok_iff.1 hsegments
  exact ⟨by rw [parameters_of_ofParts_all hforall]; exact hnodup, hlast⟩

/-! ## The literals of parts -/

theorem ne_slash_of_mem_scan {c : Char} {inner : Option (List Char)} {cs : List Char}
    (h : Piece.char c ∈ scan inner cs) : c ≠ '/' := by
  fun_induction scan inner cs with
  | case8 d rest _ _ _ _ hslash ih =>
    rcases List.mem_cons.1 h with heq | h
    · cases heq
      exact hslash
    · exact ih h
  | _ => grind

/-- A literal is not empty and has no slash in it. -/
def Part.IsProper : Part → Prop
  | literal text => text ≠ "" ∧ '/' ∉ text.toList
  | parameter _ => True

theorem isProper_flush {literal : List Char} {parts : List Part} (hliteral : '/' ∉ literal)
    (hparts : ∀ part ∈ parts, part.IsProper) : ∀ part ∈ flush literal parts, part.IsProper := by
  unfold flush
  split
  · exact hparts
  · rename_i hne
    intro part hpart
    rcases List.mem_cons.1 hpart with rfl | hpart
    · refine ⟨fun hempty => hne ?_, by simpa using hliteral⟩
      simpa using congrArg String.toList hempty
    · exact hparts part hpart

theorem isProper_addSegment {parts : List Part} {raw : List (List Part)}
    (hparts : ∀ part ∈ parts, part.IsProper)
    (hraw : ∀ own ∈ raw, own ≠ [] ∧ ∀ part ∈ own, part.IsProper) :
    ∀ own ∈ addSegment parts raw, own ≠ [] ∧ ∀ part ∈ own, part.IsProper := by
  unfold addSegment
  split
  · exact hraw
  · rename_i hne
    intro own hmem
    rcases List.mem_cons.1 hmem with rfl | hmem
    · exact ⟨by simpa using hne, fun part hpart => hparts part (List.mem_reverse.1 hpart)⟩
    · exact hraw own hmem

theorem isProper_of_segmentParts {template : String} {literal : List Char} {parts : List Part}
    {pieces : List Piece} {raw : List (List Part)}
    (h : segmentParts template literal parts pieces = .ok raw)
    (hpieces : ∀ c, Piece.char c ∈ pieces → c ≠ '/') (hliteral : '/' ∉ literal)
    (hparts : ∀ part ∈ parts, part.IsProper) :
    ∀ own ∈ raw, own ≠ [] ∧ ∀ part ∈ own, part.IsProper := by
  induction pieces generalizing literal parts raw with
  | nil =>
    cases h
    exact isProper_addSegment (isProper_flush hliteral hparts) (by simp)
  | cons piece pieces ih =>
    have hpieces' : ∀ c, Piece.char c ∈ pieces → c ≠ '/' :=
      fun c hc => hpieces c (List.mem_cons_of_mem _ hc)
    cases piece with
    | char c => exact ih h hpieces' (by simp [Ne.symm (hpieces c List.mem_cons_self), hliteral]) hparts
    | slash =>
      obtain ⟨rest, hrest, heq⟩ := bind_eq_ok.1 h
      cases heq
      exact isProper_addSegment (isProper_flush hliteral hparts)
        (ih hrest hpieces' (by simp) (by simp))
    | braces inner =>
      obtain ⟨p, -, hrest⟩ := bind_eq_ok.1 h
      refine ih hrest hpieces' (by simp) fun part hpart => ?_
      rcases List.mem_cons.1 hpart with rfl | hpart
      · trivial
      · exact isProper_flush hliteral hparts part hpart
    | unbalanced => cases h

theorem isProper_of_partsOf {text : String} {raw : List (List Part)} (h : partsOf text = .ok raw) :
    ∀ own ∈ raw, own ≠ [] ∧ ∀ part ∈ own, part.IsProper :=
  isProper_of_segmentParts h (fun _ => ne_slash_of_mem_scan) (by simp) (by simp)

end Url

end StubServer

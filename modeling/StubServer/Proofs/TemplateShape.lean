import StubServer.Proofs.Capturing
import StubServer.Proofs.Conjunction
import StubServer.Proofs.Filling
import StubServer.Proofs.PrintedTemplate
import StubServer.Proofs.SegmentPattern

/-!
# The shape of a template that can be read

Whatever the text, a template that is read from it has parameters with names of their own, at most
one of them takes the rest of a path and makes up the last segment, and the pattern of a complex
segment has one group for each parameter (`wellShaped_of_read`). So a match binds each name once.
-/

namespace StubServer

namespace Pattern

/-- What stands behind an open parenthesis makes a group that captures. -/
def opensCapture : List Char → Bool
  | '?' :: 'P' :: '<' :: _ => true
  | '?' :: '<' :: _ => true
  | '?' :: _ => false
  | _ => true

/-- The number of groups of a pattern that capture, if it has no class in brackets. -/
def captureGroups? : List Char → Option Nat
  | [] => some 0
  | '\\' :: _ :: cs => captureGroups? cs
  | '[' :: _ => none
  | '(' :: cs => if opensCapture cs then (captureGroups? cs).map (· + 1) else captureGroups? cs
  | _ :: cs => captureGroups? cs

theorem captureGroups?_escaped_append (cs rest : List Char) :
    captureGroups? (escaped cs ++ rest) = captureGroups? rest := by
  induction cs with
  | nil => rfl
  | cons c cs ih =>
    rw [escaped, List.flatMap_cons, ← escaped, List.append_assoc, ← ih]
    by_cases hc : Read.isMeta c = true
    · rw [if_pos hc]
      rfl
    · rw [if_neg hc]
      rw [Read.isMeta_iff] at hc
      simp only [List.mem_cons, not_or] at hc
      simp [captureGroups?, hc]

end Pattern

namespace Url

open Pattern (Regex captureGroups?)

theorem captureGroups?_parts_append (parts : List Part) (rest : List Char) :
    captureGroups? (parts.flatMap Part.pattern ++ rest) =
      (captureGroups? rest).map (· + (parts.filterMap Part.parameter?).length) := by
  induction parts with
  | nil => simp
  | cons part parts ih =>
    rw [List.flatMap_cons, List.append_assoc]
    cases part with
    | literal text =>
      rw [Part.pattern, Pattern.captureGroups?_escaped_append, ih]
      rfl
    | parameter p =>
      have hgroup (cs : List Char) :
          captureGroups? ("(.+)".toList ++ cs) = (captureGroups? cs).map (· + 1) := rfl
      rw [Part.pattern, hgroup, ih, Option.map_map]
      rfl

theorem captureGroups?_segmentPattern (parts : List Part) :
    captureGroups? (segmentPattern parts).toList =
      some (parts.filterMap Part.parameter?).length := by
  have hstart (cs : List Char) : captureGroups? ("(?i)^".toList ++ cs) = captureGroups? cs := rfl
  rw [toList_segmentPattern, hstart, captureGroups?_parts_append]
  simp [captureGroups?]

/-! ## What stands behind the constraints -/

/-- A default and the mark of an optional parameter, in either order. -/
def AsksForBoth (tail : List Char) : Prop :=
  ∃ value, tail = '=' :: (value ++ ['?']) ∨ tail = '?' :: '=' :: value

theorem readPresence_eq_ok_iff {name : String} {tail : List Char} {presence : Presence}
    (htail : ∀ c ∈ tail.head?, c = '=' ∨ c = '?') :
    readPresence name tail = .ok presence ↔ tail = presence.written ∧ ¬ AsksForBoth tail := by
  have hwritten : readPresence name presence.written = .ok presence ↔
      ¬ AsksForBoth presence.written := by
    cases presence with
    | required => simp [readPresence, Presence.written, AsksForBoth]
    | optional => simp [readPresence, Presence.written, AsksForBoth]
    | defaulted value =>
      simp [readPresence, Presence.written, AsksForBoth, List.getLast?_eq_some_iff]
  constructor
  · intro h
    obtain rfl : tail = presence.written := by
      unfold readPresence at h
      split at h
      · split at h
        · cases h
        · cases h
          simp [Presence.written]
      · cases h
      · cases h
        rfl
      · cases h
      · rename_i hdefault _ _ hmark
        cases h
        rcases tail with _ | ⟨c, cs⟩
        · rfl
        · rcases htail c rfl with rfl | rfl
          · exact (hdefault cs rfl).elim
          · exact (hmark cs rfl).elim
    exact ⟨rfl, hwritten.1 h⟩
  · rintro ⟨rfl, hboth⟩
    exact hwritten.2 hboth

/-! ## The parameters of a text -/

section Read

variable {template text : String} {inner : List Char} {p : Parameter} {literal : List Char}
  {parts : List Part} {pieces : List Piece} {raw : List (List Part)}

/-- A parameter is read from a text with its name, its stars and its default or its mark. -/
theorem Parameter.exists_frame_of_read (h : Parameter.read template inner = .ok p) :
    ∃ (f : Frame) (ks : List (List Char)), f.Separates ks ∧ inner = f.inner ks ∧ f.read = p.name ∧
      (afterStars f.name).1 = p.catchAll ∧ f.tail = p.presence.written := by
  obtain ⟨f, ks, hks, rfl⟩ := Frame.exists_inner_eq inner
  obtain ⟨-, presence, constraints, hpresence, -, rfl⟩ := (f.read_inner hks).1 h
  exact ⟨f, ks, hks, rfl, rfl, rfl, ((readPresence_eq_ok_iff f.plain_tail).1 hpresence).1⟩

theorem Parameter.name_of_read (h : Parameter.read template inner = .ok p) :
    p.name ≠ "" ∧ Text.trim p.name = p.name := by
  obtain ⟨f, ks, hks, rfl⟩ := Frame.exists_inner_eq inner
  obtain ⟨hne, presence, constraints, -, -, rfl⟩ := (f.read_inner hks).1 h
  refine ⟨hne, ?_⟩
  rw [Frame.read, Text.trim, String.toList_ofList, Text.trimChars_trimChars]

theorem parameter_mem_flush :
    Part.parameter p ∈ flush literal parts ↔ Part.parameter p ∈ parts := by
  unfold flush
  split <;> simp

theorem mem_flatten_addSegment {part : Part} :
    part ∈ (addSegment parts raw).flatten ↔ part ∈ parts ∨ part ∈ raw.flatten := by
  unfold addSegment
  split
  · rename_i hempty
    simp [List.isEmpty_iff.1 hempty]
  · simp

/-- The parameters of the segments are those that are read between braces. -/
theorem parameter_mem_of_segmentParts (h : segmentParts template literal parts pieces = .ok raw) :
    Part.parameter p ∈ raw.flatten ↔
      Part.parameter p ∈ parts ∨
        ∃ inner, .braces inner ∈ pieces ∧ Parameter.read template inner = .ok p := by
  induction pieces generalizing literal parts raw with
  | nil =>
    cases h
    rw [mem_flatten_addSegment, parameter_mem_flush]
    simp
  | cons piece pieces ih =>
    cases piece with
    | char c => simpa using ih h
    | slash =>
      obtain ⟨rest, hrest, heq⟩ := bind_eq_ok.1 h
      cases heq
      rw [mem_flatten_addSegment, parameter_mem_flush, ih hrest]
      simp
    | braces inner =>
      obtain ⟨q, hq, hrest⟩ := bind_eq_ok.1 h
      simp [ih hrest, parameter_mem_flush, or_and_right, exists_or, hq, or_assoc, or_left_comm,
        eq_comm]
    | unbalanced => cases h

/-- Nothing stands between braces but what is read as a parameter. -/
theorem exists_read_of_segmentParts (h : segmentParts template literal parts pieces = .ok raw)
    (hinner : .braces inner ∈ pieces) : ∃ p, Parameter.read template inner = .ok p := by
  induction pieces generalizing literal parts raw with
  | nil => cases hinner
  | cons piece pieces ih =>
    cases piece with
    | char c => exact ih h (by simpa using hinner)
    | slash =>
      obtain ⟨rest, hrest, -⟩ := bind_eq_ok.1 h
      exact ih hrest (by simpa using hinner)
    | braces inner' =>
      obtain ⟨q, hq, hrest⟩ := bind_eq_ok.1 h
      rcases List.mem_cons.1 hinner with heq | hinner
      · cases heq
        exact ⟨q, hq⟩
      · exact ih hrest hinner
    | unbalanced => cases h

end Read

section Template

variable {text : String} {t : Template} {p : Parameter}

theorem mem_parameters_iff (ht : Template.read text = .ok t) :
    p ∈ t.parameters ↔
      ∃ inner, .braces inner ∈ scan none (body text) ∧ Parameter.read text inner = .ok p := by
  obtain ⟨raw, segments, hraw, hsegments, rfl⟩ := read_eq_ok_iff.1 ht
  have hparameters := parameter_mem_of_segmentParts (p := p) hraw
  rw [Template.parameters, parameters_of_ofParts_all (buildSegments_eq_ok_iff.1 hsegments).1]
  simp only [List.mem_flatMap, mem_filterMap_parameter?]
  simpa using hparameters

/-- No braces of a text that can be read ask for both. -/
theorem not_asksForBoth_of_read (ht : Template.read text = .ok t) {f : Frame}
    {ks : List (List Char)} (hks : f.Separates ks)
    (hinner : .braces (f.inner ks) ∈ scan none (body text)) : ¬ AsksForBoth f.tail := by
  obtain ⟨raw, -, hraw, -, -⟩ := read_eq_ok_iff.1 ht
  obtain ⟨p, hp⟩ := exists_read_of_segmentParts hraw hinner
  obtain ⟨-, presence, -, hpresence, -⟩ := (f.read_inner hks).1 hp
  exact ((readPresence_eq_ok_iff f.plain_tail).1 hpresence).2

/-! ## The segments -/

theorem exists_ofParts_of_mem {raw : List (List Part)} {segments : List Segment} {s : Segment}
    (h : List.Forall₂ (fun parts s => Segment.ofParts parts = .ok s) raw segments)
    (hs : s ∈ segments) : ∃ parts ∈ raw, Segment.ofParts parts = .ok s := by
  induction h with
  | nil => cases hs
  | cons hhead _ ih =>
    rcases List.mem_cons.1 hs with rfl | hs
    · exact ⟨_, List.mem_cons_self, hhead⟩
    · obtain ⟨parts, hparts, hs⟩ := ih hs
      exact ⟨parts, List.mem_cons_of_mem _ hparts, hs⟩

theorem complex_of_read (ht : Template.read text = .ok t) {parts : List Part}
    (h : .complex parts ∈ t.segments) :
    2 ≤ parts.length ∧ ∀ p, .parameter p ∈ parts → p.isPlain = true := by
  obtain ⟨raw, segments, hraw, hsegments, rfl⟩ := read_eq_ok_iff.1 ht
  obtain ⟨own, hown, hparts⟩ := exists_ofParts_of_mem (buildSegments_eq_ok_iff.1 hsegments).1 h
  have hne := (isProper_of_partsOf hraw own hown).1
  have htwo : 2 ≤ own.length := by
    match own, hne with
    | [part], _ =>
      have hsegment := ofParts_singleton_eq_ok_iff.1 hparts
      cases part <;> cases hsegment
    | _ :: _ :: _, _ => simp
  obtain ⟨hplain, heq⟩ := (Segment.ofParts_eq_ok_iff htwo).1 hparts
  cases heq
  exact ⟨htwo, hplain⟩

/-- The only segment with a parameter that takes the rest of a path is that parameter. -/
theorem eq_parameter_of_mem_parameters (ht : Template.read text = .ok t) {s : Segment}
    (hs : s ∈ t.segments) (hp : p ∈ s.parameters) (hcatchAll : p.catchAll = true) :
    s = .parameter p := by
  cases s with
  | literal => cases hp
  | parameter q => rw [List.mem_singleton.1 hp]
  | complex parts =>
    have hplain := (complex_of_read ht hs).2 p (mem_filterMap_parameter?.1 hp)
    simp [Parameter.isPlain, hcatchAll] at hplain

theorem getLast?_of_catchAll (ht : Template.read text = .ok t) (hp : p ∈ t.parameters)
    (hcatchAll : p.catchAll = true) : t.segments.getLast? = some (.parameter p) := by
  obtain ⟨s, hs, hps⟩ := List.mem_flatMap.1 hp
  obtain rfl := eq_parameter_of_mem_parameters ht hs hps hcatchAll
  have hlast : .parameter p ∉ t.segments.dropLast := by
    intro hmem
    have hnone := (wellFormed_of_read ht).catchAll_last _ hmem
    simp [Segment.catchAll?, hcatchAll] at hnone
  have hne : t.segments ≠ [] := List.ne_nil_of_mem hs
  rw [← List.dropLast_append_getLast hne, List.mem_append, List.mem_singleton] at hs
  rw [List.getLast?_eq_some_getLast hne, hs.resolve_left hlast]

theorem countP_catchAll_le (ht : Template.read text = .ok t) :
    t.parameters.countP Parameter.catchAll ≤ 1 := by
  have hnodup : (t.parameters.filter Parameter.catchAll).Nodup :=
    ((wellFormed_of_read ht).nodup_name.of_map _).filter _
  rw [List.countP_eq_length_filter]
  match hfilter : t.parameters.filter Parameter.catchAll with
  | [] => simp
  | [p] => simp
  | p :: q :: _ =>
    have hlast (r : Parameter) (hr : r ∈ t.parameters.filter Parameter.catchAll) :
        t.segments.getLast? = some (.parameter r) := by
      obtain ⟨hmem, hcatchAll⟩ := List.mem_filter.1 hr
      exact getLast?_of_catchAll ht hmem hcatchAll
    rw [hfilter] at hlast hnodup
    have heq : p = q := by
      simpa [hlast p (by simp)] using hlast q (by simp)
    simp [heq] at hnodup

/-- What is true of the parts of a complex segment: the pattern can be read and matches where
something is captured, which is a value for each of its groups in turn. -/
structure ComplexShape (parts : List Part) : Prop where
  length : 2 ≤ parts.length
  plain : ∀ p, .parameter p ∈ parts → p.isPlain = true
  pattern : ∃ r, Regex.read? (segmentPattern parts) false = some r ∧ ∀ text : String,
    r.isMatch text = true ↔ ∃ pieces, captures? parts text.toList = some pieces
  groups : captureGroups? (segmentPattern parts).toList =
    some (parts.filterMap Part.parameter?).length
  pieces : ∀ cs pieces, captures? parts cs = some pieces →
    pieces.map Prod.fst = parts.filterMap Part.parameter?

theorem complexShape_of_read (ht : Template.read text = .ok t) {parts : List Part}
    (h : .complex parts ∈ t.segments) : ComplexShape parts where
  length := (complex_of_read ht h).1
  plain := (complex_of_read ht h).2
  pattern := by
    refine ⟨segmentRegex parts, read?_segmentPattern parts, fun text => ?_⟩
    rw [isMatch_segmentRegex_iff]
    constructor
    · rintro ⟨other, hother⟩
      exact (exists_captures?_of_splits hother).imp fun _ => And.left
    · rintro ⟨pieces, hpieces⟩
      exact ⟨pieces, splits_of_captures? hpieces⟩
  groups := captureGroups?_segmentPattern parts
  pieces _ _ hpieces := (splits_of_captures? hpieces).map_fst

/-! ## The shape -/

/-- All that reading makes sure of, and what follows from it for matching. -/
structure Template.WellShaped (t : Template) : Prop where
  name_ne : ∀ p ∈ t.parameters, p.name ≠ ""
  trim_name : ∀ p ∈ t.parameters, Text.trim p.name = p.name
  /-- The names differ in more than their case, over all segments. -/
  names : (t.parameters.map fun p => Text.lower p.name).Nodup
  catchAll_last : ∀ p ∈ t.parameters, p.catchAll = true →
    t.segments.getLast? = some (.parameter p)
  catchAll_once : t.parameters.countP Parameter.catchAll ≤ 1
  /-- Each parameter stands between braces, with its stars and with its default or its mark. -/
  written : ∀ p ∈ t.parameters, ∃ (f : Frame) (ks : List (List Char)), f.Separates ks ∧
    .braces (f.inner ks) ∈ scan none (body t.text) ∧ f.read = p.name ∧
    (afterStars f.name).1 = p.catchAll ∧ f.tail = p.presence.written
  /-- No braces have both a default and the mark. -/
  not_both : ∀ (f : Frame) (ks : List (List Char)), f.Separates ks →
    .braces (f.inner ks) ∈ scan none (body t.text) → ¬ AsksForBoth f.tail
  complex : ∀ parts, .complex parts ∈ t.segments → ComplexShape parts
  /-- A value is captured for a name that nothing is bound to. -/
  fresh : ∀ path values p value, Captures t path values p value → values.get? p.name = none
  /-- So a match has all values that were captured, and no others. -/
  found : ∀ path found, t.match? path = some found → ∀ name value,
    found.get? name = some value ↔ ∃ values p, p.name = name ∧ Captures t path values p value

/-- A template that can be read is well shaped, whatever the text. -/
theorem wellShaped_of_read (ht : Template.read text = .ok t) : t.text = text ∧ t.WellShaped := by
  have htext : t.text = text := by
    obtain ⟨-, -, -, -, rfl⟩ := read_eq_ok_iff.1 ht
    rfl
  have hwell := wellFormed_of_read ht
  have hnames : (namesOfSegments t.segments).Nodup := hwell.nodup_name
  refine ⟨htext, ?_⟩
  subst htext
  exact {
    name_ne := fun p hp => by
      obtain ⟨inner, -, hread⟩ := (mem_parameters_iff ht).1 hp
      exact (Parameter.name_of_read hread).1
    trim_name := fun p hp => by
      obtain ⟨inner, -, hread⟩ := (mem_parameters_iff ht).1 hp
      exact (Parameter.name_of_read hread).2
    names := hwell.names
    catchAll_last := fun p hp => getLast?_of_catchAll ht hp
    catchAll_once := countP_catchAll_le ht
    written := fun p hp => by
      obtain ⟨inner, hinner, hread⟩ := (mem_parameters_iff ht).1 hp
      obtain ⟨f, ks, hks, rfl, hf⟩ := Parameter.exists_frame_of_read hread
      exact ⟨f, ks, hks, hinner, hf⟩
    not_both := fun f ks hks hinner => not_asksForBoth_of_read ht hks hinner
    complex := fun parts hparts => complexShape_of_read ht hparts
    fresh := fun path values p value hvalue => hvalue.fresh hnames
    found := fun path found hfound name value =>
      get?_iff_captures hnames hwell.catchAll_last hfound }

/-- A complex segment with parentheses in it, and the rest of the path with a default. -/
def attic : String := "~/Files/\x7b name \x7d(\x7bext\x7d)/\x7b*Rest=none\x7d/"

def atticParts : List Part :=
  [.parameter ⟨"name", false, .required, []⟩, .literal "(",
    .parameter ⟨"ext", false, .required, []⟩, .literal ")"]

def Segment.complex? : Segment → Option (List Part)
  | complex parts => some parts
  | _ => none

/-- Of the parentheses in the pattern, two pairs make groups. -/
theorem attic_wellShaped : ∃ t, Template.read attic = .ok t ∧ t.WellShaped ∧
    t.parameters.map Parameter.name = ["name", "ext", "Rest"] ∧
    .complex atticParts ∈ t.segments ∧ ComplexShape atticParts ∧
    (segmentPattern atticParts).toList = "(?i)^(.+)\\((.+)\\)$".toList ∧
    captureGroups? (segmentPattern atticParts).toList = some 2 := by
  have hread : ((Template.read attic).toOption.map fun t =>
      (t.parameters.map Parameter.name, t.segments.filterMap Segment.complex?)) =
        some (["name", "ext", "Rest"], [atticParts]) := by decide +kernel
  rcases ht : Template.read attic with e | t <;> rw [ht] at hread
  · cases hread
  · obtain ⟨hnames, hcomplex⟩ := Prod.mk.inj (Option.some.inj hread)
    have hparts : .complex atticParts ∈ t.segments := by
      obtain ⟨s, hs, heq⟩ := List.mem_filterMap.1 (hcomplex ▸ List.mem_singleton_self atticParts)
      cases s <;> cases heq
      exact hs
    have hshape := (wellShaped_of_read ht).2
    have hown := hshape.complex _ hparts
    exact ⟨t, rfl, hshape, hnames, hparts, hown, by decide, hown.groups⟩

end Template

end Url

end StubServer

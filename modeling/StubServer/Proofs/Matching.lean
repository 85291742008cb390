import Mathlib.Data.List.Basic
import Mathlib.Data.List.Forall2
import Mathlib.Data.List.Nodup
import StubServer.Proofs.ComplexSegment
import StubServer.Proofs.PathSegments
import StubServer.Proofs.RouteTemplate

/-!
# What it means for a path to match

A template matches a path when each of its segments accepts what the path has at its place, which
may be nothing, and the last one the rest of the path if it takes that. What the segments accept is
said of each place alone (`Takes`); matching a path is no more and no less, and the parameters are
bound to what their segments took (`match?_iff_takes`).
-/

namespace StubServer

namespace Url

/-- A segment accepts what a path has at its place, or that the path has nothing there, and its
parameters take the given values. -/
inductive Segment.Takes : Segment → Option (List Char) → List (Parameter × String) → Prop
  | literal {lowered : String} {part : List Char} (h : Text.lower (.ofList part) = lowered) :
      Takes (.literal lowered) (some part) []
  | parameter {p : Parameter} {part : List Char} (hne : part ≠ [])
      (hp : p.accepts (.ofList part) = true) : Takes (.parameter p) (some part) [(p, .ofList part)]
  | complex {parts : List Part} {part : List Char} {pieces : List (Parameter × String)}
      (h : SplitsLongest parts part pieces) (hp : ∀ q ∈ pieces, q.1.accepts q.2 = true) :
      Takes (.complex parts) (some part) pieces
  | optional {p : Parameter} (h : p.presence = .optional) : Takes (.parameter p) none []
  | defaulted {p : Parameter} {value : String} (h : p.presence = .defaulted value)
      (hp : p.accepts value = true) : Takes (.parameter p) none [(p, value)]

/-- Segments of a path put together again. -/
def joined (parts : List (List Char)) : String :=
  Text.join "/" (parts.map String.ofList)

/-- A parameter takes the rest of a path. -/
inductive Parameter.TakesRest (p : Parameter) (rest : List (List Char)) :
    List (Parameter × String) → Prop
  | rest (hne : joined rest ≠ "") (hp : p.accepts (joined rest) = true) :
      TakesRest p rest [(p, joined rest)]
  | defaulted {value : String} (hempty : joined rest = "") (h : p.presence = .defaulted value)
      (hp : p.accepts value = true) : TakesRest p rest [(p, value)]
  | nothing (hempty : joined rest = "") (h : ∀ value, p.presence ≠ .defaulted value) :
      TakesRest p rest []

/-- The segments accept a path with the given segments, and each takes the given values. -/
structure Takes (segments : List Segment) (path : List (List Char))
    (taken : List (List (Parameter × String))) : Prop where
  length_eq : taken.length = segments.length
  segment : ∀ (i : Nat) (s : Segment) (own : List (Parameter × String)), segments[i]? = some s →
    taken[i]? = some own → s.catchAll? = none → s.Takes path[i]? own
  rest : ∀ (i : Nat) (s : Segment) (p : Parameter) (own : List (Parameter × String)),
    segments[i]? = some s → taken[i]? = some own → s.catchAll? = some p →
    p.TakesRest (path.drop i) own
  surplus : (∀ s ∈ segments, s.catchAll? = none) → path.length ≤ segments.length

/-- The bindings of parameters to their values, under the names of the parameters. -/
def bindingsOf (taken : List (Parameter × String)) : Bindings String :=
  .ofList (taken.map fun q => (q.1.name, q.2))

/-! ## One segment -/

section Segment

variable {values found : Bindings String} {s : Segment} {p : Parameter}

/-- The bindings with those of parameters to their values written over them. -/
def withTaken (values : Bindings String) (taken : List (Parameter × String)) : Bindings String :=
  values.insertAll (taken.map fun q => (q.1.name, q.2))

theorem withTaken_append (values : Bindings String) (taken more : List (Parameter × String)) :
    withTaken values (taken ++ more) = withTaken (withTaken values taken) more := by
  rw [withTaken, List.map_append, Bindings.insertAll_append, withTaken, withTaken]

theorem capture_eq_some_iff {value : String} :
    capture p value values = some found ↔
      p.accepts value = true ∧ found = withTaken values [(p, value)] := by
  rw [capture, Option.ite_none_right_eq_some, Option.some.injEq, eq_comm (a := values.insert _ _)]
  rfl

theorem captureAll_eq_some_iff {pieces : List (Parameter × String)} :
    captureAll values pieces = some found ↔
      (∀ q ∈ pieces, q.1.accepts q.2 = true) ∧ found = withTaken values pieces := by
  induction pieces generalizing values with
  | nil =>
    rw [captureAll, Option.some.injEq, eq_comm]
    simp [withTaken, Bindings.insertAll]
  | cons q pieces ih =>
    simp only [captureAll, Option.bind_eq_some_iff, capture_eq_some_iff, ih, List.forall_mem_cons]
    constructor
    · rintro ⟨_, ⟨hq, rfl⟩, hpieces, rfl⟩
      exact ⟨⟨hq, hpieces⟩, (withTaken_append values [q] pieces).symm⟩
    · rintro ⟨⟨hq, hpieces⟩, rfl⟩
      exact ⟨_, ⟨hq, rfl⟩, hpieces, withTaken_append values [q] pieces⟩

theorem matchPart_eq_some_iff {part : List Char} :
    s.matchPart part values = some found ↔
      ∃ own, s.Takes (some part) own ∧ found = withTaken values own := by
  cases s with
  | literal lowered =>
    simp only [Segment.matchPart, Option.ite_none_right_eq_some, Option.some.injEq]
    constructor
    · rintro ⟨h, rfl⟩
      exact ⟨[], .literal h.symm, rfl⟩
    · rintro ⟨_, ⟨⟩, rfl⟩
      exact ⟨(‹Text.lower _ = _›).symm, rfl⟩
  | parameter p =>
    simp only [Segment.matchPart, List.isEmpty_iff, Option.ite_none_left_eq_some,
      capture_eq_some_iff]
    constructor
    · rintro ⟨hne, hp, rfl⟩
      exact ⟨_, .parameter hne hp, rfl⟩
    · rintro ⟨_, ⟨⟩, rfl⟩
      exact ⟨‹_›, ‹_›, rfl⟩
  | complex parts =>
    simp only [Segment.matchPart, Option.bind_eq_some_iff, captures?_eq_some_iff,
      captureAll_eq_some_iff]
    constructor
    · rintro ⟨pieces, h, hp, rfl⟩
      exact ⟨pieces, .complex h hp, rfl⟩
    · rintro ⟨pieces, ⟨⟩, rfl⟩
      exact ⟨pieces, ‹_›, ‹_›, rfl⟩

theorem matchNothing_eq_some_iff :
    s.matchNothing values = some found ↔
      ∃ own, s.Takes none own ∧ found = withTaken values own := by
  cases s with
  | literal lowered =>
    simp only [Segment.matchNothing, reduceCtorEq, false_iff]
    rintro ⟨_, ⟨⟩, -⟩
  | complex parts =>
    simp only [Segment.matchNothing, reduceCtorEq, false_iff]
    rintro ⟨_, ⟨⟩, -⟩
  | parameter p =>
    rcases h : p.presence with _ | _ | value <;>
      simp only [Segment.matchNothing, h, capture_eq_some_iff, Option.some.injEq, reduceCtorEq,
        false_iff]
    · rintro ⟨_, ⟨⟩, -⟩ <;> simp_all
    · constructor
      · rintro rfl
        exact ⟨[], .optional h, rfl⟩
      · rintro ⟨_, ⟨⟩, rfl⟩
        · rfl
        · simp_all
    · constructor
      · rintro ⟨hp, rfl⟩
        exact ⟨_, .defaulted h hp, rfl⟩
      · rintro ⟨_, ⟨⟩, rfl⟩ <;> simp_all

theorem captureRest_eq_some_iff {rest : List (List Char)} :
    captureRest p rest values = some found ↔
      ∃ own, p.TakesRest rest own ∧ found = withTaken values own := by
  unfold captureRest
  change (if joined rest = "" then _ else capture p (joined rest) values) = _ ↔ _
  split
  · rename_i hempty
    split
    · rename_i value h
      rw [capture_eq_some_iff]
      constructor
      · rintro ⟨hp, rfl⟩
        exact ⟨_, .defaulted hempty h hp, rfl⟩
      · rintro ⟨_, ⟨⟩, rfl⟩ <;> simp_all
    · rename_i h
      rw [Option.some.injEq]
      constructor
      · rintro rfl
        exact ⟨[], .nothing hempty h, rfl⟩
      · rintro ⟨_, ⟨⟩, rfl⟩
        · exact absurd hempty ‹_›
        · exact absurd ‹_› (h _)
        · rfl
  · rename_i hne
    rw [capture_eq_some_iff]
    constructor
    · rintro ⟨hp, rfl⟩
      exact ⟨_, .rest hne hp, rfl⟩
    · rintro ⟨_, ⟨⟩, rfl⟩
      · exact ⟨‹_›, rfl⟩
      · exact absurd ‹_› hne
      · exact absurd ‹_› hne

end Segment

/-! ## All segments -/

section Segments

variable {s : Segment} {segments : List Segment} {p : Parameter} {path : List (List Char)}
  {taken : List (List (Parameter × String))} {values found : Bindings String}

theorem takes_nil_iff : Takes [] path taken ↔ path = [] ∧ taken = [] := by
  constructor
  · intro h
    exact ⟨by simpa using h.surplus (by simp), by simpa using h.length_eq⟩
  · rintro ⟨rfl, rfl⟩
    exact ⟨rfl, by simp, by simp, by simp⟩

/-- What is said of all places is said of the first one and of the others, which have the path
behind its first segment to themselves. -/
theorem takes_cons_iff (hs : s.catchAll? = none) :
    Takes (s :: segments) path taken ↔
      ∃ own rest, taken = own :: rest ∧ s.Takes path.head? own ∧ Takes segments path.tail rest := by
  constructor
  · intro h
    obtain ⟨own, rest, rfl⟩ := List.exists_cons_of_length_eq_add_one h.length_eq
    refine ⟨own, rest, rfl, ?_, by simpa using h.length_eq, fun i s' own' hs' hown' hnone => ?_,
      fun i s' p own' hs' hown' hp => ?_, fun hnone => ?_⟩
    · rw [List.head?_eq_getElem?]
      exact h.segment 0 s own rfl rfl hs
    · rw [List.getElem?_tail]
      exact h.segment (i + 1) s' own' hs' hown' hnone
    · rw [List.drop_tail]
      exact h.rest (i + 1) s' p own' hs' hown' hp
    · have := h.surplus (List.forall_mem_cons.2 ⟨hs, hnone⟩)
      simp only [List.length_cons, List.length_tail] at this ⊢
      omega
  · rintro ⟨own, rest, rfl, hown, h⟩
    refine ⟨by simp [h.length_eq], fun i s' own' hs' hown' hnone => ?_,
      fun i s' p own' hs' hown' hp => ?_, fun hnone => ?_⟩
    · rcases i with _ | i
      · cases hs'
        cases hown'
        rwa [← List.head?_eq_getElem?]
      · rw [← List.getElem?_tail]
        exact h.segment i s' own' hs' hown' hnone
    · rcases i with _ | i
      · cases hs'
        rw [hs] at hp
        cases hp
      · rw [← List.drop_tail]
        exact h.rest i s' p own' hs' hown' hp
    · have := h.surplus (List.forall_mem_cons.1 hnone).2
      simp only [List.length_cons, List.length_tail] at this ⊢
      omega

theorem takes_catchAll_iff (hs : s.catchAll? = some p) :
    Takes [s] path taken ↔ ∃ own, taken = [own] ∧ p.TakesRest path own := by
  constructor
  · intro h
    obtain ⟨own, rfl⟩ := List.length_eq_one_iff.1 h.length_eq
    exact ⟨own, rfl, h.rest 0 s p own rfl rfl hs⟩
  · rintro ⟨own, rfl, h⟩
    refine ⟨rfl, fun i s' own' hs' hown' hnone => ?_, fun i s' p' own' hs' hown' hp => ?_,
      fun hnone => ?_⟩
    · obtain rfl : i = 0 := by simpa using (List.getElem?_eq_some_iff.1 hs').1
      cases hs'
      rw [hs] at hnone
      cases hnone
    · obtain rfl : i = 0 := by simpa using (List.getElem?_eq_some_iff.1 hs').1
      cases hs'
      cases hown'
      rw [hs] at hp
      cases hp
      exact h
    · rw [hnone s List.mem_cons_self] at hs
      cases hs

theorem matchSegments_cons_eq_some_iff (hs : s.catchAll? = none) :
    matchSegments values (s :: segments) path = some found ↔
      ∃ own, s.Takes path.head? own ∧
        matchSegments (withTaken values own) segments path.tail = some found := by
  rcases path with _ | ⟨part, path⟩ <;>
    simp only [matchSegments, hs, Option.bind_eq_some_iff, matchPart_eq_some_iff,
      matchNothing_eq_some_iff, List.head?_nil, List.head?_cons, List.tail_nil, List.tail_cons]
  · constructor
    · rintro ⟨_, ⟨own, hown, rfl⟩, hrest⟩
      exact ⟨own, hown, hrest⟩
    · rintro ⟨own, hown, hrest⟩
      exact ⟨_, ⟨own, hown, rfl⟩, hrest⟩
  · constructor
    · rintro ⟨_, ⟨own, hown, rfl⟩, hrest⟩
      exact ⟨own, hown, hrest⟩
    · rintro ⟨own, hown, hrest⟩
      exact ⟨_, ⟨own, hown, rfl⟩, hrest⟩

/-- Going through the segments from left to right comes to what is said of each place alone. -/
theorem matchSegments_eq_some_iff (hlast : ∀ s ∈ segments.dropLast, s.catchAll? = none) :
    matchSegments values segments path = some found ↔
      ∃ taken, Takes segments path taken ∧ found = withTaken values taken.flatten := by
  induction segments generalizing path values with
  | nil =>
    simp only [takes_nil_iff]
    rcases path with _ | ⟨part, path⟩
    · simp [matchSegments, withTaken, Bindings.insertAll, eq_comm]
    · simp [matchSegments]
  | cons s segments ih =>
    obtain ⟨hfirst, hlast⟩ := dropLast_catchAll_iff.1 hlast
    rcases hs : s.catchAll? with _ | p
    · simp only [matchSegments_cons_eq_some_iff hs, takes_cons_iff hs, ih hlast]
      constructor
      · rintro ⟨own, hown, rest, hrest, rfl⟩
        exact ⟨own :: rest, ⟨own, rest, rfl, hown, hrest⟩,
          by rw [List.flatten_cons, withTaken_append]⟩
      · rintro ⟨_, ⟨own, rest, rfl, hown, hrest⟩, rfl⟩
        exact ⟨own, hown, rest, hrest, by rw [List.flatten_cons, withTaken_append]⟩
    · obtain rfl := eq_nil_of_catchAll? hfirst hs
      have hrest : matchSegments values [s] path = captureRest p path values := by
        cases path <;> simp only [matchSegments, hs]
      simp only [hrest, captureRest_eq_some_iff, takes_catchAll_iff hs]
      constructor
      · rintro ⟨own, hown, rfl⟩
        exact ⟨[own], ⟨own, rfl, hown⟩, by simp⟩
      · rintro ⟨_, ⟨own, rfl, hown⟩, rfl⟩
        exact ⟨own, hown, by simp⟩

/-! ## What is taken -/

theorem Segment.Takes.sublist {part : Option (List Char)} {own : List (Parameter × String)}
    (h : s.Takes part own) : List.Sublist (own.map Prod.fst) s.parameters := by
  cases h with
  | literal => exact List.Sublist.refl _
  | parameter => exact List.Sublist.refl _
  | complex h => exact h.splits.map_fst ▸ List.Sublist.refl _
  | optional => exact List.nil_sublist _
  | defaulted => exact List.Sublist.refl _

theorem Segment.Takes.accepts {part : Option (List Char)} {own : List (Parameter × String)}
    (h : s.Takes part own) : ∀ q ∈ own, q.1.accepts q.2 = true := by
  cases h with
  | literal => simp
  | parameter _ hp => simpa using hp
  | complex _ hp => exact hp
  | optional => simp
  | defaulted _ hp => simpa using hp

/-- What a segment takes of a part is not empty and is made of the part's characters. -/
theorem Segment.Takes.piece {part : List Char} {own : List (Parameter × String)}
    (h : s.Takes (some part) own) : ∀ q ∈ own, q.2 ≠ "" ∧ ∀ c ∈ q.2.toList, c ∈ part := by
  cases h with
  | literal => simp
  | parameter hne =>
    intro q hq
    obtain rfl := List.mem_singleton.1 hq
    exact ⟨fun hempty => hne (by simpa using congrArg String.toList hempty), by simp⟩
  | complex h => exact fun q hq => h.splits.piece hq

theorem Parameter.TakesRest.sublist {own : List (Parameter × String)} (h : p.TakesRest path own) :
    List.Sublist (own.map Prod.fst) [p] := by
  cases h with
  | rest => exact List.Sublist.refl _
  | defaulted => exact List.Sublist.refl _
  | nothing => exact List.nil_sublist _

theorem Parameter.TakesRest.accepts {own : List (Parameter × String)} (h : p.TakesRest path own) :
    ∀ q ∈ own, q.1.accepts q.2 = true := by
  cases h with
  | rest _ hp => simpa using hp
  | defaulted _ _ hp => simpa using hp
  | nothing => simp

theorem Segment.parameters_of_catchAll? (hs : s.catchAll? = some p) : s.parameters = [p] := by
  cases s with
  | literal => cases hs
  | complex => cases hs
  | parameter p' =>
    simp only [Segment.catchAll?, Option.ite_none_right_eq_some, Option.some.injEq] at hs
    rw [← hs.2, Segment.parameters]

namespace Takes

/-- What is said of each segment's parameters and of what it takes. -/
theorem forall₂ (h : Takes segments path taken) :
    List.Forall₂ (fun s own => List.Sublist (own.map Prod.fst) s.parameters ∧
      ∀ q ∈ own, q.1.accepts q.2 = true) segments taken := by
  refine List.forall₂_iff_get.2 ⟨h.length_eq.symm, fun i hi hi' => ?_⟩
  have hs : segments[i]? = some (segments.get ⟨i, hi⟩) := by simp [hi]
  have hown : taken[i]? = some (taken.get ⟨i, hi'⟩) := by simp [hi']
  rcases hcatch : (segments.get ⟨i, hi⟩).catchAll? with _ | p
  · have htakes := h.segment i _ _ hs hown hcatch
    exact ⟨htakes.sublist, htakes.accepts⟩
  · have htakes := h.rest i _ p _ hs hown hcatch
    exact ⟨Segment.parameters_of_catchAll? hcatch ▸ htakes.sublist, htakes.accepts⟩

theorem sublist (h : Takes segments path taken) :
    List.Sublist (taken.flatten.map Prod.fst) (segments.flatMap Segment.parameters) := by
  have hforall := h.forall₂
  clear h
  induction hforall with
  | nil => exact List.Sublist.refl _
  | cons hs _ ih =>
    rw [List.flatten_cons, List.map_append, List.flatMap_cons]
    exact hs.1.append ih

theorem accepts (h : Takes segments path taken) :
    ∀ q ∈ taken.flatten, q.1.accepts q.2 = true := by
  intro q hq
  obtain ⟨own, hown, hq⟩ := List.mem_flatten.1 hq
  obtain ⟨i, hi, rfl⟩ := List.getElem_of_mem hown
  have := (List.forall₂_iff_get.1 h.forall₂).2 i (h.length_eq ▸ hi) hi
  exact this.2 q hq

end Takes

end Segments

/-- A path matches if every segment of the template accepts what the path has at its place, and
then the parameters are bound to what their segments took. Each parameter is bound once, to a
value that it accepts; what is captured from one segment of the path is not empty and has no slash
in it. -/
theorem match?_iff_takes {text : String} {t : Template} (ht : Template.read text = .ok t)
    {path : String} {parts : List (List Char)} (hparts : HasSegments path parts) :
    (∀ values, t.match? path = some values ↔
      ∃ taken, Takes t.segments parts taken ∧ values = bindingsOf taken.flatten) ∧
    ∀ taken, Takes t.segments parts taken →
      (bindingsOf taken.flatten).toList.Perm (taken.flatten.map fun q => (q.1.name, q.2)) ∧
      (taken.flatten.map fun q => q.1.name).Nodup ∧
      (∀ q ∈ taken.flatten, q.1.accepts q.2 = true) ∧
      ∀ (i : Nat) (s : Segment) (own : List (Parameter × String)), t.segments[i]? = some s →
        taken[i]? = some own → s.catchAll? = none → i < parts.length →
        ∀ q ∈ own, q.2 ≠ "" ∧ '/' ∉ q.2.toList := by
  have hwell := wellFormed_of_read ht
  refine ⟨fun values => ?_, fun taken h => ?_⟩
  · rw [Template.match?, hasSegments_iff.1 hparts]
    exact matchSegments_eq_some_iff hwell.catchAll_last
  have hnames : (taken.flatten.map fun q => q.1.name).Nodup := by
    have hlowered : ((taken.flatten.map Prod.fst).map Parameter.lowered).Nodup :=
      hwell.names.sublist (h.sublist.map _)
    have hmap : ((taken.flatten.map fun q => q.1.name).map Text.lower).Nodup := by
      simpa [List.map_map, Function.comp_def, Parameter.lowered] using hlowered
    exact hmap.of_map _
  refine ⟨?_, hnames, h.accepts, fun i s own hs hown hnone hi q hq => ?_⟩
  · rw [bindingsOf, Bindings.toList_ofList (by simpa [List.map_map, Function.comp_def] using hnames)]
    exact List.reverse_perm _
  · have htakes := h.segment i s own hs hown hnone
    rw [List.getElem?_eq_getElem hi] at htakes
    refine ⟨(htakes.piece q hq).1, fun hslash => ?_⟩
    exact hparts.slash _ (List.getElem_mem hi) ((htakes.piece q hq).2 _ hslash)

/-- A template with a complex segment, a default and the rest of the path. -/
def archive : String := "/Files/\x7bname\x7d.\x7bext\x7d/\x7blang:alpha=en\x7d/\x7b*rest\x7d"

theorem archive_match?_iff :
    ∃ t taken, Template.read archive = .ok t ∧
      HasSegments "/files/a.b.gz/?q=/c" ["files".toList, "a.b.gz".toList] ∧
      Takes t.segments ["files".toList, "a.b.gz".toList] taken ∧
      t.match? "/files/a.b.gz/?q=/c" = some (bindingsOf taken.flatten) ∧
      (bindingsOf taken.flatten).toList = [("lang", "en"), ("ext", "gz"), ("name", "a.b")] ∧
      ∀ q ∈ taken.flatten, q.1.accepts q.2 = true := by
  have hparts : HasSegments "/files/a.b.gz/?q=/c" ["files".toList, "a.b.gz".toList] :=
    hasSegments_iff.2 (by decide +kernel)
  have hfound : ((Template.read archive).toOption.bind fun t =>
      (t.match? "/files/a.b.gz/?q=/c").map Bindings.toList) =
        some [("lang", "en"), ("ext", "gz"), ("name", "a.b")] := by decide +kernel
  rcases ht : Template.read archive with e | t <;> rw [ht] at hfound
  · cases hfound
  · obtain ⟨values, hvalues, hlist⟩ := Option.map_eq_some_iff.1 hfound
    obtain ⟨hiff, hproperties⟩ := match?_iff_takes ht hparts
    obtain ⟨taken, htaken, rfl⟩ := (hiff values).1 hvalues
    exact ⟨t, taken, rfl, hparts, htaken, hvalues, hlist, (hproperties taken htaken).2.2.1⟩

end Url

end StubServer

import StubServer.Proofs.Matching

/-!
# What matching captures on the way

Matching goes through the segments from left to right and captures values for their parameters. When
the names of the parameters differ, no name is bound yet when a value is captured for it, also where
the match fails later on (`Captures.fresh`); so nothing is overwritten, and a match that succeeds
binds the names to just the values that were captured (`get?_iff_captures`).
-/

namespace StubServer

namespace Url

/-- Matching a path comes to these segments. These parts of the path are left, and these values have
been captured. -/
inductive ComesTo (t : Template) (path : String) :
    List Segment → List (List Char) → Bindings String → Prop
  | start : ComesTo t path t.segments (pathSegments path) .empty
  | part {s : Segment} {segments : List Segment} {part : List Char} {parts : List (List Char)}
      {values found : Bindings String} (h : ComesTo t path (s :: segments) (part :: parts) values)
      (hs : s.catchAll? = none) (hfound : s.matchPart part values = some found) :
      ComesTo t path segments parts found
  | nothing {s : Segment} {segments : List Segment} {values found : Bindings String}
      (h : ComesTo t path (s :: segments) [] values) (hs : s.catchAll? = none)
      (hfound : s.matchNothing values = some found) : ComesTo t path segments [] found

/-- Matching a path captures the value for the parameter, to be bound beside these values if the
parameter accepts it. -/
inductive Captures (t : Template) (path : String) (values : Bindings String) (p : Parameter)
    (value : String) : Prop
  | part {segments : List Segment} {part : List Char} {parts : List (List Char)}
      (h : ComesTo t path (.parameter p :: segments) (part :: parts) values)
      (hp : p.catchAll = false) (hne : part ≠ []) (hvalue : value = .ofList part)
  | default {segments : List Segment} (h : ComesTo t path (.parameter p :: segments) [] values)
      (hp : p.catchAll = false) (hvalue : p.presence = .defaulted value)
  | rest {segments : List Segment} {parts : List (List Char)}
      (h : ComesTo t path (.parameter p :: segments) parts values) (hp : p.catchAll = true)
      (hne : joined parts ≠ "") (hvalue : value = joined parts)
  | restDefault {segments : List Segment} {parts : List (List Char)}
      (h : ComesTo t path (.parameter p :: segments) parts values) (hp : p.catchAll = true)
      (hempty : joined parts = "") (hvalue : p.presence = .defaulted value)
  | piece {own : List Part} {segments : List Segment} {part : List Char} {parts : List (List Char)}
      {before behind : List (Parameter × String)} {values' : Bindings String}
      (h : ComesTo t path (.complex own :: segments) (part :: parts) values')
      (hpieces : captures? own part = some (before ++ (p, value) :: behind))
      (hbefore : captureAll values' before = some values)

def Template.parameters (t : Template) : List Parameter :=
  t.segments.flatMap Segment.parameters

variable {t : Template} {path : String} {s : Segment} {segments : List Segment}
  {parts : List (List Char)} {values found : Bindings String} {p : Parameter} {value : String}

/-- What is left of the match decides it. -/
theorem ComesTo.match?_eq (h : ComesTo t path segments parts values) :
    t.match? path = matchSegments values segments parts := by
  induction h with
  | start => rfl
  | part _ hs hfound ih => rw [ih, matchSegments, hs, hfound]; rfl
  | nothing _ hs hfound ih => rw [ih, matchSegments, hs, hfound]; rfl

section Next

variable {part : List Char}

theorem ComesTo.exists_part (h : ComesTo t path (s :: segments) (part :: parts) values)
    (hs : s.catchAll? = none) (hfound : t.match? path = some found) :
    ∃ between, s.matchPart part values = some between ∧ ComesTo t path segments parts between ∧
      matchSegments between segments parts = some found := by
  rw [h.match?_eq, matchSegments, hs] at hfound
  obtain ⟨between, hbetween, hrest⟩ := Option.bind_eq_some_iff.1 hfound
  exact ⟨between, hbetween, h.part hs hbetween, hrest⟩

theorem ComesTo.exists_nothing (h : ComesTo t path (s :: segments) [] values)
    (hs : s.catchAll? = none) (hfound : t.match? path = some found) :
    ∃ between, s.matchNothing values = some between ∧ ComesTo t path segments [] between ∧
      matchSegments between segments [] = some found := by
  rw [h.match?_eq, matchSegments, hs] at hfound
  obtain ⟨between, hbetween, hrest⟩ := Option.bind_eq_some_iff.1 hfound
  exact ⟨between, hbetween, h.nothing hs hbetween, hrest⟩

theorem ComesTo.captureRest_eq (h : ComesTo t path (s :: segments) parts values)
    (hs : s.catchAll? = some p) (hfound : t.match? path = some found) :
    captureRest p parts values = some found := by
  rw [h.match?_eq] at hfound
  cases parts <;> simpa only [matchSegments, hs] using hfound

end Next

/-! ## Values under a name -/

section Taken

variable {taken : List (Parameter × String)} {name : String}

theorem get?_withTaken (h : (withTaken values taken).get? name = some value) :
    values.get? name = some value ∨ ∃ p, (p, value) ∈ taken ∧ p.name = name := by
  rw [withTaken, Bindings.get?_insertAll, Option.or_eq_some_iff] at h
  rcases h with h | ⟨-, h⟩
  · obtain ⟨later, earlier, heq, -⟩ := List.lookup_eq_some_iff.1 h
    have hmem : (name, value) ∈ taken.map fun q => (q.1.name, q.2) := by
      rw [← List.mem_reverse, heq]
      exact List.mem_append_right _ List.mem_cons_self
    obtain ⟨⟨p, v⟩, hq, hname⟩ := List.mem_map.1 hmem
    obtain ⟨rfl, rfl⟩ := Prod.mk.inj hname
    exact .inr ⟨p, hq, rfl⟩
  · exact .inl h

theorem get?_withTaken_of_ne (h : ∀ q ∈ taken, q.1.name ≠ name) :
    (withTaken values taken).get? name = values.get? name := by
  have hnone : (taken.map fun q => (q.1.name, q.2)).reverse.lookup name = none := by
    rw [List.lookup_eq_none_iff]
    intro q hq
    obtain ⟨r, hr, rfl⟩ := List.mem_map.1 (List.mem_reverse.1 hq)
    simpa using Ne.symm (h r hr)
  rw [withTaken, Bindings.get?_insertAll, hnone, Option.none_or]

theorem get?_withTaken_of_mem (hnodup : (taken.map fun q => q.1.name).Nodup)
    (h : (p, value) ∈ taken) : (withTaken values taken).get? p.name = some value := by
  have hlookup : (taken.map fun q => (q.1.name, q.2)).reverse.lookup p.name = some value := by
    rw [Bindings.lookup_eq_some_iff_mem, List.mem_reverse]
    · exact List.mem_map.2 ⟨_, h, rfl⟩
    · rw [List.map_reverse, List.nodup_reverse]
      simpa [List.map_map, Function.comp_def] using hnodup
  rw [withTaken, Bindings.get?_insertAll, hlookup, Option.some_or]

end Taken

/-! ## No name is bound twice -/

def namesOfSegments (segments : List Segment) : List String :=
  (segments.flatMap Segment.parameters).map Parameter.name

theorem namesOfSegments_append (segments more : List Segment) :
    namesOfSegments (segments ++ more) = namesOfSegments segments ++ namesOfSegments more := by
  rw [namesOfSegments, List.flatMap_append, List.map_append, namesOfSegments, namesOfSegments]

theorem name_mem_of_sublist {own : List (Parameter × String)}
    (hown : List.Sublist (own.map Prod.fst) s.parameters) (h : (p, value) ∈ own) :
    p.name ∈ namesOfSegments [s] := by
  rw [namesOfSegments, List.flatMap_singleton]
  exact List.mem_map_of_mem (hown.subset (List.mem_map_of_mem (f := Prod.fst) h))

/-- The names that are bound are those of parameters of segments that were passed. -/
theorem ComesTo.exists_done (h : ComesTo t path segments parts values) :
    ∃ done, t.segments = done ++ segments ∧
      ∀ name v, values.get? name = some v → name ∈ namesOfSegments done := by
  have hstep {done : List Segment} {s : Segment} {values : Bindings String}
      {own : List (Parameter × String)}
      (hdone : ∀ name v, values.get? name = some v → name ∈ namesOfSegments done)
      (hown : List.Sublist (own.map Prod.fst) s.parameters) (name v : String)
      (hname : (withTaken values own).get? name = some v) :
      name ∈ namesOfSegments (done ++ [s]) := by
    rw [namesOfSegments_append, List.mem_append]
    rcases get?_withTaken hname with hvalues | ⟨p, hp, rfl⟩
    · exact .inl (hdone name v hvalues)
    · exact .inr (name_mem_of_sublist hown hp)
  induction h with
  | start => exact ⟨[], rfl, by simp⟩
  | part _ _ hfound ih =>
    obtain ⟨done, heq, hdone⟩ := ih
    obtain ⟨own, hown, rfl⟩ := matchPart_eq_some_iff.1 hfound
    exact ⟨done ++ [_], by rw [heq, List.append_cons], hstep hdone hown.sublist⟩
  | nothing _ _ hfound ih =>
    obtain ⟨done, heq, hdone⟩ := ih
    obtain ⟨own, hown, rfl⟩ := matchNothing_eq_some_iff.1 hfound
    exact ⟨done ++ [_], by rw [heq, List.append_cons], hstep hdone hown.sublist⟩

section Distinct

variable (hnames : (namesOfSegments t.segments).Nodup)

include hnames

theorem ComesTo.fresh (h : ComesTo t path segments parts values) {name : String}
    (hname : name ∈ namesOfSegments segments) : values.get? name = none := by
  obtain ⟨done, heq, hdone⟩ := h.exists_done
  rw [heq, namesOfSegments_append, List.nodup_append] at hnames
  rw [Option.eq_none_iff_forall_ne_some]
  intro v hv
  exact hnames.2.2 _ (hdone name v hv) _ hname rfl

theorem ComesTo.nodup_pieces {own : List Part} {part : List Char}
    {pieces : List (Parameter × String)}
    (h : ComesTo t path (.complex own :: segments) parts values)
    (hpieces : captures? own part = some pieces) : (pieces.map fun q => q.1.name).Nodup := by
  obtain ⟨done, heq, -⟩ := h.exists_done
  have hown : (pieces.map Prod.fst).map Parameter.name = namesOfSegments [.complex own] := by
    rw [(splits_of_captures? hpieces).map_fst, namesOfSegments, List.flatMap_singleton]
    rfl
  rw [heq, ← List.singleton_append, namesOfSegments_append, namesOfSegments_append,
    List.nodup_append, List.nodup_append, ← hown, List.map_map] at hnames
  exact hnames.2.1.1

/-- When a value is captured, nothing is bound under the name. -/
theorem Captures.fresh (h : Captures t path values p value) : values.get? p.name = none := by
  have hparameter {segments : List Segment} {parts : List (List Char)}
      (h : ComesTo t path (.parameter p :: segments) parts values) : values.get? p.name = none :=
    h.fresh hnames (by simp [namesOfSegments, Segment.parameters])
  cases h with
  | part h => exact hparameter h
  | default h => exact hparameter h
  | rest h => exact hparameter h
  | restDefault h => exact hparameter h
  | @piece own segments part parts before behind values' h hpieces hbefore =>
    obtain ⟨-, rfl⟩ := captureAll_eq_some_iff.1 hbefore
    have hnodup := h.nodup_pieces hnames hpieces
    rw [List.map_append, List.nodup_append] at hnodup
    rw [get?_withTaken_of_ne fun q hq => hnodup.2.2 _ (List.mem_map_of_mem hq) _ List.mem_cons_self]
    refine h.fresh hnames ?_
    have hmem : p ∈ own.filterMap Part.parameter? := by
      rw [← (splits_of_captures? hpieces).map_fst]
      simp
    rw [← List.singleton_append, namesOfSegments_append, namesOfSegments, List.flatMap_singleton]
    exact List.mem_append_left _ (List.mem_map_of_mem hmem)

/-! ## The values of a match -/

variable (hlast : ∀ s ∈ t.segments.dropLast, s.catchAll? = none)

include hlast

/-- What is bound stays bound. -/
theorem ComesTo.keeps (h : ComesTo t path segments parts values)
    (hfound : matchSegments values segments parts = some found) {name : String}
    (hvalue : values.get? name = some value) : found.get? name = some value := by
  obtain ⟨done, heq, hdone⟩ := h.exists_done
  rw [heq] at hlast hnames
  have hbehind : ∀ s ∈ segments.dropLast, s.catchAll? = none := by
    rcases segments.eq_nil_or_concat' with rfl | ⟨front, s, rfl⟩
    · simp
    · intro s' hs'
      refine hlast s' ?_
      rw [← List.append_assoc, List.dropLast_concat]
      rw [List.dropLast_concat] at hs'
      exact List.mem_append_right _ hs'
  obtain ⟨taken, htaken, rfl⟩ := (matchSegments_eq_some_iff hbehind).1 hfound
  rw [get?_withTaken_of_ne fun q hq => ?_, hvalue]
  rintro rfl
  rw [namesOfSegments_append, List.nodup_append] at hnames
  refine hnames.2.2 _ (hdone _ _ hvalue) q.1.name ?_ rfl
  exact List.mem_map_of_mem (htaken.sublist.subset (List.mem_map_of_mem hq))

/-- What is captured is what the match binds. -/
theorem Captures.get?_eq (h : Captures t path values p value)
    (hfound : t.match? path = some found) : found.get? p.name = some value := by
  have hwritten : (withTaken values [(p, value)]).get? p.name = some value :=
    get?_withTaken_of_mem (by simp) List.mem_cons_self
  have hone (hp : p.catchAll = false) : (Segment.parameter p).catchAll? = none := by
    simp [Segment.catchAll?, hp]
  have hall (hp : p.catchAll = true) : (Segment.parameter p).catchAll? = some p := by
    simp [Segment.catchAll?, hp]
  cases h with
  | part h hp hne hvalue =>
    obtain ⟨between, hbetween, hnext, hrest⟩ := h.exists_part (hone hp) hfound
    refine hnext.keeps hnames hlast hrest ?_
    rw [Segment.matchPart, if_neg (by simpa using hne), ← hvalue, capture_eq_some_iff] at hbetween
    rw [hbetween.2, hwritten]
  | default h hp hvalue =>
    obtain ⟨between, hbetween, hnext, hrest⟩ := h.exists_nothing (hone hp) hfound
    refine hnext.keeps hnames hlast hrest ?_
    rw [Segment.matchNothing, hvalue] at hbetween
    rw [(capture_eq_some_iff.1 hbetween).2, hwritten]
  | rest h hp hne hvalue =>
    have hrest := h.captureRest_eq (hall hp) hfound
    rw [captureRest, ← joined, if_neg hne, ← hvalue, capture_eq_some_iff] at hrest
    rw [hrest.2, hwritten]
  | restDefault h hp hempty hvalue =>
    have hrest := h.captureRest_eq (hall hp) hfound
    rw [captureRest, ← joined, if_pos hempty, hvalue] at hrest
    rw [(capture_eq_some_iff.1 hrest).2, hwritten]
  | piece h hpieces hbefore =>
    obtain ⟨between, hbetween, hnext, hrest⟩ := h.exists_part rfl hfound
    refine hnext.keeps hnames hlast hrest ?_
    rw [Segment.matchPart, hpieces, Option.bind_some, captureAll_eq_some_iff] at hbetween
    rw [hbetween.2]
    exact get?_withTaken_of_mem (h.nodup_pieces hnames hpieces) (by simp)

end Distinct

section Captured

variable {name : String}

theorem Segment.eq_parameter_of_catchAll? (hs : s.catchAll? = some p) :
    s = .parameter p ∧ p.catchAll = true := by
  cases s with
  | literal => cases hs
  | complex => cases hs
  | parameter q =>
    obtain ⟨hq, rfl⟩ : q.catchAll = true ∧ q = p := by simpa [Segment.catchAll?] using hs
    exact ⟨rfl, hq⟩

theorem ComesTo.captured_part {part : List Char}
    (h : ComesTo t path (s :: segments) (part :: parts) values) (hs : s.catchAll? = none)
    (hfound : s.matchPart part values = some found) (hvalue : found.get? name = some value) :
    values.get? name = some value ∨
      ∃ values' p, p.name = name ∧ Captures t path values' p value := by
  obtain ⟨own, hown, rfl⟩ := matchPart_eq_some_iff.1 hfound
  refine (get?_withTaken hvalue).imp_right ?_
  rintro ⟨p, hmem, hname⟩
  cases hown with
  | literal => cases hmem
  | @parameter q part hne =>
    cases List.mem_singleton.1 hmem
    exact ⟨values, p, hname, .part h (by simpa [Segment.catchAll?] using hs) hne rfl⟩
  | @complex own part pieces hpieces haccepts =>
    obtain ⟨before, behind, rfl⟩ := List.append_of_mem hmem
    have hbefore : captureAll values before = some (withTaken values before) :=
      captureAll_eq_some_iff.2 ⟨fun q hq => haccepts q (List.mem_append_left _ hq), rfl⟩
    exact ⟨_, p, hname, .piece h (captures?_eq_some_iff.2 hpieces) hbefore⟩

theorem ComesTo.captured_nothing (h : ComesTo t path (s :: segments) [] values)
    (hs : s.catchAll? = none) (hfound : s.matchNothing values = some found)
    (hvalue : found.get? name = some value) :
    values.get? name = some value ∨
      ∃ values' p, p.name = name ∧ Captures t path values' p value := by
  obtain ⟨own, hown, rfl⟩ := matchNothing_eq_some_iff.1 hfound
  refine (get?_withTaken hvalue).imp_right ?_
  rintro ⟨p, hmem, hname⟩
  cases hown with
  | optional => cases hmem
  | defaulted hpresence =>
    cases List.mem_singleton.1 hmem
    exact ⟨values, p, hname, .default h (by simpa [Segment.catchAll?] using hs) hpresence⟩

theorem ComesTo.captured_rest (h : ComesTo t path (s :: segments) parts values)
    (hs : s.catchAll? = some p) (hfound : captureRest p parts values = some found)
    (hvalue : found.get? name = some value) :
    values.get? name = some value ∨
      ∃ values' p, p.name = name ∧ Captures t path values' p value := by
  obtain ⟨rfl, hp⟩ := Segment.eq_parameter_of_catchAll? hs
  obtain ⟨own, hown, rfl⟩ := captureRest_eq_some_iff.1 hfound
  refine (get?_withTaken hvalue).imp_right ?_
  rintro ⟨q, hmem, hname⟩
  cases hown with
  | nothing => cases hmem
  | rest hne =>
    cases List.mem_singleton.1 hmem
    exact ⟨values, p, hname, .rest h hp hne rfl⟩
  | defaulted hempty hpresence =>
    cases List.mem_singleton.1 hmem
    exact ⟨values, p, hname, .restDefault h hp hempty hpresence⟩

/-- What a match binds was bound before or is captured from here on. -/
theorem ComesTo.captured (h : ComesTo t path segments parts values)
    (hfound : t.match? path = some found) (hvalue : found.get? name = some value) :
    values.get? name = some value ∨
      ∃ values' p, p.name = name ∧ Captures t path values' p value := by
  induction segments generalizing parts values with
  | nil =>
    rw [h.match?_eq] at hfound
    cases parts with
    | nil =>
      cases hfound
      exact .inl hvalue
    | cons part parts => cases hfound
  | cons s segments ih =>
    rcases hs : s.catchAll? with _ | p
    · rcases parts with _ | ⟨part, parts⟩
      · obtain ⟨between, hbetween, hnext, -⟩ := h.exists_nothing hs hfound
        exact (ih hnext).elim (h.captured_nothing hs hbetween) .inr
      · obtain ⟨between, hbetween, hnext, -⟩ := h.exists_part hs hfound
        exact (ih hnext).elim (h.captured_part hs hbetween) .inr
    · exact h.captured_rest hs (h.captureRest_eq hs hfound) hvalue

/-- A match binds the names to the values that were captured, and to nothing else. -/
theorem get?_iff_captures (hnames : (namesOfSegments t.segments).Nodup)
    (hlast : ∀ s ∈ t.segments.dropLast, s.catchAll? = none) (hfound : t.match? path = some found) :
    found.get? name = some value ↔ ∃ values p, p.name = name ∧ Captures t path values p value := by
  constructor
  · intro hvalue
    exact (ComesTo.start.captured hfound hvalue).resolve_left nofun
  · rintro ⟨values, p, rfl, h⟩
    exact h.get?_eq hnames hlast hfound

end Captured

end Url

end StubServer

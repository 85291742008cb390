import Mathlib.Data.List.Basic
import Mathlib.Data.List.Forall2
import StubServer.Proofs.Matching

/-!
# Parameters that accept less

Let two templates differ only in that the parameters of one accept less. Where it matches a path,
the other one does, with the same values (`matchSegments_of_within`): what a parameter captures does
not depend on what it accepts. This is said of pieces of text, too, for parameters that are read from
them (`exists_read_of_within`).
-/

namespace StubServer

namespace Url

/-- One parameter accepts no more than another, from which it does not differ otherwise. -/
structure Parameter.Within (p q : Parameter) : Prop where
  name : p.name = q.name
  catchAll : p.catchAll = q.catchAll
  presence : p.presence = q.presence
  accepts : ∀ value, p.accepts value = true → q.accepts value = true

inductive Part.Within : Part → Part → Prop
  | literal (text : String) : Within (.literal text) (.literal text)
  | parameter {p q : Parameter} (h : p.Within q) : Within (.parameter p) (.parameter q)

inductive Segment.Within : Segment → Segment → Prop
  | literal (lowered : String) : Within (.literal lowered) (.literal lowered)
  | parameter {p q : Parameter} (h : p.Within q) : Within (.parameter p) (.parameter q)
  | complex {parts parts' : List Part} (h : List.Forall₂ Part.Within parts parts') :
      Within (.complex parts) (.complex parts')

theorem Parameter.Within.refl (p : Parameter) : p.Within p :=
  ⟨rfl, rfl, rfl, fun _ h => h⟩

theorem Parameter.Within.isPlain {p q : Parameter} (h : p.Within q) : p.isPlain = q.isPlain := by
  unfold Parameter.isPlain
  rw [h.catchAll, h.presence]

/-! ## Capturing -/

section Capturing

variable {p q : Parameter} {values found : Bindings String}

/-- A value that a parameter took, and the same value taken by one that accepts no less. -/
def TakenWithin (own own' : Parameter × String) : Prop :=
  own.1.Within own'.1 ∧ own.2 = own'.2

theorem capture_of_within (h : p.Within q) {value : String}
    (hfound : capture p value values = some found) : capture q value values = some found := by
  rw [capture_eq_some_iff] at hfound ⊢
  refine ⟨h.accepts value hfound.1, ?_⟩
  simpa only [withTaken, List.map_cons, List.map_nil, h.name] using hfound.2

theorem captureAll_of_within {taken taken' : List (Parameter × String)}
    (h : List.Forall₂ TakenWithin taken taken') (hfound : captureAll values taken = some found) :
    captureAll values taken' = some found := by
  induction h generalizing values with
  | nil => exact hfound
  | @cons own own' taken taken' hown _ ih =>
    obtain ⟨p, value⟩ := own
    obtain ⟨q, value'⟩ := own'
    obtain ⟨hwithin, rfl⟩ : p.Within q ∧ value = value' := hown
    rw [captureAll, Option.bind_eq_some_iff] at hfound ⊢
    obtain ⟨between, hcapture, hrest⟩ := hfound
    exact ⟨between, capture_of_within hwithin hcapture, ih hrest⟩

theorem captureRest_of_within (h : p.Within q) {rest : List (List Char)}
    (hfound : captureRest p rest values = some found) :
    captureRest q rest values = some found := by
  unfold captureRest at hfound ⊢
  rw [← h.presence]
  dsimp only at hfound ⊢
  split at hfound
  · rename_i hempty
    rw [if_pos hempty]
    rcases hpresence : p.presence with _ | _ | value <;> rw [hpresence] at hfound
    · exact hfound
    · exact hfound
    · exact capture_of_within h hfound
  · rename_i hne
    rw [if_neg hne]
    exact capture_of_within h hfound

/-- The values that a search finds for related functions are related. -/
theorem findSome?_rel {α β : Type} {R : α → β → Prop} {f : Nat → Option α} {g : Nat → Option β}
    (h : ∀ n, Option.Rel R (f n) (g n)) (ns : List Nat) :
    Option.Rel R (ns.findSome? f) (ns.findSome? g) := by
  induction ns with
  | nil => exact .none
  | cons n ns ih =>
    rw [List.findSome?_cons, List.findSome?_cons]
    have hn := h n
    generalize f n = a at hn
    generalize g n = b at hn
    cases hn with
    | none => exact ih
    | some hn => exact .some hn

/-- A part of a path is split in the same way, whatever the parameters accept. -/
theorem captures?_rel {parts parts' : List Part} (h : List.Forall₂ Part.Within parts parts')
    (cs : List Char) :
    Option.Rel (List.Forall₂ TakenWithin) (captures? parts cs) (captures? parts' cs) := by
  induction h generalizing cs with
  | nil =>
    unfold captures?
    split
    · exact .some .nil
    · exact .none
  | @cons part part' parts parts' hpart _ ih =>
    cases hpart with
    | literal text =>
      rw [captures?, captures?]
      rcases afterFolded? text.toList cs with _ | rest
      · exact .none
      · exact ih rest
    | parameter hp =>
      rw [captures?, captures?]
      refine findSome?_rel (fun n => ?_) _
      have hrest := ih (cs.drop (n + 1))
      generalize captures? parts (cs.drop (n + 1)) = taken at hrest
      generalize captures? parts' (cs.drop (n + 1)) = taken' at hrest
      cases hrest with
      | none => exact .none
      | some htaken => exact .some (.cons ⟨hp, rfl⟩ htaken)

end Capturing

/-! ## Matching -/

section Matching

variable {s s' : Segment} {values found : Bindings String}

theorem matchPart_of_within (h : s.Within s') {part : List Char}
    (hfound : s.matchPart part values = some found) : s'.matchPart part values = some found := by
  cases h with
  | literal lowered => exact hfound
  | parameter h =>
    simp only [Segment.matchPart, Option.ite_none_left_eq_some] at hfound ⊢
    exact ⟨hfound.1, capture_of_within h hfound.2⟩
  | @complex parts parts' h =>
    rw [Segment.matchPart, Option.bind_eq_some_iff] at hfound ⊢
    obtain ⟨taken, htaken, hfound⟩ := hfound
    have hrel := captures?_rel h part
    rw [htaken] at hrel
    generalize captures? parts' part = captured at hrel
    cases hrel with
    | some hwithin => exact ⟨_, rfl, captureAll_of_within hwithin hfound⟩

theorem matchNothing_of_within (h : s.Within s')
    (hfound : s.matchNothing values = some found) : s'.matchNothing values = some found := by
  cases h with
  | literal lowered => exact hfound
  | complex h => cases hfound
  | parameter h =>
    unfold Segment.matchNothing at hfound ⊢
    dsimp only at hfound ⊢
    rw [← h.presence]
    split at hfound
    · exact hfound
    · exact hfound
    · exact capture_of_within h hfound

theorem catchAll?_of_within (h : s.Within s') :
    Option.Rel Parameter.Within s.catchAll? s'.catchAll? := by
  cases h with
  | literal lowered => exact .none
  | complex h => exact .none
  | @parameter p q h =>
    change Option.Rel Parameter.Within (if p.catchAll then some p else none)
      (if q.catchAll then some q else none)
    rw [← h.catchAll]
    split
    · exact .some h
    · exact .none

/-- Where segments match that accept less, so do these, and the values are the same. -/
theorem matchSegments_of_within {segments segments' : List Segment}
    (h : List.Forall₂ Segment.Within segments segments') {path : List (List Char)}
    (hfound : matchSegments values segments path = some found) :
    matchSegments values segments' path = some found := by
  induction h generalizing values path with
  | nil => exact hfound
  | @cons s s' segments segments' hs _ ih =>
    have hcatchAll := catchAll?_of_within hs
    unfold matchSegments at hfound ⊢
    generalize s.catchAll? = p at hcatchAll hfound
    generalize s'.catchAll? = q at hcatchAll
    cases hcatchAll with
    | some hp => exact captureRest_of_within hp hfound
    | none =>
      rcases path with _ | ⟨part, path⟩ <;>
        simp only [Option.bind_eq_some_iff] at hfound ⊢ <;>
        obtain ⟨between, hbetween, hrest⟩ := hfound
      · exact ⟨between, matchNothing_of_within hs hbetween, ih hrest⟩
      · exact ⟨between, matchPart_of_within hs hbetween, ih hrest⟩

end Matching

/-! ## Reading -/

/-- What stands in braces can be read if the other text can, as a parameter that accepts no less. -/
def InnerWithin (inner inner' : List Char) : Prop :=
  ∀ template template' p, Parameter.read template inner = .ok p →
    ∃ q, Parameter.read template' inner' = .ok q ∧ p.Within q

inductive Piece.Within : Piece → Piece → Prop
  | char (c : Char) : Within (.char c) (.char c)
  | slash : Within .slash .slash
  | braces {inner inner' : List Char} (h : InnerWithin inner inner') :
      Within (.braces inner) (.braces inner')
  | unbalanced : Within .unbalanced .unbalanced

/-- The text of the template is in messages alone. -/
theorem Parameter.read_template {template : String} {inner : List Char} {p : Parameter}
    (h : Parameter.read template inner = .ok p) (template' : String) :
    Parameter.read template' inner = .ok p := by
  unfold Parameter.read at h ⊢
  split at h
  all_goals
    dsimp only at h ⊢
    split at h
    · cases h
    · rename_i hname
      rwa [if_neg hname]

theorem InnerWithin.refl (inner : List Char) : InnerWithin inner inner :=
  fun _ template' p h => ⟨p, Parameter.read_template h template', .refl p⟩

theorem Piece.Within.refl (piece : Piece) : piece.Within piece := by
  cases piece with
  | char c => exact .char c
  | slash => exact .slash
  | braces inner => exact .braces (.refl inner)
  | unbalanced => exact .unbalanced

section Reading

variable {parts parts' : List Part} {raw raw' : List (List Part)} {s : Segment}

theorem flush_within (h : List.Forall₂ Part.Within parts parts') (literal : List Char) :
    List.Forall₂ Part.Within (flush literal parts) (flush literal parts') := by
  unfold flush
  split
  · exact h
  · exact .cons (.literal _) h

theorem addSegment_within (h : List.Forall₂ Part.Within parts parts')
    (hraw : List.Forall₂ (List.Forall₂ Part.Within) raw raw') :
    List.Forall₂ (List.Forall₂ Part.Within) (addSegment parts raw) (addSegment parts' raw') := by
  cases h with
  | nil => exact hraw
  | cons hpart hparts => exact .cons (List.rel_reverse (.cons hpart hparts)) hraw

theorem segmentParts_within {pieces pieces' : List Piece}
    (hpieces : List.Forall₂ Piece.Within pieces pieces') {template : String} (template' : String)
    {literal : List Char} (hparts : List.Forall₂ Part.Within parts parts')
    (h : segmentParts template literal parts pieces = .ok raw) :
    ∃ raw', segmentParts template' literal parts' pieces' = .ok raw' ∧
      List.Forall₂ (List.Forall₂ Part.Within) raw raw' := by
  induction hpieces generalizing literal parts parts' raw with
  | nil =>
    cases h
    exact ⟨_, rfl, addSegment_within (flush_within hparts literal) .nil⟩
  | cons hpiece _ ih =>
    cases hpiece with
    | char c => exact ih hparts h
    | slash =>
      obtain ⟨rest, hrest, heq⟩ := bind_eq_ok.1 h
      cases heq
      obtain ⟨rest', hrest', hwithin⟩ := ih .nil hrest
      refine ⟨_, bind_eq_ok.2 ⟨rest', hrest', rfl⟩, ?_⟩
      exact addSegment_within (flush_within hparts literal) hwithin
    | braces hinner =>
      obtain ⟨p, hp, hrest⟩ := bind_eq_ok.1 h
      obtain ⟨q, hq, hwithin⟩ := hinner template template' p hp
      obtain ⟨raw', hraw', hforall⟩ :=
        ih (.cons (.parameter hwithin) (flush_within hparts literal)) hrest
      exact ⟨raw', bind_eq_ok.2 ⟨q, hq, hraw'⟩, hforall⟩
    | unbalanced => cases h

theorem parameters_within (h : List.Forall₂ Part.Within parts parts') :
    List.Forall₂ Parameter.Within (parts.filterMap Part.parameter?)
      (parts'.filterMap Part.parameter?) := by
  induction h with
  | nil => exact .nil
  | cons hpart _ ih =>
    cases hpart with
    | literal text => exact ih
    | parameter hp => exact .cons hp ih

theorem map_eq_of_within {β : Type} {f : Parameter → β} (hf : ∀ p q, p.Within q → f p = f q)
    {ps qs : List Parameter} (h : List.Forall₂ Parameter.Within ps qs) : ps.map f = qs.map f := by
  induction h with
  | nil => rfl
  | cons hp _ ih => rw [List.map_cons, List.map_cons, hf _ _ hp, ih]

theorem addNames_within {ps qs : List Parameter} (h : List.Forall₂ Parameter.Within ps qs)
    {seen seen' : List String} (hseen : addNames seen ps = .ok seen') :
    addNames seen qs = .ok seen' := by
  have hnames : ps.map Parameter.lowered = qs.map Parameter.lowered :=
    map_eq_of_within (fun p q hp => by rw [Parameter.lowered, hp.name, Parameter.lowered]) h
  rw [addNames_eq_ok_iff] at hseen ⊢
  rwa [← hnames]

theorem isPlain_of_within (h : List.Forall₂ Part.Within parts parts')
    (hplain : ∀ p, .parameter p ∈ parts → p.isPlain = true) :
    ∀ q, .parameter q ∈ parts' → q.isPlain = true := by
  intro q hq
  have hmem : q.isPlain ∈ (parts'.filterMap Part.parameter?).map Parameter.isPlain :=
    List.mem_map_of_mem (mem_filterMap_parameter?.2 hq)
  rw [← map_eq_of_within (fun _ _ hp => hp.isPlain) (parameters_within h), List.mem_map] at hmem
  obtain ⟨p, hp, heq⟩ := hmem
  rw [← heq, hplain p (mem_filterMap_parameter?.1 hp)]

theorem ofParts_within (h : List.Forall₂ Part.Within parts parts')
    (hs : Segment.ofParts parts = .ok s) :
    ∃ s', Segment.ofParts parts' = .ok s' ∧ s.Within s' := by
  have hforall := h
  rcases h with _ | ⟨hpart, _ | ⟨hnext, hparts⟩⟩
  · cases hs
    exact ⟨_, rfl, .complex .nil⟩
  · cases hpart with
    | literal text =>
      cases hs
      exact ⟨_, rfl, .literal _⟩
    | parameter hp =>
      cases hs
      exact ⟨_, rfl, .parameter hp⟩
  · obtain ⟨hplain, rfl⟩ := (Segment.ofParts_eq_ok_iff (by simp)).1 hs
    have hplain' := isPlain_of_within hforall hplain
    exact ⟨_, (Segment.ofParts_eq_ok_iff (by simp)).2 ⟨hplain', rfl⟩, .complex hforall⟩

theorem buildSegments_within (hraw : List.Forall₂ (List.Forall₂ Part.Within) raw raw')
    {seen : List String} {segments : List Segment} (h : buildSegments seen raw = .ok segments) :
    ∃ segments', buildSegments seen raw' = .ok segments' ∧
      List.Forall₂ Segment.Within segments segments' := by
  induction hraw generalizing seen segments with
  | nil =>
    cases h
    exact ⟨[], rfl, .nil⟩
  | @cons parts parts' raw raw' hparts hforall ih =>
    obtain ⟨seen', s, rest, hseen, hs, hlast, hrest, rfl⟩ := buildSegments_cons_eq_ok_iff.1 h
    obtain ⟨s', hs', hwithin⟩ := ofParts_within hparts hs
    obtain ⟨rest', hrest', hsegments⟩ := ih hrest
    refine ⟨s' :: rest', buildSegments_cons_eq_ok_iff.2 ⟨seen', s', rest',
      addNames_within (parameters_within hparts) hseen, hs', fun hne => ?_, hrest', rfl⟩,
      .cons hwithin hsegments⟩
    have hraw : raw ≠ [] := by
      rintro rfl
      exact hne (List.forall₂_nil_left_iff.1 hforall)
    have hrel := catchAll?_of_within hwithin
    rw [hlast hraw] at hrel
    generalize s'.catchAll? = q at hrel
    cases hrel
    rfl

/-- A template is read if one is whose pieces accept less, and it matches where that one does, with
the same values. -/
theorem exists_read_of_within {text text' : String}
    (hpieces : List.Forall₂ Piece.Within (scan none (body text)) (scan none (body text')))
    {t : Template} (h : Template.read text = .ok t) :
    ∃ t', Template.read text' = .ok t' ∧
      ∀ path values, t.match? path = some values → t'.match? path = some values := by
  obtain ⟨raw, segments, hraw, hsegments, rfl⟩ := read_eq_ok_iff.1 h
  obtain ⟨raw', hraw', hparts⟩ := segmentParts_within hpieces text' .nil hraw
  obtain ⟨segments', hsegments', hwithin⟩ := buildSegments_within hparts hsegments
  refine ⟨⟨text', segments'⟩, read_eq_ok_iff.2 ⟨raw', segments', hraw', hsegments', rfl⟩, ?_⟩
  exact fun path values => matchSegments_of_within hwithin

end Reading

end Url

end StubServer

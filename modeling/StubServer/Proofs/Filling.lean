import Mathlib.Data.List.Basic
import Mathlib.Data.List.Forall2
import Mathlib.Data.List.Nodup
import Mathlib.Data.List.Perm.Subperm
import StubServer.Proofs.Matching

/-!
# Filling in a template

A template whose segments are literals and parameters is filled in with values of the parameters.
A path made in this way matches with just these values. A path that matches with a value of its own
for every parameter is, up to the case of the literals, the template filled in with the values
found (`match?_fill`).
-/

namespace StubServer

namespace Url

/-- The text of a part, for a parameter its value. -/
def Part.fill (values : Bindings String) : Part → String
  | literal text => text
  | parameter p => (values.get? p.name).getD ""

/-- The template with these segments, with values in place of the parameters. -/
def fill (values : Bindings String) (parts : List Part) : String :=
  Text.join "/" (parts.map (Part.fill values))

/-- The value can stand in place of the parameter. -/
structure Parameter.Fits (p : Parameter) (value : String) : Prop where
  ne_empty : value ≠ ""
  query : '?' ∉ value.toList
  accepts : p.accepts value = true
  slash : p.catchAll = false → '/' ∉ value.toList
  trail : p.catchAll = true → value.toList.getLast? ≠ some '/'

/-- The parameters, and no other names, have values, and these can stand in their places. -/
structure Fits (values : Bindings String) (parts : List Part) : Prop where
  bound : ∀ name, (values.get? name).isSome ↔ ∃ p, Part.parameter p ∈ parts ∧ p.name = name
  fits : ∀ p value, Part.parameter p ∈ parts → values.get? p.name = some value → p.Fits value

/-- A segment of a path, in lower case if it stands for a literal. -/
def Part.lower : Part → List Char → List Char
  | literal _, segment => (Text.lower (.ofList segment)).toList
  | parameter _, segment => segment

/-- The segments of a path, in lower case where the template has a literal. -/
def lowerLiterals : List Part → List (List Char) → List (List Char)
  | part :: parts, segment :: segments => part.lower segment :: lowerLiterals parts segments
  | _, segments => segments

theorem Parameter.Fits.getLast?_ne {p : Parameter} {value : String} (h : p.Fits value) :
    value.toList.getLast? ≠ some '/' := by
  rcases hp : p.catchAll with _ | _
  · exact fun hlast => h.slash hp (List.mem_of_getLast? hlast)
  · exact h.trail hp

theorem Fits.fits_getD {values : Bindings String} {parts : List Part} (h : Fits values parts)
    {p : Parameter} (hp : Part.parameter p ∈ parts) : p.Fits ((values.get? p.name).getD "") := by
  obtain ⟨value, hvalue⟩ := Option.isSome_iff_exists.1 ((h.bound _).2 ⟨p, hp, rfl⟩)
  rw [hvalue, Option.getD_some]
  exact h.fits p value hp hvalue

/-! ## Segments put together -/

theorem getLast?_intercalate_ne {α : Type} {sep : List α} {xs : List (List α)} {c : α}
    (hne : ∀ x ∈ xs, x ≠ []) (hxs : ∀ x ∈ xs, x.getLast? ≠ some c) :
    (sep.intercalate xs).getLast? ≠ some c := by
  induction xs with
  | nil => simp
  | cons x xs ih =>
    rw [List.forall_mem_cons] at hne hxs
    rcases xs with _ | ⟨x', xs⟩
    · simpa using hxs.1
    · have hrest : sep.intercalate (x' :: xs) ≠ [] := by
        have hx' := hne.2 x' List.mem_cons_self
        rcases xs with _ | ⟨x'', xs⟩
        · simpa using hx'
        · simp [List.intercalate_cons_cons, hx']
      rw [List.intercalate_cons_of_ne_nil (List.cons_ne_nil _ _),
        List.getLast?_append_of_ne_nil _ hrest]
      exact ih hne.2 hxs.2

/-- Cutting the pieces further does not change what they are put together to. -/
theorem intercalate_flatMap_splitAtChar (c : Char) (css : List (List Char)) :
    [c].intercalate (css.flatMap (Text.splitAtChar c)) = [c].intercalate css := by
  induction css with
  | nil => rfl
  | cons cs css ih =>
    rcases css with _ | ⟨cs', css⟩
    · simp [Text.intercalate_splitAtChar]
    · rw [List.flatMap_cons, Text.intercalate_append (Text.splitAtChar_ne_nil _ _)
        (by simp [Text.splitAtChar_ne_nil]), ih, Text.intercalate_splitAtChar,
        List.intercalate_cons_of_ne_nil (List.cons_ne_nil _ _)]

theorem splitAtChar_joined {path : List (List Char)} (hslash : ∀ part ∈ path, '/' ∉ part)
    (hne : path ≠ []) : Text.splitAtChar '/' (joined path).toList = path := by
  have hmap : (path.map String.ofList).map String.toList = path := by simp
  rw [joined, Text.toList_join, hmap, Text.splitAtChar_eq_splitOn]
  exact List.splitOn_intercalate '/' hslash hne

theorem joined_splitAtChar (value : String) :
    joined (Text.splitAtChar '/' value.toList) = value := by
  apply String.toList_injective
  have hmap (css : List (List Char)) : (css.map String.ofList).map String.toList = css := by simp
  rw [joined, Text.toList_join, hmap]
  exact Text.intercalate_splitAtChar '/' value.toList

/-! ## The segments of a filled template -/

section Fill

variable {values found : Bindings String} {parts : List Part}

/-- The segments of the filled template; the value of a parameter for the rest may have several. -/
def fillSegments (values : Bindings String) (parts : List Part) : List (List Char) :=
  parts.flatMap fun part => Text.splitAtChar '/' (part.fill values).toList

theorem fillSegments_cons (values : Bindings String) (part : Part) (parts : List Part) :
    fillSegments values (part :: parts) =
      Text.splitAtChar '/' (part.fill values).toList ++ fillSegments values parts :=
  rfl

theorem notMem_of_mem_fillSegments {part : List Char} (h : part ∈ fillSegments values parts) :
    '/' ∉ part := by
  obtain ⟨own, -, hpart⟩ := List.mem_flatMap.1 h
  exact Text.notMem_of_mem_splitAtChar hpart

theorem toList_fill (values : Bindings String) (parts : List Part) :
    (fill values parts).toList =
      ['/'].intercalate (parts.map fun part => (part.fill values).toList) := by
  rw [fill, Text.toList_join, List.map_map]
  rfl

theorem intercalate_fillSegments (values : Bindings String) (parts : List Part) :
    ['/'].intercalate (fillSegments values parts) = (fill values parts).toList := by
  rw [toList_fill, ← intercalate_flatMap_splitAtChar '/' (parts.map _), List.flatMap_map]
  rfl

theorem fillSegments_ne_singleton (hne : ∀ part ∈ parts, part.fill values ≠ "") :
    fillSegments values parts ≠ [[]] := by
  intro h
  rcases parts with _ | ⟨part, parts⟩
  · cases h
  · refine hne part List.mem_cons_self (String.toList_injective ?_)
    rw [fillSegments_cons, List.append_eq_singleton_iff] at h
    rcases h with ⟨hnil, -⟩ | ⟨hpart, -⟩
    · exact absurd hnil (Text.splitAtChar_ne_nil _ _)
    · rw [← Text.intercalate_splitAtChar '/' (part.fill values).toList, hpart]
      rfl

theorem slashSegments_fill (hne : ∀ part ∈ parts, part.fill values ≠ "") :
    slashSegments (fill values parts).toList = fillSegments values parts :=
  slashSegments_eq_iff.2 ⟨intercalate_fillSegments values parts,
    fun _ => notMem_of_mem_fillSegments, fillSegments_ne_singleton hne⟩

theorem hasSegments_fill (hne : ∀ part ∈ parts, part.fill values ≠ "")
    (hquery : ∀ part ∈ parts, '?' ∉ (part.fill values).toList)
    (htrail : ∀ part ∈ parts, (part.fill values).toList.getLast? ≠ some '/') :
    HasSegments ("/" ++ fill values parts) (fillSegments values parts) := by
  refine ⟨fun _ => notMem_of_mem_fillSegments, fillSegments_ne_singleton hne,
    ['/'], [], [], ?_, ?_, by simp, Or.inl rfl, Or.inr ⟨rfl, ?_⟩⟩
  · rw [intercalate_fillSegments, String.toList_append]
    simp
  · have hfill : '?' ∉ (fill values parts).toList := by
      rw [toList_fill]
      exact Text.notMem_intercalate (by simp) (by simpa using hquery)
    rw [intercalate_fillSegments]
    simpa using hfill
  · rw [intercalate_fillSegments, toList_fill]
    refine getLast?_intercalate_ne ?_ (by simpa using htrail)
    simpa [← String.toList_eq_nil_iff] using hne

end Fill

/-! ## The template of the parts -/

def Part.segment : Part → Segment
  | literal text => .literal (Text.lower text)
  | parameter p => .parameter p

theorem Part.parameters_segment (part : Part) :
    part.segment.parameters = part.parameter?.toList := by
  cases part <;> rfl

theorem ofParts_singleton_eq_ok_iff {part : Part} {s : Segment} :
    Segment.ofParts [part] = .ok s ↔ s = part.segment := by
  cases part <;> simp [Segment.ofParts, Part.segment, eq_comm]

theorem segments_of_read {text : String} {t : Template} {parts : List Part}
    (ht : Template.read text = .ok t) (hparts : partsOf text = .ok (parts.map fun part => [part])) :
    t.segments = parts.map Part.segment := by
  obtain ⟨raw, segments, hraw, hsegments, rfl⟩ := read_eq_ok_iff.1 ht
  obtain rfl : parts.map (fun part => [part]) = raw := by simpa [hparts] using hraw
  have hforall := (buildSegments_eq_ok_iff.1 hsegments).1
  simp only [List.forall₂_map_left_iff, ofParts_singleton_eq_ok_iff] at hforall
  clear hparts hraw hsegments ht
  change segments = _
  induction hforall with
  | nil => rfl
  | cons hs _ ih => rw [List.map_cons, hs, ih]

/-! ## Matching what was filled in -/

section Values

variable {values found : Bindings String} {parts : List Part} {path : List (List Char)}
  {taken : List (List (Parameter × String))}

/-- What a parameter is given by values. -/
def Part.given (values : Bindings String) : Part → List (Parameter × String)
  | literal _ => []
  | parameter p => [(p, (values.get? p.name).getD "")]

theorem takes_fillSegments (hliteral : ∀ text, Part.literal text ∈ parts → '/' ∉ text.toList)
    (hvalues : ∀ p, Part.parameter p ∈ parts → p.Fits ((values.get? p.name).getD ""))
    (hlast : ∀ s ∈ (parts.map Part.segment).dropLast, s.catchAll? = none) :
    Takes (parts.map Part.segment) (fillSegments values parts) (parts.map (Part.given values)) := by
  induction parts with
  | nil => exact takes_nil_iff.2 ⟨rfl, rfl⟩
  | cons part parts ih =>
    rw [List.map_cons] at hlast ⊢
    obtain ⟨hfirst, hlast⟩ := dropLast_catchAll_iff.1 hlast
    have hrest := ih (fun text h => hliteral text (List.mem_cons_of_mem _ h))
      (fun p h => hvalues p (List.mem_cons_of_mem _ h)) hlast
    rw [fillSegments_cons, List.map_cons]
    cases part with
    | literal text =>
      rw [Part.fill, Text.splitAtChar_of_notMem (hliteral text List.mem_cons_self)]
      exact (takes_cons_iff rfl).2 ⟨_, _, rfl, .literal (by simp), hrest⟩
    | parameter p =>
      have hfits := hvalues p List.mem_cons_self
      rcases hp : p.catchAll with _ | _
      · rw [Part.fill, Text.splitAtChar_of_notMem (hfits.slash hp)]
        refine (takes_cons_iff (by simp [Part.segment, Segment.catchAll?, hp])).2
          ⟨_, _, rfl, ?_, hrest⟩
        have htakes : (Segment.parameter p).Takes (some ((values.get? p.name).getD "").toList) _ :=
          .parameter (by simpa using hfits.ne_empty) (by simpa using hfits.accepts)
        rwa [String.ofList_toList] at htakes
      · have hcatch : (Part.parameter p).segment.catchAll? = some p := by
          simp [Part.segment, Segment.catchAll?, hp]
        -- A parameter for the rest is the last part, and takes back the pieces of its own value.
        obtain rfl := List.map_eq_nil_iff.1 (eq_nil_of_catchAll? hfirst hcatch)
        refine (takes_catchAll_iff hcatch).2 ⟨_, rfl, ?_⟩
        have hjoined : joined (Text.splitAtChar '/' ((values.get? p.name).getD "").toList ++ []) =
            (values.get? p.name).getD "" := by rw [List.append_nil, joined_splitAtChar]
        have htakes := Parameter.TakesRest.rest (hjoined ▸ hfits.ne_empty) (hjoined ▸ hfits.accepts)
        rwa [hjoined] at htakes

theorem filterMap_parameter? (parts : List Part) :
    parts.filterMap Part.parameter? = parts.flatMap fun part => part.segment.parameters := by
  simp only [Part.parameters_segment, List.filterMap_eq_flatMap_toList]

theorem append_inj_of_sublist {α : Type} {xs ys xs' ys' : List α} (hxs : xs.Sublist xs')
    (hys : ys.Sublist ys') (h : xs ++ ys = xs' ++ ys') : xs = xs' ∧ ys = ys' := by
  have hlength := congrArg List.length h
  rw [List.length_append, List.length_append] at hlength
  have hx := hxs.length_le
  have hy := hys.length_le
  exact List.append_inj h (by omega)

/-- A part that takes a segment of the path is filled in with this segment. -/
theorem Part.lower_fill {part : Part} {own : List (Parameter × String)}
    (h : part.segment.Takes path.head? own) (hslash : ∀ piece ∈ path, '/' ∉ piece)
    (hproper : part.IsProper) (hall : own.map Prod.fst = part.parameter?.toList)
    (hfound : ∀ q ∈ own, found.get? q.1.name = some q.2)
    (hdefault : ∀ p value, part = .parameter p → p.presence = .defaulted value →
      joined path ≠ "") :
    ∃ piece, path = piece :: path.tail ∧ part.fill found ≠ "" ∧
      '/' ∉ (part.fill found).toList ∧ part.lower (part.fill found).toList = part.lower piece := by
  cases part with
  | literal text =>
    generalize hhead : path.head? = head at h
    cases h with
    | @literal _ piece hlower =>
      refine ⟨piece, List.eq_cons_of_mem_head? hhead, hproper.1, hproper.2, ?_⟩
      simp [Part.lower, Part.fill, hlower]
  | parameter p =>
    generalize hhead : path.head? = head at h
    cases h with
    | @parameter _ piece hne =>
      have hvalue : (Part.parameter p).fill found = .ofList piece := by
        simp [Part.fill, hfound (p, .ofList piece) List.mem_cons_self]
      have hpath := List.eq_cons_of_mem_head? hhead
      refine ⟨piece, hpath, ?_, ?_, ?_⟩
      · simpa [hvalue, ← String.toList_eq_nil_iff] using hne
      · simpa [hvalue] using hslash piece (hpath ▸ List.mem_cons_self)
      · simp [hvalue]
    | optional => cases hall
    | defaulted hp =>
      rw [List.head?_eq_none_iff] at hhead
      exact absurd (by rw [hhead]; rfl) (hdefault p _ rfl hp)

/-- The rest of a path that a parameter takes is its value, cut at the slashes. -/
theorem Part.splitAtChar_fill {p : Parameter} {own : List (Parameter × String)}
    (h : p.TakesRest path own) (hslash : ∀ piece ∈ path, '/' ∉ piece)
    (hall : own.map Prod.fst = [p]) (hfound : ∀ q ∈ own, found.get? q.1.name = some q.2)
    (hdefault : ∀ value, p.presence = .defaulted value → joined path ≠ "") :
    (Part.parameter p).fill found ≠ "" ∧
      Text.splitAtChar '/' ((Part.parameter p).fill found).toList = path := by
  cases h with
  | rest hne =>
    have hvalue : (Part.parameter p).fill found = joined path := by
      simp [Part.fill, hfound (p, joined path) List.mem_cons_self]
    rw [hvalue]
    refine ⟨hne, splitAtChar_joined hslash ?_⟩
    rintro rfl
    exact hne rfl
  | defaulted hempty hp => exact absurd hempty (hdefault _ hp)
  | nothing => cases hall

/-- A path that is matched with a value of its own for every parameter is the template filled in
with the values. -/
theorem Takes.lowerLiterals_fillSegments
    (h : Takes (parts.map Part.segment) path taken) (hslash : ∀ piece ∈ path, '/' ∉ piece)
    (hproper : ∀ part ∈ parts, part.IsProper)
    (hlast : ∀ s ∈ (parts.map Part.segment).dropLast, s.catchAll? = none)
    (hall : taken.flatten.map Prod.fst = parts.filterMap Part.parameter?)
    (hfound : ∀ q ∈ taken.flatten, found.get? q.1.name = some q.2)
    (hdefault : ∀ i p value, parts[i]? = some (Part.parameter p) →
      p.presence = .defaulted value → joined (path.drop i) ≠ "") :
    (∀ part ∈ parts, part.fill found ≠ "") ∧
      lowerLiterals parts (fillSegments found parts) = lowerLiterals parts path := by
  induction parts generalizing path taken with
  | nil =>
    obtain ⟨rfl, -⟩ := takes_nil_iff.1 h
    exact ⟨by simp, rfl⟩
  | cons part parts ih =>
    rw [List.map_cons] at h hlast
    rw [List.forall_mem_cons] at hproper
    obtain ⟨hfirst, hlast⟩ := dropLast_catchAll_iff.1 hlast
    rw [fillSegments_cons]
    rcases hcatch : part.segment.catchAll? with _ | p
    · obtain ⟨own, rest, rfl, hown, hrest⟩ := (takes_cons_iff hcatch).1 h
      simp only [List.flatten_cons, List.forall_mem_append] at hfound
      -- The parameters that took a value are among those of the template, part by part; as they
      -- are all of them together, they are all of them in the first part and in the others.
      obtain ⟨hownAll, hrestAll⟩ : own.map Prod.fst = part.parameter?.toList ∧
          rest.flatten.map Prod.fst = parts.filterMap Part.parameter? := by
        refine append_inj_of_sublist (part.parameters_segment ▸ hown.sublist)
          (by simpa [List.flatMap_map, filterMap_parameter?] using hrest.sublist) ?_
        rw [← List.map_append, ← List.flatten_cons, hall]
        cases part <;> rfl
      obtain ⟨piece, hpath, hne, hfill, hlower⟩ := Part.lower_fill hown hslash hproper.1 hownAll
        hfound.1 fun p value hpart hp => hdefault 0 p value (by rw [hpart]; rfl) hp
      have hslashRest : ∀ piece ∈ path.tail, '/' ∉ piece :=
        fun piece h => hslash piece (List.mem_of_mem_tail h)
      obtain ⟨hneRest, hlowerRest⟩ := ih hrest hslashRest hproper.2 hlast hrestAll hfound.2
        fun i p value hi hp => by
          rw [List.drop_tail]
          exact hdefault (i + 1) p value hi hp
      refine ⟨List.forall_mem_cons.2 ⟨hne, hneRest⟩, ?_⟩
      rw [Text.splitAtChar_of_notMem hfill, hpath]
      simp only [List.singleton_append, lowerLiterals, hlower, hlowerRest]
    · obtain rfl := List.map_eq_nil_iff.1 (eq_nil_of_catchAll? hfirst hcatch)
      obtain ⟨own, rfl, hown⟩ := (takes_catchAll_iff hcatch).1 h
      obtain rfl : part = .parameter p := by
        cases part with
        | literal => cases hcatch
        | parameter p' =>
          simp only [Part.segment, Segment.catchAll?, Option.ite_none_right_eq_some,
            Option.some.injEq] at hcatch
          rw [hcatch.2]
      rw [List.flatten_singleton] at hall hfound
      obtain ⟨hne, hsplit⟩ := Part.splitAtChar_fill hown hslash hall hfound fun value hp =>
        hdefault 0 p value rfl hp
      rw [hsplit]
      exact ⟨by simpa using hne, by simp [fillSegments]⟩

end Values

/-! ## The bindings -/

section Bindings

variable {text : String} {t : Template} {parts : List Part} {values found : Bindings String}
  {taken : List (List (Parameter × String))} {path : List (List Char)}

theorem nodup_names (ht : Template.read text = .ok t)
    (hparts : partsOf text = .ok (parts.map fun part => [part])) :
    ((parts.filterMap Part.parameter?).map Parameter.name).Nodup := by
  have hnames := (wellFormed_of_read ht).nodup_name
  rwa [segments_of_read ht hparts, List.flatMap_map, ← filterMap_parameter?] at hnames

theorem flatten_given (values : Bindings String) (parts : List Part) :
    (parts.map (Part.given values)).flatten =
      (parts.filterMap Part.parameter?).map fun p => (p, (values.get? p.name).getD "") := by
  induction parts with
  | nil => rfl
  | cons part parts ih =>
    rw [List.map_cons, List.flatten_cons, ih]
    cases part <;> rfl

theorem get?_given (hnames : ((parts.filterMap Part.parameter?).map Parameter.name).Nodup)
    (hvalues : Fits values parts) (name : String) :
    (bindingsOf (parts.map (Part.given values)).flatten).get? name = values.get? name := by
  refine Option.ext fun value => ?_
  rw [bindingsOf, flatten_given, List.map_map,
    Bindings.get?_ofList_eq_some_iff (by simpa [List.map_map, Function.comp_def] using hnames)]
  simp only [List.mem_map, Function.comp_apply, Prod.mk.injEq, mem_filterMap_parameter?]
  constructor
  · rintro ⟨p, hp, rfl, rfl⟩
    obtain ⟨value, hvalue⟩ := Option.isSome_iff_exists.1 ((hvalues.bound _).2 ⟨p, hp, rfl⟩)
    rw [hvalue, Option.getD_some]
  · intro hvalue
    obtain ⟨p, hp, rfl⟩ := (hvalues.bound name).1 (Option.isSome_of_eq_some hvalue)
    exact ⟨p, hp, rfl, by rw [hvalue, Option.getD_some]⟩

/-- Parameters that all have a value have all taken one. -/
theorem map_fst_flatten (hnames : ((parts.filterMap Part.parameter?).map Parameter.name).Nodup)
    (h : Takes (parts.map Part.segment) path taken)
    (hall : ∀ p, Part.parameter p ∈ parts → ((bindingsOf taken.flatten).get? p.name).isSome) :
    taken.flatten.map Prod.fst = parts.filterMap Part.parameter? := by
  have hsublist : (taken.flatten.map Prod.fst).Sublist (parts.filterMap Part.parameter?) := by
    simpa [List.flatMap_map, filterMap_parameter?] using h.sublist
  have hpairs : ((taken.flatten.map fun q => (q.1.name, q.2)).map Prod.fst).Nodup := by
    have := hnames.sublist (hsublist.map Parameter.name)
    simpa [List.map_map, Function.comp_def] using this
  refine hsublist.eq_of_length_le ?_
  refine (hnames.of_map.subperm fun p hp => ?_).length_le
  obtain ⟨value, hvalue⟩ := Option.isSome_iff_exists.1 (hall p (mem_filterMap_parameter?.1 hp))
  rw [bindingsOf, Bindings.get?_ofList_eq_some_iff hpairs] at hvalue
  obtain ⟨q, hq, heq⟩ := List.mem_map.1 hvalue
  have hname : q.1 = p := List.inj_on_of_nodup_map hnames (hsublist.subset (List.mem_map_of_mem hq))
    hp (congrArg Prod.fst heq)
  exact hname ▸ List.mem_map_of_mem hq

end Bindings

/-- Filling in a template of literals and parameters is the inverse of matching with it. Values that
can stand in the places of the parameters are found again in the path made with them. And where a
path matches with a value for every parameter, none of them a default, the template filled in with
these values has the segments of the path, up to the case of those that stand for literals. -/
theorem match?_fill {text : String} {t : Template} {parts : List Part}
    (ht : Template.read text = .ok t) (hparts : partsOf text = .ok (parts.map fun part => [part]))
    (hquery : ∀ literal, Part.literal literal ∈ parts → '?' ∉ literal.toList) :
    (∀ values, Fits values parts → ∃ found,
      t.match? ("/" ++ fill values parts) = some found ∧
        ∀ name, found.get? name = values.get? name) ∧
    ∀ path segments found, HasSegments path segments → t.match? path = some found →
      (∀ p, Part.parameter p ∈ parts → (found.get? p.name).isSome) →
      (∀ i p value, parts[i]? = some (Part.parameter p) → p.presence = .defaulted value →
        joined (segments.drop i) ≠ "") →
      lowerLiterals parts (slashSegments (fill found parts).toList) =
        lowerLiterals parts segments := by
  have hsegments := segments_of_read ht hparts
  have hnames := nodup_names ht hparts
  have hproper : ∀ part ∈ parts, part.IsProper := fun part hpart =>
    (isProper_of_partsOf hparts [part] (List.mem_map_of_mem hpart)).2 part List.mem_cons_self
  have hlast := (wellFormed_of_read ht).catchAll_last
  rw [hsegments] at hlast
  refine ⟨fun values hvalues => ?_, fun path segments found hpath hmatch hall hdefault => ?_⟩
  · refine ⟨_, ?_, get?_given hnames hvalues⟩
    have hfits : ∀ p, Part.parameter p ∈ parts → p.Fits ((values.get? p.name).getD "") :=
      fun _ => hvalues.fits_getD
    have hfilled : HasSegments ("/" ++ fill values parts) (fillSegments values parts) := by
      refine hasSegments_fill ?_ ?_ ?_ <;> rintro (literal | p) hpart
      · exact (hproper _ hpart).1
      · exact (hfits p hpart).ne_empty
      · exact hquery literal hpart
      · exact (hfits p hpart).query
      · exact fun hlast => (hproper _ hpart).2 (List.mem_of_getLast? hlast)
      · exact (hfits p hpart).getLast?_ne
    rw [Template.match?, hasSegments_iff.1 hfilled, hsegments, matchSegments_eq_some_iff hlast]
    exact ⟨_, takes_fillSegments (fun literal h => (hproper _ h).2) hfits hlast, rfl⟩
  · rw [Template.match?, hasSegments_iff.1 hpath, hsegments,
      matchSegments_eq_some_iff hlast] at hmatch
    obtain ⟨taken, htaken, rfl⟩ := hmatch
    have htakenAll := map_fst_flatten hnames htaken hall
    have hfound : ∀ q ∈ taken.flatten, (bindingsOf taken.flatten).get? q.1.name = some q.2 := by
      intro q hq
      refine (Bindings.get?_ofList_eq_some_iff ?_).2 (List.mem_map_of_mem hq)
      rw [← htakenAll] at hnames
      simpa [List.map_map, Function.comp_def] using hnames
    obtain ⟨hne, hlower⟩ := htaken.lowerLiterals_fillSegments hpath.slash hproper hlast htakenAll
      hfound hdefault
    exact slashSegments_fill hne ▸ hlower

/-- A template with a literal, a constraint and the rest of the path. -/
def shelf : String := "/Shelf/\x7bid:int\x7d/\x7b*rest?\x7d"

def shelfParts : List Part :=
  [.literal "Shelf", .parameter ⟨"id", false, .required, [.int]⟩,
    .parameter ⟨"rest", true, .optional, []⟩]

theorem mem_shelfParts {p : Parameter} (h : Part.parameter p ∈ shelfParts) :
    p = ⟨"id", false, .required, [.int]⟩ ∨ p = ⟨"rest", true, .optional, []⟩ := by
  simpa [shelfParts] using h

theorem shelf_match?_fill :
    ∃ t found found', Template.read shelf = .ok t ∧
      t.match? "/Shelf/7/a//b" = some found ∧
      found.get? "id" = some "7" ∧ found.get? "rest" = some "a//b" ∧ found.get? "x" = none ∧
      t.match? "sHELF/-3//Q/?x=/" = some found' ∧
      lowerLiterals shelfParts (slashSegments (fill found' shelfParts).toList) =
        ["shelf".toList, "-3".toList, "".toList, "Q".toList] := by
  have hparts : partsOf shelf = .ok (shelfParts.map fun part => [part]) := by
    have hsome : (partsOf shelf).toOption = some (shelfParts.map fun part => [part]) := by
      decide +kernel
    rcases h : partsOf shelf with e | raw <;> rw [h] at hsome <;> cases hsome
    rfl
  have hpath : HasSegments "sHELF/-3//Q/?x=/"
      ["sHELF".toList, "-3".toList, "".toList, "Q".toList] :=
    hasSegments_iff.2 (by decide +kernel)
  have hmatch : ((Template.read shelf).toOption.bind fun t =>
      (t.match? "sHELF/-3//Q/?x=/").map Bindings.toList) =
        some [("rest", "/Q"), ("id", "-3")] := by decide +kernel
  have hfits : Fits (.ofList [("id", "7"), ("rest", "a//b")]) shelfParts := by
    refine ⟨fun name => ?_, fun p value hp hvalue => ?_⟩
    · by_cases hid : name = "id" <;> by_cases hrest : name = "rest" <;>
        simp [shelfParts, Bindings.ofList, Bindings.insertAll, Bindings.get?_insert, hid, hrest,
          eq_comm]
    · rcases mem_shelfParts hp with rfl | rfl <;> cases hvalue
      · exact ⟨by decide, by decide, by decide +kernel, by decide, by decide⟩
      · exact ⟨by decide, by decide, by decide +kernel, by decide, by decide⟩
  rcases ht : Template.read shelf with e | t <;> rw [ht] at hmatch
  · cases hmatch
  · obtain ⟨found', hfound', hlist⟩ := Option.map_eq_some_iff.1 hmatch
    obtain rfl : found' = ⟨[("rest", "/Q"), ("id", "-3")]⟩ := by
      rw [← hlist]
    obtain ⟨hfill, hmatched⟩ := match?_fill ht hparts (by simp [shelfParts])
    obtain ⟨found, hfound, hget⟩ := hfill _ hfits
    refine ⟨t, found, _, rfl, hfound, by rw [hget]; rfl, by rw [hget]; rfl, by rw [hget]; rfl,
      hfound', ?_⟩
    rw [hmatched _ _ _ hpath hfound' ?_ ?_]
    · decide +kernel
    · simp [shelfParts, Bindings.get?]
    · intro i p value hi hp
      rcases mem_shelfParts (List.mem_of_getElem? hi) with rfl | rfl <;> cases hp

end Url

end StubServer

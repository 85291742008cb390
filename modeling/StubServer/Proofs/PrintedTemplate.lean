import Mathlib.Data.List.Chain
import StubServer.Proofs.ConstraintText
import StubServer.Proofs.RouteTemplate

/-!
# Written templates

A template is written segment by segment, each behind a slash: braces of a literal are doubled, and
a parameter stands in braces, with the braces inside doubled. What is written is read back part by
part, and the template is accepted when its parts are where they may be
(`partsOf_eq_and_read_iff_of_writes`).
-/

namespace StubServer

namespace Url

/-! ## How a template is written -/

/-- The characters with every brace twice. -/
def doubled (cs : List Char) : List Char :=
  cs.flatMap fun c => if c = '\x7b' ∨ c = '\x7d' then [c, c] else [c]

/-- What is written behind a parameter's constraints. -/
def Presence.written : Presence → List Char
  | required => []
  | optional => ['?']
  | defaulted value => '=' :: value.toList

/-- What is written for a parameter, before its braces are doubled. -/
def Parameter.Writes (p : Parameter) (inner : List Char) : Prop :=
  ∃ constraints, List.Forall₂ Constraint.Writes p.constraints constraints ∧
    inner = (if p.catchAll then ['*'] else []) ++
      (p.name.toList ++ (constraints.flatMap (':' :: ·) ++ p.presence.written))

inductive Part.Writes : Part → List Char → Prop
  | literal {text : String} : Writes (.literal text) (doubled text.toList)
  | parameter {p : Parameter} {inner : List Char} (h : p.Writes inner) :
      Writes (.parameter p) ('\x7b' :: (doubled inner ++ ['\x7d']))

def WritesSegment (parts : List Part) (text : List Char) : Prop :=
  ∃ texts, List.Forall₂ Part.Writes parts texts ∧ text = texts.flatten

def WritesTemplate (segments : List (List Part)) (text : String) : Prop :=
  ∃ texts, List.Forall₂ WritesSegment segments texts ∧
    text.toList = '/' :: ['/'].intercalate texts

/-! ## What can be written -/

/-- A parameter whose name and default are not taken for something else. -/
structure Parameter.Printable (p : Parameter) : Prop where
  name_ne : p.name ≠ ""
  trimmed : Text.trimChars p.name.toList = p.name.toList
  plain : ∀ c ∈ p.name.toList, c ∉ [':', '=', '?', '\x7b', '\x7d']
  star : p.name.toList.head? ≠ some '*'
  value : ∀ value, p.presence = .defaulted value → value.toList.getLast? ≠ some '?'

def Part.Printable : Part → Prop
  | literal text => text ≠ "" ∧ '/' ∉ text.toList
  | parameter p => p.Printable

/-- The part may stand behind another one: two literals would be one, and a closing brace would be
taken for that of the parameter in front of it. -/
def Part.MayFollow : Part → Part → Prop
  | _, parameter _ => True
  | literal _, literal _ => False
  | parameter _, literal text => text.toList.head? ≠ some '\x7d'

structure Printable (segments : List (List Part)) : Prop where
  nonempty : ∀ parts ∈ segments, parts ≠ []
  parts : ∀ parts ∈ segments, ∀ part ∈ parts, part.Printable
  neighbours : ∀ parts ∈ segments, parts.IsChain Part.MayFollow
  last : ∀ text, segments.flatten.getLast? = some (.literal text) →
    ∀ c ∈ text.toList.getLast?, Text.isBlank c = false
  names : (namesOf segments).Nodup

/-- The rest of the path goes to a parameter that is the last segment, and parameters beside other
parts are plain. -/
structure Acceptable (segments : List (List Part)) : Prop where
  alone : ∀ parts ∈ segments, ∀ p, .parameter p ∈ parts → p.catchAll = true →
    parts = [.parameter p]
  last : ∀ parts ∈ segments.dropLast, ∀ p, .parameter p ∈ parts → p.catchAll = false
  plain : ∀ parts ∈ segments, 2 ≤ parts.length → ∀ p, .parameter p ∈ parts → p.isPlain = true

/-! ## Reading a parameter -/

theorem Presence.head?_written (presence : Presence) :
    ∀ c ∈ presence.written.head?, c = '=' ∨ c = '?' := by
  cases presence <;> rintro c ⟨⟩ <;> decide

theorem readPresence_written {p : Parameter} (h : p.Printable) :
    readPresence p.name p.presence.written = .ok p.presence := by
  cases hp : p.presence with
  | required => rfl
  | optional => rfl
  | defaulted value => simp [readPresence, Presence.written, h.value value hp]

theorem readConstraints_of_writes {ks : List Constraint} {constraints : List (List Char)}
    (h : List.Forall₂ Constraint.Writes ks constraints) (presence : Presence) :
    readConstraints (constraints.flatMap (':' :: ·) ++ presence.written) =
      .ok (ks, presence.written) := by
  obtain ⟨hclosed, hread⟩ : (∀ text ∈ constraints, openAfter 0 text = some 0) ∧
      List.Forall₂ (fun text k => readConstraint text = .ok k) constraints ks := by
    induction h with
    | nil => exact ⟨by simp, .nil⟩
    | cons hk _ ih =>
      refine ⟨List.forall_mem_cons.2 ⟨Constraint.openAfter_of_writes hk, ih.1⟩, .cons ?_ ih.2⟩
      exact mapError_eq_ok.2 (Constraint.read_of_writes hk)
  exact (readConstraints_eq_ok_iff (separate_of_closed hclosed _) presence.head?_written).2
    ⟨hread, rfl⟩

theorem Parameter.Printable.cut_name {p : Parameter} (hp : p.Printable) {tail : List Char}
    (htail : ∀ c ∈ tail.head?, endsConstraint c = true) :
    (p.name.toList ++ tail).takeWhile (!endsConstraint ·) = p.name.toList ∧
      (p.name.toList ++ tail).dropWhile (!endsConstraint ·) = tail := by
  refine Text.takeWhile_dropWhile_iff.2 ⟨rfl, fun c hc => ?_, fun c hc => by simp [htail c hc]⟩
  have hne := hp.plain c hc
  simp only [List.mem_cons, not_or] at hne
  simp [endsConstraint, hne]

theorem Parameter.Printable.exists_cons {p : Parameter} (hp : p.Printable) :
    ∃ c cs, p.name.toList = c :: cs ∧ c ≠ '*' ∧ c ≠ '\x7b' := by
  obtain ⟨c, cs, hcs⟩ : ∃ c cs, p.name.toList = c :: cs :=
    List.exists_cons_of_ne_nil fun hnil => hp.name_ne (String.toList_eq_nil_iff.1 hnil)
  have hplain := hp.plain c (hcs ▸ List.mem_cons_self)
  simp only [List.mem_cons, not_or] at hplain
  exact ⟨c, cs, hcs, fun heq => hp.star (by rw [hcs, heq, List.head?_cons]), hplain.2.2.2.1⟩

/-- The name ends where the constraints, the mark or the default begin. -/
theorem Parameter.Printable.read_name {p : Parameter} (hp : p.Printable) {tail : List Char}
    (htail : ∀ c ∈ tail.head?, endsConstraint c = true) (template : String) :
    Parameter.read template ((if p.catchAll then ['*'] else []) ++ (p.name.toList ++ tail)) = do
      let (constraints, rest) ← readConstraints tail
      let presence ← readPresence p.name rest
      return { p with presence, constraints } := by
  obtain ⟨htake, hdrop⟩ := hp.cut_name htail
  have htrim := hp.trimmed
  obtain ⟨c, cs, hcs, hc, -⟩ := hp.exists_cons
  have hname : String.ofList (c :: cs) = p.name := by
    rw [← hcs, String.ofList_toList]
  rw [hcs] at htake hdrop htrim
  rw [List.cons_append] at htake hdrop
  cases hcatchAll : p.catchAll <;>
    simp [Parameter.read, hcs, hc, htake, hdrop, htrim, hname, hp.name_ne]

theorem Parameter.read_of_writes {p : Parameter} {inner : List Char} (hp : p.Printable)
    (h : p.Writes inner) (template : String) : Parameter.read template inner = .ok p := by
  obtain ⟨constraints, hconstraints, rfl⟩ := h
  rw [hp.read_name (endsConstraint_of_head? p.presence.head?_written constraints),
    readConstraints_of_writes hconstraints]
  simp only [bind, Except.bind, readPresence_written hp]
  rfl

/-! ## Reading braces -/

theorem doubled_cons (c : Char) (cs : List Char) :
    doubled (c :: cs) = (if c = '\x7b' ∨ c = '\x7d' then [c, c] else [c]) ++ doubled cs := by
  rfl

theorem scan_doubled_inner (cs rest inner : List Char) :
    scan (some inner) (doubled cs ++ rest) = scan (some (cs.reverse ++ inner)) rest := by
  induction cs generalizing inner with
  | nil => rfl
  | cons c cs ih =>
    rw [doubled_cons, List.append_assoc]
    by_cases hopen : c = '\x7b'
    · simp [hopen, scan, ih]
    · by_cases hclose : c = '\x7d'
      · simp [hclose, scan, ih]
      · simp [hopen, hclose, scan, ih]

theorem scan_doubled {cs : List Char} (hcs : '/' ∉ cs) (rest : List Char) :
    scan none (doubled cs ++ rest) = cs.map .char ++ scan none rest := by
  induction cs with
  | nil => rfl
  | cons c cs ih =>
    simp only [List.mem_cons, not_or] at hcs
    rw [doubled_cons, List.append_assoc]
    by_cases hopen : c = '\x7b'
    · simp [hopen, scan, ih hcs.2]
    · by_cases hclose : c = '\x7d'
      · simp [hclose, scan, ih hcs.2]
      · simp [hopen, hclose, Ne.symm hcs.1, scan, ih hcs.2]

theorem scan_braces {inner rest : List Char} (hinner : inner.head? ≠ some '\x7b')
    (hrest : rest.head? ≠ some '\x7d') :
    scan none ('\x7b' :: (doubled inner ++ '\x7d' :: rest)) = .braces inner :: scan none rest := by
  have hopen : scan none ('\x7b' :: (doubled inner ++ '\x7d' :: rest)) =
      scan (some []) (doubled inner ++ '\x7d' :: rest) := by
    rcases inner with _ | ⟨c, inner⟩
    · simp [doubled, scan]
    · have hc : c ≠ '\x7b' := by simpa using hinner
      rw [doubled_cons]
      by_cases hclose : c = '\x7d'
      · simp [hclose, scan]
      · simp [hc, hclose, scan]
  have hclose : scan (some inner.reverse) ('\x7d' :: rest) = .braces inner :: scan none rest := by
    rcases rest with _ | ⟨c, rest⟩
    · simp [scan]
    · have hc : c ≠ '\x7d' := by simpa using hrest
      simp [scan, hc]
  rw [hopen, scan_doubled_inner, List.append_nil, hclose]

/-! ## Reading a segment -/

theorem segmentParts_chars (template : String) (literal cs : List Char) (parts : List Part)
    (pieces : List Piece) :
    segmentParts template literal parts (cs.map .char ++ pieces) =
      segmentParts template (cs.reverse ++ literal) parts pieces := by
  induction cs generalizing literal with
  | nil => rfl
  | cons c cs ih => simp [segmentParts, ih]

/-- What is written for a part does not begin with a closing brace, unless it is a literal that
does. -/
theorem head?_of_writes {parts : List Part} {texts : List (List Char)}
    (h : List.Forall₂ Part.Writes parts texts) (hparts : ∀ part ∈ parts, part.Printable)
    {rest : List Char} (hrest : rest.head? ≠ some '\x7d') {p : Parameter}
    (hfirst : ∀ part ∈ parts.head?, (Part.parameter p).MayFollow part) :
    (texts.flatten ++ rest).head? ≠ some '\x7d' := by
  cases h with
  | nil => exact hrest
  | @cons part text parts texts hpart hrest =>
    cases hpart with
    | @literal text =>
      have hfollow : text.toList.head? ≠ some '\x7d' := hfirst _ rfl
      obtain ⟨c, cs, hcs⟩ : ∃ c cs, text.toList = c :: cs :=
        List.exists_cons_of_ne_nil fun hnil =>
          (hparts _ List.mem_cons_self).1 (String.toList_eq_nil_iff.1 hnil)
      have hc : c ≠ '\x7d' := by simpa [hcs] using hfollow
      rw [hcs, doubled_cons]
      split <;> simpa using hc
    | parameter h => simp

theorem Parameter.Writes.head? {p : Parameter} {inner : List Char} (hp : p.Printable)
    (h : p.Writes inner) : inner.head? ≠ some '\x7b' := by
  obtain ⟨constraints, -, rfl⟩ := h
  obtain ⟨c, cs, hcs, -, hc⟩ := hp.exists_cons
  rw [hcs]
  split <;> simp [hc]

/-- The parts of a segment are read one after another. A literal is kept open until it is known
that it goes no further, so what is read is told up to `flush`. -/
theorem segmentParts_of_writes (template : String) {parts : List Part} {texts : List (List Char)}
    (h : List.Forall₂ Part.Writes parts texts) (hparts : ∀ part ∈ parts, part.Printable)
    (hchain : parts.IsChain Part.MayFollow) {rest : List Char} (hrest : rest.head? ≠ some '\x7d')
    (literal : List Char) (before : List Part)
    (hliteral : literal ≠ [] → ∀ text, parts.head? ≠ some (.literal text)) :
    ∃ literal' before', segmentParts template literal before (scan none (texts.flatten ++ rest)) =
        segmentParts template literal' before' (scan none rest) ∧
      flush literal' before' = parts.reverse ++ flush literal before := by
  induction h generalizing literal before with
  | nil => exact ⟨literal, before, rfl, rfl⟩
  | @cons part own parts texts hpart hforall ih =>
    rw [List.isChain_cons] at hchain
    rw [List.forall_mem_cons] at hparts
    cases hpart with
    | @literal text =>
      obtain rfl : literal = [] := by
        by_contra hne
        exact hliteral hne text rfl
      obtain ⟨literal', before', hread, hflush⟩ := ih hparts.2 hchain.2 text.toList.reverse before
        fun _ other hother => hchain.1 _ hother
      refine ⟨literal', before', ?_, ?_⟩
      · rw [List.flatten_cons, List.append_assoc, scan_doubled hparts.1.2, segmentParts_chars,
          List.append_nil, hread]
      · have hne : text ≠ "" := hparts.1.1
        rw [hflush]
        simp [flush, hne]
    | @parameter p inner hinner =>
      obtain ⟨literal', before', hread, hflush⟩ := ih hparts.2 hchain.2 []
        (.parameter p :: flush literal before) (by simp)
      refine ⟨literal', before', ?_, ?_⟩
      · rw [List.flatten_cons, List.append_assoc, List.cons_append, List.append_assoc,
          List.singleton_append, scan_braces (hinner.head? hparts.1)
            (head?_of_writes hforall hparts.2 hrest hchain.1), segmentParts,
          Parameter.read_of_writes hparts.1 hinner]
        exact hread
      · rw [hflush]
        simp [flush]

theorem addSegment_reverse {parts : List Part} (h : parts ≠ []) (segments : List (List Part)) :
    addSegment parts.reverse segments = parts :: segments := by
  simp [addSegment, h]

theorem segmentParts_intercalate {template : String} {segments : List (List Part)}
    {texts : List (List Char)} (h : List.Forall₂ WritesSegment segments texts)
    (hnonempty : ∀ parts ∈ segments, parts ≠ [])
    (hparts : ∀ parts ∈ segments, ∀ part ∈ parts, part.Printable)
    (hchain : ∀ parts ∈ segments, parts.IsChain Part.MayFollow) :
    segmentParts template [] [] (scan none (['/'].intercalate texts)) = .ok segments := by
  induction h with
  | nil => rfl
  | @cons parts text segments texts hsegment hforall ih =>
    rw [List.forall_mem_cons] at hnonempty hparts hchain
    obtain ⟨own, hown, rfl⟩ := hsegment
    have hread (rest : List Char) (hrest : rest.head? ≠ some '\x7d') :=
      segmentParts_of_writes template hown hparts.1 hchain.1 hrest [] [] (by simp)
    have hbehind := ih hnonempty.2 hparts.2 hchain.2
    cases hforall with
    | nil =>
      obtain ⟨literal, before, heq, hflush⟩ := hread [] (by simp)
      rw [List.append_nil] at heq
      rw [List.intercalate_singleton, heq, scan, segmentParts, hflush]
      simp [flush, addSegment_reverse hnonempty.1]
    | @cons _ text' _ texts' =>
      obtain ⟨literal, before, heq, hflush⟩ :=
        hread ('/' :: ['/'].intercalate (text' :: texts')) (by simp)
      rw [List.intercalate_cons_of_ne_nil (List.cons_ne_nil _ _), List.append_assoc,
        List.singleton_append, heq, scan, segmentParts, hbehind, hflush]
      simp [flush, addSegment_reverse hnonempty.1, bind, Except.bind, pure, Except.pure]

/-! ## Reading a template -/

/-- The characters end with one that is neither a blank nor a slash. -/
def Closes (cs : List Char) : Prop :=
  ∃ start c, cs = start ++ [c] ∧ Text.isBlank c = false ∧ c ≠ '/'

theorem Closes.append {cs : List Char} (h : Closes cs) (before : List Char) :
    Closes (before ++ cs) := by
  obtain ⟨start, c, rfl, hc⟩ := h
  exact ⟨before ++ start, c, (List.append_assoc ..).symm, hc⟩

theorem Part.Writes.closes {part : Part} {text : List Char} (h : part.Writes text)
    (hpart : part.Printable) (hlast : ∀ text, part = .literal text →
      ∀ c ∈ text.toList.getLast?, Text.isBlank c = false) : Closes text := by
  cases h with
  | @literal text =>
    obtain ⟨start, c, hcs⟩ : ∃ start c, text.toList = start ++ [c] :=
      (List.eq_nil_or_concat' _).resolve_left fun hnil =>
        hpart.1 (String.toList_eq_nil_iff.1 hnil)
    have hblank := hlast text rfl c (by simp [hcs])
    have hslash : c ≠ '/' := by
      rintro rfl
      exact hpart.2 (by simp [hcs])
    rw [hcs, doubled, List.flatMap_append]
    refine Closes.append ?_ _
    by_cases hc : c = '\x7b' ∨ c = '\x7d'
    · exact ⟨[c], c, by simp [hc], hblank, hslash⟩
    · exact ⟨[], c, by simp [hc], hblank, hslash⟩
  | @parameter p inner h =>
    exact Closes.append ⟨doubled inner, '\x7d', rfl, by decide, by decide⟩ ['\x7b']

theorem WritesSegment.closes {parts : List Part} {text : List Char} (h : WritesSegment parts text)
    (hne : parts ≠ []) (hparts : ∀ part ∈ parts, part.Printable)
    (hlast : ∀ text, parts.getLast? = some (.literal text) →
      ∀ c ∈ text.toList.getLast?, Text.isBlank c = false) : Closes text := by
  obtain ⟨texts, h, rfl⟩ := h
  induction h with
  | nil => exact absurd rfl hne
  | @cons part text parts texts hpart hforall ih =>
    rw [List.forall_mem_cons] at hparts
    rw [List.flatten_cons]
    by_cases hnil : parts = []
    · subst hnil
      cases hforall
      simpa using hpart.closes hparts.1 fun text htext => hlast text (by simp [htext])
    · refine (ih hnil hparts.2 fun text htext => hlast text ?_).append _
      rwa [List.getLast?_cons_of_ne_nil hnil]

theorem closes_intercalate {segments : List (List Part)} {texts : List (List Char)}
    (h : List.Forall₂ WritesSegment segments texts) (hne : segments ≠ [])
    (hnonempty : ∀ parts ∈ segments, parts ≠ [])
    (hparts : ∀ parts ∈ segments, ∀ part ∈ parts, part.Printable)
    (hlast : ∀ text, segments.flatten.getLast? = some (.literal text) →
      ∀ c ∈ text.toList.getLast?, Text.isBlank c = false) :
    Closes (['/'].intercalate texts) := by
  induction h with
  | nil => exact absurd rfl hne
  | @cons parts text segments texts hsegment hforall ih =>
    rw [List.forall_mem_cons] at hnonempty hparts
    by_cases hnil : segments = []
    · subst hnil
      cases hforall
      rw [List.intercalate_singleton]
      exact hsegment.closes hnonempty.1 hparts.1 (by simpa using hlast)
    · have htexts : texts ≠ [] := by
        rintro rfl
        exact hnil (List.forall₂_nil_right_iff.1 hforall)
      rw [List.intercalate_cons_of_ne_nil htexts]
      have hflatten : segments.flatten ≠ [] := by
        obtain ⟨own, behind, rfl⟩ := List.exists_cons_of_ne_nil hnil
        simpa using fun hown => absurd hown (hnonempty.2 own List.mem_cons_self)
      refine (ih hnil hnonempty.2 hparts.2 fun text htext => hlast text ?_).append _
      rwa [List.flatten_cons, List.getLast?_append_of_ne_nil _ hflatten]

theorem body_of_closes {text : String} {cs : List Char} (htext : text.toList = '/' :: cs)
    (hcs : cs = [] ∨ Closes cs) : body text = cs := by
  have htrim : Text.trimChars text.toList = '/' :: cs := by
    rw [htext]
    refine Text.trimChars_of_ends (by rintro c ⟨⟩; decide) ?_
    rcases hcs with rfl | ⟨start, c, rfl, hblank, -⟩
    · rintro c ⟨⟩
      decide
    · intro d hd
      rw [← List.cons_append, List.getLast?_concat, Option.mem_some] at hd
      exact hd ▸ hblank
  have hbefore : Text.before? ['/'] cs = none := by
    rw [Option.eq_none_iff_forall_ne_some]
    intro rest hrest
    rw [Text.before?_eq_some_iff] at hrest
    rcases hcs with rfl | ⟨start, c, rfl, -, hslash⟩
    · simp at hrest
    · exact hslash (List.singleton_inj.1 (List.append_inj' hrest rfl).2)
  rw [body, htrim]
  simp [hbefore]

theorem partsOf_of_writes {segments : List (List Part)} {text : String} (h : Printable segments)
    (htext : WritesTemplate segments text) : partsOf text = .ok segments := by
  obtain ⟨texts, htexts, htext⟩ := htext
  have hbody : body text = ['/'].intercalate texts := by
    refine body_of_closes htext ?_
    by_cases hnil : segments = []
    · subst hnil
      cases htexts
      exact .inl rfl
    · exact .inr (closes_intercalate htexts hnil h.nonempty h.parts h.last)
  rw [partsOf, hbody, segmentParts_intercalate htexts h.nonempty h.parts h.neighbours]

/-! ## Accepting a template -/

theorem exists_ofParts_iff {parts : List Part} (hne : parts ≠ []) :
    (∃ s, Segment.ofParts parts = .ok s) ↔
      (2 ≤ parts.length → ∀ p, .parameter p ∈ parts → p.isPlain = true) := by
  rcases parts with _ | ⟨part, _ | ⟨part', parts⟩⟩
  · exact absurd rfl hne
  · cases part <;> simp [Segment.ofParts]
  · have hlength : 2 ≤ (part :: part' :: parts).length := by simp
    simp only [Segment.ofParts_eq_ok_iff hlength, exists_and_left, exists_eq, and_true, hlength,
      true_implies]

theorem exists_ofParts_and_iff {parts : List Part} (hne : parts ≠ []) :
    (∃ s, Segment.ofParts parts = .ok s ∧ s.catchAll? = none) ↔
      (2 ≤ parts.length → ∀ p, .parameter p ∈ parts → p.isPlain = true) ∧
        ∀ p, .parameter p ∈ parts → p.catchAll = false := by
  rcases parts with _ | ⟨part, _ | ⟨part', parts⟩⟩
  · exact absurd rfl hne
  · cases part <;> simp [Segment.ofParts, Segment.catchAll?]
  · have hlength : 2 ≤ (part :: part' :: parts).length := by simp
    have hplain : ∀ p : Parameter, p.isPlain = true → p.catchAll = false := by
      intro p hp
      simp only [Parameter.isPlain, Bool.and_eq_true, Bool.not_eq_true'] at hp
      exact hp.1
    simp only [Segment.ofParts_eq_ok_iff hlength, hlength, true_implies]
    constructor
    · rintro ⟨s, ⟨hall, rfl⟩, -⟩
      exact ⟨hall, fun p hp => hplain p (hall p hp)⟩
    · rintro ⟨hall, -⟩
      exact ⟨_, ⟨hall, rfl⟩, rfl⟩

/-- Related elements, all but the last with a property, are found one by one. -/
theorem exists_forall₂_iff {α β : Type} {r : α → β → Prop} {property : β → Prop} {xs : List α} :
    (∃ ys, List.Forall₂ r xs ys ∧ ∀ y ∈ ys.dropLast, property y) ↔
      (∀ x ∈ xs, ∃ y, r x y) ∧ ∀ x ∈ xs.dropLast, ∃ y, r x y ∧ property y := by
  induction xs with
  | nil => simp
  | cons x xs ih =>
    rcases xs with _ | ⟨x', xs⟩
    · simp [List.forall₂_cons_left_iff]
    · rw [List.dropLast_cons_cons]
      constructor
      · rintro ⟨ys, hys, hlast⟩
        obtain ⟨y, ys, hy, hrest, rfl⟩ := List.forall₂_cons_left_iff.1 hys
        have hne : ys ≠ [] := by
          rintro rfl
          exact absurd (List.forall₂_nil_right_iff.1 hrest) (List.cons_ne_nil _ _)
        rw [List.dropLast_cons_of_ne_nil hne, List.forall_mem_cons] at hlast
        obtain ⟨hall, hbut⟩ := ih.1 ⟨ys, hrest, hlast.2⟩
        exact ⟨List.forall_mem_cons.2 ⟨⟨y, hy⟩, hall⟩,
          List.forall_mem_cons.2 ⟨⟨y, hy, hlast.1⟩, hbut⟩⟩
      · rintro ⟨hall, hbut⟩
        rw [List.forall_mem_cons] at hbut
        obtain ⟨⟨y, hy, hproperty⟩, hbut⟩ := hbut
        obtain ⟨ys, hys, hlast⟩ := ih.2 ⟨(List.forall_mem_cons.1 hall).2, hbut⟩
        refine ⟨y :: ys, .cons hy hys, ?_⟩
        cases hys
        simpa [hproperty] using hlast

theorem exists_read_iff {segments : List (List Part)} {text : String} (h : Printable segments)
    (htext : WritesTemplate segments text) :
    (∃ t, Template.read text = .ok t) ↔ Acceptable segments := by
  have hbuild : (∃ t, Template.read text = .ok t) ↔
      ∃ built, List.Forall₂ (fun parts s => Segment.ofParts parts = .ok s) segments built ∧
        ∀ s ∈ built.dropLast, s.catchAll? = none := by
    simp only [read_eq_ok_iff, partsOf_of_writes h htext, Except.ok.injEq, buildSegments_eq_ok_iff]
    constructor
    · rintro ⟨_, _, built, rfl, hbuilt, -⟩
      exact ⟨built, hbuilt.1, hbuilt.2.2.2⟩
    · rintro ⟨built, hforall, hlast⟩
      exact ⟨_, _, built, rfl, ⟨hforall, h.names, by simp, hlast⟩, rfl⟩
  rw [hbuild, exists_forall₂_iff]
  have hdrop : ∀ parts ∈ segments.dropLast, parts ≠ [] :=
    fun parts hparts => h.nonempty parts (List.dropLast_subset _ hparts)
  constructor
  · rintro ⟨hall, hlast⟩
    have hplain : ∀ parts ∈ segments, 2 ≤ parts.length → ∀ p, .parameter p ∈ parts →
        p.isPlain = true :=
      fun parts hparts => (exists_ofParts_iff (h.nonempty parts hparts)).1 (hall parts hparts)
    refine ⟨?_, fun parts hparts =>
      ((exists_ofParts_and_iff (hdrop parts hparts)).1 (hlast parts hparts)).2, hplain⟩
    intro parts hparts p hp hcatchAll
    rcases parts with _ | ⟨part, _ | ⟨part', parts⟩⟩
    · cases hp
    · rw [List.mem_singleton.1 hp]
    · have := hplain _ hparts (by simp) p hp
      simp [Parameter.isPlain, hcatchAll] at this
  · intro hacceptable
    exact ⟨fun parts hparts => (exists_ofParts_iff (h.nonempty parts hparts)).2
        (hacceptable.plain parts hparts),
      fun parts hparts => (exists_ofParts_and_iff (hdrop parts hparts)).2
        ⟨hacceptable.plain parts (List.dropLast_subset _ hparts), hacceptable.last parts hparts⟩⟩

/-- What is written for a template is read back part by part, and it is accepted exactly when the
parts are where they may be. -/
theorem partsOf_eq_and_read_iff_of_writes {segments : List (List Part)} {text : String}
    (h : Printable segments) (htext : WritesTemplate segments text) :
    partsOf text = .ok segments ∧ ((∃ t, Template.read text = .ok t) ↔ Acceptable segments) :=
  ⟨partsOf_of_writes h htext, exists_read_iff h htext⟩

/-- Braces in a literal and in a default, a colon and a slash in a pattern, and the rest of the
path. -/
def releaseParts (r : Pattern.Regex) : List (List Part) := [
  [.literal "a\x7d\x7b", .parameter ⟨"id", false, .required, [.regex r, .range (-5) 7]⟩,
    .literal "-", .parameter ⟨"n", false, .required, [.length 3 3]⟩],
  [.parameter ⟨"rest", true, .defaulted "a\x7d/b:c=", [.minLength 2]⟩]]

def releaseText : String :=
  "/a\x7d\x7d\x7b\x7b\x7bid:regex((x|:/)):range(-5,7)\x7d-\x7bn:length(3)\x7d" ++
    "/\x7b*rest:minlength(2)=a\x7d\x7d/b:c=\x7d"

theorem printable_releaseParts (r : Pattern.Regex) : Printable (releaseParts r) where
  nonempty := by simp [releaseParts]
  parts := by
    have hid : (⟨"id", false, .required, [.regex r, .range (-5) 7]⟩ : Parameter).Printable :=
      ⟨by simp, by simp only []; decide, by simp, by simp, nofun⟩
    have hn : (⟨"n", false, .required, [.length 3 3]⟩ : Parameter).Printable :=
      ⟨by simp, by decide, by simp, by simp, nofun⟩
    have hrest : (⟨"rest", true, .defaulted "a\x7d/b:c=", [.minLength 2]⟩ : Parameter).Printable :=
      ⟨by simp, by decide, by simp, by simp, by rintro _ ⟨⟩; simp⟩
    simp [releaseParts, Part.Printable, hid, hn, hrest]
  neighbours := by simp [releaseParts, Part.MayFollow]
  last := by simp [releaseParts]
  names := by
    change (["id", "n", "rest"].map Text.lower).Nodup
    decide

theorem writes_releaseText {r : Pattern.Regex}
    (hr : Pattern.Regex.read? "(x|:/)" true = some r) :
    WritesTemplate (releaseParts r) releaseText := by
  have hid : Parameter.Writes ⟨"id", false, .required, [.regex r, .range (-5) 7]⟩
      "id:regex((x|:/)):range(-5,7)".toList := by
    refine ⟨[_, _], .cons (.call (.regex hr (by decide)))
      (.cons (.call (.range (by decide) (by decide))) .nil), ?_⟩
    simp only [Presence.written, Bool.false_eq_true, reduceIte]
    decide
  have hn : Parameter.Writes ⟨"n", false, .required, [.length 3 3]⟩ "n:length(3)".toList :=
    ⟨[_], .cons (.call (.exactLength (by decide))) .nil, by decide⟩
  have hrest : Parameter.Writes ⟨"rest", true, .defaulted "a\x7d/b:c=", [.minLength 2]⟩
      "*rest:minlength(2)=a\x7d/b:c=".toList :=
    ⟨[_], .cons (.call (.minLength (by decide))) .nil, by decide⟩
  refine ⟨[_, _], .cons ⟨[_, _, _, _], .cons .literal (.cons (.parameter hid)
    (.cons .literal (.cons (.parameter hn) .nil))), rfl⟩
    (.cons ⟨[_], .cons (.parameter hrest) .nil, rfl⟩ .nil), ?_⟩
  decide

theorem release_reads_back : ∃ r, Pattern.Regex.read? "(x|:/)" true = some r ∧
    Printable (releaseParts r) ∧ WritesTemplate (releaseParts r) releaseText ∧
      partsOf releaseText = .ok (releaseParts r) ∧ ∃ t, Template.read releaseText = .ok t := by
  obtain ⟨r, hr⟩ : ∃ r, Pattern.Regex.read? "(x|:/)" true = some r :=
    Option.isSome_iff_exists.1 (by decide)
  obtain ⟨hparts, haccepted⟩ :=
    partsOf_eq_and_read_iff_of_writes (printable_releaseParts r) (writes_releaseText hr)
  refine ⟨r, hr, printable_releaseParts r, writes_releaseText hr, hparts, haccepted.2 ?_⟩
  constructor <;> simp [releaseParts, Parameter.isPlain]

end Url

end StubServer

import StubServer.Proofs.Spelling

/-!
# Where a template cannot be read

A template that cannot be read can be read up to the braces of an expression, and of the expression
up to a place where no token goes on. What stands there decides the error, and the error points at
this place or, where only the end of the expression is missing, at its braces
(`tokenize_eq_error_iff`).
-/

namespace StubServer

namespace Template

/-! ## What stands at the place of an error -/

/-- Tokens of an expression, and characters that spell them up to `rest`, blanks in front of it
included. -/
inductive ReadsTo (rest : List Char) : List Token → List Char → Prop
  | done {gap : List Char} (hgap : ∀ c ∈ gap, Text.isBlank c = true)
      (hrest : ∀ c ∈ rest.head?, Text.isBlank c = false) : ReadsTo rest [] (gap ++ rest)
  | inner {gap cs : List Char} {t : Token} {ts : List Token}
      (hgap : ∀ c ∈ gap, Text.isBlank c = true) (ht : t.IsInner)
      (hcs : ∀ c ∈ cs.head?, t.EndsBefore c) (hts : ReadsTo rest ts cs) :
      ReadsTo rest (t :: ts) (gap ++ t.spelling ++ cs)

/-- The longest number with which the characters begin. -/
def IsLongestNumber (digits cs : List Char) : Prop :=
  IsNumber digits ∧ digits <+: cs ∧ ∀ more, IsNumber more → more <+: cs → more <+: digits

/-- No token that stands in an expression or closes it begins so. -/
def StartsNoToken (cs : List Char) : Prop :=
  ¬ ['\x7d', '\x7d'] <+: cs ∧ ∀ t : Token, t.IsInner → t.spelling.head? ≠ cs.head?

/-- What is left of an expression where it cannot be read on, and the error that it causes: the
expression begins at `braces`, and what is left of it at `place`. -/
inductive Causes {α : Type} (braces place : α) : List Char → LexError α → Prop
  | nothing : Causes braces place [] (.unterminatedExpression braces)
  | openString {cs : List Char} (hquote : '\'' ∉ cs) (hclose : ¬ ['\x7d', '\x7d'] <:+: cs) :
      Causes braces place ('\'' :: cs) (.unterminatedExpression braces)
  | string {cs : List Char} (hquote : '\'' ∉ cs) (hclose : ['\x7d', '\x7d'] <:+: cs) :
      Causes braces place ('\'' :: cs) (.unterminatedString place)
  | variableName {cs : List Char}
      (hcs : ∀ c ∈ cs.head?, Text.isBlank c = true ∨ c ∈ ['\x7d', '(', ')', '\'']) :
      Causes braces place ('@' :: cs) (.emptyVariableName place)
  | blockName {sign : Char} {cs : List Char} (hsign : sign ∈ ['#', '/'])
      (hcs : ∀ c ∈ cs.head?, Text.isBlank c = true ∨ c ∈ ['\x7d', '(', ')', '\'']) :
      Causes braces place (sign :: cs) (.emptyBlockName place)
  | number {digits cs : List Char} {c : Char} (hdigits : IsLongestNumber digits (digits ++ c :: cs))
      (hc : isIdentChar c = true ∨ c = '.') :
      Causes braces place (digits ++ c :: cs) (.invalidNumber place)
  | character {c : Char} {cs : List Char} (hcs : StartsNoToken (c :: cs)) :
      Causes braces place (c :: cs) (.unexpectedCharacter c place)

section Places

variable {α β : Type} {braces place : α} {rest : List Char}

theorem causes_map_iff {f : α → β} {e : LexError β} :
    Causes (f braces) (f place) rest e ↔ ∃ e', Causes braces place rest e' ∧ e'.map f = e := by
  constructor
  · intro h
    cases h with
    | nothing => exact ⟨_, .nothing, rfl⟩
    | openString hquote hclose => exact ⟨_, .openString hquote hclose, rfl⟩
    | string hquote hclose => exact ⟨_, .string hquote hclose, rfl⟩
    | variableName hcs => exact ⟨_, .variableName hcs, rfl⟩
    | blockName hsign hcs => exact ⟨_, .blockName hsign hcs, rfl⟩
    | number hdigits hc => exact ⟨_, .number hdigits hc, rfl⟩
    | character hcs => exact ⟨_, .character hcs, rfl⟩
  · rintro ⟨e', h, rfl⟩
    cases h with
    | nothing => exact .nothing
    | openString hquote hclose => exact .openString hquote hclose
    | string hquote hclose => exact .string hquote hclose
    | variableName hcs => exact .variableName hcs
    | blockName hsign hcs => exact .blockName hsign hcs
    | number hdigits hc => exact .number hdigits hc
    | character hcs => exact .character hcs

/-- An error points at the braces or at a place where something is left. -/
theorem Causes.position {e : LexError α} (h : Causes braces place rest e) :
    e.position = braces ∨ e.position = place ∧ rest ≠ [] := by
  cases h with
  | nothing | openString => exact .inl rfl
  | string | variableName | blockName | character => exact .inr ⟨rfl, List.cons_ne_nil _ _⟩
  | number => exact .inr ⟨rfl, by simp⟩

end Places

/-! ## The errors of single tokens -/

section Tokens

variable {start quote cs : List Char} {fault : LexFault}

theorem closesLater_iff : closesLater cs = true ↔ ['\x7d', '\x7d'] <:+: cs :=
  Text.occursIn_iff

theorem stringToken_eq_error_iff :
    stringToken start quote cs = .error fault ↔ '\'' ∉ cs ∧
      (['\x7d', '\x7d'] <:+: cs ∧ fault = .unterminatedString quote ∨
        ¬ ['\x7d', '\x7d'] <:+: cs ∧ fault = .unterminatedExpression start) := by
  rw [stringToken, ← Text.cutAt?_eq_none_iff, ← closesLater_iff]
  cases Text.cutAt? '\'' cs with
  | some => simp
  | none => by_cases h : closesLater cs = true <;> simp [h, eq_comm]

theorem nameToken_eq_error_iff {kind : TokenKind} {ifEmpty : LexFault} :
    nameToken kind ifEmpty cs = .error fault ↔ fault = ifEmpty ∧
      ∀ c ∈ cs.head?, Text.isBlank c = true ∨ c ∈ ['\x7d', '(', ')', '\''] := by
  have hempty : (cs.takeWhile isNameChar).isEmpty = true ↔
      ∀ c ∈ cs.head?, Text.isBlank c = true ∨ c ∈ ['\x7d', '(', ')', '\''] := by
    simp only [← isNameChar_eq_false_iff]
    cases cs with
    | nil => simp
    | cons c cs => cases hc : isNameChar c <;> simp [hc]
  rw [nameToken, ← hempty]
  by_cases h : (cs.takeWhile isNameChar).isEmpty = true <;> simp [h, eq_comm]

/-- Every number with which the characters begin goes into the run that is read. -/
theorem prefix_numberRun {more : List Char} (hmore : IsNumber more) (h : more <+: cs) :
    more <+: (numberRun cs).1 := by
  obtain ⟨rest, rfl⟩ := h
  obtain ⟨whole, -, hwhole, rfl | ⟨fraction, hne, hfraction, rfl⟩⟩ := hmore
  · have hrun : more <+: (more ++ rest).takeWhile Text.isDigit := by
      rw [List.takeWhile_append_of_pos hwhole]
      exact List.prefix_append _ _
    unfold numberRun
    split
    · split
      · exact hrun.trans (List.prefix_append _ _)
      · exact hrun
    · exact hrun
  · obtain ⟨d, fraction, rfl⟩ := List.exists_cons_of_ne_nil hne
    have hpoint : ∀ c ∈ ('.' :: d :: fraction ++ rest).head?, Text.isDigit c = false := by
      simp [show Text.isDigit '.' = false by decide]
    obtain ⟨htake, hdrop⟩ := Text.takeWhile_dropWhile_iff.2
      ⟨List.append_assoc whole _ _, hwhole, hpoint⟩
    unfold numberRun
    simp only [htake, hdrop, List.cons_append, hfraction d List.mem_cons_self, if_true]
    rw [← List.cons_append, List.takeWhile_append_of_pos hfraction]
    exact ⟨rest.takeWhile Text.isDigit, by simp⟩

theorem isLongestNumber_iff {digits : List Char} (hcs : ∃ c ∈ cs.head?, Text.isDigit c = true) :
    IsLongestNumber digits cs ↔ (numberRun cs).1 = digits := by
  obtain ⟨c, hc, hdigit⟩ := hcs
  obtain ⟨cs, rfl⟩ := List.head?_eq_some_iff.1 hc
  rcases hrun : numberRun (c :: cs) with ⟨run, rest⟩
  obtain ⟨hnumber, happ⟩ := numberRun_spec hdigit hrun
  have hlongest : ∀ more, IsNumber more → more <+: c :: cs → more <+: run := by
    intro more hmore h
    simpa [hrun] using prefix_numberRun hmore h
  constructor
  · rintro ⟨hdigits, hprefix, hmost⟩
    have hlength := (hlongest digits hdigits hprefix).length_le
    exact (hmost run hnumber ⟨rest, happ.symm⟩).eq_of_length_le hlength
  · rintro rfl
    exact ⟨hnumber, ⟨rest, happ.symm⟩, hlongest⟩

theorem numberToken_eq_error_iff (hcs : ∃ c ∈ cs.head?, Text.isDigit c = true) :
    numberToken cs = .error fault ↔ fault = .invalidNumber cs ∧
      ∃ digits c rest, cs = digits ++ c :: rest ∧ IsLongestNumber digits cs ∧
        (isIdentChar c = true ∨ c = '.') := by
  simp only [isLongestNumber_iff hcs]
  obtain ⟨c, hc, hdigit⟩ := hcs
  obtain ⟨cs, rfl⟩ := List.head?_eq_some_iff.1 hc
  rw [numberToken]
  rcases hrun : numberRun (c :: cs) with ⟨digits, rest⟩
  obtain ⟨-, happ⟩ := numberRun_spec hdigit hrun
  constructor
  · intro h
    cases rest with
    | nil => cases h
    | cons d rest =>
      simp only [Bool.or_eq_true, beq_iff_eq] at h
      split at h
      · rename_i hd
        cases h
        exact ⟨rfl, digits, d, rest, happ, rfl, hd⟩
      · cases h
  · rintro ⟨rfl, digits', d, rest', happ', rfl, hd⟩
    obtain rfl := List.append_cancel_left (happ.symm.trans happ')
    simp only [Bool.or_eq_true, beq_iff_eq]
    rw [if_pos hd]

/-! ## The characters with which tokens begin -/

/-- Whether there is a token to read at all is decided by the first character. -/
theorem exists_isInner_of_starts {c : Char}
    (h : c ∈ ['(', ')', '\'', '@', '#', '/'] ∨ isIdentChar c = true) :
    ∃ t : Token, t.IsInner ∧ t.spelling.head? = some c := by
  simp only [List.mem_cons, List.not_mem_nil, or_false] at h
  have hname : IsName ['a'] := by decide
  rcases h with (rfl | rfl | rfl | rfl | rfl | rfl) | hident
  · exact ⟨.subExprStart, rfl, rfl⟩
  · exact ⟨.subExprEnd, rfl, rfl⟩
  · exact ⟨⟨.string, ""⟩, List.not_mem_nil, rfl⟩
  · exact ⟨⟨.varIdentifier, "a"⟩, hname, rfl⟩
  · exact ⟨⟨.blockStart, "a"⟩, hname, rfl⟩
  · exact ⟨⟨.blockEnd, "a"⟩, hname, rfl⟩
  · cases hdigit : Text.isDigit c with
    | true =>
      refine ⟨⟨.number, .ofList [c]⟩, ⟨[c], by simp, by simpa using hdigit, .inl ?_⟩, ?_⟩
      · exact String.toList_ofList
      · simp [Token.spelling]
    | false =>
      refine ⟨⟨.functionName, .ofList [c]⟩, ?_, ?_⟩
      · simpa [Token.IsInner, IsIdentifier] using ⟨hident, hdigit⟩
      · simp [Token.spelling]

theorem nextToken_of_not_starts {c : Char} (h : c ∉ ['(', ')', '\'', '@', '#', '/'])
    (hident : isIdentChar c = false) (start cs : List Char) :
    nextToken start c cs = .error (.unexpectedCharacter c (c :: cs)) := by
  simp only [List.mem_cons, List.not_mem_nil, or_false, not_or] at h
  obtain ⟨hopen, hclose, hquote, hat, hhash, hslash⟩ := h
  have hdigit : Text.isDigit c = false := by
    by_contra hdigit
    rw [isIdentChar_of_isDigit (by simpa using hdigit)] at hident
    cases hident
  unfold nextToken
  rw [if_neg hopen, if_neg hclose, if_neg hquote, hdigit, if_neg Bool.false_ne_true, if_neg hat,
    if_neg hhash, if_neg hslash, hident, if_neg Bool.false_ne_true]

theorem startsNoToken_iff {c : Char} :
    StartsNoToken (c :: cs) ↔ ¬ ['\x7d', '\x7d'] <+: c :: cs ∧
      c ∉ ['(', ')', '\'', '@', '#', '/'] ∧ isIdentChar c = false := by
  refine and_congr_right fun _ => ?_
  rw [← Bool.not_eq_true, ← not_or]
  constructor
  · intro h hstarts
    obtain ⟨t, ht, hc⟩ := exists_isInner_of_starts hstarts
    exact h t ht hc
  · intro h t ht hc
    have hend : ∀ d ∈ ([] : List Char).head?, t.EndsBefore d := by simp
    obtain ⟨d, ds, happ, -, -, hread⟩ := nextToken_complete [] ht hend
    rw [List.append_nil] at happ
    rw [happ] at hc
    obtain rfl := Option.some.inj hc
    rw [not_or, Bool.not_eq_true] at h
    rw [nextToken_of_not_starts h.1 h.2] at hread
    cases hread

theorem causes_of_nextToken {c : Char} (hc : ¬ ['\x7d', '\x7d'] <+: c :: cs)
    (h : nextToken start c cs = .error fault) : Causes start (c :: cs) (c :: cs) fault := by
  by_cases hident : isIdentChar c = true
  · rw [nextToken_of_isIdentChar hident] at h
    split at h
    · rename_i hdigit
      obtain ⟨rfl, digits, d, rest, happ, hlongest, hd⟩ :=
        (numberToken_eq_error_iff ⟨c, rfl, hdigit⟩).1 h
      rw [happ] at hlongest ⊢
      exact .number hlongest hd
    · cases h
  by_cases hstarts : c ∈ ['(', ')', '\'', '@', '#', '/']
  · simp only [List.mem_cons, List.not_mem_nil, or_false] at hstarts
    rcases hstarts with rfl | rfl | rfl | rfl | rfl | rfl
    · cases h
    · cases h
    · obtain ⟨hquote, ⟨hclose, rfl⟩ | ⟨hclose, rfl⟩⟩ := stringToken_eq_error_iff.1 h
      · exact .string hquote hclose
      · exact .openString hquote hclose
    · obtain ⟨rfl, hcs⟩ := nameToken_eq_error_iff.1 h
      exact .variableName hcs
    · obtain ⟨rfl, hcs⟩ := nameToken_eq_error_iff.1 h
      exact .blockName (by simp) hcs
    · obtain ⟨rfl, hcs⟩ := nameToken_eq_error_iff.1 h
      exact .blockName (by simp) hcs
  · rw [Bool.not_eq_true] at hident
    rw [nextToken_of_not_starts hstarts hident] at h
    cases h
    exact .character (startsNoToken_iff.2 ⟨hc, hstarts, hident⟩)

/-- Where there is a cause nothing is left, or no token is read. -/
theorem nextToken_of_causes {place rest : List Char} (h : Causes start place rest fault)
    (hplace : place = rest) :
    rest = [] ∧ fault = .unterminatedExpression start ∨
      ∃ c cs, rest = c :: cs ∧ ¬ ['\x7d', '\x7d'] <+: rest ∧
        nextToken start c cs = .error fault := by
  subst hplace
  cases h with
  | nothing => exact .inl ⟨rfl, rfl⟩
  | @openString cs hquote hclose =>
    exact .inr ⟨'\'', cs, rfl, by simp, stringToken_eq_error_iff.2 ⟨hquote, .inr ⟨hclose, rfl⟩⟩⟩
  | @string cs hquote hclose =>
    exact .inr ⟨'\'', cs, rfl, by simp, stringToken_eq_error_iff.2 ⟨hquote, .inl ⟨hclose, rfl⟩⟩⟩
  | @variableName cs hcs =>
    exact .inr ⟨'@', cs, rfl, by simp, nameToken_eq_error_iff.2 ⟨rfl, hcs⟩⟩
  | @blockName sign cs hsign hcs =>
    simp only [List.mem_cons, List.not_mem_nil, or_false] at hsign
    rcases hsign with rfl | rfl
    · exact .inr ⟨'#', cs, rfl, by simp, nameToken_eq_error_iff.2 ⟨rfl, hcs⟩⟩
    · exact .inr ⟨'/', cs, rfl, by simp, nameToken_eq_error_iff.2 ⟨rfl, hcs⟩⟩
  | @number digits cs d hdigits hd =>
    obtain ⟨c, more, happ, hdigit⟩ := hdigits.1.exists_cons
    have hident := isIdentChar_of_isDigit hdigit
    rw [happ, List.cons_append] at hdigits ⊢
    refine .inr ⟨c, more ++ d :: cs, rfl, ?_, ?_⟩
    · intro hclose
      obtain rfl := (List.cons_prefix_cons.1 hclose).1
      exact absurd hdigit (by decide)
    · rw [nextToken_of_isIdentChar hident, if_pos hdigit,
        numberToken_eq_error_iff ⟨c, rfl, hdigit⟩]
      exact ⟨rfl, c :: more, d, cs, rfl, hdigits, hd⟩
  | @character c cs hcs =>
    obtain ⟨hclose, hstarts, hident⟩ := startsNoToken_iff.1 hcs
    exact .inr ⟨c, cs, rfl, hclose, nextToken_of_not_starts hstarts hident start cs⟩

end Tokens

/-! ## Expressions -/

theorem ReadsTo.exists_append {rest cs : List Char} {ts : List Token} (h : ReadsTo rest ts cs) :
    ∃ read, cs = read ++ rest := by
  induction h with
  | @done gap _ _ => exact ⟨gap, rfl⟩
  | @inner gap cs t ts _ _ _ _ ih =>
    obtain ⟨read, rfl⟩ := ih
    exact ⟨gap ++ t.spelling ++ read, by simp⟩

theorem head?_trimStartChars (cs : List Char) :
    ∀ c ∈ (Text.trimStartChars cs).head?, Text.isBlank c = false :=
  (Text.takeWhile_dropWhile_iff.1 ⟨rfl, rfl⟩).2.2

/-- What is left of an expression that cannot be read. -/
theorem causes_of_expressionTokens {start cs : List Char} {fault : LexFault}
    (h : expressionTokens start cs = .error fault) :
    ∃ ts rest, ReadsTo rest ts cs ∧ Causes start rest rest fault := by
  fun_induction expressionTokens start cs with
  | case1 cs hs =>
    cases h
    obtain ⟨gap, hgap, hcs⟩ := trimStartChars_spec cs
    rw [hcs, hs]
    exact ⟨[], [], .done hgap (by simp), .nothing⟩
  | case2 => cases h
  | case3 cs c cs' hc hs e he =>
    cases h
    obtain ⟨gap, hgap, hcs⟩ := trimStartChars_spec cs
    have hhead := head?_trimStartChars cs
    rw [hs] at hcs hhead
    have hclose : ¬ ['\x7d', '\x7d'] <+: c :: cs' := by
      rintro ⟨rest, hrest⟩
      obtain ⟨rfl, rfl⟩ := List.cons.inj hrest
      exact hc rest rfl rfl
    rw [hcs]
    exact ⟨[], c :: cs', .done hgap hhead, causes_of_nextToken hclose he⟩
  | case4 cs c cs' _ hs t rest ht e he ih =>
    cases h
    obtain ⟨gap, hgap, hcs⟩ := trimStartChars_spec cs
    obtain ⟨hinner, happ, hends⟩ := nextToken_sound ht
    obtain ⟨ts, rest', hread, hcause⟩ := ih he
    rw [hcs, hs, happ, ← List.append_assoc]
    exact ⟨t :: ts, rest', .inner hgap hinner hends hread, hcause⟩
  | case5 => cases h

theorem expressionTokens_of_causes {rest cs : List Char} {ts : List Token} (h : ReadsTo rest ts cs)
    {start : List Char} {fault : LexFault} (hrest : Causes start rest rest fault) :
    expressionTokens start cs = .error fault := by
  induction h with
  | @done gap hgap hhead =>
    have hs := trimStartChars_append hgap hhead
    rcases nextToken_of_causes hrest rfl with ⟨rfl, rfl⟩ | ⟨c, cs, rfl, hclose, hread⟩
    · rw [expressionTokens]
      split
      · rfl
      · rename_i h
        cases hs.symm.trans h
      · rename_i h
        cases hs.symm.trans h
    · rw [expressionTokens_of_trimStart hs hclose, hread]
  | @inner gap cs t ts hgap ht hcs hts ih =>
    rw [List.append_assoc, expressionTokens_append start hgap ht hcs, ih]
    rfl

/-! ## Templates -/

theorem SpellsExpression.getLast? {ts : List Token} {cs : List Char} (h : SpellsExpression ts cs) :
    cs.getLast? = some '\x7d' := by
  induction h with
  | close => simp
  | inner _ _ _ _ ih =>
    rw [List.getLast?_append, ih]
    rfl

/-- The expression that cannot be read, and the template in front of it. -/
theorem exists_expression_of_scan {cs : List Char} {fault : LexFault} (h : scan cs = .error fault) :
    ∃ before body opened, cs = before ++ '\x7b' :: '\x7b' :: body ∧ Spells opened before ∧
      before.getLast? ≠ some '\x7b' ∧
      expressionTokens ('\x7b' :: '\x7b' :: body) body = .error fault := by
  fun_induction scan cs with
  | case1 cs text rest hrun e he =>
    cases h
    obtain ⟨rfl, htext, hrest⟩ := textRun_eq_iff.1 hrun
    rcases hrest with hrest | ⟨-, hend⟩
    · simp at hrest
    · exact ⟨text, rest, _, rfl, .last htext, hend, he⟩
  | case2 cs text rest hrun ts rest' hts e he ih =>
    cases h
    obtain ⟨rfl, htext, hrest⟩ := textRun_eq_iff.1 hrun
    obtain ⟨expression, hexpression, rfl⟩ := expressionTokens_sound hts
    obtain ⟨before, body, opened, rfl, hopened, hlast, hbody⟩ := ih he
    rcases hrest with hrest | ⟨-, hend⟩
    · simp at hrest
    · refine ⟨text ++ '\x7b' :: '\x7b' :: expression ++ before, body, _, by simp,
        .expression htext hend hexpression hopened, ?_, hbody⟩
      rw [List.getLast?_append]
      cases hbefore : before.getLast? with
      | none => simp [List.getLast?_append, List.getLast?_cons, hexpression.getLast?]
      | some c => rwa [hbefore] at hlast
  | case3 => cases h
  | case4 => cases h

theorem scan_of_expression {before : List Char} {opened : List Token} (h : Spells opened before)
    {body : List Char} {fault : LexFault} (hlast : before.getLast? ≠ some '\x7b')
    (hbody : expressionTokens ('\x7b' :: '\x7b' :: body) body = .error fault) :
    scan (before ++ '\x7b' :: '\x7b' :: body) = .error fault := by
  induction h with
  | @last text htext =>
    have hrun : textRun (text ++ '\x7b' :: '\x7b' :: body) = (text, '\x7b' :: '\x7b' :: body) :=
      textRun_eq_iff.2 ⟨rfl, htext, .inr ⟨⟨body, rfl⟩, hlast⟩⟩
    rw [scan_of_textRun hrun, hbody]
  | @expression text cs rest ts more htext hend hts hmore ih =>
    have hrun : textRun (text ++ '\x7b' :: '\x7b' :: cs ++ rest ++ '\x7b' :: '\x7b' :: body) =
        (text, '\x7b' :: '\x7b' :: (cs ++ (rest ++ '\x7b' :: '\x7b' :: body))) :=
      textRun_eq_iff.2 ⟨by simp, htext, .inr ⟨⟨_, rfl⟩, hend⟩⟩
    have hlast' : rest.getLast? ≠ some '\x7b' := by
      intro hrest
      rw [List.getLast?_append, hrest] at hlast
      exact hlast rfl
    rw [scan_of_textRun hrun, expressionTokens_complete hts]
    dsimp only
    rw [ih hlast']
    rfl

theorem scan_eq_error_iff {cs : List Char} {fault : LexFault} :
    scan cs = .error fault ↔
      ∃ before read rest opened ts, cs = before ++ '\x7b' :: '\x7b' :: (read ++ rest) ∧
        Spells opened before ∧ before.getLast? ≠ some '\x7b' ∧ ReadsTo rest ts (read ++ rest) ∧
        Causes ('\x7b' :: '\x7b' :: (read ++ rest)) rest rest fault := by
  constructor
  · intro h
    obtain ⟨before, body, opened, rfl, hopened, hlast, hbody⟩ := exists_expression_of_scan h
    obtain ⟨ts, rest, hread, hcause⟩ := causes_of_expressionTokens hbody
    obtain ⟨read, rfl⟩ := hread.exists_append
    exact ⟨before, read, rest, opened, ts, rfl, hopened, hlast, hread, hcause⟩
  · rintro ⟨before, read, rest, opened, ts, rfl, hopened, hlast, hread, hcause⟩
    exact scan_of_expression hopened hlast (expressionTokens_of_causes hread hcause)

/-! ## Offsets -/

theorem byteCount_eq (cs : List Char) : Text.byteCount cs = (String.ofList cs).utf8ByteSize := by
  induction cs with
  | nil => rfl
  | cons c cs ih =>
    rw [String.ofList_cons, String.utf8ByteSize_append, String.utf8ByteSize_singleton, ← ih]
    rfl

/-- A rest begins where the text in front of it ends. -/
theorem offsetOf_append (front rest : String) :
    offsetOf (front ++ rest).toList rest.toList = front.utf8ByteSize := by
  simp only [offsetOf, byteCount_eq, String.ofList_toList, String.utf8ByteSize_append]
  omega

theorem isValid_append (front rest : String) :
    String.Pos.Raw.IsValid (front ++ rest) ⟨front.utf8ByteSize⟩ :=
  String.Pos.Raw.isValid_iff_exists_append.2 ⟨front, rest, rfl, rfl⟩

theorem causes_offsets_iff {before read rest : String} {e : LexError Nat} :
    Causes before.utf8ByteSize (before ++ "\x7b\x7b" ++ read).utf8ByteSize rest.toList e ↔
      ∃ fault, Causes ("\x7b\x7b" ++ (read ++ rest)).toList rest.toList rest.toList fault ∧
        fault.map (offsetOf (before ++ "\x7b\x7b" ++ read ++ rest).toList) = e := by
  have hbraces := offsetOf_append before ("\x7b\x7b" ++ (read ++ rest))
  rw [← String.append_assoc, ← String.append_assoc] at hbraces
  rw [← causes_map_iff, hbraces, offsetOf_append]

/-- Both places at which an error may point are characters of the template. -/
theorem Causes.isValid {before read rest : String} {e : LexError Nat}
    (h : Causes before.utf8ByteSize (before ++ "\x7b\x7b" ++ read).utf8ByteSize rest.toList e) :
    String.Pos.Raw.IsValid (before ++ "\x7b\x7b" ++ read ++ rest) ⟨e.position⟩ ∧
      e.position < (before ++ "\x7b\x7b" ++ read ++ rest).utf8ByteSize := by
  rcases h.position with he | ⟨he, hrest⟩
  · have hvalid := isValid_append before ("\x7b\x7b" ++ (read ++ rest))
    rw [← String.append_assoc, ← String.append_assoc] at hvalid
    rw [he]
    refine ⟨hvalid, ?_⟩
    have hbraces : "\x7b\x7b".utf8ByteSize = 2 := rfl
    simp only [String.utf8ByteSize_append]
    omega
  · rw [he]
    refine ⟨isValid_append _ rest, ?_⟩
    have hsize : rest.utf8ByteSize ≠ 0 := by
      rwa [ne_eq, String.utf8ByteSize_eq_zero_iff, ← String.toList_eq_nil_iff]
    rw [String.utf8ByteSize_append (t := rest)]
    omega

theorem tokenize_eq_error_iff_scan {source : String} {e : LexError Nat} :
    tokenize source = .error e ↔
      ∃ fault, scan source.toList = .error fault ∧ fault.map (offsetOf source.toList) = e := by
  rw [tokenize]
  cases scan source.toList <;> simp [Except.mapError]

/-- A template cannot be read exactly if an expression stands behind a template that can be read,
and is read up to a place where there is a cause to stop. The error points at a character of the
template: the first one of what is left of the expression, which shows the cause, or, when the
expression does not end, its first brace. Of several braces the first two begin an expression. -/
theorem tokenize_eq_error_iff (source : String) (e : LexError Nat) :
    tokenize source = .error e ↔
      (String.Pos.Raw.IsValid source ⟨e.position⟩ ∧ e.position < source.utf8ByteSize) ∧
      ∃ (before read rest : String) (opened ts : List Token),
        source = before ++ "\x7b\x7b" ++ read ++ rest ∧
        tokenize before = .ok opened ∧ before.toList.getLast? ≠ some '\x7b' ∧
        ReadsTo rest.toList ts (read ++ rest).toList ∧
        Causes before.utf8ByteSize (before ++ "\x7b\x7b" ++ read).utf8ByteSize rest.toList e := by
  rw [tokenize_eq_error_iff_scan]
  constructor
  · rintro ⟨fault, hscan, hfault⟩
    obtain ⟨before, read, rest, opened, ts, hsource, hopened, hlast, hread, hcause⟩ :=
      scan_eq_error_iff.1 hscan
    have hparts : source = .ofList before ++ "\x7b\x7b" ++ .ofList read ++ .ofList rest := by
      rw [← String.toList_inj, hsource]
      simp
    have hshown : Causes (String.ofList before).utf8ByteSize
        (String.ofList before ++ "\x7b\x7b" ++ .ofList read).utf8ByteSize
        (String.ofList rest).toList e := by
      rw [causes_offsets_iff, ← hparts]
      exact ⟨fault, by simpa using hcause, hfault⟩
    refine ⟨hparts ▸ hshown.isValid, .ofList before, .ofList read, .ofList rest, opened, ts, hparts,
      ?_, by simpa using hlast, by simpa using hread, hshown⟩
    rw [tokenize_eq_ok_iff_scan, String.toList_ofList]
    exact scan_complete hopened
  · rintro ⟨-, before, read, rest, opened, ts, rfl, hopened, hlast, hread, hcause⟩
    obtain ⟨fault, hfault, rfl⟩ := causes_offsets_iff.1 hcause
    have hspells := scan_sound (tokenize_eq_ok_iff_scan.1 hopened)
    have hscan : scan (before ++ "\x7b\x7b" ++ read ++ rest).toList = .error fault :=
      scan_eq_error_iff.2 ⟨before.toList, read.toList, rest.toList, opened, ts, by simp,
        hspells, hlast, by simpa using hread, by simpa using hfault⟩
    exact ⟨fault, hscan, rfl⟩

end Template

end StubServer

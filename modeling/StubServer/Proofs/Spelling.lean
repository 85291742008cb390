import Mathlib.Data.List.TakeWhile
import StubServer.Template.Scan

/-!
# The language of the scanner

A template is spelled by its tokens: outside of expressions letter by letter, inside with blanks
wherever two tokens meet. The scanner reads exactly the templates that can be spelled so, and reads
each as the tokens that spell it (`tokenize_eq_ok_iff`). A token that could go on ends only where
the next character cannot belong to it.
-/

namespace StubServer

namespace Template

/-! ## The spelling of tokens -/

/-- The characters that a token stands for. -/
def Token.spelling (t : Token) : List Char :=
  match t.kind with
  | .string => '\'' :: t.text.toList ++ ['\'']
  | .varIdentifier => '@' :: t.text.toList
  | .blockStart => '#' :: t.text.toList
  | .blockEnd => '/' :: t.text.toList
  | _ => t.text.toList

/-- Digits, with a fraction or without. -/
def IsNumber (cs : List Char) : Prop :=
  ∃ whole, whole ≠ [] ∧ (∀ c ∈ whole, Text.isDigit c = true) ∧
    (cs = whole ∨ ∃ fraction, fraction ≠ [] ∧ (∀ c ∈ fraction, Text.isDigit c = true) ∧
      cs = whole ++ '.' :: fraction)

/-- Letters, digits and low lines, the first of them no digit. -/
def IsIdentifier (cs : List Char) : Prop :=
  cs ≠ [] ∧ (∀ c ∈ cs, isIdentChar c = true) ∧ ∀ c ∈ cs.head?, Text.isDigit c = false

/-- A name behind a sign. -/
def IsName (cs : List Char) : Prop :=
  cs ≠ [] ∧ ∀ c ∈ cs, Text.isBlank c = false ∧ c ∉ ['\x7d', '(', ')', '\'']

/-- A token that stands in an expression. -/
def Token.IsInner (t : Token) : Prop :=
  match t.kind with
  | .subExprStart => t = .subExprStart
  | .subExprEnd => t = .subExprEnd
  | .string => '\'' ∉ t.text.toList
  | .number => IsNumber t.text.toList
  | .functionName => IsIdentifier t.text.toList
  | .varIdentifier | .blockStart | .blockEnd => IsName t.text.toList
  | _ => False

/-- The character may stand right behind the token: it is not read as a part of it. -/
def Token.EndsBefore (t : Token) (c : Char) : Prop :=
  match t.kind with
  | .number => isIdentChar c = false ∧ c ≠ '.'
  | .functionName => isIdentChar c = false
  | .varIdentifier | .blockStart | .blockEnd =>
    Text.isBlank c = true ∨ c ∈ ['\x7d', '(', ')', '\'']
  | _ => True

/-- The tokens of an expression behind its opening braces, and characters that spell them. -/
inductive SpellsExpression : List Token → List Char → Prop
  | close {gap : List Char} (hgap : ∀ c ∈ gap, Text.isBlank c = true) :
      SpellsExpression [.exprEnd] (gap ++ ['\x7d', '\x7d'])
  | inner {gap cs : List Char} {t : Token} {ts : List Token}
      (hgap : ∀ c ∈ gap, Text.isBlank c = true) (ht : t.IsInner)
      (hcs : ∀ c ∈ cs.head?, t.EndsBefore c) (hts : SpellsExpression ts cs) :
      SpellsExpression (t :: ts) (gap ++ t.spelling ++ cs)

/-- Text, which may be empty, without a double brace. -/
def IsText (cs : List Char) : Prop :=
  ¬ ['\x7b', '\x7b'] <:+: cs

/-- The tokens of a template and characters that spell them. -/
inductive Spells : List Token → List Char → Prop
  | last {text : List Char} (htext : IsText text) : Spells (textTokens text ++ [.eof]) text
  | expression {text cs rest : List Char} {ts more : List Token} (htext : IsText text)
      (hend : text.getLast? ≠ some '\x7b') (hts : SpellsExpression ts cs)
      (hmore : Spells more rest) :
      Spells (textTokens text ++ .exprStart :: ts ++ more) (text ++ '\x7b' :: '\x7b' :: cs ++ rest)

/-! ## Runs of characters -/

theorem trimStartChars_append {gap cs : List Char} (hgap : ∀ c ∈ gap, Text.isBlank c = true)
    (hcs : ∀ c ∈ cs.head?, Text.isBlank c = false) : Text.trimStartChars (gap ++ cs) = cs :=
  (Text.takeWhile_dropWhile_iff.2 ⟨rfl, hgap, hcs⟩).2

theorem isNameChar_iff {c : Char} :
    isNameChar c = true ↔ Text.isBlank c = false ∧ c ∉ ['\x7d', '(', ')', '\''] := by
  simp [isNameChar, and_assoc]

theorem isNameChar_eq_false_iff {c : Char} :
    isNameChar c = false ↔ Text.isBlank c = true ∨ c ∈ ['\x7d', '(', ')', '\''] := by
  rw [← Bool.not_eq_true, isNameChar_iff, not_and_or, Bool.not_eq_false, not_not]

instance : DecidablePred IsName := fun cs =>
  decidable_of_iff (cs ≠ [] ∧ cs.all isNameChar = true) (by
    simp only [IsName, List.all_eq_true, isNameChar_iff])

instance : DecidablePred IsIdentifier := fun cs =>
  decidable_of_iff (cs ≠ [] ∧ cs.all isIdentChar = true ∧ cs.head?.all (!Text.isDigit ·) = true) (by
    simp only [IsIdentifier, List.all_eq_true, Option.all_eq_true, Bool.not_eq_true',
      Option.mem_def])

instance : DecidablePred IsText := fun cs =>
  inferInstanceAs (Decidable (¬ ['\x7b', '\x7b'] <:+: cs))

theorem isIdentChar_of_isDigit {c : Char} (h : Text.isDigit c = true) : isIdentChar c = true := by
  simp [isIdentChar, h]

theorem IsNumber.exists_cons {digits : List Char} (h : IsNumber digits) :
    ∃ c cs, digits = c :: cs ∧ Text.isDigit c = true := by
  obtain ⟨whole, hne, hwhole, hdigits⟩ := h
  obtain ⟨c, whole, rfl⟩ := List.exists_cons_of_ne_nil hne
  rcases hdigits with rfl | ⟨fraction, -, -, rfl⟩ <;>
    exact ⟨c, _, rfl, hwhole c List.mem_cons_self⟩

/-! ## Text -/

theorem isText_cons {c : Char} {cs : List Char} :
    IsText (c :: cs) ↔ ¬ (c = '\x7b' ∧ cs.head? = some '\x7b') ∧ IsText cs := by
  unfold IsText
  rw [List.infix_cons_iff, not_or]
  refine and_congr_left fun _ => not_congr ?_
  cases cs with
  | nil => simp
  | cons d cs => simp [eq_comm]

theorem textRun_cons {c : Char} {cs : List Char}
    (h : ¬ (c = '\x7b' ∧ cs.head? = some '\x7b')) :
    textRun (c :: cs) = (c :: (textRun cs).1, (textRun cs).2) := by
  cases cs with
  | nil => by_cases hc : c = '\x7b' <;> simp [textRun, hc]
  | cons d cs =>
    rw [textRun]
    · simp
    · rintro rest rfl he
      exact h ⟨rfl, by simp [(List.cons.inj he).1]⟩

/-- Text reaches up to the first double brace. -/
theorem textRun_eq_iff {cs text rest : List Char} :
    textRun cs = (text, rest) ↔ cs = text ++ rest ∧ IsText text ∧
      (rest = [] ∨ ['\x7b', '\x7b'] <+: rest ∧ text.getLast? ≠ some '\x7b') := by
  constructor
  · intro h
    have happ := textRun_append cs
    rw [h] at happ
    refine ⟨happ.symm, ?_⟩
    clear happ
    induction cs generalizing text rest with
    | nil =>
      simp only [textRun, Prod.mk.injEq] at h
      obtain ⟨rfl, rfl⟩ := h
      simp [IsText]
    | cons c cs ih =>
      by_cases hc : c = '\x7b' ∧ cs.head? = some '\x7b'
      · obtain ⟨rfl, hcs⟩ := hc
        obtain ⟨cs, rfl⟩ := List.head?_eq_some_iff.1 hcs
        simp only [textRun, Prod.mk.injEq] at h
        obtain ⟨rfl, rfl⟩ := h
        simp [IsText]
      · rw [textRun_cons hc, Prod.mk.injEq] at h
        obtain ⟨rfl, rfl⟩ := h
        obtain ⟨htext, hrest⟩ := ih rfl
        have happ := textRun_append cs
        refine ⟨isText_cons.2 ⟨fun ⟨hc', hhead⟩ => hc ⟨hc', ?_⟩, htext⟩, ?_⟩
        · rw [← happ, List.head?_append, hhead]
          rfl
        · rcases hrest with hrest | ⟨hrest, hend⟩
          · exact Or.inl hrest
          · refine Or.inr ⟨hrest, ?_⟩
            rcases hrun : (textRun cs).1 with _ | ⟨d, run⟩
            · obtain ⟨r, hr⟩ := hrest
              rw [hrun, List.nil_append, ← hr] at happ
              rintro he
              exact hc ⟨by simpa using he, by rw [← happ]; rfl⟩
            · rwa [List.getLast?_cons_cons, ← hrun]
  · rintro ⟨rfl, htext, hrest⟩
    induction text with
    | nil =>
      rcases hrest with rfl | ⟨⟨r, rfl⟩, -⟩ <;> rfl
    | cons c text ih =>
      have hhead : ¬ (c = '\x7b' ∧ (text ++ rest).head? = some '\x7b') := by
        rintro ⟨rfl, hhead⟩
        cases text with
        | nil =>
          rcases hrest with rfl | ⟨-, hend⟩
          · simp at hhead
          · simp at hend
        | cons d text =>
          exact (isText_cons.1 htext).1 ⟨rfl, hhead⟩
      have hrest' : rest = [] ∨ ['\x7b', '\x7b'] <+: rest ∧ text.getLast? ≠ some '\x7b' := by
        refine hrest.imp_right fun ⟨hpre, hend⟩ => ⟨hpre, ?_⟩
        cases text with
        | nil => simp
        | cons d text => rwa [List.getLast?_cons_cons] at hend
      rw [List.cons_append, textRun_cons hhead, ih (isText_cons.1 htext).2 hrest']

/-! ## Tokens of an expression -/

section Tokens

variable {start quote cs rest : List Char} {t : Token}

theorem stringToken_eq_ok_iff :
    stringToken start quote cs = .ok (t, rest) ↔
      ∃ content, '\'' ∉ content ∧ cs = content ++ '\'' :: rest ∧
        t = ⟨.string, .ofList content⟩ := by
  unfold stringToken
  constructor
  · intro h
    split at h
    · rename_i content rest' hcut
      simp only [Except.ok.injEq, Prod.mk.injEq] at h
      obtain ⟨rfl, rfl⟩ := h
      obtain ⟨hquote, hcs⟩ := Text.cutAt?_eq_some_iff.1 hcut
      exact ⟨content, hquote, hcs, rfl⟩
    · split at h <;> simp at h
  · rintro ⟨content, hquote, hcs, rfl⟩
    rw [Text.cutAt?_eq_some_iff.2 ⟨hquote, hcs⟩]

theorem nameToken_eq_ok_iff {kind : TokenKind} {fault : LexFault} :
    nameToken kind fault cs = .ok (t, rest) ↔
      ∃ name, IsName name ∧ cs = name ++ rest ∧ (∀ c ∈ rest.head?, isNameChar c = false) ∧
        t = ⟨kind, .ofList name⟩ := by
  unfold nameToken
  constructor
  · intro h
    split at h
    · simp at h
    · rename_i hne
      simp only [Except.ok.injEq, Prod.mk.injEq] at h
      obtain ⟨rfl, hdrop⟩ := h
      obtain ⟨hcs, hrun, hrest⟩ := Text.takeWhile_dropWhile_iff.1 ⟨rfl, hdrop⟩
      exact ⟨_, ⟨by simpa using hne, fun c hc => isNameChar_iff.1 (hrun c hc)⟩, hcs, hrest, rfl⟩
  · rintro ⟨name, ⟨hne, hname⟩, hcs, hrest, rfl⟩
    obtain ⟨htake, hdrop⟩ := Text.takeWhile_dropWhile_iff.2
      ⟨hcs, fun c hc => isNameChar_iff.2 (hname c hc), hrest⟩
    rw [htake, hdrop, if_neg (by simpa using hne)]

theorem numberRun_spec {c : Char} {digits : List Char} (hc : Text.isDigit c = true)
    (h : numberRun (c :: cs) = (digits, rest)) : IsNumber digits ∧ c :: cs = digits ++ rest := by
  have hne : (c :: cs).takeWhile Text.isDigit ≠ [] := by simp [hc]
  have hwhole : ∀ d ∈ (c :: cs).takeWhile Text.isDigit, Text.isDigit d = true :=
    fun d => List.mem_takeWhile_imp
  have happ := List.takeWhile_append_dropWhile (p := Text.isDigit) (l := c :: cs)
  unfold numberRun at h
  split at h
  · rename_i d r htail
    rw [htail] at happ
    split at h
    · rename_i hd
      simp only [Prod.mk.injEq] at h
      obtain ⟨rfl, rfl⟩ := h
      refine ⟨⟨_, hne, hwhole, Or.inr ⟨_, ?_, fun x => List.mem_takeWhile_imp, rfl⟩⟩, ?_⟩
      · simp [hd]
      · rw [List.append_assoc, List.cons_append, List.takeWhile_append_dropWhile, happ]
    · simp only [Prod.mk.injEq] at h
      obtain ⟨rfl, rfl⟩ := h
      exact ⟨⟨_, hne, hwhole, Or.inl rfl⟩, happ.symm⟩
  · simp only [Prod.mk.injEq] at h
    obtain ⟨rfl, rfl⟩ := h
    exact ⟨⟨_, hne, hwhole, Or.inl rfl⟩, happ.symm⟩

/-- A number is read as a whole where neither a name nor a second point goes on. -/
theorem numberRun_append {digits : List Char} (hdigits : IsNumber digits)
    (hrest : ∀ c ∈ rest.head?, isIdentChar c = false ∧ c ≠ '.') :
    numberRun (digits ++ rest) = (digits, rest) := by
  have hstop : ∀ c ∈ rest.head?, Text.isDigit c = false := by
    intro c hc
    have h := (hrest c hc).1
    simp only [isIdentChar, Bool.or_eq_false_iff] at h
    exact h.1.2
  obtain ⟨whole, -, hwhole, rfl | ⟨fraction, hne, hfraction, rfl⟩⟩ := hdigits
  · obtain ⟨htake, hdrop⟩ := Text.takeWhile_dropWhile_iff.2 ⟨rfl, hwhole, hstop⟩
    unfold numberRun
    rw [htake, hdrop]
    split
    · rename_i d r
      exact absurd rfl (hrest '.' rfl).2
    · rfl
  · obtain ⟨d, fraction, rfl⟩ := List.exists_cons_of_ne_nil hne
    have hpoint : ∀ c ∈ ('.' :: d :: fraction ++ rest).head?, Text.isDigit c = false := by
      simp [show Text.isDigit '.' = false by decide]
    obtain ⟨htake, hdrop⟩ := Text.takeWhile_dropWhile_iff.2 ⟨rfl, hwhole, hpoint⟩
    obtain ⟨htake', hdrop'⟩ := Text.takeWhile_dropWhile_iff.2 ⟨rfl, hfraction, hstop⟩
    unfold numberRun
    rw [List.append_assoc, htake, hdrop]
    simp only [List.cons_append] at htake' hdrop' ⊢
    simp only [hfraction d (by simp), if_true, htake', hdrop']

theorem numberToken_eq_ok_iff (hcs : ∃ c ∈ cs.head?, Text.isDigit c = true) :
    numberToken cs = .ok (t, rest) ↔
      ∃ digits, IsNumber digits ∧ cs = digits ++ rest ∧
        (∀ c ∈ rest.head?, isIdentChar c = false ∧ c ≠ '.') ∧ t = ⟨.number, .ofList digits⟩ := by
  obtain ⟨c, hc, hdigit⟩ := hcs
  obtain ⟨cs, rfl⟩ := List.head?_eq_some_iff.1 hc
  unfold numberToken
  constructor
  · intro h
    split at h
    · rename_i digits d rest' hrun
      obtain ⟨hnumber, happ⟩ := numberRun_spec hdigit hrun
      split at h
      · simp at h
      · rename_i hd
        simp only [Except.ok.injEq, Prod.mk.injEq] at h
        obtain ⟨rfl, rfl⟩ := h
        exact ⟨digits, hnumber, happ, by simpa using hd, rfl⟩
    · rename_i digits hrun
      obtain ⟨hnumber, happ⟩ := numberRun_spec hdigit hrun
      simp only [Except.ok.injEq, Prod.mk.injEq] at h
      obtain ⟨rfl, rfl⟩ := h
      exact ⟨digits, hnumber, happ, by simp, rfl⟩
  · rintro ⟨digits, hdigits, happ, hrest, rfl⟩
    rw [happ, numberRun_append hdigits hrest]
    cases rest with
    | nil => rfl
    | cons d rest =>
      obtain ⟨hident, hpoint⟩ := hrest d rfl
      simp [hident, hpoint]

theorem nextToken_of_isIdentChar {c : Char} (hc : isIdentChar c = true) :
    nextToken start c cs =
      if Text.isDigit c then numberToken (c :: cs)
      else .ok (⟨.functionName, .ofList (c :: cs.takeWhile isIdentChar)⟩,
        cs.dropWhile isIdentChar) := by
  have hne : ∀ d, isIdentChar d = false → c ≠ d := by
    rintro d hd rfl
    rw [hd] at hc
    cases hc
  unfold nextToken
  rw [if_neg (hne '(' (by decide)), if_neg (hne ')' (by decide)), if_neg (hne '\'' (by decide)),
    if_neg (hne '@' (by decide)), if_neg (hne '#' (by decide)), if_neg (hne '/' (by decide)),
    if_pos hc]

/-- The kinds of names and the signs that stand before them. -/
def signs : List (TokenKind × Char) :=
  [(.varIdentifier, '@'), (.blockStart, '#'), (.blockEnd, '/')]

theorem nextToken_of_sign (start cs : List Char) {kind : TokenKind} {c : Char}
    (h : (kind, c) ∈ signs) :
    ∃ fault, nextToken start c cs = nameToken kind fault cs := by
  simp only [signs, List.mem_cons, Prod.mk.injEq, List.not_mem_nil, or_false] at h
  rcases h with ⟨rfl, rfl⟩ | ⟨rfl, rfl⟩ | ⟨rfl, rfl⟩ <;> exact ⟨_, rfl⟩

/-- A name behind its sign is an inner token, spelled by both. -/
theorem inner_of_sign {kind : TokenKind} {c : Char} (h : (kind, c) ∈ signs) (text : String) :
    (Token.IsInner ⟨kind, text⟩ ↔ IsName text.toList) ∧
      (Token.mk kind text).spelling = c :: text.toList ∧
      ∀ d, Token.EndsBefore ⟨kind, text⟩ d ↔ isNameChar d = false := by
  simp only [signs, List.mem_cons, Prod.mk.injEq, List.not_mem_nil, or_false] at h
  rcases h with ⟨rfl, rfl⟩ | ⟨rfl, rfl⟩ | ⟨rfl, rfl⟩ <;>
    exact ⟨Iff.rfl, rfl, fun d => isNameChar_eq_false_iff.symm⟩

theorem nextToken_sound {c : Char} (h : nextToken start c cs = .ok (t, rest)) :
    t.IsInner ∧ c :: cs = t.spelling ++ rest ∧ ∀ d ∈ rest.head?, t.EndsBefore d := by
  have hsign : ∀ {kind fault}, (kind, c) ∈ signs → nameToken kind fault cs = .ok (t, rest) →
      t.IsInner ∧ c :: cs = t.spelling ++ rest ∧ ∀ d ∈ rest.head?, t.EndsBefore d := by
    intro kind fault hkind h
    obtain ⟨name, hname, rfl, hrest, rfl⟩ := nameToken_eq_ok_iff.1 h
    obtain ⟨hinner, hspell, hends⟩ := inner_of_sign hkind (.ofList name)
    rw [hspell, hinner, String.toList_ofList]
    exact ⟨hname, rfl, fun d hd => (hends d).2 (hrest d hd)⟩
  by_cases hident : isIdentChar c = true
  · rw [nextToken_of_isIdentChar hident] at h
    split at h
    · rename_i hdigit
      obtain ⟨digits, hdigits, happ, hrest, rfl⟩ := (numberToken_eq_ok_iff ⟨c, rfl, hdigit⟩).1 h
      exact ⟨by simpa [Token.IsInner] using hdigits, by simpa [Token.spelling] using happ, hrest⟩
    · rename_i hdigit
      simp only [Except.ok.injEq, Prod.mk.injEq] at h
      obtain ⟨rfl, hdrop⟩ := h
      obtain ⟨happ, hrun, hrest⟩ := Text.takeWhile_dropWhile_iff.1 ⟨rfl, hdrop⟩
      refine ⟨?_, ?_, hrest⟩
      · simp only [Token.IsInner, String.toList_ofList]
        refine ⟨by simp, ?_, by simpa using hdigit⟩
        simpa [hident] using hrun
      · simpa [Token.spelling] using happ
  unfold nextToken at h
  split at h
  · rename_i hc
    simp only [Except.ok.injEq, Prod.mk.injEq] at h
    obtain ⟨rfl, rfl⟩ := h
    exact ⟨rfl, hc ▸ rfl, fun _ _ => trivial⟩
  split at h
  · rename_i hc
    simp only [Except.ok.injEq, Prod.mk.injEq] at h
    obtain ⟨rfl, rfl⟩ := h
    exact ⟨rfl, hc ▸ rfl, fun _ _ => trivial⟩
  split at h
  · rename_i hc
    obtain ⟨content, hquote, rfl, rfl⟩ := stringToken_eq_ok_iff.1 h
    exact ⟨by simpa [Token.IsInner] using hquote, by simp [Token.spelling, hc],
      fun _ _ => trivial⟩
  split at h
  · rename_i hdigit
    exact absurd (isIdentChar_of_isDigit hdigit) hident
  split at h
  · rename_i hc
    exact hsign (by simp [signs, hc]) h
  split at h
  · rename_i hc
    exact hsign (by simp [signs, hc]) h
  split at h
  · rename_i hc
    exact hsign (by simp [signs, hc]) h
  · simp at h

theorem isBlank_of_isIdentChar {c : Char} (h : isIdentChar c = true) : Text.isBlank c = false := by
  have hbounds : 48 ≤ c.toNat ∧ c.toNat ≤ 122 := by
    simp only [isIdentChar, Text.isLetter, Text.isDigit, Bool.or_eq_true, Bool.and_eq_true,
      decide_eq_true_eq, Char.le_def, UInt32.le_iff_toNat_le, beq_iff_eq] at h
    rcases h with ((h | h) | h) | rfl
    · exact ⟨le_trans (by decide) h.1, h.2⟩
    · exact ⟨le_trans (by decide) h.1, le_trans h.2 (by decide)⟩
    · exact ⟨h.1, le_trans h.2 (by decide)⟩
    · decide
  simp only [Text.isBlank, Bool.or_eq_false_iff, Bool.and_eq_false_iff, decide_eq_false_iff_not,
    beq_eq_false_iff_ne]
  omega

/-- An inner token begins neither with a blank nor with a closing brace, and is read where the next
character cannot belong to it. -/
theorem nextToken_complete (start : List Char) (ht : t.IsInner)
    (hrest : ∀ d ∈ rest.head?, t.EndsBefore d) :
    ∃ c cs, t.spelling ++ rest = c :: cs ∧ Text.isBlank c = false ∧ c ≠ '\x7d' ∧
      nextToken start c cs = .ok (t, rest) := by
  have hident : ∀ c, isIdentChar c = true → Text.isBlank c = false ∧ c ≠ '\x7d' := by
    intro c hc
    refine ⟨isBlank_of_isIdentChar hc, ?_⟩
    rintro rfl
    exact absurd hc (by decide)
  have hsign : ∀ c, (t.kind, c) ∈ signs → ∃ c cs, t.spelling ++ rest = c :: cs ∧
      Text.isBlank c = false ∧ c ≠ '\x7d' ∧ nextToken start c cs = .ok (t, rest) := by
    intro c hkind
    obtain ⟨hinner, hspell, hends⟩ := inner_of_sign hkind t.text
    obtain ⟨fault, hread⟩ := nextToken_of_sign start (t.text.toList ++ rest) hkind
    have hc : Text.isBlank c = false ∧ c ≠ '\x7d' := by
      simp only [signs, List.mem_cons, Prod.mk.injEq, List.not_mem_nil, or_false] at hkind
      rcases hkind with ⟨-, rfl⟩ | ⟨-, rfl⟩ | ⟨-, rfl⟩ <;> decide
    refine ⟨c, t.text.toList ++ rest, by rw [hspell]; rfl, hc.1, hc.2, ?_⟩
    rw [hread, nameToken_eq_ok_iff]
    exact ⟨_, hinner.1 ht, rfl, fun d hd => (hends d).1 (hrest d hd), by simp⟩
  obtain ⟨kind, text⟩ := t
  cases kind with
  | varIdentifier => exact hsign '@' (by simp [signs])
  | blockStart => exact hsign '#' (by simp [signs])
  | blockEnd => exact hsign '/' (by simp [signs])
  | subExprStart =>
    obtain rfl := congrArg Token.text ht
    exact ⟨'(', rest, rfl, by decide, by decide, rfl⟩
  | subExprEnd =>
    obtain rfl := congrArg Token.text ht
    exact ⟨')', rest, rfl, by decide, by decide, rfl⟩
  | string =>
    refine ⟨'\'', text.toList ++ '\'' :: rest, by simp [Token.spelling], by decide, by decide, ?_⟩
    exact stringToken_eq_ok_iff.2 ⟨_, ht, rfl, by simp⟩
  | number =>
    have hnumber : IsNumber text.toList := ht
    obtain ⟨c, cs, hcs, hdigit⟩ := hnumber.exists_cons
    obtain ⟨hblank, hbrace⟩ := hident c (isIdentChar_of_isDigit hdigit)
    refine ⟨c, cs ++ rest, by simp [Token.spelling, hcs], hblank, hbrace, ?_⟩
    rw [nextToken_of_isIdentChar (isIdentChar_of_isDigit hdigit), if_pos hdigit,
      numberToken_eq_ok_iff ⟨c, rfl, hdigit⟩]
    exact ⟨text.toList, hnumber, by rw [hcs]; rfl, hrest, by simp⟩
  | functionName =>
    obtain ⟨hne, hall, hhead⟩ : IsIdentifier text.toList := ht
    obtain ⟨c, cs, hcs⟩ := List.exists_cons_of_ne_nil hne
    rw [hcs] at hall hhead
    obtain ⟨hblank, hbrace⟩ := hident c (hall c (by simp))
    refine ⟨c, cs ++ rest, by simp [Token.spelling, hcs], hblank, hbrace, ?_⟩
    obtain ⟨htake, hdrop⟩ := Text.takeWhile_dropWhile_iff.2
      ⟨rfl, fun d hd => hall d (List.mem_cons_of_mem c hd), hrest⟩
    rw [nextToken_of_isIdentChar (hall c (by simp)), hhead c rfl, htake, hdrop, ← hcs]
    simp
  | text => exact absurd ht id
  | exprStart => exact absurd ht id
  | exprEnd => exact absurd ht id
  | eof => exact absurd ht id

end Tokens

/-! ## Expressions -/

theorem SpellsExpression.ne_nil {ts : List Token} {cs : List Char} (h : SpellsExpression ts cs) :
    cs ≠ [] := by
  cases h with
  | close => simp
  | inner hgap ht hcs hts =>
    have := hts.ne_nil
    simp [this]

/-- What is left behind the blanks begins with none. -/
theorem trimStartChars_spec (cs : List Char) :
    ∃ gap, (∀ c ∈ gap, Text.isBlank c = true) ∧ cs = gap ++ Text.trimStartChars cs :=
  ⟨cs.takeWhile Text.isBlank, fun _ => List.mem_takeWhile_imp,
    List.takeWhile_append_dropWhile.symm⟩

theorem expressionTokens_sound {start cs rest : List Char} {ts : List Token}
    (h : expressionTokens start cs = .ok (ts, rest)) :
    ∃ body, SpellsExpression ts body ∧ cs = body ++ rest := by
  fun_induction expressionTokens start cs generalizing ts with
  | case1 => simp at h
  | case2 cs rest' hs =>
    simp only [Except.ok.injEq, Prod.mk.injEq] at h
    obtain ⟨rfl, rfl⟩ := h
    obtain ⟨gap, hgap, hcs⟩ := trimStartChars_spec cs
    exact ⟨_, .close hgap, by rw [hcs, hs]; simp⟩
  | case3 => simp at h
  | case4 => simp at h
  | case5 cs c cs' _ hs t rest₁ ht ts' rest₂ he ih =>
    simp only [Except.ok.injEq, Prod.mk.injEq] at h
    obtain ⟨rfl, rfl⟩ := h
    obtain ⟨gap, hgap, hcs⟩ := trimStartChars_spec cs
    obtain ⟨hinner, happ, hends⟩ := nextToken_sound ht
    obtain ⟨body, hbody, rfl⟩ := ih he
    refine ⟨_, .inner hgap hinner (fun d hd => hends d ?_) hbody, ?_⟩
    · rw [List.head?_append, Option.mem_def.1 hd]
      rfl
    · rw [hcs, hs, happ]
      simp

theorem expressionTokens_close {start cs rest : List Char}
    (hs : Text.trimStartChars cs = '\x7d' :: '\x7d' :: rest) :
    expressionTokens start cs = .ok ([.exprEnd], rest) := by
  rw [expressionTokens]
  split
  · rename_i h
    simp [hs] at h
  · rename_i rest' h
    simp only [hs, List.cons.injEq, true_and] at h
    rw [h]
  · rename_i c rest' hne h
    simp only [hs, List.cons.injEq] at h
    exact absurd h.2.symm (hne _ h.1.symm)

/-- Behind the blanks stands either the end of the expression or a token. -/
theorem expressionTokens_of_trimStart {start cs cs' : List Char} {c : Char}
    (hs : Text.trimStartChars cs = c :: cs') (hc : ¬ ['\x7d', '\x7d'] <+: c :: cs') :
    expressionTokens start cs =
      match nextToken start c cs' with
      | .error e => .error e
      | .ok (t, rest) => (expressionTokens start rest).map fun p => (t :: p.1, p.2) := by
  rw [expressionTokens]
  split
  · rename_i h
    simp [hs] at h
  · rename_i rest h
    rw [hs] at h
    exact absurd ⟨rest, h.symm⟩ hc
  · rename_i d r _ h
    rw [hs, List.cons.injEq] at h
    obtain ⟨rfl, rfl⟩ := h
    split
    · rename_i e he
      rw [he]
    · rename_i t rest he
      rw [he]
      dsimp only
      cases expressionTokens start rest <;> rfl

/-- A token behind blanks is read as the first token of the expression. -/
theorem expressionTokens_append {gap rest : List Char} {t : Token} (start : List Char)
    (hgap : ∀ c ∈ gap, Text.isBlank c = true) (ht : t.IsInner)
    (hrest : ∀ c ∈ rest.head?, t.EndsBefore c) :
    expressionTokens start (gap ++ (t.spelling ++ rest)) =
      (expressionTokens start rest).map fun p => (t :: p.1, p.2) := by
  obtain ⟨c, cs, happ, hblank, hbrace, hread⟩ := nextToken_complete start ht hrest
  have hs : Text.trimStartChars (gap ++ (t.spelling ++ rest)) = c :: cs := by
    rw [happ]
    exact trimStartChars_append hgap (by rintro d ⟨⟩; exact hblank)
  have hclose : ¬ ['\x7d', '\x7d'] <+: c :: cs := fun h => hbrace (List.cons_prefix_cons.1 h).1.symm
  rw [expressionTokens_of_trimStart hs hclose, hread]

/-- However an expression is spelled, it is read as the tokens that spell it. -/
theorem expressionTokens_complete {ts : List Token} {body : List Char}
    (h : SpellsExpression ts body) (start rest : List Char) :
    expressionTokens start (body ++ rest) = .ok (ts, rest) := by
  induction h with
  | @close gap hgap =>
    refine expressionTokens_close ?_
    rw [List.append_assoc]
    exact trimStartChars_append hgap (by rintro c ⟨⟩; decide)
  | @inner gap cs t ts hgap ht hcs hts ih =>
    have hends : ∀ d ∈ (cs ++ rest).head?, t.EndsBefore d := by
      intro d hd
      obtain ⟨x, cs, rfl⟩ := List.exists_cons_of_ne_nil hts.ne_nil
      exact hcs d hd
    rw [List.append_assoc, List.append_assoc, expressionTokens_append start hgap ht hends, ih]
    rfl

/-! ## Templates -/

theorem scan_sound {cs : List Char} {ts : List Token} (h : scan cs = .ok ts) : Spells ts cs := by
  fun_induction scan cs generalizing ts with
  | case1 => simp at h
  | case2 => simp at h
  | case3 cs text rest hrun ts₁ rest₁ hts more hmore ih =>
    simp only [Except.ok.injEq] at h
    subst h
    obtain ⟨rfl, htext, hrest⟩ := textRun_eq_iff.1 hrun
    obtain ⟨body, hbody, rfl⟩ := expressionTokens_sound hts
    rcases hrest with hrest | ⟨-, hend⟩
    · simp at hrest
    · have hspells := Spells.expression htext hend hbody (ih hmore)
      simpa only [List.append_assoc, List.cons_append] using hspells
  | case4 cs text rest hne hrun =>
    simp only [Except.ok.injEq] at h
    subst h
    obtain ⟨rfl, htext, hrest⟩ := textRun_eq_iff.1 hrun
    rcases hrest with rfl | ⟨⟨rest', rfl⟩, -⟩
    · rw [List.append_nil]
      exact Spells.last htext
    · exact (hne rest' rfl).elim

theorem scan_of_textRun {cs text rest : List Char}
    (h : textRun cs = (text, '\x7b' :: '\x7b' :: rest)) :
    scan cs =
      match expressionTokens ('\x7b' :: '\x7b' :: rest) rest with
      | .error e => .error e
      | .ok (ts, rest) =>
        (scan rest).map fun more => textTokens text ++ .exprStart :: ts ++ more := by
  rw [scan]
  split
  · rename_i text' rest' hrun
    rw [h] at hrun
    cases hrun
    split
    · rename_i e he
      rw [he]
    · rename_i ts rest' hts
      rw [hts]
      dsimp only
      cases scan rest' <;> rfl
  · rename_i text' rest' hne hrun
    rw [h] at hrun
    cases hrun
    exact (hne _ rfl).elim

theorem scan_complete {cs : List Char} {ts : List Token} (h : Spells ts cs) : scan cs = .ok ts := by
  induction h with
  | @last text htext =>
    have hrun : textRun text = (text, []) :=
      textRun_eq_iff.2 ⟨by rw [List.append_nil], htext, Or.inl rfl⟩
    rw [scan]
    split
    · rename_i text' rest' h
      rw [hrun] at h
      cases h
    · rename_i text' rest' _ h
      rw [hrun] at h
      cases h
      rfl
  | @expression text cs rest ts more htext hend hts hmore ih =>
    have hrun : textRun (text ++ '\x7b' :: '\x7b' :: cs ++ rest) =
        (text, '\x7b' :: '\x7b' :: (cs ++ rest)) :=
      textRun_eq_iff.2 ⟨by simp, htext, Or.inr ⟨⟨cs ++ rest, rfl⟩, hend⟩⟩
    rw [scan_of_textRun hrun, expressionTokens_complete hts]
    dsimp only
    rw [ih]
    rfl

theorem tokenize_eq_ok_iff_scan {source : String} {ts : List Token} :
    tokenize source = .ok ts ↔ scan source.toList = .ok ts := by
  unfold tokenize
  rcases scan source.toList with e | ts' <;> simp [Except.mapError]

/-- The scanner reads a template as some tokens exactly if the tokens spell it. -/
theorem tokenize_eq_ok_iff (source : String) (ts : List Token) :
    tokenize source = .ok ts ↔ Spells ts source.toList := by
  rw [tokenize_eq_ok_iff_scan]
  exact ⟨scan_sound, scan_complete⟩

end Template

end StubServer

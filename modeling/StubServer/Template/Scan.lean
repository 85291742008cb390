import StubServer.Template.Token
import StubServer.Text.Ascii
import StubServer.Text.Blank
import StubServer.Text.Split

/-!
# From text to tokens

The scanner takes tokens off the front of a list of characters. While it works, a place in the
template is the rest of the template from there on; only at the end such a rest becomes an offset.
-/

namespace StubServer

namespace Template

/-- A character of a function's name. -/
def isIdentChar (c : Char) : Bool :=
  Text.isLetter c || Text.isDigit c || c == '_'

/-- A character of a name behind a sign. -/
def isNameChar (c : Char) : Bool :=
  !Text.isBlank c && c != '\x7d' && c != '(' && c != ')' && c != '\''

/-- What goes wrong, at the rest of the template where it does. -/
abbrev LexFault := LexError (List Char)

/-- The text before the first double brace, and the rest from that brace on. -/
def textRun : List Char → List Char × List Char
  | [] => ([], [])
  | ['\x7b'] => (['\x7b'], [])
  | '\x7b' :: '\x7b' :: rest => ([], '\x7b' :: '\x7b' :: rest)
  | c :: rest => (c :: (textRun rest).1, (textRun rest).2)

theorem textRun_append (cs : List Char) : (textRun cs).1 ++ (textRun cs).2 = cs := by
  fun_induction textRun cs <;> simp_all

/-- Two closing braces occur somewhere. -/
def closesLater : List Char → Bool :=
  Text.occursIn ['\x7d', '\x7d']

/-- A string behind its opening quote; `start` is the expression and `quote` the quote. -/
def stringToken (start quote : List Char) (cs : List Char) :
    Except LexFault (Token × List Char) :=
  match Text.cutAt? '\'' cs with
  | some (content, rest) => .ok (⟨.string, .ofList content⟩, rest)
  | none =>
    if closesLater cs then .error (.unterminatedString quote)
    else .error (.unterminatedExpression start)

/-- The digits of a number, with a fraction if a point is followed by a digit. -/
def numberRun (cs : List Char) : List Char × List Char :=
  let whole := cs.takeWhile Text.isDigit
  match cs.dropWhile Text.isDigit with
  | '.' :: d :: rest =>
    if Text.isDigit d then
      (whole ++ '.' :: (d :: rest).takeWhile Text.isDigit, (d :: rest).dropWhile Text.isDigit)
    else (whole, '.' :: d :: rest)
  | rest => (whole, rest)

/-- A number that no name and no second point touches. -/
def numberToken (cs : List Char) : Except LexFault (Token × List Char) :=
  match numberRun cs with
  | (digits, c :: rest) =>
    if isIdentChar c || c == '.' then .error (.invalidNumber cs)
    else .ok (⟨.number, .ofList digits⟩, c :: rest)
  | (digits, []) => .ok (⟨.number, .ofList digits⟩, [])

/-- A name behind its sign. -/
def nameToken (kind : TokenKind) (ifEmpty : LexFault) (cs : List Char) :
    Except LexFault (Token × List Char) :=
  if (cs.takeWhile isNameChar).isEmpty then .error ifEmpty
  else .ok (⟨kind, .ofList (cs.takeWhile isNameChar)⟩, cs.dropWhile isNameChar)

/-- The token that begins with the character `c`, which is no blank, and what follows it. -/
def nextToken (start : List Char) (c : Char) (cs : List Char) :
    Except LexFault (Token × List Char) :=
  if c = '(' then .ok (.subExprStart, cs)
  else if c = ')' then .ok (.subExprEnd, cs)
  else if c = '\'' then stringToken start (c :: cs) cs
  else if Text.isDigit c then numberToken (c :: cs)
  else if c = '@' then nameToken .varIdentifier (.emptyVariableName (c :: cs)) cs
  else if c = '#' then nameToken .blockStart (.emptyBlockName (c :: cs)) cs
  else if c = '/' then nameToken .blockEnd (.emptyBlockName (c :: cs)) cs
  else if isIdentChar c then
    .ok (⟨.functionName, .ofList (c :: cs.takeWhile isIdentChar)⟩, cs.dropWhile isIdentChar)
  else .error (.unexpectedCharacter c (c :: cs))

theorem length_dropWhile_le (p : Char → Bool) (cs : List Char) :
    (cs.dropWhile p).length ≤ cs.length :=
  (List.dropWhile_suffix p).length_le

theorem length_of_cutAt? {sep : Char} {cs a b : List Char} (h : Text.cutAt? sep cs = some (a, b)) :
    b.length < cs.length := by
  induction cs generalizing a b with
  | nil => simp [Text.cutAt?] at h
  | cons c cs ih =>
    by_cases hc : c = sep
    · simp [Text.cutAt?, hc] at h
      simp [← h.2]
    · simp only [Text.cutAt?, hc, if_false, Option.map_eq_some_iff] at h
      obtain ⟨⟨a', b'⟩, h', he⟩ := h
      simp only [Prod.mk.injEq] at he
      have := ih h'
      simp [← he.2]
      omega

theorem length_numberRun (c : Char) (cs : List Char) (hc : Text.isDigit c = true) :
    (numberRun (c :: cs)).2.length ≤ cs.length := by
  have h : (List.dropWhile Text.isDigit (c :: cs)).length ≤ cs.length := by
    simp only [List.dropWhile_cons, hc, if_true]
    exact length_dropWhile_le _ _
  unfold numberRun
  split
  · rename_i d rest e
    rw [e] at h
    split
    · have := length_dropWhile_le Text.isDigit (d :: rest)
      simp only [List.length_cons] at *
      omega
    · exact h
  · exact h

/-- A token takes at least the character it begins with. -/
theorem length_nextToken {start : List Char} {c : Char} {cs : List Char} {t : Token}
    {rest : List Char} (h : nextToken start c cs = .ok (t, rest)) : rest.length ≤ cs.length := by
  have hname : ∀ {kind : TokenKind} {e : LexFault}, nameToken kind e cs = .ok (t, rest) →
      rest.length ≤ cs.length := by
    intro kind e h
    unfold nameToken at h
    split at h
    · simp at h
    · simp only [Except.ok.injEq, Prod.mk.injEq] at h
      rw [← h.2]
      exact length_dropWhile_le _ _
  unfold nextToken at h
  split at h
  · simp_all
  split at h
  · simp_all
  split at h
  · unfold stringToken at h
    split at h
    · rename_i e
      have := length_of_cutAt? e
      simp only [Except.ok.injEq, Prod.mk.injEq] at h
      rw [← h.2]
      omega
    · split at h <;> simp at h
  split at h
  · rename_i hd
    have hlen := length_numberRun c cs hd
    unfold numberToken at h
    split at h
    · rename_i e
      rw [e] at hlen
      split at h
      · simp at h
      · simp only [Except.ok.injEq, Prod.mk.injEq] at h
        rw [← h.2]
        exact hlen
    · simp only [Except.ok.injEq, Prod.mk.injEq] at h
      simp [← h.2]
  split at h
  · exact hname h
  split at h
  · exact hname h
  split at h
  · exact hname h
  split at h
  · simp only [Except.ok.injEq, Prod.mk.injEq] at h
    rw [← h.2]
    exact length_dropWhile_le _ _
  · simp at h

/-- The tokens of an expression behind its opening braces, up to and with the closing ones. -/
def expressionTokens (start cs : List Char) : Except LexFault (List Token × List Char) :=
  match _hs : Text.trimStartChars cs with
  | [] => .error (.unterminatedExpression start)
  | '\x7d' :: '\x7d' :: rest => .ok ([.exprEnd], rest)
  | c :: rest =>
    match _ht : nextToken start c rest with
    | .error e => .error e
    | .ok (t, rest) =>
      match expressionTokens start rest with
      | .error e => .error e
      | .ok (ts, rest) => .ok (t :: ts, rest)
termination_by cs.length
decreasing_by
  have h := length_nextToken _ht
  have h' := length_dropWhile_le Text.isBlank cs
  rw [Text.trimStartChars] at _hs
  rw [_hs] at h'
  simp only [List.length_cons] at h'
  omega

theorem length_expressionTokens {start cs : List Char} {ts : List Token} {rest : List Char}
    (h : expressionTokens start cs = .ok (ts, rest)) : rest.length ≤ cs.length := by
  fun_induction expressionTokens start cs generalizing ts with
  | case1 => simp at h
  | case2 cs rest' hs =>
    have h' := length_dropWhile_le Text.isBlank cs
    rw [Text.trimStartChars] at hs
    rw [hs] at h'
    simp only [Except.ok.injEq, Prod.mk.injEq] at h
    simp only [List.length_cons, h.2] at h'
    omega
  | case3 => simp at h
  | case4 => simp at h
  | case5 cs c rest₁ _ hs t rest₂ ht ts' rest₃ he ih =>
    have h' := length_dropWhile_le Text.isBlank cs
    rw [Text.trimStartChars] at hs
    rw [hs] at h'
    have := length_nextToken ht
    simp only [Except.ok.injEq, Prod.mk.injEq] at h
    obtain ⟨-, rfl⟩ := h
    have := ih he
    simp only [List.length_cons] at h'
    omega

/-- A text token, unless there is no text. -/
def textTokens (text : List Char) : List Token :=
  if text.isEmpty then [] else [⟨.text, .ofList text⟩]

/-- The tokens of a template. -/
def scan (cs : List Char) : Except LexFault (List Token) :=
  match hr : textRun cs with
  | (text, '\x7b' :: '\x7b' :: rest) =>
    match _he : expressionTokens ('\x7b' :: '\x7b' :: rest) rest with
    | .error e => .error e
    | .ok (ts, rest) =>
      match scan rest with
      | .error e => .error e
      | .ok more => .ok (textTokens text ++ .exprStart :: ts ++ more)
  | (text, _) => .ok (textTokens text ++ [.eof])
termination_by cs.length
decreasing_by
  have h := textRun_append cs
  rw [hr] at h
  have := length_expressionTokens _he
  have := congrArg List.length h
  simp only [List.length_append, List.length_cons] at this
  omega

/-- The byte offset in a template at which the given rest of it begins. -/
def offsetOf (source rest : List Char) : Nat :=
  Text.byteCount source - Text.byteCount rest

/-- The tokens of a template, with one end mark as the last. -/
def tokenize (source : String) : Except (LexError Nat) (List Token) :=
  (scan source.toList).mapError (·.map (offsetOf source.toList))

end Template

end StubServer

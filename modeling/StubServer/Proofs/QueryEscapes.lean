import StubServer.Http.QueryString

/-!
# Escapes in query strings

A query string that is a single name reads as the text of the bytes that its escapes, pluses and
other bytes stand for (`Decodes`), as long as no plus and one digit stand behind a percent sign:
such a triple is read as the byte of that digit, although it is no escape
(`parse_iff_not_hasSignedEscape`).
-/

namespace StubServer

namespace Http

namespace QueryString

/-- The value of a byte that is a hexadecimal digit: `0` to `9`, `A` to `F` or `a` to `f`. -/
def digit? (b : UInt8) : Option UInt8 :=
  if 0x30 ≤ b ∧ b ≤ 0x39 then some (b - 0x30)
  else if 0x41 ≤ b ∧ b ≤ 0x46 then some (b - 0x37)
  else if 0x61 ≤ b ∧ b ≤ 0x66 then some (b - 0x57)
  else none

/-- Two hexadecimal digits come first. -/
def StartsWithDigits (bs : List UInt8) : Prop :=
  ∃ b c rest, bs = b :: c :: rest ∧ (digit? b).isSome ∧ (digit? c).isSome

/-- The second bytes are what the first ones stand for: a percent sign and two hexadecimal digits
are the byte with these digits, a plus is a space, and every other byte is itself. -/
inductive Decodes : List UInt8 → List UInt8 → Prop
  | nil : Decodes [] []
  | escape {b c high low : UInt8} {rest out : List UInt8} (hb : digit? b = some high)
      (hc : digit? c = some low) (h : Decodes rest out) :
      Decodes (0x25 :: b :: c :: rest) ((16 * high + low) :: out)
  | cons {a : UInt8} {rest out : List UInt8} (ha : a = 0x25 → ¬ StartsWithDigits rest)
      (h : Decodes rest out) : Decodes (a :: rest) ((if a = 0x2B then 0x20 else a) :: out)

/-- Somewhere a plus and one hexadecimal digit stand behind a percent sign. -/
def HasSignedEscape (bs : List UInt8) : Prop :=
  ∃ d, (digit? d).isSome ∧ [0x25, 0x2B, d] <:+: bs

theorem hexValue?_byte (b : UInt8) :
    (if b < 128 then Text.hexValue? (Char.ofNat b.toNat) else none) =
      (digit? b).map UInt8.toNat := by
  have h : ∀ n : Fin 256, (if UInt8.ofFin n < 128 then
      Text.hexValue? (Char.ofNat (UInt8.ofFin n).toNat) else none) =
        (digit? (UInt8.ofFin n)).map UInt8.toNat := by
    decide +kernel
  exact h b.toFin

theorem escapedByte?_eq (b c : UInt8) :
    escapedByte? b c =
      match digit? b, digit? c with
      | some high, some low => some (16 * high + low)
      | none, some low => if b = 0x2B then some low else none
      | _, none => none := by
  unfold escapedByte?
  simp only [hexValue?_byte]
  rcases digit? b with _ | high <;> rcases digit? c with _ | low <;> simp

theorem digit?_lt {b value : UInt8} (h : digit? b = some value) : value < 0x10 := by
  have hall : ∀ n : Fin 256, ∀ value ∈ digit? (UInt8.ofFin n), value < 0x10 := by
    decide +kernel
  exact hall b.toFin value h

theorem ne_of_digit? {b : UInt8} (h : (digit? b).isSome) : b ≠ 0x25 ∧ b ≠ 0x2B := by
  constructor <;> rintro rfl <;> cases h

theorem startsWithDigits_cons {b c : UInt8} {rest : List UInt8} :
    StartsWithDigits (b :: c :: rest) ↔ (digit? b).isSome ∧ (digit? c).isSome := by
  constructor
  · rintro ⟨_, _, _, hcons, h⟩
    cases hcons
    exact h
  · exact fun h => ⟨b, c, rest, rfl, h⟩

theorem hasSignedEscape_cons {a : UInt8} {bs : List UInt8} :
    HasSignedEscape (a :: bs) ↔
      (a = 0x25 ∧ ∃ d rest, bs = 0x2B :: d :: rest ∧ (digit? d).isSome) ∨ HasSignedEscape bs := by
  simp only [HasSignedEscape, List.infix_cons_iff, and_or_left, exists_or]
  refine or_congr_left ⟨?_, ?_⟩
  · rintro ⟨d, hd, rest, hrest⟩
    cases hrest
    exact ⟨rfl, d, rest, rfl, hd⟩
  · rintro ⟨rfl, d, rest, rfl, hd⟩
    exact ⟨d, hd, rest, rfl⟩

theorem exists_decodes : ∀ bs : List UInt8, ∃ out, Decodes bs out
  | [] => ⟨[], .nil⟩
  | a :: rest => by
    by_cases ha : a = 0x25 → ¬ StartsWithDigits rest
    · obtain ⟨out, hout⟩ := exists_decodes rest
      exact ⟨_, .cons ha hout⟩
    · simp only [Classical.not_imp, Classical.not_not] at ha
      obtain ⟨rfl, b, c, rest, rfl, hb, hc⟩ := ha
      obtain ⟨high, hhigh⟩ := Option.isSome_iff_exists.1 hb
      obtain ⟨low, hlow⟩ := Option.isSome_iff_exists.1 hc
      obtain ⟨out, hout⟩ := exists_decodes rest
      exact ⟨_, .escape hhigh hlow hout⟩
termination_by bs => bs.length

theorem Decodes.unique {bs out out' : List UInt8} (h : Decodes bs out) (h' : Decodes bs out') :
    out' = out := by
  induction h generalizing out' with
  | nil =>
    cases h'
    rfl
  | escape hb hc _ ih =>
    cases h' with
    | escape hb' hc' h' =>
      rw [hb] at hb'
      rw [hc] at hc'
      cases hb'
      cases hc'
      rw [ih h']
    | cons ha _ => exact absurd (startsWithDigits_cons.2 (by simp [hb, hc])) (ha rfl)
  | cons ha _ ih =>
    cases h' with
    | escape hb hc _ => exact absurd (startsWithDigits_cons.2 (by simp [hb, hc])) (ha rfl)
    | cons _ h' => rw [ih h']

theorem unescape_escape {b c high low : UInt8} (hb : digit? b = some high)
    (hc : digit? c = some low) (rest : List UInt8) :
    unescape (0x25 :: b :: c :: rest) = (16 * high + low) :: unescape rest := by
  rw [unescape, if_pos rfl, escapedByte?_eq, hb, hc]

theorem unescape_signed {d value : UInt8} (hd : digit? d = some value) (rest : List UInt8) :
    unescape (0x25 :: 0x2B :: d :: rest) = value :: unescape rest := by
  rw [unescape, if_pos rfl, escapedByte?_eq, hd]
  rfl

/-- A byte that begins no escape stands for itself or, if it is a plus, for a space. -/
theorem unescape_cons {a : UInt8} {rest : List UInt8}
    (ha : a = 0x25 → ¬ StartsWithDigits rest)
    (hsigned : ¬ (a = 0x25 ∧ ∃ d more, rest = 0x2B :: d :: more ∧ (digit? d).isSome)) :
    unescape (a :: rest) = plusToSpace a :: unescape rest := by
  match rest with
  | [] | [_] => rfl
  | b :: c :: rest =>
    by_cases hpercent : a = 0x25
    · subst hpercent
      have hnone : escapedByte? b c = none := by
        rw [escapedByte?_eq]
        have hdigits := ha rfl
        rw [startsWithDigits_cons] at hdigits
        rcases hb : digit? b with _ | high <;> rcases hc : digit? c with _ | low
        · rfl
        · refine if_neg ?_
          rintro rfl
          exact hsigned ⟨rfl, c, rest, rfl, by simp [hc]⟩
        · rfl
        · exact absurd (by simp [hb, hc]) hdigits
      rw [unescape, if_pos rfl, hnone]
      rfl
    · rw [unescape, if_neg hpercent]

theorem unescape_of_decodes {bs out : List UInt8} (h : Decodes bs out)
    (hsigned : ¬ HasSignedEscape bs) : unescape bs = out := by
  induction h with
  | nil => rfl
  | escape hb hc _ ih =>
    rw [unescape_escape hb hc, ih]
    simp only [hasSignedEscape_cons, not_or] at hsigned
    exact hsigned.2.2.2
  | cons ha _ ih =>
    rw [hasSignedEscape_cons, not_or] at hsigned
    rw [unescape_cons ha hsigned.1, ih hsigned.2]
    rfl

/-- From the first signed escape on the bytes are others: where a percent sign should stay, there is
a byte below 16. -/
theorem exists_parting {bs out : List UInt8} (h : Decodes bs out) (hsigned : HasSignedEscape bs) :
    ∃ start byte rest rest', unescape bs = start ++ byte :: rest ∧ byte < 0x10 ∧
      out = start ++ 0x25 :: rest' := by
  induction h with
  | nil =>
    obtain ⟨d, -, hnil⟩ := hsigned
    simp at hnil
  | @escape b c high low rest out hb hc _ ih =>
    have hrest : HasSignedEscape rest := by
      have hb' := ne_of_digit? (b := b) (by simp [hb])
      have hc' := ne_of_digit? (b := c) (by simp [hc])
      simpa [hasSignedEscape_cons, hb', hc'] using hsigned
    obtain ⟨start, byte, more, more', hstart, hbyte, hout⟩ := ih hrest
    refine ⟨(16 * high + low) :: start, byte, more, more', ?_, hbyte, ?_⟩
    · rw [unescape_escape hb hc, hstart, List.cons_append]
    · rw [hout, List.cons_append]
  | @cons a rest out ha _ ih =>
    by_cases hhere : a = 0x25 ∧ ∃ d more, rest = 0x2B :: d :: more ∧ (digit? d).isSome
    · obtain ⟨rfl, d, more, rfl, hd⟩ := hhere
      obtain ⟨value, hvalue⟩ := Option.isSome_iff_exists.1 hd
      exact ⟨[], value, unescape more, out, unescape_signed hvalue more, digit?_lt hvalue, rfl⟩
    · have hrest := (hasSignedEscape_cons.1 hsigned).resolve_left hhere
      obtain ⟨start, byte, more, more', hstart, hbyte, hout⟩ := ih hrest
      refine ⟨plusToSpace a :: start, byte, more, more', ?_, hbyte, ?_⟩
      · rw [unescape_cons ha hhere, hstart, List.cons_append]
      · rw [hout]
        rfl

/-! ## The pair of a single part -/

theorem pairs_of_notMem {query : String} (hamp : '&' ∉ query.toList)
    (hequals : '=' ∉ query.toList) (hquestion : query.toList.head? ≠ some '?') :
    pairs query = if query = "" then [] else [(decode query.toList, "")] := by
  have hstart : query.toList.dropWhile (· == '?') = query.toList := by
    rcases hchars : query.toList with _ | ⟨c, cs⟩
    · rfl
    · refine List.dropWhile_cons_of_neg fun hc => hquestion ?_
      rw [hchars, List.head?_cons, eq_of_beq hc]
  have hcut : Text.cutAt? '=' query.toList = none := by
    refine Option.eq_none_iff_forall_not_mem.2 fun p hp => ?_
    rw [(Text.cutAt?_eq_some_iff.1 hp).2] at hequals
    simp at hequals
  rw [pairs, hstart, Text.splitAtChar_of_notMem hamp]
  by_cases hempty : query = ""
  · simp [hempty]
  · have hchars : query.toList.isEmpty = false := by simpa using hempty
    simp [hempty, hchars, pair, hcut]

theorem hasSignedEscape_nil : ¬ HasSignedEscape [] := by
  rintro ⟨d, -, hnil⟩
  simp at hnil

theorem decodeLossy_ne_of_parting {start rest rest' : List UInt8} {byte : UInt8} (h : byte < 0x10) :
    Text.decodeLossy (start ++ byte :: rest) ≠ Text.decodeLossy (start ++ 0x25 :: rest') := by
  have hbyte : byte < 0x80 := UInt8.lt_trans h (by decide)
  rw [Text.decodeLossy_append_ascii hbyte, Text.decodeLossy_append_ascii (by decide),
    Text.decodeLossy_ascii_cons hbyte, Text.decodeLossy_ascii_cons (by decide)]
  intro heq
  have hchar := (List.cons.inj (List.append_cancel_left heq)).1
  have hall : ∀ n < 16, Char.ofNat n ≠ '%' := by decide
  exact hall byte.toNat h hchar

theorem parse_iff_not_hasSignedEscape {query : String} (hamp : '&' ∉ query.toList)
    (hequals : '=' ∉ query.toList) (hquestion : query.toList.head? ≠ some '?') :
    ∃ out, (∀ bs, Decodes (Text.bytes query.toList) bs ↔ bs = out) ∧
      (parse query =
          (if query = "" then .empty else .ofList [(.ofList (Text.decodeLossy out), "")]) ↔
        ¬ HasSignedEscape (Text.bytes query.toList)) := by
  obtain ⟨out, hout⟩ := exists_decodes (Text.bytes query.toList)
  refine ⟨out, fun bs => ⟨hout.unique, fun h => h ▸ hout⟩, ?_⟩
  rw [parse, pairs_of_notMem hamp hequals hquestion]
  by_cases hempty : query = ""
  · subst hempty
    exact ⟨fun _ => hasSignedEscape_nil, fun _ => rfl⟩
  · rw [if_neg hempty, if_neg hempty]
    constructor
    · intro hparse hsigned
      obtain ⟨start, byte, rest, rest', hstart, hbyte, rfl⟩ := exists_parting hout hsigned
      have hname := (Prod.mk.inj (List.cons.inj (congrArg Bindings.toList hparse)).1).1
      rw [decode, hstart] at hname
      exact decodeLossy_ne_of_parting hbyte (String.ofList_injective hname)
    · intro hsigned
      rw [decode, unescape_of_decodes hout hsigned]

/-- Escapes of either case, spaces, and percent signs that begin no escape. -/
def loose : String := "%41+%zz%+x%C3%a9é%4"

theorem loose_parse :
    '&' ∉ loose.toList ∧ '=' ∉ loose.toList ∧ loose.toList.head? ≠ some '?' ∧
      (parse loose).toList = [("A %zz% xéé%4", "")] ∧
      ∃ out, (∀ bs, Decodes (Text.bytes loose.toList) bs ↔ bs = out) ∧
        (parse loose =
            (if loose = "" then .empty else .ofList [(.ofList (Text.decodeLossy out), "")]) ↔
          ¬ HasSignedEscape (Text.bytes loose.toList)) :=
  ⟨by decide, by decide, by decide, by decide +kernel,
    parse_iff_not_hasSignedEscape (by decide) (by decide) (by decide)⟩

/-- A percent sign with a plus and a digit behind it is no escape, but is read as one. -/
theorem signed_parse_ne :
    Decodes (Text.bytes "%+f".toList) (Text.bytes "% f".toList) ∧
      (parse "%+f").toList = [("\x0f", "")] ∧
      parse "%+f" ≠ .ofList [(.ofList (Text.decodeLossy (Text.bytes "% f".toList)), "")] := by
  have hpercent : ¬ StartsWithDigits (Text.bytes "+f".toList) := by
    rintro ⟨b, c, rest, hbytes, hb, -⟩
    cases hbytes
    cases hb
  refine ⟨.cons (fun _ => hpercent) (.cons nofun (.cons nofun .nil)), by decide +kernel, ?_⟩
  intro hparse
  have hpairs := congrArg Bindings.toList hparse
  revert hpairs
  decide +kernel

end QueryString

end Http

end StubServer

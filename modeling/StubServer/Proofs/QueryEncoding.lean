import Mathlib.Data.List.Forall2
import StubServer.Proofs.QueryEscapes

/-!
# Writing query strings

A text is written into a query string byte by byte: ASCII letters, digits and four marks as they
are, any byte as an escape with digits of either case, a space also as a plus (`Writes`). What is
written has none of the characters that divide a query string and reads as the text
(`decode_of_writes`). So a query string of written names and values reads as these pairs, and of
pairs with one name the last counts (`get?_parse_joined`).
-/

namespace StubServer

namespace Http

namespace QueryString

/-- The characters that are written as they are. -/
def plainChars : List Char :=
  "ABCDEFGHIJKLMNOPQRSTUVWXYZabcdefghijklmnopqrstuvwxyz0123456789-._~".toList

/-- The character is a hexadecimal digit of either case with the value. -/
def IsDigitOf (value : Nat) (c : Char) : Prop :=
  c ∈ "0123456789ABCDEF".toList[value]? ∨ c ∈ "0123456789abcdef".toList[value]?

/-- The characters are a way to write the bytes. -/
inductive Encodes : List UInt8 → List Char → Prop
  | nil : Encodes [] []
  | plain {c : Char} {bs : List UInt8} {cs : List Char} (hc : c ∈ plainChars)
      (h : Encodes bs cs) : Encodes (.ofNat c.toNat :: bs) (c :: cs)
  | space {bs : List UInt8} {cs : List Char} (h : Encodes bs cs) :
      Encodes (0x20 :: bs) ('+' :: cs)
  | escape {b : UInt8} {high low : Char} {bs : List UInt8} {cs : List Char}
      (hhigh : IsDigitOf (b.toNat / 16) high) (hlow : IsDigitOf (b.toNat % 16) low)
      (h : Encodes bs cs) : Encodes (b :: bs) ('%' :: high :: low :: cs)

/-- The second text is a way to write the first one. -/
def Writes (s written : String) : Prop :=
  Encodes (Text.bytes s.toList) written.toList

/-- The query string of names and values that are written already. -/
def joined (written : List (String × String)) : String :=
  Text.join "&" (written.map fun p => p.1 ++ "=" ++ p.2)

/-! ## Single characters -/

/-- The characters at which a query string is cut, and the one that is dropped in front. -/
def dividers : List Char := ['&', '=', '?']

theorem byte_of_plain {c : Char} (hc : c ∈ plainChars) :
    c.toNat ≤ 0x7F ∧ UInt8.ofNat c.toNat ≠ 0x25 ∧ UInt8.ofNat c.toNat ≠ 0x2B ∧ c ∉ dividers := by
  have hall : (plainChars.all fun c => decide (c.toNat ≤ 0x7F ∧ UInt8.ofNat c.toNat ≠ 0x25 ∧
      UInt8.ofNat c.toNat ≠ 0x2B ∧ c ∉ dividers)) = true := by
    decide +kernel
  exact of_decide_eq_true (List.all_eq_true.1 hall c hc)

theorem byte_of_isDigitOf {value : Nat} {c : Char} (h : IsDigitOf value c) :
    c.toNat ≤ 0x7F ∧ digit? (.ofNat c.toNat) = some (.ofNat value) ∧ c ∉ dividers := by
  have hall : ∀ digits ∈ ["0123456789ABCDEF".toList, "0123456789abcdef".toList], ∀ n < 16,
      (digits[n]?.all fun c => decide (c.toNat ≤ 0x7F ∧
        digit? (.ofNat c.toNat) = some (.ofNat n) ∧ c ∉ dividers)) = true := by
    decide +kernel
  rcases h with h | h
  · have hlt := (List.getElem?_eq_some_iff.1 h).1
    exact of_decide_eq_true ((Option.all_eq_true _ _).1 (hall _ (by simp) value hlt) c h)
  · have hlt := (List.getElem?_eq_some_iff.1 h).1
    exact of_decide_eq_true ((Option.all_eq_true _ _).1 (hall _ (by simp) value hlt) c h)

theorem exists_isDigitOf {value : Nat} (h : value < 16) : ∃ c, IsDigitOf value c :=
  ⟨_, Or.inl (List.getElem?_eq_getElem h)⟩

/-- A character that is no percent sign stands for its byte, or for a space if it is a plus. -/
theorem unescape_bytes_cons {c : Char} (hascii : c.toNat ≤ 0x7F)
    (hpercent : UInt8.ofNat c.toNat ≠ 0x25) (cs : List Char) :
    unescape (Text.bytes (c :: cs)) =
      plusToSpace (.ofNat c.toNat) :: unescape (Text.bytes cs) := by
  rw [Text.bytes_ascii_cons hascii]
  exact unescape_cons (absurd · hpercent) fun h => hpercent h.1

/-! ## Texts -/

theorem exists_encodes : ∀ bs : List UInt8, ∃ cs, Encodes bs cs
  | [] => ⟨[], .nil⟩
  | b :: bs => by
    obtain ⟨cs, hcs⟩ := exists_encodes bs
    have hbyte : b.toNat < 16 * 16 := b.toNat_lt
    obtain ⟨high, hhigh⟩ := exists_isDigitOf (Nat.div_lt_of_lt_mul hbyte)
    obtain ⟨low, hlow⟩ := exists_isDigitOf (Nat.mod_lt b.toNat (by decide))
    exact ⟨_, .escape hhigh hlow hcs⟩

theorem exists_writes (s : String) : ∃ written, Writes s written := by
  obtain ⟨cs, hcs⟩ := exists_encodes (Text.bytes s.toList)
  exact ⟨.ofList cs, by rwa [Writes, String.toList_ofList]⟩

namespace Encodes

variable {bs : List UInt8} {cs : List Char}

theorem notMem (h : Encodes bs cs) {c : Char} (hc : c ∈ dividers) : c ∉ cs := by
  induction h with
  | nil => exact List.not_mem_nil
  | plain hplain _ ih =>
    refine List.not_mem_cons_of_ne_of_not_mem ?_ ih
    rintro rfl
    exact (byte_of_plain hplain).2.2.2 hc
  | space _ ih =>
    refine List.not_mem_cons_of_ne_of_not_mem ?_ ih
    rintro rfl
    revert hc
    decide
  | escape hhigh hlow _ ih =>
    refine List.not_mem_cons_of_ne_of_not_mem ?_
      (List.not_mem_cons_of_ne_of_not_mem ?_ (List.not_mem_cons_of_ne_of_not_mem ?_ ih))
    · rintro rfl
      revert hc
      decide
    · rintro rfl
      exact (byte_of_isDigitOf hhigh).2.2 hc
    · rintro rfl
      exact (byte_of_isDigitOf hlow).2.2 hc

theorem unescape_bytes (h : Encodes bs cs) : unescape (Text.bytes cs) = bs := by
  induction h with
  | nil => rfl
  | plain hc _ ih =>
    obtain ⟨hascii, hpercent, hplus, -⟩ := byte_of_plain hc
    rw [unescape_bytes_cons hascii hpercent, ih, plusToSpace, if_neg hplus]
  | space _ ih =>
    rw [unescape_bytes_cons (by decide) (by decide), ih]
    rfl
  | @escape b high low bs cs hhigh hlow _ ih =>
    obtain ⟨hhigh, hdigit, -⟩ := byte_of_isDigitOf hhigh
    obtain ⟨hlow, hdigit', -⟩ := byte_of_isDigitOf hlow
    have hbyte : 16 * UInt8.ofNat (b.toNat / 16) + .ofNat (b.toNat % 16) = b := by
      rw [show (16 : UInt8) = .ofNat 16 from rfl, ← UInt8.ofNat_mul, ← UInt8.ofNat_add,
        Nat.div_add_mod, UInt8.ofNat_toNat]
    rw [Text.bytes_ascii_cons (by decide), Text.bytes_ascii_cons hhigh,
      Text.bytes_ascii_cons hlow]
    exact (unescape_escape hdigit hdigit' _).trans (by rw [hbyte, ih])

end Encodes

theorem decode_of_writes {s written : String} (h : Writes s written) :
    decode written.toList = s := by
  rw [decode, h.unescape_bytes, Text.decodeLossy_bytes, String.ofList_toList]

/-! ## Query strings -/

/-- The characters of one pair. -/
def pairChars (p : String × String) : List Char :=
  p.1.toList ++ '=' :: p.2.toList

theorem toList_joined (written : List (String × String)) :
    (joined written).toList = ['&'].intercalate (written.map pairChars) := by
  rw [joined, Text.toList_join, List.map_map]
  congr 1
  refine List.map_congr_left fun p _ => ?_
  simp [pairChars]

theorem pair_pairChars {p q : String × String} (hname : Writes p.1 q.1) (hvalue : Writes p.2 q.2) :
    pair (pairChars q) = p := by
  have hcut : Text.cutAt? '=' (pairChars q) = some (q.1.toList, q.2.toList) :=
    Text.cutAt?_eq_some_iff.2 ⟨hname.notMem (by decide), rfl⟩
  rw [pair, hcut]
  exact Prod.ext (decode_of_writes hname) (decode_of_writes hvalue)

/-- The parts of a query string that is made of written names and values. -/
theorem parts_joined {written : List (String × String)}
    (h : ∀ q ∈ written, ∃ p : String × String, Writes p.1 q.1 ∧ Writes p.2 q.2) :
    (Text.splitAtChar '&' ((joined written).toList.dropWhile (· == '?'))).filter (!·.isEmpty) =
      written.map pairChars := by
  have hnone : ∀ c ∈ ['&', '?'], ∀ part ∈ written.map pairChars, c ∉ part := by
    intro c hc part hpart
    obtain ⟨q, hq, rfl⟩ := List.mem_map.1 hpart
    obtain ⟨p, hname, hvalue⟩ := h q hq
    have hdivider : c ∈ dividers ∧ c ≠ '=' := by
      rcases List.mem_pair.1 hc with rfl | rfl <;> decide
    simp [pairChars, hname.notMem hdivider.1, hvalue.notMem hdivider.1, hdivider.2]
  have hstart : (joined written).toList.dropWhile (· == '?') = (joined written).toList := by
    have hquestion : '?' ∉ (joined written).toList := by
      rw [toList_joined]
      exact Text.notMem_intercalate (by decide) (hnone '?' (by decide))
    refine (Text.takeWhile_dropWhile_iff.2 ⟨(List.nil_append _).symm, nofun, fun c hc => ?_⟩).2
    exact beq_false_of_ne fun heq => hquestion (heq ▸ List.mem_of_mem_head? hc)
  have hfull : ∀ part ∈ written.map pairChars, (!part.isEmpty) = true := by
    intro part hpart
    obtain ⟨q, -, rfl⟩ := List.mem_map.1 hpart
    simp [pairChars]
  rw [hstart, toList_joined, Text.splitAtChar_eq_splitOn]
  by_cases hwritten : written = []
  · simp [hwritten]
  · rw [List.splitOn_intercalate '&' (hnone '&' (by decide)) (by simpa using hwritten),
      List.filter_eq_self.2 hfull]

theorem pairs_joined {ps written : List (String × String)}
    (h : List.Forall₂ (fun p q => Writes p.1 q.1 ∧ Writes p.2 q.2) ps written) :
    pairs (joined written) = ps := by
  have hwritten : ∀ q ∈ written, ∃ p : String × String, Writes p.1 q.1 ∧ Writes p.2 q.2 := by
    induction h with
    | nil => nofun
    | cons hpq _ ih => exact List.forall_mem_cons.2 ⟨⟨_, hpq⟩, ih⟩
  rw [pairs, parts_joined hwritten]
  clear hwritten
  induction h with
  | nil => rfl
  | cons hpq _ ih => rw [List.map_cons, List.map_cons, pair_pairChars hpq.1 hpq.2, ih]

/-- Every text can be written, and a query string of written names and values binds each name to
the value of its last pair, and no other name. -/
theorem get?_parse_joined :
    (∀ s : String, ∃ written, Writes s written) ∧
      ∀ ps written : List (String × String),
        List.Forall₂ (fun p q => Writes p.1 q.1 ∧ Writes p.2 q.2) ps written →
          ∀ name value, (parse (joined written)).get? name = some value ↔
            ∃ before after, ps = before ++ (name, value) :: after ∧ ∀ p ∈ after, p.1 ≠ name := by
  refine ⟨exists_writes, fun ps written h name value => ?_⟩
  rw [parse, pairs_joined h]
  exact Bindings.get?_ofList_eq_some_iff_last

/-- A name written in two ways, and an empty one. -/
def rewritten : List (String × String) :=
  [("a+b", "1"), ("", "%C3%a9%26%3D"), ("a%20b", "")]

theorem rewritten_get?_parse_joined :
    List.Forall₂ (fun p q => Writes p.1 q.1 ∧ Writes p.2 q.2)
        [("a b", "1"), ("", "é&="), ("a b", "")] rewritten ∧
      (parse (joined rewritten)).get? "a b" = some "" ∧
      (parse (joined rewritten)).get? "" = some "é&=" := by
  have hplus : Writes "a b" "a+b" :=
    .plain (by decide) (.space (.plain (by decide) .nil))
  have hescape : Writes "a b" "a%20b" :=
    .plain (by decide) (.escape (.inl rfl) (.inl rfl) (.plain (by decide) .nil))
  have hvalue : Writes "é&=" "%C3%a9%26%3D" :=
    .escape (.inl rfl) (.inl rfl) (.escape (.inr rfl) (.inl rfl)
      (.escape (.inl rfl) (.inl rfl) (.escape (.inl rfl) (.inl rfl) .nil)))
  have hempty : Writes "" "" := .nil
  have hone : Writes "1" "1" := .plain (by decide) .nil
  have hwritten : List.Forall₂ (fun p q => Writes p.1 q.1 ∧ Writes p.2 q.2)
      [("a b", "1"), ("", "é&="), ("a b", "")] rewritten :=
    .cons ⟨hplus, hone⟩ (.cons ⟨hempty, hvalue⟩ (.cons ⟨hescape, hempty⟩ .nil))
  refine ⟨hwritten, ?_, ?_⟩
  · exact (get?_parse_joined.2 _ _ hwritten "a b" "").2
      ⟨[("a b", "1"), ("", "é&=")], [], rfl, nofun⟩
  · exact (get?_parse_joined.2 _ _ hwritten "" "é&=").2
      ⟨[("a b", "1")], [("a b", "")], rfl, by simp⟩

end QueryString

end Http

end StubServer

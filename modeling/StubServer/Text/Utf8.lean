/-!
# Reading bytes as UTF-8

The lossy reading of a byte sequence: every maximal part that is the start of a well-formed
sequence but goes wrong, and every byte that can start none, reads as one U+FFFD. The bytes of a
text read as this text (`decodeLossy_bytes`), and texts are ordered as their bytes are
(`bytes_le_bytes_iff`).
-/

namespace StubServer

namespace Text

/-- The bytes of a text in UTF-8. -/
def bytes (cs : List Char) : List UInt8 :=
  cs.flatMap String.utf8EncodeChar

def replacement : Char := Char.ofNat 0xFFFD

/-- A byte that continues a sequence. -/
def isContinuation (b : UInt8) : Bool :=
  0x80 ≤ b && b ≤ 0xBF

/-- The second bytes that may follow a given first byte of a sequence of three or four. -/
def mayFollow (first second : UInt8) : Bool :=
  if first = 0xE0 then 0xA0 ≤ second && second ≤ 0xBF
  else if first = 0xED then 0x80 ≤ second && second ≤ 0x9F
  else if first = 0xF0 then 0x90 ≤ second && second ≤ 0xBF
  else if first = 0xF4 then 0x80 ≤ second && second ≤ 0x8F
  else isContinuation second

/-- The payload bits of a continuation byte. -/
def low6 (b : UInt8) : Nat :=
  b.toNat % 64

/-- The number of bytes that a first byte announces; 0 for a byte that starts no sequence. -/
def announced (b : UInt8) : Nat :=
  if b < 0x80 then 1
  else if 0xC2 ≤ b && b ≤ 0xDF then 2
  else if 0xE0 ≤ b && b ≤ 0xEF then 3
  else if 0xF0 ≤ b && b ≤ 0xF4 then 4
  else 0

/-- Reads bytes as UTF-8 and puts U+FFFD for what is ill-formed. -/
def decodeLossy : List UInt8 → List Char
  | [] => []
  | [a] => if announced a = 1 then [Char.ofNat a.toNat] else [replacement]
  | [a, b] =>
    if announced a = 1 then Char.ofNat a.toNat :: decodeLossy [b]
    else if announced a = 2 && isContinuation b then [Char.ofNat (a.toNat % 32 * 64 + low6 b)]
    else if 3 ≤ announced a && mayFollow a b then [replacement]
    else replacement :: decodeLossy [b]
  | [a, b, c] =>
    if announced a = 1 then Char.ofNat a.toNat :: decodeLossy [b, c]
    else if announced a = 2 && isContinuation b then
      Char.ofNat (a.toNat % 32 * 64 + low6 b) :: decodeLossy [c]
    else if 3 ≤ announced a && mayFollow a b then
      if isContinuation c then
        if announced a = 3 then [Char.ofNat (a.toNat % 16 * 4096 + low6 b * 64 + low6 c)]
        else [replacement]
      else replacement :: decodeLossy [c]
    else replacement :: decodeLossy [b, c]
  | a :: b :: c :: d :: rest =>
    if announced a = 1 then Char.ofNat a.toNat :: decodeLossy (b :: c :: d :: rest)
    else if announced a = 2 && isContinuation b then
      Char.ofNat (a.toNat % 32 * 64 + low6 b) :: decodeLossy (c :: d :: rest)
    else if 3 ≤ announced a && mayFollow a b then
      if isContinuation c then
        if announced a = 3 then
          Char.ofNat (a.toNat % 16 * 4096 + low6 b * 64 + low6 c) :: decodeLossy (d :: rest)
        else if isContinuation d then
          Char.ofNat (a.toNat % 8 * 262144 + low6 b * 4096 + low6 c * 64 + low6 d) ::
            decodeLossy rest
        else replacement :: decodeLossy (d :: rest)
      else replacement :: decodeLossy (c :: d :: rest)
    else replacement :: decodeLossy (b :: c :: d :: rest)

/-- A character is read off the front of the bytes, or what is wrong there is replaced. -/
theorem decodeLossy_cons (a : UInt8) (bs : List UInt8) :
    decodeLossy (a :: bs) =
      if announced a = 1 then Char.ofNat a.toNat :: decodeLossy bs
      else
        match bs with
        | [] => [replacement]
        | b :: bs =>
          if announced a = 2 && isContinuation b then
            Char.ofNat (a.toNat % 32 * 64 + low6 b) :: decodeLossy bs
          else if 3 ≤ announced a && mayFollow a b then
            match bs with
            | [] => [replacement]
            | c :: bs =>
              if isContinuation c then
                if announced a = 3 then
                  Char.ofNat (a.toNat % 16 * 4096 + low6 b * 64 + low6 c) :: decodeLossy bs
                else
                  match bs with
                  | [] => [replacement]
                  | d :: bs =>
                    if isContinuation d then
                      Char.ofNat (a.toNat % 8 * 262144 + low6 b * 4096 + low6 c * 64 + low6 d) ::
                        decodeLossy bs
                    else replacement :: decodeLossy (d :: bs)
              else replacement :: decodeLossy (c :: bs)
          else replacement :: decodeLossy (b :: bs) := by
  match bs with
  | [] | [_] | [_, _] | _ :: _ :: _ :: _ => simp only [decodeLossy]

theorem announced_of_ascii {a : UInt8} (h : a < 0x80) : announced a = 1 := if_pos h

theorem decodeLossy_ascii_cons {a : UInt8} (h : a < 0x80) (bs : List UInt8) :
    decodeLossy (a :: bs) = Char.ofNat a.toNat :: decodeLossy bs := by
  rw [decodeLossy_cons, if_pos (announced_of_ascii h)]

theorem isContinuation_of_ascii {a : UInt8} (h : a < 0x80) : isContinuation a = false := by
  have hle : ¬ 0x80 ≤ a := UInt8.not_le.2 h
  simp [isContinuation, hle]

theorem mayFollow_of_ascii (first : UInt8) {a : UInt8} (h : a < 0x80) :
    mayFollow first a = false := by
  have hle : ∀ b : UInt8, 0x80 ≤ b → ¬ b ≤ a := fun b hb hba =>
    UInt8.not_le.2 h (UInt8.le_trans hb hba)
  simp [mayFollow, isContinuation_of_ascii h, hle]

/-- An ASCII byte ends what is read before it, complete or not. -/
theorem decodeLossy_append_ascii {a : UInt8} (h : a < 0x80) (bs : List UInt8) :
    ∀ p : List UInt8, decodeLossy (p ++ a :: bs) = decodeLossy p ++ decodeLossy (a :: bs)
  | [] => rfl
  | x :: p => by
    have hcont := isContinuation_of_ascii h
    have hfollow := mayFollow_of_ascii x h
    have ih : ∀ q : List UInt8, q.length ≤ p.length →
        decodeLossy (q ++ a :: bs) = decodeLossy q ++ decodeLossy (a :: bs) :=
      fun q _ => decodeLossy_append_ascii h bs q
    rw [List.cons_append, decodeLossy_cons x (p ++ a :: bs), decodeLossy_cons x p]
    split
    · rw [ih p (Nat.le_refl _), List.cons_append]
    · -- The bytes that may still belong to the character are followed up to the ASCII byte.
      rcases p with _ | ⟨b, _ | ⟨c, _ | ⟨d, p⟩⟩⟩ <;> grind
termination_by p => p.length
decreasing_by grind

/-! ## Reading back what is written -/

section Sequences

variable {a b c d : UInt8}

theorem decodeLossy_two (ha : announced a = 2) (hb : isContinuation b = true) (bs : List UInt8) :
    decodeLossy (a :: b :: bs) = Char.ofNat (a.toNat % 32 * 64 + low6 b) :: decodeLossy bs := by
  rw [decodeLossy_cons]
  simp [ha, hb]

theorem decodeLossy_three (ha : announced a = 3) (hb : mayFollow a b = true)
    (hc : isContinuation c = true) (bs : List UInt8) :
    decodeLossy (a :: b :: c :: bs) =
      Char.ofNat (a.toNat % 16 * 4096 + low6 b * 64 + low6 c) :: decodeLossy bs := by
  rw [decodeLossy_cons]
  simp [ha, hb, hc]

theorem decodeLossy_four (ha : announced a = 4) (hb : mayFollow a b = true)
    (hc : isContinuation c = true) (hd : isContinuation d = true) (bs : List UInt8) :
    decodeLossy (a :: b :: c :: d :: bs) =
      Char.ofNat (a.toNat % 8 * 262144 + low6 b * 4096 + low6 c * 64 + low6 d) ::
        decodeLossy bs := by
  rw [decodeLossy_cons]
  simp [ha, hb, hc, hd]

end Sequences

theorem continuation_ofNat :
    ∀ n < 64, isContinuation (.ofNat (n + 128)) = true ∧ low6 (.ofNat (n + 128)) = n := by
  decide +kernel

theorem announced_two : ∀ n < 32, 2 ≤ n →
    announced (.ofNat (n + 192)) = 2 ∧ (UInt8.ofNat (n + 192)).toNat % 32 = n := by
  decide +kernel

theorem announced_three : ∀ n < 16,
    announced (.ofNat (n + 224)) = 3 ∧ (UInt8.ofNat (n + 224)).toNat % 16 = n ∧
      ∀ m < 64, (n = 0 → 32 ≤ m) → (n = 13 → m < 32) →
        mayFollow (.ofNat (n + 224)) (.ofNat (m + 128)) = true := by
  decide +kernel

theorem announced_four : ∀ n < 5,
    announced (.ofNat (n + 240)) = 4 ∧ (UInt8.ofNat (n + 240)).toNat % 8 = n ∧
      ∀ m < 64, (n = 0 → 16 ≤ m) → (n = 4 → m < 16) →
        mayFollow (.ofNat (n + 240)) (.ofNat (m + 128)) = true := by
  decide +kernel

theorem utf8EncodeChar_eq (c : Char) :
    String.utf8EncodeChar c =
      if c.toNat ≤ 0x7F then [.ofNat c.toNat]
      else if c.toNat ≤ 0x7FF then
        [.ofNat (c.toNat / 64 % 32 + 192), .ofNat (c.toNat % 64 + 128)]
      else if c.toNat ≤ 0xFFFF then
        [.ofNat (c.toNat / 4096 % 16 + 224), .ofNat (c.toNat / 64 % 64 + 128),
          .ofNat (c.toNat % 64 + 128)]
      else
        [.ofNat (c.toNat / 262144 % 8 + 240), .ofNat (c.toNat / 4096 % 64 + 128),
          .ofNat (c.toNat / 64 % 64 + 128), .ofNat (c.toNat % 64 + 128)] := rfl

theorem bytes_ascii_cons {c : Char} (h : c.toNat ≤ 0x7F) (cs : List Char) :
    bytes (c :: cs) = .ofNat c.toNat :: bytes cs := by
  rw [bytes, List.flatMap_cons, utf8EncodeChar_eq, if_pos h]
  rfl

/-- The bytes of a character read as this character, whatever follows. -/
theorem decodeLossy_utf8EncodeChar_append (c : Char) (bs : List UInt8) :
    decodeLossy (String.utf8EncodeChar c ++ bs) = c :: decodeLossy bs := by
  have hvalid : c.toNat < 0xD800 ∨ 0xDFFF < c.toNat ∧ c.toNat < 0x110000 := c.valid
  have hchar : ∀ n, n = c.toNat → Char.ofNat n :: decodeLossy bs = c :: decodeLossy bs := by
    rintro n rfl
    rw [Char.ofNat_toNat]
  rw [utf8EncodeChar_eq]
  split
  · have hbyte : (UInt8.ofNat c.toNat).toNat = c.toNat := Nat.mod_eq_of_lt (by omega)
    have hascii : UInt8.ofNat c.toNat < 0x80 := by
      rw [UInt8.lt_iff_toNat_lt, hbyte]
      exact Nat.lt_succ_of_le ‹_›
    exact (decodeLossy_ascii_cons hascii bs).trans (hchar _ hbyte)
  have ⟨hlast, hlow⟩ := continuation_ofNat (c.toNat % 64) (by omega)
  split
  · have ⟨hfirst, hlead⟩ := announced_two (c.toNat / 64 % 32) (by omega) (by omega)
    refine (decodeLossy_two hfirst hlast bs).trans (hchar _ ?_)
    rw [hlead, hlow]
    omega
  have ⟨hlast', hlow'⟩ := continuation_ofNat (c.toNat / 64 % 64) (by omega)
  split
  · have ⟨hfirst, hlead, hfollow⟩ := announced_three (c.toNat / 4096 % 16) (by omega)
    have hsecond := hfollow (c.toNat / 64 % 64) (by omega) (by omega) (by omega)
    refine (decodeLossy_three hfirst hsecond hlast bs).trans (hchar _ ?_)
    rw [hlead, hlow, hlow']
    omega
  · have ⟨_, hlow''⟩ := continuation_ofNat (c.toNat / 4096 % 64) (by omega)
    have ⟨hfirst, hlead, hfollow⟩ := announced_four (c.toNat / 262144 % 8) (by omega)
    have hsecond := hfollow (c.toNat / 4096 % 64) (by omega) (by omega) (by omega)
    refine (decodeLossy_four hfirst hsecond hlast' hlast bs).trans (hchar _ ?_)
    rw [hlead, hlow, hlow', hlow'']
    omega

/-- A text is read back from its bytes. -/
theorem decodeLossy_bytes (cs : List Char) : decodeLossy (bytes cs) = cs := by
  induction cs with
  | nil => rfl
  | cons c cs ih =>
    rw [bytes, List.flatMap_cons, decodeLossy_utf8EncodeChar_append]
    exact congrArg (c :: ·) ih

/-! ## The order of bytes -/

/-- Bytes are compared from the front on, the first as numbers. -/
theorem ofNat_cons_lt {m n : Nat} {bs bs' : List UInt8} (hn : n < 256) (hle : m ≤ n)
    (h : m = n → bs < bs') : UInt8.ofNat m :: bs < UInt8.ofNat n :: bs' := by
  rw [List.cons_lt_cons_iff]
  rcases Nat.lt_or_eq_of_le hle with hlt | heq
  · exact .inl ((UInt8.ofNat_lt_iff_lt (Nat.lt_trans hlt hn) hn).2 hlt)
  · exact .inr ⟨congrArg UInt8.ofNat heq, h heq⟩

theorem utf8EncodeChar_append_lt {c d : Char} (h : c < d) (bs bs' : List UInt8) :
    String.utf8EncodeChar c ++ bs < String.utf8EncodeChar d ++ bs' := by
  have hlt : c.toNat < d.toNat := h
  have hvalid : d.toNat < 0xD800 ∨ 0xDFFF < d.toNat ∧ d.toNat < 0x110000 := d.valid
  rw [utf8EncodeChar_eq c, utf8EncodeChar_eq d]
  -- A first byte that announces more bytes is larger; of as many bytes, the first that differs
  -- decides.
  split
  · repeat' split
    all_goals exact ofNat_cons_lt (by omega) (by omega) (by omega)
  rw [if_neg (show ¬ d.toNat ≤ 0x7F by omega)]
  split
  · split
    · exact ofNat_cons_lt (by omega) (by omega) fun _ =>
        ofNat_cons_lt (by omega) (by omega) (by omega)
    · split <;> exact ofNat_cons_lt (by omega) (by omega) (by omega)
  rw [if_neg (show ¬ d.toNat ≤ 0x7FF by omega)]
  split
  · split
    · exact ofNat_cons_lt (by omega) (by omega) fun _ =>
        ofNat_cons_lt (by omega) (by omega) fun _ =>
          ofNat_cons_lt (by omega) (by omega) (by omega)
    · exact ofNat_cons_lt (by omega) (by omega) (by omega)
  rw [if_neg (show ¬ d.toNat ≤ 0xFFFF by omega)]
  exact ofNat_cons_lt (by omega) (by omega) fun _ =>
    ofNat_cons_lt (by omega) (by omega) fun _ =>
      ofNat_cons_lt (by omega) (by omega) fun _ =>
        ofNat_cons_lt (by omega) (by omega) (by omega)

theorem bytes_lt_bytes {cs ds : List Char} (h : List.Lex (· < ·) cs ds) : bytes cs < bytes ds := by
  induction h with
  | @nil d ds =>
    refine List.not_le.1 fun hle => ?_
    have hread := decodeLossy_bytes (d :: ds)
    rw [List.le_nil.1 hle] at hread
    cases hread
  | cons _ ih =>
    rw [bytes, bytes, List.flatMap_cons, List.flatMap_cons]
    exact List.append_left_lt ih
  | rel hlt =>
    rw [bytes, bytes, List.flatMap_cons, List.flatMap_cons]
    exact utf8EncodeChar_append_lt hlt _ _

/-- Texts are ordered as their bytes are. -/
theorem bytes_le_bytes_iff {s t : String} : bytes s.toList ≤ bytes t.toList ↔ s ≤ t := by
  constructor
  · intro h
    exact String.not_lt.1 fun hlt => h (bytes_lt_bytes hlt)
  · intro h
    by_cases hlt : s < t
    · exact List.le_of_lt (bytes_lt_bytes hlt)
    · obtain rfl := String.le_antisymm h (String.not_lt.1 hlt)
      exact List.le_refl _

end Text

end StubServer

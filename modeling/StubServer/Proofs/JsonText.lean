import Mathlib.Data.List.Basic
import StubServer.Json.Parse

/-!
# Reading written JSON

A value whose numbers are natural numbers, and which is not nested too deep for a reader, is read
from its text as it was written (`ofJsonText_write`).
-/

namespace StubServer

/-! ## Numbers -/

namespace Number

theorem isDigit_toDigits {n : Nat} {c : Char} (h : c ∈ Nat.toDigits 10 n) :
    Text.isDigit c = true := by
  have hc := Nat.isDigit_of_mem_toDigits (by omega) (by omega) h
  simpa [Text.isDigit, Char.isDigit, Char.le_def] using hc

theorem head?_toDigits_ne {n : Nat} (hn : n ≠ 0) : (Nat.toDigits 10 n).head? ≠ some '0' := by
  induction n using Nat.strongRecOn with
  | ind n ih =>
    by_cases hlt : n < 10
    · have hdigits : ∀ m < 10, m ≠ 0 → [Nat.digitChar m].head? ≠ some '0' := by decide
      rw [Nat.toDigits_of_lt_base hlt]
      exact hdigits n hlt hn
    · rw [Nat.toDigits_of_base_le (by omega) (by omega),
        List.head?_append_of_ne_nil _ Nat.toDigits_ne_nil]
      exact ih (n / 10) (by omega) (by omega)

theorem ofDigits_toDigits (n : Nat) : ofDigits (Nat.toDigits 10 n) = n := by
  have h := Nat.ofDigitChars_ten_toDigits (n := n)
  rwa [Nat.ofDigitChars_eq_foldl] at h

theorem toList_toString (n : Nat) : (toString n).toList = Nat.toDigits 10 n := by
  rw [Nat.toString_eq_ofList_toDigits, String.toList_ofList]

theorem exists_toString_eq_cons (n : Nat) :
    ∃ d ds, (toString n).toList = d :: ds ∧ Text.isDigit d = true := by
  rw [toList_toString]
  obtain ⟨d, ds, hds⟩ := List.exists_cons_of_ne_nil (Nat.toDigits_ne_nil (b := 10) (n := n))
  exact ⟨d, ds, hds, isDigit_toDigits (hds ▸ List.mem_cons_self)⟩

theorem ne_of_isDigit {c d : Char} (hc : Text.isDigit c = true) (hd : Text.isDigit d = false) :
    c ≠ d := by
  rintro rfl
  rw [hc] at hd
  cases hd

theorem readInteger?_toString (n : Nat) : readInteger? (toString n).toList = some (n : Int) := by
  have hall : (Nat.toDigits 10 n).all Text.isDigit = true :=
    List.all_eq_true.2 fun c => isDigit_toDigits
  have hne : (Nat.toDigits 10 n).isEmpty = false := by simp
  rw [toList_toString]
  unfold readInteger?
  split
  · rename_i heq
    exact absurd rfl (ne_of_isDigit (isDigit_toDigits (heq ▸ List.mem_cons_self)) (by decide))
  · rename_i heq
    exact absurd rfl (ne_of_isDigit (isDigit_toDigits (heq ▸ List.mem_cons_self)) (by decide))
  · simp [hne, hall, ofDigits_toDigits]

end Number

namespace Json

/-- What may follow a value. -/
def EndsValue (rest : List Char) : Prop :=
  ∀ c ∈ rest.head?, c = ',' ∨ c = ']' ∨ c = '\x7d'

theorem takeWhile_isDigit_append {ds rest : List Char} (hds : ∀ c ∈ ds, Text.isDigit c = true)
    (hrest : EndsValue rest) : (ds ++ rest).takeWhile Text.isDigit = ds := by
  refine (Text.takeWhile_dropWhile_iff.2 ⟨rfl, hds, fun c hc => ?_⟩).1
  rcases hrest c hc with rfl | rfl | rfl <;> decide

theorem someDigits?_append {ds rest : List Char} (hne : ds ≠ [])
    (hds : ∀ c ∈ ds, Text.isDigit c = true) (hrest : EndsValue rest) :
    someDigits? (ds ++ rest) = some (ds, rest) := by
  simp [someDigits?, takeWhile_isDigit_append hds hrest, hne]

theorem numberLiteral?_toString (n : Nat) {rest : List Char} (hrest : EndsValue rest) :
    numberLiteral? ((toString n).toList ++ rest) = some ((toString n).toList, rest) := by
  obtain ⟨d, ds, hds, hd⟩ := Number.exists_toString_eq_cons n
  rw [Number.toList_toString] at hds ⊢
  have hdigits : ∀ c ∈ Nat.toDigits 10 n, Text.isDigit c = true := fun c => Number.isDigit_toDigits
  have hsome := someDigits?_append Nat.toDigits_ne_nil hdigits hrest
  have hzero : (Nat.toDigits 10 n).head? = some '0' → (Nat.toDigits 10 n).length ≤ 1 := by
    intro hhead
    by_contra hlength
    refine Number.head?_toDigits_ne (n := n) ?_ hhead
    rintro rfl
    exact hlength (by simp)
  unfold numberLiteral?
  split
  rename_i hcut
  split at hcut
  · rename_i heq
    rw [hds] at heq
    cases heq
    exact absurd hd (by decide)
  · cases hcut
    rw [hsome]
    rcases rest with _ | ⟨c, rest⟩
    · simpa using hzero
    · rcases hrest c rfl with rfl | rfl | rfl <;> simpa using hzero

theorem escapeChar_ne_nil (c : Char) : escapeChar c ≠ [] := by
  unfold escapeChar
  split <;> first | exact List.cons_ne_nil _ _ | split_ifs <;> exact List.cons_ne_nil _ _

theorem codeUnit?_append {cs : List Char} {n : Nat} (h : codeUnit? cs = some (n, []))
    (rest : List Char) : codeUnit? (cs ++ rest) = some (n, rest) := by
  unfold codeUnit? at h
  split at h
  · simp only [Option.bind_eq_bind, Option.bind_eq_some_iff, Option.pure_def, Option.some.injEq,
      Prod.mk.injEq] at h
    obtain ⟨a', ha, b', hb, c', hc, d', hd, hn, rfl⟩ := h
    simp [codeUnit?, ha, hb, hc, hd, hn]
  · cases h

theorem codeUnit?_toHex : ∀ n < 32, codeUnit? (Number.toHex n 4).toList = some (n, []) := by
  decide +kernel

theorem stringBody_escapeChar (done : List Char) (readable : Bool) (fuel : Nat) (c : Char)
    (cs : List Char) :
    stringBody done readable (fuel + 1) (escapeChar c ++ cs) =
      stringBody (c :: done) readable fuel cs := by
  unfold escapeChar
  split
  · rfl
  · rfl
  · rfl
  · rfl
  · rfl
  · split_ifs with h8 h12 h32
    · obtain rfl : c = Char.ofNat 8 := by rw [← h8, Char.ofNat_toNat]
      rfl
    · obtain rfl : c = Char.ofNat 12 := by rw [← h12, Char.ofNat_toNat]
      rfl
    · have hunit := codeUnit?_append (codeUnit?_toHex c.toNat h32) cs
      have hhigh : isHighSurrogate c.toNat = false := by
        simp only [isHighSurrogate, Bool.and_eq_false_iff, decide_eq_false_iff_not]
        omega
      have hlow : isLowSurrogate c.toNat = false := by
        simp only [isLowSurrogate, Bool.and_eq_false_iff, decide_eq_false_iff_not]
        omega
      simp [stringBody, hunit, hhigh, hlow]
    · rw [stringBody.eq_def]
      grind

theorem length_escapeChar_pos (c : Char) : 0 < (escapeChar c).length :=
  List.length_pos_of_ne_nil (escapeChar_ne_nil c)

/-- The characters of a string are read from their escapes, up to the quote behind them. -/
theorem stringBody_escaped (done : List Char) (readable : Bool) (cs rest : List Char) (fuel : Nat)
    (hfuel : (cs.flatMap escapeChar).length < fuel) :
    stringBody done readable fuel (cs.flatMap escapeChar ++ '"' :: rest) =
      some (if readable then some (.ofList (done.reverse ++ cs)) else none, rest) := by
  induction cs generalizing done fuel with
  | nil =>
    obtain ⟨fuel, rfl⟩ := Nat.exists_eq_add_of_lt hfuel
    simp [stringBody]
  | cons c cs ih =>
    rw [List.flatMap_cons, List.length_append] at hfuel
    have hc := length_escapeChar_pos c
    obtain ⟨fuel, rfl⟩ := Nat.exists_eq_succ_of_ne_zero (n := fuel) (by omega)
    rw [List.flatMap_cons, List.append_assoc, stringBody_escapeChar, ih _ _ (by omega)]
    simp

/-! ## Values -/

/-- The value has at most so many levels of lists and records, and its numbers are natural. -/
inductive Within : Nat → Json → Prop
  | null {levels : Nat} : Within levels .null
  | bool {levels : Nat} (b : Bool) : Within levels (.bool b)
  | number {levels : Nat} (n : Nat) : Within levels (.ofNat n)
  | string {levels : Nat} (s : String) : Within levels (.string s)
  | array {levels : Nat} {items : List Json} (h : ∀ j ∈ items, Within levels j) :
      Within (levels + 1) (.array items)
  | object {levels : Nat} {fields : List (String × Json)} (h : ∀ f ∈ fields, Within levels f.2) :
      Within (levels + 1) (.object fields)

/-- A field as it is written. -/
def writtenField (f : String × Json) : List Char :=
  (quote f.1).toList ++ ':' :: (write f.2).toList

theorem toList_quote (s : String) :
    (quote s).toList = '"' :: (s.toList.flatMap escapeChar ++ ['"']) := by
  simp [quote]

theorem writeItems_eq (items : List Json) : writeItems items = items.map write := by
  induction items with
  | nil => rfl
  | cons j items ih => rw [writeItems, ih, List.map_cons]

theorem writeFields_eq (fields : List (String × Json)) :
    writeFields fields = fields.map fun f => quote f.1 ++ ":" ++ write f.2 := by
  induction fields with
  | nil => rfl
  | cons f fields ih => rw [writeFields, ih, List.map_cons]

theorem toList_write_array (items : List Json) :
    (write (.array items)).toList =
      '[' :: ([','].intercalate (items.map fun j => (write j).toList) ++ [']']) := by
  simp [write, writeItems_eq, Text.toList_join, String.toList_append, Function.comp_def]

theorem toList_write_object (fields : List (String × Json)) :
    (write (.object fields)).toList =
      '\x7b' :: ([','].intercalate (fields.map writtenField) ++ ['\x7d']) := by
  have hmap : fields.map writtenField =
      fields.map fun f => (quote f.1 ++ ":" ++ write f.2).toList := by simp [writtenField]
  simp [write, writeFields_eq, Text.toList_join, String.toList_append, hmap, Function.comp_def]

/-- The value is read from its text inside so many lists and records. -/
def ReadsBack (depth : Nat) (j : Json) : Prop :=
  ∀ (fuel : Nat) (rest : List Char), 2 * (write j).toList.length ≤ fuel → EndsValue rest →
    value depth (fuel + 1) ((write j).toList ++ rest) = (.ofValue j, some rest)

theorem skipBlanks_cons {c : Char} (hc : isJsonBlank c = false) (cs : List Char) :
    skipBlanks (c :: cs) = c :: cs := by
  simp [skipBlanks, hc]

theorem isJsonBlank_of_isDigit {d : Char} (hd : Text.isDigit d = true) :
    isJsonBlank d = false := by
  simp only [isJsonBlank, Bool.or_eq_false_iff, beq_eq_false_iff_ne]
  refine ⟨⟨⟨?_, ?_⟩, ?_⟩, ?_⟩ <;> exact Number.ne_of_isDigit hd rfl

/-- No text of a value starts with a blank or with what closes a list. -/
theorem Within.exists_head {levels : Nat} {j : Json} (h : Within levels j) :
    ∃ c cs, (write j).toList = c :: cs ∧ isJsonBlank c = false ∧ c ≠ ']' := by
  cases h with
  | null => exact ⟨_, _, rfl, rfl, by decide⟩
  | bool b => cases b <;> exact ⟨_, _, rfl, rfl, by decide⟩
  | number n =>
    obtain ⟨d, ds, hds, hd⟩ := Number.exists_toString_eq_cons n
    exact ⟨d, ds, hds, isJsonBlank_of_isDigit hd, Number.ne_of_isDigit hd rfl⟩
  | string s => exact ⟨_, _, toList_quote s, rfl, by decide⟩
  | array => exact ⟨_, _, toList_write_array _, rfl, by decide⟩
  | object => exact ⟨_, _, toList_write_object _, rfl, by decide⟩

theorem readsBack_null (depth : Nat) : ReadsBack depth .null := by
  intro fuel rest _ _
  rw [value]
  rfl

theorem readsBack_bool (depth : Nat) (b : Bool) : ReadsBack depth (.bool b) := by
  intro fuel rest _ _
  rw [value]
  cases b <;> rfl

theorem readsBack_number (depth n : Nat) : ReadsBack depth (.ofNat n) := by
  intro fuel rest _ hrest
  have hliteral := numberLiteral?_toString n hrest
  change value depth (fuel + 1) ((toString n).toList ++ rest) = (.ofNumber (toString n), some rest)
  obtain ⟨d, ds, hds, hd⟩ := Number.exists_toString_eq_cons n
  have htext : String.ofList (d :: ds) = toString n := by rw [← hds, String.ofList_toList]
  rw [hds, List.cons_append] at hliteral ⊢
  rw [value, skipBlanks_cons (isJsonBlank_of_isDigit hd)]
  split
  case h_7 => rw [hliteral, ← htext]
  -- The first character of the other forms is no digit.
  all_goals
    rename_i heq
    exact absurd (List.head_eq_of_cons_eq heq) (Number.ne_of_isDigit hd rfl)

theorem readsBack_string (depth : Nat) (s : String) : ReadsBack depth (.string s) := by
  intro fuel rest hfuel _
  rw [write, toList_quote] at hfuel ⊢
  rw [value, List.cons_append, skipBlanks_cons rfl]
  simp only [List.append_assoc, List.singleton_append]
  rw [stringBody_escaped [] true s.toList rest _ (by rw [List.length_append]; omega)]
  simp [Document.ofValue]

/-- Items are read from their texts up to the bracket behind them. -/
theorem items_write {depth : Nat} {j : Json} {items : List Json}
    (h : ∀ k ∈ j :: items, ReadsBack depth k) (fuel : Nat)
    (hfuel : 2 * ([','].intercalate ((j :: items).map fun k => (write k).toList)).length + 1 ≤ fuel)
    (rest : List Char) :
    Json.items depth (fuel + 1)
        ([','].intercalate ((j :: items).map fun k => (write k).toList) ++ ']' :: rest) =
      (Document.ofItems (j :: items), true, some rest) := by
  induction items generalizing j fuel with
  | nil =>
    obtain ⟨fuel, rfl⟩ := Nat.exists_eq_add_of_le' (show 1 ≤ fuel by omega)
    rw [List.map_singleton, List.intercalate_singleton] at hfuel ⊢
    have hvalue := h j List.mem_cons_self fuel (']' :: rest) (by omega) (by simp [EndsValue])
    rw [Json.items, hvalue]
    rfl
  | cons k items ih =>
    obtain ⟨fuel, rfl⟩ := Nat.exists_eq_add_of_le' (show 1 ≤ fuel by omega)
    rw [List.map_cons, List.intercalate_cons_of_ne_nil (by simp)] at hfuel ⊢
    simp only [List.length_append, List.length_singleton] at hfuel
    rw [List.forall_mem_cons] at h
    have hrest := ih h.2 fuel (by omega)
    have hvalue := h.1 fuel (',' :: ([','].intercalate
      ((k :: items).map fun k => (write k).toList) ++ ']' :: rest)) (by omega) (by simp [EndsValue])
    rw [Json.items, List.append_assoc, List.append_assoc, List.singleton_append, hvalue]
    simp only [skipBlanks_cons (show isJsonBlank ',' = false from rfl), hrest]
    rfl

theorem readsBack_array {depth levels : Nat} {items : List Json} (hdepth : depth + 1 < maxDepth)
    (hwithin : ∀ j ∈ items, Within levels j) (h : ∀ j ∈ items, ReadsBack (depth + 1) j) :
    ReadsBack depth (.array items) := by
  intro fuel rest hfuel _
  have hbury : ∀ d, buryAt (depth + 1) d = d := fun d => if_neg (by omega)
  rw [toList_write_array] at hfuel ⊢
  rw [value, List.cons_append, skipBlanks_cons rfl]
  simp only [List.append_assoc, List.singleton_append, hbury]
  rcases items with _ | ⟨j, items⟩
  · rw [List.map_nil, List.intercalate_nil, List.nil_append, skipBlanks_cons rfl]
    rfl
  · simp only [List.length_cons, List.length_append] at hfuel
    obtain ⟨fuel, rfl⟩ := Nat.exists_eq_add_of_le' (show 1 ≤ fuel by omega)
    have hitems := items_write h fuel (by omega) rest
    -- The list is not taken for an empty one, since its first item does not start with a bracket.
    obtain ⟨c, cs, hcs, hblank, hclose⟩ := (hwithin j List.mem_cons_self).exists_head
    obtain ⟨tail, htail⟩ : ∃ tail, [','].intercalate ((j :: items).map fun k => (write k).toList) =
        c :: tail := by
      rcases items with _ | ⟨k, items⟩
      · exact ⟨cs, by rw [List.map_singleton, List.intercalate_singleton, hcs]⟩
      · exact ⟨_, by rw [List.map_cons, List.intercalate_cons_of_ne_nil (by simp), hcs]; rfl⟩
    rw [htail, List.cons_append] at hitems ⊢
    rw [skipBlanks_cons hblank]
    split
    · rename_i heq
      exact absurd (List.head_eq_of_cons_eq heq) hclose
    · rw [hitems]
      rfl

theorem length_write_le (f : String × Json) :
    (write f.2).toList.length ≤ (writtenField f).length := by
  simp only [writtenField, List.length_append, List.length_cons]
  omega

theorem writtenField_append (f : String × Json) (rest : List Char) :
    writtenField f ++ rest =
      '"' :: (f.1.toList.flatMap escapeChar ++ '"' :: ':' :: ((write f.2).toList ++ rest)) := by
  simp [writtenField, toList_quote]

section Field

variable {depth fuel : Nat} {f : String × Json}

/-- A field is read from its text, the last one up to the brace behind it. -/
theorem fields_last (h : ReadsBack depth f.2) (hfuel : 2 * (writtenField f).length ≤ fuel)
    (rest : List Char) :
    Json.fields depth (fuel + 2) (writtenField f ++ '\x7d' :: rest) =
      ([(some f.1, .ofValue f.2)], true, some rest) := by
  have hlength := length_write_le f
  have hvalue := h fuel ('\x7d' :: rest) (by omega) (by simp [EndsValue])
  rw [writtenField_append, Json.fields, skipBlanks_cons rfl]
  simp only
  rw [stringBody_escaped [] true f.1.toList _ _ (by rw [List.length_append]; omega)]
  simp [skipBlanks, isJsonBlank, hvalue]

/-- A field is read from its text, and the others behind the comma are read on. -/
theorem fields_more (h : ReadsBack depth f.2) (hfuel : 2 * (writtenField f).length ≤ fuel)
    {rest behind : List Char} {fs : List (Option String × Document)}
    (hrest : Json.fields depth (fuel + 1) rest = (fs, true, some behind)) :
    Json.fields depth (fuel + 2) (writtenField f ++ ',' :: rest) =
      ((some f.1, .ofValue f.2) :: fs, true, some behind) := by
  have hlength := length_write_le f
  have hvalue := h fuel (',' :: rest) (by omega) (by simp [EndsValue])
  rw [writtenField_append, Json.fields, skipBlanks_cons rfl]
  simp only
  rw [stringBody_escaped [] true f.1.toList _ _ (by rw [List.length_append]; omega)]
  simp [skipBlanks, isJsonBlank, hvalue, hrest]

end Field

/-- Fields are read from their texts up to the brace behind them. -/
theorem fields_write {depth : Nat} {f : String × Json} {fields : List (String × Json)}
    (h : ∀ g ∈ f :: fields, ReadsBack depth g.2) (fuel : Nat)
    (hfuel : 2 * ([','].intercalate ((f :: fields).map writtenField)).length + 1 ≤ fuel)
    (rest : List Char) :
    Json.fields depth (fuel + 1)
        ([','].intercalate ((f :: fields).map writtenField) ++ '\x7d' :: rest) =
      (Document.ofFields (f :: fields), true, some rest) := by
  induction fields generalizing f fuel with
  | nil =>
    obtain ⟨fuel, rfl⟩ := Nat.exists_eq_add_of_le' (show 1 ≤ fuel by omega)
    rw [List.map_singleton, List.intercalate_singleton] at hfuel ⊢
    exact fields_last (h f List.mem_cons_self) (by omega) rest
  | cons g fields ih =>
    obtain ⟨fuel, rfl⟩ := Nat.exists_eq_add_of_le' (show 1 ≤ fuel by omega)
    rw [List.map_cons, List.intercalate_cons_of_ne_nil (by simp)] at hfuel ⊢
    simp only [List.length_append, List.length_singleton] at hfuel
    rw [List.forall_mem_cons] at h
    have hrest := ih h.2 fuel (by omega)
    rw [List.append_assoc, List.append_assoc, List.singleton_append]
    exact fields_more h.1 (by omega) hrest

theorem readsBack_object {depth : Nat} {fields : List (String × Json)}
    (hdepth : depth + 1 < maxDepth) (h : ∀ f ∈ fields, ReadsBack (depth + 1) f.2) :
    ReadsBack depth (.object fields) := by
  intro fuel rest hfuel _
  have hbury : ∀ d, buryAt (depth + 1) d = d := fun d => if_neg (by omega)
  rw [toList_write_object] at hfuel ⊢
  rw [value, List.cons_append, skipBlanks_cons rfl]
  simp only [List.append_assoc, List.singleton_append, hbury]
  rcases fields with _ | ⟨f, fields⟩
  · rw [List.map_nil, List.intercalate_nil, List.nil_append, skipBlanks_cons rfl]
    rfl
  · simp only [List.length_cons, List.length_append] at hfuel
    obtain ⟨fuel, rfl⟩ := Nat.exists_eq_add_of_le' (show 1 ≤ fuel by omega)
    have hfields := fields_write h fuel (by omega) rest
    obtain ⟨tail, htail⟩ : ∃ tail, [','].intercalate ((f :: fields).map writtenField) =
        '"' :: tail := by
      rcases fields with _ | ⟨g, fields⟩
      · exact ⟨_, writtenField_append f []⟩
      · exact ⟨_, by rw [List.map_cons, List.intercalate_cons_of_ne_nil (by simp),
          List.append_assoc, writtenField_append]⟩
    rw [htail, List.cons_append] at hfields ⊢
    rw [skipBlanks_cons rfl]
    split
    · rename_i heq
      cases heq
    · rw [hfields]
      rfl

theorem Within.readsBack {levels : Nat} {j : Json} (h : Within levels j) {depth : Nat}
    (hdepth : depth + levels < maxDepth) : ReadsBack depth j := by
  induction h generalizing depth with
  | null => exact readsBack_null depth
  | bool b => exact readsBack_bool depth b
  | number n => exact readsBack_number depth n
  | string s => exact readsBack_string depth s
  | array h ih => exact readsBack_array (by omega) h fun j hj => ih j hj (by omega)
  | object _ ih => exact readsBack_object (by omega) fun f hf => ih f hf (by omega)

end Json

/-! ## The levels of a text -/

/-- Readers find at most so many levels of lists and records in the document, and no unquoted
words. -/
inductive Document.Within : Nat → Document → Prop
  | null {levels : Nat} : Within levels .null
  | bool {levels : Nat} (b : Bool) : Within levels (.bool b)
  | integer {levels : Nat} (n : Int) : Within levels (.integer n)
  | real {levels : Nat} (literal : String) : Within levels (.real literal)
  | text {levels : Nat} (s : String) : Within levels (.text s)
  | list {levels : Nat} {items : List Document} {complete : Bool}
      (h : ∀ d ∈ items, Within levels d) : Within (levels + 1) (.list items complete)
  | record {levels : Nat} {fields : List (Option String × Document)} {complete : Bool}
      (h : ∀ f ∈ fields, Within levels f.2) : Within (levels + 1) (.record fields complete)
  | unreadable {levels : Nat} : Within levels .unreadable
  | buried {levels : Nat} (d : Document) : Within levels (.buried d)
  | broken {levels : Nat} : Within levels .broken

namespace Json

theorem ofNumber_within {levels : Nat} (literal : String) :
    (Document.ofNumber literal).Within levels := by
  unfold Document.ofNumber
  split
  · split
    · exact .real _
    · exact .integer _
  · exact .real _

theorem buryAt_within {depth levels : Nat} {d : Document} (hlevels : maxDepth ≤ depth + levels + 1)
    (h : ∀ below, levels = below + 1 → maxDepth ≤ depth + 1 + below + 1 → d.Within levels) :
    (buryAt (depth + 1) d).Within levels := by
  unfold buryAt
  split
  · exact .buried d
  · exact h (levels - 1) (by omega) (by omega)

section Levels

variable {depth levels fuel : Nat} {cs : List Char}

theorem value_succ_within (hlevels : maxDepth ≤ depth + levels + 1)
    (hitems : ∀ below rest, maxDepth ≤ depth + 1 + below + 1 →
      ∀ d ∈ (items (depth + 1) fuel rest).1, d.Within below)
    (hfields : ∀ below rest, maxDepth ≤ depth + 1 + below + 1 →
      ∀ f ∈ (fields (depth + 1) fuel rest).1, f.2.Within below) :
    (value depth (fuel + 1) cs).1.Within levels := by
  rw [value]
  split
  · exact .null
  · exact .bool _
  · exact .bool _
  · split
    · exact .text _
    · exact .unreadable
    · exact .broken
  · split <;> refine buryAt_within hlevels ?_ <;> rintro below rfl hbelow
    · exact .list (by simp)
    · exact .list (hitems below _ hbelow)
  · split <;> refine buryAt_within hlevels ?_ <;> rintro below rfl hbelow
    · exact .record (by simp)
    · exact .record (hfields below _ hbelow)
  · split
    · exact ofNumber_within _
    · exact .broken

theorem items_succ_within (hvalue : (value depth fuel cs).1.Within levels)
    (hitems : ∀ rest, ∀ d ∈ (items depth fuel rest).1, d.Within levels) :
    ∀ d ∈ (items depth (fuel + 1) cs).1, d.Within levels := by
  rw [items]
  split <;> rename_i heq <;> rw [heq] at hvalue
  · simpa using hvalue
  · split
    · simpa using hvalue
    · exact List.forall_mem_cons.2 ⟨hvalue, hitems _⟩
    · simpa using hvalue

theorem fields_succ_within (hvalue : ∀ rest, (value depth fuel rest).1.Within levels)
    (hfields : ∀ rest, ∀ f ∈ (fields depth fuel rest).1, f.2.Within levels) :
    ∀ f ∈ (fields depth (fuel + 1) cs).1, f.2.Within levels := by
  rw [fields]
  split
  · split
    · simp
    · split
      · rename_i rest _
        have hvalue := hvalue rest
        split <;> rename_i heq <;> rw [heq] at hvalue
        · simpa using hvalue
        · split
          · simpa using hvalue
          · exact List.forall_mem_cons.2 ⟨hvalue, hfields _⟩
          · simpa using hvalue
      · simpa using Document.Within.broken
  · simp

/-- A text is read into lists and records of which those too deep for a reader are buried. -/
theorem value_within (fuel : Nat) : ∀ (depth levels : Nat) (cs : List Char),
    maxDepth ≤ depth + levels + 1 →
    (value depth fuel cs).1.Within levels ∧ (∀ d ∈ (items depth fuel cs).1, d.Within levels) ∧
      ∀ f ∈ (fields depth fuel cs).1, f.2.Within levels := by
  induction fuel with
  | zero =>
    intro depth levels cs _
    simp only [value, items, fields, List.not_mem_nil, false_implies, implies_true, and_true]
    exact .broken
  | succ fuel ih =>
    intro depth levels cs hlevels
    exact ⟨value_succ_within hlevels (fun below rest h => (ih _ below rest h).2.1)
        fun below rest h => (ih _ below rest h).2.2,
      items_succ_within (ih depth levels cs hlevels).1
        fun rest => (ih depth levels rest hlevels).2.1,
      fields_succ_within (fun rest => (ih depth levels rest hlevels).1)
        fun rest => (ih depth levels rest hlevels).2.2⟩

end Levels

end Json

theorem Document.ofJsonText_within {levels : Nat} (hlevels : Json.maxDepth ≤ levels + 1)
    (text : String) : (ofJsonText text).1.Within levels := by
  have h := (Json.value_within (2 * text.toList.length + 2) 0 levels text.toList (by omega)).1
  simp only [ofJsonText]
  split <;> rename_i heq <;> rw [heq] at h <;> exact h

/-- The text of a value that readers can reach into is read as this value. -/
theorem Document.ofJsonText_write {j : Json} {levels : Nat} (h : j.Within levels)
    (hlevels : levels < Json.maxDepth) : ofJsonText j.write = (ofValue j, true) := by
  have hreads : j.ReadsBack 0 := h.readsBack (by omega)
  have hvalue := hreads (2 * j.write.toList.length + 1) [] (by omega) (by simp [Json.EndsValue])
  rw [List.append_nil] at hvalue
  simp [ofJsonText, hvalue, Json.skipBlanks]

end StubServer

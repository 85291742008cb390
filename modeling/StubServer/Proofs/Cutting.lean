import StubServer.Template.Function.Array
import StubServer.Template.Function.Text

/-!
# Parts of arrays and texts

A part is found by bringing places into the bounds of what it is cut from, one after the other, with
bounds that depend on earlier places. In integers of 64 bits no step of this goes wrong
(`ArrayFunction.cutByBounds?_eq`, `TextFunction.cutByBounds?_eq`). Parts that meet at a place make
up the part from the first start to the last end (`parts_without_loss`).
-/

namespace StubServer

namespace Template

/-! ## Steps that can go wrong -/

/-- A result in 64 bits, if it does not overflow. -/
def withoutOverflow? (n : Int) : Option Int :=
  if Number.fitsInt64 n then some n else none

/-- The number of an interval that is closest to a number, if the interval is not reversed. -/
def clamp? (low high n : Int) : Option Int :=
  if low ≤ high then some (max low (min n high)) else none

/-- The part of a list from one index up to another, if they are in order and in range. -/
def part? {α : Type} (items : List α) (first last : Int) : Option (List α) :=
  if 0 ≤ first ∧ first ≤ last ∧ last ≤ items.length then
    some (items.extract first.toNat last.toNat)
  else none

/-- The part of an array by its bounds. Without an end it reaches to the end of the array. -/
def ArrayFunction.cutByBounds? (items : List Value) (start : Int) (stop : Option Int) :
    Option (List Value) := do
  let length ← withoutOverflow? items.length
  let first ← clamp? 0 length start
  match stop with
  | some n => part? items first (← clamp? first length n)
  | none => part? items first length

/-- The part of a text by its bounds. Without a length it is all that is left of the text. -/
def TextFunction.cutByBounds? (s : String) (start : Int) (length : Option Int) :
    Option String := do
  let count ← withoutOverflow? s.length
  let first ← clamp? 0 count start
  let room ← withoutOverflow? (count - first)
  let taken ← clamp? 0 room (length.getD room)
  String.ofList <$> part? s.toList first (first + taken)

section Steps

variable {α : Type} {items : List α} {low high n first last : Int}

theorem withoutOverflow?_eq (h : Number.fitsInt64 n = true) : withoutOverflow? n = some n :=
  if_pos h

/-- What is left of a number that fits does so too. -/
theorem fitsInt64_of_le {m : Int} (hm : 0 ≤ m) (h : m ≤ n) (hn : Number.fitsInt64 n = true) :
    Number.fitsInt64 m = true := by
  have hzero : Number.minInt64 ≤ 0 := by decide
  rw [Number.fitsInt64_iff] at hn ⊢
  omega

theorem clamp?_eq (h : low ≤ high) : clamp? low high n = some (max low (min n high)) :=
  if_pos h

theorem part?_eq (hfirst : 0 ≤ first) (hlast : first ≤ last) (hlength : last ≤ items.length) :
    part? items first last = some ((items.take last.toNat).drop first.toNat) := by
  rw [part?, if_pos ⟨hfirst, hlast, hlength⟩, List.extract_eq_take_drop, List.drop_take]

/-- Bringing a start into the bounds of a list does not change what is behind it. -/
theorem drop_clamped (items : List α) (n : Int) :
    items.drop (max 0 (min n items.length)).toNat = items.drop n.toNat :=
  List.drop_eq_drop_iff.2 (by omega)

end Steps

/-! ## Arrays -/

namespace ArrayFunction

variable {items : List Value} {i j k : Int}

theorem cutByBounds?_eq (hlength : Number.fitsInt64 items.length = true) (start : Int)
    (stop : Option Int) : cutByBounds? items start stop = some (cut items start stop) := by
  have hfirst : max 0 (min start items.length) ≤ (items.length : Int) := by omega
  have hdrop := drop_clamped items start
  unfold cutByBounds?
  rw [withoutOverflow?_eq hlength]
  simp only [Option.bind_eq_bind, Option.bind_some]
  rw [clamp?_eq (by omega), Option.bind_some]
  cases stop with
  | none =>
    dsimp only
    rw [part?_eq (by omega) hfirst (by omega), Int.toNat_natCast, List.take_length, hdrop]
    rfl
  | some n =>
    dsimp only
    rw [clamp?_eq hfirst, Option.bind_some, part?_eq (by omega) (by omega) (by omega)]
    simp only [cut, List.drop_take]
    rw [hdrop, Option.some.injEq, List.take_eq_take_iff, List.length_drop]
    omega

/-- Two parts of which one ends where the other one begins. -/
theorem cut_append_cut (hij : i ≤ j) (hjk : j ≤ k) :
    cut items i (some j) ++ cut items j (some k) = cut items i (some k) := by
  have hleft : items.take j.toNat = (items.take k.toNat).take j.toNat := by
    rw [List.take_take, Nat.min_eq_left (by omega)]
  have hright : (items.take k.toNat).drop j.toNat =
      ((items.take k.toNat).drop i.toNat).drop (j.toNat - i.toNat) := by
    rw [List.drop_drop, Nat.add_sub_cancel' (by omega)]
  simp only [cut]
  rw [hleft, List.drop_take, hright, List.take_append_drop]

theorem cut_zero_append_cut : cut items 0 (some k) ++ cut items k none = items :=
  List.take_append_drop k.toNat items

theorem cut_infix (start : Int) (stop : Option Int) : cut items start stop <:+: items := by
  cases stop with
  | none => exact (List.drop_suffix _ _).isInfix
  | some n => exact (List.drop_suffix _ _).isInfix.trans (List.take_prefix _ _).isInfix

end ArrayFunction

/-! ## Texts -/

namespace TextFunction

theorem toList_cut (s : String) (start : Int) (length : Option Int) :
    (cut s start length).toList =
      match length with
      | some n => (s.toList.drop start.toNat).take n.toNat
      | none => s.toList.drop start.toNat := by
  cases length <;> exact String.toList_ofList

theorem cutByBounds?_eq {s : String} (hlength : Number.fitsInt64 s.length = true) (start : Int)
    (length : Option Int) : cutByBounds? s start length = some (cut s start length) := by
  have hfirst : max 0 (min start s.length) ≤ (s.length : Int) := by omega
  have hdrop := drop_clamped s.toList start
  rw [String.length_toList] at hdrop
  have hroom : Number.fitsInt64 (s.length - max 0 (min start s.length)) = true :=
    fitsInt64_of_le (by omega) (by omega) hlength
  unfold cutByBounds?
  rw [withoutOverflow?_eq hlength]
  simp only [Option.bind_eq_bind, Option.bind_some]
  rw [clamp?_eq (by omega), Option.bind_some, withoutOverflow?_eq hroom, Option.bind_some,
    clamp?_eq (by omega), Option.bind_some, part?_eq (by omega) (by omega)
      (by rw [String.length_toList]; omega)]
  rw [Option.map_eq_map, Option.map_some, Option.some.injEq, ← String.toList_inj,
    String.toList_ofList, toList_cut, List.drop_take, hdrop]
  cases length with
  | none =>
    simp only [Option.getD_none]
    refine List.take_of_length_le ?_
    rw [List.length_drop, String.length_toList]
    omega
  | some n =>
    simp only [Option.getD_some]
    rw [List.take_eq_take_iff, List.length_drop, String.length_toList]
    omega

theorem cut_zero_append_cut (s : String) (k : Int) : cut s 0 (some k) ++ cut s k none = s := by
  rw [← String.toList_inj, String.toList_append, toList_cut, toList_cut]
  exact List.take_append_drop k.toNat s.toList

theorem cut_infix (s : String) (start : Int) (length : Option Int) :
    (cut s start length).toList <:+: s.toList := by
  rw [toList_cut]
  cases length with
  | none => exact (List.drop_suffix _ _).isInfix
  | some n => exact (List.take_prefix _ _).isInfix.trans (List.drop_suffix _ _).isInfix

end TextFunction

/-! ## Arguments -/

/-- The values read as these integers. -/
def AreIntegers (args : Arguments) (ns : List Int) : Prop :=
  args.map Value.asInteger? = ns.map some

instance (args : Arguments) (ns : List Int) : Decidable (AreIntegers args ns) :=
  inferInstanceAs (Decidable (_ = _))

/-- One integer, or two of them. -/
theorem AreIntegers.cases {args : Arguments} {n : Int} {m : Option Int}
    (h : AreIntegers args (n :: m.toList)) :
    (m = none ∧ ∃ v, args = [v] ∧ v.asInteger? = some n) ∨
      ∃ k, m = some k ∧ ∃ v w, args = [v, w] ∧ v.asInteger? = some n ∧ w.asInteger? = some k := by
  obtain ⟨v, args, rfl, hv, hargs⟩ := List.map_eq_cons_iff.1 h
  cases m with
  | none =>
    obtain rfl := List.map_eq_nil_iff.1 hargs
    exact .inl ⟨rfl, v, rfl, hv⟩
  | some k =>
    obtain ⟨w, args, rfl, hw, hargs⟩ := List.map_eq_cons_iff.1 hargs
    obtain rfl := List.map_eq_nil_iff.1 hargs
    exact .inr ⟨k, rfl, v, w, rfl, hv, hw⟩

theorem slice_call {items : List Value} {args : Arguments} {start : Int} {stop : Option Int}
    (h : AreIntegers args (start :: stop.toList)) :
    ArrayFunction.slice.call (.array items :: args) =
      .ok (.array (ArrayFunction.cut items start stop)) := by
  rcases h.cases with ⟨rfl, v, rfl, hv⟩ | ⟨k, rfl, v, w, rfl, hv, hw⟩
  · have hstart : Arguments.integer [.array items, v] 1 = .ok start :=
      Arguments.integer_eq_ok_iff.2 ⟨v, rfl, hv⟩
    rw [ArrayFunction.call, hstart]
    rfl
  · have hstart : Arguments.integer [.array items, v, w] 1 = .ok start :=
      Arguments.integer_eq_ok_iff.2 ⟨v, rfl, hv⟩
    have hstop : Arguments.integer [.array items, v, w] 2 = .ok k :=
      Arguments.integer_eq_ok_iff.2 ⟨w, rfl, hw⟩
    rw [ArrayFunction.call, hstart, hstop]
    rfl

theorem substr_call {s : String} {args : Arguments} {start : Int} {length : Option Int}
    (h : AreIntegers args (start :: length.toList)) :
    TextFunction.substr.call (.string s :: args) =
      .ok (.string (TextFunction.cut s start length)) := by
  rcases h.cases with ⟨rfl, v, rfl, hv⟩ | ⟨k, rfl, v, w, rfl, hv, hw⟩
  · have hstart : Arguments.integer [.string s, v] 1 = .ok start :=
      Arguments.integer_eq_ok_iff.2 ⟨v, rfl, hv⟩
    rw [TextFunction.call, hstart]
    rfl
  · have hstart : Arguments.integer [.string s, v, w] 1 = .ok start :=
      Arguments.integer_eq_ok_iff.2 ⟨v, rfl, hv⟩
    have hlength : TextFunction.lengthAfter [.string s, v, w] = .ok (some k) := by
      simp only [TextFunction.lengthAfter, List.getElem?_cons_succ, List.getElem?_cons_zero, hw]
    rw [TextFunction.call, hstart, hlength]
    rfl

/-- Parts of an array that meet at a place make up the part from the first start to the last end,
and a text is made up of its first characters and the rest. Whatever integers are given, finding a
part neither overflows nor leaves the bounds of what it is cut from. -/
theorem parts_without_loss :
    (∀ (items : List Value) (first second whole : Arguments) (i j k : Int), i ≤ j → j ≤ k →
      AreIntegers first [i, j] → AreIntegers second [j, k] → AreIntegers whole [i, k] →
        ∃ front back, ArrayFunction.slice.call (.array items :: first) = .ok (.array front) ∧
          ArrayFunction.slice.call (.array items :: second) = .ok (.array back) ∧
          ArrayFunction.slice.call (.array items :: whole) = .ok (.array (front ++ back))) ∧
    (∀ (items : List Value) (first second : Arguments) (k : Int),
      AreIntegers first [0, k] → AreIntegers second [k] →
        ∃ front back, ArrayFunction.slice.call (.array items :: first) = .ok (.array front) ∧
          ArrayFunction.slice.call (.array items :: second) = .ok (.array back) ∧
          front ++ back = items) ∧
    (∀ (s : String) (first second : Arguments) (k : Int),
      AreIntegers first [0, k] → AreIntegers second [k] →
        ∃ front back, TextFunction.substr.call (.string s :: first) = .ok (.string front) ∧
          TextFunction.substr.call (.string s :: second) = .ok (.string back) ∧
          front ++ back = s) ∧
    (∀ (items : List Value) (args : Arguments) (start : Int) (stop : Option Int),
      AreIntegers args (start :: stop.toList) →
        ∃ part, ArrayFunction.slice.call (.array items :: args) = .ok (.array part) ∧
          part <:+: items ∧
          (Number.fitsInt64 items.length = true →
            ArrayFunction.cutByBounds? items start stop = some part)) ∧
    ∀ (s : String) (args : Arguments) (start : Int) (length : Option Int),
      AreIntegers args (start :: length.toList) →
        ∃ part, TextFunction.substr.call (.string s :: args) = .ok (.string part) ∧
          part.toList <:+: s.toList ∧
          (Number.fitsInt64 s.length = true →
            TextFunction.cutByBounds? s start length = some part) := by
  refine ⟨?_, ?_, ?_, ?_, ?_⟩
  · intro items first second whole i j k hij hjk hfirst hsecond hwhole
    have hfront : ArrayFunction.slice.call (.array items :: first) =
        .ok (.array (ArrayFunction.cut items i (some j))) := slice_call hfirst
    have hback : ArrayFunction.slice.call (.array items :: second) =
        .ok (.array (ArrayFunction.cut items j (some k))) := slice_call hsecond
    have hboth : ArrayFunction.slice.call (.array items :: whole) =
        .ok (.array (ArrayFunction.cut items i (some k))) := slice_call hwhole
    refine ⟨_, _, hfront, hback, ?_⟩
    rw [hboth, ArrayFunction.cut_append_cut hij hjk]
  · intro items first second k hfirst hsecond
    have hfront : ArrayFunction.slice.call (.array items :: first) =
        .ok (.array (ArrayFunction.cut items 0 (some k))) := slice_call hfirst
    have hback : ArrayFunction.slice.call (.array items :: second) =
        .ok (.array (ArrayFunction.cut items k none)) := slice_call hsecond
    exact ⟨_, _, hfront, hback, ArrayFunction.cut_zero_append_cut⟩
  · intro s first second k hfirst hsecond
    have hfront : TextFunction.substr.call (.string s :: first) =
        .ok (.string (TextFunction.cut s 0 (some k))) := substr_call hfirst
    have hback : TextFunction.substr.call (.string s :: second) =
        .ok (.string (TextFunction.cut s k none)) := substr_call hsecond
    exact ⟨_, _, hfront, hback, TextFunction.cut_zero_append_cut s k⟩
  · intro items args start stop hargs
    exact ⟨_, slice_call hargs, ArrayFunction.cut_infix start stop,
      fun hlength => ArrayFunction.cutByBounds?_eq hlength start stop⟩
  · intro s args start length hargs
    exact ⟨_, substr_call hargs, TextFunction.cut_infix s start length,
      fun hlength => TextFunction.cutByBounds?_eq hlength start length⟩

/-- Values of several types. -/
def assorted : List Value := [.string "a", .bool true, .array [.string "b"], .string "d"]

/-- The least integer, one in between and the greatest one, as texts. -/
def leastMiddle : Arguments := [.string "-9223372036854775808", .string " 2 "]

def middleGreatest : Arguments := [.string "+2", .string "9223372036854775807"]

def leastGreatest : Arguments := [.string "-9223372036854775808", .string "9223372036854775807"]

def zeroMiddle : Arguments := [.string "0", .string "2"]

theorem assorted_parts_without_loss :
    (∃ front back,
      ArrayFunction.slice.call (.array assorted :: leastMiddle) = .ok (.array front) ∧
        ArrayFunction.slice.call (.array assorted :: middleGreatest) = .ok (.array back) ∧
        ArrayFunction.slice.call (.array assorted :: leastGreatest) = .ok (.array (front ++ back))) ∧
    (∃ front back,
      ArrayFunction.slice.call (.array assorted :: zeroMiddle) = .ok (.array front) ∧
        ArrayFunction.slice.call [.array assorted, .string "2"] = .ok (.array back) ∧
        front ++ back = assorted) ∧
    (∃ front back,
      TextFunction.substr.call (.string "aé😀" :: zeroMiddle) = .ok (.string front) ∧
        TextFunction.substr.call [.string "aé😀", .string "2"] = .ok (.string back) ∧
        front ++ back = "aé😀") ∧
    (∃ part, ArrayFunction.slice.call (.array assorted :: leastGreatest) = .ok (.array part) ∧
      part <:+: assorted ∧
      ArrayFunction.cutByBounds? assorted Number.minInt64 (some Number.maxInt64) = some part) ∧
    ∃ part, TextFunction.substr.call (.string "aé😀" :: leastGreatest) = .ok (.string part) ∧
      part.toList <:+: "aé😀".toList ∧
      TextFunction.cutByBounds? "aé😀" Number.minInt64 (some Number.maxInt64) = some part := by
  obtain ⟨hslice, hslice', hsubstr, hsafe, hsafe'⟩ := parts_without_loss
  refine ⟨?_, ?_, ?_, ?_, ?_⟩
  · exact hslice assorted leastMiddle middleGreatest leastGreatest Number.minInt64 2
      Number.maxInt64 (by decide) (by decide) (by decide) (by decide) (by decide)
  · exact hslice' assorted zeroMiddle [.string "2"] 2 (by decide) (by decide)
  · exact hsubstr "aé😀" zeroMiddle [.string "2"] 2 (by decide) (by decide)
  · obtain ⟨part, hpart, hinfix, hbounds⟩ := hsafe assorted leastGreatest Number.minInt64
      (some Number.maxInt64) (by decide)
    exact ⟨part, hpart, hinfix, hbounds (by decide)⟩
  · obtain ⟨part, hpart, hinfix, hbounds⟩ := hsafe' "aé😀" leastGreatest Number.minInt64
      (some Number.maxInt64) (by decide)
    exact ⟨part, hpart, hinfix, hbounds (by decide)⟩

end Template

end StubServer

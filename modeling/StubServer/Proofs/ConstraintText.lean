import Mathlib.Data.List.Forall2
import Mathlib.Data.List.TakeWhile
import StubServer.Proofs.JsonText
import StubServer.Proofs.Outcome
import StubServer.Url.Read

/-!
# Written constraints

A constraint is written by its name, and its argument, if it has one, in parentheses. A written
constraint is read back (`Constraint.read_of_writes`), and in a parameter it ends where it was
written to end, whatever its argument has in it (`Constraint.openAfter_of_writes`,
`readConstraints_eq_ok_iff`).
-/

namespace StubServer

namespace Url

/-! ## Integers of an argument -/

/-- Trimming leaves out blanks alone. -/
theorem mem_trimChars_or_isBlank {cs : List Char} {c : Char} (h : c ∈ cs) :
    c ∈ Text.trimChars cs ∨ Text.isBlank c = true := by
  rw [← List.takeWhile_append_dropWhile (p := Text.isBlank) (l := cs), List.mem_append] at h
  rcases h with h | h
  · exact .inr (List.mem_takeWhile_imp h)
  · rw [← Text.dropEndWhile_append_takeEndWhile Text.isBlank (cs.dropWhile Text.isBlank),
      List.mem_append] at h
    rcases h with h | h
    · exact .inl h
    · exact .inr (List.mem_takeWhile_imp (List.mem_reverse.1 h))

/-- The text is an integer of 64 bits, blanks around it aside. -/
def Numeral (cs : List Char) (n : Int) : Prop :=
  Number.readInt64? (Text.trimChars cs) = some n

instance (cs : List Char) (n : Int) : Decidable (Numeral cs n) :=
  inferInstanceAs (Decidable (_ = _))

theorem mem_of_readInteger? {cs : List Char} {n : Int} (h : Number.readInteger? cs = some n)
    {c : Char} (hc : c ∈ cs) : Text.isDigit c = true ∨ c = '-' ∨ c = '+' := by
  have hdigits {ds : List Char} {m : Nat} (hds : (if !ds.isEmpty && ds.all Text.isDigit then
      some (Number.ofDigits ds) else none) = some m) (hc : c ∈ ds) : Text.isDigit c = true := by
    rw [Option.ite_none_right_eq_some, Bool.and_eq_true] at hds
    exact List.all_eq_true.1 hds.1.2 c hc
  unfold Number.readInteger? at h
  dsimp only at h
  split at h <;> obtain ⟨m, hm, -⟩ := Option.map_eq_some_iff.1 h
  · rcases List.mem_cons.1 hc with rfl | hc
    · exact .inr (.inl rfl)
    · obtain ⟨k, hk, -⟩ := Option.bind_eq_some_iff.1 hm
      exact .inl (hdigits hk hc)
  · rcases List.mem_cons.1 hc with rfl | hc
    · exact .inr (.inr rfl)
    · exact .inl (hdigits hm hc)
  · exact .inl (hdigits hm hc)

/-- Other characters are not in an integer. -/
theorem Numeral.notMem {cs : List Char} {n : Int} (h : Numeral cs n) {c : Char}
    (hblank : Text.isBlank c = false) (hdigit : Text.isDigit c = false) (hc : c ∉ ['-', '+']) :
    c ∉ cs := by
  intro hmem
  rcases mem_trimChars_or_isBlank hmem with hmem | hblank'
  · have hinteger := (Option.filter_eq_some_iff.1 h).1
    rcases mem_of_readInteger? hinteger hmem with hdigit' | hsign
    · rw [hdigit] at hdigit'
      cases hdigit'
    · exact hc (by simpa using hsign)
  · rw [hblank] at hblank'
    cases hblank'

theorem mapM_of_numerals {texts : List (List Char)} {ns : List Int}
    (h : List.Forall₂ Numeral texts ns) :
    texts.mapM (fun cs => Number.readInt64? (Text.trimChars cs)) = some ns := by
  induction h with
  | nil => rfl
  | cons hn _ ih =>
    rw [List.mapM_cons, hn, ih]
    rfl

/-- Integers with commas between them are read one by one. -/
theorem integers_of_numerals {texts : List (List Char)} {ns : List Int} (hne : texts ≠ [])
    (h : List.Forall₂ Numeral texts ns) : integers ([','].intercalate texts) = .ok ns := by
  have hcomma : ∀ cs ∈ texts, ',' ∉ cs := by
    clear hne
    induction h with
    | nil => simp
    | cons hn _ ih =>
      exact List.forall_mem_cons.2 ⟨hn.notMem (by decide) (by decide) (by decide), ih⟩
  rw [integers, Text.splitAtChar_eq_splitOn, List.splitOn_intercalate _ hcomma hne,
    mapM_of_numerals h]

section Numerals

variable {x y : List Char} {m n : Int} (hx : Numeral x m) (hy : Numeral y n)

include hx

theorem oneInteger_of_numeral : oneInteger x = .ok m := by
  have h := integers_of_numerals (List.cons_ne_nil _ _) (.cons hx .nil)
  rw [List.intercalate_singleton] at h
  rw [oneInteger, h]
  rfl

include hy

theorem integers_of_numeral_pair : integers (x ++ ',' :: y) = .ok [m, n] := by
  have h := integers_of_numerals (List.cons_ne_nil _ _) (.cons hx (.cons hy .nil))
  rwa [List.intercalate_cons_of_ne_nil (List.cons_ne_nil _ _), List.intercalate_singleton,
    List.append_assoc, List.singleton_append] at h

theorem oneInteger_of_numeral_pair : oneInteger (x ++ ',' :: y) = .error (.argumentCount 1) := by
  rw [oneInteger, integers_of_numeral_pair hx hy]
  rfl

theorem twoIntegers_of_numerals : twoIntegers (x ++ ',' :: y) = .ok (m, n) := by
  rw [twoIntegers, integers_of_numeral_pair hx hy]
  rfl

end Numerals

/-- The digits of an integer, with a hyphen when it is negative. -/
def spelled (n : Int) : List Char :=
  (toString n).toList

theorem spelled_natCast (n : Nat) : spelled n = (toString n).toList := by
  rfl

theorem spelled_negSucc (n : Nat) : spelled (.negSucc n) = '-' :: (toString (n + 1)).toList := by
  simp [spelled, toString, Int.repr]

theorem isDigit_or_hyphen_of_mem_spelled {n : Int} {c : Char} (h : c ∈ spelled n) :
    Text.isDigit c = true ∨ c = '-' := by
  rcases n with n | n
  · rw [Int.ofNat_eq_natCast, spelled_natCast, Number.toList_toString] at h
    exact .inl (Number.isDigit_toDigits h)
  · rw [spelled_negSucc, List.mem_cons, Number.toList_toString] at h
    exact h.symm.imp_left Number.isDigit_toDigits

/-- Other characters are not in an integer. -/
theorem notMem_spelled {n : Int} {c : Char} (hdigit : Text.isDigit c = false) (hc : c ≠ '-') :
    c ∉ spelled n := by
  intro h
  rcases isDigit_or_hyphen_of_mem_spelled h with h | rfl
  · exact Number.ne_of_isDigit h hdigit rfl
  · exact hc rfl

theorem readInteger?_spelled (n : Int) : Number.readInteger? (spelled n) = some n := by
  rcases n with n | n
  · exact Number.readInteger?_toString n
  · have hall : (Nat.toDigits 10 (n + 1)).all Text.isDigit = true :=
      List.all_eq_true.2 fun c => Number.isDigit_toDigits
    rw [spelled_negSucc, Number.toList_toString]
    simp [Number.readInteger?, hall, Number.ofDigits_toDigits, Int.negSucc_eq]

/-- Integers with commas between them. -/
def listed (ns : List Int) : List Char :=
  [','].intercalate (ns.map spelled)

theorem notMem_listed {ns : List Int} {c : Char} (hdigit : Text.isDigit c = false)
    (hc : c ∉ ['-', ',']) : c ∉ listed ns := by
  rw [List.mem_cons, not_or] at hc
  refine Text.notMem_intercalate hc.2 fun cs hcs => ?_
  obtain ⟨n, -, rfl⟩ := List.mem_map.1 hcs
  exact notMem_spelled hdigit hc.1

theorem numeral_spelled {n : Int} (h : Number.fitsInt64 n = true) : Numeral (spelled n) n := by
  have hblank : ∀ c ∈ spelled n, Text.isBlank c = false := by
    intro c hc
    by_contra hblank
    refine absurd hc (notMem_spelled ?_ ?_)
    · revert hblank
      simp [Text.isBlank, Text.isDigit, Char.le_def, UInt32.le_iff_toNat_le]
      omega
    · rintro rfl
      exact hblank (by decide)
  rw [Numeral, Text.trimChars_of_ends (fun c hc => hblank c (List.mem_of_mem_head? hc))
    (fun c hc => hblank c (List.mem_of_mem_getLast? hc)), Number.readInt64?, readInteger?_spelled]
  simp [h]

theorem listed_singleton (n : Int) : listed [n] = spelled n := by
  simp [listed]

theorem listed_pair (m n : Int) : listed [m, n] = spelled m ++ ',' :: spelled n := by
  simp [listed, List.intercalate_cons_of_ne_nil]

/-! ## Open parentheses -/

/-- The number of parentheses that are open behind a character. -/
def nested (depth : Nat) (c : Char) : Nat :=
  if c = '(' then depth + 1 else if c = ')' then depth - 1 else depth

/-- The number of parentheses that are open behind a text that no constraint ends in, if `depth`
are before it. -/
def openAfter (depth : Nat) : List Char → Option Nat
  | [] => some depth
  | c :: cs => if depth = 0 ∧ endsConstraint c then none else openAfter (nested depth c) cs

section Cutting

variable {depth depth' : Nat} {cs rest : List Char}

theorem openAfter_append (depth : Nat) (cs ds : List Char) :
    openAfter depth (cs ++ ds) = (openAfter depth cs).bind (openAfter · ds) := by
  induction cs generalizing depth with
  | nil => rfl
  | cons c cs ih =>
    rw [List.cons_append, openAfter, openAfter]
    split
    · rfl
    · exact ih _

theorem openAfter_of_plain (h : ∀ c ∈ cs, c ∉ [':', '=', '?', '(', ')']) :
    openAfter depth cs = some depth := by
  induction cs with
  | nil => rfl
  | cons c cs ih =>
    rw [List.forall_mem_cons] at h
    have hc : endsConstraint c = false ∧ c ≠ '(' ∧ c ≠ ')' := by
      simpa [endsConstraint, and_assoc] using h.1
    rw [openAfter, if_neg (by simp [hc]), nested, if_neg hc.2.1, if_neg hc.2.2, ih h.2]

theorem cutConstraint_of_openAfter (h : openAfter depth cs = some depth') (rest : List Char) :
    cutConstraint depth (cs ++ rest) =
      (cs ++ (cutConstraint depth' rest).1, (cutConstraint depth' rest).2) := by
  induction cs generalizing depth with
  | nil =>
    cases h
    rfl
  | cons c cs ih =>
    rw [openAfter, Option.ite_none_left_eq_some] at h
    rw [List.cons_append, cutConstraint, if_neg h.1]
    have hcut := ih h.2
    unfold nested at hcut
    simp only [hcut, List.cons_append]

end Cutting

/-! ## Ways to write a constraint -/

/-- The parentheses of a text close in order when `depth` of them are open before it. -/
def balanced (depth : Nat) : List Char → Bool
  | [] => depth == 0
  | c :: cs =>
    if c = '(' then balanced (depth + 1) cs
    else if c = ')' then
      match depth with
      | 0 => false
      | depth + 1 => balanced depth cs
    else balanced depth cs

theorem balanced_of_notMem {cs : List Char} (hopen : '(' ∉ cs) (hclose : ')' ∉ cs) :
    balanced 0 cs = true := by
  induction cs with
  | nil => rfl
  | cons c cs ih =>
    simp only [List.mem_cons, not_or] at hopen hclose
    rw [balanced, if_neg (Ne.symm hopen.1), if_neg (Ne.symm hclose.1), ih hopen.2 hclose.2]

/-- The names of the constraints without an argument. -/
def plainNames : List (String × Constraint) := [
  ("int", .int), ("long", .long), ("bool", .bool), ("decimal", .number), ("double", .number),
  ("float", .number), ("guid", .guid), ("datetime", .datetime), ("alpha", .alpha),
  ("required", .required)]

/-- The names of the constraints with an argument. -/
def argumentNames : List String :=
  ["minlength", "maxlength", "length", "min", "max", "range", "regex"]

/-- A constraint with an argument, as it is written. -/
def called (name argument : List Char) : List Char :=
  name ++ '(' :: (argument ++ [')'])

/-- The text is a name of a constraint, in any case and blanks around it aside. -/
def Named (name : String) (cs : List Char) : Prop :=
  Text.asciiLower (.ofList (Text.trimChars cs)) = name

instance (name : String) (cs : List Char) : Decidable (Named name cs) :=
  inferInstanceAs (Decidable (_ = _))

theorem Named.plain {name : String} {cs : List Char} (h : Named name cs)
    (hname : name ∈ argumentNames) : ∀ c ∈ cs, c ∉ [':', '=', '?', '(', ')'] := by
  have hspecial : ∀ c ∈ [':', '=', '?', '(', ')'], Text.isBlank c = false ∧ c.toLower = c := by
    simp [Text.isBlank]
  have hnames : ∀ name ∈ argumentNames, ∀ c ∈ [':', '=', '?', '(', ')'], c ∉ name.toList := by
    simp [argumentNames]
  intro c hc hmem
  rcases mem_trimChars_or_isBlank hc with htrim | hblank
  · have hlower : c.toLower ∈ name.toList := by
      rw [← h, Text.asciiLower, String.toList_ofList, String.toList_ofList]
      exact List.mem_map_of_mem htrim
    rw [(hspecial c hmem).2] at hlower
    exact hnames name hname c hmem hlower
  · rw [(hspecial c hmem).1] at hblank
    cases hblank

namespace Constraint

open Number (fitsInt64)

/-- The name and the argument by which a constraint is written. Lengths, like all integers of
arguments, are below 2 to the 63. -/
inductive HasArgument : Constraint → String → List Char → Prop
  | minLength {least : Nat} (h : fitsInt64 least) :
      HasArgument (.minLength least) "minlength" (listed [(least : Int)])
  | maxLength {most : Nat} (h : fitsInt64 most) :
      HasArgument (.maxLength most) "maxlength" (listed [(most : Int)])
  | exactLength {n : Nat} (h : fitsInt64 n) :
      HasArgument (.length n n) "length" (listed [(n : Int)])
  | length {least most : Nat} (hleast : fitsInt64 least) (hmost : fitsInt64 most) :
      HasArgument (.length least most) "length" (listed [(least : Int), (most : Int)])
  | min {least : Int} (h : fitsInt64 least) : HasArgument (.min least) "min" (listed [least])
  | max {most : Int} (h : fitsInt64 most) : HasArgument (.max most) "max" (listed [most])
  | range {least most : Int} (hleast : fitsInt64 least) (hmost : fitsInt64 most) :
      HasArgument (.range least most) "range" (listed [least, most])
  | regex {r : Pattern.Regex} {pattern : List Char}
      (hread : Pattern.Regex.read? (.ofList pattern) true = some r)
      (hbalanced : balanced 0 pattern = true) : HasArgument (.regex r) "regex" pattern

/-- The texts by which a constraint is written. -/
inductive Writes (k : Constraint) : List Char → Prop
  | plain {name : String} (h : (name, k) ∈ plainNames) : Writes k name.toList
  | call {name : String} {argument : List Char} (h : k.HasArgument name argument) :
      Writes k (name.toList ++ '(' :: (argument ++ [')']))

theorem HasArgument.name_mem {k : Constraint} {name : String} {argument : List Char}
    (h : k.HasArgument name argument) : name ∈ argumentNames := by
  cases h <;> decide

theorem HasArgument.balanced {k : Constraint} {name : String} {argument : List Char}
    (h : k.HasArgument name argument) : balanced 0 argument = true := by
  cases h with
  | regex hread hbalanced => exact hbalanced
  | _ =>
    exact balanced_of_notMem (notMem_listed (by decide) (by decide))
      (notMem_listed (by decide) (by decide))

theorem asLength_natCast (n : Nat) : asLength n = .ok n := by
  simp [asLength]

theorem oneInteger_listed {n : Int} (h : fitsInt64 n = true) : oneInteger (listed [n]) = .ok n := by
  rw [listed_singleton]
  exact oneInteger_of_numeral (numeral_spelled h)

theorem oneInteger_listed_pair {m n : Int} (hm : fitsInt64 m = true) (hn : fitsInt64 n = true) :
    oneInteger (listed [m, n]) = .error (.argumentCount 1) := by
  rw [listed_pair]
  exact oneInteger_of_numeral_pair (numeral_spelled hm) (numeral_spelled hn)

theorem twoIntegers_listed {m n : Int} (hm : fitsInt64 m = true) (hn : fitsInt64 n = true) :
    twoIntegers (listed [m, n]) = .ok (m, n) := by
  rw [listed_pair]
  exact twoIntegers_of_numerals (numeral_spelled hm) (numeral_spelled hn)

/-- The reader of arguments has a case for each name, and each case returns what was written. -/
theorem HasArgument.withArgument?_eq {k : Constraint} {name : String} {argument : List Char}
    (h : k.HasArgument name argument) : withArgument? name (some argument) = some (.ok k) := by
  cases h with
  | minLength h | maxLength h =>
    simp only [withArgument?, Option.getD_some, oneInteger_listed h, bind, Except.bind,
      asLength_natCast]
    rfl
  | min h | max h =>
    simp only [withArgument?, Option.getD_some, oneInteger_listed h]
    rfl
  | exactLength h =>
    simp only [withArgument?, lengths, Option.getD_some, oneInteger_listed h, asLength_natCast]
    rfl
  | length hleast hmost =>
    simp only [withArgument?, lengths, Option.getD_some, oneInteger_listed_pair hleast hmost,
      twoIntegers_listed hleast hmost, bind, Except.bind, asLength_natCast]
    rfl
  | range hleast hmost =>
    simp only [withArgument?, Option.getD_some, twoIntegers_listed hleast hmost]
    rfl
  | regex hread hbalanced =>
    simp only [withArgument?, hread]
    rfl

/-! ## Reading a written constraint -/

/-- The name is read without its case and the blanks around it. -/
theorem read_called {name : String} {cs : List Char} (h : Named name cs)
    (hname : name ∈ argumentNames) (argument : List Char) {k : Constraint} :
    Constraint.read (called cs argument) = .ok k ↔
      withArgument? name (some argument) = some (.ok k) := by
  have hopen : '(' ∉ cs := fun hmem => h.plain hname _ hmem (by simp)
  have hcut : nameAndArgument (called cs argument) = .ok (cs, some argument) := by
    rw [nameAndArgument, called, Text.cutAt?_eq_some_iff.2 ⟨hopen, rfl⟩]
    simp only [Text.before?_eq_some_iff.2 rfl]
  have hlower : Text.asciiLower (.ofList (Text.trimChars cs)) = name := h
  rw [Constraint.read, hcut]
  simp only [Except.mapError, bind, Except.bind, hlower]
  rcases withArgument? name (some argument) with _ | e | k <;> simp

theorem named_toList {name : String} (h : name ∈ argumentNames) : Named name name.toList := by
  revert name
  decide

theorem read_plain {name : String} {k : Constraint} (h : (name, k) ∈ plainNames) :
    Constraint.read name.toList = .ok k := by
  have hnames : ∀ q ∈ plainNames, Constraint.read q.1.toList = .ok q.2 := by
    decide
  exact hnames (name, k) h

theorem read_of_writes {k : Constraint} {text : List Char} (h : k.Writes text) :
    Constraint.read text = .ok k := by
  cases h with
  | plain h => exact read_plain h
  | call h => exact (read_called (named_toList h.name_mem) h.name_mem _).2 h.withArgument?_eq

/-! ## Where a constraint ends -/

/-- A text whose parentheses are balanced leaves open what was open before it. -/
theorem openAfter_balanced {depth : Nat} {cs : List Char} (h : Url.balanced depth cs = true) :
    openAfter (depth + 1) cs = some 1 := by
  induction cs generalizing depth with
  | nil =>
    obtain rfl : depth = 0 := by simpa [Url.balanced] using h
    rfl
  | cons c cs ih =>
    rw [openAfter, if_neg (by omega), nested]
    unfold Url.balanced at h
    split at h
    · rename_i hopen
      rw [if_pos hopen]
      exact ih h
    · rename_i hopen
      rw [if_neg hopen]
      split at h
      · rename_i hclose
        rcases depth with _ | depth
        · cases h
        · rw [if_pos hclose]
          exact ih h
      · rename_i hclose
        rw [if_neg hclose]
        exact ih h

theorem openAfter_called {name : String} {cs argument : List Char} (h : Named name cs)
    (hname : name ∈ argumentNames) (hargument : openAfter 1 argument = some 1) :
    openAfter 0 (called cs argument) = some 0 := by
  have hopen : openAfter 0 ('(' :: (argument ++ [')'])) = some 0 := by
    change openAfter 1 (argument ++ [')']) = some 0
    rw [openAfter_append, hargument]
    rfl
  rw [called, openAfter_append, openAfter_of_plain (h.plain hname)]
  exact hopen

theorem openAfter_of_writes {k : Constraint} {text : List Char} (h : k.Writes text) :
    openAfter 0 text = some 0 := by
  have hplain : ∀ q ∈ plainNames, ∀ c ∈ q.1.toList, c ∉ [':', '=', '?', '(', ')'] := by
    simp [plainNames]
  cases h with
  | plain h => exact openAfter_of_plain (hplain _ h)
  | call h =>
    exact openAfter_called (named_toList h.name_mem) h.name_mem (openAfter_balanced h.balanced)

end Constraint

/-! ## Constraints one behind another -/

/-- The texts of constraints are told apart when they stand one behind another in front of the
tail: none ends too early, and one that something follows has its parentheses closed. -/
def Separate : List (List Char) → List Char → Prop
  | [], _ => True
  | k :: ks, tail =>
    (openAfter 0 k = some 0 ∨ (openAfter 0 k).isSome ∧ ks = [] ∧ tail = []) ∧ Separate ks tail

theorem separate_append_of_closed {ks ks' : List (List Char)} {tail : List Char}
    (hks : ∀ k ∈ ks, openAfter 0 k = some 0) (h : Separate ks' tail) :
    Separate (ks ++ ks') tail := by
  induction ks with
  | nil => exact h
  | cons k ks ih =>
    rw [List.forall_mem_cons] at hks
    exact ⟨.inl hks.1, ih hks.2⟩

theorem separate_of_closed {ks : List (List Char)} (h : ∀ k ∈ ks, openAfter 0 k = some 0)
    (tail : List Char) : Separate ks tail := by
  have hnil : Separate [] tail := trivial
  have hseparate := separate_append_of_closed h hnil
  rwa [List.append_nil] at hseparate

theorem cutConstraint_end {rest : List Char} (hrest : ∀ c ∈ rest.head?, endsConstraint c = true) :
    cutConstraint 0 rest = ([], rest) := by
  cases rest with
  | nil => rfl
  | cons c rest => simp [cutConstraint, hrest c rfl]

theorem endsConstraint_of_head? {tail : List Char} (htail : ∀ c ∈ tail.head?, c = '=' ∨ c = '?')
    (ks : List (List Char)) :
    ∀ c ∈ (ks.flatMap (':' :: ·) ++ tail).head?, endsConstraint c = true := by
  rcases ks with _ | ⟨k, ks⟩
  · intro c hc
    rcases htail c hc with rfl | rfl <;> rfl
  · rintro c ⟨⟩
    rfl

theorem cutConstraint_of_separate {k tail : List Char} {ks : List (List Char)}
    (h : Separate (k :: ks) tail) (htail : ∀ c ∈ tail.head?, c = '=' ∨ c = '?') :
    cutConstraint 0 (k ++ (ks.flatMap (':' :: ·) ++ tail)) =
      (k, ks.flatMap (':' :: ·) ++ tail) := by
  rcases h.1 with hclosed | ⟨hopen, rfl, rfl⟩
  · rw [cutConstraint_of_openAfter hclosed,
      cutConstraint_end (endsConstraint_of_head? htail ks), List.append_nil]
  · obtain ⟨depth, hdepth⟩ := Option.isSome_iff_exists.1 hopen
    rw [cutConstraint_of_openAfter hdepth]
    simp [cutConstraint]

/-- Constraints that are told apart are read one by one. -/
theorem readConstraints_eq_ok_iff {ks : List (List Char)} {tail rest : List Char}
    {read : List Constraint} (h : Separate ks tail) (htail : ∀ c ∈ tail.head?, c = '=' ∨ c = '?') :
    readConstraints (ks.flatMap (':' :: ·) ++ tail) = .ok (read, rest) ↔
      List.Forall₂ (fun k c => readConstraint k = .ok c) ks read ∧ rest = tail := by
  induction ks generalizing read rest with
  | nil =>
    rw [List.flatMap_nil, List.nil_append, readConstraints.eq_def]
    split
    · rcases htail _ rfl with h | h <;> cases h
    · simp [eq_comm, List.forall₂_nil_left_iff]
  | cons k ks ih =>
    rw [List.flatMap_cons, List.append_assoc, List.cons_append, readConstraints,
      cutConstraint_of_separate h htail, List.forall₂_cons_left_iff]
    dsimp only
    rcases readConstraint k with e | c
    · simp
    · simp only [map_eq_ok, Prod.exists, ih h.2, Prod.mk.injEq, Except.ok.injEq]
      constructor
      · rintro ⟨cs, rest, ⟨hcs, rfl⟩, rfl, rfl⟩
        exact ⟨⟨c, cs, rfl, hcs, rfl⟩, rfl⟩
      · rintro ⟨⟨c', cs, rfl, hcs, rfl⟩, rfl⟩
        exact ⟨cs, _, ⟨hcs, rfl⟩, rfl, rfl⟩

end Url

end StubServer

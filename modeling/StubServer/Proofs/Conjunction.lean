import Mathlib.Data.List.Basic
import Mathlib.Data.List.Forall2
import StubServer.Proofs.ConstraintText
import StubServer.Proofs.Tightening

/-!
# Constraints together

A parameter accepts a value that each of its constraints accepts. So a range is a least and a most
value, an exact length is a length with both bounds the same, and it does not matter in what order
the constraints are written and how often; one more of them can only make a path not match.

A constraint ends at a colon, an equals sign or a question mark outside parentheses, and
parentheses are counted wherever they are. A constraint that leaves one open therefore takes what
follows for itself, unless it is the last (`hash_takes_what_follows`). Texts that are put together
have to be told apart (`Frame.Separates`); for a range and for lengths they always are
(`constraints_conjoin`).
-/

namespace StubServer

namespace Url

/-! ## The text of a parameter -/

/-- What is cut off is told apart from what is left. -/
theorem openAfter_cutConstraint (depth : Nat) (cs : List Char) :
    (cutConstraint depth cs).1 ++ (cutConstraint depth cs).2 = cs ∧
      (∀ c ∈ (cutConstraint depth cs).2.head?, endsConstraint c = true) ∧
      ∃ depth', openAfter depth (cutConstraint depth cs).1 = some depth' ∧
        ((cutConstraint depth cs).2 = [] ∨ depth' = 0) := by
  induction cs generalizing depth with
  | nil => exact ⟨rfl, by simp [cutConstraint], depth, rfl, .inl rfl⟩
  | cons c cs ih =>
    unfold cutConstraint
    split
    · rename_i hend
      refine ⟨rfl, ?_, depth, rfl, .inr hend.1⟩
      rintro c ⟨⟩
      exact hend.2
    · rename_i hend
      obtain ⟨happ, hhead, depth', hopen, hlast⟩ := ih (nested depth c)
      refine ⟨congrArg (c :: ·) happ, hhead, depth', ?_, hlast⟩
      rw [← hopen]
      exact if_neg hend

/-- What stands in the braces of a parameter beside its constraints: the name, which stars and
blanks may be around, and a default or a mark behind the constraints. -/
structure Frame where
  name : List Char
  tail : List Char
  plain_name : ∀ c ∈ name, endsConstraint c = false
  plain_tail : ∀ c ∈ tail.head?, c = '=' ∨ c = '?'

/-- The text between the braces. -/
def Frame.inner (f : Frame) (ks : List (List Char)) : List Char :=
  f.name ++ (ks.flatMap (':' :: ·) ++ f.tail)

/-- The constraints are told apart in front of what follows them. -/
def Frame.Separates (f : Frame) (ks : List (List Char)) : Prop :=
  Separate ks f.tail

theorem exists_separate (cs : List Char) (h : ∀ c ∈ cs.head?, endsConstraint c = true) :
    ∃ ks tail, Separate ks tail ∧ (∀ c ∈ tail.head?, c = '=' ∨ c = '?') ∧
      cs = ks.flatMap (':' :: ·) ++ tail := by
  match cs with
  | [] => exact ⟨[], [], trivial, by simp, rfl⟩
  | c :: rest =>
    by_cases hc : c = ':'
    · obtain ⟨happ, hhead, depth, hopen, hlast⟩ := openAfter_cutConstraint 0 rest
      have hlt : (cutConstraint 0 rest).2.length < (c :: rest).length :=
        Nat.lt_succ_of_le (cutConstraint_length 0 rest)
      rcases hlast with hnil | rfl
      · refine ⟨[rest], [], ⟨.inr ⟨?_, rfl, rfl⟩, trivial⟩, by simp, by simp [hc]⟩
        rw [hnil, List.append_nil] at happ
        rw [← happ, hopen]
        rfl
      · obtain ⟨ks, tail, hseparate, htail, hcs⟩ := exists_separate _ hhead
        refine ⟨(cutConstraint 0 rest).1 :: ks, tail, ⟨.inl hopen, hseparate⟩, htail, ?_⟩
        rw [List.flatMap_cons, List.append_assoc, ← hcs, List.cons_append, happ, hc]
    · refine ⟨[], c :: rest, trivial, ?_, rfl⟩
      rintro d ⟨⟩
      have hend := h c rfl
      simpa [endsConstraint, hc] using hend
termination_by cs.length
decreasing_by exact hlt

/-- Every text in braces is that of a parameter whose constraints are told apart. -/
theorem Frame.exists_inner_eq (inner : List Char) :
    ∃ (f : Frame) (ks : List (List Char)), f.Separates ks ∧ inner = f.inner ks := by
  obtain ⟨heq, hname, hrest⟩ := Text.takeWhile_dropWhile_iff.1
    (⟨rfl, rfl⟩ : inner.takeWhile (!endsConstraint ·) = _ ∧ inner.dropWhile (!endsConstraint ·) = _)
  obtain ⟨ks, tail, hseparate, htail, hcs⟩ :=
    exists_separate (inner.dropWhile (!endsConstraint ·)) fun c hc => by simpa using hrest c hc
  refine ⟨⟨inner.takeWhile (!endsConstraint ·), tail, fun c hc => by simpa using hname c hc, htail⟩,
    ks, hseparate, ?_⟩
  rw [Frame.inner, ← hcs]
  exact heq

/-! ## Reading a parameter -/

/-- Whether stars are in front, and what is behind them. -/
def afterStars (inner : List Char) : Bool × List Char :=
  match inner with
  | '*' :: '*' :: rest => (true, rest)
  | '*' :: rest => (true, rest)
  | _ => (false, inner)

theorem afterStars_append {head cs : List Char} (hcs : cs.head? ≠ some '*') :
    afterStars (head ++ cs) = ((afterStars head).1, (afterStars head).2 ++ cs) := by
  rcases head with _ | ⟨c, _ | ⟨d, head⟩⟩
  · rcases cs with _ | ⟨c, cs⟩
    · rfl
    · have hc : c ≠ '*' := by simpa using hcs
      simp [afterStars, hc]
  · by_cases hc : c = '*'
    · rcases cs with _ | ⟨d, cs⟩
      · simp [afterStars, hc]
      · have hd : d ≠ '*' := by simpa using hcs
        simp [afterStars, hc, hd]
    · simp [afterStars, hc]
  · by_cases hc : c = '*'
    · by_cases hd : d = '*' <;> simp [afterStars, hc, hd]
    · simp [afterStars, hc]

theorem afterStars_subset (inner : List Char) : (afterStars inner).2 ⊆ inner := by
  unfold afterStars
  split
  · exact fun c hc => .tail _ (.tail _ hc)
  · exact fun c hc => .tail _ hc
  · exact fun c hc => hc

theorem Parameter.read_eq (template : String) (inner : List Char) :
    Parameter.read template inner =
      let rest := (afterStars inner).2
      let name := String.ofList (Text.trimChars (rest.takeWhile (!endsConstraint ·)))
      if name = "" then .error (.emptyParameterName template)
      else do
        let (constraints, rest) ← readConstraints (rest.dropWhile (!endsConstraint ·))
        let presence ← readPresence name rest
        return { name, catchAll := (afterStars inner).1, presence, constraints } := by
  unfold Parameter.read
  split
  rename_i catchAll rest h
  have hstars : afterStars inner = (catchAll, rest) := h
  rw [hstars]

/-- The name of a parameter with the text. -/
def Frame.read (f : Frame) : String :=
  .ofList (Text.trimChars (afterStars f.name).2)

theorem Frame.read_inner (f : Frame) {ks : List (List Char)} (h : f.Separates ks)
    {template : String} {p : Parameter} :
    Parameter.read template (f.inner ks) = .ok p ↔
      f.read ≠ "" ∧ ∃ presence constraints, readPresence f.read f.tail = .ok presence ∧
        List.Forall₂ (fun k c => readConstraint k = .ok c) ks constraints ∧
        p = ⟨f.read, (afterStars f.name).1, presence, constraints⟩ := by
  have hends := endsConstraint_of_head? f.plain_tail ks
  have hstar : (ks.flatMap (':' :: ·) ++ f.tail).head? ≠ some '*' := by
    intro hstar
    exact absurd (hends '*' hstar) (by decide)
  obtain ⟨htake, hdrop⟩ :
      ((afterStars f.name).2 ++ (ks.flatMap (':' :: ·) ++ f.tail)).takeWhile
          (!endsConstraint ·) = (afterStars f.name).2 ∧
        ((afterStars f.name).2 ++ (ks.flatMap (':' :: ·) ++ f.tail)).dropWhile
          (!endsConstraint ·) = ks.flatMap (':' :: ·) ++ f.tail := by
    refine Text.takeWhile_dropWhile_iff.2 ⟨rfl, fun c hc => ?_, fun c hc => ?_⟩
    · rw [f.plain_name c (afterStars_subset f.name hc)]
      rfl
    · rw [hends c hc]
      rfl
  rw [Parameter.read_eq, Frame.inner, afterStars_append hstar]
  dsimp only
  rw [htake, hdrop, ← Frame.read]
  by_cases hempty : f.read = ""
  · rw [if_pos hempty]
    simp [hempty]
  · rw [if_neg hempty]
    simp only [bind_eq_ok, Prod.exists, pure_eq_ok, readConstraints_eq_ok_iff h f.plain_tail]
    constructor
    · rintro ⟨constraints, _, ⟨hforall, rfl⟩, presence, hpresence, rfl⟩
      exact ⟨hempty, presence, constraints, hpresence, hforall, rfl⟩
    · rintro ⟨-, presence, constraints, hpresence, hforall, rfl⟩
      exact ⟨constraints, _, ⟨hforall, rfl⟩, presence, hpresence, rfl⟩

/-! ## What constraints allow together -/

/-- A value meets the constraint with the text. -/
def Allows (k : List Char) (value : String) : Prop :=
  ∃ c, readConstraint k = .ok c ∧ c.accepts value = true

/-- What some constraints allow, others do, and they can be read if those can. -/
structure Implies (ks ks' : List (List Char)) : Prop where
  reads : (∀ k ∈ ks, ∃ c, readConstraint k = .ok c) → ∀ k ∈ ks', ∃ c, readConstraint k = .ok c
  allows : ∀ value, (∀ k ∈ ks, Allows k value) → ∀ k ∈ ks', Allows k value

theorem Implies.of_subset {ks ks' : List (List Char)} (h : ks' ⊆ ks) : Implies ks ks' :=
  ⟨fun hreads k hk => hreads k (h hk), fun _ hallows k hk => hallows k (h hk)⟩

theorem Implies.between {ks ks' : List (List Char)} (h : Implies ks ks')
    (before after : List (List Char)) :
    Implies (before ++ (ks ++ after)) (before ++ (ks' ++ after)) := by
  constructor
  · simp only [List.forall_mem_append]
    exact fun hall => ⟨hall.1, h.reads hall.2.1, hall.2.2⟩
  · simp only [List.forall_mem_append]
    exact fun value hall => ⟨hall.1, h.allows value hall.2.1, hall.2.2⟩

theorem exists_constraints_iff {ks : List (List Char)} :
    (∃ constraints, List.Forall₂ (fun k c => readConstraint k = .ok c) ks constraints) ↔
      ∀ k ∈ ks, ∃ c, readConstraint k = .ok c := by
  induction ks with
  | nil => simp [List.forall₂_nil_left_iff]
  | cons k ks ih =>
    rw [List.forall_mem_cons, ← ih]
    simp only [List.forall₂_cons_left_iff]
    constructor
    · rintro ⟨_, c, cs, hc, hcs, rfl⟩
      exact ⟨⟨c, hc⟩, cs, hcs⟩
    · rintro ⟨⟨c, hc⟩, cs, hcs⟩
      exact ⟨_, c, cs, hc, hcs, rfl⟩

theorem all_accepts_iff {ks : List (List Char)} {constraints : List Constraint}
    (h : List.Forall₂ (fun k c => readConstraint k = .ok c) ks constraints) (value : String) :
    (constraints.all fun c => c.accepts value) = true ↔ ∀ k ∈ ks, Allows k value := by
  induction h with
  | nil => simp
  | @cons k c ks constraints hc _ ih =>
    rw [List.all_cons, Bool.and_eq_true, ih, List.forall_mem_cons, Allows, hc]
    simp

theorem Frame.innerWithin (f : Frame) {ks ks' : List (List Char)} (hks : f.Separates ks)
    (hks' : f.Separates ks') (h : Implies ks ks') : InnerWithin (f.inner ks) (f.inner ks') := by
  intro template template' p hp
  obtain ⟨hname, presence, constraints, hpresence, hforall, rfl⟩ := (f.read_inner hks).1 hp
  obtain ⟨constraints', hforall'⟩ :=
    exists_constraints_iff.2 (h.reads (exists_constraints_iff.1 ⟨constraints, hforall⟩))
  refine ⟨_, (f.read_inner hks').2 ⟨hname, presence, constraints', hpresence, hforall', rfl⟩, ?_⟩
  refine ⟨rfl, rfl, rfl, fun value haccepts => ?_⟩
  exact (all_accepts_iff hforall' value).2
    (h.allows value ((all_accepts_iff hforall value).1 haccepts))

/-! ## Constraints with integers -/

theorem readConstraint_called {name : String} {cs : List Char} (h : Named name cs)
    (hname : name ∈ argumentNames) (argument : List Char) {c : Constraint} :
    readConstraint (called cs argument) = .ok c ↔
      withArgument? name (some argument) = some (.ok c) := by
  rw [readConstraint, mapError_eq_ok, Constraint.read_called h hname]

section Integers

variable {n x y : List Char} {a b : Int} {c : Constraint}

theorem readConstraint_bound {name : String} {bound : Int → Constraint}
    (hbound : (name, bound) ∈ [("min", Constraint.min), ("max", Constraint.max)])
    (h : Named name n) (hx : Numeral x a) : readConstraint (called n x) = .ok c ↔ c = bound a := by
  simp only [List.mem_cons, Prod.mk.injEq, List.not_mem_nil, or_false] at hbound
  rcases hbound with ⟨rfl, rfl⟩ | ⟨rfl, rfl⟩ <;>
    rw [readConstraint_called h (by decide), withArgument?] <;>
    simp only [Option.getD_some, oneInteger_of_numeral hx, Option.some.injEq, bind_eq_ok,
      pure_eq_ok, Except.ok.injEq, exists_eq_left', eq_comm (b := c)]

theorem readConstraint_range (h : Named "range" n) (hx : Numeral x a) (hy : Numeral y b) :
    readConstraint (called n (x ++ ',' :: y)) = .ok c ↔ c = .range a b := by
  rw [readConstraint_called h (by decide), withArgument?]
  simp only [Option.getD_some, twoIntegers_of_numerals hx hy, Option.some.injEq, bind_eq_ok,
    pure_eq_ok, Except.ok.injEq, exists_eq_left', eq_comm (b := c)]

theorem readConstraint_lengthBound {name : String} {bound : Nat → Constraint}
    (hbound : (name, bound) ∈
      [("minlength", Constraint.minLength), ("maxlength", Constraint.maxLength)])
    (h : Named name n) (hx : Numeral x a) :
    readConstraint (called n x) = .ok c ↔ ∃ length, asLength a = .ok length ∧ c = bound length := by
  simp only [List.mem_cons, Prod.mk.injEq, List.not_mem_nil, or_false] at hbound
  rcases hbound with ⟨rfl, rfl⟩ | ⟨rfl, rfl⟩ <;>
    rw [readConstraint_called h (by decide), withArgument?] <;>
    simp only [Option.getD_some, oneInteger_of_numeral hx, Option.some.injEq, bind_eq_ok,
      pure_eq_ok, Except.ok.injEq, exists_eq_left', eq_comm (b := c)]

theorem readConstraint_exactLength (h : Named "length" n) (hx : Numeral x a) :
    readConstraint (called n x) = .ok c ↔
      ∃ exact, asLength a = .ok exact ∧ c = .length exact exact := by
  rw [readConstraint_called h (by decide), withArgument?, lengths]
  simp only [Option.getD_some, oneInteger_of_numeral hx, Option.some.injEq, bind_eq_ok, pure_eq_ok]
  constructor
  · rintro ⟨least, hleast, most, hmost, rfl⟩
    obtain rfl : least = most := by simpa [hleast] using hmost
    exact ⟨least, hleast, rfl⟩
  · rintro ⟨exact, hexact, rfl⟩
    exact ⟨exact, hexact, exact, hexact, rfl⟩

theorem readConstraint_length (h : Named "length" n) (hx : Numeral x a) (hy : Numeral y b) :
    readConstraint (called n (x ++ ',' :: y)) = .ok c ↔
      ∃ least most, asLength a = .ok least ∧ asLength b = .ok most ∧ c = .length least most := by
  rw [readConstraint_called h (by decide), withArgument?, lengths]
  simp only [Option.getD_some, oneInteger_of_numeral_pair hx hy, twoIntegers_of_numerals hx hy,
    Option.some.injEq, bind_eq_ok, pure_eq_ok, Except.ok.injEq]
  constructor
  · rintro ⟨_, rfl, least, hleast, most, hmost, rfl⟩
    exact ⟨least, most, hleast, hmost, rfl⟩
  · rintro ⟨least, most, hleast, hmost, rfl⟩
    exact ⟨_, rfl, least, hleast, most, hmost, rfl⟩

theorem accepts_range_iff {value : String} :
    (Constraint.range a b).accepts value = true ↔
      (Constraint.min a).accepts value = true ∧ (Constraint.max b).accepts value = true := by
  simp only [Constraint.accepts]
  cases Number.readInt64? value.toList <;> simp

theorem accepts_length_iff {least most : Nat} {value : String} :
    (Constraint.length least most).accepts value = true ↔
      (Constraint.minLength least).accepts value = true ∧
        (Constraint.maxLength most).accepts value = true := by
  simp [Constraint.accepts]

end Integers

/-- One constraint says what others say together: a range and two lengths by their bounds, and one
length by two. The integers are the same, however they are written. -/
inductive Respells : List Char → List (List Char) → Prop
  | range {name low high x y x' y' : List Char} {a b : Int} (hname : Named "range" name)
      (hlow : Named "min" low) (hhigh : Named "max" high) (hx : Numeral x a) (hy : Numeral y b)
      (hx' : Numeral x' a) (hy' : Numeral y' b) :
      Respells (called name (x ++ ',' :: y)) [called low x', called high y']
  | lengths {name low high x y x' y' : List Char} {a b : Int} (hname : Named "length" name)
      (hlow : Named "minlength" low) (hhigh : Named "maxlength" high) (hx : Numeral x a)
      (hy : Numeral y b) (hx' : Numeral x' a) (hy' : Numeral y' b) :
      Respells (called name (x ++ ',' :: y)) [called low x', called high y']
  | exactLength {name both x y z : List Char} {a : Int} (hname : Named "length" name)
      (hboth : Named "length" both) (hx : Numeral x a) (hy : Numeral y a) (hz : Numeral z a) :
      Respells (called name x) [called both (y ++ ',' :: z)]

section Respelling

variable {k : List Char} {ks : List (List Char)}

/-- Both can be read, or neither, and they allow the same values. -/
theorem Respells.iff (h : Respells k ks) :
    ((∃ c, readConstraint k = .ok c) ↔ ∀ k' ∈ ks, ∃ c, readConstraint k' = .ok c) ∧
      ∀ value, Allows k value ↔ ∀ k' ∈ ks, Allows k' value := by
  simp only [Allows]
  cases h with
  | range hname hlow hhigh hx hy hx' hy' =>
    simp only [List.forall_mem_cons, readConstraint_range hname hx hy,
      readConstraint_bound (.head _) hlow hx', readConstraint_bound (.tail _ (.head _)) hhigh hy']
    simp [accepts_range_iff]
  | @lengths _ _ _ _ _ _ _ a b hname hlow hhigh hx hy hx' hy' =>
    simp only [List.forall_mem_cons, readConstraint_length hname hx hy,
      readConstraint_lengthBound (.head _) hlow hx',
      readConstraint_lengthBound (.tail _ (.head _)) hhigh hy']
    rcases asLength a with e | least
    · simp
    · rcases asLength b with e | most
      · simp
      · simp [accepts_length_iff]
  | @exactLength _ _ _ _ _ a hname hboth hx hy hz =>
    simp only [List.forall_mem_cons, readConstraint_length hboth hy hz,
      readConstraint_exactLength hname hx]
    rcases asLength a with e | exact <;> simp

theorem Respells.implies (h : Respells k ks) : Implies [k] ks := by
  constructor
  · rw [List.forall_mem_singleton]
    exact h.iff.1.1
  · intro value
    rw [List.forall_mem_singleton]
    exact (h.iff.2 value).1

theorem Respells.implied (h : Respells k ks) : Implies ks [k] := by
  constructor
  · rw [List.forall_mem_singleton]
    exact h.iff.1.2
  · intro value
    rw [List.forall_mem_singleton]
    exact (h.iff.2 value).2

theorem openAfter_of_numeral {x : List Char} {a : Int} (h : Numeral x a) (depth : Nat) :
    openAfter depth x = some depth := by
  have hspecial : ∀ c ∈ [':', '=', '?', '(', ')'], Text.isBlank c = false ∧
      Text.isDigit c = false ∧ c ∉ ['-', '+'] := by
    simp [Text.isBlank, Text.isDigit]
  refine openAfter_of_plain fun c hc hmem => ?_
  obtain ⟨hblank, hdigit, hsign⟩ := hspecial c hmem
  exact h.notMem hblank hdigit hsign hc

/-- The parentheses of each are closed, so they may stand in front of anything. -/
theorem Respells.closed (h : Respells k ks) : ∀ k' ∈ ks, openAfter 0 k' = some 0 := by
  cases h with
  | range _ hlow hhigh _ _ hx hy =>
    rw [List.forall_mem_cons, List.forall_mem_singleton]
    exact ⟨Constraint.openAfter_called hlow (by decide) (openAfter_of_numeral hx 1),
      Constraint.openAfter_called hhigh (by decide) (openAfter_of_numeral hy 1)⟩
  | lengths _ hlow hhigh _ _ hx hy =>
    rw [List.forall_mem_cons, List.forall_mem_singleton]
    exact ⟨Constraint.openAfter_called hlow (by decide) (openAfter_of_numeral hx 1),
      Constraint.openAfter_called hhigh (by decide) (openAfter_of_numeral hy 1)⟩
  | exactLength _ hboth _ hy hz =>
    rw [List.forall_mem_singleton]
    refine Constraint.openAfter_called hboth (by decide) ?_
    rw [openAfter_append, openAfter_of_numeral hy]
    exact openAfter_of_numeral hz 1

theorem Respells.separate (h : Respells k ks) {before after : List (List Char)} {tail : List Char}
    (hseparate : Separate (before ++ k :: after) tail) :
    Separate (before ++ (ks ++ after)) tail := by
  induction before with
  | nil =>
    rw [List.nil_append]
    exact separate_append_of_closed h.closed hseparate.2
  | cons k' before ih =>
    refine ⟨?_, ih hseparate.2⟩
    rcases hseparate.1 with hclosed | ⟨-, hnil, -⟩
    · exact .inl hclosed
    · simp at hnil

end Respelling

/-! ## Templates -/

/-- Two templates have the same pieces but for what stands in one pair of braces. -/
def DifferInBraces (text text' : String) (inner inner' : List Char) : Prop :=
  ∃ before after, scan none (body text) = before ++ .braces inner :: after ∧
    scan none (body text') = before ++ .braces inner' :: after

/-- The templates are accepted both or neither, and they match the same paths with the same
values. -/
def MatchAlike (text text' : String) : Prop :=
  ((∃ t, Template.read text = .ok t) ↔ ∃ t', Template.read text' = .ok t') ∧
    ∀ t t', Template.read text = .ok t → Template.read text' = .ok t' →
      ∀ path, t'.match? path = t.match? path

/-- Where the one template is accepted, so is the other, and a path that matches it matches the
other with the same values. -/
def MatchesLess (text text' : String) : Prop :=
  ∀ t, Template.read text = .ok t → ∃ t', Template.read text' = .ok t' ∧
    ∀ path, t.match? path = none ∨ t.match? path = t'.match? path

theorem matchesLess_of_innerWithin {text text' : String} {inner inner' : List Char}
    (htext : DifferInBraces text text' inner inner') (h : InnerWithin inner inner') :
    MatchesLess text text' := by
  obtain ⟨before, after, hbefore, hafter⟩ := htext
  have hpieces : List.Forall₂ Piece.Within (scan none (body text)) (scan none (body text')) := by
    rw [hbefore, hafter]
    have hsame (pieces : List Piece) : List.Forall₂ Piece.Within pieces pieces :=
      List.forall₂_same.2 fun piece _ => .refl piece
    exact List.rel_append (hsame before) (.cons (.braces h) (hsame after))
  intro t ht
  obtain ⟨t', ht', hmatch⟩ := exists_read_of_within hpieces ht
  refine ⟨t', ht', fun path => ?_⟩
  rcases hpath : t.match? path with _ | values
  · exact .inl rfl
  · exact .inr (hmatch path values hpath).symm

theorem matchAlike_of_matchesLess {text text' : String} (h : MatchesLess text text')
    (h' : MatchesLess text' text) : MatchAlike text text' := by
  refine ⟨⟨fun ⟨t, ht⟩ => ?_, fun ⟨t', ht'⟩ => ?_⟩, fun t t' ht ht' path => ?_⟩
  · obtain ⟨t', ht', -⟩ := h t ht
    exact ⟨t', ht'⟩
  · obtain ⟨t, ht, -⟩ := h' t' ht'
    exact ⟨t, ht⟩
  · obtain ⟨u', hu', hpath⟩ := h t ht
    obtain ⟨u, hu, hpath'⟩ := h' t' ht'
    obtain rfl : u' = t' := by simpa [ht'] using hu'.symm
    obtain rfl : u = t := by simpa [ht] using hu.symm
    rcases hpath path with hnone | heq
    · rcases hpath' path with hnone' | heq'
      · rw [hnone, hnone']
      · exact heq'
    · exact heq.symm

theorem DifferInBraces.symm {text text' : String} {inner inner' : List Char}
    (h : DifferInBraces text text' inner inner') : DifferInBraces text' text inner' inner := by
  obtain ⟨before, after, hbefore, hafter⟩ := h
  exact ⟨before, after, hafter, hbefore⟩

/-- Every text in braces is that of a parameter whose constraints are told apart. A range may be
written as a least and a most value and a length by its bounds, whatever else there is; the
constraints may be written in another order or repeatedly if they are told apart then, too; and if
others are added to them, a path that still matches does so with the same values. -/
theorem constraints_conjoin :
    (∀ inner, ∃ (f : Frame) (ks : List (List Char)), f.Separates ks ∧ inner = f.inner ks) ∧
    ∀ {f : Frame} {ks ks' : List (List Char)} {text text' : String}, f.Separates ks →
      DifferInBraces text text' (f.inner ks) (f.inner ks') →
      (∀ before k own after, Respells k own → ks = before ++ k :: after →
        ks' = before ++ (own ++ after) → MatchAlike text text') ∧
      (f.Separates ks' → (∀ k, k ∈ ks ↔ k ∈ ks') → MatchAlike text text') ∧
      (f.Separates ks' → ks ⊆ ks' → MatchesLess text' text) := by
  refine ⟨Frame.exists_inner_eq, fun {f ks ks' text text'} hks htext => ⟨?_, ?_, ?_⟩⟩
  · rintro before k own after hrespells rfl rfl
    have hks' : f.Separates (before ++ (own ++ after)) := hrespells.separate hks
    refine matchAlike_of_matchesLess (matchesLess_of_innerWithin htext ?_)
      (matchesLess_of_innerWithin htext.symm ?_)
    · exact f.innerWithin hks hks' (hrespells.implies.between before after)
    · exact f.innerWithin hks' hks (hrespells.implied.between before after)
  · intro hks' hmem
    refine matchAlike_of_matchesLess (matchesLess_of_innerWithin htext ?_)
      (matchesLess_of_innerWithin htext.symm ?_)
    · exact f.innerWithin hks hks' (.of_subset fun k hk => (hmem k).2 hk)
    · exact f.innerWithin hks' hks (.of_subset fun k hk => (hmem k).1 hk)
  · intro hks' hsubset
    exact matchesLess_of_innerWithin htext.symm (f.innerWithin hks' hks (.of_subset hsubset))

/-- A page of a list, which need not be given. -/
def pageFrame : Frame :=
  ⟨"page".toList, ['?'], by simp [endsConstraint], by simp⟩

theorem page_constraints_conjoin :
    MatchAlike "/a/\x7bpage:long:range( 1 ,+5)?\x7d" "/a/\x7bpage:long:Min(1):max( 5)?\x7d" ∧
      MatchAlike "/a/\x7bpage:long:range( 1 ,+5)?\x7d" "/a/\x7bpage:range( 1 ,+5):long:long?\x7d" ∧
      MatchesLess "/a/\x7bpage:long:range( 1 ,+5):regex([3-9]$)?\x7d"
        "/a/\x7bpage:long:range( 1 ,+5)?\x7d" := by
  let ks := ["long".toList, "range( 1 ,+5)".toList]
  have hks : pageFrame.Separates ks := ⟨.inl (by decide), .inl (by decide), trivial⟩
  have hrespells : Respells "range( 1 ,+5)".toList ["Min(1)".toList, "max( 5)".toList] := by
    have hname : Named "range" "range".toList := by decide
    have hlow : Named "min" "Min".toList := by decide
    have hhigh : Named "max" "max".toList := by decide
    have hx : Numeral " 1 ".toList 1 := by decide
    have hy : Numeral "+5".toList 5 := by decide
    have hx' : Numeral "1".toList 1 := by decide
    have hy' : Numeral " 5".toList 5 := by decide
    exact .range hname hlow hhigh hx hy hx' hy'
  refine ⟨?_, ?_, ?_⟩
  · let ks' := ["long".toList, "Min(1)".toList, "max( 5)".toList]
    have htext : DifferInBraces "/a/\x7bpage:long:range( 1 ,+5)?\x7d"
        "/a/\x7bpage:long:Min(1):max( 5)?\x7d" (pageFrame.inner ks) (pageFrame.inner ks') :=
      ⟨[.char 'a', .slash], [], rfl, rfl⟩
    exact (constraints_conjoin.2 hks htext).1 ["long".toList] _ _ [] hrespells rfl rfl
  · let ks' := ["range( 1 ,+5)".toList, "long".toList, "long".toList]
    have htext : DifferInBraces "/a/\x7bpage:long:range( 1 ,+5)?\x7d"
        "/a/\x7bpage:range( 1 ,+5):long:long?\x7d" (pageFrame.inner ks) (pageFrame.inner ks') :=
      ⟨[.char 'a', .slash], [], rfl, rfl⟩
    refine (constraints_conjoin.2 hks htext).2.1 ?_ (by simp [ks, ks', or_comm])
    exact ⟨.inl (by decide), .inl (by decide), .inl (by decide), trivial⟩
  · let ks' := ["long".toList, "range( 1 ,+5)".toList, "regex([3-9]$)".toList]
    have htext : DifferInBraces "/a/\x7bpage:long:range( 1 ,+5)?\x7d"
        "/a/\x7bpage:long:range( 1 ,+5):regex([3-9]$)?\x7d" (pageFrame.inner ks)
        (pageFrame.inner ks') := ⟨[.char 'a', .slash], [], rfl, rfl⟩
    refine (constraints_conjoin.2 hks htext).2.2 ?_ (by simp [ks, ks'])
    exact ⟨.inl (by decide), .inl (by decide), .inl (by decide), trivial⟩

/-- Behind a hash, a verbose pattern has a comment. The parenthesis in it is counted all the same, so
the constraint does not end there, and what follows it is in the comment, too. -/
theorem hash_takes_what_follows :
    ∃ f : Frame, f.Separates ["min(1)".toList, "regex((?x)0#()".toList] ∧
      DifferInBraces "{n:min(1):regex((?x)0#()}" "{n:regex((?x)0#():min(1)}"
        (f.inner ["min(1)".toList, "regex((?x)0#()".toList])
        (f.inner ["regex((?x)0#()".toList, "min(1)".toList]) ∧
      ∃ t t', Template.read "{n:min(1):regex((?x)0#()}" = .ok t ∧
        Template.read "{n:regex((?x)0#():min(1)}" = .ok t' ∧
        t.match? "0" = none ∧ (t'.match? "0").map Bindings.toList = some [("n", "0")] := by
  refine ⟨⟨['n'], [], by simp [endsConstraint], by simp⟩,
    ⟨.inl (by decide), .inr (by decide), trivial⟩, ⟨[], [], rfl, rfl⟩, ?_⟩
  have hfound : ((Template.read "\x7bn:min(1):regex((?x)0#()\x7d").toOption.bind fun t =>
      (Template.read "\x7bn:regex((?x)0#():min(1)\x7d").toOption.map fun t' =>
        ((t.match? "0").map Bindings.toList, (t'.match? "0").map Bindings.toList)) =
          some (none, some [("n", "0")]) := by decide +kernel
  rcases ht : Template.read "\x7bn:min(1):regex((?x)0#()\x7d" with e | t <;> rw [ht] at hfound
  · cases hfound
  rcases ht' : Template.read "\x7bn:regex((?x)0#():min(1)\x7d" with e | t' <;>
    rw [ht'] at hfound
  · cases hfound
  obtain ⟨hnone, hsome⟩ := Prod.mk.inj (Option.some.inj hfound)
  exact ⟨t, t', rfl, rfl, Option.map_eq_none_iff.1 hnone, hsome⟩

end Url

end StubServer

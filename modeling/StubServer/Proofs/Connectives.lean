import StubServer.Proofs.RuleSources

/-!
# The boolean meaning of rules

A combination with AND holds when it has rules and all of them hold, one with OR when some rule of
it holds. So a combination depends only on which outcomes its rules have, not on their order or
number (`Combinator.combine_congr`), and a combination within one of the same kind may be opened
(`Combinator.combine_nest`); but not an AND of no rules, which never holds. A test and its negation
have opposite outcomes, except on a route parameter that is missing, where neither holds.
-/

namespace StubServer

namespace Combinator

theorem combine_and_iff {outcomes : List Bool} :
    and.combine outcomes = true ↔ outcomes ≠ [] ∧ false ∉ outcomes := by
  simp [combine]

theorem combine_or_iff {outcomes : List Bool} : or.combine outcomes = true ↔ true ∈ outcomes := by
  simp [combine]

/-- Order and number of the outcomes do not matter. -/
theorem combine_congr (op : Combinator) {xs ys : List Bool} (h : ∀ b, b ∈ xs ↔ b ∈ ys) :
    op.combine xs = op.combine ys := by
  rw [Bool.eq_iff_iff]
  cases op with
  | and =>
    have hnil : xs = [] ↔ ys = [] := by
      rw [List.eq_nil_iff_forall_not_mem, List.eq_nil_iff_forall_not_mem]
      exact forall_congr' fun b => not_congr (h b)
    rw [combine_and_iff, combine_and_iff, ne_eq, ne_eq, hnil, h false]
  | or => rw [combine_or_iff, combine_or_iff, h true]

/-- The outcomes of a combination within one of the same kind may stand in its place. With AND there
must be some: an AND of nothing is false, and true can stand in the place of nothing. -/
theorem combine_nest (op : Combinator) (before after : List Bool) {inner : List Bool}
    (h : op = .and → inner ≠ []) :
    op.combine (before ++ op.combine inner :: after) = op.combine (before ++ inner ++ after) := by
  rw [Bool.eq_iff_iff]
  cases op with
  | and =>
    have hinner : false = and.combine inner ↔ false ∈ inner := by
      rw [eq_comm, ← Bool.not_eq_true, combine_and_iff]
      simp [h rfl]
    rw [combine_and_iff, combine_and_iff]
    simp [h rfl, hinner]
  | or =>
    have hinner : true = or.combine inner ↔ true ∈ inner := eq_comm.trans combine_or_iff
    rw [combine_or_iff, combine_or_iff]
    simp [hinner]

end Combinator

namespace SingleRule

/-- The test with the other answer to whether it is negated. -/
def flipped (s : SingleRule) : SingleRule :=
  { s with negate := !s.negate }

/-- The test is of a route parameter that the input does not have. -/
def Lacks (s : SingleRule) (input : RuleInput) : Prop :=
  s.field = .route ∧ input.routeParams.get? s.key = none

variable {s : SingleRule} {input : RuleInput}

@[simp] theorem flipped_field (s : SingleRule) : s.flipped.field = s.field := rfl

@[simp] theorem flipped_key (s : SingleRule) : s.flipped.key = s.key := rfl

@[simp] theorem flipped_negate (s : SingleRule) : s.flipped.negate = !s.negate := rfl

@[simp] theorem flipped_passes (s : SingleRule) : s.flipped.passes = s.passes := rfl

theorem Lacks.flipped (h : s.Lacks input) : s.flipped.Lacks input := h

theorem Lacks.holds_eq_false (h : s.Lacks input) : (Rule.single s).holds input = false := by
  obtain ⟨hfield, hmissing⟩ := h
  rw [holds_eq, hfield]
  change s.accepts (input.routeParams.get? s.key) = false
  rw [hmissing, ← Bool.not_eq_true, accepts_iff]
  exact fun h => h.1 ⟨hfield, rfl⟩

theorem accepts_flipped {fetched : Option String} (h : ¬ (s.field = .route ∧ fetched = none)) :
    s.flipped.accepts fetched = !s.accepts fetched := by
  have hneither : ¬ (s.flipped.field = .route ∧ fetched = none) := h
  rw [Bool.eq_iff_iff, Bool.not_eq_true', ← Bool.not_eq_true, accepts_iff, accepts_iff,
    and_iff_right h, and_iff_right hneither, flipped_negate, flipped_passes]
  cases s.negate <;> simp

theorem holds_flipped (h : ¬ s.Lacks input) :
    (Rule.single s.flipped).holds input = !(Rule.single s).holds input := by
  rw [holds_eq, holds_eq, flipped_field, flipped_key]
  refine accepts_flipped ?_
  rintro ⟨hfield, hmissing⟩
  rw [hfield] at hmissing
  exact h ⟨hfield, hmissing⟩

end SingleRule

namespace Rule

theorem holds_and_iff {input : RuleInput} (rs : List Rule) :
    (aggregate .and rs).holds input = true ↔ rs ≠ [] ∧ ∀ r ∈ rs, r.holds input = true := by
  rw [holds_aggregate, Combinator.combine_and_iff]
  simp

theorem holds_or_iff {input : RuleInput} (rs : List Rule) :
    (aggregate .or rs).holds input = true ↔ ∃ r ∈ rs, r.holds input = true := by
  rw [holds_aggregate, Combinator.combine_or_iff, List.mem_map]

/-- The second rule is the first one with the rules of some combinations reordered, duplicated or
taken from a combination of the same kind into the one around it, at any depth, or the other way
round. -/
inductive Rearranged : Rule → Rule → Prop
  | refl (r : Rule) : Rearranged r r
  | symm {r r' : Rule} (h : Rearranged r r') : Rearranged r' r
  | trans {r r' r'' : Rule} (h : Rearranged r r') (h' : Rearranged r' r'') : Rearranged r r''
  | inside {r r' : Rule} (op : Combinator) (before after : List Rule) (h : Rearranged r r') :
      Rearranged (aggregate op (before ++ r :: after)) (aggregate op (before ++ r' :: after))
  | reorder {rs rs' : List Rule} (op : Combinator) (h : rs.Perm rs') :
      Rearranged (aggregate op rs) (aggregate op rs')
  | duplicate {r : Rule} {rs : List Rule} (op : Combinator) (h : r ∈ rs) :
      Rearranged (aggregate op rs) (aggregate op (r :: rs))
  | splice {inner : List Rule} (op : Combinator) (before after : List Rule)
      (h : op = .and → inner ≠ []) :
      Rearranged (aggregate op (before ++ aggregate op inner :: after))
        (aggregate op (before ++ inner ++ after))

theorem Rearranged.holds_eq {r r' : Rule} (h : Rearranged r r') (input : RuleInput) :
    r'.holds input = r.holds input := by
  induction h with
  | refl r => rfl
  | symm _ ih => exact ih.symm
  | trans _ _ ih ih' => exact ih'.trans ih
  | inside op before after _ ih =>
    simp only [holds_aggregate, List.map_append, List.map_cons, ih]
  | reorder op h =>
    rw [holds_aggregate, holds_aggregate]
    exact op.combine_congr fun b => (h.map _).mem_iff.symm
  | duplicate op h =>
    rw [holds_aggregate, holds_aggregate, List.map_cons]
    refine op.combine_congr fun b => ?_
    have hmem := List.mem_map_of_mem (f := fun r => r.holds input) h
    grind
  | splice op before after h =>
    simp only [holds_aggregate, List.map_append, List.map_cons]
    exact (op.combine_nest _ _ (by simpa using h)).symm

/-- The boolean meaning of rules, for every input: a combination with AND holds when it has rules
and all of them hold, one with OR when a rule of it holds; rearranging a rule does not change
whether it holds; and a test and its negation have opposite outcomes, but neither holds for a route
parameter that is missing. -/
theorem holds_boolean (input : RuleInput) :
    (∀ rs : List Rule, (aggregate .and rs).holds input = true ↔
        rs ≠ [] ∧ ∀ r ∈ rs, r.holds input = true) ∧
      (∀ rs : List Rule, (aggregate .or rs).holds input = true ↔
        ∃ r ∈ rs, r.holds input = true) ∧
      (∀ r r' : Rule, Rearranged r r' → r'.holds input = r.holds input) ∧
      (∀ s : SingleRule, ¬ s.Lacks input →
        (single s.flipped).holds input = !(single s).holds input) ∧
      ∀ s : SingleRule, s.Lacks input →
        (single s).holds input = false ∧ (single s.flipped).holds input = false :=
  ⟨holds_and_iff, holds_or_iff, fun _ _ h => h.holds_eq input,
    fun _ h => SingleRule.holds_flipped h,
    fun _ h => ⟨h.holds_eq_false, h.flipped.holds_eq_false⟩⟩

/-- A test of the header X-Role. -/
def isAdmin : Rule :=
  .single ⟨.header, "X-Role", "admin", .equals, false⟩

/-- A test of a query parameter, negated. -/
def notDebug : Rule :=
  .single ⟨.query, "debug", "1", .equals, true⟩

/-- A negated test of a route parameter. -/
def notFirst : SingleRule :=
  ⟨.route, "id", "1", .equals, true⟩

theorem rearranged_holds_boolean :
    let nested :=
      aggregate .or [aggregate .or [], aggregate .and [isAdmin, aggregate .and [notDebug]]]
    let flat := aggregate .or [aggregate .and [notDebug, notDebug, isAdmin]]
    let input : RuleInput := .ofMaps [("x-role", "admin")] [("page", "2")] []
    Rearranged nested flat ∧ flat.holds input = nested.holds input ∧ flat.holds input = true ∧
      ¬ notFirst.Lacks (.ofMaps [] [] [("id", "2")]) ∧
      (single notFirst.flipped).holds (.ofMaps [] [] [("id", "2")]) =
        !(single notFirst).holds (.ofMaps [] [] [("id", "2")]) ∧
      notFirst.Lacks input ∧
      (single notFirst).holds input = false ∧ (single notFirst.flipped).holds input = false := by
  intro nested flat input
  have hopen : Rearranged nested
      (aggregate .or [aggregate .and [isAdmin, aggregate .and [notDebug]]]) :=
    .splice .or [] [_] nofun
  have hinner : Rearranged (aggregate .and [isAdmin, aggregate .and [notDebug]])
      (aggregate .and [notDebug, notDebug, isAdmin]) :=
    .trans (.splice .and [isAdmin] [] (by simp))
      (.trans (.reorder .and (.swap _ _ _)) (.duplicate .and List.mem_cons_self))
  have hflat : Rearranged nested flat := hopen.trans (.inside .or [] [] hinner)
  have hpresent : ¬ notFirst.Lacks (.ofMaps [] [] [("id", "2")]) := by
    rintro ⟨-, hmissing⟩
    revert hmissing
    decide +kernel
  have hlacks : notFirst.Lacks input := ⟨rfl, rfl⟩
  exact ⟨hflat, (holds_boolean input).2.2.1 _ _ hflat, by decide +kernel, hpresent,
    (holds_boolean _).2.2.2.1 _ hpresent, hlacks, (holds_boolean input).2.2.2.2 _ hlacks⟩

end Rule

end StubServer

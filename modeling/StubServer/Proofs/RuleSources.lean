import StubServer.Proofs.SharedView

/-!
# Rules against whole and partial inputs

A rule is settled by its tests: where these come out for a source as they do for an input, so does
the rule (`Rule.evaluate_eq_ok_holds`). A test of a header looks its value up in lower case. An
input made of whole maps has the names of headers in lower case, a partial input has them as they
are given. So a partial input with all maps decides a rule like the whole input does, unless the
rule looks for a header that is given in another spelling: that header is not found, not even by a
rule that spells it in the same way (`Rule.evaluate_ofBindings_iff_not_hides`,
`Rule.capitalized_evaluate_ne_holds`).
-/

namespace StubServer

/-- What a combination makes of the outcomes of its rules. -/
def Combinator.combine : Combinator → List Bool → Bool
  | and, outcomes => !outcomes.isEmpty && outcomes.all id
  | or, outcomes => outcomes.any id

namespace Rule

/-! ## Rules and their tests -/

mutual

/-- The tests of which the rule is made, in their order. -/
def tests : Rule → List SingleRule
  | single s => [s]
  | aggregate _ rs => testsOfAll rs

def testsOfAll : List Rule → List SingleRule
  | [] => []
  | r :: rs => r.tests ++ testsOfAll rs

end

/-- The names in lower case under which the rule looks headers up. -/
def headerNames (r : Rule) : List String :=
  (r.tests.filter fun s => s.field = .header).map fun s => Text.asciiLower s.key

theorem mem_testsOfAll {r : Rule} {rs : List Rule} (hr : r ∈ rs) {s : SingleRule}
    (hs : s ∈ r.tests) : s ∈ testsOfAll rs := by
  induction rs with
  | nil => cases hr
  | cons q rs ih =>
    rw [testsOfAll, List.mem_append]
    rcases List.mem_cons.1 hr with rfl | hr
    · exact Or.inl hs
    · exact Or.inr (ih hr)

section Outcomes

variable {ε : Type} {source : RuleField → Except ε (Bindings String)} {outcome : Rule → Bool}

theorem evaluateAll_eq_ok :
    ∀ {rs : List Rule}, (∀ r ∈ rs, r.evaluate source = .ok (outcome r)) →
      evaluateAll source rs = .ok (rs.all outcome)
  | [], _ => rfl
  | r :: rs, h => by
    rw [evaluateAll, h r List.mem_cons_self, List.all_cons]
    cases outcome r with
    | false => rfl
    | true => exact evaluateAll_eq_ok fun q hq => h q (List.mem_cons_of_mem _ hq)

theorem evaluateAny_eq_ok :
    ∀ {rs : List Rule}, (∀ r ∈ rs, r.evaluate source = .ok (outcome r)) →
      evaluateAny source rs = .ok (rs.any outcome)
  | [], _ => rfl
  | r :: rs, h => by
    rw [evaluateAny, h r List.mem_cons_self, List.any_cons]
    cases outcome r with
    | true => rfl
    | false => exact evaluateAny_eq_ok fun q hq => h q (List.mem_cons_of_mem _ hq)

end Outcomes

theorem evaluate_aggregate {ε : Type} {source : RuleField → Except ε (Bindings String)}
    {outcome : Rule → Bool} {rs : List Rule} (op : Combinator)
    (h : ∀ r ∈ rs, r.evaluate source = .ok (outcome r)) :
    (aggregate op rs).evaluate source = .ok (op.combine (rs.map outcome)) := by
  rcases rs with _ | ⟨r, rs⟩
  · cases op <;> rfl
  · cases op with
    | and =>
      rw [evaluate, evaluateAll_eq_ok h]
      simp [Combinator.combine]
    | or =>
      rw [evaluate, evaluateAny_eq_ok h]
      simp [Combinator.combine]

/-- A whole input decides every rule. -/
theorem evaluate_values (r : Rule) (input : RuleInput) :
    (r.evaluate fun f => (.ok (input.values f) : Except Empty (Bindings String))) =
      .ok (r.holds input) := by
  unfold holds
  rcases r.evaluate fun f => (.ok (input.values f) : Except Empty (Bindings String)) with e | b
  · exact nomatch e
  · rfl

theorem holds_aggregate (op : Combinator) (rs : List Rule) (input : RuleInput) :
    (aggregate op rs).holds input = op.combine (rs.map fun r => r.holds input) := by
  have h := evaluate_aggregate op fun r (_ : r ∈ rs) => r.evaluate_values input
  rw [evaluate_values] at h
  exact Except.ok.inj h

/-- A rule comes out for a source as it does for an input when its tests do. -/
theorem evaluate_eq_ok_holds {ε : Type} {source : RuleField → Except ε (Bindings String)}
    {input : RuleInput} :
    ∀ r : Rule, (∀ s ∈ r.tests, s.evaluate source = .ok ((single s).holds input)) →
      r.evaluate source = .ok (r.holds input)
  | single s, h => by
    rw [evaluate]
    exact h s (by simp [tests])
  | aggregate op rs, h => by
    rw [holds_aggregate]
    refine evaluate_aggregate op fun r hr => evaluate_eq_ok_holds r fun s hs => h s ?_
    rw [tests]
    exact mem_testsOfAll hr hs

end Rule

/-! ## Header names in lower case -/

namespace Bindings

variable {headers : Bindings String}

/-- No two names differ in the case of ASCII letters alone. -/
def OneSpelling (headers : Bindings String) : Prop :=
  ∀ p ∈ headers.toList, ∀ q ∈ headers.toList, Text.sameName p.1 q.1 = true → p.1 = q.1

/-- A value that is not empty is bound to another spelling of the name in lower case. -/
def Hides (headers : Bindings String) (name : String) : Prop :=
  ∃ spelled value, headers.get? spelled = some value ∧ value ≠ "" ∧
    Text.asciiLower spelled = name ∧ spelled ≠ name

theorem get?_eq_some_iff_mem (h : headers.Distinct) {name value : String} :
    headers.get? name = some value ↔ (name, value) ∈ headers.toList :=
  lookup_eq_some_iff_mem h

theorem OneSpelling.eq {spelled other value value' : String} (hone : headers.OneSpelling)
    (hdistinct : headers.Distinct) (hspelled : headers.get? spelled = some value)
    (hother : headers.get? other = some value')
    (hsame : Text.asciiLower spelled = Text.asciiLower other) : spelled = other := by
  rw [get?_eq_some_iff_mem hdistinct] at hspelled hother
  exact hone _ hspelled _ hother (by simp [Text.sameName, hsame])

/-- Names that differ in more than case are different in lower case. -/
theorem OneSpelling.nodup_lower (hone : headers.OneSpelling) (hdistinct : headers.Distinct) :
    ((headers.toList.map fun p => (Text.asciiLower p.1, p.2)).map Prod.fst).Nodup := by
  have hnames : (headers.toList.map fun p => p.1).Nodup := hdistinct
  rw [List.map_map]
  refine List.Nodup.map_on (fun p hp q hq hsame => ?_) hnames.of_map
  have hname : p.1 = q.1 := hone p hp q hq (by simpa [Text.sameName] using hsame)
  exact List.inj_on_of_nodup_map hnames hp hq hname

end Bindings

namespace RuleInput

/-- The whole input of three maps. -/
def ofBindings (headers query routeParams : Bindings String) : RuleInput :=
  .ofMaps headers.toList query.toList routeParams.toList

/-- A header of a whole input has the value of the header whose name it is in lower case. -/
theorem get?_headers_ofBindings {headers : Bindings String} (hone : headers.OneSpelling)
    (hdistinct : headers.Distinct) (query routeParams : Bindings String) (name value : String) :
    (ofBindings headers query routeParams).headers.get? name = some value ↔
      ∃ spelled, headers.get? spelled = some value ∧ Text.asciiLower spelled = name := by
  change (Bindings.ofList (headers.toList.map fun p => (Text.asciiLower p.1, p.2))).get? name =
    some value ↔ _
  rw [Bindings.get?_ofList_eq_some_iff (hone.nodup_lower hdistinct), List.mem_map]
  simp [Bindings.get?_eq_some_iff_mem hdistinct, and_comm]

end RuleInput

namespace PartialRuleInput

/-- The partial input with all three maps. -/
def ofBindings (headers query routeParams : Bindings String) : PartialRuleInput :=
  { headers := some headers, query := some query, routeParams := some routeParams }

/-- It decides every rule, as the whole input does that has the maps as they are. -/
theorem evaluate_ofBindings (headers query routeParams : Bindings String) (r : Rule) :
    r.evaluate (ofBindings headers query routeParams).values =
      .ok (r.holds { headers, query, routeParams }) := by
  refine r.evaluate_eq_ok_holds fun s _ => ?_
  obtain ⟨field, key, value, test, negate⟩ := s
  cases field <;> rfl

end PartialRuleInput

namespace SingleRule

/-- Only for route parameters it matters whether a value is missing or empty. -/
theorem accepts_congr {s : SingleRule} (hs : s.field ≠ .route) {fetched fetched' : Option String}
    (h : fetched.getD "" = fetched'.getD "") : s.accepts fetched = s.accepts fetched' := by
  unfold accepts
  split <;> split <;> simp_all

end SingleRule

namespace Rule

/-- Inputs for which the tests of a rule come out alike decide it alike. -/
theorem holds_congr {r : Rule} {input input' : RuleInput}
    (h : ∀ s ∈ r.tests, (single s).holds input = (single s).holds input') :
    r.holds input = r.holds input' := by
  have hok : (r.evaluate fun f => (.ok (input.values f) : Except Empty (Bindings String))) =
      .ok (r.holds input') :=
    r.evaluate_eq_ok_holds fun s hs => by rw [← h s hs, ← evaluate_values, evaluate]
  rw [evaluate_values] at hok
  exact Except.ok.inj hok

section Maps

variable {headers query routeParams : Bindings String} (hone : headers.OneSpelling)
  (hheaders : headers.Distinct)

include hone hheaders

/-- A name that no other spelling hides has the same value in both inputs, empty if missing. -/
theorem getD_headers_ofBindings {name : String} (hname : Text.asciiLower name = name)
    (hhides : ¬ headers.Hides name) :
    (headers.get? name).getD "" =
      ((RuleInput.ofBindings headers query routeParams).headers.get? name).getD "" := by
  have hlower := RuleInput.get?_headers_ofBindings hone hheaders query routeParams name
  rcases hwhole : (RuleInput.ofBindings headers query routeParams).headers.get? name with _ | value
  · rcases hgiven : headers.get? name with _ | value
    · rfl
    · have hfound := (hlower value).2 ⟨name, hgiven, hname⟩
      rw [hwhole] at hfound
      cases hfound
  · obtain ⟨spelled, hspelled, hsame⟩ := (hlower value).1 hwhole
    by_cases heq : spelled = name
    · rw [← heq, hspelled]
    · have hempty : value = "" := by
        by_contra hvalue
        exact hhides ⟨spelled, value, hspelled, hvalue, hsame, heq⟩
      rcases hgiven : headers.get? name with _ | value'
      · rw [hempty]
        rfl
      · exact absurd (hone.eq hheaders hspelled hgiven (hsame.trans hname.symm)) heq

/-- A hidden name is missing as it is given. -/
theorem get?_eq_none_of_hides {name : String} (h : headers.Hides name) :
    headers.get? name = none := by
  obtain ⟨spelled, value, hspelled, -, hsame, hne⟩ := h
  rcases hgiven : headers.get? name with _ | value'
  · rfl
  · have hlower : Text.asciiLower name = name := by rw [← hsame, Text.asciiLower_asciiLower]
    exact absurd (hone.eq hheaders hspelled hgiven (hsame.trans hlower.symm)) hne

/-- A partial input with all maps decides every rule as if the names of headers were not brought
into lower case. Rules that look headers up under no names but some given ones are all decided like
the whole input decides them exactly if none of these names is hidden by another spelling. -/
theorem evaluate_ofBindings_iff_not_hides (hquery : query.Distinct)
    (hrouteParams : routeParams.Distinct) :
    (∀ r : Rule, r.evaluate (PartialRuleInput.ofBindings headers query routeParams).values =
        .ok (r.holds { headers, query, routeParams })) ∧
      ∀ names : List String,
        (∀ r : Rule, r.headerNames ⊆ names →
            r.evaluate (PartialRuleInput.ofBindings headers query routeParams).values =
              .ok (r.holds (.ofBindings headers query routeParams))) ↔
          ∀ name ∈ names, ¬ headers.Hides name := by
  refine ⟨PartialRuleInput.evaluate_ofBindings headers query routeParams, fun names => ?_⟩
  simp only [PartialRuleInput.evaluate_ofBindings, Except.ok.injEq]
  constructor
  · -- The test for an empty value tells a hidden value from a missing one.
    intro hsame name hname hhides
    obtain ⟨spelled, value, hspelled, hvalue, hlower, -⟩ := id hhides
    have hwhole := (RuleInput.get?_headers_ofBindings hone hheaders query routeParams name value).2
      ⟨spelled, hspelled, hlower⟩
    have hname' : Text.asciiLower name = name := by rw [← hlower, Text.asciiLower_asciiLower]
    have heq := hsame (.single ⟨.header, name, "", .nullOrEmpty, false⟩) fun other hother => by
      simp only [headerNames, tests] at hother
      simp_all
    rw [SingleRule.holds_eq, SingleRule.holds_eq] at heq
    simp only [RuleField.lookupKey, RuleInput.values, hname', hwhole,
      get?_eq_none_of_hides hone hheaders hhides] at heq
    simp [SingleRule.accepts, SingleRule.passes, hvalue] at heq
  · intro hhides r hr
    refine holds_congr fun s hs => ?_
    rw [SingleRule.holds_eq, SingleRule.holds_eq]
    rcases hfield : s.field with _ | _ | _
    · refine SingleRule.accepts_congr (by simp [hfield]) ?_
      have hmem : Text.asciiLower s.key ∈ r.headerNames :=
        List.mem_map.2 ⟨s, List.mem_filter.2 ⟨hs, by simpa using hfield⟩, rfl⟩
      exact getD_headers_ofBindings hone hheaders (Text.asciiLower_asciiLower s.key)
        (hhides _ (hr hmem))
    · exact congrArg s.accepts (hquery.get?_ofList_toList s.key).symm
    · exact congrArg s.accepts (hrouteParams.get?_ofList_toList s.key).symm

end Maps

/-- A header in lower case, and one in another spelling that is empty. -/
def spelledApart : Bindings String := .ofList [("x-role", "admin"), ("X-Trace", "")]

/-- A rule on both headers and on a route parameter. -/
def asksForBoth : Rule :=
  .aggregate .and
    [.single ⟨.header, "X-Role", "admin", .equals, false⟩,
      .aggregate .or
        [.single ⟨.route, "id", "7", .equals, true⟩,
          .single ⟨.header, "X-Trace", "", .nullOrEmpty, false⟩]]

theorem spelledApart_evaluate_ofBindings :
    spelledApart.OneSpelling ∧ spelledApart.Distinct ∧
      asksForBoth.headerNames = ["x-role", "x-trace"] ∧
      asksForBoth.evaluate (PartialRuleInput.ofBindings spelledApart .empty .empty).values =
        .ok (asksForBoth.holds (.ofBindings spelledApart .empty .empty)) ∧
      asksForBoth.holds (.ofBindings spelledApart .empty .empty) = true := by
  have hone : spelledApart.OneSpelling := by
    unfold Bindings.OneSpelling
    decide +kernel
  have hdistinct : spelledApart.Distinct := Bindings.Distinct.empty.insertAll
  have hnames : asksForBoth.headerNames = ["x-role", "x-trace"] := by decide +kernel
  have hhides : ∀ name ∈ asksForBoth.headerNames, ¬ spelledApart.Hides name := by
    rintro name - ⟨spelled, value, hspelled, hvalue, hlower, hne⟩
    have hmem := (Bindings.get?_eq_some_iff_mem hdistinct).1 hspelled
    change (spelled, value) ∈ [("X-Trace", ""), ("x-role", "admin")] at hmem
    rcases List.mem_cons.1 hmem with heq | hmem
    · exact hvalue (congrArg Prod.snd heq)
    · obtain rfl : spelled = "x-role" := congrArg Prod.fst (List.mem_singleton.1 hmem)
      exact hne (hlower ▸ by decide +kernel)
  obtain ⟨-, hiff⟩ := evaluate_ofBindings_iff_not_hides hone hdistinct .empty .empty
  exact ⟨hone, hdistinct, hnames, (hiff _).2 hhides asksForBoth (List.Subset.refl _),
    by decide +kernel⟩

/-- A header with capital letters in its name. -/
def capitalized : Bindings String := .ofList [("X-Role", "admin")]

/-- A rule that spells the name of a header as it is given holds for the whole input and does not
hold for the partial one. -/
theorem capitalized_evaluate_ne_holds :
    capitalized.OneSpelling ∧ capitalized.Distinct ∧
      (Rule.single ⟨.header, "X-Role", "admin", .equals, false⟩).evaluate
          (PartialRuleInput.ofBindings capitalized .empty .empty).values = .ok false ∧
      (Rule.single ⟨.header, "X-Role", "admin", .equals, false⟩).holds
        (.ofBindings capitalized .empty .empty) = true := by
  refine ⟨?_, Bindings.Distinct.empty.insertAll, by decide +kernel, by decide +kernel⟩
  unfold Bindings.OneSpelling
  decide +kernel

end Rule

end StubServer

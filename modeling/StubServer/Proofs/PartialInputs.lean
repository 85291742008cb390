import StubServer.Proofs.Outcome
import StubServer.Proofs.RuleSources

/-!
# Rules against fuller inputs

A rule that a partial input decides comes out in the same way for every input that has the same
maps and perhaps more (`Rule.evaluate_of_within`). Rules behind the one that settles a combination
are not looked at: a map that only they need is not missed where it is not there, and changes
nothing where it is. An input with all maps decides every rule.
-/

namespace StubServer

namespace PartialRuleInput

/-- Each map of the first input is there in the second one, with the same values. -/
def Within (p q : PartialRuleInput) : Prop :=
  ∀ f m, p.values f = .ok m → ∃ m', q.values f = .ok m' ∧ ∀ name, m'.get? name = m.get? name

/-- All three maps are there. -/
def IsWhole (p : PartialRuleInput) : Prop :=
  p.headers.isSome = true ∧ p.query.isSome = true ∧ p.routeParams.isSome = true

theorem IsWhole.eq_ofBindings {p : PartialRuleInput} (h : p.IsWhole) :
    ∃ headers query routeParams, p = ofBindings headers query routeParams := by
  obtain ⟨headers, query, routeParams⟩ := p
  obtain ⟨hheaders, hquery, hrouteParams⟩ := h
  obtain ⟨headers, rfl⟩ := Option.isSome_iff_exists.1 hheaders
  obtain ⟨query, rfl⟩ := Option.isSome_iff_exists.1 hquery
  obtain ⟨routeParams, rfl⟩ := Option.isSome_iff_exists.1 hrouteParams
  exact ⟨headers, query, routeParams, rfl⟩

end PartialRuleInput

namespace Rule

section Steps

variable {ε : Type} {source source' : RuleField → Except ε (Bindings String)}

theorem evaluateAll_mono :
    ∀ {rs : List Rule} {b : Bool},
      (∀ r ∈ rs, ∀ b, r.evaluate source = .ok b → r.evaluate source' = .ok b) →
        evaluateAll source rs = .ok b → evaluateAll source' rs = .ok b
  | [], _, _, hb => hb
  | r :: rs, b, h, hb => by
    obtain ⟨outcome, hr, hb⟩ := bind_eq_ok.1 hb
    refine bind_eq_ok.2 ⟨outcome, h r List.mem_cons_self outcome hr, ?_⟩
    cases outcome with
    | false => exact hb
    | true => exact evaluateAll_mono (fun q hq => h q (List.mem_cons_of_mem _ hq)) hb

theorem evaluateAny_mono :
    ∀ {rs : List Rule} {b : Bool},
      (∀ r ∈ rs, ∀ b, r.evaluate source = .ok b → r.evaluate source' = .ok b) →
        evaluateAny source rs = .ok b → evaluateAny source' rs = .ok b
  | [], _, _, hb => hb
  | r :: rs, b, h, hb => by
    obtain ⟨outcome, hr, hb⟩ := bind_eq_ok.1 hb
    refine bind_eq_ok.2 ⟨outcome, h r List.mem_cons_self outcome hr, ?_⟩
    cases outcome with
    | true => exact hb
    | false => exact evaluateAny_mono (fun q hq => h q (List.mem_cons_of_mem _ hq)) hb

end Steps

variable {p q : PartialRuleInput}

theorem single_mono (h : p.Within q) {s : SingleRule} {b : Bool}
    (hb : s.evaluate p.values = .ok b) : s.evaluate q.values = .ok b := by
  obtain ⟨m, hm, hb⟩ := bind_eq_ok.1 hb
  obtain ⟨m', hm', hget⟩ := h s.field m hm
  refine bind_eq_ok.2 ⟨m', hm', ?_⟩
  rw [hget]
  exact hb

/-- A decision stays when maps are added. -/
theorem evaluate_mono (h : p.Within q) :
    ∀ (r : Rule) {b : Bool}, r.evaluate p.values = .ok b → r.evaluate q.values = .ok b
  | single s, b, hb => by
    rw [evaluate] at hb ⊢
    exact single_mono h hb
  | aggregate op [], b, hb => by cases op <;> exact hb
  | aggregate .and (r :: rs), b, hb => by
    rw [evaluate] at hb ⊢
    exact evaluateAll_mono (fun r' _ _ => evaluate_mono h r') hb
  | aggregate .or (r :: rs), b, hb => by
    rw [evaluate] at hb ⊢
    exact evaluateAny_mono (fun r' _ _ => evaluate_mono h r') hb

/-- What a rule comes out as for an input, it comes out as for every input with the same maps and
perhaps more, and it comes out for every input with all maps. -/
theorem evaluate_of_within (r : Rule) :
    (∀ p q : PartialRuleInput, p.Within q → ∀ b,
        r.evaluate p.values = .ok b → r.evaluate q.values = .ok b) ∧
      ∀ q : PartialRuleInput, q.IsWhole → ∃ b, r.evaluate q.values = .ok b := by
  refine ⟨fun p q h b => evaluate_mono h r, fun q hq => ?_⟩
  obtain ⟨headers, query, routeParams, rfl⟩ := hq.eq_ofBindings
  exact ⟨_, PartialRuleInput.evaluate_ofBindings headers query routeParams r⟩

/-- An input with two query parameters and nothing else. -/
def queryOnly : PartialRuleInput :=
  { query := some (.ofList [("page", "2"), ("debug", "1")]) }

/-- An input with all maps, with the same query parameters in another order. -/
def allMaps : PartialRuleInput :=
  .ofBindings (.ofList [("x-role", "admin")]) (.ofList [("debug", "1"), ("page", "2")]) .empty

/-- The header is needed only when the query parameter has another value. -/
def debugOrAdmin : Rule :=
  .aggregate .or
    [.aggregate .and [], .single ⟨.query, "debug", "1", .equals, false⟩,
      .single ⟨.header, "X-Role", "admin", .equals, false⟩]

theorem debugOrAdmin_evaluate_of_within :
    queryOnly.Within allMaps ∧ allMaps.IsWhole ∧
      debugOrAdmin.evaluate queryOnly.values = .ok true ∧
      (single ⟨.header, "X-Role", "admin", .equals, false⟩).evaluate queryOnly.values =
        .error ⟨.header⟩ ∧
      debugOrAdmin.evaluate allMaps.values = .ok true ∧
      ∃ b, (single ⟨.header, "X-Role", "admin", .equals, false⟩).evaluate allMaps.values =
        .ok b := by
  have hwithin : queryOnly.Within allMaps := by
    rintro (_ | _ | _) m hm <;> cases hm
    refine ⟨_, rfl, fun name => ?_⟩
    simp only [Bindings.ofList, Bindings.insertAll, List.foldl_cons, List.foldl_nil,
      Bindings.get?_insert]
    grind
  have hwhole : allMaps.IsWhole := ⟨rfl, rfl, rfl⟩
  have hpartial : debugOrAdmin.evaluate queryOnly.values = .ok true := by decide +kernel
  exact ⟨hwithin, hwhole, hpartial, by decide +kernel,
    (evaluate_of_within debugOrAdmin).1 _ _ hwithin _ hpartial,
    (evaluate_of_within _).2 _ hwhole⟩

end Rule

end StubServer

import StubServer.Proofs.DrawBounds
import StubServer.Store.Select

/-!
# Candidates for a selection

The candidates for a request are the responses of a route whose rules all hold, in their order
(`mem_candidates_iff`, `pairwise_index_candidates`). Each strategy takes one of them by a number:
the first one, one that is drawn or one that is due. The number is in range whatever the position
and the draw (`select_of_candidates`), so by every strategy something is selected exactly when there
is a candidate, and it is one (`strategies_agree`).
-/

namespace StubServer

namespace Config.Route

/-- A response of the route, at its place among them, all of whose rules hold. -/
structure IsCandidate (r : Route) (input : RuleInput) (x : Selected) : Prop where
  at_index : r.responses[x.index]? = some x.response
  holds : ∀ rule ∈ x.response.rules, rule.holds input = true

theorem mem_candidates_iff {r : Route} {input : RuleInput} {x : Selected} :
    x ∈ r.candidates input ↔ r.IsCandidate input x := by
  have hplace : x ∈ r.responses.zipIdx.map (fun p => (⟨p.2, p.1⟩ : Selected)) ↔
      r.responses[x.index]? = some x.response := by
    rw [← List.mk_mem_zipIdx_iff_getElem?, List.mem_map]
    constructor
    · rintro ⟨p, hp, rfl⟩
      exact hp
    · exact fun hp => ⟨_, hp, rfl⟩
  have hpasses : x.response.passes input = true ↔
      ∀ rule ∈ x.response.rules, rule.holds input = true := List.all_eq_true
  rw [candidates, List.mem_filter, hpasses, hplace]
  exact ⟨fun h => ⟨h.1, h.2⟩, fun h => ⟨h.at_index, h.holds⟩⟩

theorem pairwise_index_candidates (r : Route) (input : RuleInput) :
    ((r.candidates input).map Selected.index).Pairwise (· < ·) := by
  have hsub : ((r.candidates input).map Selected.index).Sublist
      (r.responses.zipIdx.map Prod.snd) := by
    have h := (List.filter_sublist (p := fun s : Selected => s.response.passes input)
      (l := r.responses.zipIdx.map fun p => ⟨p.2, p.1⟩)).map Selected.index
    simpa [candidates, Function.comp_def] using h
  rw [List.zipIdx_map_snd] at hsub
  exact List.Pairwise.sublist hsub List.pairwise_lt_range'

/-- No candidate stands before the first one. -/
theorem index_le_of_mem_candidates {r : Route} {input : RuleInput} {x y : Selected}
    (hx : (r.candidates input)[0]? = some x) (hy : y ∈ r.candidates input) :
    x.index ≤ y.index := by
  obtain ⟨rest, hrest⟩ := List.head?_eq_some_iff.1 (List.head?_eq_getElem?.trans hx)
  have hpairwise := r.pairwise_index_candidates input
  rw [hrest, List.map_cons, List.pairwise_cons] at hpairwise
  rw [hrest] at hy
  rcases List.mem_cons.1 hy with rfl | hy
  · exact Nat.le_refl _
  · exact Nat.le_of_lt (hpairwise.1 _ (List.mem_map_of_mem hy))

end Config.Route

namespace Store

variable {r : Config.Route} {input : RuleInput}

/-- Without a candidate nothing is selected, nothing is drawn and the store stays as it is. -/
theorem select_of_candidates_eq_nil (hc : r.candidates input = []) (s : Store) (draws : Draws) :
    select r input s draws = some ((none, s), draws) := by
  rcases hr : r.strategy with _ | _ | _
  · rw [select_of_first hr, hc, List.head?_nil]
  · rw [select_of_random hr, hc]
    rfl
  · rw [select_of_sequence hr, hc]
    rfl

theorem anyOf_of_ne_nil {candidates : List Selected} (hc : candidates ≠ []) (draws : Draws) :
    anyOf candidates draws =
      (Random.below64 candidates.length draws).map fun p => (candidates[p.1]?, p.2) := by
  rw [anyOf, if_neg (by simpa using hc)]
  exact Random.map_apply (candidates[·]?) (Random.below64 candidates.length) draws

theorem nextInSequence_of_ne_nil {candidates : List Selected} (hc : candidates ≠ []) (key : String)
    (s : Store) :
    (nextInSequence key candidates s).1 =
      candidates[((s.positions.get? key).getD 0).toNat % candidates.length]? := by
  obtain ⟨c, cs, rfl⟩ := List.exists_cons_of_ne_nil hc
  rw [nextInSequence_cons]

/-- With candidates the one at some place is selected, at the first place by the first strategy,
except that a draw may find no acceptable word. -/
theorem select_of_candidates (hc : r.candidates input ≠ []) (s : Store) (draws : Draws) :
    (r.strategy = .random ∧ Random.below64 (r.candidates input).length draws = none ∧
      select r input s draws = none) ∨
    ∃ (k : Nat) (hk : k < (r.candidates input).length) (s' : Store) (draws' : Draws),
      select r input s draws = some ((some (r.candidates input)[k], s'), draws') ∧
      (r.strategy = .first → k = 0) := by
  have hpos := List.length_pos_iff.2 hc
  rcases hr : r.strategy with _ | _ | _
  · refine .inr ⟨0, hpos, s, draws, ?_, fun _ => rfl⟩
    rw [select_of_first hr, List.head?_eq_getElem?, List.getElem?_eq_getElem hpos]
  · rw [select_of_random hr, anyOf_of_ne_nil hc]
    rcases hdraw : Random.below64 (r.candidates input).length draws with _ | ⟨k, draws'⟩
    · exact .inl ⟨rfl, rfl, rfl⟩
    · have hk := Random.lt_of_below64 hpos hdraw
      refine .inr ⟨k, hk, s, draws', ?_, nofun⟩
      rw [Option.map_some, Option.map_some, List.getElem?_eq_getElem hk]
  · have hk := Nat.mod_lt ((s.positions.get? r.key).getD 0).toNat hpos
    have htaken := nextInSequence_of_ne_nil hc r.key s
    rw [List.getElem?_eq_getElem hk] at htaken
    refine .inr ⟨_, hk, (nextInSequence r.key (r.candidates input) s).2, draws, ?_, nofun⟩
    rw [select_of_sequence hr, ← htaken]
    rfl

/-- By whichever strategy, one of the candidates is selected. -/
theorem mem_candidates_of_select {s s' : Store} {draws draws' : Draws} {x : Selected}
    (h : select r input s draws = some ((some x, s'), draws')) : x ∈ r.candidates input := by
  by_cases hc : r.candidates input = []
  · rw [select_of_candidates_eq_nil hc] at h
    cases h
  · rcases select_of_candidates hc s draws with ⟨-, -, hnone⟩ | ⟨k, hk, t, left, hselect, -⟩
    · rw [hnone] at h
      cases h
    · rw [hselect] at h
      cases h
      exact List.getElem_mem hk

/-- Whatever the position and the draws, by each of the strategies nothing is selected when the
route has no candidate, and otherwise a candidate: the first one by the first strategy, and the only
one by all of them. A selection at random does not end when its draw does not. -/
theorem strategies_agree (r : Config.Route) (input : RuleInput) (s : Store) (draws : Draws)
    (strategy : Config.Strategy) :
    match select (r.withStrategy strategy) input s draws with
    | some ((none, _), _) => ∀ x, ¬ r.IsCandidate input x
    | some ((some x, _), _) =>
      r.IsCandidate input x ∧
        (strategy = .first → ∀ y, r.IsCandidate input y → x.index ≤ y.index) ∧
        ∀ y, (∀ z, r.IsCandidate input z ↔ z = y) → x = y
    | none =>
      (∃ x, r.IsCandidate input x) ∧ strategy = .random ∧
        Random.below64 (r.candidates input).length draws = none := by
  by_cases hc : r.candidates input = []
  · rw [select_of_candidates_eq_nil (r := r.withStrategy strategy) hc]
    intro x hx
    have hmem := Config.Route.mem_candidates_iff.2 hx
    rw [hc] at hmem
    cases hmem
  · rcases select_of_candidates (r := r.withStrategy strategy) hc s draws with
      ⟨hrandom, hdraw, hselect⟩ | ⟨k, hk, s', draws', hselect, hfirst⟩
    · rw [hselect]
      obtain ⟨x, hx⟩ := List.exists_mem_of_ne_nil _ hc
      exact ⟨⟨x, Config.Route.mem_candidates_iff.1 hx⟩, hrandom, hdraw⟩
    · rw [hselect]
      have hmem : (r.candidates input)[k] ∈ r.candidates input := List.getElem_mem hk
      have hx := Config.Route.mem_candidates_iff.1 hmem
      refine ⟨hx, fun hstrategy y hy => ?_, fun y hy => (hy _).1 hx⟩
      obtain rfl := hfirst hstrategy
      exact Config.Route.index_le_of_mem_candidates (r := r) (List.getElem?_eq_getElem hk)
        (Config.Route.mem_candidates_iff.2 hy)

/-- A route whose first response waits for a header. -/
def guarded : Config.Route where
  urlTemplate := "/door"
  responses := [{ body := "in", rules := [.single ⟨.header, "key", "gold", .equals, false⟩] },
    { body := "out" }]

theorem guarded_strategies_agree :
    (∀ x, guarded.IsCandidate {} x ↔ x = ⟨1, { body := "out" }⟩) ∧
      ∀ (s : Store) (draws : Draws) (strategy : Config.Strategy),
        match select (guarded.withStrategy strategy) {} s draws with
        | some ((x, _), _) => x = some ⟨1, { body := "out" }⟩
        | none => strategy = .random ∧ Random.below64 1 draws = none := by
  have hcandidates : guarded.candidates {} = [⟨1, { body := "out" }⟩] := rfl
  have hone (x : Selected) : guarded.IsCandidate {} x ↔ x = ⟨1, { body := "out" }⟩ := by
    rw [← Config.Route.mem_candidates_iff, hcandidates, List.mem_singleton]
  refine ⟨hone, fun s draws strategy => ?_⟩
  have hagree := strategies_agree guarded {} s draws strategy
  rcases hselect : select (guarded.withStrategy strategy) {} s draws with
    _ | ⟨⟨_ | x, s'⟩, draws'⟩ <;> rw [hselect] at hagree
  · rw [hcandidates] at hagree
    exact hagree.2
  · exact absurd ((hone _).2 rfl) (hagree _)
  · exact congrArg some (hagree.2.2 _ hone)

end Store

end StubServer

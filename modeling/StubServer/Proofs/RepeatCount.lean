import StubServer.Proofs.DrawBounds
import StubServer.Proofs.Outcome
import StubServer.Template.Render

/-!
# The number of repetitions

A `repeat` block is repeated as often as its first parameter says or, when its second parameter is
an integer too, some number of times between the two, and never more than 10000 times
(`counts_of_repeatOf`).
-/

namespace StubServer

namespace Template

open Rendering

/-- The repetitions that the parameters of a `repeat` block ask for. -/
def repeatOf (setting : Setting) (params : List Node) : Rendering Repeat := do
  let values ← evaluateAll setting params
  let plan ← blockAnswer "repeat" (RepeatPlan.ofValues values)
  random plan.draw

/-- Repetitions as the values of the parameters ask for them: as many as the first value says or,
when the second one is an integer too, some number between the two. A negative number is none. -/
def Counts (values : List Value) (n : Nat) : Prop :=
  ∃ first rest low c, values = first :: rest ∧ first.asInteger? = some low ∧
    (n : Int) = max 0 c ∧
    match rest.head?.bind Value.asInteger? with
    | none => c = low
    | some high => low ≤ c ∧ c ≤ high

theorem checkCount_eq_ok {n m : Int} : checkCount n = .ok m ↔ n ≤ 10000 ∧ n = m := by
  unfold checkCount maxRepeat
  split <;> simp <;> omega

/-- A given number of repetitions is taken as it is. -/
theorem count_of_exactly {n : Int} {separator : Option String} {plan : RepeatPlan} {r : Repeat}
    {d d' : Draws} (hplan : (return .exactly (← checkCount n) separator) = Except.ok plan)
    (hdraw : plan.draw d = some (r, d')) : r.count = n.toNat ∧ n ≤ 10000 := by
  obtain ⟨m, hm, hplan⟩ := bind_eq_ok.1 hplan
  obtain ⟨hmax, rfl⟩ := checkCount_eq_ok.1 hm
  cases hplan
  obtain ⟨rfl, -⟩ := Random.pure_eq_some.1 hdraw
  exact ⟨rfl, hmax⟩

theorem count_of_within {low high : Int} {separator : Option String} {r : Repeat} {d d' : Draws}
    (hlow : Number.minInt64 ≤ low) (hle : low ≤ high) (hhigh : high ≤ Number.maxInt64)
    (h : (RepeatPlan.within low high separator).draw d = some (r, d')) :
    ∃ c, low ≤ c ∧ c ≤ high ∧ r.count = c.toNat := by
  obtain ⟨c, e, hc, h⟩ := Random.bind_eq_some.1 h
  obtain ⟨rfl, -⟩ := Random.pure_eq_some.1 h
  obtain ⟨hlow', hhigh'⟩ := Random.mem_of_between hlow hle hhigh hc
  exact ⟨c, hlow', hhigh', rfl⟩

theorem counts_of_ofValues {values : List Value} {plan : RepeatPlan} {r : Repeat} {d d' : Draws}
    (hplan : RepeatPlan.ofValues values = .ok plan) (hdraw : plan.draw d = some (r, d')) :
    Counts values r.count ∧ r.count ≤ 10000 := by
  rcases values with _ | ⟨first, rest⟩
  · cases hplan
  rw [RepeatPlan.ofValues] at hplan
  rcases hfirst : first.asInteger? with _ | low <;> rw [hfirst] at hplan
  · cases hplan
  -- The number that is drawn or given, and the bound that it was checked against.
  have hcounts : ∃ c : Int, r.count = c.toNat ∧ c ≤ 10000 ∧
      match rest.head?.bind Value.asInteger? with
      | none => c = low
      | some high => low ≤ c ∧ c ≤ high := by
    rcases rest with _ | ⟨second, rest⟩
    · obtain ⟨hcount, hmax⟩ := count_of_exactly hplan hdraw
      exact ⟨low, hcount, hmax, rfl⟩
    · simp only [List.head?_cons, Option.bind_some]
      rcases hsecond : second.asInteger? with _ | high <;> simp only [hsecond] at hplan
      · obtain ⟨hcount, hmax⟩ := count_of_exactly hplan hdraw
        exact ⟨low, hcount, hmax, rfl⟩
      · split at hplan
        · cases hplan
        · rename_i hle
          obtain ⟨n, hn, hplan⟩ := bind_eq_ok.1 hplan
          obtain ⟨hmax, rfl⟩ := checkCount_eq_ok.1 hn
          cases hplan
          have hfits := Number.fitsInt64_iff.1 (Value.fitsInt64_of_asInteger? hfirst)
          have hfits' := Number.fitsInt64_iff.1 (Value.fitsInt64_of_asInteger? hsecond)
          obtain ⟨c, hlow, hc, hcount⟩ := count_of_within hfits.1 (by omega) hfits'.2 hdraw
          exact ⟨c, hcount, by omega, hlow, hc⟩
  obtain ⟨c, hcount, hmax, hbounds⟩ := hcounts
  exact ⟨⟨first, rest, low, c, rfl, hfirst, by omega, hbounds⟩, by omega⟩

theorem counts_of_repeatOf {setting : Setting} {params : List Node} {s t : RenderState}
    {r : Repeat} (h : repeatOf setting params s = .ok r t) :
    ∃ values u, evaluateAll setting params s = .ok values u ∧ Counts values r.count ∧
      r.count ≤ 10000 := by
  rw [repeatOf, bind_eq] at h
  rcases hvalues : evaluateAll setting params s with ⟨values, u⟩ | ⟨e, u⟩ <;>
    simp only [hvalues] at h
  · refine ⟨values, u, rfl, ?_⟩
    rcases hplan : RepeatPlan.ofValues values with fault | plan <;> rw [hplan] at h
    · cases h
    · simp only [blockAnswer, pure_bind] at h
      unfold random at h
      split at h
      · rename_i r' draws hdraw
        cases h
        exact counts_of_ofValues hplan hdraw
      · cases h
  · cases h

end Template

end StubServer

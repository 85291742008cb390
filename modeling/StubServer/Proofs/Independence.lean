import Mathlib.Data.Nat.Basic
import Mathlib.Order.Basic
import StubServer.Proofs.Congruence

/-!
# Renderings for two requests

A rendering learns of the request only through the functions on it, and each such call is counted.
So two renderings that differ only in the request take the same steps up to the first count: they
have the same outcome, or both have counted (`render_sameUntilRead`). A run that counts nothing
comes out the same for every request (`run_eq_of_accesses_eq_zero`).
-/

namespace StubServer

namespace Template

namespace Rendering

variable {α β : Type}

/-- The number of times that the request was read, at the end of a step. -/
def reads : EStateM.Result EvalError RenderState α → Nat
  | .ok _ s => s.accesses
  | .error _ s => s.accesses

/-- From every state the steps have the same outcome, or both read the request. Neither forgets
what was read before. -/
def SameUntilRead (m m' : Rendering α) : Prop :=
  ∀ s, (m s = m' s ∧ s.accesses ≤ reads (m s)) ∨
    (s.accesses < reads (m s) ∧ s.accesses < reads (m' s))

namespace SameUntilRead

variable {m m' : Rendering α}

theorem le_left (h : SameUntilRead m m') (s : RenderState) : s.accesses ≤ reads (m s) := by
  rcases h s with ⟨-, hle⟩ | ⟨hlt, -⟩
  · exact hle
  · omega

theorem le_right (h : SameUntilRead m m') (s : RenderState) : s.accesses ≤ reads (m' s) := by
  rcases h s with ⟨heq, hle⟩ | ⟨-, hlt⟩
  · exact heq ▸ hle
  · omega

/-- A step that keeps the count does not depend on the request. -/
theorem of_reads (h : ∀ s, reads (m s) = s.accesses) : SameUntilRead m m :=
  fun s => Or.inl ⟨rfl, (h s).ge⟩

protected theorem pure (a : α) : SameUntilRead (pure a) (pure a) :=
  of_reads fun _ => rfl

protected theorem throw (e : EvalError) : SameUntilRead (throw e : Rendering α) (throw e) :=
  of_reads fun _ => rfl

theorem reads_bind_le {f : α → Rendering β} (hf : ∀ a s, s.accesses ≤ reads (f a s))
    (s : RenderState) : reads (m s) ≤ reads ((m >>= f) s) := by
  rw [bind_eq]
  split
  · rename_i a s' hm
    rw [hm]
    exact hf a s'
  · rename_i e s' hm
    rw [hm]
    exact le_rfl

protected theorem bind {f f' : α → Rendering β} (hm : SameUntilRead m m')
    (hf : ∀ a, SameUntilRead (f a) (f' a)) : SameUntilRead (m >>= f) (m' >>= f') := by
  intro s
  rcases hm s with ⟨heq, hle⟩ | ⟨hlt, hlt'⟩
  · rw [bind_eq, bind_eq, ← heq]
    rcases h : m s with ⟨a, t⟩ | ⟨e, t⟩ <;> rw [h] at hle
    · rcases hf a t with ⟨heq', hle'⟩ | ⟨hlt, hlt'⟩
      · exact Or.inl ⟨heq', hle.trans hle'⟩
      · exact Or.inr ⟨hle.trans_lt hlt, hle.trans_lt hlt'⟩
    · exact Or.inl ⟨rfl, hle⟩
  -- Both have read already, and what follows only adds to the counts.
  · exact Or.inr ⟨hlt.trans_le (reads_bind_le (fun a => (hf a).le_left) s),
      hlt'.trans_le (reads_bind_le (fun a => (hf a).le_right) s)⟩

protected theorem random (r : Random α) : SameUntilRead (random r) (random r) := by
  refine of_reads fun s => ?_
  unfold random
  split <;> rfl

protected theorem setVariable (name : String) (v : Value) :
    SameUntilRead (setVariable name v) (setVariable name v) :=
  of_reads fun _ => rfl

protected theorem valueOf (name : String) : SameUntilRead (valueOf name) (valueOf name) := by
  refine of_reads fun s => ?_
  rw [valueOf_eq]
  split <;> rfl

/-- Once the request is read, what is made of it may differ. -/
theorem countAccess (a b : α) :
    SameUntilRead (do countAccess; pure a) (do countAccess; pure b) :=
  fun s => Or.inr ⟨Nat.lt_succ_self s.accesses, Nat.lt_succ_self s.accesses⟩

protected theorem inScope (hm : SameUntilRead m m') : SameUntilRead (inScope m) (inScope m') := by
  have hreads : ∀ (n : Rendering α) (s : RenderState),
      reads (inScope n s) = reads (n { s with scopes := s.scopes.push }) := by
    intro n s
    unfold inScope
    rcases n { s with scopes := s.scopes.push } with ⟨a, t⟩ | ⟨e, t⟩ <;> rfl
  intro s
  rw [hreads, hreads]
  rcases hm { s with scopes := s.scopes.push } with ⟨heq, hle⟩ | h
  · refine Or.inl ⟨?_, hle⟩
    unfold inScope
    rw [heq]
  · exact Or.inr h

theorem congruence : Congruence fun _ => SameUntilRead where
  of_pure := SameUntilRead.pure
  of_throw := SameUntilRead.throw
  of_bind := SameUntilRead.bind
  of_random := SameUntilRead.random
  of_setVariable := SameUntilRead.setVariable
  of_valueOf := SameUntilRead.valueOf
  of_countAccess := SameUntilRead.countAccess
  of_inScope := SameUntilRead.inScope

end SameUntilRead

end Rendering

open Rendering

/-- Renderings of the same nodes for two requests agree until they read the request. -/
theorem render_sameUntilRead (now : Time.Instant) (v w : Http.View) (ns : List Node) :
    SameUntilRead (render ⟨now, some v⟩ ns) (render ⟨now, some w⟩ ns) :=
  SameUntilRead.congruence.render (by rfl) (by rfl) ns

namespace Compiled

/-- Runs for two requests have the same outcome, or both read the request. -/
theorem run_same_or_read (c : Compiled) (now : Time.Instant) (v w : Http.View) (draws : Draws) :
    c.run ⟨now, some v⟩ draws = c.run ⟨now, some w⟩ draws ∨
      (0 < (c.run ⟨now, some v⟩ draws).accesses ∧ 0 < (c.run ⟨now, some w⟩ draws).accesses) := by
  have hsame : SameUntilRead (c.render ⟨now, some v⟩) (c.render ⟨now, some w⟩) := by
    cases c with
    | static text => exact SameUntilRead.pure text
    | nodes ns => exact render_sameUntilRead now v w ns
  unfold Compiled.run
  rcases hsame { draws } with ⟨heq, -⟩ | ⟨hv, hw⟩
  · exact Or.inl (by rw [heq])
  · refine Or.inr ⟨?_, ?_⟩
    · rcases h : c.render ⟨now, some v⟩ { draws } with ⟨a, s⟩ | ⟨e, s⟩ <;> rw [h] at hv <;> exact hv
    · rcases h : c.render ⟨now, some w⟩ { draws } with ⟨a, s⟩ | ⟨e, s⟩ <;> rw [h] at hw <;> exact hw

/-- A run that did not read the request comes out the same for every request: with the same text or
error, the same words drawn and the request not read. -/
theorem run_eq_of_accesses_eq_zero (c : Compiled) (now : Time.Instant) (v w : Http.View)
    (draws : Draws) (h : (c.run ⟨now, some v⟩ draws).accesses = 0) :
    c.run ⟨now, some w⟩ draws = c.run ⟨now, some v⟩ draws := by
  rcases run_same_or_read c now v w draws with heq | ⟨hv, -⟩
  · exact heq.symm
  · omega

/-- A draw, and then a function on the request that is refused for its argument. -/
def refused : Compiled :=
  .nodes [.function "oneOf" [.function "split" [.literal "a,b", .literal ","]],
    .function "queryParam" [.function "split" [.literal "a,b", .literal ","]]]

theorem refused_run_eq :
    (refused.run ⟨⟨0, 0, 0⟩, some (.ofTarget "GET" "/x")⟩ ⟨fun _ => 0, 0⟩).accesses = 0 ∧
      (refused.run ⟨⟨0, 0, 0⟩, some (.ofTarget "GET" "/x")⟩ ⟨fun _ => 0, 0⟩).draws.position = 1 ∧
      refused.run ⟨⟨0, 0, 0⟩, some (.ofTarget "POST" "/y")⟩ ⟨fun _ => 0, 0⟩ =
        refused.run ⟨⟨0, 0, 0⟩, some (.ofTarget "GET" "/x")⟩ ⟨fun _ => 0, 0⟩ :=
  ⟨by decide +kernel, by decide +kernel,
    run_eq_of_accesses_eq_zero refused _ _ _ _ (by decide +kernel)⟩

end Compiled

end Template

end StubServer

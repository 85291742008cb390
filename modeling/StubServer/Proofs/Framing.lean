import StubServer.Proofs.Congruence

/-!
# What a rendering does to the scopes

A rendering writes to the innermost scope alone and closes every scope that it opens, also when it
fails. So the scopes at its end are those at its start, up to bindings written to the innermost one
(`render_scopes_extend`).
-/

namespace StubServer

namespace Template

namespace Scopes

/-- The scope that variables are written to. -/
def innermost (s : Scopes) : Bindings Value :=
  s.inner.headD s.root

/-- The scopes around the innermost one. -/
def enclosing (s : Scopes) : List (Bindings Value) :=
  s.toList.tail

/-- The first stack is as deep as the second one, has the same scopes around the innermost one, and
binds in that one every name that the second stack does. -/
structure Extends (t s : Scopes) : Prop where
  depth : t.depth = s.depth
  enclosing : t.enclosing = s.enclosing
  bound : ∀ name, s.innermost.contains name = true → t.innermost.contains name = true

namespace Extends

variable {s t u : Scopes}

protected theorem refl (s : Scopes) : s.Extends s :=
  ⟨rfl, rfl, fun _ h => h⟩

protected theorem trans (htu : u.Extends t) (hst : t.Extends s) : u.Extends s where
  depth := htu.depth.trans hst.depth
  enclosing := htu.enclosing.trans hst.enclosing
  bound name h := htu.bound name (hst.bound name h)

theorem set (s : Scopes) (name : String) (v : Value) : (s.set name v).Extends s where
  depth := depth_set s name v
  enclosing := by
    unfold Scopes.set Scopes.enclosing toList
    cases s.inner <;> rfl
  bound other h := by
    have hinsert : (s.set name v).innermost = s.innermost.insert name v := by
      unfold Scopes.set innermost
      cases s.inner <;> rfl
    rw [hinsert, Bindings.contains, Bindings.get?_insert]
    split
    · rfl
    · exact h

/-- What was written to an opened scope goes away with it. -/
theorem pop_eq (h : t.Extends s.push) : t.pop = s := by
  have henclosing : t.enclosing = s.toList := h.enclosing
  have hinner : t.inner ≠ [] := by
    intro hnil
    have hdepth := h.depth
    simp [Scopes.depth, push, hnil] at hdepth
  obtain ⟨top, rest, htop⟩ := List.exists_cons_of_ne_nil hinner
  rw [Scopes.enclosing, toList, htop] at henclosing
  obtain ⟨hrest, hroot⟩ := List.append_inj' henclosing rfl
  unfold pop
  rw [htop]
  cases s
  simp_all

end Extends

end Scopes

namespace Rendering

variable {α β : Type}

/-- The state at the end of a step, whether or not it failed. -/
def final : EStateM.Result EvalError RenderState α → RenderState
  | .ok _ s => s
  | .error _ s => s

/-- From every state the step ends with scopes that extend those it started from. -/
def Frames (m : Rendering α) : Prop :=
  ∀ s, (final (m s)).scopes.Extends s.scopes

namespace Frames

variable {m : Rendering α}

theorem of_scopes (h : ∀ s, (final (m s)).scopes = s.scopes) : Frames m := by
  intro s
  rw [h s]
  exact Scopes.Extends.refl _

protected theorem bind {f : α → Rendering β} (hm : Frames m) (hf : ∀ a, Frames (f a)) :
    Frames (m >>= f) := by
  intro s
  have hs := hm s
  rw [bind_eq]
  rcases h : m s with ⟨a, t⟩ | ⟨e, t⟩ <;> rw [h] at hs
  · exact (hf a t).trans hs
  · exact hs

protected theorem random (r : Random α) : Frames (random r) := by
  refine of_scopes fun s => ?_
  unfold random
  split <;> rfl

protected theorem setVariable (name : String) (v : Value) : Frames (setVariable name v) :=
  fun s => Scopes.Extends.set s.scopes name v

protected theorem valueOf (name : String) : Frames (valueOf name) := by
  refine of_scopes fun s => ?_
  rw [valueOf_eq]
  split <;> rfl

/-- A step with a scope of its own leaves the scopes as they were. -/
protected theorem inScope (hm : Frames m) : Frames (inScope m) := by
  refine of_scopes fun s => ?_
  have hs := hm { s with scopes := s.scopes.push }
  unfold inScope
  rcases h : m { s with scopes := s.scopes.push } with ⟨a, t⟩ | ⟨e, t⟩ <;> rw [h] at hs <;>
    exact hs.pop_eq

theorem congruence : Congruence fun _ m _ => Frames m where
  of_pure _ := of_scopes fun _ => rfl
  of_throw _ := of_scopes fun _ => rfl
  of_bind := Frames.bind
  of_random := Frames.random
  of_setVariable := Frames.setVariable
  of_valueOf := Frames.valueOf
  of_countAccess _ _ := of_scopes fun _ => rfl
  of_inScope := Frames.inScope

end Frames

end Rendering

/-- Rendering leaves the stack of scopes as deep as it was and the scopes around the innermost one
unchanged, and takes no binding from the innermost one, whether it ends with a text or fails. -/
theorem render_scopes_extend (setting : Setting) (ns : List Node) (s : RenderState) :
    (Rendering.final (render setting ns s)).scopes.Extends s.scopes :=
  Rendering.Frames.congruence.render rfl rfl ns s

end Template

end StubServer

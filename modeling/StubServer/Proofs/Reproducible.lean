import StubServer.Proofs.Congruence

/-!
# Renderings that draw nothing

A rendering goes by the random words only where it draws, and by the time only for dates that it
draws. So the renderings of nodes that draw nothing, from states that differ in the words alone and
at any two times, differ in these words alone when they end (`render_redrawn`): they give the same
text or the same error, and take no word (`run_of_drawNothing`).
-/

namespace StubServer

namespace Template

namespace Rendering

variable {α β : Type}

/-- The outcome of a step with other words left to draw. -/
def redrawn (draws : Draws) :
    EStateM.Result EvalError RenderState α → EStateM.Result EvalError RenderState α
  | .ok a s => .ok a { s with draws }
  | .error e s => .error e { s with draws }

/-- With any other words in its state the second step comes out as the first one does, and it leaves
them as they were. -/
def SameUndrawn (m m' : Rendering α) : Prop :=
  ∀ s draws, m' { s with draws } = redrawn draws (m s)

namespace SameUndrawn

variable {m m' : Rendering α}

protected theorem bind {f f' : α → Rendering β} (hm : SameUndrawn m m')
    (hf : ∀ a, SameUndrawn (f a) (f' a)) : SameUndrawn (m >>= f) (m' >>= f') := by
  intro s draws
  rw [bind_eq, bind_eq, hm s draws]
  rcases m s with ⟨a, t⟩ | ⟨e, t⟩
  · exact hf a t draws
  · rfl

protected theorem valueOf (name : String) : SameUndrawn (valueOf name) (valueOf name) := by
  intro s draws
  rw [valueOf_eq, valueOf_eq]
  cases s.scopes.get? name <;> rfl

protected theorem inScope (hm : SameUndrawn m m') : SameUndrawn (inScope m) (inScope m') := by
  intro s draws
  have hs := hm { s with scopes := s.scopes.push } draws
  unfold inScope
  rw [hs]
  rcases m { s with scopes := s.scopes.push } with ⟨a, t⟩ | ⟨e, t⟩ <;> rfl

theorem steps : Steps fun _ => SameUndrawn where
  of_pure _ _ _ := rfl
  of_throw _ _ _ := rfl
  of_bind := SameUndrawn.bind
  of_setVariable _ _ _ _ := rfl
  of_valueOf := SameUndrawn.valueOf
  of_inScope := SameUndrawn.inScope

theorem reads (now now' : Time.Instant) (request : Option Http.View) :
    Reads (fun _ => SameUndrawn) ⟨now, request⟩ ⟨now', request⟩ where
  isSome_eq := rfl
  of_query _ _ _ := rfl

end SameUndrawn

end Rendering

open Rendering

/-- Renderings of nodes that draw nothing, with different words and at different times, have the
same outcome, and each is left with the words that it had. -/
theorem render_redrawn (now now' : Time.Instant) (request : Option Http.View) {ns : List Node}
    (h : drawNothing ns = true) (s : RenderState) (draws : Draws) :
    render ⟨now', request⟩ ns { s with draws } = redrawn draws (render ⟨now, request⟩ ns s) :=
  SameUndrawn.steps.render (SameUndrawn.reads now now' request) ns (.inr h) s draws

namespace Compiled

/-- Nodes that draw nothing have, for each request, one text or error and one number of reads: a run
comes out with these whatever words it is given and whenever it takes place, and takes none of the
words. -/
theorem run_of_drawNothing {ns : List Node} (h : drawNothing ns = true)
    (request : Option Http.View) :
    ∃ text accesses, ∀ (now : Time.Instant) (draws : Draws),
      (nodes ns).run ⟨now, request⟩ draws = ⟨text, draws, accesses⟩ := by
  have hrender := fun now => render_redrawn ⟨0, 0, 0⟩ now request h { draws := ⟨fun _ => 0, 0⟩ }
  rcases hfirst : Template.render ⟨⟨0, 0, 0⟩, request⟩ ns { draws := ⟨fun _ => 0, 0⟩ }
    with ⟨text, t⟩ | ⟨e, t⟩ <;> simp only [hfirst, redrawn] at hrender
  · exact ⟨.ok text, t.accesses, fun now draws => by
      simp only [Compiled.run, Compiled.render, hrender]⟩
  · exact ⟨.error e, t.accesses, fun now draws => by
      simp only [Compiled.run, Compiled.render, hrender]⟩

/-- A loop over a query parameter. -/
def greetings : List Node :=
  [.function "VAR" [.literal "name", .function "queryParam" [.literal "name"]],
    .block "repeat" [.literal "2"] [.text "Hello ", .variable "name"]]

theorem greetings_run :
    drawNothing greetings = true ∧ ∃ text accesses, ∀ (now : Time.Instant) (draws : Draws),
      (nodes greetings).run ⟨now, some (.ofTarget "GET" "/?name=Ann")⟩ draws =
        ⟨text, draws, accesses⟩ :=
  ⟨by decide +kernel, run_of_drawNothing (by decide +kernel) _⟩

/-- With an interval for a second parameter the loop draws. -/
example : ((nodes [.block "repeat" [.literal "1", .literal "2"] []]).run ⟨⟨0, 0, 0⟩, none⟩
    ⟨fun _ => 0, 0⟩).draws.position = 1 := by
  decide +kernel

end Compiled

end Template

end StubServer

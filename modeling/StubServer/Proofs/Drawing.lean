import StubServer.Template.Render

/-!
# What draws

Two families of functions draw, and a `repeat` block that is given an interval. Both can be seen in
the nodes: such a function has one of the names `Function.drawingNames`, up to the case of letters
(`draws_eq_false`), and an interval takes a second parameter (`RepeatPlan.draw_eq_pure`).
-/

namespace StubServer

namespace Template

namespace Function

def draws : Function → Bool
  | pick _ | fake | fakeAt _ => true
  | text _ | array _ | math _ | request _ | assign => false

/-- The names of the functions that draw. -/
def drawingNames : List String :=
  PickFunction.all.map PickFunction.name ++ "faker" :: Fake.shortNames.map Prod.fst

/-- Without regard to the case of ASCII letters the text is the name of a function that draws. -/
def namesDrawing (text : String) : Bool :=
  drawingNames.any fun name => Text.sameName name text

theorem namesDrawing_of_mem {name text : String} (hname : name ∈ drawingNames)
    (h : Text.sameName name text = true) : namesDrawing text = true :=
  List.any_eq_true.mpr ⟨name, hname, h⟩

theorem asciiLower_shortName : ∀ p ∈ Fake.shortNames, Text.asciiLower p.1 = p.1 := by
  decide +kernel

/-- The families find a function that draws only by one of these names. -/
theorem namesDrawing_of_find? {text : String} {family : Family} {f : Function}
    (h : family.find? text = some f) (hf : f.draws = true) : namesDrawing text = true := by
  cases family with
  | strings | math | request =>
    obtain ⟨g, -, rfl⟩ := Option.map_eq_some_iff.mp h
    cases hf
  | arrays =>
    simp only [Family.find?, Option.orElse_eq_orElse, Option.orElse_eq_or,
      Option.or_eq_some_iff] at h
    rcases h with h | ⟨-, h⟩
    · obtain ⟨g, -, rfl⟩ := Option.map_eq_some_iff.mp h
      cases hf
    · obtain ⟨g, hg, rfl⟩ := Option.map_eq_some_iff.mp h
      have hmem : g.name ∈ drawingNames :=
        List.mem_append_left _ (List.mem_map_of_mem (List.mem_of_find?_eq_some hg))
      exact namesDrawing_of_mem hmem
        (List.find?_some (p := fun g : PickFunction => Text.sameName g.name text) hg)
  | faker =>
    simp only [Family.find?] at h
    split at h
    · rename_i hname
      refine namesDrawing_of_mem (List.mem_append_right _ List.mem_cons_self) ?_
      exact BEq.comm.trans hname
    · obtain ⟨path, hpath, -⟩ := Option.map_eq_some_iff.mp h
      obtain ⟨before, after, hnames, -⟩ := List.lookup_eq_some_iff.mp hpath
      have hmem : (Text.asciiLower text, path) ∈ Fake.shortNames := by simp [hnames]
      refine namesDrawing_of_mem (List.mem_append_right _
        (List.mem_cons_of_mem _ (List.mem_map_of_mem hmem))) ?_
      simp [Text.sameName, asciiLower_shortName _ hmem]
  | binding =>
    simp only [Family.find?] at h
    split at h <;> cases h
    cases hf

/-- A function with none of these names does not draw. -/
theorem draws_eq_false {text : String} {withRequest : Bool} {f : Function}
    (h : ofName? text withRequest = some f) (htext : namesDrawing text = false) :
    f.draws = false := by
  obtain ⟨family, -, hfamily⟩ := List.exists_of_findSome?_eq_some h
  cases hf : f.draws with
  | false => rfl
  | true => simp [namesDrawing_of_find? hfamily hf] at htext

end Function

mutual

/-- No function of the tree has a name of one that draws, and every `repeat` block in it has at most
one parameter. -/
def Node.drawsNothing : Node → Bool
  | .text _ | .literal _ | .variable _ => true
  | .function name params => !Function.namesDrawing name && drawNothing params
  | .block name params body =>
    (name != "repeat" || params.length ≤ 1) && drawNothing params && drawNothing body

def drawNothing : List Node → Bool
  | [] => true
  | n :: ns => n.drawsNothing && drawNothing ns

end

theorem drawNothing_cons {n : Node} {ns : List Node} :
    drawNothing (n :: ns) = true ↔ n.drawsNothing = true ∧ drawNothing ns = true := by
  simp [drawNothing]

/-- A single value is a number of repetitions, and nothing is drawn for it. -/
theorem RepeatPlan.draw_eq_pure {values : List Value} {plan : RepeatPlan}
    (hlen : values.length ≤ 1) (h : RepeatPlan.ofValues values = .ok plan) :
    ∃ r, plan.draw = pure r := by
  match values, hlen with
  | [], _ => cases h
  | [v], _ =>
    rw [RepeatPlan.ofValues] at h
    split at h
    · cases h
    · rename_i count _
      rcases hcount : checkCount count with e | n <;> rw [hcount] at h <;> cases h
      exact ⟨⟨n.toNat, none⟩, rfl⟩

end Template

end StubServer

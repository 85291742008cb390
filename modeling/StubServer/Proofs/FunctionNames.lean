import Mathlib.Data.List.Nodup
import Mathlib.Data.List.Pairwise
import StubServer.Proofs.Drawing

/-!
# The names of functions

A family answers a call exactly when the name, in lower case, is one of its own
(`Family.isSome_answer?_iff`), and no name belongs to two families (`Family.eq_of_mem_names`). So at
most one family answers, and neither the order in which the families are asked nor the case of the
letters in a name that is known makes a difference to what a call gives and changes
(`calls_unambiguous`). A name that is unknown is reported as it is written.
-/

namespace StubServer

namespace Template

/-! ## Searches with at most one answer -/

section Search

variable {α β : Type} {answer : α → Option β} {l l' : List α}

/-- When no two members have an answer, a search finds any answer there is. -/
theorem findSome?_eq_some_iff_of_unique
    (hone : ∀ a b, (answer a).isSome = true → (answer b).isSome = true → a = b) {y : β} :
    l.findSome? answer = some y ↔ ∃ a ∈ l, answer a = some y := by
  constructor
  · exact List.exists_of_findSome?_eq_some
  · rintro ⟨a, ha, hy⟩
    have hsome : (l.findSome? answer).isSome = true :=
      List.findSome?_isSome_iff.2 ⟨a, ha, Option.isSome_of_eq_some hy⟩
    obtain ⟨z, hz⟩ := Option.isSome_iff_exists.1 hsome
    obtain ⟨b, -, hb⟩ := List.exists_of_findSome?_eq_some hz
    obtain rfl := hone a b (Option.isSome_of_eq_some hy) (Option.isSome_of_eq_some hb)
    rw [hz, ← hb, hy]

theorem findSome?_eq_of_perm
    (hone : ∀ a b, (answer a).isSome = true → (answer b).isSome = true → a = b) (h : l.Perm l') :
    l.findSome? answer = l'.findSome? answer := by
  refine Option.ext fun y => ?_
  rw [findSome?_eq_some_iff_of_unique hone, findSome?_eq_some_iff_of_unique hone]
  simp only [h.mem_iff]

end Search

/-! ## The names of a family -/

theorem isSome_named?_iff {α : Type} {label : α → String} {all : List α} {text : String} :
    (named? label all text).isSome = true ↔
      Text.asciiLower text ∈ all.map fun f => Text.asciiLower (label f) := by
  simp [named?, Text.sameName]

namespace Family

/-- The names of the functions of a family, in lower case. -/
def names : Family → List String
  | strings => TextFunction.all.map fun f => Text.asciiLower f.name
  | arrays =>
    (ArrayFunction.all.map fun f => Text.asciiLower f.name) ++
      PickFunction.all.map fun f => Text.asciiLower f.name
  | math => MathFunction.all.map fun f => Text.asciiLower f.name
  | faker => "faker" :: Fake.shortNames.map Prod.fst
  | request => RequestFunction.all.map fun f => Text.asciiLower f.name
  | binding => ["var"]

theorem isSome_find?_iff {name : String} {f : Family} :
    (f.find? name).isSome = true ↔ Text.asciiLower name ∈ f.names := by
  have hfaker : Text.asciiLower "faker" = "faker" := by decide +kernel
  have hvar : Text.asciiLower "var" = "var" := by decide +kernel
  cases f with
  | strings | math | request => simp only [find?, names, Option.isSome_map, isSome_named?_iff]
  | arrays =>
    simp only [find?, names, Option.orElse_eq_orElse, Option.orElse_eq_or, Option.isSome_or,
      Option.isSome_map, Bool.or_eq_true, isSome_named?_iff, List.mem_append]
  | faker =>
    rw [find?, names, Text.sameName, hfaker, List.mem_cons]
    split <;> simp_all [List.lookup_isSome_iff]
  | binding =>
    rw [find?, names, Text.sameName, hvar, List.mem_singleton]
    split <;> simp_all

/-- No name stands twice in the tables of all families. -/
theorem nodup_names : (all.flatMap names).Nodup := by
  decide +kernel

theorem eq_of_mem_names {name : String} {f g : Family} (hf : name ∈ f.names) (hg : name ∈ g.names) :
    f = g := by
  have hsymm : Std.Symm (Function.onFun List.Disjoint names) := ⟨fun _ _ h _ hx hy => h hy hx⟩
  have hall : ∀ f : Family, f ∈ all := by rintro (_ | _ | _ | _ | _ | _) <;> decide
  by_contra hne
  exact (List.nodup_flatMap.1 nodup_names).2.forall (hall f) (hall g) hne hf hg

/-- Which function has a name depends on the name in lower case. -/
theorem find?_congr {name name' : String} (h : Text.asciiLower name' = Text.asciiLower name)
    (f : Family) : f.find? name' = f.find? name := by
  unfold find? named? Text.sameName
  rw [h]

/-- The families that are asked: the one on the request only if there is one. -/
def present (setting : Setting) : List Family :=
  all.filter fun f => setting.request.isSome || f != .request

/-- One of the families that are asked has a function with the name. -/
def Known (setting : Setting) (name : String) : Prop :=
  ∃ f ∈ present setting, (f.find? name).isSome = true

/-- What a family makes of a call: nothing, when it has no function with the name. -/
def answer? (setting : Setting) (name : String) (args : Arguments) (s : RenderState) (f : Family) :
    Option (EStateM.Result EvalError RenderState Value) :=
  (f.find? name).map fun g => g.call setting args s

section Answers

variable {setting : Setting} {name : String} {args : Arguments} {s : RenderState} {f g : Family}

theorem isSome_answer?_iff :
    (f.answer? setting name args s).isSome = true ↔ Text.asciiLower name ∈ f.names := by
  rw [answer?, Option.isSome_map, isSome_find?_iff]

/-- At most one family answers a call. -/
theorem eq_of_isSome_answer? (hf : (f.answer? setting name args s).isSome = true)
    (hg : (g.answer? setting name args s).isSome = true) : f = g :=
  eq_of_mem_names (isSome_answer?_iff.1 hf) (isSome_answer?_iff.1 hg)

theorem answer?_congr {name' : String} (h : Text.asciiLower name' = Text.asciiLower name) :
    f.answer? setting name' args s = f.answer? setting name args s := by
  rw [answer?, answer?, find?_congr h]

end Answers

end Family

/-! ## Calls -/

/-- Asks the families in an order; the first that answers decides. -/
def callIn (order : List Family) (setting : Setting) (name : String) (args : Arguments) :
    Rendering Value := fun s =>
  (order.findSome? (Family.answer? setting name args s)).getD (.error (.undefinedFunction name) s)

/-- A function node calls by the families that are asked, in their order. -/
theorem evaluate_function (setting : Setting) (name : String) (params : List Node) :
    evaluate setting (.function name params) =
      evaluateAll setting params >>= callIn (Family.present setting) setting name := by
  rw [evaluate]
  congr 1
  funext args s
  have hanswer : (Family.present setting).findSome? (Family.answer? setting name args s) =
      (Function.ofName? name setting.request.isSome).map fun g => g.call setting args s :=
    List.map_findSome?.symm
  rw [callIn, hanswer]
  cases Function.ofName? name setting.request.isSome <;> rfl

theorem callIn_perm {order order' : List Family} (h : order.Perm order') (setting : Setting)
    (name : String) : callIn order setting name = callIn order' setting name := by
  funext args s
  rw [callIn, callIn,
    findSome?_eq_of_perm (fun _ _ => Family.eq_of_isSome_answer?) h]

/-- A known name may be written in any case; an unknown one shows in the error as it is written. -/
theorem callIn_respelled {setting : Setting} {name name' : String}
    (hname : Family.Known setting name) (h : Text.asciiLower name' = Text.asciiLower name) :
    callIn (Family.present setting) setting name' =
      callIn (Family.present setting) setting name := by
  obtain ⟨f, hf, hfind⟩ := hname
  funext args s
  have hcongr : Family.answer? setting name' args s = Family.answer? setting name args s :=
    funext fun _ => Family.answer?_congr h
  have hsome : ((Family.present setting).findSome? (Family.answer? setting name args s)).isSome =
      true :=
    List.findSome?_isSome_iff.2 ⟨f, hf, (Option.isSome_map ..).trans hfind⟩
  obtain ⟨y, hy⟩ := Option.isSome_iff_exists.1 hsome
  rw [callIn, callIn, hcongr, hy, Option.getD_some, Option.getD_some]

/-- At most one family answers a call, and whether a family does depends only on its name in lower
case. So a function node comes out in the same way and changes the same whatever the order in which
the families are asked, and in whatever case a name is written that one of them knows. -/
theorem calls_unambiguous :
    (∀ (setting : Setting) (name : String) (args : Arguments) (s : RenderState) (f g : Family),
        (f.answer? setting name args s).isSome = true →
          (g.answer? setting name args s).isSome = true → f = g) ∧
      (∀ (setting setting' : Setting) (name name' : String) (args args' : Arguments)
        (s s' : RenderState) (f : Family), Text.asciiLower name' = Text.asciiLower name →
          (f.answer? setting' name' args' s').isSome = (f.answer? setting name args s).isSome) ∧
      (∀ (setting : Setting) (order : List Family) (name : String) (params : List Node),
        order.Perm (Family.present setting) →
          evaluate setting (.function name params) =
            evaluateAll setting params >>= callIn order setting name) ∧
      ∀ (setting : Setting) (name name' : String) (params : List Node),
        Family.Known setting name → Text.asciiLower name' = Text.asciiLower name →
          evaluate setting (.function name' params) = evaluate setting (.function name params) := by
  refine ⟨fun _ _ _ _ _ _ => Family.eq_of_isSome_answer?, ?_, ?_, ?_⟩
  · intro setting setting' name name' args args' s s' f h
    rw [Bool.eq_iff_iff, Family.isSome_answer?_iff, Family.isSome_answer?_iff, h]
  · intro setting order name params horder
    rw [evaluate_function, callIn_perm horder]
  · intro setting name name' params hname h
    rw [evaluate_function, evaluate_function, callIn_respelled hname h]

/-- The short name for a longitude is no name of a function on texts or numbers. -/
theorem long_calls_unambiguous :
    let setting : Setting := ⟨⟨0, 0, 0⟩, some {}⟩
    let order : List Family := [.binding, .request, .faker, .math, .arrays, .strings]
    let s : RenderState := { draws := ⟨fun _ => 0, 0⟩ }
    (Family.faker.answer? setting "long" [] s).isSome = true ∧
      (∀ f : Family, (f.answer? setting "long" [] s).isSome = true → f = .faker) ∧
      Text.asciiLower "LoNG" = Text.asciiLower "long" ∧
      (∀ f : Family, (f.answer? ⟨⟨1, 0, 0⟩, none⟩ "LoNG" [.string "x"] s).isSome =
        (f.answer? setting "long" [] s).isSome) ∧
      order.Perm (Family.present setting) ∧
      evaluate setting (.function "LoNG" []) =
        evaluateAll setting [] >>= callIn order setting "LoNG" ∧
      Family.Known setting "long" ∧
      evaluate setting (.function "LoNG" []) = evaluate setting (.function "long" []) := by
  intro setting order s
  obtain ⟨hunique, hcase, horder, hrespelled⟩ := calls_unambiguous
  have hfaker : (Family.faker.answer? setting "long" [] s).isSome = true := by
    rw [Family.isSome_answer?_iff]
    decide +kernel
  have hlower : Text.asciiLower "LoNG" = Text.asciiLower "long" := by decide +kernel
  have hperm : order.Perm (Family.present setting) := by decide
  have hknown : Family.Known setting "long" := ⟨.faker, by decide, by decide +kernel⟩
  exact ⟨hfaker, fun f hf => hunique setting _ _ s f _ hf hfaker, hlower,
    fun f => hcase setting _ _ _ _ _ s s f hlower, hperm, horder setting order _ _ hperm, hknown,
    hrespelled setting _ _ _ hknown hlower⟩

end Template

end StubServer

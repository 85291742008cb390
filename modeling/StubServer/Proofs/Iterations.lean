import StubServer.Proofs.Framing
import StubServer.Proofs.RepeatCount

/-!
# Iterations of loops

A loop writes its variables over those of the iteration before, and its body has a scope of its own,
which ends with each iteration (`inScope_render`). So the iterations of a loop are renderings that
could as well be made one by one: each starts from the scopes around the loop and its own index and
item, and has nothing from the one before it but the random words that are left (`Iterations.run`,
`loops_isolated`).
-/

namespace StubServer

namespace Template

open Rendering

/-! ## The count of reads -/

namespace Rendering

variable {α β : Type}

/-- The outcome of a step with `n` more reads of the request counted before it. -/
def recounted (n : Nat) :
    EStateM.Result EvalError RenderState α → EStateM.Result EvalError RenderState α
  | .ok a s => .ok a { s with accesses := n + s.accesses }
  | .error e s => .error e { s with accesses := n + s.accesses }

/-- The second step comes out as the first one does when more reads were counted before it. -/
def SameRecounted (m m' : Rendering α) : Prop :=
  ∀ s n, m' { s with accesses := n + s.accesses } = recounted n (m s)

namespace SameRecounted

variable {m m' : Rendering α}

protected theorem bind {f f' : α → Rendering β} (hm : SameRecounted m m')
    (hf : ∀ a, SameRecounted (f a) (f' a)) : SameRecounted (m >>= f) (m' >>= f') := by
  intro s n
  rw [bind_eq, bind_eq, hm s n]
  rcases m s with ⟨a, t⟩ | ⟨e, t⟩
  · exact hf a t n
  · rfl

protected theorem random (r : Random α) : SameRecounted (random r) (random r) := by
  intro s n
  unfold random
  dsimp only
  rcases r s.draws with _ | ⟨a, draws⟩ <;> rfl

protected theorem valueOf (name : String) : SameRecounted (valueOf name) (valueOf name) := by
  intro s n
  rw [valueOf_eq, valueOf_eq]
  cases s.scopes.get? name <;> rfl

protected theorem inScope (hm : SameRecounted m m') :
    SameRecounted (inScope m) (inScope m') := by
  intro s n
  have hs := hm { s with scopes := s.scopes.push } n
  unfold inScope
  rw [hs]
  rcases m { s with scopes := s.scopes.push } with ⟨a, t⟩ | ⟨e, t⟩ <;> rfl

theorem steps : Steps fun _ => SameRecounted where
  of_pure _ _ _ := rfl
  of_throw _ _ _ := rfl
  of_bind := SameRecounted.bind
  of_setVariable _ _ _ _ := rfl
  of_valueOf := SameRecounted.valueOf
  of_inScope := SameRecounted.inScope

end SameRecounted

end Rendering

/-- What was counted before a rendering has no influence on it. -/
theorem render_recounted (setting : Setting) (ns : List Node) (s : RenderState) (n : Nat) :
    render setting ns { s with accesses := n + s.accesses } =
      recounted n (render setting ns s) :=
  SameRecounted.steps.render (σ := setting) ⟨rfl, fun _ _ _ => rfl⟩ ns
    (.inl ⟨rfl, SameRecounted.random⟩) s n

/-! ## Iterations -/

/-- The scopes with one more inside them. -/
def Scopes.within (s : Scopes) (own : Bindings Value) : Scopes :=
  { s with inner := own :: s.inner }

/-- The outcome of a rendering without the scopes that it leaves. -/
def Rendered.ofResult : EStateM.Result EvalError RenderState String → Rendered
  | .ok text s => ⟨.ok text, s.draws, s.accesses⟩
  | .error e s => ⟨.error e, s.draws, s.accesses⟩

/-- What a list of iterations comes to. -/
structure Iterations where
  texts : Except EvalError (List String)
  draws : Draws
  accesses : Nat

namespace Iterations

/-- One iteration: the nodes are rendered in an empty scope, which lies within the scope of the
loop, and that within the given ones. -/
def once (setting : Setting) (body : List Node) (scopes : Scopes) (own : Bindings Value)
    (draws : Draws) : Rendered :=
  .ofResult (render setting body { scopes := (scopes.within own).push, draws })

/-- The iterations for what the scope of the loop is in each of them. Each goes on with the words
that the one before left, and one that fails is the last. -/
def run (iterate : Bindings Value → Draws → Rendered) : List (Bindings Value) → Draws → Iterations
  | [], draws => ⟨.ok [], draws, 0⟩
  | own :: more, draws =>
    match iterate own draws with
    | ⟨.error e, draws, accesses⟩ => ⟨.error e, draws, accesses⟩
    | ⟨.ok text, draws, accesses⟩ =>
      let rest := run iterate more draws
      ⟨rest.texts.map (text :: ·), rest.draws, accesses + rest.accesses⟩

/-- The outcome of a step that takes these iterations and makes something of their texts. It ends
with the given scopes and goes on from the given count of reads. -/
def result {α : Type} (r : Iterations) (f : List String → α) (scopes : Scopes) (accesses : Nat) :
    EStateM.Result EvalError RenderState α :=
  match r.texts with
  | .ok texts => .ok (f texts) ⟨scopes, r.draws, accesses + r.accesses⟩
  | .error e => .error e ⟨scopes, r.draws, accesses + r.accesses⟩

theorem length_of_run {iterate : Bindings Value → Draws → Rendered} :
    ∀ {owns : List (Bindings Value)} {draws : Draws} {texts : List String},
      (run iterate owns draws).texts = .ok texts → texts.length = owns.length
  | [], _, _, h => by
    cases h
    rfl
  | own :: more, draws, texts, h => by
    rw [run] at h
    rcases hown : iterate own draws with ⟨e | text, draws', n⟩ <;> rw [hown] at h
    · cases h
    · obtain ⟨rest, hrest, rfl⟩ := map_eq_ok.1 h
      rw [List.length_cons, List.length_cons, length_of_run hrest]

/-- What the scope of a `repeat` block is in each of `count` iterations from an index on. -/
def indexScopes (index count : Nat) : List (Bindings Value) :=
  (List.range' index count).map fun i => .ofList [("index", .string (toString i))]

/-- What the scope of an `each` block is for each item. -/
def itemScopes (index : Nat) (items : List Value) : List (Bindings Value) :=
  (items.zipIdx index).map fun (item, i) =>
    .ofList [("this", item), ("index", .string (toString i))]

end Iterations

/-- A body in a scope of its own is one iteration, and leaves the scopes as they are. -/
theorem inScope_render (setting : Setting) (body : List Node) (scopes : Scopes)
    (own : Bindings Value) (draws : Draws) (accesses : Nat) :
    inScope (render setting body) ⟨scopes.within own, draws, accesses⟩ =
      match Iterations.once setting body scopes own draws with
      | ⟨.ok text, draws, n⟩ => .ok text ⟨scopes.within own, draws, accesses + n⟩
      | ⟨.error e, draws, n⟩ => .error e ⟨scopes.within own, draws, accesses + n⟩ := by
  have hframe := render_scopes_extend setting body
    { scopes := (scopes.within own).push, draws }
  have hcount := render_recounted setting body
    { scopes := (scopes.within own).push, draws } accesses
  unfold inScope Iterations.once
  dsimp only [Nat.add_zero] at hcount ⊢
  rw [hcount]
  rcases h : render setting body { scopes := (scopes.within own).push, draws } with ⟨a, t⟩ | ⟨e, t⟩
  <;> rw [h] at hframe
  all_goals
    have hpop : t.scopes.pop = scopes.within own := hframe.pop_eq
    simp only [recounted, Rendered.ofResult, hpop]

/-- A loop that goes on with the other iterations behind one iteration takes all of them. -/
theorem exists_result_cons {α : Type} {setting : Setting} {body : List Node} {scopes : Scopes}
    {own : Bindings Value} {more : List (Bindings Value)} {f : List String → α}
    {next : String → Rendering α}
    (hnext : ∀ text draws accesses, ∃ top, next text ⟨scopes.within own, draws, accesses⟩ =
      (Iterations.run (Iterations.once setting body scopes) more draws).result
        (fun texts => f (text :: texts)) (scopes.within top) accesses) (draws : Draws)
    (accesses : Nat) :
    ∃ top, (inScope (render setting body) >>= next) ⟨scopes.within own, draws, accesses⟩ =
      (Iterations.run (Iterations.once setting body scopes) (own :: more) draws).result f
        (scopes.within top) accesses := by
  rw [bind_eq, inScope_render, Iterations.run]
  rcases Iterations.once setting body scopes own draws with ⟨e | text, draws', n⟩
  · exact ⟨own, rfl⟩
  · obtain ⟨top, htop⟩ := hnext text draws' (accesses + n)
    refine ⟨top, htop.trans ?_⟩
    unfold Iterations.result
    dsimp only
    rw [Nat.add_assoc]
    rcases (Iterations.run (Iterations.once setting body scopes) more draws').texts <;> rfl

/-- The scope of a loop ends with it. -/
theorem inScope_eq_result {α : Type} {m : Rendering α} {r : Iterations} {f : List String → α}
    {s : RenderState} (h : ∃ top, m ⟨s.scopes.within .empty, s.draws, s.accesses⟩ =
      r.result f (s.scopes.within top) s.accesses) :
    inScope m s = r.result f s.scopes s.accesses := by
  obtain ⟨top, htop⟩ := h
  have hpush : { s with scopes := s.scopes.push } =
    RenderState.mk (s.scopes.within .empty) s.draws s.accesses := rfl
  rw [inScope, hpush, htop]
  unfold Iterations.result
  rcases r.texts with e | texts <;> rfl

theorem map_result {α β : Type} (g : α → β) (r : Iterations) (f : List String → α)
    (scopes : Scopes) (accesses : Nat) {m : Rendering α} {s : RenderState}
    (h : m s = r.result f scopes accesses) :
    (g <$> m) s = r.result (fun texts => g (f texts)) scopes accesses := by
  rw [map_eq, h]
  unfold Iterations.result
  rcases r.texts with e | texts <;> rfl

/-! ## Loops -/

/-- The text so far with the separator right behind its content; of the blanks that ended it a line
break stays, if there is any. -/
def separated (text separator : String) : String :=
  let breaks :=
    (Text.takeEndWhile Text.isBlank text.toList).any fun c => c == '\n' || c == '\r'
  .ofList (Text.trimEndChars text.toList ++ separator.toList ++ if breaks then ['\n'] else [])

/-- Puts a text behind what a loop has so far, with the separator between them if there is one. -/
def joinBehind (separator : Option String) (soFar text : String) : String :=
  match separator with
  | none => soFar ++ text
  | some separator => separated soFar separator ++ text

/-- What a `repeat` block makes of the texts of its iterations, from left to right. -/
def combined (separator : Option String) : List String → String
  | [] => ""
  | text :: texts => texts.foldl (joinBehind separator) text

theorem separate_eq (text separator : String) :
    separate text.toList.reverse separator.toList.reverse =
      (separated text separator).toList.reverse := by
  unfold separate separated Text.trimEndChars Text.dropEndWhile Text.takeEndWhile
  simp only [String.toList_ofList, List.any_reverse, List.reverse_append, List.reverse_reverse]
  split <;> simp

/-! ## Numbered repetitions -/

section Repeat

variable (setting : Setting) (body : List Node) (separator : Option String)

theorem repeated_first (step : Rendering String) (separator : Option (List Char)) (count : Nat) :
    repeated step separator [] 0 (count + 1) = (do
      setVariable "index" (.string (toString 0))
      let text ← inScope step
      repeated step separator text.toList.reverse 1 count) := by
  conv => lhs; unfold repeated
  simp only [List.append_nil]

theorem repeated_next (step : Rendering String) (soFar : String) (index count : Nat) :
    repeated step (separator.map (·.toList.reverse)) soFar.toList.reverse (index + 1)
        (count + 1) = (do
      setVariable "index" (.string (toString (index + 1)))
      let text ← inScope step
      repeated step (separator.map (·.toList.reverse))
        (joinBehind separator soFar text).toList.reverse (index + 2) count) := by
  conv => lhs; unfold repeated
  refine bind_congr fun _ => bind_congr fun text => ?_
  rcases separator with _ | separator
  · simp [joinBehind]
  · simp [joinBehind, separate_eq]

theorem setVariable_index (scopes : Scopes) {own : Bindings Value}
    (hown : ∀ p ∈ own.toList, p.1 = "index") (v : Value) (draws : Draws) (accesses : Nat) :
    setVariable "index" v ⟨scopes.within own, draws, accesses⟩ =
      .ok () ⟨scopes.within (.ofList [("index", v)]), draws, accesses⟩ := by
  have hwrite : own.insertAll [("index", v)] = .ofList [("index", v)] :=
    Bindings.insertAll_eq_ofList (by simpa using hown)
  rw [← hwrite]
  rfl

theorem repeated_eq (scopes : Scopes) :
    ∀ (count index : Nat) (soFar : String) (own : Bindings Value) (draws : Draws) (accesses : Nat),
      (∀ p ∈ own.toList, p.1 = "index") →
      ∃ top, repeated (render setting body) (separator.map (·.toList.reverse))
          soFar.toList.reverse (index + 1) count ⟨scopes.within own, draws, accesses⟩ =
        (Iterations.run (Iterations.once setting body scopes)
            (Iterations.indexScopes (index + 1) count) draws).result
          (fun texts => (texts.foldl (joinBehind separator) soFar).toList.reverse)
          (scopes.within top) accesses
  | 0, _, _, own, _, _, _ => ⟨own, rfl⟩
  | count + 1, index, soFar, own, draws, accesses, hown => by
    unfold Iterations.indexScopes
    rw [List.range'_succ, List.map_cons, repeated_next, bind_eq, setVariable_index _ hown]
    refine exists_result_cons (fun text draws accesses => ?_) draws accesses
    exact repeated_eq scopes count (index + 1) (joinBehind separator soFar text) _ draws accesses
      (List.forall_mem_singleton.2 rfl)

theorem inScope_repeatBody (r : Repeat) (s : RenderState) :
    inScope (repeatBody (render setting body) r) s =
      (Iterations.run (Iterations.once setting body s.scopes) (Iterations.indexScopes 0 r.count)
        s.draws).result (combined r.separator) s.scopes s.accesses := by
  have hloop : ∃ top, repeated (render setting body) (r.separator.map (·.toList.reverse)) [] 0
      r.count ⟨s.scopes.within .empty, s.draws, s.accesses⟩ =
      (Iterations.run (Iterations.once setting body s.scopes) (Iterations.indexScopes 0 r.count)
        s.draws).result (fun texts => (combined r.separator texts).toList.reverse)
        (s.scopes.within top) s.accesses := by
    rcases r.count with _ | count
    · exact ⟨.empty, rfl⟩
    · unfold Iterations.indexScopes
      have hnone : ∀ p ∈ (Bindings.empty : Bindings Value).toList, p.1 = "index" := nofun
      rw [List.range'_succ, List.map_cons, repeated_first, bind_eq, setVariable_index _ hnone]
      refine exists_result_cons (fun text draws accesses => ?_) s.draws s.accesses
      exact repeated_eq setting body r.separator s.scopes count 0 text _ draws accesses
        (List.forall_mem_singleton.2 rfl)
  obtain ⟨top, htop⟩ := hloop
  refine inScope_eq_result ⟨top, ?_⟩
  rw [repeatBody, ← map_eq_pure_bind]
  refine (map_result _ _ _ _ _ htop).trans ?_
  simp only [List.reverse_reverse, String.ofList_toList]

end Repeat

/-! ## Loops over items -/

section Each

variable (setting : Setting) (body : List Node)

theorem setVariable_this_index (scopes : Scopes) {own : Bindings Value}
    (hown : ∀ p ∈ own.toList, p.1 = "this" ∨ p.1 = "index") (item index : Value) (draws : Draws)
    (accesses : Nat) :
    (do setVariable "this" item; setVariable "index" index)
        ⟨scopes.within own, draws, accesses⟩ =
      .ok () ⟨scopes.within (.ofList [("this", item), ("index", index)]), draws, accesses⟩ := by
  have hwrite : own.insertAll [("this", item), ("index", index)] =
      .ofList [("this", item), ("index", index)] :=
    Bindings.insertAll_eq_ofList (by simpa using hown)
  rw [← hwrite]
  rfl

theorem each_eq (scopes : Scopes) :
    ∀ (items : List Value) (index : Nat) (soFar : String) (own : Bindings Value) (draws : Draws)
      (accesses : Nat), (∀ p ∈ own.toList, p.1 = "this" ∨ p.1 = "index") →
      ∃ top, each (render setting body) soFar index items ⟨scopes.within own, draws, accesses⟩ =
        (Iterations.run (Iterations.once setting body scopes) (Iterations.itemScopes index items)
          draws).result (fun texts => soFar ++ String.join texts) (scopes.within top) accesses
  | [], _, soFar, own, draws, accesses, _ => by
    have hjoin : soFar ++ String.join [] = soFar := String.append_empty
    refine ⟨own, ?_⟩
    change (.ok soFar ⟨scopes.within own, draws, accesses⟩ :
        EStateM.Result EvalError RenderState String) =
      .ok (soFar ++ String.join []) ⟨scopes.within own, draws, accesses⟩
    rw [hjoin]
  | item :: items, index, soFar, own, draws, accesses, hown => by
    unfold each Iterations.itemScopes
    rw [List.zipIdx_cons, List.map_cons, ← bind_assoc, bind_eq, setVariable_this_index _ hown]
    refine exists_result_cons (fun text draws accesses => ?_) draws accesses
    simp only [String.join_cons, ← String.append_assoc]
    exact each_eq scopes items (index + 1) (soFar ++ text) _ draws accesses
      (by simp [Bindings.ofList, Bindings.insertAll, Bindings.insert, Bindings.empty])

theorem inScope_each (items : List Value) (s : RenderState) :
    inScope (each (render setting body) "" 0 items) s =
      (Iterations.run (Iterations.once setting body s.scopes) (Iterations.itemScopes 0 items)
        s.draws).result String.join s.scopes s.accesses := by
  refine inScope_eq_result ?_
  simpa using each_eq setting body s.scopes items 0 "" .empty s.draws s.accesses nofun

end Each

/-! ## Loop blocks -/

variable (setting : Setting) (body : List Node)

/-- The iterations of a `repeat` block from the state behind its parameters. -/
def Iterations.ofRepeat (r : Repeat) (s : RenderState) : Iterations :=
  run (once setting body s.scopes) (indexScopes 0 r.count) s.draws

/-- The iterations of an `each` block from the state behind its parameter. -/
def Iterations.ofEach (items : List Value) (s : RenderState) : Iterations :=
  run (once setting body s.scopes) (itemScopes 0 items) s.draws

theorem evaluate_repeat (params : List Node) (s : RenderState) :
    evaluate setting (.block "repeat" params body) s =
      match repeatOf setting params s with
      | .ok r t =>
        (Iterations.ofRepeat setting body r t).result
          (fun texts => .string (combined r.separator texts)) t.scopes t.accesses
      | .error e t => .error e t := by
  have hblock : evaluate setting (.block "repeat" params body) =
      .string <$> (repeatOf setting params >>= fun r =>
        inScope (repeatBody (render setting body) r)) := by
    rw [evaluate.eq_def]
    dsimp only
    rw [if_pos rfl, repeatOf]
    simp only [bind_assoc]
  rw [hblock, map_bind, bind_eq]
  rcases repeatOf setting params s with ⟨r, t⟩ | ⟨e, t⟩
  · exact map_result _ _ _ _ _ (inScope_repeatBody setting body r t)
  · rfl

theorem evaluate_each (source : Node) (more : List Node) (s : RenderState) :
    evaluate setting (.block "each" (source :: more) body) s =
      match evaluate setting source s with
      | .ok (.array items) t =>
        (Iterations.ofEach setting body items t).result
          (fun texts => .string (String.join texts)) t.scopes t.accesses
      | .ok v t => .error (.invalidBlock "each" (.notArray v.typeName)) t
      | .error e t => .error e t := by
  rw [evaluate.eq_def]
  dsimp only
  rw [if_neg (by decide), if_pos rfl, map_bind, bind_eq]
  rcases evaluate setting source s with ⟨v, t⟩ | ⟨e, t⟩
  · cases v with
    | array items => exact map_result _ _ _ _ _ (inScope_each setting body items t)
    | bool _ | number _ | string _ => rfl
  · rfl

/-- A loop comes out as its iterations made one by one, each within the scopes around the loop and a
scope with its index and item only. Their texts are joined, those of a `repeat` block with the
separator; where one fails, so does the loop, and no more of them are made. A `repeat` block has as
many iterations as its parameters say. -/
theorem loops_isolated (s : RenderState) :
    (∀ params, evaluate setting (.block "repeat" params body) s =
      match repeatOf setting params s with
      | .ok r t =>
        (Iterations.ofRepeat setting body r t).result
          (fun texts => .string (combined r.separator texts)) t.scopes t.accesses
      | .error e t => .error e t) ∧
    (∀ params r t, repeatOf setting params s = .ok r t →
      ∃ values u, evaluateAll setting params s = .ok values u ∧ Counts values r.count ∧
        r.count ≤ 10000) ∧
    ∀ source more, evaluate setting (.block "each" (source :: more) body) s =
      match evaluate setting source s with
      | .ok (.array items) t =>
        (Iterations.ofEach setting body items t).result
          (fun texts => .string (String.join texts)) t.scopes t.accesses
      | .ok v t => .error (.invalidBlock "each" (.notArray v.typeName)) t
      | .error e t => .error e t :=
  ⟨fun params => evaluate_repeat setting body params s, fun _ _ _ => counts_of_repeatOf,
    fun source more => evaluate_each setting body source more s⟩

/-- A body that writes over the index of its loop. -/
def overwriting : List Node :=
  [.variable "index", .function "var" [.literal "index", .literal "-"], .variable "index"]

/-- The word makes it three iterations out of at most four. -/
theorem overwriting_isolated :
    let setting : Setting := ⟨⟨0, 0, 0⟩, none⟩
    let params : List Node := [.literal "0", .literal "4", .literal ", "]
    let s : RenderState := { draws := ⟨fun _ => 0xA000000000000000, 0⟩ }
    ((evaluate setting (.block "repeat" params overwriting)).run' s).map Value.text =
        some "0-, 1-, 2-" ∧
      ∃ r t, repeatOf setting params s = .ok r t ∧ r.count = 3 ∧
        (∃ values u, evaluateAll setting params s = .ok values u ∧ Counts values r.count ∧
          r.count ≤ 10000) ∧
        evaluate setting (.block "repeat" params overwriting) s =
          (Iterations.ofRepeat setting overwriting r t).result
            (fun texts => .string (combined r.separator texts)) t.scopes t.accesses := by
  intro setting params s
  have hcount : ((repeatOf setting params).run' s).map Repeat.count = some 3 := by decide +kernel
  refine ⟨by decide +kernel, ?_⟩
  obtain ⟨hrepeat, hcounts, -⟩ := loops_isolated setting overwriting s
  have hblock := hrepeat params
  unfold EStateM.run' EStateM.run at hcount
  rcases hr : repeatOf setting params s with ⟨r, t⟩ | ⟨e, t⟩ <;> rw [hr] at hcount hblock
  · exact ⟨r, t, rfl, Option.some.inj hcount, hcounts params r t hr, hblock⟩
  · cases hcount

end Template

end StubServer

import Mathlib.Data.List.Forall2
import StubServer.Template.Render

/-!
# Clauses of conditions

The markers in the body of an `if` block divide it into clauses, which put together again with their
markers are the body. A marker in the wrong place is an error before anything is evaluated.
Otherwise the conditions are evaluated one after another up to the first that is true, and the nodes
of that clause alone are rendered: what the other clauses hold, and what conditions come later, has
no influence (`if_runs_one_clause`).
-/

namespace StubServer

namespace Template

open Rendering

/-! ## Markers -/

/-- The body has a marker in the wrong place: a second `else`, an `elsif` behind an `else` or one
without a condition. -/
def Misplaced (body : List Node) : Prop :=
  List.Sublist [.function "else" [], .function "else" []] body ∨
    (∃ params, List.Sublist [.function "else" [], .function "elsif" params] body) ∨
    .function "elsif" [] ∈ body

theorem Node.marker?_eq_otherwise {n : Node} :
    n.marker? = some .otherwise ↔ n = .function "else" [] := by
  cases n with
  | function name params =>
    by_cases helse : name = "else" ∧ params = []
    · simp [Node.marker?, helse]
    · simp only [Node.marker?, helse, if_false, Node.function.injEq, iff_false]
      split <;> simp
  | text _ | literal _ | «variable» _ | block _ _ _ => simp [Node.marker?]

theorem Node.marker?_eq_orIf {n : Node} :
    n.marker? = some .orIf ↔ ∃ params, n = .function "elsif" params := by
  cases n with
  | function name params =>
    by_cases helsif : name = "elsif"
    · simp [Node.marker?, helsif]
    · simp only [Node.marker?, helsif, if_false, Node.function.injEq, false_and, exists_false,
        iff_false]
      split <;> simp
  | text _ | literal _ | «variable» _ | block _ _ _ => simp [Node.marker?]

theorem Node.marker?_eq_none {n : Node} :
    n.marker? = none ↔ n ≠ .function "else" [] ∧ ∀ params, n ≠ .function "elsif" params := by
  rw [← not_exists, ← not_or, ← Node.marker?_eq_otherwise,
    ← Node.marker?_eq_orIf]
  rcases n.marker? with _ | _ | _ <;> simp

/-- Behind an `else` every marker is wrong. -/
theorem clauseFault?_true_eq_none {ns : List Node} :
    clauseFault? true ns = none ↔ ∀ n ∈ ns, n.marker? = none := by
  induction ns with
  | nil => simp [clauseFault?]
  | cons n ns ih =>
    unfold clauseFault?
    rcases h : n.marker? with _ | _ | _ <;> simp [h, ih]

theorem misplaced_cons {n : Node} {ns : List Node} :
    Misplaced (n :: ns) ↔
      n = .function "else" [] ∧
          (.function "else" [] ∈ ns ∨ ∃ params, .function "elsif" params ∈ ns) ∨
        n = .function "elsif" [] ∨ Misplaced ns := by
  simp only [Misplaced, List.cons_sublist_cons', List.singleton_sublist, List.mem_cons]
  grind

/-- What is misplaced is a marker. -/
theorem Misplaced.exists_marker {ns : List Node} (h : Misplaced ns) :
    .function "else" [] ∈ ns ∨ ∃ params, .function "elsif" params ∈ ns := by
  rcases h with h | ⟨params, h⟩ | h
  · exact .inl (h.subset List.mem_cons_self)
  · exact .inl (h.subset List.mem_cons_self)
  · exact .inr ⟨[], h⟩

theorem clauseFault?_eq_none {ns : List Node} :
    clauseFault? false ns = none ↔ ¬ Misplaced ns := by
  induction ns with
  | nil => simp [clauseFault?, Misplaced]
  | cons n ns ih =>
    unfold clauseFault?
    rw [misplaced_cons]
    rcases h : n.marker? with _ | _ | _
    · obtain ⟨helse, helsif⟩ := Node.marker?_eq_none.1 h
      simp [helse, helsif, ih]
    · obtain rfl := Node.marker?_eq_otherwise.1 h
      have hmarkers : (∀ n ∈ ns, n.marker? = none) ↔
          ¬ (.function "else" [] ∈ ns ∨ ∃ params, .function "elsif" params ∈ ns) := by
        simp only [Node.marker?_eq_none]
        grind
      have hmisplaced : Misplaced ns → .function "else" [] ∈ ns ∨
          ∃ params, .function "elsif" params ∈ ns := Misplaced.exists_marker
      simp only [Bool.false_eq_true, if_false, clauseFault?_true_eq_none, hmarkers]
      grind
    · obtain ⟨params, rfl⟩ := Node.marker?_eq_orIf.1 h
      cases params with
      | nil => simp [Node.hasParams]
      | cons condition more => simp [Node.hasParams, ih]

/-! ## Clauses -/

/-- The nodes in front of the first marker, and each marker with the nodes behind it. -/
def clausesOf : List Node → List Node × List (Node × List Node)
  | [] => ([], [])
  | n :: ns =>
    let (first, later) := clausesOf ns
    if n.marker?.isSome then ([], (n, first) :: later) else (n :: first, later)

/-- A body with these clauses: the nodes of the first one, and for each later one its marker and its
nodes. -/
def bodyOf (first : List Node) (later : List (Node × List Node)) : List Node :=
  first ++ later.flatMap fun c => c.1 :: c.2

/-- The nodes have no marker among them. -/
def Unmarked (ns : List Node) : Prop :=
  ∀ n ∈ ns, n.marker? = none

theorem bodyOf_clausesOf (body : List Node) :
    bodyOf (clausesOf body).1 (clausesOf body).2 = body := by
  induction body with
  | nil => rfl
  | cons n ns ih =>
    unfold clausesOf
    dsimp only
    split
    · simpa [bodyOf] using ih
    · simpa [bodyOf] using ih

theorem unmarked_first (body : List Node) : Unmarked (clausesOf body).1 := by
  induction body with
  | nil => nofun
  | cons n ns ih =>
    unfold clausesOf
    dsimp only
    split
    · nofun
    · rename_i hn
      exact List.forall_mem_cons.2 ⟨by simpa using hn, ih⟩

theorem marked_later (body : List Node) :
    ∀ c ∈ (clausesOf body).2, c.1.marker?.isSome ∧ Unmarked c.2 := by
  induction body with
  | nil => nofun
  | cons n ns ih =>
    unfold clausesOf
    dsimp only
    split
    · rename_i hn
      exact List.forall_mem_cons.2 ⟨⟨hn, unmarked_first ns⟩, ih⟩
    · exact ih

/-- A clause: the condition, which an `else` has not, and the nodes. -/
structure Clause where
  condition : Option Node
  segment : List Node

/-- The condition that a marker gives. -/
def Node.condition? : Node → Option Node
  | function _ (condition :: _) => some condition
  | _ => none

/-- The clauses of a block with this condition. -/
def clauses (condition : Node) (first : List Node) (later : List (Node × List Node)) :
    List Clause :=
  ⟨some condition, first⟩ :: later.map fun c => ⟨c.1.condition?, c.2⟩

/-- Evaluates the conditions one after another up to the first that is true, and renders the nodes
of that clause in a scope of their own; no text if none is true. -/
def runClauses (setting : Setting) : List Clause → Rendering String
  | [] => return ""
  | ⟨none, segment⟩ :: _ => inScope (render setting segment)
  | ⟨some condition, segment⟩ :: more => do
    if (← evaluate setting condition).isTruthy then inScope (render setting segment)
    else runClauses setting more

/-! ## One clause at most -/

section Blocks

variable (setting : Setting)

theorem renderClause_bodyOf {first : List Node} {later : List (Node × List Node)}
    (hfirst : Unmarked first) (hlater : ∀ c ∈ later, c.1.marker?.isSome) :
    renderClause setting (bodyOf first later) = render setting first := by
  induction first with
  | nil =>
    rcases later with _ | ⟨⟨marker, segment⟩, later⟩
    · rw [bodyOf, List.nil_append, List.flatMap_nil, renderClause, render]
    · rw [bodyOf, List.nil_append, List.flatMap_cons, List.cons_append, renderClause,
        if_pos (hlater _ List.mem_cons_self), render]
  | cons n first ih =>
    obtain ⟨hn, hfirst⟩ := List.forall_mem_cons.1 hfirst
    have hrest := ih hfirst
    rw [bodyOf] at hrest ⊢
    rw [List.cons_append, renderClause, hrest, hn, render]
    rfl

theorem renderLaterClause_append {free : List Node} (hfree : Unmarked free) (ns : List Node) :
    renderLaterClause setting (free ++ ns) = renderLaterClause setting ns := by
  induction free with
  | nil => rfl
  | cons n free ih =>
    obtain ⟨hn, hfree⟩ := List.forall_mem_cons.1 hfree
    obtain ⟨helse, helsif⟩ := Node.marker?_eq_none.1 hn
    rw [List.cons_append, ← ih hfree]
    cases n with
    | function name params =>
      cases params with
      | nil =>
        have hname : name ≠ "else" := by
          rintro rfl
          exact helse rfl
        rw [renderLaterClause, if_neg hname]
      | cons condition more =>
        have hname : name ≠ "elsif" := by
          rintro rfl
          exact helsif _ rfl
        rw [renderLaterClause, if_neg hname]
    | text _ | literal _ | «variable» _ | block _ _ _ => simp only [renderLaterClause]

theorem renderLaterClause_flatMap {later : List (Node × List Node)}
    (hlater : ∀ c ∈ later, c.1.marker?.isSome ∧ Unmarked c.2)
    (hcondition : ∀ c ∈ later, c.1 ≠ .function "elsif" []) :
    renderLaterClause setting (later.flatMap fun c => c.1 :: c.2) =
      runClauses setting (later.map fun c => ⟨c.1.condition?, c.2⟩) := by
  induction later with
  | nil => rw [List.flatMap_nil, renderLaterClause, List.map_nil, runClauses]
  | cons c later ih =>
    obtain ⟨marker, segment⟩ := c
    obtain ⟨⟨hmarker, hsegment⟩, hrest⟩ := List.forall_mem_cons.1 hlater
    obtain ⟨hparams, hconditions⟩ := List.forall_mem_cons.1 hcondition
    have hclause := renderClause_bodyOf setting hsegment fun c hc => (hrest c hc).1
    rw [bodyOf] at hclause
    rw [List.flatMap_cons, List.map_cons, List.cons_append]
    obtain ⟨kind, hkind⟩ := Option.isSome_iff_exists.1 hmarker
    cases kind with
    | otherwise =>
      obtain rfl : marker = .function "else" [] := Node.marker?_eq_otherwise.1 hkind
      rw [renderLaterClause, if_pos rfl, hclause]
      rfl
    | orIf =>
      obtain ⟨params, rfl⟩ : ∃ params, marker = .function "elsif" params :=
        Node.marker?_eq_orIf.1 hkind
      rcases params with _ | ⟨condition, more⟩
      · exact absurd rfl hparams
      · rw [renderLaterClause, if_pos rfl, Node.condition?, runClauses, hclause,
          renderLaterClause_append setting hsegment, ih hrest hconditions]

/-- A block whose markers are in their places runs its clauses. -/
theorem evaluate_if {condition : Node} {more first : List Node} {later : List (Node × List Node)}
    (hfirst : Unmarked first) (hlater : ∀ c ∈ later, c.1.marker?.isSome ∧ Unmarked c.2)
    (hplaced : ¬ Misplaced (bodyOf first later)) :
    evaluate setting (.block "if" (condition :: more) (bodyOf first later)) =
      .string <$> runClauses setting (clauses condition first later) := by
  have hcondition : ∀ c ∈ later, c.1 ≠ .function "elsif" [] := by
    intro c hc helsif
    refine hplaced (.inr (.inr ?_))
    rw [← helsif]
    exact List.mem_append_right _ (List.mem_flatMap.2 ⟨c, hc, List.mem_cons_self⟩)
  rw [evaluate.eq_def]
  dsimp only
  rw [if_neg (by decide), if_neg (by decide), if_pos rfl, clauseFault?_eq_none.2 hplaced]
  dsimp only
  rw [renderClause_bodyOf setting hfirst fun c hc => (hlater c hc).1, bodyOf,
    renderLaterClause_append setting hfirst, renderLaterClause_flatMap setting hlater hcondition,
    clauses, runClauses]

/-- A block with a marker in the wrong place fails before it evaluates anything. -/
theorem evaluate_if_of_misplaced {body : List Node} (h : Misplaced body) :
    ∃ fault, ∀ condition more s, evaluate setting (.block "if" (condition :: more) body) s =
      .error (.invalidBlock "if" fault) s := by
  rcases hfault : clauseFault? false body with _ | fault
  · exact absurd h (clauseFault?_eq_none.1 hfault)
  · refine ⟨fault, fun condition more s => ?_⟩
    rw [evaluate.eq_def]
    dsimp only
    rw [if_neg (by decide), if_neg (by decide), if_pos rfl, hfault]
    rfl

end Blocks

/-- The markers stand in the body in the order of the clauses. -/
theorem markers_sublist (first : List Node) (later : List (Node × List Node)) :
    List.Sublist (later.map Prod.fst) (bodyOf first later) := by
  refine List.sublist_append_of_sublist_right ?_
  induction later with
  | nil => exact List.Sublist.slnil
  | cons c later ih => exact (List.sublist_append_of_sublist_right ih).cons_cons c.1

/-- Only the last clause can be without a condition, and its marker is an `else`. -/
theorem last_of_unconditional {first : List Node} {later before rest : List (Node × List Node)}
    {c : Node × List Node} (hplaced : ¬ Misplaced (bodyOf first later))
    (hlater : ∀ c ∈ later, c.1.marker?.isSome ∧ Unmarked c.2) (hc : later = before ++ c :: rest)
    (hcondition : c.1.condition? = none) : c.1 = .function "else" [] ∧ rest = [] := by
  have hmarkers := markers_sublist first later
  subst hc
  obtain ⟨kind, hkind⟩ := Option.isSome_iff_exists.1 (hlater c (by simp)).1
  cases kind with
  | otherwise =>
    have helse := Node.marker?_eq_otherwise.1 hkind
    refine ⟨helse, ?_⟩
    rcases rest with _ | ⟨next, rest⟩
    · rfl
    · exfalso
      have hpair : List.Sublist [.function "else" [], next.1]
          (bodyOf first (before ++ c :: next :: rest)) := by
        rw [← helse]
        refine List.Sublist.trans ?_ hmarkers
        simp [List.sublist_append_of_sublist_right]
      obtain ⟨kind, hkind⟩ := Option.isSome_iff_exists.1 (hlater next (by simp)).1
      cases kind with
      | otherwise => exact hplaced (.inl (Node.marker?_eq_otherwise.1 hkind ▸ hpair))
      | orIf =>
        obtain ⟨params, hnext⟩ := Node.marker?_eq_orIf.1 hkind
        exact hplaced (.inr (.inl ⟨params, hnext ▸ hpair⟩))
  | orIf =>
    exfalso
    obtain ⟨params, helsif⟩ := Node.marker?_eq_orIf.1 hkind
    rcases params with _ | ⟨condition, more⟩
    · refine hplaced (.inr (.inr (hmarkers.subset ?_)))
      rw [← helsif]
      exact List.mem_map_of_mem (by simp)
    · rw [helsif] at hcondition
      cases hcondition

/-! ## Other clauses in place of those -/

section Replacement

variable (setting : Setting)

/-- From this state on the clauses have the same conditions as far as they are evaluated, and the
same nodes where they are rendered. -/
inductive Agree : RenderState → List Clause → List Clause → Prop
  | done {s} : Agree s [] []
  | otherwise {s segment rest rest'} :
    Agree s (⟨none, segment⟩ :: rest) (⟨none, segment⟩ :: rest')
  | taken {s condition segment rest rest' v t} (h : evaluate setting condition s = .ok v t)
    (hv : v.isTruthy) :
    Agree s (⟨some condition, segment⟩ :: rest) (⟨some condition, segment⟩ :: rest')
  | failed {s condition segment segment' rest rest' e t}
    (h : evaluate setting condition s = .error e t) :
    Agree s (⟨some condition, segment⟩ :: rest) (⟨some condition, segment'⟩ :: rest')
  | passed {s condition segment segment' rest rest' v t}
    (h : evaluate setting condition s = .ok v t) (hv : ¬ v.isTruthy) (hrest : Agree t rest rest') :
    Agree s (⟨some condition, segment⟩ :: rest) (⟨some condition, segment'⟩ :: rest')

variable {setting}

/-- Clauses that agree run alike. -/
theorem Agree.runClauses_eq {s : RenderState} {cs cs' : List Clause} (h : Agree setting s cs cs') :
    runClauses setting cs' s = runClauses setting cs s := by
  induction h with
  | done => rfl
  | otherwise => rw [runClauses, runClauses]
  | taken h hv => simp only [runClauses, bind_eq, h, hv, if_true]
  | failed h => simp only [runClauses, bind_eq, h]
  | passed h hv _ ih => simp only [runClauses, bind_eq, h, hv, Bool.false_eq_true, if_false, ih]

/-- The second clause can stand in the place of the first one: its marker is of the same kind, and
no other marker is among its nodes. -/
def Replaces (c c' : Node × List Node) : Prop :=
  c'.1.marker? = c.1.marker? ∧ c'.1.hasParams = c.1.hasParams ∧ Unmarked c'.2

theorem clauseFault?_append {free : List Node} (hfree : Unmarked free) (closed : Bool)
    (ns : List Node) : clauseFault? closed (free ++ ns) = clauseFault? closed ns := by
  induction free with
  | nil => rfl
  | cons n free ih =>
    obtain ⟨hn, hfree⟩ := List.forall_mem_cons.1 hfree
    rw [List.cons_append, clauseFault?, hn, ← ih hfree]

/-- Markers in their places stay there when clauses are replaced. -/
theorem clauseFault?_replace {later later' : List (Node × List Node)}
    (hlater : ∀ c ∈ later, Unmarked c.2) (h : List.Forall₂ Replaces later later') (closed : Bool) :
    clauseFault? closed (later'.flatMap fun c => c.1 :: c.2) =
      clauseFault? closed (later.flatMap fun c => c.1 :: c.2) := by
  induction h generalizing closed with
  | nil => rfl
  | cons hc _ ih =>
    obtain ⟨hmarker, hparams, hfree'⟩ := hc
    obtain ⟨hfree, hrest⟩ := List.forall_mem_cons.1 hlater
    simp only [List.flatMap_cons, List.cons_append, clauseFault?, hmarker, hparams,
      clauseFault?_append hfree, clauseFault?_append hfree', ih hrest]

/-- The markers of the first clauses are markers in the second ones too. -/
theorem marked_replace {later later' : List (Node × List Node)}
    (hlater : ∀ c ∈ later, c.1.marker?.isSome ∧ Unmarked c.2)
    (h : List.Forall₂ Replaces later later') :
    ∀ c ∈ later', c.1.marker?.isSome ∧ Unmarked c.2 := by
  induction h with
  | nil => nofun
  | cons hc _ ih =>
    obtain ⟨hmarker, -, hfree'⟩ := hc
    obtain ⟨⟨hsome, -⟩, hrest⟩ := List.forall_mem_cons.1 hlater
    exact List.forall_mem_cons.2 ⟨⟨hmarker ▸ hsome, hfree'⟩, ih hrest⟩

theorem not_misplaced_replace {first first' : List Node} {later later' : List (Node × List Node)}
    (hfirst : Unmarked first) (hfirst' : Unmarked first') (hlater : ∀ c ∈ later, Unmarked c.2)
    (h : List.Forall₂ Replaces later later') (hplaced : ¬ Misplaced (bodyOf first later)) :
    ¬ Misplaced (bodyOf first' later') := by
  rw [← clauseFault?_eq_none, bodyOf] at hplaced ⊢
  rwa [clauseFault?_append hfirst', clauseFault?_replace hlater h, ← clauseFault?_append hfirst]

end Replacement

/-- A block with a marker in the wrong place fails, whatever its condition, before it evaluates
anything. Otherwise its clauses are run, up to the first whose condition is true; and a block with
other nodes in the clauses that are not rendered and other conditions behind the last one that is
evaluated comes out the same, in its text or error and in the state that it leaves. -/
theorem if_runs_one_clause (setting : Setting) (body : List Node) :
    (Misplaced body → ∃ fault, ∀ condition more s,
      evaluate setting (.block "if" (condition :: more) body) s =
        .error (.invalidBlock "if" fault) s) ∧
    (¬ Misplaced body → ∀ first later, clausesOf body = (first, later) →
      bodyOf first later = body ∧ Unmarked first ∧
      (∀ c ∈ later, c.1.marker?.isSome ∧ Unmarked c.2) ∧
      (∀ before c rest, later = before ++ c :: rest → c.1.condition? = none →
        c.1 = .function "else" [] ∧ rest = []) ∧
      ∀ condition more,
        evaluate setting (.block "if" (condition :: more) body) =
          .string <$> runClauses setting (clauses condition first later) ∧
        ∀ first' later' s, Unmarked first' → List.Forall₂ Replaces later later' →
          Agree setting s (clauses condition first later) (clauses condition first' later') →
          evaluate setting (.block "if" (condition :: more) (bodyOf first' later')) s =
            evaluate setting (.block "if" (condition :: more) body) s) := by
  refine ⟨evaluate_if_of_misplaced setting, fun hplaced first later hcut => ?_⟩
  have hbody : bodyOf first later = body := by simpa [hcut] using bodyOf_clausesOf body
  have hfirst : Unmarked first := by simpa [hcut] using unmarked_first body
  have hlater : ∀ c ∈ later, c.1.marker?.isSome ∧ Unmarked c.2 := by
    simpa only [hcut] using marked_later body
  rw [← hbody] at hplaced
  refine ⟨hbody, hfirst, hlater,
    fun _ _ _ hc hcondition => last_of_unconditional hplaced hlater hc hcondition,
    fun condition more => ?_⟩
  rw [← hbody]
  refine ⟨evaluate_if setting hfirst hlater hplaced,
    fun first' later' s hfirst' hreplaces hagree => ?_⟩
  have hplaced' : ¬ Misplaced (bodyOf first' later') :=
    not_misplaced_replace hfirst hfirst' (fun c hc => (hlater c hc).2) hreplaces hplaced
  rw [evaluate_if setting hfirst hlater hplaced,
    evaluate_if setting hfirst' (marked_replace hlater hreplaces) hplaced', map_eq, map_eq,
    hagree.runClauses_eq]

/-- A first condition that is not true, but writes the variable that the second condition reads. -/
def visit : Node :=
  .function "var" [.literal "visited", .literal "1"]

/-- Behind the second clause nothing can be evaluated. -/
def visited : List Node :=
  [.text "first", .function "elsif" [.variable "visited"], .variable "visited",
    .function "elsif" [.function "unknown" []], .text "third", .function "else" [],
    .function "unknown" []]

theorem visited_runs_one_clause :
    let setting : Setting := ⟨⟨0, 0, 0⟩, none⟩
    let s : RenderState := { draws := ⟨fun _ => 0, 0⟩ }
    let others : List Node :=
      [.function "unknown" [], .function "elsif" [.variable "visited"], .variable "visited",
        .function "elsif" [.literal "0"], .function "else" [], .text "last"]
    ((evaluate setting (.block "if" [visit] visited)).run' s).map Value.text = some "1" ∧
      evaluate setting (.block "if" [visit] others) s =
        evaluate setting (.block "if" [visit] visited) s ∧
      ∃ fault, evaluate setting (.block "if" [visit] (visited ++ [.function "else" []])) s =
        .error (.invalidBlock "if" fault) s := by
  intro setting s others
  refine ⟨by decide +kernel, ?_, ?_⟩
  · obtain ⟨-, -, -, -, hruns⟩ :=
      (if_runs_one_clause setting visited).2 (clauseFault?_eq_none.1 rfl) _ _ rfl
    refine (hruns visit []).2 (clausesOf others).1 (clausesOf others).2 s (unmarked_first others)
      ?_ (.passed rfl (by decide) (.taken rfl (by decide)))
    exact .cons ⟨rfl, rfl, List.forall_mem_singleton.2 rfl⟩
      (.cons ⟨rfl, rfl, nofun⟩ (.cons ⟨rfl, rfl, List.forall_mem_singleton.2 rfl⟩ .nil))
  · have hmisplaced : Misplaced (visited ++ [.function "else" []]) := by
      simp [visited, misplaced_cons]
    obtain ⟨fault, hfault⟩ := (if_runs_one_clause setting _).1 hmisplaced
    exact ⟨fault, hfault visit [] s⟩

end Template

end StubServer

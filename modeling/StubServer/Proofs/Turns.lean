import Mathlib.Data.List.Rotate
import StubServer.Proofs.Candidates
import StubServer.Proofs.Lookup

/-!
# Responses in turn

A selection from a route that goes through its responses in sequence is a turn under the route's
key. The position under a key is the number of turns taken under it since routes were last replaced,
as far as a word of 64 bits can tell (`InTurn`), and other steps do not touch it. So turn number `k`
takes the candidate number `k` of its own candidates, counted round and round, and as many turns in
a row as there are candidates take each of them once (`Run.takes_turns`).
-/

namespace StubServer

namespace Config.Route

/-- The responses whose rules all pass, in the order in which they are declared. -/
def passing (r : Route) (input : RuleInput) : List Response :=
  r.responses.filter fun response => response.passes input

theorem map_response_candidates (r : Route) (input : RuleInput) :
    (r.candidates input).map Selected.response = r.passing input := by
  have h := List.filter_map (f := Prod.fst) (p := fun p : Response => p.passes input)
    (l := r.responses.zipIdx)
  rw [List.zipIdx_map_fst] at h
  simp [candidates, passing, List.filter_map, h, Function.comp_def]

/-- The response with the number `k` among those that pass, counted round and round. -/
def due? (r : Route) (input : RuleInput) (k : Nat) : Option Response :=
  (r.passing input)[k % (r.passing input).length]?

theorem due?_eq (r : Route) (input : RuleInput) (k : Nat) :
    r.due? input k =
      ((r.candidates input)[k % (r.candidates input).length]?).map Selected.response := by
  rw [due?, ← map_response_candidates, List.length_map, List.getElem?_map]

/-- The candidates are different responses of the route. -/
theorem nodup_index_candidates (r : Route) (input : RuleInput) :
    ((r.candidates input).map Selected.index).Nodup :=
  (r.pairwise_index_candidates input).imp Nat.ne_of_lt

end Config.Route

namespace Store

/-! ## Runs -/

/-- What a store was asked for, and what it selected. -/
inductive Event where
  | select (r : Config.Route) (input : RuleInput) (selected : Option Selected)
  | replace (routes : List Config.Route)

/-- A store that starts without positions goes through the events, one after another. Each selection
draws from words of its own, and routes may be looked up in between. -/
inductive Run : List Event → Store → Prop
  | start {s : Store} (hs : s.positions = .empty) : Run [] s
  | select {es : List Event} {s s' : Store} {r : Config.Route} {input : RuleInput}
      {draws draws' : Draws} {x : Option Selected} (hrun : Run es s)
      (hselect : select r input s draws = some ((x, s'), draws')) :
      Run (es ++ [.select r input x]) s'
  | replace {es : List Event} {s : Store} (routes : List Config.Route) (hrun : Run es s) :
      Run (es ++ [.replace routes]) (s.replaceRoutes routes)
  | find {es : List Event} {s : Store} (routes : List Config.Route) (path : String)
      (methods : Http.MethodSet) (hrun : Run es s) : Run es (find routes path methods s).2

/-- A response that was selected from a route in sequence. -/
structure Turn where
  route : Config.Route
  input : RuleInput
  selected : Selected

def Turn.candidates (t : Turn) : List Selected :=
  t.route.candidates t.input

/-- The turns under a key after an event, those before it being given. -/
def Event.addTurn (key : String) (turns : List Turn) : Event → List Turn
  | select r input selected =>
    if r.strategy = .sequence ∧ r.key = key then turns ++ (selected.map (Turn.mk r input)).toList
    else turns
  | replace _ => []

/-- The turns taken under a key since routes were last replaced. -/
def turns (key : String) (es : List Event) : List Turn :=
  es.foldl (Event.addTurn key) []

theorem turns_append (key : String) (es : List Event) (e : Event) :
    turns key (es ++ [e]) = e.addTurn key (turns key es) := by
  simp [turns]

/-! ## Positions -/

def position (s : Store) (key : String) : UInt64 :=
  (s.positions.get? key).getD 0

theorem positions_matcher (template : String) (s : Store) :
    (matcher template s).2.positions = s.positions := by
  rw [matcher_eq]
  cases s.matchers.get? template <;> rfl

theorem positions_findPath (path : String) (methods : Http.MethodSet) :
    ∀ (routes : List Config.Route) (s : Store),
      (findPath path methods routes s).2.positions = s.positions
  | [], _ => rfl
  | r :: rs, s => by
    rw [findPath_cons]
    split
    · have hmatcher := positions_matcher r.urlTemplate s
      split
      rename_i outcome t ht
      rw [ht] at hmatcher
      split
      · exact hmatcher
      · exact (positions_findPath path methods rs t).trans hmatcher
    · exact positions_findPath path methods rs s

theorem positions_find (routes : List Config.Route) (path : String) (methods : Http.MethodSet)
    (s : Store) : (find routes path methods s).2.positions = s.positions :=
  positions_findPath (rooted path) methods routes s

section Sequence

variable {r : Config.Route} (hr : r.strategy = .sequence) {input : RuleInput} {s : Store}

include hr

/-- With candidates the one that is due is selected, and the position under the route's key goes up
by one. -/
theorem select_of_candidates_ne_nil (hc : r.candidates input ≠ []) (draws : Draws) :
    ∃ x s', select r input s draws = some ((some x, s'), draws) ∧
      (r.candidates input)[(s.position r.key).toNat % (r.candidates input).length]? = some x ∧
      s'.position r.key = s.position r.key + 1 := by
  have hlt := Nat.mod_lt (s.position r.key).toNat (List.length_pos_iff.mpr hc)
  have htakes := List.getElem?_eq_getElem hlt
  refine ⟨_, { s with positions := s.positions.insert r.key (s.position r.key + 1) }, ?_, htakes, ?_⟩
  · rw [← htakes, select_of_sequence hr]
    obtain ⟨c, cs, hcs⟩ := List.exists_cons_of_ne_nil hc
    rw [hcs, nextInSequence_cons]
    rfl
  · simp [position, Bindings.get?_insert]

end Sequence

/-! ## The turns of a run -/

/-- The position under the key counts the turns, and as long as it can, each turn took the candidate
that was due. -/
structure InTurn (key : String) (turns : List Turn) (s : Store) : Prop where
  position_eq : (s.position key).toNat = turns.length % UInt64.size
  takes : turns.length ≤ UInt64.size → ∀ (k : Nat) (t : Turn), turns[k]? = some t →
    t.candidates[k % t.candidates.length]? = some t.selected

namespace InTurn

variable {key : String} {turns : List Turn} {s : Store}

theorem nil (h : s.positions = .empty) : InTurn key [] s := by
  refine ⟨?_, fun _ k t ht => by simp at ht⟩
  simp [position, h]

theorem of_position_eq (h : InTurn key turns s) {s' : Store}
    (hposition : s'.position key = s.position key) : InTurn key turns s' :=
  ⟨hposition ▸ h.position_eq, h.takes⟩

/-- A turn takes the candidate whose number is the count of the turns before. -/
theorem append (h : InTurn key turns s) {t : Turn} {s' : Store}
    (hposition : s'.position key = s.position key + 1)
    (ht : t.candidates[(s.position key).toNat % t.candidates.length]? = some t.selected) :
    InTurn key (turns ++ [t]) s' := by
  refine ⟨?_, fun hfew k t' ht' => ?_⟩
  · rw [hposition, UInt64.toNat_add, h.position_eq]
    simp
  · rw [List.length_append, List.length_singleton] at hfew
    rw [List.getElem?_append] at ht'
    split at ht'
    · exact h.takes (by omega) k t' ht'
    · rename_i hk
      obtain ⟨hk', rfl⟩ := List.getElem?_eq_some_iff.mp ht'
      obtain rfl : k = turns.length := by simp at hk'; omega
      rw [h.position_eq, Nat.mod_eq_of_lt hfew] at ht
      simpa using ht

theorem select (h : InTurn key turns s) {r : Config.Route} {input : RuleInput} {s' : Store}
    {draws draws' : Draws} {x : Option Selected}
    (hselect : Store.select r input s draws = some ((x, s'), draws')) :
    InTurn key ((Event.select r input x).addTurn key turns) s' := by
  rw [Event.addTurn]
  split
  · rename_i hturn
    obtain ⟨hr, rfl⟩ := hturn
    by_cases hc : r.candidates input = []
    · rw [select_of_candidates_eq_nil hc] at hselect
      cases hselect
      simpa using h
    · obtain ⟨y, t, hy, htakes, hposition⟩ := select_of_candidates_ne_nil hr hc draws
      rw [hy] at hselect
      cases hselect
      exact h.append hposition htakes
  · rename_i hother
    obtain ⟨positions, rfl, hkeep⟩ := select_eq_some hselect
    refine h.of_position_eq ?_
    simp only [position]
    rw [hkeep key fun hr hkey => hother ⟨hr, hkey⟩]

section Few

variable (h : InTurn key turns s)

include h

theorem due?_eq_some (hfew : turns.length ≤ UInt64.size) {k : Nat} {t : Turn} (ht : turns[k]? = some t) :
    t.route.due? t.input k = some t.selected.response := by
  have htakes := h.takes hfew k t ht
  rw [Turn.candidates] at htakes
  rw [Config.Route.due?_eq, htakes, Option.map_some]

/-- A selection from a route under the key takes the next turn. -/
theorem select_due? (hfew : turns.length < UInt64.size) {r : Config.Route} (hr : r.strategy = .sequence)
    (hkey : r.key = key) (input : RuleInput) (draws : Draws) :
    ∃ x s', Store.select r input s draws = some ((x, s'), draws) ∧
      x.map Selected.response = r.due? input turns.length ∧
      (r.passing input = [] → x = none ∧ s' = s) := by
  subst hkey
  rw [Config.Route.due?_eq, ← Nat.mod_eq_of_lt hfew, ← h.position_eq]
  by_cases hc : r.candidates input = []
  · refine ⟨none, s, select_of_candidates_eq_nil hc s draws, ?_, fun _ => ⟨rfl, rfl⟩⟩
    rw [hc]
    rfl
  · obtain ⟨x, s', hselect, htakes, -⟩ := select_of_candidates_ne_nil hr hc draws
    refine ⟨some x, s', hselect, by rw [htakes], fun hnil => ?_⟩
    rw [← r.map_response_candidates input, List.map_eq_nil_iff] at hnil
    exact absurd hnil hc

variable (hfew : turns.length ≤ UInt64.size) {before row after : List Turn}
  (hturns : turns = before ++ row ++ after)

include hfew hturns

/-- As many turns in a row as there are candidates go round them, beginning at any of them. What is
looked at in a candidate has to be the same for all of the turns. -/
theorem map_selected_row {α : Type} (f : Selected → α) {l : List α} (hlen : row.length = l.length)
    (hl : ∀ t ∈ row, t.candidates.map f = l) :
    (row.map fun t => f t.selected) = l.rotate before.length := by
  refine List.ext_getElem (by simp [hlen]) fun i hi _ => ?_
  rw [List.length_map] at hi
  have ht : turns[before.length + i]? = some row[i] := by
    rw [hturns, List.append_assoc, List.getElem?_append_right (by omega), Nat.add_sub_cancel_left,
      List.getElem?_append_left hi, List.getElem?_eq_getElem hi]
  have htakes := congrArg (Option.map f) (h.takes hfew _ _ ht)
  have hcandidates := hl _ (List.getElem_mem hi)
  rw [← List.getElem?_map, ← List.length_map f, hcandidates, Nat.add_comm, Option.map_some] at htakes
  obtain ⟨_, hselected⟩ := List.getElem?_eq_some_iff.mp htakes
  rw [List.getElem_map, List.getElem_rotate, hselected]

theorem row_perm {rs : List Config.Response} (hlen : row.length = rs.length)
    (hrs : ∀ t ∈ row, t.route.passing t.input = rs) :
    (row.map fun t => t.selected.response).Perm rs := by
  have hrotate := h.map_selected_row hfew hturns Selected.response hlen fun t ht => by
    rw [← hrs t ht, ← Config.Route.map_response_candidates, Turn.candidates]
  rw [hrotate]
  exact List.rotate_perm rs before.length

/-- When the candidates are also at the same places, no place is taken twice. -/
theorem nodup_row (hlen : ∀ t ∈ row, row.length = t.candidates.length)
    (hsame : ∀ t ∈ row, ∀ u ∈ row, t.candidates = u.candidates) :
    (row.map fun t => t.selected.index).Nodup := by
  rcases hrow : row with _ | ⟨t, rest⟩
  · exact List.nodup_nil
  · have ht : t ∈ row := hrow ▸ List.mem_cons_self
    have hrotate := h.map_selected_row hfew hturns Selected.index
      (l := t.candidates.map Selected.index) (by simpa using hlen t ht)
      fun u hu => by rw [hsame u hu t ht]
    rw [← hrow, hrotate, List.nodup_rotate]
    exact t.route.nodup_index_candidates t.input

end Few

end InTurn

theorem Run.inTurn {es : List Event} {s : Store} (hrun : Run es s) (key : String) :
    InTurn key (turns key es) s := by
  induction hrun with
  | start hs => exact .nil hs
  | select _ hselect ih =>
    rw [turns_append]
    exact ih.select hselect
  | replace routes _ _ =>
    rw [turns_append]
    exact .nil rfl
  | @find es s routes path methods _ ih =>
    refine ih.of_position_eq ?_
    rw [position, position, positions_find]

/-- Turn number `k` under a key, counted from the last replacement of the routes, takes response
number `k` of those that pass for its request, counted round and round. So does the next selection
from a route under the key, whatever words it could draw from; when no response passes it selects
none and changes nothing. As many turns in a row as there are responses that pass, which are the
same for all of them, take each of these once. -/
theorem Run.takes_turns {es : List Event} {s : Store} (hrun : Run es s) (key : String)
    (hfew : (turns key es).length < UInt64.size) :
    (∀ (k : Nat) (t : Turn), (turns key es)[k]? = some t →
      t.route.due? t.input k = some t.selected.response) ∧
    (∀ (r : Config.Route) (input : RuleInput) (draws : Draws), r.strategy = .sequence →
      r.key = key → ∃ x s', Store.select r input s draws = some ((x, s'), draws) ∧
        x.map Selected.response = r.due? input (turns key es).length ∧
        (r.passing input = [] → x = none ∧ s' = s)) ∧
    (∀ (before row after : List Turn) (rs : List Config.Response),
      turns key es = before ++ row ++ after → row.length = rs.length →
        (∀ t ∈ row, t.route.passing t.input = rs) →
          (row.map fun t => t.selected.response).Perm rs ∧
          ((∀ t ∈ row, ∀ u ∈ row, t.candidates = u.candidates) →
            (row.map fun t => t.selected.index).Nodup)) := by
  have h := hrun.inTurn key
  refine ⟨fun k t ht => h.due?_eq_some hfew.le ht,
    fun r input draws hr hkey => h.select_due? hfew hr hkey input draws,
    fun before row after rs hturns hlen hrs => ⟨?_, fun hsame => ?_⟩⟩
  · exact h.row_perm hfew.le hturns hlen hrs
  · refine h.nodup_row hfew.le hturns (fun t ht => ?_) hsame
    rw [hlen, ← hrs t ht, ← Config.Route.map_response_candidates, List.length_map, Turn.candidates]

/-- A route whose second response waits for a header. -/
def cycling : Config.Route where
  urlTemplate := "/seq"
  methods := .ofRequest "GET"
  strategy := .sequence
  responses := [{ body := "one" },
    { body := "never", rules := [.single ⟨.header, "k", "v", .equals, false⟩] }, { body := "two" }]

/-- A turn of that route, by which the response at an index is selected. -/
def cyclingTurn (index : Nat) (body : String) : Event :=
  .select cycling {} (some ⟨index, { body }⟩)

/-- A turn, a replacement of the routes and two turns. -/
def cycled : List Event :=
  [] ++ [cyclingTurn 0 "one"] ++ [.replace []] ++ [cyclingTurn 0 "one"] ++ [cyclingTurn 2 "two"]

theorem cycled_takes_turns :
    ∃ s, Run cycled s ∧ (turns cycling.key cycled).length = 2 ∧
      ∀ draws, ∃ x s', select cycling {} s draws = some ((x, s'), draws) ∧
        x.map Selected.response = cycling.due? {} 2 := by
  have hlen : (turns cycling.key cycled).length = 2 := by decide +kernel
  have hselect (s : Store) := select_of_sequence (r := cycling) rfl {} s ⟨fun _ => 0, 0⟩
  have hrun : Run cycled _ :=
    ((((Run.start (s := ofRoutes [cycling]) rfl).select (hselect _)).replace []).select
      (hselect _)).select (hselect _)
  refine ⟨_, hrun, hlen, fun draws => ?_⟩
  obtain ⟨-, hnext, -⟩ := hrun.takes_turns cycling.key (by rw [hlen]; decide)
  obtain ⟨x, s', hx, hdue, -⟩ := hnext cycling {} draws rfl rfl
  exact ⟨x, s', hx, hlen ▸ hdue⟩

end Store

end StubServer

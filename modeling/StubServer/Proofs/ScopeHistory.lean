import Mathlib.Data.List.Induction
import Mathlib.Data.List.Infix
import StubServer.Template.Rendering

/-!
# Scopes after a history

What a stack of scopes shows is told by the operations made on it. Their history says how deep the
stack was at every place, hence which scopes are still open at the end and what was written to them;
a look-up finds the last write in the innermost open scope that has one. Surplus pops do nothing,
and what stands between a push and its pop leaves no trace (`run_follows_history`).
-/

namespace StubServer

namespace Template

/-- What is done to a stack of scopes. -/
inductive ScopeOp where
  | push
  | pop
  | set (name : String) (v : Value)
  | get (name : String)

/-- The depth behind an operation; the outermost scope is never dropped. -/
def ScopeOp.depth (depth : Nat) : ScopeOp → Nat
  | push => depth + 1
  | pop => max 1 (depth - 1)
  | set _ _ => depth
  | get _ => depth

namespace Scopes

/-- The scopes behind an operation; a look-up changes nothing. -/
def apply (s : Scopes) : ScopeOp → Scopes
  | .push => s.push
  | .pop => s.pop
  | .set name v => s.set name v
  | .get _ => s

def run (s : Scopes) (ops : List ScopeOp) : Scopes :=
  ops.foldl apply s

/-- What new scopes become by a history. -/
def after (history : List ScopeOp) : Scopes :=
  ({} : Scopes).run history

/-! ## What a history says -/

/-- How deep a stack is that was new before the history. -/
def depthAfter (history : List ScopeOp) : Nat :=
  history.foldl ScopeOp.depth 1

/-- How deep it was behind the first `i` operations. -/
def level (history : List ScopeOp) (i : Nat) : Nat :=
  depthAfter (history.take i)

/-- The operation at the place writes the value to a scope that is still open at the end: since then
the stack was never less deep. Open scopes are told by their levels. -/
structure Writes (history : List ScopeOp) (name : String) (v : Value) (i : Nat) : Prop where
  op : history[i]? = some (.set name v)
  stays_open : ∀ j, i ≤ j → level history i ≤ level history j

/-- The value is that of the last write in the innermost open scope that has one. -/
def Shows (history : List ScopeOp) (name : String) (v : Value) : Prop :=
  ∃ i, Writes history name v i ∧ ∀ j w, Writes history name w j →
    level history j < level history i ∨ (level history j = level history i ∧ j ≤ i)

/-- The operations stand between a push behind the history and the pop that matches it. -/
structure Encloses (history inside : List ScopeOp) : Prop where
  above : ∀ start, start <+: inside →
    depthAfter history < depthAfter (history ++ .push :: start)
  matching : depthAfter (history ++ .push :: inside) = depthAfter history + 1

/-! ## Depths -/

section

variable {history : List ScopeOp} {op : ScopeOp} {name : String} {v : Value} {i : Nat}

theorem depth_apply (s : Scopes) (op : ScopeOp) : (s.apply op).depth = op.depth s.depth := by
  cases op with
  | push => rfl
  | pop =>
    simp only [apply, pop, Scopes.depth, ScopeOp.depth, List.length_tail]
    omega
  | set name v => exact depth_set s name v
  | get name => rfl

theorem depth_run (s : Scopes) (ops : List ScopeOp) :
    (s.run ops).depth = ops.foldl ScopeOp.depth s.depth := by
  induction ops generalizing s with
  | nil => rfl
  | cons op ops ih =>
    rw [List.foldl_cons, ← depth_apply]
    exact ih _

theorem run_append (s : Scopes) (ops more : List ScopeOp) :
    s.run (ops ++ more) = (s.run ops).run more :=
  List.foldl_append

theorem depth_after (history : List ScopeOp) : (after history).depth = depthAfter history :=
  depth_run _ _

theorem one_le_depthAfter (history : List ScopeOp) : 1 ≤ depthAfter history := by
  rw [← depth_after]
  exact Nat.succ_pos _

theorem depthAfter_concat : depthAfter (history ++ [op]) = op.depth (depthAfter history) :=
  List.foldl_append

theorem level_concat (hi : i ≤ history.length) : level (history ++ [op]) i = level history i := by
  rw [level, List.take_append_of_le_length hi, level]

theorem level_of_length_le (hi : history.length ≤ i) : level history i = depthAfter history := by
  rw [level, List.take_of_length_le hi]

theorem level_concat_of_lt (hi : history.length < i) :
    level (history ++ [op]) i = depthAfter (history ++ [op]) :=
  level_of_length_le (by rwa [List.length_append])

/-! ## Writes to open scopes -/

theorem Writes.lt_length (h : Writes history name v i) : i < history.length :=
  (List.getElem?_eq_some_iff.1 h.op).1

theorem Writes.level_le (h : Writes history name v i) : level history i ≤ depthAfter history := by
  rw [← level_of_length_le (Nat.le_refl _)]
  exact h.stays_open _ (Nat.le_of_lt h.lt_length)

/-- One more operation may write to the innermost scope, and may close the scope of a write. -/
theorem writes_concat_iff :
    Writes (history ++ [op]) name v i ↔
      (Writes history name v i ∧ level history i ≤ depthAfter (history ++ [op])) ∨
        (i = history.length ∧ op = .set name v) := by
  have hlast : level history history.length = depthAfter history :=
    level_of_length_le (Nat.le_refl _)
  constructor
  · intro h
    have hlevel := h.level_le
    have hlt := h.lt_length
    rw [List.length_append, List.length_singleton] at hlt
    rcases Nat.lt_succ_iff_lt_or_eq.1 hlt with hi | rfl
    · have hle := Nat.le_of_lt hi
      have hop := h.op
      rw [List.getElem?_append_left hi] at hop
      rw [level_concat hle] at hlevel
      refine .inl ⟨⟨hop, fun j hj => ?_⟩, hlevel⟩
      rcases Nat.le_total j history.length with hj' | hj'
      · simpa only [level_concat hle, level_concat hj'] using h.stays_open j hj
      · have hend := h.stays_open history.length hle
        rw [level_concat hle, level_concat (Nat.le_refl _), hlast] at hend
        rwa [level_of_length_le hj']
    · exact .inr ⟨rfl, by simpa using h.op⟩
  · rintro (⟨h, hlevel⟩ | ⟨rfl, rfl⟩)
    · have hle := Nat.le_of_lt h.lt_length
      refine ⟨by rw [List.getElem?_append_left h.lt_length]; exact h.op, fun j hj => ?_⟩
      rw [level_concat hle]
      rcases Nat.lt_or_ge history.length j with hj' | hj'
      · rwa [level_concat_of_lt hj']
      · rw [level_concat hj']
        exact h.stays_open j hj
    · have hdepth : depthAfter (history ++ [.set name v]) = depthAfter history := depthAfter_concat
      refine ⟨by simp, fun j hj => ?_⟩
      rw [level_concat (Nat.le_refl _), hlast]
      rcases Nat.eq_or_lt_of_le hj with rfl | hj
      · exact Nat.le_of_eq ((level_concat (Nat.le_refl _)).trans hlast).symm
      · exact Nat.le_of_eq ((level_concat_of_lt hj).trans hdepth).symm

/-- The operation at the place writes the value to an open scope up to the given level. -/
def WritesUpTo (history : List ScopeOp) (bound : Nat) (name : String) (v : Value) (i : Nat) :
    Prop :=
  Writes history name v i ∧ level history i ≤ bound

/-- The value is that of the last write to open scopes up to the given level. -/
def LastUpTo (history : List ScopeOp) (bound : Nat) (name : String) (v : Value) : Prop :=
  ∃ i, WritesUpTo history bound name v i ∧ ∀ j w, WritesUpTo history bound name w j → j ≤ i

variable {bound : Nat}

theorem writesUpTo_concat_iff :
    WritesUpTo (history ++ [op]) bound name v i ↔
      WritesUpTo history (min bound (min (depthAfter history) (depthAfter (history ++ [op])))) name
          v i ∨
        (i = history.length ∧ op = .set name v ∧ depthAfter history ≤ bound) := by
  unfold WritesUpTo
  rw [writes_concat_iff]
  constructor
  · rintro ⟨⟨h, hlevel⟩ | ⟨rfl, rfl⟩, hbound⟩
    · rw [level_concat (Nat.le_of_lt h.lt_length)] at hbound
      have := h.level_le
      exact .inl ⟨h, by omega⟩
    · rw [level_concat (Nat.le_refl _), level_of_length_le (Nat.le_refl _)] at hbound
      exact .inr ⟨rfl, rfl, hbound⟩
  · rintro (⟨h, hbound⟩ | ⟨rfl, rfl, hbound⟩)
    · rw [level_concat (Nat.le_of_lt h.lt_length)]
      exact ⟨.inl ⟨h, by omega⟩, by omega⟩
    · rw [level_concat (Nat.le_refl _), level_of_length_le (Nat.le_refl _)]
      exact ⟨.inr ⟨rfl, rfl⟩, hbound⟩

/-- An operation that writes nothing that counts may still close scopes. -/
theorem lastUpTo_concat_iff {bound' : Nat}
    (hop : ∀ w, op = .set name w → bound < depthAfter history)
    (hbound : min bound (min (depthAfter history) (depthAfter (history ++ [op]))) = bound') :
    LastUpTo (history ++ [op]) bound name v ↔ LastUpTo history bound' name v := by
  have hwrites (w : Value) (j : Nat) : ¬ (j = history.length ∧ op = .set name w ∧
      depthAfter history ≤ bound) := by
    rintro ⟨-, heq, hle⟩
    exact Nat.not_lt.2 hle (hop w heq)
  simp only [LastUpTo, writesUpTo_concat_iff, hwrites, or_false, hbound]

theorem lastUpTo_concat_set {w : Value} (hbound : depthAfter history ≤ bound) :
    LastUpTo (history ++ [.set name w]) bound name v ↔ w = v := by
  simp only [LastUpTo, writesUpTo_concat_iff]
  constructor
  · rintro ⟨i, hi | ⟨-, heq, -⟩, hlast⟩
    · have := hlast history.length w (.inr ⟨rfl, rfl, hbound⟩)
      exact absurd hi.1.lt_length (Nat.not_lt.2 this)
    · simpa using heq
  · rintro rfl
    refine ⟨history.length, .inr ⟨rfl, rfl, hbound⟩, fun j u h => ?_⟩
    rcases h with h | ⟨rfl, -⟩
    · exact Nat.le_of_lt h.1.lt_length
    · exact Nat.le_refl _

/-! ## Look-ups -/

theorem pop_of_depth_eq_one {s : Scopes} (h : s.depth = 1) : s.pop = s := by
  obtain ⟨inner, root⟩ := s
  obtain rfl : inner = [] := by simpa [Scopes.depth] using h
  rfl

/-- Surplus pops change nothing. -/
theorem run_pops_of_depth_eq_one {s : Scopes} (h : s.depth = 1) (n : Nat) :
    s.run (List.replicate n .pop) = s := by
  induction n with
  | zero => rfl
  | succ n ih =>
    change s.pop.run (List.replicate n .pop) = s
    rw [pop_of_depth_eq_one h, ih]

theorem pop_set {s : Scopes} (h : s.depth ≠ 1) (name : String) (v : Value) :
    (s.set name v).pop = s.pop := by
  obtain ⟨inner, root⟩ := s
  rcases inner with _ | ⟨top, rest⟩
  · exact absurd rfl h
  · rfl

theorem after_concat (history : List ScopeOp) (op : ScopeOp) :
    after (history ++ [op]) = (after history).apply op :=
  run_append _ history [op]

/-- Dropping more scopes shows the last write up to the level that is left. The induction takes away
the last operation of the history, which may have opened a scope that is dropped. -/
theorem get?_run_pops_eq_some_iff (history : List ScopeOp) (n : Nat) :
    ((after history).run (List.replicate n .pop)).get? name = some v ↔
      LastUpTo history (max 1 (depthAfter history - n)) name v := by
  induction history using List.reverseRecOn generalizing n v with
  | nil =>
    have hnone : ((after []).run (List.replicate n .pop)).get? name = none := by
      rw [run_pops_of_depth_eq_one rfl]
      rfl
    rw [hnone]
    simp only [reduceCtorEq, false_iff]
    rintro ⟨i, ⟨h, -⟩, -⟩
    exact Nat.not_lt_zero i h.lt_length
  | append_singleton history op ih =>
    have hone := one_le_depthAfter history
    have hdepth : depthAfter (history ++ [op]) = op.depth (depthAfter history) := depthAfter_concat
    rw [after_concat, hdepth]
    cases op with
    | push =>
      rw [ScopeOp.depth] at hdepth ⊢
      rcases n with _ | n
      · exact (ih 0).trans (lastUpTo_concat_iff (by simp) (by omega)).symm
      · exact (ih n).trans (lastUpTo_concat_iff (by simp) (by omega)).symm
    | pop =>
      rw [ScopeOp.depth] at hdepth ⊢
      exact (ih (n + 1)).trans (lastUpTo_concat_iff (by simp) (by omega)).symm
    | get other =>
      rw [ScopeOp.depth] at hdepth ⊢
      exact (ih n).trans (lastUpTo_concat_iff (by simp) (by omega)).symm
    | set other w =>
      rw [ScopeOp.depth] at hdepth ⊢
      by_cases hkept : n = 0 ∨ depthAfter history = 1
      · -- The scope that was written to is still there.
        have hrun : ((after history).set other w).run (List.replicate n .pop) =
            (after history).set other w := by
          rcases hkept with rfl | hroot
          · rfl
          · exact run_pops_of_depth_eq_one (by rw [depth_set, depth_after, hroot]) n
        rw [apply, hrun, get?_set]
        split
        · rename_i heq
          rw [heq, lastUpTo_concat_set (by omega), Option.some.injEq]
        · rename_i hne
          refine (ih 0).trans (lastUpTo_concat_iff (fun u heq => ?_) (by omega)).symm
          exact absurd (by cases heq; rfl) hne
      · obtain ⟨hn, hroot⟩ := not_or.1 hkept
        obtain ⟨n, rfl⟩ := Nat.exists_eq_succ_of_ne_zero hn
        have hrun : ((after history).set other w).run (List.replicate (n + 1) .pop) =
            (after history).run (List.replicate (n + 1) .pop) := by
          change ((after history).set other w).pop.run _ = (after history).pop.run _
          rw [pop_set (by rwa [depth_after])]
        rw [apply, hrun]
        exact (ih (n + 1)).trans (lastUpTo_concat_iff (fun _ _ => by omega) (by omega)).symm

/-- Of two writes to open scopes, the later one is not further out. -/
theorem Writes.le_iff {j : Nat} {w : Value} (hi : Writes history name v i)
    (hj : Writes history name w j) :
    j ≤ i ↔ level history j < level history i ∨ (level history j = level history i ∧ j ≤ i) := by
  constructor
  · intro hle
    exact (Nat.lt_or_eq_of_le (hj.stays_open i hle)).imp_right fun heq => ⟨heq, hle⟩
  · rintro (hlt | ⟨-, hle⟩)
    · by_contra hgt
      exact Nat.not_le.2 hlt (hi.stays_open j (Nat.le_of_not_le hgt))
    · exact hle

theorem get?_after_eq_some_iff (history : List ScopeOp) :
    (after history).get? name = some v ↔ Shows history name v := by
  have hbound : max 1 (depthAfter history - 0) = depthAfter history :=
    Nat.max_eq_right (one_le_depthAfter history)
  refine (get?_run_pops_eq_some_iff history 0).trans ?_
  rw [hbound]
  constructor
  · rintro ⟨i, ⟨hi, -⟩, hlast⟩
    exact ⟨i, hi, fun j w hj => (hi.le_iff hj).1 (hlast j w ⟨hj, hj.level_le⟩)⟩
  · rintro ⟨i, hi, hlast⟩
    exact ⟨i, ⟨hi, hi.level_le⟩, fun j w hj => (hi.le_iff hj.1).2 (hlast j w hj.1)⟩

/-- Where something was written to an open scope, something is shown. -/
theorem Writes.exists_shows {v : Value} {i : Nat} (h : Writes history name v i) :
    ∃ w, Shows history name w := by
  by_cases hlater : ∃ j w, i < j ∧ Writes history name w j
  · obtain ⟨j, w, hlt, hj⟩ := hlater
    have hlength := hj.lt_length
    exact hj.exists_shows
  · refine ⟨v, i, h, fun j w hj => (h.le_iff hj).1 (Nat.not_lt.1 fun hlt => ?_)⟩
    exact hlater ⟨j, w, hlt, hj⟩
termination_by history.length - i

theorem get?_after_eq_none_iff (history : List ScopeOp) :
    (after history).get? name = none ↔ ∀ v i, ¬ Writes history name v i := by
  constructor
  · intro hnone v i hi
    obtain ⟨w, hw⟩ := hi.exists_shows
    rw [← get?_after_eq_some_iff, hnone] at hw
    cases hw
  · intro hnone
    rw [Option.eq_none_iff_forall_ne_some]
    intro v hv
    obtain ⟨i, hi, -⟩ := (get?_after_eq_some_iff history).1 hv
    exact hnone v i hi

/-! ## What is enclosed by a push and its pop -/

/-- As long as the stack stays deeper than it was, dropping what is above gives it back. -/
theorem run_pops_of_above {s : Scopes} {inside : List ScopeOp}
    (h : ∀ start, start <+: inside → s.depth < (s.push.run start).depth) :
    (s.push.run inside).run (List.replicate ((s.push.run inside).depth - s.depth) .pop) = s := by
  induction inside using List.reverseRecOn with
  | nil =>
    have hone : (s.push.run []).depth - s.depth = 1 := Nat.add_sub_cancel_left s.depth 1
    rw [hone]
    rfl
  | append_singleton inside op ih =>
    have hback := ih fun start hstart => h start (hstart.trans (List.prefix_append _ _))
    have hbefore := h inside (List.prefix_append _ _)
    have hbehind := h (inside ++ [op]) List.prefix_rfl
    have hrun : s.push.run (inside ++ [op]) = (s.push.run inside).apply op :=
      run_append _ inside [op]
    rw [hrun, depth_apply] at hbehind ⊢
    generalize s.push.run inside = t at hback hbefore hbehind ⊢
    have hone : 1 ≤ s.depth := Nat.succ_pos _
    cases op with
    | push =>
      rw [ScopeOp.depth, Nat.succ_sub (Nat.le_of_lt hbefore)]
      exact hback
    | pop =>
      rw [ScopeOp.depth] at hbehind ⊢
      rw [show t.depth - s.depth = max 1 (t.depth - 1) - s.depth + 1 by omega] at hback
      exact hback
    | set name v =>
      rw [ScopeOp.depth]
      obtain ⟨n, hn⟩ : ∃ n, t.depth - s.depth = n + 1 := ⟨t.depth - s.depth - 1, by omega⟩
      rw [hn] at hback ⊢
      change (t.set name v).pop.run _ = s
      rw [pop_set (by omega)]
      exact hback
    | get name => exact hback

theorem depthAfter_push (history start : List ScopeOp) :
    depthAfter (history ++ .push :: start) = ((after history).push.run start).depth := by
  rw [← depth_after, after, run_append]
  rfl

theorem Encloses.after_eq {inside : List ScopeOp} (h : Encloses history inside) :
    after (history ++ .push :: inside ++ [.pop]) = after history := by
  have habove (start : List ScopeOp) (hstart : start <+: inside) :
      (after history).depth < ((after history).push.run start).depth := by
    rw [depth_after, ← depthAfter_push]
    exact h.above start hstart
  have hback := run_pops_of_above habove
  have hone : ((after history).push.run inside).depth - (after history).depth = 1 := by
    rw [depth_after, ← depthAfter_push, h.matching, Nat.add_sub_cancel_left]
  rw [hone] at hback
  rw [after_concat, after, run_append]
  exact hback

end

/-- After any history a look-up finds the last write in the innermost open scope that has one, and
fails if no open scope has one. The stack is as deep as the history says and never empty, surplus
pops change nothing, and neither does what a push and its pop enclose, whatever comes later. -/
theorem run_follows_history (history : List ScopeOp) :
    ((after history).depth = depthAfter history ∧ 1 ≤ (after history).depth) ∧
    (∀ (s : RenderState) (name : String), s.scopes = after history →
      (∀ v, Rendering.valueOf name s = .ok v s ↔ Shows history name v) ∧
      (Rendering.valueOf name s = .error (.undefinedVariable name) s ↔
        ∀ v i, ¬ Writes history name v i)) ∧
    (depthAfter history = 1 → ∀ n later,
      after (history ++ List.replicate n .pop ++ later) = after (history ++ later)) ∧
    ∀ inside, Encloses history inside → ∀ later,
      after (history ++ .push :: inside ++ .pop :: later) = after (history ++ later) := by
  refine ⟨⟨depth_after history, Nat.succ_pos _⟩, fun s name hs => ?_, fun hroot n later => ?_,
    fun inside hinside later => ?_⟩
  · rw [Rendering.valueOf_eq, hs]
    refine ⟨fun v => ?_, ?_⟩
    · rw [← get?_after_eq_some_iff]
      cases (after history).get? name <;> simp
    · rw [← get?_after_eq_none_iff]
      cases (after history).get? name <;> simp
  · have hpops := run_pops_of_depth_eq_one (s := after history) (by rw [depth_after, hroot]) n
    rw [after, run_append, run_append, ← after, hpops, after, after, run_append]
  · rw [List.append_cons, after, run_append, ← after, hinside.after_eq, after, after, run_append]

/-- A write over that of an outer scope, behind a surplus pop. -/
def shadowing : List ScopeOp :=
  [.pop, .set "a" (.string "outer"), .push, .set "a" (.string "inner")]

/-- Two more writes of the name, one of them in a scope of its own. -/
def enclosed : List ScopeOp :=
  [.set "a" (.bool true), .push, .set "a" (.bool false), .pop, .get "a"]

theorem shadowing_run :
    Encloses shadowing enclosed ∧
      after (shadowing ++ .push :: enclosed ++ [.pop]) = after shadowing ∧
      Shows shadowing "a" (.string "inner") ∧ (∀ v i, ¬ Writes shadowing "b" v i) ∧
      Shows (shadowing ++ [.pop, .pop]) "a" (.string "outer") := by
  have hencloses : Encloses shadowing enclosed := by
    refine ⟨fun start hstart => ?_, by decide⟩
    rw [← List.mem_inits] at hstart
    revert start
    decide
  obtain ⟨-, hinner, -, hinside⟩ := run_follows_history shadowing
  obtain ⟨-, houter, -, -⟩ := run_follows_history (shadowing ++ [.pop, .pop])
  let state (history : List ScopeOp) : RenderState :=
    { scopes := after history, draws := ⟨fun _ => 0, 0⟩ }
  exact ⟨hencloses, hinside enclosed hencloses [],
    ((hinner (state shadowing) "a" rfl).1 _).1 rfl,
    (hinner (state shadowing) "b" rfl).2.1 rfl,
    ((houter (state (shadowing ++ [.pop, .pop])) "a" rfl).1 _).1 rfl⟩

end Scopes

end Template

end StubServer

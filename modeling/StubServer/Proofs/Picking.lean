import Mathlib.Data.Multiset.Defs
import StubServer.Proofs.DrawBounds
import StubServer.Template.Function.Array

/-!
# Picking some of an array

A shuffle exchanges elements, so whatever is drawn for it no element is lost or doubled
(`perm_shuffle`), and the first of the shuffled items are a part of the array. Which part is
decided by the draws, that there is one is not (`someOf_picks_part`).
-/

namespace StubServer

namespace Random

variable {α : Type}

/-! ## Shuffling -/

/-- The places that a shuffle draws: one for each element but the first, from the last on down. -/
def places : Nat → Random (List Nat)
  | 0 => return []
  | i + 1 => return (← index (i + 2)) :: (← places i)

/-- Exchanges each element but the first, from the last on down, with the one at its place. -/
def exchangeAll (items : Array α) : Nat → List Nat → Array α
  | i + 1, place :: places => exchangeAll (exchange items (i + 1) place) i places
  | _, _ => items

theorem perm_exchange (items : Array α) (i j : Nat) : (exchange items i j).Perm items := by
  unfold exchange Array.swapIfInBounds
  split
  · split
    · exact Array.swap_perm _ _
    · exact .refl _
  · exact .refl _

theorem perm_exchangeAll (items : Array α) (i : Nat) (places : List Nat) :
    (exchangeAll items i places).Perm items := by
  fun_induction exchangeAll items i places with
  | case1 items i place places ih => exact ih.trans (perm_exchange items (i + 1) place)
  | case2 => exact .refl _

/-- A shuffle depends on its draws by the places that it exchanges. -/
theorem shuffleFrom_eq (items : Array α) (i : Nat) :
    shuffleFrom items i = exchangeAll items i <$> places i := by
  induction i generalizing items with
  | zero => rfl
  | succ i ih =>
    simp only [shuffleFrom, places, ih, map_eq_pure_bind, bind_assoc, pure_bind, exchangeAll]

theorem shuffle_eq (items : List α) :
    shuffle items =
      (fun ps => (exchangeAll items.toArray (items.length - 1) ps).toList) <$>
        places (items.length - 1) := by
  simp only [shuffle, shuffleFrom_eq, map_eq_pure_bind, bind_assoc, pure_bind]

end Random

namespace Template

namespace PickFunction

/-- What is drawn for some of a number of items: how many, and the places of a shuffle. -/
def drawsFor (length : Nat) (min max : Int) : Random (Int × List Nat) := do
  let count ← Random.between min max
  return (count, ← Random.places (length - 1))

/-- The items that are picked by what was drawn. -/
def pickedBy (items : List Value) (drawn : Int × List Nat) : List Value :=
  (Random.exchangeAll items.toArray (items.length - 1) drawn.2).toList.take drawn.1.toNat

theorem draw_several (items : List Value) (min max : Int) (asText : Bool) :
    Request.draw (.several items min max asText) =
      (fun drawn => .ok (.array (if asText then (pickedBy items drawn).map fun v => .string v.text
        else pickedBy items drawn))) <$> drawsFor items.length min max := by
  simp only [Request.draw, drawsFor, Random.shuffle_eq, map_eq_pure_bind, bind_assoc, pure_bind,
    pickedBy]

theorem pickedBy_le (items : List Value) (drawn : Int × List Nat) :
    (pickedBy items drawn : Multiset Value) ≤ items := by
  have hperm := (Random.perm_exchangeAll items.toArray (items.length - 1) drawn.2).toList
  rw [Multiset.coe_le]
  exact (List.take_sublist _ _).subperm.trans hperm.subperm

theorem length_pickedBy (items : List Value) (drawn : Int × List Nat) :
    (pickedBy items drawn).length = min drawn.1.toNat items.length := by
  have hperm := (Random.perm_exchangeAll items.toArray (items.length - 1) drawn.2).toList
  rw [pickedBy, List.length_take, hperm.length_eq]

theorem mem_of_drawsFor {length : Nat} {min max : Int} {d d' : Draws} {drawn : Int × List Nat}
    (hmin : Number.minInt64 ≤ min) (hle : min ≤ max) (hmax : max ≤ Number.maxInt64)
    (h : drawsFor length min max d = some (drawn, d')) : min ≤ drawn.1 ∧ drawn.1 ≤ max := by
  obtain ⟨count, e, hcount, h⟩ := Random.bind_eq_some.1 h
  obtain ⟨places, e', -, h⟩ := Random.bind_eq_some.1 h
  obtain ⟨rfl, -⟩ := Random.pure_eq_some.1 h
  exact Random.mem_of_between hmin hle hmax hcount

section Calls

variable {args : Arguments} {items : List Value} {min max : Int}

theorem call_someOf (hitems : args.array 0 = .ok items) (hmin : args.integer 1 = .ok min)
    (hmax : args.integer 2 = .ok max) :
    someOf.call args =
      if min < 0 ∨ max < min then pure (.error (.invalidRange min max))
      else Request.draw
        (.several items min max (Text.sameName (args.stringOr 3 "false") "true")) := by
  by_cases h : min < 0 ∨ max < min
  · simp only [call, request, hitems, hmin, hmax, bind, Except.bind, if_pos h]
  · simp only [call, request, hitems, hmin, hmax, bind, Except.bind, if_neg h]
    rfl

end Calls

/-- Some of an array, as many as an interval of natural numbers says: with every draw that returns
they are a part of the array, with no item more often than there, and their number is one of the
interval or that of all items. The texts of such a part are given where texts are asked for. For
any other interval nothing is drawn. -/
theorem someOf_picks_part (args : Arguments) (items : List Value) (min max : Int)
    (hitems : args.array 0 = .ok items) (hmin : args.integer 1 = .ok min)
    (hmax : args.integer 2 = .ok max) :
    (0 ≤ min → min ≤ max → ∀ d,
      match drawsFor items.length min max d with
      | none => someOf.call args d = none
      | some (_, d') => ∃ picked : List Value,
        someOf.call args d = some (.ok (.array
          (if Text.sameName (args.stringOr 3 "false") "true" then
            picked.map fun v => .string v.text
          else picked)), d') ∧
        (picked : Multiset Value) ≤ items ∧ Min.min min.toNat items.length ≤ picked.length ∧
        picked.length ≤ Min.min max.toNat items.length) ∧
    (min < 0 ∨ max < min → ∀ d,
      someOf.call args d = some (.error (.invalidRange min max), d)) := by
  rw [call_someOf hitems hmin hmax]
  constructor
  · intro hzero hle d
    have hfits := Number.fitsInt64_iff.1 (Arguments.fitsInt64_of_integer hmin)
    have hfits' := Number.fitsInt64_iff.1 (Arguments.fitsInt64_of_integer hmax)
    rw [if_neg (by omega), draw_several, Random.map_apply]
    split
    · rename_i hdrawn
      rw [hdrawn]
      rfl
    · rename_i drawn d' hdrawn
      obtain ⟨hlow, hhigh⟩ := mem_of_drawsFor hfits.1 hle hfits'.2 hdrawn
      rw [hdrawn]
      refine ⟨pickedBy items drawn, rfl, pickedBy_le items drawn, ?_, ?_⟩ <;>
        rw [length_pickedBy] <;> omega
  · intro h d
    rw [if_pos h]
    rfl

/-- A letter occurs twice. -/
def letters : List Value := [.string "a", .string "b", .string "a"]

/-- The texts of one letter or more. -/
def textsOfMany : Arguments :=
  [.array letters, .string "1", .string "9223372036854775807", .string "TRUE"]

def reversedInterval : Arguments := [.array letters, .string "3", .string "1"]

theorem letters_someOf_picks_part :
    (drawsFor 3 1 9223372036854775807 ⟨fun _ => 0, 0⟩).isSome ∧
    (∀ d,
      match drawsFor 3 1 9223372036854775807 d with
      | none => someOf.call textsOfMany d = none
      | some (_, d') => ∃ picked : List Value,
        someOf.call textsOfMany d =
          some (.ok (.array (picked.map fun v => .string v.text)), d') ∧
        (picked : Multiset Value) ≤ letters ∧ 1 ≤ picked.length ∧ picked.length ≤ 3) ∧
    ∀ d, someOf.call reversedInterval d = some (.error (.invalidRange 3 1), d) := by
  have hone : Arguments.integer textsOfMany 1 = .ok 1 :=
    Arguments.integer_eq_ok_iff.2 ⟨_, rfl, by decide⟩
  have hfar : Arguments.integer textsOfMany 2 = .ok 9223372036854775807 :=
    Arguments.integer_eq_ok_iff.2 ⟨_, rfl, by decide⟩
  have hthree : Arguments.integer reversedInterval 1 = .ok 3 :=
    Arguments.integer_eq_ok_iff.2 ⟨_, rfl, by decide⟩
  have hone' : Arguments.integer reversedInterval 2 = .ok 1 :=
    Arguments.integer_eq_ok_iff.2 ⟨_, rfl, by decide⟩
  have htexts : Text.sameName (textsOfMany.stringOr 3 "false") "true" = true := by decide
  have hlength : letters.length = 3 := rfl
  refine ⟨by decide +kernel, fun d => ?_,
    (someOf_picks_part reversedInterval letters _ _ rfl hthree hone').2 (by decide)⟩
  have hpicks := (someOf_picks_part textsOfMany letters _ _ rfl hone hfar).1 (by decide)
    (by decide) d
  rw [hlength, htexts] at hpicks
  split at hpicks
  · exact hpicks
  · obtain ⟨picked, hcall, hpart, hlow, hhigh⟩ := hpicks
    exact ⟨picked, hcall, hpart, by omega, by omega⟩

end PickFunction

end Template

end StubServer

import Mathlib.Tactic.SplitIfs
import StubServer.Fake.Dates
import StubServer.Proofs.DrawBounds

/-!
# Dates within a window

The instants that can be represented are those of an interval, so where the far end of a window can
be reached from an instant, so can every second in between (`CanShift.of_between`). A date that is
drawn from a window therefore fails or succeeds whatever is drawn, and it lies in the window
(`dates_within_window`).
-/

namespace StubServer

namespace Time

/-- The first second of the first day that can be represented. -/
def minSecond : Int := minDay * 86400

/-- The last second of the last day that can be represented. -/
def maxSecond : Int := maxDay * 86400 + 86399

namespace Instant

/-- The instant is a second of a day that can be represented. -/
structure Representable (t : Instant) : Prop where
  day_ge : minDay ≤ t.day
  day_le : t.day ≤ maxDay
  second_lt : t.second < 86400

/-- The nanoseconds since 1970 began, leap seconds not counted. -/
def toNanos (t : Instant) : Int :=
  t.toSeconds * 1000000000 + t.nano

/-- The seconds are a duration, and so far from the instant there is one that can be
represented. -/
structure CanShift (t : Instant) (seconds : Int) : Prop where
  duration : -maxShift ≤ seconds ∧ seconds ≤ maxShift
  target : minSecond ≤ t.toSeconds + seconds ∧ t.toSeconds + seconds ≤ maxSecond

/-! ## Shifts -/

theorem Representable.canShift_zero {t : Instant} (h : t.Representable) : t.CanShift 0 := by
  obtain ⟨hge, hle, hsecond⟩ := h
  refine ⟨by decide, ?_⟩
  unfold toSeconds minSecond maxSecond
  omega

/-- What can be reached is an interval. -/
theorem CanShift.of_between {t : Instant} {low high n : Int} (hlow : t.CanShift low)
    (hhigh : t.CanShift high) (h : low ≤ n ∧ n ≤ high) : t.CanShift n := by
  obtain ⟨hduration, htarget⟩ := hlow
  obtain ⟨hduration', htarget'⟩ := hhigh
  constructor <;> omega

theorem ofSeconds?_eq_some {seconds : Int} {nano : Nat} {t : Instant}
    (h : ofSeconds? seconds nano = some t) :
    t.Representable ∧ t.toSeconds = seconds ∧ t.nano = nano := by
  simp only [ofSeconds?, Option.ite_none_right_eq_some, Option.some.injEq] at h
  obtain ⟨⟨hge, hle⟩, rfl⟩ := h
  refine ⟨⟨hge, hle, ?_⟩, ?_, rfl⟩
  · dsimp only
    omega
  · unfold toSeconds
    dsimp only
    omega

theorem exists_ofSeconds? {seconds : Int} (h : minSecond ≤ seconds ∧ seconds ≤ maxSecond)
    (nano : Nat) : ∃ t, ofSeconds? seconds nano = some t := by
  unfold minSecond maxSecond at h
  unfold ofSeconds?
  rw [if_pos (by omega)]
  exact ⟨_, rfl⟩

theorem shift?_eq_some {t t' : Instant} {n : Int} (ht : t.inLeapSecond = false)
    (h : t.shift? n = some t') :
    t.CanShift n ∧ t'.Representable ∧ t'.toNanos = t.toNanos + n * 1000000000 := by
  simp only [shift?, ht] at h
  split at h
  · cases h
  · rename_i hduration
    obtain ⟨hrepresentable, hseconds, hnano⟩ := ofSeconds?_eq_some h
    refine ⟨⟨by omega, ?_⟩, hrepresentable, ?_⟩
    · obtain ⟨hge, hle, hsecond⟩ := hrepresentable
      rw [toSeconds] at hseconds
      unfold minSecond maxSecond
      omega
    · rw [toNanos, toNanos, hseconds, hnano]
      omega

theorem exists_shift?_iff {t : Instant} {n : Int} (ht : t.inLeapSecond = false) :
    (∃ t', t.shift? n = some t') ↔ t.CanShift n := by
  constructor
  · rintro ⟨t', ht'⟩
    exact (shift?_eq_some ht ht').1
  · rintro ⟨hduration, htarget⟩
    simp only [shift?, ht]
    rw [if_neg (by omega)]
    exact exists_ofSeconds? htarget _

/-! ## Spans -/

theorem lt_of_not_inLeapSecond {t : Instant} (h : t.inLeapSecond = false) :
    t.nano < 1000000000 := by
  simpa [inLeapSecond] using h

theorem le_iff_toNanos_le {a b : Instant} (ha : a.Representable) (hb : b.Representable)
    (hna : a.inLeapSecond = false) (hnb : b.inLeapSecond = false) :
    a.le b = true ↔ a.toNanos ≤ b.toNanos := by
  have hsecond := ha.second_lt
  have hsecond' := hb.second_lt
  have hnano := lt_of_not_inLeapSecond hna
  have hnano' := lt_of_not_inLeapSecond hnb
  simp only [le, Bool.or_eq_true, Bool.and_eq_true, decide_eq_true_eq, beq_iff_eq, toNanos,
    toSeconds]
  omega

theorem secondsTo_eq {a b : Instant} (hna : a.inLeapSecond = false) (hnb : b.inLeapSecond = false)
    (h : a.toNanos ≤ b.toNanos) : a.secondsTo b = (b.toNanos - a.toNanos) / 1000000000 := by
  have hspan : a.secondsTo b = (b.toNanos - a.toNanos).tdiv 1000000000 := by
    simp only [secondsTo, hna, hnb, Bool.and_false, Bool.false_eq_true, if_false, toNanos]
    congr 1
    omega
  rw [hspan, Int.tdiv_eq_ediv_of_nonneg (by omega)]

/-- The whole seconds of a span do not lead beyond its end. -/
theorem secondsTo_spec {a b : Instant} (hna : a.inLeapSecond = false)
    (hnb : b.inLeapSecond = false) (h : a.toNanos ≤ b.toNanos) :
    0 ≤ a.secondsTo b ∧ a.toNanos + a.secondsTo b * 1000000000 ≤ b.toNanos := by
  rw [secondsTo_eq hna hnb h]
  omega

theorem canShift_secondsTo {a b : Instant} (ha : a.Representable) (hb : b.Representable)
    (hna : a.inLeapSecond = false) (hnb : b.inLeapSecond = false) (h : a.toNanos ≤ b.toNanos) :
    a.CanShift (a.secondsTo b) := by
  have hnano := lt_of_not_inLeapSecond hna
  have hnano' := lt_of_not_inLeapSecond hnb
  obtain ⟨hspan, hle⟩ := secondsTo_spec hna hnb h
  obtain ⟨hday, -, hsecond⟩ := ha
  obtain ⟨-, hday', hsecond'⟩ := hb
  have hmin : minDay = -96465292 := rfl
  have hmax : maxDay = 95026236 := rfl
  have hshift : maxShift = 9223372036854775 := rfl
  rw [toNanos, toNanos, toSeconds, toSeconds] at hle
  constructor
  · omega
  · unfold minSecond maxSecond toSeconds
    omega

end Instant

/-! ## Instants that are read -/

theorem Date.toDays_of_isValid {d : Date} (h : d.isValid = true) :
    minDay ≤ d.toDays ∧ d.toDays ≤ maxDay := by
  have hmin : minDay = -96465292 := rfl
  have hmax : maxDay = 95026236 := rfl
  have hfirst : minYear = -262143 := rfl
  have hlast : maxYear = 262142 := rfl
  have hlength : monthLength d.year d.month ≤ 31 := by
    unfold monthLength
    split_ifs <;> omega
  simp only [Date.isValid, Bool.and_eq_true, decide_eq_true_eq] at h
  obtain ⟨⟨⟨⟨⟨hyear, hyear'⟩, hmonth⟩, hmonth'⟩, hday⟩, hday'⟩ := h
  unfold Date.toDays
  split_ifs <;> dsimp only <;> omega

theorem Fields.representable {f : Fields} {t : Instant} (h : f.toInstant? = some t) :
    t.Representable := by
  simp only [Fields.toInstant?, Option.ite_none_right_eq_some, Bool.and_eq_true,
    decide_eq_true_eq, Option.some.injEq] at h
  obtain ⟨⟨⟨⟨hdate, hhour⟩, hminute⟩, -⟩, rfl⟩ := h
  obtain ⟨hge, hle⟩ := Date.toDays_of_isValid hdate
  refine ⟨hge, hle, ?_⟩
  dsimp only
  omega

theorem Instant.representable_of_read? {cs : List Char} {t : Instant}
    (h : Instant.read? cs = some t) : t.Representable := by
  simp only [Instant.read?, Option.orElse_eq_orElse, Option.orElse_eq_or, Option.or_eq_some_iff,
    readStrict?, readLoose?, Option.bind_eq_some_iff] at h
  rcases h with ⟨⟨f, minutes⟩, -, h⟩ | ⟨-, ⟨f, -, h⟩ | ⟨-, f, -, h⟩⟩
  · obtain ⟨own, -, h⟩ := Option.bind_eq_some_iff.1 h
    exact (ofSeconds?_eq_some h).1
  · exact Fields.representable h
  · exact Fields.representable h

end Time

namespace Fake

open Template Time

theorem representable_of_date? {args : Arguments} {place : Nat} {t : Instant}
    (h : date? args place = some t) : t.Representable := by
  obtain ⟨s, -, h⟩ := Option.bind_eq_some_iff.1 h
  exact Instant.representable_of_read? h

/-! ## What is drawn -/

/-- The far end of a window of an amount of units, at least one of them, in seconds. -/
def farEnd (amount unit : Int) : Int :=
  max amount 1 * unit

/-- The far end of the window is no integer of 64 bits, no duration, or not an instant that can be
represented. -/
def OutOfReach (t : Instant) (amount unit : Int) (d : Direction) : Prop :=
  Number.fitsInt64 (farEnd amount unit) = false ∨ Instant.maxShift < farEnd amount unit ∨
    t.toSeconds + d.signed (farEnd amount unit) < minSecond ∨
    maxSecond < t.toSeconds + d.signed (farEnd amount unit)

instance (t : Instant) (amount unit : Int) (d : Direction) :
    Decidable (OutOfReach t amount unit d) :=
  inferInstanceAs (Decidable (_ ∨ _ ∨ _ ∨ _))

/-- The draw gives an instant with the property whatever number of the interval is drawn for it,
and draws nothing else. -/
def Succeeds (draw : Random (Option Instant)) (low high : Int) (p : Instant → Prop) : Prop :=
  ∀ d, match Random.between low high d with
    | none => draw d = none
    | some (_, rest) => ∃ t, draw d = some (some t, rest) ∧ p t

/-- The distance from `t` to `t'` in the direction is within the bounds, in seconds. -/
def Within (t t' : Instant) (d : Direction) (least most : Int) : Prop :=
  least * 1000000000 ≤ d.signed (t'.toNanos - t.toNanos) ∧
    d.signed (t'.toNanos - t.toNanos) ≤ most * 1000000000

theorem signed_mem {d : Direction} {low high n : Int} (h : low ≤ n ∧ n ≤ high) :
    (d.signed low ≤ d.signed n ∧ d.signed n ≤ d.signed high) ∨
      (d.signed high ≤ d.signed n ∧ d.signed n ≤ d.signed low) := by
  cases d <;> simp only [Direction.signed] <;> omega

/-- An instant that is moved by a number drawn from an interval, both ends of which can be
reached. -/
theorem succeeds_shift? {t : Instant} {d : Direction} {low high : Int}
    (ht : t.inLeapSecond = false) (hlow : Number.minInt64 ≤ low) (hle : low ≤ high)
    (hhigh : high ≤ Number.maxInt64) (hfirst : t.CanShift (d.signed low))
    (hlast : t.CanShift (d.signed high)) :
    Succeeds (do return t.shift? (d.signed (← Random.between low high))) low high
      fun t' => t'.Representable ∧ Within t t' d low high := by
  intro draws
  split
  · rename_i hnone
    change (Random.between low high draws).bind _ = none
    rw [hnone, Option.bind_none]
  · rename_i n rest hdrawn
    have hn := Random.mem_of_between hlow hle hhigh hdrawn
    have hcan : t.CanShift (d.signed n) := by
      rcases signed_mem (d := d) hn with h | h
      · exact hfirst.of_between hlast h
      · exact hlast.of_between hfirst h
    obtain ⟨t', ht'⟩ := (Instant.exists_shift?_iff ht).2 hcan
    obtain ⟨-, hrepresentable, hnanos⟩ := Instant.shift?_eq_some ht ht'
    refine ⟨t', Random.bind_eq_some.2 ⟨n, rest, hdrawn, Random.pure_eq_some.2 ⟨by rw [ht'], rfl⟩⟩,
      hrepresentable, ?_⟩
    unfold Within
    rw [hnanos]
    cases d <;> simp only [Direction.signed] <;> omega

theorem le_farEnd {amount unit : Int} (hunit : 0 ≤ unit) : unit ≤ farEnd amount unit := by
  have h := Int.mul_le_mul_of_nonneg_right (Int.le_max_right amount 1) hunit
  rwa [Int.one_mul] at h

theorem not_outOfReach_iff {t : Instant} {amount unit : Int} {d : Direction} (hunit : 0 ≤ unit) :
    ¬OutOfReach t amount unit d ↔ Number.fitsInt64 (farEnd amount unit) = true ∧
      t.CanShift (d.signed (farEnd amount unit)) := by
  have hfar : unit ≤ farEnd amount unit := le_farEnd hunit
  have hshift : Instant.maxShift = 9223372036854775 := rfl
  simp only [OutOfReach, not_or, Bool.not_eq_false, Int.not_lt]
  refine and_congr_right fun _ => ⟨fun h => ⟨?_, h.2⟩, fun h => ⟨?_, h.target⟩⟩
  · cases d <;> simp only [Direction.signed] <;> omega
  · have hduration := h.duration
    cases d <;> simp only [Direction.signed] at hduration <;> omega

theorem shifted_eq (t : Instant) (amount unit least : Int) (d : Direction) :
    shifted t amount unit least d =
      if Number.fitsInt64 (farEnd amount unit) ∧ (t.shift? (d.signed (farEnd amount unit))).isSome
      then do return t.shift? (d.signed (← Random.between least (farEnd amount unit)))
      else pure none := by
  have hreach : reach? amount unit =
      if Number.fitsInt64 (farEnd amount unit) then some (farEnd amount unit) else none := by
    rfl
  rw [shifted, hreach]
  by_cases hfits : Number.fitsInt64 (farEnd amount unit) = true
  · simp only [hfits, if_true, true_and]
    rcases hend : t.shift? (d.signed (farEnd amount unit)) with _ | t' <;> simp
  · simp [hfits]

/-- Whether there is such a date does not depend on what is drawn. -/
theorem shifted_fails_or_succeeds {t : Instant} {amount unit least : Int} {d : Direction}
    (hrepresentable : t.Representable) (ht : t.inLeapSecond = false) (hleast : 0 ≤ least)
    (hunit : least ≤ unit) :
    (OutOfReach t amount unit d → ∀ draws, shifted t amount unit least d draws =
      some (none, draws)) ∧
    (¬OutOfReach t amount unit d →
      Succeeds (shifted t amount unit least d) least (farEnd amount unit)
        fun t' => t'.Representable ∧ Within t t' d least (farEnd amount unit)) := by
  have hpositive : 0 ≤ unit := Int.le_trans hleast hunit
  have hfar : unit ≤ farEnd amount unit := le_farEnd hpositive
  have hreach : ¬OutOfReach t amount unit d ↔ Number.fitsInt64 (farEnd amount unit) = true ∧
      t.CanShift (d.signed (farEnd amount unit)) := not_outOfReach_iff hpositive
  have htested : (Number.fitsInt64 (farEnd amount unit) = true ∧
      (t.shift? (d.signed (farEnd amount unit))).isSome = true) ↔ ¬OutOfReach t amount unit d := by
    rw [hreach, Option.isSome_iff_exists, Instant.exists_shift?_iff ht]
  rw [shifted_eq]
  refine ⟨fun h draws => ?_, fun h => ?_⟩
  · rw [if_neg (mt htested.1 (not_not_intro h))]
    rfl
  obtain ⟨hfits, hend⟩ := hreach.1 h
  rw [if_pos (htested.2 h)]
  rw [Number.fitsInt64_iff] at hfits
  have hmin : Number.minInt64 ≤ 0 := by decide
  -- The near end of the window lies between the instant and the far end.
  have hnear : t.CanShift (d.signed least) := by
    have hzero := hrepresentable.canShift_zero
    cases d <;> simp only [Direction.signed] at hend ⊢
    · exact hend.of_between hzero (by omega)
    · exact hzero.of_between hend (by omega)
  exact succeeds_shift? ht (by omega) (by omega) hfits.2 hnear hend

theorem between_eq {now a b : Instant} {args : Arguments} (ha : date? args 0 = some a)
    (hb : date? args 1 = some b) :
    between now args = if a.le b then
      do return a.shift? (← Random.between 0 (a.secondsTo b))
      else do return b.shift? (← Random.between 0 (b.secondsTo a)) := by
  simp only [between, interval?, ha, hb]
  split <;> rfl

/-- A date between two dates, the first of them not later than the second. -/
theorem succeeds_between {a b : Instant} (ha : a.Representable) (hb : b.Representable)
    (hna : a.inLeapSecond = false) (hnb : b.inLeapSecond = false) (h : a.toNanos ≤ b.toNanos) :
    Succeeds (do return a.shift? (← Random.between 0 (a.secondsTo b))) 0 (a.secondsTo b)
      fun t => a.toNanos ≤ t.toNanos ∧ t.toNanos ≤ b.toNanos := by
  obtain ⟨hspan, hend⟩ := Instant.secondsTo_spec hna hnb h
  have hcan := Instant.canShift_secondsTo ha hb hna hnb h
  have hmax : a.secondsTo b ≤ Number.maxInt64 := by
    have hshift : Instant.maxShift ≤ Number.maxInt64 := by decide
    exact Int.le_trans hcan.duration.2 hshift
  have hdrawn := succeeds_shift? (d := .forth) hna (by decide) hspan hmax ha.canShift_zero hcan
  intro draws
  have hdrawn := hdrawn draws
  split
  · rename_i hnone
    rwa [hnone] at hdrawn
  · rename_i n rest hn
    rw [hn] at hdrawn
    obtain ⟨t, ht, -, hwithin⟩ := hdrawn
    simp only [Within, Direction.signed] at hwithin
    exact ⟨t, ht, by omega⟩

/-- A date drawn up to an amount of years or days away from a date either fails for every stream of
random words, exactly when the far end of the window is out of reach, or succeeds for every one,
within the window. A date drawn between two given dates, in either order, succeeds and lies between
them. -/
theorem dates_within_window :
    (∀ (t : Instant) (amount unit least : Int) (d : Direction), t.Representable →
      t.inLeapSecond = false →
      (unit, least) = (secondsPerYear, 1) ∨ (unit, least) = (secondsPerDay, 0) →
        (OutOfReach t amount unit d → ∀ draws, shifted t amount unit least d draws =
          some (none, draws)) ∧
        (¬OutOfReach t amount unit d →
          Succeeds (shifted t amount unit least d) least (farEnd amount unit)
            fun t' => t'.Representable ∧ Within t t' d least (farEnd amount unit))) ∧
    ∀ (now a b : Instant) (args : Arguments), date? args 0 = some a → date? args 1 = some b →
      a.inLeapSecond = false → b.inLeapSecond = false →
        Succeeds (between now args) 0
          ((max a.toNanos b.toNanos - min a.toNanos b.toNanos) / 1000000000)
          fun t => min a.toNanos b.toNanos ≤ t.toNanos ∧ t.toNanos ≤ max a.toNanos b.toNanos := by
  constructor
  · intro t amount unit least d hrepresentable ht hwindow
    have hbounds : 0 ≤ least ∧ least ≤ unit := by
      rcases hwindow with h | h <;> obtain ⟨rfl, rfl⟩ := Prod.mk.inj h <;> decide
    exact shifted_fails_or_succeeds hrepresentable ht hbounds.1 hbounds.2
  · intro now a b args hdate hdate' hna hnb
    have ha := representable_of_date? hdate
    have hb := representable_of_date? hdate'
    have horder := Instant.le_iff_toNanos_le ha hb hna hnb
    rw [between_eq hdate hdate']
    split
    · rename_i hle
      have hnanos := horder.1 hle
      rw [Int.min_eq_left hnanos, Int.max_eq_right hnanos, ← Instant.secondsTo_eq hna hnb hnanos]
      exact succeeds_between ha hb hna hnb hnanos
    · rename_i hgt
      have hnanos : b.toNanos ≤ a.toNanos := by
        have hnot := mt horder.2 hgt
        omega
      rw [Int.min_eq_right hnanos, Int.max_eq_left hnanos, ← Instant.secondsTo_eq hnb hna hnanos]
      exact succeeds_between hb ha hnb hna hnanos

/-- Noon of the first day of 2024. -/
def newYear : Instant := ⟨19723, 43200, 0⟩

/-- A day, and a time before it at an offset. -/
def reversed : Arguments := [.string " 2024-2-29 ", .string "2023-12-31T23:30:00.5-01:00"]

theorem newYear_dates_within_window :
    (∀ draws, shifted newYear 400000 secondsPerYear 1 .forth draws = some (none, draws)) ∧
      Succeeds (shifted newYear 2 secondsPerDay 0 .back) 0 172800
        (fun t => t.Representable ∧ Within newYear t .back 0 172800) ∧
      Succeeds (between newYear reversed) 0 5095799 fun t =>
        1704069000500000000 ≤ t.toNanos ∧ t.toNanos ≤ 1709164800000000000 := by
  have hday : date? reversed 0 = some ⟨19782, 0, 0⟩ := by decide +kernel
  have htime : date? reversed 1 = some ⟨19723, 1800, 500000000⟩ := by decide +kernel
  have hrepresentable : newYear.Representable := ⟨by decide, by decide, by decide⟩
  obtain ⟨hshifted, hbetween⟩ := dates_within_window
  exact ⟨(hshifted newYear 400000 _ _ .forth hrepresentable rfl (.inl rfl)).1 (by decide),
    (hshifted newYear 2 _ _ .back hrepresentable rfl (.inr rfl)).2 (by decide),
    hbetween newYear _ _ reversed hday htime rfl rfl⟩

end Fake

end StubServer

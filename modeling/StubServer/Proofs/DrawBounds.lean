import StubServer.Draws

/-!
# Draws stay in their range

A draw from a range gives a member of it, whatever words there are (`mem_of_between`).
-/

namespace StubServer

namespace Random

variable {α β : Type}

theorem bind_eq_some {m : Random α} {f : α → Random β} {d d' : Draws} {b : β} :
    (m >>= f) d = some (b, d') ↔ ∃ a e, m d = some (a, e) ∧ f a e = some (b, d') := by
  change (m d).bind (fun p => f p.1 p.2) = _ ↔ _
  simp [Option.bind_eq_some_iff]

theorem pure_eq_some {a b : α} {d d' : Draws} :
    (pure a : Random α) d = some (b, d') ↔ a = b ∧ d = d' := by
  change some (a, d) = _ ↔ _
  simp

theorem map_apply (f : α → β) (m : Random α) (d : Draws) :
    (f <$> m) d = (m d).map fun p => (f p.1, p.2) := by
  change (m d).bind _ = _
  cases m d <;> rfl

theorem lt_of_word64 {d d' : Draws} {n : Nat} (h : word64 d = some (n, d')) :
    n < Number.size64 := by
  cases h
  exact UInt64.toNat_lt _

theorem lt_of_word32 {d d' : Draws} {n : Nat} (h : word32 d = some (n, d')) :
    n < Number.size32 := by
  cases h
  exact UInt32.toNat_lt _

/-- The high part of a word times the range is below the range. -/
theorem lt_of_accept {draw : Random Nat} {base range zone : Nat}
    (hdraw : ∀ d n d', draw d = some (n, d') → n < base) (hrange : 0 < range) :
    ∀ {fuel : Nat} {d d' : Draws} {n : Nat},
      accept draw base range zone fuel d = some (n, d') → n < range
  | fuel + 1, d, d', n, h => by
    rw [accept, bind_eq_some] at h
    obtain ⟨v, e, hv, h⟩ := h
    split at h
    · obtain ⟨rfl, -⟩ := pure_eq_some.1 h
      exact Nat.div_lt_of_lt_mul (Nat.mul_lt_mul_of_pos_right (hdraw d v e hv) hrange)
    · exact lt_of_accept hdraw hrange h

theorem lt_of_below64 {range n : Nat} {d d' : Draws} (hrange : 0 < range)
    (h : below64 range d = some (n, d')) : n < range :=
  lt_of_accept (fun _ _ _ => lt_of_word64) hrange h

theorem lt_of_below32 {range n : Nat} {d d' : Draws} (hrange : 0 < range)
    (h : below32 range d = some (n, d')) : n < range :=
  lt_of_accept (fun _ _ _ => lt_of_word32) hrange h

/-- A draw from an interval of 64-bit integers is a member of it. -/
theorem mem_of_between {low high n : Int} {d d' : Draws} (hlow : Number.minInt64 ≤ low)
    (hle : low ≤ high) (hhigh : high ≤ Number.maxInt64)
    (h : between low high d = some (n, d')) : low ≤ n ∧ n ≤ high := by
  have hmin : Number.minInt64 = -9223372036854775808 := rfl
  have hmax : Number.maxInt64 = 9223372036854775807 := rfl
  have hsize : Number.size64 = 18446744073709551616 := rfl
  unfold between at h
  split at h
  · -- The interval is all of them.
    obtain ⟨v, e, -, h⟩ := bind_eq_some.1 h
    obtain ⟨rfl, -⟩ := pure_eq_some.1 h
    have hbmod := Int.le_bmod (x := v) (m := Number.size64) (by decide)
    have hbmod' := Int.bmod_lt (x := v) (m := Number.size64) (by decide)
    omega
  · obtain ⟨v, e, hv, h⟩ := bind_eq_some.1 h
    obtain ⟨rfl, -⟩ := pure_eq_some.1 h
    have hlt : v < (high - low + 1).toNat := lt_of_below64 (by omega) hv
    omega

end Random

end StubServer

/-
Rounding twice.

Whether a number becomes a word up to `v` or one behind it is decided at the
number half-way between `v` and the next word (`IsNearest.le_iff`). A finer
format has all these numbers (`IsFiner.exists_value_eq`), so rounding to it
first moves nothing past one of them; it can only move a number onto one,
where the even word wins instead of the nearer one (`IsFiner.eq_round_twice_iff`).
-/
import Mathlib.Tactic.Ring
import ParamQuery.Proofs.Number.Nearest

namespace ParamQuery.Number.BinaryFormat

variable {f g : BinaryFormat} {u v w w' : Nat} {x x' : ℚ}

/-- The number half-way between those of a word and of the next one. -/
def halfway (f : BinaryFormat) (v : Nat) : ℚ := (f.value v + f.value (v + 1)) / 2

theorem value_lt_succ (f : BinaryFormat) (v : Nat) : f.value v < f.value (v + 1) :=
  f.value_strictMono (Nat.lt_succ_self v)

/-! ## Nearest words -/

namespace IsNearest

/-- What is not above a number of the format is not rounded to above it. -/
theorem value_le (h : f.IsNearest w x) (hv : v ≤ f.infinity) (hx : x ≤ f.value v) : f.value w ≤ f.value v := by
  by_contra hgt
  have hnearest := h.nearest v hv
  rw [abs_of_nonneg (by linarith), abs_of_nonneg (by linarith)] at hnearest
  linarith

/-- What is not below a number of the format is not rounded to below it. -/
theorem le_value (h : f.IsNearest w x) (hv : v ≤ f.infinity) (hx : f.value v ≤ x) : f.value v ≤ f.value w := by
  by_contra hlt
  have hnearest := h.nearest v hv
  rw [abs_of_nonpos (by linarith), abs_of_nonpos (by linarith)] at hnearest
  linarith

/-- A word up to `v` is nearest to nothing behind the half-way point. -/
theorem le_halfway (h : f.IsNearest w x) (hv : v < f.infinity) (hle : w ≤ v) :
    x ≤ f.halfway v ∧ (x = f.halfway v → v % 2 = 0) := by
  have hw := f.value_strictMono.monotone hle
  have hstep := f.value_lt_succ v
  have hnearest := h.nearest (v + 1) hv
  have hx : x < f.value (v + 1) := by
    by_contra hge
    rw [abs_of_nonpos (by linarith), abs_of_nonpos (by linarith)] at hnearest
    linarith
  rw [abs_of_nonneg (a := f.value (v + 1) - x) (by linarith), abs_le] at hnearest
  unfold halfway
  refine ⟨by linarith [hnearest.1], fun hhalf => ?_⟩
  -- The next word is as near as `v`, so `w` is `v` itself and the even one of both.
  have hsame : f.value w = f.value v := by linarith [hnearest.1]
  have heven := h.even (v + 1) hv (by
    rw [hsame, hhalf, abs_of_nonpos (by linarith), abs_of_nonneg (by linarith)]
    ring)
  rw [← f.value_strictMono.injective hsame]
  exact heven (by omega)

/-- A word behind `v` is nearest to nothing before the half-way point. -/
theorem halfway_le (h : f.IsNearest w x) (hv : v < f.infinity) (hlt : v < w) :
    f.halfway v ≤ x ∧ (x = f.halfway v → v % 2 = 1) := by
  have hw := f.value_strictMono.monotone hlt
  have hstep := f.value_lt_succ v
  have hnearest := h.nearest v (Nat.le_of_lt hv)
  have hx : f.value v < x := by
    by_contra hge
    rw [abs_of_nonneg (by linarith), abs_of_nonneg (by linarith)] at hnearest
    linarith
  rw [abs_of_nonpos (a := f.value v - x) (by linarith), abs_le] at hnearest
  unfold halfway
  refine ⟨by linarith [hnearest.2], fun hhalf => ?_⟩
  have hsame : f.value w = f.value (v + 1) := by linarith [hnearest.2]
  have heven := h.even v (Nat.le_of_lt hv) (by
    rw [hsame, hhalf, abs_of_nonneg (by linarith), abs_of_nonpos (by linarith)]
    ring)
  rw [f.value_strictMono.injective hsame] at heven
  have := heven (by omega)
  omega

/-- **The half-way point decides** whether the nearest word is one up to `v`. -/
theorem le_iff (h : f.IsNearest w x) (hv : v < f.infinity) :
    w ≤ v ↔ x < f.halfway v ∨ x = f.halfway v ∧ v % 2 = 0 := by
  constructor
  · intro hle
    obtain ⟨hhalf, heven⟩ := h.le_halfway hv hle
    rcases lt_or_eq_of_le hhalf with hlt | heq
    · exact .inl hlt
    · exact .inr ⟨heq, heven heq⟩
  · intro hbefore
    by_contra hgt
    obtain ⟨hhalf, hodd⟩ := h.halfway_le hv (Nat.lt_of_not_le hgt)
    rcases hbefore with hlt | ⟨heq, heven⟩
    · linarith
    · have := hodd heq
      omega

/-- Two nearest words are the same if they are on the same side of every half-way point. -/
theorem eq_iff (h : f.IsNearest w x) (h' : f.IsNearest w' x') :
    w = w' ↔ ∀ v < f.infinity, (w ≤ v ↔ w' ≤ v) := by
  refine ⟨fun heq v _ => by rw [heq], fun hsides => Nat.le_antisymm ?_ ?_⟩
  · by_contra hgt
    exact hgt ((hsides w' (by have := h.le_infinity; omega)).2 (Nat.le_refl w'))
  · by_contra hgt
    exact hgt ((hsides w (by have := h'.le_infinity; omega)).1 (Nat.le_refl w))

/-- There is one nearest word. -/
theorem unique (h : f.IsNearest w x) (h' : f.IsNearest w' x) : w = w' :=
  (h.eq_iff h').2 fun v hv => by rw [h.le_iff hv, h'.le_iff hv]

end IsNearest

/-! ## A finer format -/

/-- Every significand of at most one bit too many can be doubled any number of times. -/
theorem exists_units_eq {m : Nat} (hm : m ≤ 2 * f.hidden) (s : Nat) : ∃ w, f.units w = m * 2 ^ s := by
  induction s generalizing m with
  | zero =>
    exact ⟨0 * f.hidden + m, units_scaled hm (.inl rfl)⟩
  | succ s ih =>
    rcases Nat.lt_or_ge m f.hidden with hlt | hge
    · obtain ⟨w, hw⟩ := ih (m := 2 * m) (by omega)
      refine ⟨w, ?_⟩
      rw [hw, Nat.pow_succ]
      ring
    · exact ⟨(s + 1) * f.hidden + m, units_scaled hm (.inr hge)⟩

/-- Two words in a row have, together, a number of units with one bit more. -/
theorem exists_units_add_eq (f : BinaryFormat) (v : Nat) :
    ∃ m s, m ≤ 4 * f.hidden ∧ f.units v + f.units (v + 1) = m * 2 ^ s := by
  rcases word_cases f v with h | ⟨s, m, hm, rfl⟩
  · have hnext : f.units (0 * f.hidden + (v + 1)) = (v + 1) * 2 ^ 0 := units_scaled (by omega) (.inl rfl)
    rw [Nat.zero_mul, Nat.zero_add] at hnext
    exact ⟨2 * v + 1, 0, by omega, by rw [units_of_lt h, hnext]; omega⟩
  · have hword : (s + 1) * f.hidden + m + 1 = s * f.hidden + (m + f.hidden + 1) := by
      rw [Nat.succ_mul]
      omega
    refine ⟨2 * (m + f.hidden) + 1, s, by omega, ?_⟩
    rw [units_of_step hm, hword, units_scaled (by omega) (.inr (by omega))]
    ring

/-- `g` has at least one bit more than `f` everywhere, and reaches as far. -/
structure IsFiner (g f : BinaryFormat) : Prop where
  precision : 2 * f.hidden ≤ g.hidden
  scale : f.scale < g.scale
  reach : f.value f.infinity ≤ g.value g.infinity

/-- All half-way points are numbers of a finer format. -/
theorem IsFiner.exists_value_eq (hfiner : g.IsFiner f) (hv : v < f.infinity) :
    ∃ u ≤ g.infinity, g.value u = f.halfway v := by
  obtain ⟨m, s, hm, hunits⟩ := f.exists_units_add_eq v
  obtain ⟨k, hscale⟩ : ∃ k, g.scale = k + f.scale + 1 :=
    ⟨g.scale - f.scale - 1, by have := hfiner.scale; omega⟩
  obtain ⟨u, hu⟩ := exists_units_eq (f := g) (m := m) (by have := hfiner.precision; omega) (s + k)
  have hvalue : g.value u = f.halfway v := by
    have hsum : (f.units v + f.units (v + 1) : ℚ) = m * 2 ^ s := by exact_mod_cast hunits
    rw [halfway, value, value, value, hu, ← add_div, hsum, hscale]
    push_cast
    simp only [pow_add]
    field_simp
  refine ⟨u, ?_, hvalue⟩
  rw [← g.value_strictMono.le_iff_le, hvalue]
  have hlast := f.value_strictMono.monotone (Nat.succ_le_of_lt hv)
  have hstep := f.value_lt_succ v
  have hreach := hfiner.reach
  unfold halfway
  linarith

/-- **Rounding by way of a finer format** gives another word exactly if it moves the number onto a
half-way point from the side of the odd word. -/
theorem IsFiner.eq_round_twice_iff (hfiner : g.IsFiner f) (hdirect : f.IsNearest w x)
    (hfirst : g.IsNearest u x) (hsecond : f.IsNearest w' (g.value u)) :
    w = w' ↔ ∀ v < f.infinity, g.value u = f.halfway v →
      (x < f.halfway v → v % 2 = 0) ∧ (f.halfway v < x → v % 2 = 1) := by
  rw [hdirect.eq_iff hsecond]
  refine forall₂_congr fun v hv => ?_
  obtain ⟨p, hp, hpoint⟩ := hfiner.exists_value_eq hv
  rw [hdirect.le_iff hv, hsecond.le_iff hv]
  rcases lt_trichotomy (g.value u) (f.halfway v) with hlt | heq | hgt
  · -- Before the point is the number itself before it.
    have hx : x < f.halfway v := by
      by_contra hge
      have := hfirst.le_value hp (by linarith)
      linarith
    simp [hlt, hlt.ne, hx]
  · -- The even word gets the point, whichever side the number comes from.
    simp only [heq, lt_irrefl, false_or, true_and, true_implies]
    rcases lt_trichotomy x (f.halfway v) with hx | hx | hx
    · simp [hx, hx.not_gt]
    · simp [hx]
    · simp [hx, hx.not_gt, hx.ne']
  · have hx : f.halfway v < x := by
      by_contra hge
      have := hfirst.value_le hp (by linarith)
      linarith
    simp [hgt.not_gt, hgt.ne', hx.not_gt, hx.ne']

end ParamQuery.Number.BinaryFormat

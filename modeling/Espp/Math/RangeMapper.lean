import Mathlib.Algebra.Order.Field.Rat
import Mathlib.Algebra.Order.Ring.Int
import Mathlib.Algebra.Order.Field.Basic
import Mathlib.Tactic.NormNum
import Mathlib.Tactic.Linarith

/-!
# `RangeMapper`: an input range onto a centred output range

`espp::RangeMapper<T>` (`range_mapper.hpp`) once, for an ordered ring `T` whose division is a
parameter: `Int.tdiv`, which truncates toward zero, for `IntRangeMapper`, and exact division for the
rational model of the template.  `configure` is `none` where its `assert` fails, `map` is `none`
where it divides by zero.

For the rational model without `invert_input`, `map` is defined everywhere and stays within
`[output_min, output_max]`.  Truncation in `configure`, and inversion, break both.  There it is the
clamp followed by `RangeMapper.response`, a piecewise-linear response to the calibrated input, so
it is monotone and reaches `output_max` at `maximum` and `output_min` at `minimum` outside the
deadband.
-/

namespace Espp
namespace Math

/-- `RangeMapper<T>::Config`, with its member defaults. -/
structure Config (T : Type) [Zero T] [One T] where
  center : T
  deadband : T
  minimum : T
  maximum : T
  invertInput : Bool := false
  outputCenter : T := 0
  outputRange : T := 1
  deriving DecidableEq, Repr

/-- The members of `RangeMapper<T>`. -/
structure RangeMapper (T : Type) where
  center : T
  deadband : T
  minimum : T
  maximum : T
  invertInput : Bool
  posRange : T
  negRange : T
  outputCenter : T
  outputRange : T
  outputMin : T
  outputMax : T
  deriving DecidableEq, Repr

section Template

variable {T : Type} [LinearOrderedRing T] (div : T → T → T)

/-- `std::clamp(v, lo, hi)`. -/
def clamp (v lo hi : T) : T := if v < lo then lo else if hi < v then hi else v

/-- `a / b`, undefined when `b = 0`. -/
def divide (a b : T) : Option T := if b = 0 then none else some (div a b)

/-- `configure`: `none` where `assert(config.output_range != T(0))` fails. -/
def configure (config : Config T) : Option (RangeMapper T) :=
  if config.outputRange = 0 then none
  else
    some
      { center := config.center, deadband := config.deadband, minimum := config.minimum,
        maximum := config.maximum, invertInput := config.invertInput,
        outputCenter := config.outputCenter, outputRange := |config.outputRange|,
        outputMin := config.outputCenter - |config.outputRange|,
        outputMax := config.outputCenter + |config.outputRange|,
        posRange := div (config.maximum - config.center) |config.outputRange|,
        negRange := div |config.minimum - config.center| |config.outputRange| }

/-- `map`: `none` where it divides by zero. -/
def RangeMapper.map (m : RangeMapper T) (v : T) : Option T :=
  let clamped := clamp v m.minimum m.maximum
  let calibrated :=
    if m.invertInput then (if clamped ≥ 0 then m.maximum - clamped else m.minimum - clamped)
    else clamped - m.center
  if |calibrated| < m.deadband then some m.outputCenter
  else if calibrated ≥ 0 then (divide div calibrated m.posRange).map (· + m.outputCenter)
  else (divide div calibrated m.negRange).map (· + m.outputCenter)

/-! ## `configure` -/

/-- `configure` fails exactly on the `assert`. -/
theorem configure_isSome_iff (config : Config T) :
    (configure div config).isSome ↔ config.outputRange ≠ 0 := by
  unfold configure
  split_ifs <;> simpa

/-- The default `output_range` of `1` passes the `assert`. -/
theorem configure_default_isSome (center deadband minimum maximum : T) :
    (configure div { center, deadband, minimum, maximum }).isSome :=
  (configure_isSome_iff div _).mpr one_ne_zero

/-- What `configure` stores: the configuration's centre, deadband and input range, a positive output
range, the output bounds around the output centre, and the two half-range divisors. -/
theorem configure_fields {config : Config T} {m : RangeMapper T}
    (hc : configure div config = some m) :
    m.center = config.center ∧ m.deadband = config.deadband ∧ m.minimum = config.minimum ∧
      m.maximum = config.maximum ∧ m.invertInput = config.invertInput ∧ 0 < m.outputRange ∧
      m.outputMin = m.outputCenter - m.outputRange ∧
      m.outputMax = m.outputCenter + m.outputRange ∧
      m.posRange = div (m.maximum - m.center) m.outputRange ∧
      m.negRange = div |m.minimum - m.center| m.outputRange := by
  unfold configure at hc
  split_ifs at hc with h0
  cases hc
  exact ⟨rfl, rfl, rfl, rfl, rfl, abs_pos.mpr h0, rfl, rfl, rfl, rfl⟩

/-! ## `std::clamp` -/

/-- `std::clamp` stays in `[lo, hi]` when `lo ≤ hi`. -/
theorem clamp_mem {v lo hi : T} (h : lo ≤ hi) :
    lo ≤ clamp v lo hi ∧ clamp v lo hi ≤ hi := by
  unfold clamp
  split_ifs with hlo hhi
  · exact ⟨le_rfl, h⟩
  · exact ⟨h, le_rfl⟩
  · exact ⟨not_lt.mp hlo, not_lt.mp hhi⟩

/-- With `lo ≤ hi`, the code's `std::clamp` is `max lo (min v hi)`. -/
theorem clamp_eq_max_min {v lo hi : T} (h : lo ≤ hi) : clamp v lo hi = max lo (min v hi) := by
  unfold clamp
  split_ifs with hlo hhi
  · exact (max_eq_left ((min_le_left _ _).trans hlo.le)).symm
  · rw [min_eq_right hhi.le, max_eq_right h]
  · rw [min_eq_left (not_lt.mp hhi), max_eq_right (not_lt.mp hlo)]

theorem clamp_left {lo hi : T} (h : lo ≤ hi) : clamp lo lo hi = lo := by
  rw [clamp_eq_max_min h, min_eq_left h, max_self]

theorem clamp_right {lo hi : T} (h : lo ≤ hi) : clamp hi lo hi = hi := by
  rw [clamp_eq_max_min h, min_self, max_eq_right h]

/-- `std::clamp` is monotone in the value it clamps. -/
theorem clamp_mono {v w lo hi : T} (h : lo ≤ hi) (hvw : v ≤ w) :
    clamp v lo hi ≤ clamp w lo hi := by
  rw [clamp_eq_max_min h, clamp_eq_max_min h]
  exact max_le_max le_rfl (min_le_min_right hi hvw)

end Template

/-! ## The rational model -/

/-- The exact division of the rational model. -/
def ratDiv (a b : ℚ) : ℚ := a / b

/-- The rational division by a positive half-range `P / r`, moved to the output centre `c`. -/
theorem divide_ratDiv {a P r c : ℚ} (hP : 0 < P) (hr : 0 < r) :
    (divide ratDiv a (P / r)).map (· + c) = some (a * r / P + c) := by
  rw [divide, if_neg (div_pos hP hr).ne', Option.map_some', ratDiv, div_div_eq_mul_div]

/-- Scaling by `r / P` takes `[-P, P]` onto `[-r, r]`. -/
theorem abs_mul_div_le {a P r : ℚ} (ha : |a| ≤ P) (hP : 0 < P) (hr : 0 ≤ r) :
    |a * r / P| ≤ r := by
  rw [abs_div, abs_mul, abs_of_pos hP, abs_of_nonneg hr, div_le_iff₀ hP, mul_comm r]
  exact mul_le_mul_of_nonneg_right ha hr

/-- A quotient by the half-range `P / r` moved to `c` lands in `[c - r, c + r]`. -/
theorem divide_mem {a P r c : ℚ} (ha : |a| ≤ P) (hP : 0 < P) (hr : 0 < r) :
    ∃ w, (divide ratDiv a (P / r)).map (· + c) = some w ∧ c - r ≤ w ∧ w ≤ c + r := by
  have hb := abs_le.mp (abs_mul_div_le ha hP hr.le)
  exact ⟨_, divide_ratDiv hP hr, by linarith [hb.1], by linarith [hb.2]⟩

/-- Without `invert_input`, and with `minimum ≤ center < maximum`, the rational model divides by
no zero and maps every input into `[output_min, output_max]`. -/
theorem map_mem_output {config : Config ℚ} {m : RangeMapper ℚ}
    (hc : configure ratDiv config = some m) (hinv : config.invertInput = false)
    (hmin : config.minimum ≤ config.center) (hmax : config.center < config.maximum) (v : ℚ) :
    ∃ w, m.map ratDiv v = some w ∧ m.outputMin ≤ w ∧ w ≤ m.outputMax := by
  obtain ⟨hc, -, hlo, hhi, hi, hr, hbot, htop, hpos, hneg⟩ := configure_fields ratDiv hc
  rw [← hc, ← hlo] at hmin
  rw [← hc, ← hhi] at hmax
  have hcl := clamp_mem (v := v) (hmin.trans hmax.le)
  simp only [RangeMapper.map, hi, hinv, hpos, hneg, hbot, htop, Bool.false_eq_true, if_false]
  split_ifs with hdb hsign
  case pos => exact ⟨_, rfl, sub_le_self _ hr.le, le_add_of_nonneg_right hr.le⟩
  case pos =>
    exact divide_mem (by rw [abs_of_nonneg hsign]; exact sub_le_sub_right hcl.2 _)
      (sub_pos.mpr hmax) hr
  case neg =>
    have hlt : m.minimum < m.center := hcl.1.trans_lt (sub_neg.mp (not_le.mp hsign))
    refine divide_mem ?_ (abs_pos.mpr (sub_ne_zero.mpr hlt.ne)) hr
    rw [abs_of_neg (not_le.mp hsign), abs_of_neg (sub_neg.mpr hlt)]
    exact neg_le_neg (sub_le_sub_right hcl.1 _)

/-- A throttle over `[0, 1]` whose centre is its minimum, with the default output range. -/
theorem map_mem_output_throttle :
    ∃ m : RangeMapper ℚ,
      configure ratDiv ({ center := 0, deadband := 0, minimum := 0, maximum := 1 } : Config ℚ) =
        some m ∧
        (0 : ℚ) ≤ 0 ∧ (0 : ℚ) < 1 ∧
        ∀ v, ∃ w, m.map ratDiv v = some w ∧ m.outputMin ≤ w ∧ w ≤ m.outputMax :=
  ⟨_, rfl, le_rfl, one_pos,
    @map_mem_output { center := 0, deadband := 0, minimum := 0, maximum := 1 } _
      rfl rfl le_rfl one_pos⟩

/-- `IntRangeMapper` with center `0`, range `[-10, 10]` and `output_range` `100` truncates
`pos_range_` to `0` and divides by it; with range `[-3, 3]` and `output_range` `2` it maps `3` to
`3 > 2`.  With `invert_input`, center `50`, range `[0, 100]` and the default output range, even
exact division maps `0` to `2 > 1`. -/
theorem rangeMapper_leaves_output :
    (configure Int.tdiv
        ({ center := 0, deadband := 0, minimum := -10, maximum := 10, outputRange := 100 } :
          Config Int)).map (fun m => (m.posRange, m.map Int.tdiv 5)) = some (0, none) ∧
    (configure Int.tdiv
        ({ center := 0, deadband := 0, minimum := -3, maximum := 3, outputRange := 2 } :
          Config Int)).map (fun m => (m.outputMax, m.map Int.tdiv 3)) = some (2, some 3) ∧
    (configure ratDiv
        ({ center := 50, deadband := 0, minimum := 0, maximum := 100, invertInput := true } :
          Config ℚ)).map (fun m => (m.outputMax, m.map ratDiv 0)) = some (1, some 2) :=
  ⟨by decide, by decide, by norm_num [configure, RangeMapper.map, clamp, divide, ratDiv]⟩

/-! ## The response of the rational mapper

Without `invert_input` the calibrated input is `x = clamp v minimum maximum - center`, and the
rational model answers `output_center` inside the deadband, `x` scaled by
`output_range / (maximum - center)` above the centre and by `output_range / (center - minimum)`
below it.  `map_eq_response` proves that the code computes exactly this response.
-/

/-- The piecewise-linear response to a calibrated input `x`. -/
def RangeMapper.response (m : RangeMapper ℚ) (x : ℚ) : ℚ :=
  if |x| < m.deadband then m.outputCenter
  else if 0 ≤ x then x * m.outputRange / (m.maximum - m.center) + m.outputCenter
  else x * m.outputRange / (m.center - m.minimum) + m.outputCenter

/-- Without `invert_input`, and with `minimum < center < maximum`, the rational model's `map` is
defined everywhere and is the clamp followed by `response`. -/
theorem map_eq_response {config : Config ℚ} {m : RangeMapper ℚ}
    (hc : configure ratDiv config = some m) (hinv : config.invertInput = false)
    (hmin : config.minimum < config.center) (hmax : config.center < config.maximum) (v : ℚ) :
    m.map ratDiv v = some (m.response (clamp v m.minimum m.maximum - m.center)) := by
  obtain ⟨hc, -, hlo, hhi, hi, hr, -, -, hpos, hneg⟩ := configure_fields ratDiv hc
  rw [← hc, ← hlo] at hmin
  rw [← hc, ← hhi] at hmax
  simp only [RangeMapper.map, RangeMapper.response, hi, hinv, hpos, hneg, Bool.false_eq_true,
    if_false, ge_iff_le]
  split_ifs
  · rfl
  · exact divide_ratDiv (sub_pos.mpr hmax) hr
  · rw [abs_sub_comm, abs_of_pos (sub_pos.mpr hmin)]
    exact divide_ratDiv (sub_pos.mpr hmin) hr

theorem response_of_deadband (m : RangeMapper ℚ) {x : ℚ} (hdb : |x| < m.deadband) :
    m.response x = m.outputCenter := by
  rw [RangeMapper.response, if_pos hdb]

theorem response_of_nonneg (m : RangeMapper ℚ) {x : ℚ} (hx : 0 ≤ x)
    (hdb : ¬|x| < m.deadband) :
    m.response x = x * m.outputRange / (m.maximum - m.center) + m.outputCenter := by
  rw [RangeMapper.response, if_neg hdb, if_pos hx]

theorem response_of_neg (m : RangeMapper ℚ) {x : ℚ} (hx : x < 0) (hdb : ¬|x| < m.deadband) :
    m.response x = x * m.outputRange / (m.center - m.minimum) + m.outputCenter := by
  rw [RangeMapper.response, if_neg hdb, if_neg hx.not_le]

/-- Below the centre the response is at most `output_center`. -/
theorem response_le_center {m : RangeMapper ℚ} (hr : 0 ≤ m.outputRange)
    (hN : 0 < m.center - m.minimum) {x : ℚ} (hx : x < 0) : m.response x ≤ m.outputCenter := by
  by_cases hdb : |x| < m.deadband
  · exact (response_of_deadband m hdb).le
  · rw [response_of_neg m hx hdb, add_le_iff_nonpos_left]
    exact div_nonpos_of_nonpos_of_nonneg (mul_nonpos_of_nonpos_of_nonneg hx.le hr) hN.le

/-- At or above the centre the response is at least `output_center`. -/
theorem center_le_response {m : RangeMapper ℚ} (hr : 0 ≤ m.outputRange)
    (hP : 0 < m.maximum - m.center) {x : ℚ} (hx : 0 ≤ x) : m.outputCenter ≤ m.response x := by
  by_cases hdb : |x| < m.deadband
  · exact (response_of_deadband m hdb).ge
  · rw [response_of_nonneg m hx hdb, le_add_iff_nonneg_left]
    exact div_nonneg (mul_nonneg hx hr) hP.le

/-- Each half of the response is a non-decreasing line. -/
theorem half_mono {r d c x y : ℚ} (hr : 0 ≤ r) (hd : 0 < d) (hxy : x ≤ y) :
    x * r / d + c ≤ y * r / d + c :=
  add_le_add_right (div_le_div_of_nonneg_right (mul_le_mul_of_nonneg_right hxy hr) hd.le) _

/-- The response is monotone: inside one half of the input range it is constant or a
non-decreasing line, and it stays below `output_center` below the centre and above it at or above
the centre. -/
theorem response_mono {m : RangeMapper ℚ} (hr : 0 ≤ m.outputRange)
    (hP : 0 < m.maximum - m.center) (hN : 0 < m.center - m.minimum) {x y : ℚ} (hxy : x ≤ y) :
    m.response x ≤ m.response y := by
  rcases lt_or_le y 0 with hy | hy
  · -- both below the centre
    by_cases hdy : |y| < m.deadband
    · rw [response_of_deadband m hdy]
      exact response_le_center hr hN (hxy.trans_lt hy)
    · have hdx : ¬|x| < m.deadband := by
        rw [abs_of_neg hy] at hdy
        rw [abs_of_neg (hxy.trans_lt hy)]
        linarith
      rw [response_of_neg m (hxy.trans_lt hy) hdx, response_of_neg m hy hdy]
      exact half_mono hr hN hxy
  rcases lt_or_le x 0 with hx | hx
  · -- across the centre
    exact (response_le_center hr hN hx).trans (center_le_response hr hP hy)
  · -- both at or above the centre
    by_cases hdx : |x| < m.deadband
    · rw [response_of_deadband m hdx]
      exact center_le_response hr hP hy
    · have hdy : ¬|y| < m.deadband := by
        rw [abs_of_nonneg hx] at hdx
        rw [abs_of_nonneg hy]
        linarith
      rw [response_of_nonneg m hx hdx, response_of_nonneg m hy hdy]
      exact half_mono hr hP hxy

/-- At `maximum`, outside the deadband, the response is the top of the output range. -/
theorem response_maximum {m : RangeMapper ℚ} (hP : 0 < m.maximum - m.center)
    (hdb : m.deadband ≤ m.maximum - m.center) :
    m.response (m.maximum - m.center) = m.outputCenter + m.outputRange := by
  rw [response_of_nonneg m hP.le (by rw [abs_of_pos hP]; exact not_lt.mpr hdb),
    mul_div_cancel_left₀ _ hP.ne', add_comm]

/-- At `minimum`, outside the deadband, the response is the bottom of the output range. -/
theorem response_minimum {m : RangeMapper ℚ} (hN : 0 < m.center - m.minimum)
    (hdb : m.deadband ≤ m.center - m.minimum) :
    m.response (m.minimum - m.center) = m.outputCenter - m.outputRange := by
  have hneg : m.minimum - m.center < 0 := by linarith
  rw [response_of_neg m hneg (by rw [abs_of_neg hneg]; exact not_lt.mpr (by linarith)),
    ← neg_sub, neg_mul, neg_div, mul_div_cancel_left₀ _ hN.ne', neg_add_eq_sub]

/-- The rational mapper without `invert_input`, with `minimum < center < maximum`, is monotone,
and maps `maximum` to `get_output_max()` and `minimum` to `get_output_min()` when they lie outside
the deadband. -/
theorem map_monotone_attains_extremes {config : Config ℚ} {m : RangeMapper ℚ}
    (hc : configure ratDiv config = some m) (hinv : config.invertInput = false)
    (hmin : config.minimum < config.center) (hmax : config.center < config.maximum) :
    (∀ v w, v ≤ w →
        ∃ a b, m.map ratDiv v = some a ∧ m.map ratDiv w = some b ∧ a ≤ b) ∧
      (config.deadband ≤ config.maximum - config.center →
        m.map ratDiv config.maximum = some m.outputMax) ∧
      (config.deadband ≤ config.center - config.minimum →
        m.map ratDiv config.minimum = some m.outputMin) := by
  have hm := map_eq_response hc hinv hmin hmax
  obtain ⟨hc, hd, hlo, hhi, -, hr, hbot, htop, -, -⟩ := configure_fields ratDiv hc
  rw [← hc, ← hlo] at hmin
  rw [← hc, ← hhi] at hmax
  rw [← hd, ← hc, ← hlo, ← hhi, htop, hbot]
  have hP : 0 < m.maximum - m.center := sub_pos.mpr hmax
  have hN : 0 < m.center - m.minimum := sub_pos.mpr hmin
  have hle : m.minimum ≤ m.maximum := (hmin.trans hmax).le
  refine ⟨fun v w hvw => ⟨_, _, hm v, hm w, ?_⟩, fun hdb => ?_, fun hdb => ?_⟩
  · exact response_mono hr.le hP hN (sub_le_sub_right (clamp_mono hle hvw) _)
  · rw [hm, clamp_right hle, response_maximum hP hdb]
  · rw [hm, clamp_left hle, response_minimum hN hdb]

/-- A joystick axis over `[-1, 1]` with a deadband of `1/10` and the default output range. -/
theorem map_monotone_attains_extremes_joystick :
    ∃ m : RangeMapper ℚ,
      configure ratDiv
          ({ center := 0, deadband := 1 / 10, minimum := -1, maximum := 1 } : Config ℚ) =
        some m ∧
        (-1 : ℚ) < 0 ∧ (0 : ℚ) < 1 ∧
        (∀ v w, v ≤ w →
          ∃ a b, m.map ratDiv v = some a ∧ m.map ratDiv w = some b ∧ a ≤ b) ∧
        ((1 / 10 : ℚ) ≤ 1 - 0 → m.map ratDiv 1 = some m.outputMax) ∧
        ((1 / 10 : ℚ) ≤ 0 - -1 → m.map ratDiv (-1) = some m.outputMin) :=
  ⟨_, rfl, by norm_num, by norm_num,
    @map_monotone_attains_extremes
      { center := 0, deadband := 1 / 10, minimum := -1, maximum := 1 } _
      rfl rfl (by norm_num) (by norm_num)⟩

end Math
end Espp

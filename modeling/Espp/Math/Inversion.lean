import Espp.Math.RangeMapper

/-!
# `invert_input`: calibrating against the ends of the input range

With `invert_input` set, `map` calibrates a clamped input `c` against the end of the input range on
its side of zero: `maximum - c` for `c ≥ 0`, `minimum - c` below, and then divides as without
inversion.  The sign test is against `0`, not against `center`, so this matches the documented
behaviour when the centre is `0`; `rangeMapper_leaves_output` shows a centre of `50` leaving the
output range.

For centre `0` and `minimum < 0 < maximum`, `map_eq_response_inverted` shows that the rational
model is `RangeMapper.response` of that calibration, and `map_inverted` reads off what the class
documentation promises: the output stays in `[output_min, output_max]`, falls on either side of
`0` as the input grows, is `output_center` within the deadband of either end of the input range and
beyond it, and jumps to `output_max` at `0`.
-/

namespace Espp
namespace Math

/-! ## `std::clamp` on either side of zero -/

section Clamp

variable {T : Type} [LinearOrderedRing T]

theorem clamp_of_mem {v lo hi : T} (hlo : lo ≤ v) (hhi : v ≤ hi) : clamp v lo hi = v := by
  rw [clamp, if_neg (not_lt.mpr hlo), if_neg (not_lt.mpr hhi)]

theorem clamp_of_lt {v lo hi : T} (h : v < lo) : clamp v lo hi = lo := by
  rw [clamp, if_pos h]

theorem clamp_of_gt {v lo hi : T} (hle : lo ≤ hi) (h : hi < v) : clamp v lo hi = hi := by
  rw [clamp, if_neg (not_lt.mpr (hle.trans h.le)), if_pos h]

theorem clamp_nonneg {v lo hi : T} (hle : lo ≤ hi) (hhi : 0 ≤ hi) (hv : 0 ≤ v) :
    0 ≤ clamp v lo hi := by
  rw [clamp_eq_max_min hle]
  exact le_max_of_le_right (le_min hv hhi)

theorem clamp_neg {v lo hi : T} (hle : lo ≤ hi) (hlo : lo < 0) (hv : v < 0) :
    clamp v lo hi < 0 := by
  rw [clamp_eq_max_min hle]
  exact max_lt hlo ((min_le_left _ _).trans_lt hv)

end Clamp

/-! ## The response to a calibration -/

/-- With the half-range divisors `configure` stores and `minimum < center < maximum`, the rational
model does with a calibrated value `x` what `response` says. -/
theorem calibrated_response {m : RangeMapper ℚ} (hr : 0 < m.outputRange)
    (hmin : m.minimum < m.center) (hmax : m.center < m.maximum)
    (hpos : m.posRange = ratDiv (m.maximum - m.center) m.outputRange)
    (hneg : m.negRange = ratDiv |m.minimum - m.center| m.outputRange) (x : ℚ) :
    (if |x| < m.deadband then some m.outputCenter
      else if x ≥ 0 then (divide ratDiv x m.posRange).map (· + m.outputCenter)
      else (divide ratDiv x m.negRange).map (· + m.outputCenter)) = some (m.response x) := by
  rw [RangeMapper.response, hpos, hneg, abs_sub_comm, abs_of_pos (sub_pos.mpr hmin)]
  split_ifs
  · rfl
  · exact divide_ratDiv (sub_pos.mpr hmax) hr
  · exact divide_ratDiv (sub_pos.mpr hmin) hr

/-- With `invert_input`, centre `0` and `minimum < 0 < maximum`, the rational model is the clamp,
the calibration against the end of the input range on the clamped input's side of `0`, and
`response`. -/
theorem map_eq_response_inverted {config : Config ℚ} {m : RangeMapper ℚ}
    (hc : configure ratDiv config = some m) (hinv : config.invertInput = true)
    (hcenter : config.center = 0) (hmin : config.minimum < 0) (hmax : 0 < config.maximum)
    (v : ℚ) :
    m.map ratDiv v = some (m.response (if 0 ≤ clamp v m.minimum m.maximum
      then m.maximum - clamp v m.minimum m.maximum
      else m.minimum - clamp v m.minimum m.maximum)) := by
  obtain ⟨hc, -, hlo, hhi, hi, hr, -, -, hpos, hneg⟩ := configure_fields ratDiv hc
  have hc0 : m.center = 0 := hc.trans hcenter
  dsimp only [RangeMapper.map]
  rw [hi, hinv, if_pos rfl]
  exact calibrated_response hr (by rw [hc0, hlo]; exact hmin) (by rw [hc0, hhi]; exact hmax) hpos
    hneg _

theorem response_zero (m : RangeMapper ℚ) : m.response 0 = m.outputCenter := by
  rw [RangeMapper.response]
  split_ifs <;> simp

/-- Inside `[minimum - center, maximum - center]` the response stays in the output range. -/
theorem response_mem {m : RangeMapper ℚ} (hr : 0 ≤ m.outputRange)
    (hP : 0 < m.maximum - m.center) (hN : 0 < m.center - m.minimum) {x : ℚ}
    (hlo : m.minimum - m.center ≤ x) (hhi : x ≤ m.maximum - m.center) :
    m.outputCenter - m.outputRange ≤ m.response x ∧
      m.response x ≤ m.outputCenter + m.outputRange := by
  suffices h : |m.outputCenter - m.response x| ≤ m.outputRange from
    (abs_sub_le_iff.mp h).imp sub_le_comm.mp sub_le_iff_le_add'.mp
  by_cases hdb : |x| < m.deadband
  · rwa [response_of_deadband m hdb, sub_self, abs_zero]
  rcases le_or_lt 0 x with hx | hx
  · rw [response_of_nonneg m hx hdb, sub_add_cancel_right, abs_neg]
    exact abs_mul_div_le (by rwa [abs_of_nonneg hx]) hP hr
  · rw [response_of_neg m hx hdb, sub_add_cancel_right, abs_neg]
    exact abs_mul_div_le (by rw [abs_of_neg hx, neg_le]; rwa [neg_sub]) hN hr

/-- The rational mapper with `invert_input`, centre `0` and `minimum < 0 < maximum` is defined
everywhere and stays within `[output_min, output_max]`; it is non-increasing on `[0, ∞)` and on
`(-∞, 0)`; every input at or above `0` within the deadband of `maximum` or beyond it, and every
input below `0` within the deadband of `minimum` or beyond it, maps to `output_center`; and `0`
maps to `output_max` when the deadband is at most `maximum`. -/
theorem map_inverted {config : Config ℚ} {m : RangeMapper ℚ}
    (hc : configure ratDiv config = some m) (hinv : config.invertInput = true)
    (hcenter : config.center = 0) (hmin : config.minimum < 0) (hmax : 0 < config.maximum) :
    (∀ v, ∃ w, m.map ratDiv v = some w ∧ m.outputMin ≤ w ∧ w ≤ m.outputMax) ∧
      (∀ v w, 0 ≤ v → v ≤ w →
        ∃ a b, m.map ratDiv v = some a ∧ m.map ratDiv w = some b ∧ b ≤ a) ∧
      (∀ v w, v ≤ w → w < 0 →
        ∃ a b, m.map ratDiv v = some a ∧ m.map ratDiv w = some b ∧ b ≤ a) ∧
      (∀ v, 0 ≤ v → config.maximum - config.deadband < v →
        m.map ratDiv v = some m.outputCenter) ∧
      (∀ v, v < 0 → v < config.minimum + config.deadband →
        m.map ratDiv v = some m.outputCenter) ∧
      (config.deadband ≤ config.maximum → m.map ratDiv 0 = some m.outputMax) := by
  have hm := map_eq_response_inverted hc hinv hcenter hmin hmax
  obtain ⟨hc, hd, hlo, hhi, -, hr, hbot, htop, -, -⟩ := configure_fields ratDiv hc
  rw [← hlo] at hmin
  rw [← hhi] at hmax
  rw [← hd, ← hlo, ← hhi, htop, hbot]
  have hc0 : m.center = 0 := hc.trans hcenter
  have hP : 0 < m.maximum - m.center := by rw [hc0, sub_zero]; exact hmax
  have hN : 0 < m.center - m.minimum := by rw [hc0, zero_sub]; exact neg_pos.mpr hmin
  have hle : m.minimum ≤ m.maximum := (hmin.trans hmax).le
  refine ⟨fun v => ⟨_, hm v, ?_⟩, fun v w hv hvw => ?_, fun v w hvw hw => ?_,
    fun v hv hdb => ?_, fun v hv hdb => ?_, fun hdb => ?_⟩
  · obtain ⟨hcl, hcu⟩ := clamp_mem (v := v) hle
    apply response_mem hr.le hP hN <;> rw [hc0] <;> split_ifs with h0 <;>
      linarith only [hcl, hcu, hmin, hmax, h0]
  · rw [hm v, hm w, if_pos (clamp_nonneg hle hmax.le hv),
      if_pos (clamp_nonneg hle hmax.le (hv.trans hvw))]
    exact ⟨_, _, rfl, rfl, response_mono hr.le hP hN (sub_le_sub_left (clamp_mono hle hvw) _)⟩
  · rw [hm v, hm w, if_neg (clamp_neg hle hmin (hvw.trans_lt hw)).not_le,
      if_neg (clamp_neg hle hmin hw).not_le]
    exact ⟨_, _, rfl, rfl, response_mono hr.le hP hN (sub_le_sub_left (clamp_mono hle hvw) _)⟩
  · rw [hm v, if_pos (clamp_nonneg hle hmax.le hv)]
    rcases le_or_lt v m.maximum with hvm | hvm
    · rw [clamp_of_mem (hmin.le.trans hv) hvm, response_of_deadband m]
      rw [abs_of_nonneg (sub_nonneg.mpr hvm)]
      exact sub_lt_comm.mp hdb
    · rw [clamp_of_gt hle hvm, sub_self, response_zero]
  · rw [hm v, if_neg (clamp_neg hle hmin hv).not_le]
    rcases le_or_lt m.minimum v with hvm | hvm
    · rw [clamp_of_mem hvm (hv.le.trans hmax.le), response_of_deadband m]
      rw [abs_of_nonpos (sub_nonpos.mpr hvm), neg_sub]
      exact sub_lt_iff_lt_add'.mpr hdb
    · rw [clamp_of_lt hvm, sub_self, response_zero]
  · rw [hm 0, clamp_of_mem hmin.le hmax.le, if_pos le_rfl, sub_zero,
      ← response_maximum hP (by rw [hc0, sub_zero]; exact hdb), hc0, sub_zero]

/-- A trigger over `[-1, 1]`, inverted, with a deadband of `1/10`. -/
theorem map_inverted_trigger :
    ∃ m : RangeMapper ℚ,
      configure ratDiv
          ({ center := 0, deadband := 1 / 10, minimum := -1, maximum := 1, invertInput := true } :
            Config ℚ) = some m ∧
        (-1 : ℚ) < 0 ∧ (0 : ℚ) < 1 ∧
        (∀ v, ∃ w, m.map ratDiv v = some w ∧ m.outputMin ≤ w ∧ w ≤ m.outputMax) ∧
        (∀ v w, 0 ≤ v → v ≤ w →
          ∃ a b, m.map ratDiv v = some a ∧ m.map ratDiv w = some b ∧ b ≤ a) ∧
        (∀ v w, v ≤ w → w < 0 →
          ∃ a b, m.map ratDiv v = some a ∧ m.map ratDiv w = some b ∧ b ≤ a) ∧
        (∀ v, 0 ≤ v → 1 - 1 / 10 < v → m.map ratDiv v = some m.outputCenter) ∧
        (∀ v, v < 0 → v < -1 + 1 / 10 → m.map ratDiv v = some m.outputCenter) ∧
        ((1 / 10 : ℚ) ≤ 1 → m.map ratDiv 0 = some m.outputMax) :=
  ⟨_, rfl, by norm_num, by norm_num,
    @map_inverted
      { center := 0, deadband := 1 / 10, minimum := -1, maximum := 1, invertInput := true } _
      rfl rfl rfl (by norm_num) (by norm_num)⟩

end Math
end Espp

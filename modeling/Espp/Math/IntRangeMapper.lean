import Espp.Math.RangeMapper

/-!
# `IntRangeMapper`: the template over `int`

`RangeMapper<int>` divides with truncation toward zero, in `configure` (`pos_range_`,
`neg_range_`) and in `map`.  `rangeMapper_leaves_output` shows both truncations breaking the
documented output range.  When `output_range` divides both half-ranges of the input, `configure`
truncates nothing: the divisors times `output_range` give the half-ranges back.  `map` is then
`intResponse` of the calibrated input, and truncating division keeps the order and the bounds that
exact division has (`intRangeMapper_exact`).

The model computes over `Int`; it is the arithmetic of a 32-bit `int` while no value leaves
`[-2^31, 2^31)`.  `Config.FitsInt` asks that of an `int` configuration and of every value
`configure` computes from it, and under it no value `map` computes overflows either
(`mapValues_isInt`).
-/

namespace Espp
namespace Math

/-! ## Truncating division -/

/-- A negative dividend truncates toward zero: the floor of its negation, negated. -/
theorem tdiv_of_neg {a d : Int} (ha : a < 0) (hd : 0 < d) : a.tdiv d = -((-a) / d) := by
  rw [← Int.tdiv_eq_ediv (by omega) hd.le, Int.neg_tdiv, neg_neg]

/-- `Int.tdiv` by a positive divisor is monotone in the dividend. -/
theorem tdiv_mono {a b d : Int} (hd : 0 < d) (hab : a ≤ b) : a.tdiv d ≤ b.tdiv d := by
  rcases le_or_lt 0 a with ha | ha
  · rw [Int.tdiv_eq_ediv ha hd.le, Int.tdiv_eq_ediv (ha.trans hab) hd.le]
    exact Int.ediv_le_ediv hd hab
  rw [tdiv_of_neg ha hd]
  rcases lt_or_le b 0 with hb | hb
  · rw [tdiv_of_neg hb hd, neg_le_neg_iff]
    exact Int.ediv_le_ediv hd (by omega)
  · exact (neg_nonpos.mpr (Int.ediv_nonneg (by omega) hd.le)).trans (Int.tdiv_nonneg hb hd.le)

theorem tdiv_nonpos {a d : Int} (hd : 0 < d) (ha : a ≤ 0) : a.tdiv d ≤ 0 := by
  simpa using tdiv_mono hd ha

/-! ## `int` is 32 bits wide -/

/-- `x` fits a 32-bit `int`. -/
def IsInt (x : Int) : Prop := -2 ^ 31 ≤ x ∧ x < 2 ^ 31

instance : DecidablePred IsInt := fun _ => inferInstanceAs (Decidable (_ ∧ _))

/-- What lies between two `int`s is an `int`. -/
theorem IsInt.of_le {a b x : Int} (ha : IsInt a) (hb : IsInt b) (hax : a ≤ x) (hxb : x ≤ b) :
    IsInt x :=
  ⟨ha.1.trans hax, hxb.trans_lt hb.2⟩

/-- The fields of an `int` configuration, then the values `configure` computes from them in the
order of its statements. -/
def Config.configureValues (config : Config Int) : List Int :=
  [config.center, config.deadband, config.minimum, config.maximum, config.outputCenter,
    config.outputRange, |config.outputRange|, config.outputCenter - |config.outputRange|,
    config.outputCenter + |config.outputRange|, config.maximum - config.center,
    (config.maximum - config.center).tdiv |config.outputRange|, config.minimum - config.center,
    |config.minimum - config.center|, |config.minimum - config.center|.tdiv |config.outputRange|]

/-- An `int` configuration on which `configure` overflows nowhere. -/
def Config.FitsInt (config : Config Int) : Prop := ∀ x ∈ config.configureValues, IsInt x

instance (config : Config Int) : Decidable config.FitsInt :=
  inferInstanceAs (Decidable (∀ _ ∈ _, _))

/-- The values `map` computes from an input `v`: the calibrated input and its absolute value, and
outside the deadband the quotient and the result. -/
def RangeMapper.mapValues (m : RangeMapper Int) (v : Int) : List Int :=
  let clamped := clamp v m.minimum m.maximum
  let calibrated :=
    if m.invertInput then (if clamped ≥ 0 then m.maximum - clamped else m.minimum - clamped)
    else clamped - m.center
  let quotient := calibrated.tdiv (if calibrated ≥ 0 then m.posRange else m.negRange)
  if |calibrated| < m.deadband then [calibrated, |calibrated|]
  else [calibrated, |calibrated|, quotient, quotient + m.outputCenter]

/-- The values `configure` computes are the members it stores. -/
theorem configure_configureValues {config : Config Int} {m : RangeMapper Int}
    (hc : configure Int.tdiv config = some m) :
    config.configureValues = [m.center, m.deadband, m.minimum, m.maximum, m.outputCenter,
      config.outputRange, m.outputRange, m.outputMin, m.outputMax, m.maximum - m.center,
      m.posRange, m.minimum - m.center, |m.minimum - m.center|, m.negRange] := by
  unfold configure at hc
  split_ifs at hc
  cases hc
  rfl

/-! ## The integer response -/

/-- What `IntRangeMapper::map` answers to a calibrated input `x`, when neither half-range divisor
is zero: `output_center` inside the deadband, otherwise `x` divided by the half-range divisor of its
sign, truncated toward zero, then moved to `output_center`. -/
def RangeMapper.intResponse (m : RangeMapper Int) (x : Int) : Int :=
  if |x| < m.deadband then m.outputCenter
  else if 0 ≤ x then x.tdiv m.posRange + m.outputCenter
  else x.tdiv m.negRange + m.outputCenter

theorem configure_outputRange {config : Config Int} {m : RangeMapper Int}
    (hc : configure Int.tdiv config = some m) : m.outputRange = |config.outputRange| := by
  unfold configure at hc
  split_ifs at hc
  cases hc
  rfl

theorem map_eq_intResponse {m : RangeMapper Int} (hinv : m.invertInput = false)
    (hP : m.posRange ≠ 0) (hN : m.negRange ≠ 0) (v : Int) :
    m.map Int.tdiv v = some (m.intResponse (clamp v m.minimum m.maximum - m.center)) := by
  dsimp only [RangeMapper.map]
  rw [hinv, RangeMapper.intResponse]
  simp only [Bool.false_eq_true, if_false, ge_iff_le, divide, hP, hN]
  split_ifs <;> rfl

theorem intResponse_of_deadband (m : RangeMapper Int) {x : Int} (hdb : |x| < m.deadband) :
    m.intResponse x = m.outputCenter := by
  rw [RangeMapper.intResponse, if_pos hdb]

theorem intResponse_of_nonneg (m : RangeMapper Int) {x : Int} (hx : 0 ≤ x)
    (hdb : ¬|x| < m.deadband) : m.intResponse x = x.tdiv m.posRange + m.outputCenter := by
  rw [RangeMapper.intResponse, if_neg hdb, if_pos hx]

theorem intResponse_of_neg (m : RangeMapper Int) {x : Int} (hx : x < 0) (hdb : ¬|x| < m.deadband) :
    m.intResponse x = x.tdiv m.negRange + m.outputCenter := by
  rw [RangeMapper.intResponse, if_neg hdb, if_neg hx.not_le]

theorem intResponse_le_center {m : RangeMapper Int} (hN : 0 < m.negRange) {x : Int} (hx : x < 0) :
    m.intResponse x ≤ m.outputCenter := by
  by_cases hdb : |x| < m.deadband
  · exact (intResponse_of_deadband m hdb).le
  · rw [intResponse_of_neg m hx hdb]
    exact add_le_of_nonpos_left (tdiv_nonpos hN hx.le)

theorem center_le_intResponse {m : RangeMapper Int} (hP : 0 < m.posRange) {x : Int} (hx : 0 ≤ x) :
    m.outputCenter ≤ m.intResponse x := by
  by_cases hdb : |x| < m.deadband
  · exact (intResponse_of_deadband m hdb).ge
  · rw [intResponse_of_nonneg m hx hdb]
    exact le_add_of_nonneg_left (Int.tdiv_nonneg hx hP.le)

/-- With positive divisors the integer response is monotone: truncation keeps the order. -/
theorem intResponse_mono {m : RangeMapper Int} (hP : 0 < m.posRange) (hN : 0 < m.negRange)
    {x y : Int} (hxy : x ≤ y) : m.intResponse x ≤ m.intResponse y := by
  rcases lt_or_le y 0 with hy | hy
  · -- both below the centre
    by_cases hdy : |y| < m.deadband
    · rw [intResponse_of_deadband m hdy]
      exact intResponse_le_center hN (hxy.trans_lt hy)
    · have hdx : ¬|x| < m.deadband := by
        rw [abs_of_neg hy] at hdy
        rw [abs_of_neg (hxy.trans_lt hy)]
        omega
      rw [intResponse_of_neg m (hxy.trans_lt hy) hdx, intResponse_of_neg m hy hdy]
      exact add_le_add_right (tdiv_mono hN hxy) _
  rcases lt_or_le x 0 with hx | hx
  · -- across the centre
    exact (intResponse_le_center hN hx).trans (center_le_intResponse hP hy)
  · -- both at or above the centre
    by_cases hdx : |x| < m.deadband
    · rw [intResponse_of_deadband m hdx]
      exact center_le_intResponse hP hy
    · have hdy : ¬|y| < m.deadband := by
        rw [abs_of_nonneg hx] at hdx
        rw [abs_of_nonneg hy]
        omega
      rw [intResponse_of_nonneg m hx hdx, intResponse_of_nonneg m hy hdy]
      exact add_le_add_right (tdiv_mono hP hxy) _

/-- When the divisors times `output_range` give the half-ranges back, the integer response to a
calibrated input of the input range stays in the output range. -/
theorem intResponse_mem {m : RangeMapper Int} (hR : 0 < m.outputRange) (hP : 0 < m.posRange)
    (hN : 0 < m.negRange) (hPR : m.posRange * m.outputRange = m.maximum - m.center)
    (hNR : m.negRange * m.outputRange = m.center - m.minimum) {x : Int}
    (hlo : m.minimum - m.center ≤ x) (hhi : x ≤ m.maximum - m.center) :
    m.outputCenter - m.outputRange ≤ m.intResponse x ∧
      m.intResponse x ≤ m.outputCenter + m.outputRange := by
  suffices h : |m.outputCenter - m.intResponse x| ≤ m.outputRange from
    (abs_sub_le_iff.mp h).imp sub_le_comm.mp sub_le_iff_le_add'.mp
  by_cases hdb : |x| < m.deadband
  · rw [intResponse_of_deadband m hdb, sub_self, abs_zero]
    exact hR.le
  rcases le_or_lt 0 x with hx | hx
  · have h₁ := tdiv_mono hP (hhi.trans_eq hPR.symm)
    rw [Int.mul_tdiv_cancel_left _ hP.ne'] at h₁
    rw [intResponse_of_nonneg m hx hdb, sub_add_cancel_right, abs_neg,
      abs_of_nonneg (Int.tdiv_nonneg hx hP.le)]
    exact h₁
  · have h₁ := tdiv_mono hN (show -(m.negRange * m.outputRange) ≤ x by rwa [hNR, neg_sub])
    rw [Int.neg_tdiv, Int.mul_tdiv_cancel_left _ hN.ne'] at h₁
    rw [intResponse_of_neg m hx hdb, sub_add_cancel_right, abs_neg,
      abs_of_nonpos (tdiv_nonpos hN hx.le)]
    exact neg_le.mp h₁

/-- Without `invert_input`, when the divisors times `output_range` give the half-ranges back and
the half-ranges, `output_range` and the output bounds fit an `int`, so does every value `map`
computes. -/
theorem mapValues_isInt {m : RangeMapper Int} (hinv : m.invertInput = false)
    (hR : 0 < m.outputRange) (hP : 0 < m.posRange) (hN : 0 < m.negRange)
    (hPR : m.posRange * m.outputRange = m.maximum - m.center)
    (hNR : m.negRange * m.outputRange = m.center - m.minimum)
    (hlo : IsInt |m.minimum - m.center|) (hhi : IsInt (m.maximum - m.center))
    (hr : IsInt m.outputRange) (hbot : IsInt (m.outputCenter - m.outputRange))
    (htop : IsInt (m.outputCenter + m.outputRange)) (v : Int) :
    ∀ x ∈ m.mapValues v, IsInt x := by
  have hle : m.minimum ≤ m.maximum := by
    have := hPR ▸ mul_pos hP hR
    have := hNR ▸ mul_pos hN hR
    omega
  have hcl := clamp_mem (v := v) hle
  have hxlo : m.minimum - m.center ≤ clamp v m.minimum m.maximum - m.center :=
    sub_le_sub_right hcl.1 _
  have hxhi : clamp v m.minimum m.maximum - m.center ≤ m.maximum - m.center :=
    sub_le_sub_right hcl.2 _
  simp only [RangeMapper.mapValues, hinv, Bool.false_eq_true, if_false]
  generalize clamp v m.minimum m.maximum - m.center = x at hxlo hxhi ⊢
  have hlo' := abs_lt.mp hlo.2
  have hx : IsInt x := by unfold IsInt at *; omega
  have hax : IsInt |x| := ⟨(by norm_num : (-2 ^ 31 : Int) ≤ 0).trans (abs_nonneg x),
    abs_lt.mpr (by unfold IsInt at *; omega)⟩
  by_cases hdb : |x| < m.deadband
  · rw [if_pos hdb]
    simp only [List.forall_mem_cons, List.not_mem_nil, false_implies, implies_true, and_true]
    exact ⟨hx, hax⟩
  · have hq : m.intResponse x =
        x.tdiv (if x ≥ 0 then m.posRange else m.negRange) + m.outputCenter := by
      rw [RangeMapper.intResponse, if_neg hdb]
      split_ifs <;> rfl
    obtain ⟨h₁, h₂⟩ := intResponse_mem hR hP hN hPR hNR hxlo hxhi
    rw [hq] at h₁ h₂
    rw [if_neg hdb]
    simp only [List.forall_mem_cons, List.not_mem_nil, false_implies, implies_true, and_true]
    exact ⟨hx, hax, IsInt.of_le (a := -m.outputRange) (by unfold IsInt at *; omega) hr
      (by omega) (by omega), hbot.of_le htop h₁ h₂⟩

/-- `IntRangeMapper` on an `int` configuration without `invert_input`, with
`minimum < center < maximum` and an `output_range` that divides both half-ranges of the input:
`configure` truncates nothing, and `map` is defined everywhere, stays within
`[output_min, output_max]`, is monotone, and maps `maximum` to `output_max` and `minimum` to
`output_min` when they lie outside the deadband; no value it computes overflows an `int`. -/
theorem intRangeMapper_exact {config : Config Int} {m : RangeMapper Int}
    (hc : configure Int.tdiv config = some m) (hfit : config.FitsInt)
    (hinv : config.invertInput = false)
    (hmin : config.minimum < config.center) (hmax : config.center < config.maximum)
    (hdvdP : config.outputRange ∣ config.maximum - config.center)
    (hdvdN : config.outputRange ∣ config.center - config.minimum) :
    (∀ v, ∃ w, m.map Int.tdiv v = some w ∧ m.outputMin ≤ w ∧ w ≤ m.outputMax) ∧
      (∀ v w, v ≤ w →
        ∃ a b, m.map Int.tdiv v = some a ∧ m.map Int.tdiv w = some b ∧ a ≤ b) ∧
      (config.deadband ≤ config.maximum - config.center →
        m.map Int.tdiv config.maximum = some m.outputMax) ∧
      (config.deadband ≤ config.center - config.minimum →
        m.map Int.tdiv config.minimum = some m.outputMin) ∧
      (∀ v, ∀ x ∈ m.mapValues v, IsInt x) := by
  rw [Config.FitsInt, configure_configureValues hc] at hfit
  simp only [List.forall_mem_cons, List.not_mem_nil, false_implies, implies_true, and_true] at hfit
  obtain ⟨-, -, -, -, -, -, hfR, hfbot, hftop, hfhi, -, -, hflo, -⟩ := hfit
  have hR := configure_outputRange hc
  obtain ⟨hc, hd, hlo, hhi, hi, hr, hbot, htop, hpos, hneg⟩ := configure_fields Int.tdiv hc
  rw [← hc, ← hlo] at hmin hdvdN
  rw [← hc, ← hhi] at hmax hdvdP
  rw [← abs_dvd, ← hR] at hdvdP hdvdN
  have hPR : m.posRange * m.outputRange = m.maximum - m.center := by
    rw [hpos, Int.tdiv_mul_cancel hdvdP]
  have hNR : m.negRange * m.outputRange = m.center - m.minimum := by
    rw [hneg, abs_sub_comm, abs_of_pos (sub_pos.mpr hmin), Int.tdiv_mul_cancel hdvdN]
  have hP : 0 < m.posRange := pos_of_mul_pos_left (by rw [hPR]; exact sub_pos.mpr hmax) hr.le
  have hN : 0 < m.negRange := pos_of_mul_pos_left (by rw [hNR]; exact sub_pos.mpr hmin) hr.le
  have hm := map_eq_intResponse (hi.trans hinv) hP.ne' hN.ne'
  have hle : m.minimum ≤ m.maximum := (hmin.trans hmax).le
  rw [← hd, ← hc, ← hlo, ← hhi, htop, hbot]
  refine ⟨fun v => ⟨_, hm v, ?_⟩, fun v w hvw => ⟨_, _, hm v, hm w, ?_⟩, fun hdb => ?_,
    fun hdb => ?_, mapValues_isInt (hi.trans hinv) hr hP hN hPR hNR hflo hfhi hfR (hbot ▸ hfbot)
      (htop ▸ hftop)⟩
  · have hcl := clamp_mem (v := v) hle
    exact intResponse_mem hr hP hN hPR hNR (sub_le_sub_right hcl.1 _) (sub_le_sub_right hcl.2 _)
  · exact intResponse_mono hP hN (sub_le_sub_right (clamp_mono hle hvw) _)
  · have hx : 0 < m.maximum - m.center := sub_pos.mpr hmax
    rw [hm, clamp_right hle,
      intResponse_of_nonneg m hx.le (by rw [abs_of_pos hx]; exact not_lt.mpr hdb),
      ← hPR, Int.mul_tdiv_cancel_left _ hP.ne', add_comm]
  · have hx : m.minimum - m.center < 0 := sub_neg.mpr hmin
    rw [hm, clamp_left hle, intResponse_of_neg m hx (by rw [abs_of_neg hx, neg_sub]; exact not_lt.mpr hdb),
      show m.minimum - m.center = -(m.negRange * m.outputRange) by rw [hNR, neg_sub],
      Int.neg_tdiv, Int.mul_tdiv_cancel_left _ hN.ne', neg_add_eq_sub]

theorem intRangeMapper_exact_ten :
    ∃ m : RangeMapper Int,
      configure Int.tdiv
          ({ center := 0, deadband := 0, minimum := -10, maximum := 10, outputRange := 5 } :
            Config Int) = some m ∧
        Config.FitsInt
          { center := 0, deadband := 0, minimum := -10, maximum := 10, outputRange := 5 } ∧
        (-10 : Int) < 0 ∧ (0 : Int) < 10 ∧ (5 : Int) ∣ 10 - 0 ∧ (5 : Int) ∣ 0 - -10 ∧
        (∀ v, ∃ w, m.map Int.tdiv v = some w ∧ m.outputMin ≤ w ∧ w ≤ m.outputMax) ∧
        (∀ v w, v ≤ w →
        ∃ a b, m.map Int.tdiv v = some a ∧ m.map Int.tdiv w = some b ∧ a ≤ b) ∧
        ((0 : Int) ≤ 10 - 0 → m.map Int.tdiv 10 = some m.outputMax) ∧
        ((0 : Int) ≤ 0 - -10 → m.map Int.tdiv (-10) = some m.outputMin) ∧
        (∀ v, ∀ x ∈ m.mapValues v, IsInt x) :=
  ⟨_, rfl, by decide, by decide, by decide, by decide, by decide,
    @intRangeMapper_exact
      { center := 0, deadband := 0, minimum := -10, maximum := 10, outputRange := 5 } _
      rfl (by decide) rfl (by decide) (by decide) (by decide) (by decide)⟩

end Math
end Espp

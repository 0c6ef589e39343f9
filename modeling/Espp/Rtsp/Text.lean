import Mathlib.Data.List.Infix
import Mathlib.Data.Nat.Digits

/-!
# Byte text: `std::string_view` search, `substr`, `std::stoi` and `std::to_string`

`RtspSession` parses every request with forward searches over a `std::string_view` of the
receive buffer.  This module models those primitives on lists of characters, one `Char` for
each byte of the buffer.  `size_t` is the 32-bit word of the ESP32 targets, so the wrap-around
of `npos + 1`, `npos + 12` and `a - b - 1` that the parser relies on is kept exactly.
-/

namespace Espp
namespace Rtsp

/-- The bytes of a `std::string_view` or `std::string`, one `Char` per C++ `char`. -/
abbrev Text := List Char

/-- `size_t` on the ESP32: a wrapping 32-bit word. -/
abbrev SizeT := BitVec 32

/-- `std::string::npos`, the all-ones word. -/
def npos : SizeT := BitVec.allOnes 32

/-- The exceptions the string primitives throw; `RtspSession` catches neither. -/
inductive StdException
  | outOfRange
  | invalidArgument
  deriving DecidableEq, Repr

/-! ## Forward search -/

/-- Offset of the first suffix of `t` that starts with `needle`, if any. -/
def firstMatch (needle : Text) : Text → Option Nat
  | [] => none
  | c :: t => if needle <+: c :: t then some 0 else (firstMatch needle t).map (· + 1)

/-- `std::string_view::find(needle, pos)`: the first index at or after `pos` where `needle`
starts, or `npos`.  A character argument is the one-element needle. -/
def find (s needle : Text) (pos : SizeT) : SizeT :=
  match firstMatch needle (s.drop pos.toNat) with
  | some i => BitVec.ofNat 32 (pos.toNat + i)
  | none => npos

/-- `std::string_view::substr(pos, count)`: throws `std::out_of_range` when `pos` is past the
end, and otherwise clamps `count` to what is left. -/
def substr (s : Text) (pos : SizeT) (count : SizeT := npos) : Except StdException Text :=
  if s.length < pos.toNat then .error .outOfRange else .ok ((s.drop pos.toNat).take count.toNat)

theorem firstMatch_eq_some_iff {needle t : Text} {i : Nat} :
    firstMatch needle t = some i ↔
      i < t.length ∧ needle <+: t.drop i ∧ ∀ j < i, ¬ needle <+: t.drop j := by
  induction t generalizing i with
  | nil => simp [firstMatch]
  | cons c t ih =>
    by_cases hc : needle <+: c :: t
    · cases i with
      | zero => simp [firstMatch, hc]
      | succ i =>
        simp only [firstMatch, hc, if_true, Option.some.injEq]
        exact ⟨nofun, fun ⟨_, _, h⟩ => (h 0 (by omega) hc).elim⟩
    · cases i with
      | zero => simp [firstMatch, hc]
      | succ i =>
        simp only [firstMatch, hc, if_false, Option.map_eq_some', ih, List.length_cons,
          List.drop_succ_cons, Nat.add_right_cancel_iff, exists_eq_right, Nat.add_lt_add_iff_right]
        refine and_congr_right fun _ => and_congr_right fun _ =>
          ⟨fun h j hj => ?_, fun h j hj => h (j + 1) (by omega)⟩
        cases j with
        | zero => exact hc
        | succ j => exact h j (by omega)

theorem firstMatch_eq_none_iff {needle t : Text} :
    firstMatch needle t = none ↔ ∀ j < t.length, ¬ needle <+: t.drop j := by
  induction t with
  | nil => simp [firstMatch]
  | cons c t ih =>
    by_cases hc : needle <+: c :: t
    · simp only [firstMatch, hc, if_true]
      exact ⟨nofun, fun h => (h 0 (by simp) hc).elim⟩
    · simp only [firstMatch, hc, if_false, Option.map_eq_none', ih, List.length_cons]
      refine ⟨fun h j hj => ?_, fun h j hj => h (j + 1) (by omega)⟩
      cases j with
      | zero => exact hc
      | succ j => exact h j (by omega)

/-- Searching for one character finds the end of the run before it. -/
theorem firstMatch_singleton (c : Char) (t : Text) :
    firstMatch [c] t = if c ∈ t then some (t.takeWhile (· ≠ c)).length else none := by
  induction t with
  | nil => simp [firstMatch]
  | cons d t ih =>
    by_cases h : c = d
    · subst h; simp [firstMatch]
    · simp only [firstMatch, List.cons_prefix_cons, h, false_and, if_false, ih, List.mem_cons,
        false_or, List.takeWhile_cons, ne_eq, Ne.symm h, not_false_eq_true, decide_True,
        List.length_cons]
      split <;> rfl

theorem find_of_firstMatch_some {s needle : Text} {pos : SizeT} {i : Nat}
    (h : firstMatch needle (s.drop pos.toNat) = some i) :
    find s needle pos = BitVec.ofNat 32 (pos.toNat + i) := by
  simp [find, h]

theorem find_of_firstMatch_none {s needle : Text} {pos : SizeT}
    (h : firstMatch needle (s.drop pos.toNat) = none) : find s needle pos = npos := by
  simp [find, h]

theorem toNat_npos : npos.toNat = 2 ^ 32 - 1 := by
  simp [npos]

theorem ofNat_ne_npos {n : Nat} (h : n < 2 ^ 32 - 1) : BitVec.ofNat 32 n ≠ npos := by
  intro e
  have := congrArg BitVec.toNat e
  simp [npos, Nat.mod_eq_of_lt (show n < 2 ^ 32 by omega)] at this
  omega

/-! ## `substr` -/

@[simp] theorem substr_of_le {s : Text} {pos count : SizeT} (h : pos.toNat ≤ s.length) :
    substr s pos count = .ok ((s.drop pos.toNat).take count.toNat) := by
  simp [substr, Nat.not_lt.mpr h]

theorem substr_of_lt {s : Text} {pos count : SizeT} (h : s.length < pos.toNat) :
    substr s pos count = .error .outOfRange := by
  simp [substr, h]

/-! ## `std::stoi` -/

/-- `isspace` in the C locale. -/
def isSpace (c : Char) : Bool :=
  c = ' ' || c = '\t' || c = '\n' || c = '\x0B' || c = '\x0C' || c = '\r'

/-- Value of a run of decimal digits, most significant first. -/
def decimalValue (digits : Text) : Nat :=
  digits.foldl (fun v c => 10 * v + (c.toNat - '0'.toNat)) 0

/-- The optional sign `strtol` accepts before the digits. -/
def splitSign : Text → Bool × Text
  | '-' :: u => (true, u)
  | '+' :: u => (false, u)
  | u => (false, u)

/-- `std::stoi` with base 10, as `strtol` reads the text: leading white space, an optional sign,
then the longest run of digits.  No digit throws `std::invalid_argument`; a value outside `int`
throws `std::out_of_range`; whatever follows the digits is ignored. -/
def stoi (s : Text) : Except StdException Int :=
  let signed := splitSign (s.dropWhile isSpace)
  let digits := signed.2.takeWhile Char.isDigit
  if digits.isEmpty then .error .invalidArgument
  else
    let value : Int := if signed.1 then -(decimalValue digits : Int) else decimalValue digits
    if value < -2 ^ 31 ∨ 2 ^ 31 ≤ value then .error .outOfRange else .ok value

/-- What `stoi` returns fits in an `int`. -/
theorem stoi_range {s : Text} {n : Int} (h : stoi s = .ok n) : -2 ^ 31 ≤ n ∧ n < 2 ^ 31 := by
  simp only [stoi] at h
  split_ifs at h <;> cases h <;> omega

theorem isSpace_of_isDigit {c : Char} (h : c.isDigit) : isSpace c = false := by
  simp only [Char.isDigit, Bool.and_eq_true, decide_eq_true_eq] at h
  simp only [isSpace, Bool.or_eq_false_iff, decide_eq_false_iff_not]
  refine ⟨⟨⟨⟨⟨?_, ?_⟩, ?_⟩, ?_⟩, ?_⟩, ?_⟩ <;> rintro rfl <;> revert h <;> decide

theorem takeWhile_digits {D post : Text} (hdig : ∀ c ∈ D, c.isDigit)
    (hpost : ∀ c ∈ post.head?, c.isDigit = false) : (D ++ post).takeWhile Char.isDigit = D := by
  rw [List.takeWhile_append_of_pos hdig]
  cases post with
  | nil => simp
  | cons c post => simp [List.takeWhile_cons, hpost c rfl]

/-- `stoi` reads a run of digits up to the first non-digit after it. -/
theorem stoi_digits {D post : Text} (hD : D ≠ []) (hdig : ∀ c ∈ D, c.isDigit)
    (hpost : ∀ c ∈ post.head?, c.isDigit = false) :
    stoi (D ++ post) =
      if 2 ^ 31 ≤ decimalValue D then .error .outOfRange else .ok (decimalValue D) := by
  have htake := takeWhile_digits hdig hpost
  obtain ⟨d, D, rfl⟩ := List.exists_cons_of_ne_nil hD
  have hd := hdig d (List.mem_cons_self d D)
  have hsign : splitSign (d :: (D ++ post)) = (false, d :: (D ++ post)) := by
    revert hd; simp only [splitSign, Char.isDigit]; split <;> simp_all
  simp only [List.cons_append] at htake
  simp only [stoi, List.cons_append, List.dropWhile_cons, isSpace_of_isDigit hd,
    Bool.false_eq_true, if_false, hsign, htake, List.isEmpty_cons]
  exact if_congr (by omega) rfl rfl

theorem stoi_neg_digits {D post : Text} (hD : D ≠ []) (hdig : ∀ c ∈ D, c.isDigit)
    (hpost : ∀ c ∈ post.head?, c.isDigit = false) :
    stoi ('-' :: (D ++ post)) =
      if 2 ^ 31 < decimalValue D then .error .outOfRange else .ok (-(decimalValue D : Int)) := by
  have htake := takeWhile_digits hdig hpost
  obtain ⟨d, D, rfl⟩ := List.exists_cons_of_ne_nil hD
  simp only [List.cons_append] at htake
  simp only [stoi, List.cons_append, List.dropWhile_cons, show isSpace '-' = false from rfl,
    Bool.false_eq_true, if_false, show ∀ u, splitSign ('-' :: u) = (true, u) from fun _ => rfl,
    htake, List.isEmpty_cons, if_true]
  exact if_congr (by omega) rfl rfl

/-! ## `std::to_string` -/

/-- `std::to_string` of an integer: its decimal digits, after a `-` when negative. -/
def stdToString (n : Int) : Text :=
  if n < 0 then '-' :: Nat.toDigits 10 n.natAbs else Nat.toDigits 10 n.natAbs

theorem digitChar_spec {k : Nat} (hk : k < 10) :
    (Nat.digitChar k).isDigit ∧ (Nat.digitChar k).toNat - '0'.toNat = k := by
  have : ∀ k : Fin 10, (Nat.digitChar k).isDigit ∧ (Nat.digitChar k).toNat - '0'.toNat = k := by
    decide
  exact this ⟨k, hk⟩

theorem mem_toDigitsCore {fuel n : Nat} {ds : Text} {c : Char}
    (h : c ∈ Nat.toDigitsCore 10 fuel n ds) : c.isDigit ∨ c ∈ ds := by
  induction fuel generalizing n ds with
  | zero => exact .inr h
  | succ fuel ih =>
    have hd := (digitChar_spec (Nat.mod_lt n (by norm_num : 10 > 0))).1
    simp only [Nat.toDigitsCore] at h
    split at h
    · rcases List.mem_cons.mp h with rfl | h
      · exact .inl hd
      · exact .inr h
    · rcases ih h with h | h
      · exact .inl h
      · rcases List.mem_cons.mp h with rfl | h
        · exact .inl hd
        · exact .inr h

theorem foldl_toDigitsCore {fuel n : Nat} {ds : Text} (h : n < fuel) :
    (Nat.toDigitsCore 10 fuel n ds).foldl (fun v c => 10 * v + (c.toNat - '0'.toNat)) 0 =
      ds.foldl (fun v c => 10 * v + (c.toNat - '0'.toNat)) n := by
  induction fuel generalizing n ds with
  | zero => omega
  | succ fuel ih =>
    have hd := (digitChar_spec (Nat.mod_lt n (by norm_num : 10 > 0))).2
    simp only [Nat.toDigitsCore]
    split
    · simp only [List.foldl_cons, hd]
      congr 1
      omega
    · rw [ih (by omega), List.foldl_cons, hd]
      congr 1
      omega

theorem decimalValue_toDigits (n : Nat) : decimalValue (Nat.toDigits 10 n) = n := by
  simpa using @foldl_toDigitsCore _ _ [] (Nat.lt_succ_self n)

theorem isDigit_of_mem_toDigits {n : Nat} {c : Char} (h : c ∈ Nat.toDigits 10 n) : c.isDigit :=
  (mem_toDigitsCore h).resolve_right (List.not_mem_nil c)

theorem toDigits_ne_nil (n : Nat) : Nat.toDigits 10 n ≠ [] := by
  simp only [Nat.toDigits, Nat.toDigitsCore]
  split
  · simp
  · rw [← List.length_pos, Nat.toDigitsCore_lens_eq]
    omega

/-- Every character `std::to_string` writes is a digit or the minus sign. -/
theorem mem_stdToString {n : Int} {c : Char} (h : c ∈ stdToString n) : c = '-' ∨ c.isDigit := by
  unfold stdToString at h
  split at h
  · rcases List.mem_cons.mp h with rfl | h
    · exact .inl rfl
    · exact .inr (isDigit_of_mem_toDigits h)
  · exact .inr (isDigit_of_mem_toDigits h)

/-- `std::to_string` of a `size_t`: its decimal digits. -/
theorem stdToString_natCast (n : Nat) : stdToString n = Nat.toDigits 10 n := by
  rw [stdToString, if_neg (by omega), Int.natAbs_ofNat]

theorem stdToString_ne_nil (n : Int) : stdToString n ≠ [] := by
  unfold stdToString; split
  · simp
  · exact toDigits_ne_nil _

theorem length_stdToString_le {n : Int} (h : n.natAbs < 10 ^ 10) : (stdToString n).length ≤ 11 := by
  have := Nat.toDigitsCore_length 10 (by decide) (n.natAbs + 1) n.natAbs 10 h (by decide)
  unfold stdToString
  split <;> simp only [Nat.toDigits, List.length_cons] <;> omega

/-- `std::stoi` reads back what `std::to_string` writes, for every `int`. -/
theorem stoi_stdToString {n : Int} (h₁ : -2 ^ 31 ≤ n) (h₂ : n < 2 ^ 31) :
    stoi (stdToString n) = .ok n := by
  have hdig := fun c => @isDigit_of_mem_toDigits n.natAbs c
  unfold stdToString
  split
  · rw [← List.append_nil (Nat.toDigits 10 n.natAbs),
      stoi_neg_digits (toDigits_ne_nil _) hdig (by simp), decimalValue_toDigits, if_neg (by omega)]
    congr 1
    omega
  · rw [← List.append_nil (Nat.toDigits 10 n.natAbs),
      stoi_digits (toDigits_ne_nil _) hdig (by simp), decimalValue_toDigits, if_neg (by omega)]
    congr 1
    omega

end Rtsp
end Espp

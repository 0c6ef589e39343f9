import Espp.Rtsp.Session

/-!
# Reading a request: the parsers at the level of lists

`handle_rtsp_request` and its parsers locate fields with `find`, `substr` and `size_t`
arithmetic.  This module states what they compute in plain list terms (the method is the text
before the first space, a header's value runs from its name to the next CR) and proves that the
word-level code computes exactly that for every request of the receive buffer's size.  The later
modules reason only about these list-level readings.
-/

namespace Espp
namespace Rtsp

/-! ## The list-level reading -/

/-- The value of the first `name` header: the text after the first `name` up to the next CR,
when a CR follows. -/
def headerValue (name t : Text) : Option Text :=
  (firstMatch name t).bind fun i =>
    let rest := t.drop (i + name.length)
    if '\r' ∈ rest then some (rest.takeWhile (· ≠ '\r')) else none

/-- The first `name` header, up to its CR or the end of the text, lies in the first `2^31`
bytes: the code's `size_t` offsets for it do not wrap. -/
def HeaderFits (name t : Text) : Prop :=
  ∀ i, firstMatch name t = some i →
    i + name.length + ((t.drop (i + name.length)).takeWhile (· ≠ '\r')).length < 2 ^ 31

/-- What `parse_rtsp_command_sequence` returns: nothing without a non-empty `CSeq: ` value, and
otherwise `std::stoi` of that value. -/
def cseqValue (t : Text) : Except StdException (Option Int) :=
  match headerValue "CSeq: ".toList t with
  | some v => if v = [] then .ok none else (stoi v).map some
  | none => .ok none

/-- The request has the two spaces and the CR `handle_rtsp_request` looks for. -/
def hasRequestLine (r : Text) : Prop := 2 ≤ r.count ' ' ∧ '\r' ∈ r

instance (r : Text) : Decidable (hasRequestLine r) := inferInstanceAs (Decidable (_ ∧ _))

/-- The method: the request up to its first space. -/
def methodToken (r : Text) : Text := r.takeWhile (· ≠ ' ')

/-- What `handle_rtsp_request` hands to the method handlers: the request after its first CR and
the byte after it. -/
def requestBody (r : Text) : Text := (r.dropWhile (· ≠ '\r')).drop 2

/-- The Transport header of a SETUP asks for interleaved TCP. -/
def requestsTcp (t : Text) : Bool :=
  match headerValue "Transport: ".toList t with
  | some v => decide ("RTP/AVP/TCP".toList <:+: v)
  | none => false

/-! ## List facts -/

theorem take_length_takeWhile (p : Char → Bool) (l : Text) :
    l.take (l.takeWhile p).length = l.takeWhile p := by
  induction l with
  | nil => rfl
  | cons a l ih => by_cases h : p a <;> simp [List.takeWhile_cons, h, ih]

theorem drop_length_takeWhile (p : Char → Bool) (l : Text) :
    l.drop (l.takeWhile p).length = l.dropWhile p := by
  induction l with
  | nil => rfl
  | cons a l ih => by_cases h : p a <;> simp [List.takeWhile_cons, List.dropWhile_cons, h, ih]

theorem dropWhile_ne_of_mem {r : Text} {c : Char} (h : c ∈ r) :
    r.dropWhile (· ≠ c) = c :: (r.dropWhile (· ≠ c)).tail := by
  induction r with
  | nil => simp at h
  | cons a r ih =>
    by_cases ha : a = c
    · subst ha; simp
    · simp only [List.mem_cons, Ne.symm ha, false_or] at h
      simpa [List.dropWhile_cons, ha] using ih h

theorem length_takeWhile_add {r : Text} {c : Char} :
    (r.takeWhile (· ≠ c)).length + (r.dropWhile (· ≠ c)).length = r.length := by
  rw [← List.length_append, List.takeWhile_append_dropWhile]

theorem length_dropWhile_pos {r : Text} {c : Char} (h : c ∈ r) : 0 < (r.dropWhile (· ≠ c)).length := by
  rw [dropWhile_ne_of_mem h]; simp

theorem length_takeWhile_lt {r : Text} {c : Char} (h : c ∈ r) :
    (r.takeWhile (· ≠ c)).length < r.length := by
  have := @length_takeWhile_add r c
  have := length_dropWhile_pos h
  omega

theorem count_takeWhile_ne (r : Text) (c : Char) : (r.takeWhile (· ≠ c)).count c = 0 :=
  List.count_eq_zero.mpr fun h => by simpa using List.mem_takeWhile_imp h

theorem two_le_count_iff {r : Text} {c : Char} (h : c ∈ r) :
    2 ≤ r.count c ↔ c ∈ (r.dropWhile (· ≠ c)).tail := by
  have hsplit := List.takeWhile_append_dropWhile (fun x => decide (x ≠ c)) r
  have hcount := congrArg (List.count c) hsplit
  rw [List.count_append, count_takeWhile_ne, dropWhile_ne_of_mem h, List.count_cons_self] at hcount
  rw [← hcount, ← List.count_pos_iff]
  omega

theorem bind_eq_ok {ε α β : Type} {x : Except ε α} {f : α → Except ε β} {b : β} :
    x >>= f = .ok b ↔ ∃ a, x = .ok a ∧ f a = .ok b := by
  cases x <;> simp [bind, Except.bind]

/-! ## Searches -/

theorem drop_of_firstMatch {needle t : Text} {i : Nat} (h : firstMatch needle t = some i) :
    t.drop i = needle ++ t.drop (i + needle.length) := by
  obtain ⟨rest, hrest⟩ := (firstMatch_eq_some_iff.mp h).2.1
  have hdrop : t.drop (i + needle.length) = rest := by
    rw [← List.drop_drop, ← hrest, List.drop_left]
  rw [hdrop, hrest]

theorem add_length_le_of_firstMatch {needle t : Text} {i : Nat} (h : firstMatch needle t = some i) :
    i + needle.length ≤ t.length := by
  have := congrArg List.length (drop_of_firstMatch h)
  simp only [List.length_drop, List.length_append] at this
  have := (firstMatch_eq_some_iff.mp h).1
  omega

theorem firstMatch_eq_none_iff_not_occurs {needle t : Text} (hn : needle ≠ []) :
    firstMatch needle t = none ↔ ¬ needle <:+: t := by
  rw [firstMatch_eq_none_iff, List.infix_iff_prefix_suffix]
  constructor
  · rintro h ⟨u, hp, hs⟩
    rw [List.suffix_iff_eq_drop] at hs
    have hlen := hp.length_le
    have hu : u.length ≠ 0 := fun h0 => hn (List.eq_nil_of_length_eq_zero (by omega))
    rw [hs] at hp hu
    simp only [List.length_drop] at hu
    exact h _ (by omega) hp
  · exact fun h j _ hp => h ⟨_, hp, List.drop_suffix j t⟩

theorem firstMatch_of_prefix {needle t : Text} (hn : needle ≠ []) (h : needle <+: t) :
    firstMatch needle t = some 0 := by
  cases t with
  | nil => exact absurd (List.prefix_nil.mp h) hn
  | cons c t => simp [firstMatch, h]

/-- A search skips a prefix that does not hold the needle's first character. -/
theorem firstMatch_append_of_not_mem {needle pre t : Text} {c : Char} (hc : needle.head? = some c)
    (hpre : c ∉ pre) : firstMatch needle (pre ++ t) = (firstMatch needle t).map (· + pre.length) := by
  induction pre with
  | nil => simp
  | cons x pre ih =>
    obtain ⟨u, rfl⟩ : ∃ u, needle = c :: u := by
      cases needle <;> simp_all
    have hx : c ≠ x := fun e => hpre (e ▸ List.mem_cons_self c pre)
    rw [List.cons_append, firstMatch, if_neg (by simp [hx]),
      ih (fun h => hpre (List.mem_cons_of_mem x h)), Option.map_map]
    simp only [Function.comp_def, List.length_cons, Nat.add_assoc]

theorem toNat_ofNat_of_lt {n : Nat} (h : n < 2 ^ 32) : (BitVec.ofNat 32 n).toNat = n := by
  rw [BitVec.toNat_ofNat, Nat.mod_eq_of_lt h]

theorem find_char_zero (r : Text) (c : Char) :
    find r [c] 0 = if c ∈ r then BitVec.ofNat 32 (r.takeWhile (· ≠ c)).length else npos := by
  by_cases hc : c ∈ r <;> simp [find, firstMatch_singleton, hc]

/-- The second search of `handle_rtsp_request`, from just after the first space. -/
theorem find_after_first {r : Text} {c : Char} (h : c ∈ r) (hr : r.length < 2 ^ 31) :
    find r [c] (BitVec.ofNat 32 (r.takeWhile (· ≠ c)).length + 1) =
      if c ∈ (r.dropWhile (· ≠ c)).tail then
        BitVec.ofNat 32 ((r.takeWhile (· ≠ c)).length + 1 +
          ((r.dropWhile (· ≠ c)).tail.takeWhile (· ≠ c)).length)
      else npos := by
  have hlen := @length_takeWhile_add r c
  have hpos := length_dropWhile_pos h
  have hdrop : r.drop ((r.takeWhile (· ≠ c)).length + 1) = (r.dropWhile (· ≠ c)).tail := by
    rw [← List.drop_drop, drop_length_takeWhile, List.drop_one]
  unfold find
  rw [show (BitVec.ofNat 32 (r.takeWhile (· ≠ c)).length + 1).toNat =
    (r.takeWhile (· ≠ c)).length + 1 by bv_omega, hdrop, firstMatch_singleton]
  by_cases hc : c ∈ (r.dropWhile (· ≠ c)).tail
  · rw [if_pos hc, if_pos hc]
  · rw [if_neg hc, if_neg hc]

/-- The CR after a needle free of CRs. -/
theorem find_cr_after {t name : Text} {i : Nat} (hname : '\r' ∉ name)
    (hi : firstMatch name t = some i) (hi32 : i < 2 ^ 32) :
    find t ['\r'] (BitVec.ofNat 32 i) =
      if '\r' ∈ t.drop (i + name.length) then
        BitVec.ofNat 32 (i + name.length + ((t.drop (i + name.length)).takeWhile (· ≠ '\r')).length)
      else npos := by
  have hname' : ∀ c ∈ name, (fun x => !decide (x = '\r')) c = true := fun c hc => by
    simp only [Bool.not_eq_true', decide_eq_false_iff_not]; rintro rfl; exact hname hc
  unfold find
  rw [toNat_ofNat_of_lt hi32, drop_of_firstMatch hi, firstMatch_singleton]
  by_cases hr : '\r' ∈ t.drop (i + name.length)
  · simp [hr, hname, List.takeWhile_append_of_pos hname', Nat.add_assoc]
  · simp [hr, hname]

theorem find_ne_npos_iff_occurs {v needle : Text} (hn : needle ≠ []) (hv : v.length < 2 ^ 31) :
    find v needle 0 ≠ npos ↔ needle <:+: v := by
  cases hm : firstMatch needle v with
  | none =>
    rw [@find_of_firstMatch_none _ _ 0 (by simpa using hm)]
    simpa using (firstMatch_eq_none_iff_not_occurs hn).mp hm
  | some i =>
    have := (firstMatch_eq_some_iff.mp hm).1
    rw [@find_of_firstMatch_some _ _ 0 _ (by simpa using hm)]
    exact iff_of_true (ofNat_ne_npos (by bv_omega)) <|
      List.infix_iff_prefix_suffix.mpr ⟨_, (firstMatch_eq_some_iff.mp hm).2.1, List.drop_suffix i v⟩

theorem substr_eq_ok {t : Text} {pos count : SizeT} {a m : Nat} (hpos : pos.toNat = a)
    (hcount : count.toNat = m) (h : a ≤ t.length) : substr t pos count = .ok ((t.drop a).take m) := by
  rw [substr_of_le (hpos ▸ h), hpos, hcount]

/-! ## Headers -/

theorem headerFits_of_length {name t : Text} (ht : t.length < 2 ^ 31) : HeaderFits name t :=
  fun i hi => by
    have := add_length_le_of_firstMatch hi
    have := (List.takeWhile_prefix (fun x => decide (x ≠ '\r'))
      (l := t.drop (i + name.length))).length_le
    simp only [List.length_drop] at this
    omega

/-- The code's two searches for a header miss exactly when `headerValue` finds nothing. -/
theorem find_header_eq_npos_iff {t name : Text} (hname : '\r' ∉ name) (hfit : HeaderFits name t) :
    (find t name 0 = npos ∨ find t ['\r'] (find t name 0) = npos) ↔ headerValue name t = none := by
  cases hm : firstMatch name t with
  | none =>
    rw [@find_of_firstMatch_none _ _ 0 (by simpa using hm)]
    simp [headerValue, hm]
  | some i =>
    have hb := hfit i hm
    rw [@find_of_firstMatch_some _ _ 0 _ (by simpa using hm), show (0 : SizeT).toNat = 0 from rfl,
      Nat.zero_add, find_cr_after hname hm (by omega)]
    by_cases hr : '\r' ∈ t.drop (i + name.length)
    · simp only [if_pos hr, headerValue, hm, Option.some_bind, reduceCtorEq, iff_false, not_or]
      exact ⟨ofNat_ne_npos (by omega), ofNat_ne_npos (by omega)⟩
    · simp [hr, headerValue, hm]

/-- Where the header is found, the code's `substr` between the two searches is its value. -/
theorem substr_header {t name v : Text} {k : SizeT} (hname : '\r' ∉ name)
    (hk : k.toNat = name.length) (hfit : HeaderFits name t) (h : headerValue name t = some v) :
    substr t (find t name 0 + k) (find t ['\r'] (find t name 0) - find t name 0 - k) = .ok v := by
  cases hm : firstMatch name t with
  | none => simp [headerValue, hm] at h
  | some i =>
    have hb := hfit i hm
    have hle := add_length_le_of_firstMatch hm
    by_cases hr : '\r' ∈ t.drop (i + name.length)
    · simp only [headerValue, hm, Option.some_bind, if_pos hr, Option.some.injEq] at h
      subst h
      rw [@find_of_firstMatch_some _ _ 0 _ (by simpa using hm), show (0 : SizeT).toNat = 0 from rfl,
        Nat.zero_add, find_cr_after hname hm (by omega), if_pos hr,
        substr_eq_ok (a := i + name.length)
          (m := ((t.drop (i + name.length)).takeWhile (· ≠ '\r')).length) (by bv_omega) (by bv_omega) hle,
        take_length_takeWhile]
    · simp [headerValue, hm, hr] at h

theorem length_le_of_headerValue {name t v : Text} (h : headerValue name t = some v) :
    v.length ≤ t.length := by
  simp only [headerValue, Option.bind_eq_some, Option.ite_none_right_eq_some,
    Option.some.injEq] at h
  obtain ⟨i, -, -, rfl⟩ := h
  exact ((List.takeWhile_prefix _).length_le).trans (by simp)

theorem firstMatch_header {name pre t : Text} {c : Char} (hc : name.head? = some c)
    (hpre : c ∉ pre) : firstMatch name (pre ++ name ++ t) = some pre.length := by
  have hn : name ≠ [] := by rintro rfl; cases hc
  rw [List.append_assoc, firstMatch_append_of_not_mem hc hpre,
    firstMatch_of_prefix hn (List.prefix_append _ _)]
  simp

theorem drop_header {name pre t : Text} : (pre ++ name ++ t).drop (pre.length + name.length) = t := by
  rw [List.append_assoc, List.drop_append_eq_append_drop]
  simp

theorem takeWhile_ne_cr {v rest : Text} (hv : '\r' ∉ v) :
    (v ++ '\r' :: rest).takeWhile (· ≠ '\r') = v := by
  rw [List.takeWhile_append_of_pos (fun x hx => by simpa using ne_of_mem_of_not_mem hx hv)]
  simp

/-- The value of a header whose name's first character does not occur before it. -/
theorem headerValue_append {name pre v rest : Text} {c : Char} (hc : name.head? = some c)
    (hpre : c ∉ pre) (hv : '\r' ∉ v) :
    headerValue name (pre ++ name ++ (v ++ '\r' :: rest)) = some v := by
  rw [headerValue, firstMatch_header hc hpre]
  simp only [Option.some_bind, drop_header, takeWhile_ne_cr hv]
  simp

theorem headerFits_append {name pre v rest : Text} {c : Char} (hc : name.head? = some c)
    (hpre : c ∉ pre) (hv : '\r' ∉ v) (hlen : pre.length + name.length + v.length < 2 ^ 31) :
    HeaderFits name (pre ++ name ++ (v ++ '\r' :: rest)) := by
  intro i hi
  rw [firstMatch_header hc hpre, Option.some.injEq] at hi
  subst hi
  rwa [drop_header, takeWhile_ne_cr hv]

/-- `parse_rtsp_command_sequence` reads the first `CSeq: ` header's value with `std::stoi`. -/
theorem parseRtspCommandSequence_eq {t : Text} (hfit : HeaderFits "CSeq: ".toList t) :
    RtspSession.parseRtspCommandSequence t = cseqValue t := by
  unfold RtspSession.parseRtspCommandSequence cseqValue
  simp only [pure_bind]
  cases hv : headerValue "CSeq: ".toList t with
  | none =>
    rcases (find_header_eq_npos_iff (by decide) hfit).mpr hv with h | h <;>
      simp only [h, if_true, ite_self] <;> rfl
  | some v =>
    have hne := not_or.mp ((@find_header_eq_npos_iff _ "CSeq: ".toList (by decide) hfit).not.mpr
      (by rw [hv]; exact Option.some_ne_none v))
    rw [if_neg hne.1, if_neg hne.2, @substr_header _ "CSeq: ".toList _ 6 (by decide) rfl hfit hv]
    simp only [bind, Except.bind, List.isEmpty_iff]
    split
    · rfl
    · cases stoi v <;> rfl

/-- The value the code cuts out between `Transport: ` and the next CR. -/
theorem transport_eq_headerValue {t transport : Text} (ht : t.length < 2 ^ 31)
    (h1 : ¬ find t "Transport: ".toList 0 = npos)
    (h2 : ¬ find t ['\r'] (find t "Transport: ".toList 0) = npos)
    (h : substr t (find t "Transport: ".toList 0 + 11)
      (find t ['\r'] (find t "Transport: ".toList 0) - find t "Transport: ".toList 0 - 11) =
        .ok transport) :
    headerValue "Transport: ".toList t = some transport := by
  cases hv : headerValue "Transport: ".toList t with
  | none =>
    exact absurd ((find_header_eq_npos_iff (by decide) (headerFits_of_length ht)).mpr hv)
      (not_or.mpr ⟨h1, h2⟩)
  | some v =>
    rw [@substr_header _ "Transport: ".toList _ 11 (by decide) rfl
      (headerFits_of_length ht) hv] at h
    cases h
    rfl

/-! ## The SETUP parser -/

/-- The RTP port slice of `parse_rtsp_setup_request`: from twelve bytes after the first
`client_port=` to the next `-`, in the code's `size_t` arithmetic. -/
def rtpPortSlice (t : Text) : Except StdException Text :=
  substr t (find t "client_port=".toList 0 + 12)
    (find t ['-'] (find t "client_port=".toList 0) - find t "client_port=".toList 0 - 12)

/-- The RTCP port slice: from after that `-` to the next CR after `client_port=`. -/
def rtcpPortSlice (t : Text) : Except StdException Text :=
  substr t (find t ['-'] (find t "client_port=".toList 0) + 1)
    (find t ['\r'] (find t "client_port=".toList 0) - find t ['-'] (find t "client_port=".toList 0) - 1)

/-- The SETUP bodies `parse_rtsp_setup_request` rejects with false having sent nothing: the path
it reads is empty; there is no `Transport: ` with a CR after it, or its value is empty; or the
transport does not ask for TCP and the RTP or the RTCP port slice is empty. -/
def SetupSilent (t : Text) : Prop :=
  (RtspSession.parseRtspPath t).toOption = some [] ∨
    (headerValue "Transport: ".toList t).all List.isEmpty = true ∨
    (requestsTcp t = false ∧
      ((rtpPortSlice t).toOption = some [] ∨ (rtcpPortSlice t).toOption = some []))

instance (t : Text) : Decidable (SetupSilent t) := inferInstanceAs (Decidable (_ ∨ _))

/-- A body with a path, a transport value and, unless it asks for TCP, both port slices is not
rejected silently. -/
theorem not_setupSilent {t path transport : Text}
    (hpath : RtspSession.parseRtspPath t = .ok path) (hp : path ≠ [])
    (hv : headerValue "Transport: ".toList t = some transport) (htr : transport ≠ [])
    (hports : requestsTcp t = false → ∃ a b, rtpPortSlice t = .ok a ∧ a ≠ [] ∧
      rtcpPortSlice t = .ok b ∧ b ≠ []) :
    ¬ SetupSilent t := by
  rintro (h | h | ⟨hno, h | h⟩)
  · rw [hpath] at h
    exact hp (Option.some.inj h)
  · rw [hv] at h
    exact htr (by simpa using h)
  · obtain ⟨a, b, ha, ha0, -, -⟩ := hports hno
    rw [ha] at h
    exact ha0 (Option.some.inj h)
  · obtain ⟨a, b, -, -, hb, hb0⟩ := hports hno
    rw [hb] at h
    exact hb0 (Option.some.inj h)

open RtspSession in
/-- Every normal return of `parse_rtsp_setup_request`: a silent failure, exactly on the bodies of
`SetupSilent`; the 461 answer to a TCP transport; or the ports of a non-TCP transport. -/
theorem parseRtspSetupRequest_ok {s s' : RtspSession} {t : Text} {p : Option (Text × Int × Int)}
    (ht : t.length < 2 ^ 31) (h : s.parseRtspSetupRequest t = .ok (p, s')) :
    (p = none ∧ s' = s ∧ SetupSilent t) ∨
      (p = none ∧ s' = s.transmit ⟨461, "Unsupported Transport".toList, -1, [], []⟩ ∧
        requestsTcp t ∧ ¬ SetupSilent t) ∨
      (p.isSome ∧ s' = s ∧ requestsTcp t = false ∧ ¬ SetupSilent t) := by
  have silent : (pure (none, s) : Except StdException _) = .ok (p, s') → SetupSilent t →
      p = none ∧ s' = s ∧ SetupSilent t :=
    fun e hs => by cases e; exact ⟨rfl, rfl, hs⟩
  have hfit : HeaderFits "Transport: ".toList t := headerFits_of_length ht
  simp only [parseRtspSetupRequest, pure_bind] at h
  obtain ⟨path, hpath, h⟩ := bind_eq_ok.mp h
  rcases ite_eq_iff.mp h with ⟨hp, e⟩ | ⟨hp, h⟩
  · exact .inl (silent e (.inl (by rw [hpath, List.isEmpty_iff.mp hp]; rfl)))
  have hp : path ≠ [] := fun h0 => hp (by rw [h0]; rfl)
  rcases ite_eq_iff.mp h with ⟨h1, e⟩ | ⟨h1, h⟩
  · exact .inl (silent e (.inr (.inl (by
      rw [(find_header_eq_npos_iff (by decide) hfit).mp (.inl h1)]; rfl))))
  rcases ite_eq_iff.mp h with ⟨h2, e⟩ | ⟨h2, h⟩
  · exact .inl (silent e (.inr (.inl (by
      rw [(find_header_eq_npos_iff (by decide) hfit).mp (.inr h2)]; rfl))))
  obtain ⟨transport, htr, h⟩ := bind_eq_ok.mp h
  have hv := transport_eq_headerValue ht h1 h2 htr
  have hlen : transport.length < 2 ^ 31 := (length_le_of_headerValue hv).trans_lt ht
  rcases ite_eq_iff.mp h with ⟨he, e⟩ | ⟨he, h⟩
  · exact .inl (silent e (.inr (.inl (by rw [hv]; simpa using he))))
  have htr : transport ≠ [] := fun h0 => he (by rw [h0]; rfl)
  have htcp_iff : requestsTcp t = true ↔ find transport "RTP/AVP/TCP".toList 0 ≠ npos := by
    simp only [requestsTcp, hv, @find_ne_npos_iff_occurs transport "RTP/AVP/TCP".toList
      (by decide) hlen, decide_eq_true_eq]
  rcases ite_eq_iff.mp h with ⟨htcp, ⟨⟩⟩ | ⟨htcp, h⟩
  · have hyes := htcp_iff.mpr htcp
    exact .inr (.inl ⟨rfl, rfl, hyes, not_setupSilent hpath hp hv htr fun hno =>
      absurd (hno.symm.trans hyes) Bool.false_ne_true⟩)
  have hno : requestsTcp t = false := Bool.eq_false_iff.mpr (mt htcp_iff.mp htcp)
  obtain ⟨rtpPort, hrtp, h⟩ := bind_eq_ok.mp h
  rcases ite_eq_iff.mp h with ⟨hr0, e⟩ | ⟨hr0, h⟩
  · refine .inl (silent e (.inr (.inr ⟨hno, .inl ?_⟩)))
    rw [show rtpPortSlice t = .ok rtpPort from hrtp, List.isEmpty_iff.mp hr0]
    rfl
  obtain ⟨rtcpPort, hrtcp, h⟩ := bind_eq_ok.mp h
  rcases ite_eq_iff.mp h with ⟨hc0, e⟩ | ⟨hc0, h⟩
  · refine .inl (silent e (.inr (.inr ⟨hno, .inr ?_⟩)))
    rw [show rtcpPortSlice t = .ok rtcpPort from hrtcp, List.isEmpty_iff.mp hc0]
    rfl
  obtain ⟨_, -, h⟩ := bind_eq_ok.mp h
  obtain ⟨_, -, ⟨⟩⟩ := bind_eq_ok.mp h
  refine .inr (.inr ⟨rfl, rfl, hno, not_setupSilent hpath hp hv htr fun _ =>
    ⟨rtpPort, rtcpPort, hrtp, fun h0 => hr0 ?_, hrtcp, fun h0 => hc0 ?_⟩⟩)
  · rw [h0]; rfl
  · rw [h0]; rfl

/-! ## The request line -/

theorem handleRtspRequest_eq (s : RtspSession) {r : Text} (hr : r.length < 2 ^ 31) :
    s.handleRtspRequest r =
      if hasRequestLine r then
        if (r.dropWhile (· ≠ '\r')).length < 2 then .error .outOfRange
        else s.dispatchRtspMethod (methodToken r) (requestBody r)
      else s.handleRtspInvalidRequest r := by
  unfold RtspSession.handleRtspRequest
  dsimp only
  by_cases hsp : ' ' ∈ r
  swap
  · have hc : ¬ 2 ≤ r.count ' ' := by rw [List.count_eq_zero.mpr hsp]; omega
    rw [find_char_zero r ' ', if_neg hsp, if_pos (Or.inl rfl), if_neg fun h => hc h.1]
  rw [find_char_zero r ' ', if_pos hsp, find_after_first hsp hr, find_char_zero r '\r']
  by_cases h2 : ' ' ∈ (r.dropWhile (· ≠ ' ')).tail
  swap
  · rw [if_neg h2, if_pos (Or.inr (Or.inl rfl)),
      if_neg fun h => h2 ((two_le_count_iff hsp).mp h.1)]
  by_cases hcr : '\r' ∈ r
  swap
  · rw [if_neg hcr, if_pos (Or.inr (Or.inr rfl)), if_neg fun h => hcr h.2]
  have ha := length_takeWhile_lt hsp
  have hb := length_takeWhile_lt h2
  have he := length_takeWhile_lt hcr
  have htail :
      (r.dropWhile (· ≠ ' ')).tail.length + (r.takeWhile (· ≠ ' ')).length + 1 = r.length := by
    have := @length_takeWhile_add r ' '
    have := length_dropWhile_pos hsp
    simp only [List.length_tail]
    omega
  have hcrlen := @length_takeWhile_add r '\r'
  rw [if_pos h2, if_pos hcr,
    if_pos (show hasRequestLine r from ⟨(two_le_count_iff hsp).mpr h2, hcr⟩)]
  set a := (r.takeWhile (· ≠ ' ')).length
  set b := ((r.dropWhile (· ≠ ' ')).tail.takeWhile (· ≠ ' ')).length
  set e := (r.takeWhile (· ≠ '\r')).length
  have h1 : BitVec.ofNat 32 a ≠ npos := ofNat_ne_npos (by omega)
  have h2' : BitVec.ofNat 32 (a + 1 + b) ≠ npos := ofNat_ne_npos (by omega)
  have h3 : BitVec.ofNat 32 e ≠ npos := ofNat_ne_npos (by omega)
  rw [if_neg (by simp only [h1, h2', h3, or_self, not_false_eq_true])]
  rw [substr_of_le (by simp), substr_of_le (by bv_omega), substr_of_le (by bv_omega)]
  by_cases hbody : (r.dropWhile (· ≠ '\r')).length < 2
  · rw [if_pos hbody, substr_of_lt (by bv_omega)]
    rfl
  · rw [if_neg hbody, substr_of_le (by bv_omega)]
    simp only [bind, Except.bind]
    congr 1
    · rw [toNat_ofNat_of_lt (by omega), show (0 : SizeT).toNat = 0 from rfl, List.drop_zero,
        take_length_takeWhile]
      rfl
    · have hn : r.length ≤ npos.toNat := by rw [toNat_npos]; omega
      rw [show (BitVec.ofNat 32 e + 2).toNat = e + 2 by bv_omega,
        List.take_of_length_le (by simp only [List.length_drop]; omega), requestBody,
        ← drop_length_takeWhile, List.drop_drop]

end Rtsp
end Espp

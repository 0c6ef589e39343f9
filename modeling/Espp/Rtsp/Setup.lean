import Espp.Rtsp.Handle

/-!
# The client ports of SETUP

`handle_rtsp_setup` hands `parse_rtsp_setup_request` the request body, the request after its
first CR and the byte after it.  The parser cuts the RTP port from after the body's first
`client_port=` up to the next dash, and the RTCP port from after that dash up to the CR after
`client_port=`, and hands both to `std::stoi`.  Where the first `client_port=` of the body is
followed by two runs of digits around a dash, the ports are their decimal values, with no range
check.
-/

namespace Espp
namespace Rtsp

open RtspSession

theorem length_clientPort : "client_port=".toList.length = 12 := rfl

/-- The dash after `client_port=N`, for a run of digits `N`. -/
theorem find_dash {t pre N rest : Text} (ht : t = pre ++ "client_port=".toList ++ (N ++ '-' :: rest))
    (hN : ∀ c ∈ N, c.isDigit) (hlen : t.length < 2 ^ 31) :
    find t ['-'] (BitVec.ofNat 32 pre.length) = BitVec.ofNat 32 (pre.length + 12 + N.length) := by
  have hpre : pre.length < 2 ^ 32 := by rw [ht] at hlen; simp at hlen; omega
  have hdash : '-' ∉ "client_port=".toList ++ N := by
    simp only [List.mem_append, not_or]
    exact ⟨by decide, fun h => by simpa using hN _ h⟩
  unfold find
  rw [toNat_ofNat_of_lt hpre, ht, List.append_assoc, List.drop_left, ← List.append_assoc,
    firstMatch_append_of_not_mem (show (['-'] : Text).head? = some '-' from rfl) hdash,
    firstMatch_of_prefix (by decide) (by simp)]
  simp only [Option.map_some', List.length_append, Nat.zero_add]
  rw [length_clientPort, Nat.add_assoc]

/-- A search for a character from `i` that does not occur in the next `k` characters misses, or
lands at or after `i + k`. -/
theorem find_char_ge {t : Text} {c : Char} {i k : Nat} (hc : c ∉ (t.drop i).take k)
    (hik : i + k ≤ t.length) (ht : t.length < 2 ^ 31) :
    find t [c] (BitVec.ofNat 32 i) = npos ∨
      ∃ j, find t [c] (BitVec.ofNat 32 i) = BitVec.ofNat 32 (i + k + j) ∧ i + k + j < t.length := by
  unfold find
  rw [toNat_ofNat_of_lt (by omega), ← List.take_append_drop k (t.drop i),
    firstMatch_append_of_not_mem (show ([c] : Text).head? = some c from rfl) hc]
  cases hm : firstMatch [c] ((t.drop i).drop k) with
  | none => exact .inl rfl
  | some j =>
    have := (firstMatch_eq_some_iff.mp hm).1
    simp only [List.length_drop, List.length_take] at this
    refine .inr ⟨j, ?_, by omega⟩
    simp only [Option.map_some', List.length_take, List.length_drop]
    congr 1
    omega

theorem head?_take_mem {l : Text} {m : Nat} {c : Char} (h : c ∈ (l.take m).head?) : c ∈ l.head? := by
  cases l <;> cases m <;> simp_all

/-- Where `parse_rtsp_setup_request` returns ports, they are what `std::stoi` reads from the two
slices after the first `client_port=`. -/
theorem parseRtspSetupRequest_some {s s' : RtspSession} {t path : Text} {p q : Int}
    (h : s.parseRtspSetupRequest t = .ok (some (path, p, q), s')) :
    ∃ rtp rtcp, substr t (find t "client_port=".toList 0 + 12)
        (find t ['-'] (find t "client_port=".toList 0) - find t "client_port=".toList 0 - 12) =
          .ok rtp ∧
      substr t (find t ['-'] (find t "client_port=".toList 0) + 1)
        (find t ['\r'] (find t "client_port=".toList 0) -
          find t ['-'] (find t "client_port=".toList 0) - 1) = .ok rtcp ∧
      stoi rtp = .ok p ∧ stoi rtcp = .ok q := by
  simp only [parseRtspSetupRequest, pure_bind] at h
  obtain ⟨_, -, h⟩ := bind_eq_ok.mp h
  obtain ⟨-, ⟨⟩⟩ | ⟨-, h⟩ := ite_eq_iff.mp h
  obtain ⟨-, ⟨⟩⟩ | ⟨-, h⟩ := ite_eq_iff.mp h
  obtain ⟨-, ⟨⟩⟩ | ⟨-, h⟩ := ite_eq_iff.mp h
  obtain ⟨_, -, h⟩ := bind_eq_ok.mp h
  obtain ⟨-, ⟨⟩⟩ | ⟨-, h⟩ := ite_eq_iff.mp h
  obtain ⟨-, ⟨⟩⟩ | ⟨-, h⟩ := ite_eq_iff.mp h
  obtain ⟨rtp, hrtp, h⟩ := bind_eq_ok.mp h
  obtain ⟨-, ⟨⟩⟩ | ⟨-, h⟩ := ite_eq_iff.mp h
  obtain ⟨rtcp, hrtcp, h⟩ := bind_eq_ok.mp h
  obtain ⟨-, ⟨⟩⟩ | ⟨-, h⟩ := ite_eq_iff.mp h
  obtain ⟨q1, hq1, h⟩ := bind_eq_ok.mp h
  obtain ⟨q2, hq2, ⟨⟩⟩ := bind_eq_ok.mp h
  exact ⟨rtp, rtcp, hrtp, hrtcp, hq1, hq2⟩

/-- The RTP slice of `parse_rtsp_setup_request`, from after `client_port=` to the dash, is `N`. -/
theorem substr_rtpPort {t pre N M post : Text} (hlen : t.length < 2 ^ 31)
    (ht : t = pre ++ "client_port=".toList ++ (N ++ '-' :: (M ++ post))) :
    substr t (BitVec.ofNat 32 pre.length + 12)
      (BitVec.ofNat 32 (pre.length + 12 + N.length) - BitVec.ofNat 32 pre.length - 12) = .ok N := by
  have hsize : pre.length + 12 + N.length ≤ t.length := by
    rw [ht]
    simp only [List.length_append, List.length_cons, length_clientPort]
    omega
  rw [substr_eq_ok (a := pre.length + 12) (m := N.length) (by bv_omega) (by bv_omega) (by omega),
    ht, List.append_assoc, ← List.drop_drop, List.drop_left,
    ← length_clientPort, List.drop_left, List.take_left]

/-- The RTCP slice, from after the dash to the next CR or to the end of the request, is `M` and
what follows it. -/
theorem substr_rtcpPort {t pre N M post rtcp : Text} (hlen : t.length < 2 ^ 31)
    (ht : t = pre ++ "client_port=".toList ++ (N ++ '-' :: (M ++ post)))
    (hNd : ∀ c ∈ N, c.isDigit) (hMd : ∀ c ∈ M, c.isDigit)
    (h : substr t (BitVec.ofNat 32 (pre.length + 12 + N.length) + 1)
      (find t ['\r'] (BitVec.ofNat 32 pre.length) -
        BitVec.ofNat 32 (pre.length + 12 + N.length) - 1) = .ok rtcp) :
    ∃ m, M.length ≤ m ∧ rtcp = (M ++ post).take m := by
  have hX : t.drop pre.length = ("client_port=".toList ++ N ++ '-' :: M) ++ post := by
    rw [ht, List.append_assoc, List.drop_left]
    simp
  have hcr : '\r' ∉ (t.drop pre.length).take ("client_port=".toList ++ N ++ '-' :: M).length := by
    rw [hX, List.take_left]
    simp only [List.mem_append, List.mem_cons, not_or]
    exact ⟨⟨by decide, fun h => by simpa using hNd _ h⟩, by decide,
      fun h => by simpa using hMd _ h⟩
  have hk : ("client_port=".toList ++ N ++ '-' :: M).length = 12 + N.length + 1 + M.length := by
    simp only [List.length_append, List.length_cons, length_clientPort]
    omega
  have hM' : t.drop (pre.length + 12 + N.length + 1) = M ++ post := by
    have e : t = (pre ++ ("client_port=".toList ++ N ++ ['-'])) ++ (M ++ post) := by rw [ht]; simp
    rw [e, List.drop_left']
    simp only [List.length_append, List.length_cons, List.length_nil,
      length_clientPort]
    omega
  have hsize : pre.length + 12 + N.length + 1 + M.length ≤ t.length := by
    rw [ht]
    simp only [List.length_append, List.length_cons, length_clientPort]
    omega
  rcases find_char_ge hcr (by omega) hlen with hf | ⟨j, hf, hj⟩ <;> rw [hf] at h
  · rw [substr_eq_ok (a := pre.length + 12 + N.length + 1)
      (m := 2 ^ 32 - 1 - (pre.length + 12 + N.length + 1)) (by bv_omega)
      (by have := toNat_npos; bv_omega) (by omega), hM', Except.ok.injEq] at h
    exact ⟨_, by omega, h.symm⟩
  · rw [hk, substr_eq_ok (a := pre.length + 12 + N.length + 1) (m := M.length + j)
      (by bv_omega) (by bv_omega) (by omega), hM', Except.ok.injEq] at h
    exact ⟨_, by omega, h.symm⟩

/-- Where the request's first `client_port=` is followed by digits `N`, a dash and digits `M`,
`parse_rtsp_setup_request` returns their decimal values as the ports. -/
theorem parseRtspSetupRequest_ports {s s' : RtspSession} {t pre N M post path : Text} {p q : Int}
    (hlen : t.length < 2 ^ 31) (h : s.parseRtspSetupRequest t = .ok (some (path, p, q), s'))
    (ht : t = pre ++ "client_port=".toList ++ (N ++ '-' :: (M ++ post)))
    (hcp : firstMatch "client_port=".toList t = some pre.length)
    (hN : N ≠ []) (hNd : ∀ c ∈ N, c.isDigit) (hM : M ≠ []) (hMd : ∀ c ∈ M, c.isDigit)
    (hpost : ∀ c ∈ post.head?, c.isDigit = false) :
    p = decimalValue N ∧ q = decimalValue M := by
  obtain ⟨rtp, rtcp, hrtp, hrtcp, hq1, hq2⟩ := parseRtspSetupRequest_some h
  have hcpi : find t "client_port=".toList 0 = BitVec.ofNat 32 pre.length := by
    rw [find_of_firstMatch_some (by simpa using hcp), show (0 : SizeT).toNat = 0 from rfl,
      Nat.zero_add]
  rw [hcpi, find_dash ht hNd hlen] at hrtp hrtcp
  rw [substr_rtpPort hlen ht, Except.ok.injEq] at hrtp
  obtain ⟨m, hm, rfl⟩ := substr_rtcpPort hlen ht hNd hMd hrtcp
  rw [← hrtp, ← List.append_nil N, stoi_digits hN hNd (by simp)] at hq1
  rw [List.take_append_eq_append_take, List.take_of_length_le hm,
    stoi_digits hM hMd (fun c hc => hpost c (head?_take_mem hc))] at hq2
  split_ifs at hq1 hq2
  cases hq1
  cases hq2
  exact ⟨rfl, rfl⟩

theorem command?_setup : command? "SETUP".toList = none := rfl

/-- `client_port=70000-70001` is stored and answered 200: nothing checks the range of a port. -/
theorem handleRtspRequest_port_out_of_range :
    let s := RtspSession.create 42 "host".toList "stream".toList
    (s.handleRtspRequest
        "SETUP a b\r\nCSeq: 3\r\nTransport: RTP/AVP;unicast;client_port=70000-70001\r\n\r\n".toList).map
      (fun x => (x.2.clientRtpPort, x.2.clientRtcpPort, x.2.outbox.map (·.code))) =
      .ok (some 70000, some 70001, [200]) :=
  rfl

/-- On every SETUP the reader can receive and `handle_rtsp_request` answers 200, where the first
`client_port=` of the request body (the request after its first CR and the byte after it) is
followed by runs of digits `N` and `M` around a dash, the stored ports, and those echoed in the
answer's Transport header, are the decimal values of `N` and `M`.  The search runs over the whole
body, not within the Transport header. -/
theorem handleRtspRequest_setup_ports {s s' : RtspSession} {r : Text} {b : Bool}
    {pre N M post : Text} (hr : r.length ≤ maxRequestSize) (h : s.handleRtspRequest r = .ok (b, s'))
    (hsetup : methodToken r = "SETUP".toList)
    (h200 : ∃ resp ∈ s'.outbox.drop s.outbox.length, resp.code = 200)
    (hbody : requestBody r = pre ++ "client_port=".toList ++ (N ++ '-' :: (M ++ post)))
    (hcp : firstMatch "client_port=".toList (requestBody r) = some pre.length)
    (hN : N ≠ []) (hNd : ∀ c ∈ N, c.isDigit) (hM : M ≠ []) (hMd : ∀ c ∈ M, c.isDigit)
    (hpost : ∀ c ∈ post.head?, c.isDigit = false) :
    s'.clientRtpPort = some (decimalValue N) ∧ s'.clientRtcpPort = some (decimalValue M) ∧
      ∃ n, s'.outbox = s.outbox ++
        [⟨200, "OK".toList, n, s.setupHeaders (decimalValue N) (decimalValue M), []⟩] := by
  have hb : (requestBody r).length < 2 ^ 31 :=
    (length_requestBody_le r).trans_lt (by unfold maxRequestSize at hr; omega)
  cases handleRtspRequest_handled hr h with
  | setup path p q n _ _ hp =>
    obtain ⟨rfl, rfl⟩ := parseRtspSetupRequest_ports hb hp hbody hcp hN hNd hM hMd hpost
    exact ⟨rfl, rfl, n, rfl⟩
  | unknownMethod _ _ _ hs => exact absurd hsetup hs
  | commandNoCSeq c _ hc | command c _ _ hc => rw [hsetup, command?_setup] at hc; cases hc
  | badLine | setupNoCSeq => simp [badRequest] at h200
  | tcpTransport => simp [unsupportedTransport] at h200
  | setupIgnored => simp at h200

theorem handleRtspRequest_setup_ports_5000 :
    let s := RtspSession.create 42 "host".toList "stream".toList
    ∃ b s', s.handleRtspRequest
        "SETUP rtsp://host/stream RTSP/1.0\r\nCSeq: 3\r\nTransport: RTP/AVP;unicast;client_port=5000-5001\r\n\r\n".toList = .ok (b, s') ∧
      (∃ resp ∈ s'.outbox.drop s.outbox.length, resp.code = 200) ∧
      s'.clientRtpPort = some (decimalValue "5000".toList) ∧
      s'.clientRtcpPort = some (decimalValue "5001".toList) ∧
      ∃ n, s'.outbox = s.outbox ++ [⟨200, "OK".toList, n,
        s.setupHeaders (decimalValue "5000".toList) (decimalValue "5001".toList), []⟩] :=
  ⟨_, _, rfl, by decide, @handleRtspRequest_setup_ports _ _
    "SETUP rtsp://host/stream RTSP/1.0\r\nCSeq: 3\r\nTransport: RTP/AVP;unicast;client_port=5000-5001\r\n\r\n".toList _
    "CSeq: 3\r\nTransport: RTP/AVP;unicast;".toList "5000".toList "5001".toList "\r\n\r\n".toList
    (by decide) rfl rfl (by decide) (by decide) rfl (by decide) (by decide) (by decide) (by decide)
    (by decide)⟩

end Rtsp
end Espp

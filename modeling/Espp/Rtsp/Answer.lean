import Espp.Rtsp.Handle

/-!
# What one request does

Read off `Handled`: which exceptions escape `handle_rtsp_request`, how many responses it
transmits and with which status, and which of `closed_`, `session_active_` and the client ports it
may change.
-/

namespace Espp
namespace Rtsp

open RtspSession

/-! ## Escaping exceptions -/

/-- `handle_rtsp_request` lets `std::out_of_range` escape when the request's first CR is its last
byte (`substr(end_of_line_index + 2)` starts past the end), and `std::invalid_argument` or
`std::out_of_range` escape from `std::stoi` when the CSeq value is not a number or does not fit in
an `int`. -/
theorem handleRtspRequest_throws (s : RtspSession) :
    s.handleRtspRequest "OPTIONS a b\r".toList = .error .outOfRange ∧
      s.handleRtspRequest "OPTIONS a b\r\nCSeq: x\r\n".toList = .error .invalidArgument ∧
      s.handleRtspRequest "OPTIONS a b\r\nCSeq: 99999999999\r\n".toList = .error .outOfRange :=
  ⟨rfl, rfl, rfl⟩

/-! ## The status of the answer -/

/-- The methods `handle_rtsp_request` dispatches on. -/
def rtspMethods : List Text :=
  ["OPTIONS", "DESCRIBE", "SETUP", "PLAY", "PAUSE", "TEARDOWN"].map String.toList

/-- The text after `CSeq: ` up to the next CR exists and is not empty: what
`parse_rtsp_command_sequence` needs before it calls `std::stoi`. -/
def hasCSeq (t : Text) : Bool :=
  match headerValue "CSeq: ".toList t with
  | some v => !v.isEmpty
  | none => false

/-- The status the code's reading of a request assigns to it: 400 for a request line without two
spaces and a CR, or a method outside the dispatch; 461 for a SETUP asking for TCP; then 200 or 400
as the CSeq header has a value or not. -/
def requestStatus (r : Text) : Nat :=
  if ¬ hasRequestLine r then 400
  else if methodToken r ∉ rtspMethods then 400
  else if methodToken r = "SETUP".toList ∧ requestsTcp (requestBody r) then 461
  else if hasCSeq (requestBody r) then 200
  else 400

theorem requestStatus_of_not_line {r : Text} (hl : ¬ hasRequestLine r) : requestStatus r = 400 :=
  if_pos hl

theorem requestStatus_of_not_mem {r : Text} (hl : hasRequestLine r)
    (hm : methodToken r ∉ rtspMethods) : requestStatus r = 400 := by
  rw [requestStatus, if_neg (not_not.mpr hl), if_pos hm]

theorem requestStatus_of_command {r : Text} (hl : hasRequestLine r) (hm : methodToken r ∈ rtspMethods)
    (hs : methodToken r ≠ "SETUP".toList) :
    requestStatus r = if hasCSeq (requestBody r) then 200 else 400 := by
  rw [requestStatus, if_neg (not_not.mpr hl), if_neg (not_not.mpr hm), if_neg fun h => hs h.1]

theorem requestStatus_of_setup {r : Text} (hl : hasRequestLine r) (hs : methodToken r = "SETUP".toList) :
    requestStatus r =
      if requestsTcp (requestBody r) then 461 else if hasCSeq (requestBody r) then 200 else 400 := by
  have hm : methodToken r ∈ rtspMethods := by rw [hs]; decide
  rw [requestStatus, if_neg (not_not.mpr hl), if_neg (not_not.mpr hm)]
  simp only [hs, true_and]

theorem hasCSeq_of_cseqValue_none {t : Text} (h : cseqValue t = .ok none) : hasCSeq t = false := by
  cases hv : headerValue "CSeq: ".toList t with
  | none => rw [hasCSeq, hv]
  | some v =>
    rw [cseqValue, hv] at h
    rw [hasCSeq, hv]
    dsimp only at h ⊢
    split at h
    · simp_all
    · rcases hs : stoi v with e | n <;> rw [hs] at h <;> cases h

theorem hasCSeq_of_cseqValue_some {t : Text} {n : Int} (h : cseqValue t = .ok (some n)) :
    hasCSeq t = true := by
  cases hv : headerValue "CSeq: ".toList t with
  | none => rw [cseqValue, hv] at h; cases h
  | some v =>
    rw [cseqValue, hv] at h
    rw [hasCSeq, hv]
    dsimp only at h ⊢
    split at h
    · cases h
    · simp_all

theorem command?_mem {m : Text} {c : Command} (h : command? m = some c) :
    m ∈ rtspMethods ∧ m ≠ "SETUP".toList := by
  rcases command?_cases h with ⟨rfl, -⟩ | ⟨rfl, -⟩ | ⟨rfl, -⟩ | ⟨rfl, -⟩ | ⟨rfl, -⟩ <;> decide

theorem command?_not_mem {m : Text} (h : command? m = none) (hs : m ≠ "SETUP".toList) :
    m ∉ rtspMethods := by
  intro hm
  simp only [rtspMethods, List.map_cons, List.map_nil, List.mem_cons, List.mem_nil_iff, or_false] at hm
  rcases hm with rfl | rfl | rfl | rfl | rfl | rfl
  all_goals first | exact hs rfl | cases h

theorem outbox_transmit_of_outbox {s s₁ : RtspSession} (h : s₁.outbox = s.outbox) (resp : Response) :
    (s₁.transmit resp).outbox = s.outbox ++ (some resp).toList := by
  rw [transmit_outbox, h]
  rfl

/-- The answer of `Handled`: at most one response, with the status `requestStatus` gives it, and
none exactly for a SETUP whose body the parser rejects silently. -/
theorem Handled.status {s s' : RtspSession} {r : Text} (h : Handled s r s') :
    ∃ out : Option Response, s'.outbox = s.outbox ++ out.toList ∧
      (∀ resp ∈ out, resp.code = requestStatus r) ∧
      (out = none ↔ hasRequestLine r ∧ methodToken r = "SETUP".toList ∧
        SetupSilent (requestBody r)) := by
  cases h with
  | badLine n hl _ =>
    exact ⟨some _, rfl, by simp [requestStatus_of_not_line hl, badRequest],
      iff_of_false (Option.some_ne_none _) fun h => hl h.1⟩
  | unknownMethod n hl hc hs _ =>
    exact ⟨some _, rfl, by simp [requestStatus_of_not_mem hl (command?_not_mem hc hs), badRequest],
      iff_of_false (Option.some_ne_none _) fun h => hs h.2.1⟩
  | commandNoCSeq c hl hc hv =>
    obtain ⟨hm, hs⟩ := command?_mem hc
    exact ⟨some _, rfl, by
      simp [requestStatus_of_command hl hm hs, hasCSeq_of_cseqValue_none hv, badRequest],
      iff_of_false (Option.some_ne_none _) fun h => hs h.2.1⟩
  | command c n hl hc hv =>
    obtain ⟨hm, hs⟩ := command?_mem hc
    exact ⟨some _, outbox_transmit_of_outbox (c.effect_outbox s) _, by
      simp [requestStatus_of_command hl hm hs, hasCSeq_of_cseqValue_some hv],
      iff_of_false (Option.some_ne_none _) fun h => hs h.2.1⟩
  | setupNoCSeq hl hm ht hv hsil =>
    exact ⟨some _, rfl, by
      simp [requestStatus_of_setup hl hm, ht, hasCSeq_of_cseqValue_none hv, badRequest],
      iff_of_false (Option.some_ne_none _) fun h => hsil h.2.2⟩
  | setup path p q n hl hm _ ht hv hsil =>
    exact ⟨some _, rfl, by simp [requestStatus_of_setup hl hm, ht, hasCSeq_of_cseqValue_some hv],
      iff_of_false (Option.some_ne_none _) fun h => hsil h.2.2⟩
  | tcpTransport hl hm ht hsil =>
    exact ⟨some _, rfl, by simp [requestStatus_of_setup hl hm, ht, unsupportedTransport],
      iff_of_false (Option.some_ne_none _) fun h => hsil h.2.2⟩
  | setupIgnored hl hm hsil => exact ⟨none, by simp, by simp, iff_of_true rfl ⟨hl, hm, hsil⟩⟩

/-- The request line is read over the whole request, and the CSeq value by `std::stoi`: a second
space on a later line completes the request line, and a CSeq value with a trailing non-digit is
accepted. -/
theorem handleRtspRequest_accepts_malformed :
    let s := RtspSession.create 42 "host".toList "stream".toList
    (s.handleRtspRequest "OPTIONS x\r\nCSeq: 1\r\n\r\n".toList).map (·.2.outbox.map (·.code)) =
        .ok [200] ∧
      (s.handleRtspRequest "OPTIONS a b\r\nCSeq: 7x\r\n\r\n".toList).map (·.2.outbox.map (·.code)) =
        .ok [200] :=
  ⟨rfl, rfl⟩

/-- On every request the reader can receive, a normal return of `handle_rtsp_request` transmits at
most one response, with status `requestStatus r`, and transmits none exactly for a SETUP whose
body `parse_rtsp_setup_request` rejects without answering. -/
theorem handleRtspRequest_status {s s' : RtspSession} {r : Text} {b : Bool}
    (hr : r.length ≤ maxRequestSize) (h : s.handleRtspRequest r = .ok (b, s')) :
    ∃ out : Option Response, s'.outbox = s.outbox ++ out.toList ∧
      (∀ resp ∈ out, resp.code = requestStatus r) ∧
      (out = none ↔ hasRequestLine r ∧ methodToken r = "SETUP".toList ∧
        SetupSilent (requestBody r)) :=
  (handleRtspRequest_handled hr h).status

/-- A SETUP without a Transport header returns normally and goes unanswered: the handler leaves the
answer to the parser, which sends none. -/
theorem handleRtspRequest_status_setup :
    let s := RtspSession.create 42 "host".toList "stream".toList
    s.handleRtspRequest "SETUP a b\r\nCSeq: 1\r\n\r\n".toList = .ok (false, s) ∧
      ∃ out : Option Response, s.outbox = s.outbox ++ out.toList ∧
        (∀ resp ∈ out, resp.code = requestStatus "SETUP a b\r\nCSeq: 1\r\n\r\n".toList) ∧
        (out = none ↔ hasRequestLine "SETUP a b\r\nCSeq: 1\r\n\r\n".toList ∧
          methodToken "SETUP a b\r\nCSeq: 1\r\n\r\n".toList = "SETUP".toList ∧
          SetupSilent (requestBody "SETUP a b\r\nCSeq: 1\r\n\r\n".toList)) :=
  ⟨rfl, handleRtspRequest_status (by decide) rfl⟩

/-! ## The members a request changes -/

/-- The members of the frame law. -/
inductive Member where
  | closed
  | sessionActive
  | clientPorts
  deriving DecidableEq, Repr

/-- `s'` agrees with `s` on every member outside `w`. -/
def Keeps (w : List Member) (s s' : RtspSession) : Prop :=
  (Member.closed ∉ w → s'.closed = s.closed) ∧
    (Member.sessionActive ∉ w → s'.sessionActive = s.sessionActive) ∧
    (Member.clientPorts ∉ w →
      s'.clientRtpPort = s.clientRtpPort ∧ s'.clientRtcpPort = s.clientRtcpPort)

/-- The members a 200 answer to each method may change. -/
def writtenBy (method : Text) : List Member :=
  if method = "SETUP".toList then [.clientPorts]
  else if method = "PLAY".toList ∨ method = "PAUSE".toList then [.sessionActive]
  else if method = "TEARDOWN".toList then [.closed, .sessionActive]
  else []

@[simp] theorem keeps_transmit_right {w : List Member} {s s' : RtspSession} {resp : Response} :
    Keeps w s (s'.transmit resp) ↔ Keeps w s s' := Iff.rfl

theorem keeps_nil (s : RtspSession) : Keeps [] s s := by simp [Keeps]

theorem command?_keeps {m : Text} {c : Command} (h : command? m = some c) (s : RtspSession) :
    Keeps (writtenBy m) s (c.effect s) := by
  rcases command?_cases h with ⟨rfl, rfl⟩ | ⟨rfl, rfl⟩ | ⟨rfl, rfl⟩ | ⟨rfl, rfl⟩ | ⟨rfl, rfl⟩ <;>
    simp [Keeps, writtenBy, play, pause, teardown]

/-- The frame of `Handled`: no change to the four members without a 200; with a 200, only the
members of `writtenBy` of the method. -/
theorem Handled.frame {s s' : RtspSession} {r : Text} (h : Handled s r s') :
    ∃ out : Option Response, s'.outbox = s.outbox ++ out.toList ∧
      (∀ resp ∈ out, resp.code = 200 → Keeps (writtenBy (methodToken r)) s s') ∧
      ((∀ resp ∈ out, resp.code ≠ 200) → Keeps [] s s') := by
  cases h with
  | command c n _ hc _ =>
    exact ⟨some _, outbox_transmit_of_outbox (c.effect_outbox s) _,
      fun _ _ _ => by simpa using command?_keeps hc s, by simp⟩
  | setup path p q n _ hm =>
    exact ⟨some _, rfl, fun _ _ _ => by simp [Keeps, writtenBy, hm], by simp⟩
  | setupIgnored => exact ⟨none, by simp, by simp, fun _ => keeps_nil s⟩
  | badLine | unknownMethod | commandNoCSeq | setupNoCSeq =>
    exact ⟨some _, rfl, by simp [badRequest], fun _ => by simpa using keeps_nil s⟩
  | tcpTransport => exact ⟨some _, rfl, by simp [unsupportedTransport], fun _ => by simpa using keeps_nil s⟩

/-- On every request the reader can receive, a normal return of `handle_rtsp_request` changes
none of `closed_`, `session_active_` and the client ports unless it answers 200, and then only
those the method writes. -/
theorem handleRtspRequest_frame {s s' : RtspSession} {r : Text} {b : Bool}
    (hr : r.length ≤ maxRequestSize) (h : s.handleRtspRequest r = .ok (b, s')) :
    ∃ out : Option Response, s'.outbox = s.outbox ++ out.toList ∧
      (∀ resp ∈ out, resp.code = 200 → Keeps (writtenBy (methodToken r)) s s') ∧
      ((∀ resp ∈ out, resp.code ≠ 200) → Keeps [] s s') :=
  (handleRtspRequest_handled hr h).frame

theorem handleRtspRequest_frame_play :
    let s := RtspSession.create 42 "host".toList "stream".toList
    ∃ b s', s.handleRtspRequest "PLAY a b\r\nCSeq: 2\r\n\r\n".toList = .ok (b, s') ∧
      ∃ out : Option Response, s'.outbox = s.outbox ++ out.toList ∧
        (∀ resp ∈ out, resp.code = 200 →
          Keeps (writtenBy (methodToken "PLAY a b\r\nCSeq: 2\r\n\r\n".toList)) s s') ∧
        ((∀ resp ∈ out, resp.code ≠ 200) → Keeps [] s s') :=
  ⟨_, _, rfl, handleRtspRequest_frame (by decide) rfl⟩

end Rtsp
end Espp

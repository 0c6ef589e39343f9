import Espp.Rtsp.Handle

/-!
# The response on the wire

What `send_response` puts on the control stream, read back the way an RTSP client reads it: the
header section up to the first empty line, one header per line, then the body.  The responses
the handlers build are listed once, as `Answer`, and `Handled.answer` shows that these are the
only ones `handle_rtsp_request` transmits.
-/

namespace Espp
namespace Rtsp

open RtspSession

/-! ## Lines -/

/-- `CR LF`. -/
def crlf : Text := ['\r', '\n']

/-- A text that can stand as one line: it holds no CR and no LF. -/
def IsLine (l : Text) : Prop := '\r' ∉ l ∧ '\n' ∉ l

instance (l : Text) : Decidable (IsLine l) := inferInstanceAs (Decidable (_ ∧ _))

/-- Lines, each ended by `CR LF`: the shape of a header block. -/
def crlfLines (ls : List Text) : Text := (ls.map (· ++ crlf)).flatten

/-- Split a text at its first empty line: the header section before the first `CR LF CR LF`, and
what follows it. -/
def splitAtEmptyLine (t : Text) : Option (Text × Text) :=
  (firstMatch (crlf ++ crlf) t).map fun i => (t.take i, t.drop (i + 4))

/-- The status line of `resp`, without its `CR LF`. -/
def Response.statusLine (resp : Response) : Text :=
  "RTSP/1.0 ".toList ++ stdToString resp.code ++ " ".toList ++ resp.message

/-- The lines of the header section of `resp` around the handler's header lines `ls`: the status
line, a `CSeq` line unless the number is `-1`, `ls`, and a `Content-Length` line when there is a
body. -/
def Response.headerLines (resp : Response) (ls : List Text) : List Text :=
  resp.statusLine ::
    ((if resp.sequenceNumber ≠ -1 then ["CSeq: ".toList ++ stdToString resp.sequenceNumber]
      else []) ++
      ls ++ (if resp.body ≠ [] then ["Content-Length: ".toList ++ stdToString resp.body.length]
        else []))

@[simp] theorem crlfLines_nil : crlfLines [] = [] := rfl

@[simp] theorem crlfLines_cons (l : Text) (ls : List Text) :
    crlfLines (l :: ls) = l ++ crlf ++ crlfLines ls := by
  simp [crlfLines]

@[simp] theorem crlfLines_append (ls ls' : List Text) :
    crlfLines (ls ++ ls') = crlfLines ls ++ crlfLines ls' := by
  simp [crlfLines]

@[simp] theorem isLine_append {l l' : Text} : IsLine (l ++ l') ↔ IsLine l ∧ IsLine l' := by
  simp only [IsLine, List.mem_append, not_or]
  tauto

@[simp] theorem cr_not_mem_stdToString (n : Int) : '\r' ∉ stdToString n := fun h => by
  rcases mem_stdToString h with h | h <;> simp_all [Char.isDigit]

@[simp] theorem lf_not_mem_stdToString (n : Int) : '\n' ∉ stdToString n := fun h => by
  rcases mem_stdToString h with h | h <;> simp_all [Char.isDigit]

theorem intercalate_cons_cons (l l' : Text) (ls : List Text) :
    crlf.intercalate (l :: l' :: ls) = l ++ crlf ++ crlf.intercalate (l' :: ls) := by
  simp [List.intercalate, List.intersperse_cons_cons]

theorem crlfLines_eq_intercalate : ∀ {ls : List Text}, ls ≠ [] →
    crlfLines ls = crlf.intercalate ls ++ crlf
  | [l], _ => by simp [List.intercalate]
  | l :: l' :: ls, _ => by
    rw [crlfLines_cons, crlfLines_eq_intercalate (List.cons_ne_nil l' ls), intercalate_cons_cons]
    simp only [List.append_assoc]

/-- The render of a response is its header lines, each ended by `CR LF`, then the empty line and
the body. -/
theorem Response.render_eq {resp : Response} {ls : List Text} (h : resp.headers = crlfLines ls) :
    resp.render = crlfLines (resp.headerLines ls) ++ crlf ++ resp.body := by
  unfold Response.render Response.headerLines Response.statusLine
  rw [h]
  split_ifs <;> simp_all [crlf]

/-! ## The first empty line -/

/-- A `CR LF` not followed by a CR is skipped by the search for an empty line. -/
theorem firstMatch_crlf_append {t : Text} (ht : t.head? ≠ some '\r') :
    firstMatch (crlf ++ crlf) (crlf ++ t) = (firstMatch (crlf ++ crlf) t).map (· + 2) := by
  cases t with
  | nil => rfl
  | cons a t =>
    simp only [List.head?_cons, ne_eq, Option.some.injEq] at ht
    simp [firstMatch, crlf, ht, Ne.symm ht, Option.map_map, Function.comp_def]

/-- The first `CR LF CR LF` after lines of text is the one that ends them. -/
theorem firstMatch_crlfLines : ∀ {ls : List Text}, (∀ l ∈ ls, l ≠ [] ∧ IsLine l) → ls ≠ [] →
    ∀ rest, firstMatch (crlf ++ crlf) (crlfLines ls ++ crlf ++ rest) =
      some (crlf.intercalate ls).length
  | [l], h, _, rest => by
    have hl := (h l (List.mem_singleton_self l)).2.1
    rw [crlfLines_cons, crlfLines_nil, List.append_nil, List.append_assoc, List.append_assoc,
      firstMatch_append_of_not_mem (show (crlf ++ crlf).head? = some '\r' from rfl) hl,
      ← List.append_assoc, firstMatch_of_prefix (by decide) (List.prefix_append _ _)]
    simp [List.intercalate]
  | l :: l' :: ls, h, _, rest => by
    have hl := (h l (List.mem_cons_self l _)).2.1
    have ih := firstMatch_crlfLines (fun x hx => h x (List.mem_cons_of_mem l hx))
      (List.cons_ne_nil l' ls) rest
    obtain ⟨hne, hl'⟩ := h l' (List.mem_cons_of_mem l (List.mem_cons_self l' ls))
    obtain ⟨a, u, rfl⟩ := List.exists_cons_of_ne_nil hne
    have ha : a ≠ '\r' := fun e => hl'.1 (e ▸ List.mem_cons_self a u)
    rw [crlfLines_cons]
    simp only [List.append_assoc] at ih ⊢
    rw [firstMatch_append_of_not_mem (show (crlf ++ crlf).head? = some '\r' from rfl) hl,
      firstMatch_crlf_append (by simpa using ha), ih, intercalate_cons_cons]
    simp only [Option.map_some', List.length_append, Option.some.injEq]
    have : crlf.length = 2 := rfl
    omega

/-- Lines of text, then an empty line, split back into the lines and what follows. -/
theorem splitAtEmptyLine_crlfLines {ls : List Text} (h : ∀ l ∈ ls, l ≠ [] ∧ IsLine l)
    (hne : ls ≠ []) (rest : Text) :
    splitAtEmptyLine (crlfLines ls ++ crlf ++ rest) = some (crlf.intercalate ls, rest) := by
  rw [splitAtEmptyLine, firstMatch_crlfLines h hne, crlfLines_eq_intercalate hne]
  simp [crlf]

theorem Response.headerLines_isLine {resp : Response} {ls : List Text} (hm : IsLine resp.message)
    (hls : ∀ l ∈ ls, l ≠ [] ∧ IsLine l) : ∀ l ∈ resp.headerLines ls, l ≠ [] ∧ IsLine l := by
  simp only [Response.headerLines, List.mem_cons, List.mem_append]
  rintro l (rfl | (hl | hl) | hl)
  · simpa [Response.statusLine, IsLine] using hm
  · split_ifs at hl <;> simp_all [IsLine]
  · exact hls l hl
  · split_ifs at hl <;> simp_all [IsLine]

/-- A response whose message and handler headers are lines splits back into its header lines and
its body. -/
theorem Response.splitAtEmptyLine_render {resp : Response} {ls : List Text}
    (hm : IsLine resp.message) (hls : ∀ l ∈ ls, l ≠ [] ∧ IsLine l) (h : resp.headers = crlfLines ls) :
    splitAtEmptyLine resp.render = some (crlf.intercalate (resp.headerLines ls), resp.body) :=
  (Response.render_eq h).symm ▸
    splitAtEmptyLine_crlfLines (resp.headerLines_isLine hm hls) (List.cons_ne_nil _ _) _

/-! ## The handlers' responses -/

/-- The responses the handlers build, one for each `send_response` call. -/
inductive Answer where
  | options (n : Int)
  | describe (n : Int)
  | setup (n p q : Int)
  | play (n : Int)
  | pause (n : Int)
  | teardown (n : Int)
  | badRequest (n : Option Int)
  | unsupportedTransport
  deriving DecidableEq, Repr

/-- The response of each answer in session `s`. -/
def RtspSession.answer (s : RtspSession) : Answer → Response
  | .options n => ⟨200, "OK".toList, n, optionsHeaders s, []⟩
  | .describe n => ⟨200, "OK".toList, n, describeHeaders s, describeBody s⟩
  | .setup n p q => ⟨200, "OK".toList, n, s.setupHeaders p q, []⟩
  | .play n => ⟨200, "OK".toList, n, playHeaders s, []⟩
  | .pause n => ⟨200, "OK".toList, n, sessionHeader s, []⟩
  | .teardown n => ⟨200, "OK".toList, n, sessionHeader s, []⟩
  | .badRequest n => badRequest n
  | .unsupportedTransport => unsupportedTransport

/-- The method a 200 answer answers; the 400 and 461 answers answer none. -/
def Answer.method : Answer → Text
  | .options _ => "OPTIONS".toList
  | .describe _ => "DESCRIBE".toList
  | .setup _ _ _ => "SETUP".toList
  | .play _ => "PLAY".toList
  | .pause _ => "PAUSE".toList
  | .teardown _ => "TEARDOWN".toList
  | .badRequest _ | .unsupportedTransport => []

theorem Answer.eq_describe_of_method {a : Answer} (h : a.method = "DESCRIBE".toList) :
    ∃ n, a = .describe n := by
  cases a <;> simp only [Answer.method] at h <;> first | exact ⟨_, rfl⟩ | exact absurd h (by decide)

/-- The `rtsp://<addr>/<rtsp_path>` of the spec. -/
def specPath (s : RtspSession) : Text :=
  "rtsp://".toList ++ s.serverAddress ++ "/".toList ++ s.rtspPath

/-- The header lines the spec lists for each response. -/
def Answer.lines (s : RtspSession) : Answer → List Text
  | .options _ => ["Public: DESCRIBE, SETUP, TEARDOWN, PLAY, PAUSE".toList]
  | .describe _ => ["Content-Type: application/sdp".toList, "Content-Base: ".toList ++ specPath s]
  | .setup _ p q => ["Session: ".toList ++ stdToString s.sessionId.toNat,
      "Transport: RTP/AVP;unicast;client_port=".toList ++ stdToString p ++ "-".toList ++
        stdToString q]
  | .play _ => ["Session: ".toList ++ stdToString s.sessionId.toNat, "Range: npt=0.000-".toList]
  | .pause _ | .teardown _ => ["Session: ".toList ++ stdToString s.sessionId.toNat]
  | .badRequest _ | .unsupportedTransport => []

/-- The SDP of the spec, each line ended by `CR LF`. -/
def sdpLines (s : RtspSession) : List Text :=
  ["v=0".toList, "o=- ".toList ++ stdToString s.sessionId.toNat ++ " 1 IN IP4 ".toList ++ s.serverAddress,
    "s=MJPEG Stream".toList, "i=MJPEG Stream".toList, "t=0 0".toList,
    "a=control:".toList ++ specPath s, "a=mimetype:string;\"video/x-motion-jpeg\"".toList,
    "m=video 0 RTP/AVP 26".toList, "c=IN IP4 0.0.0.0".toList, "b=AS:256".toList,
    "a=control:".toList ++ specPath s, "a=udp-only".toList]

theorem describeBody_eq_sdpLines (s : RtspSession) : describeBody s = crlfLines (sdpLines s) := by
  simp only [describeBody, sdpLines, crlfLines_cons, crlfLines_nil, List.append_assoc, List.append_nil]
  rfl

theorem answer_headers (s : RtspSession) (a : Answer) :
    (s.answer a).headers = crlfLines (a.lines s) := by
  cases a <;> simp only [RtspSession.answer, Answer.lines, optionsHeaders, describeHeaders, rtspUrl,
    specPath, setupHeaders, playHeaders, sessionHeader, badRequest, unsupportedTransport,
    crlfLines_cons, crlfLines_nil, List.append_assoc, List.append_nil] <;> rfl

theorem answer_lines_isLine {s : RtspSession} (haddr : IsLine s.serverAddress)
    (hpath : IsLine s.rtspPath) (a : Answer) : ∀ l ∈ a.lines s, l ≠ [] ∧ IsLine l := by
  cases a <;> simp [Answer.lines, specPath, IsLine, haddr.1, haddr.2, hpath.1, hpath.2]

theorem answer_message_isLine (s : RtspSession) (a : Answer) : IsLine (s.answer a).message := by
  cases a <;> simp [RtspSession.answer, badRequest, unsupportedTransport, IsLine]

theorem command?_answer {m : Text} {c : Command} (h : command? m = some c) (s : RtspSession)
    (n : Int) : ∃ a, a.method = m ∧
      s.answer a = ⟨200, "OK".toList, n, c.headers (c.effect s), c.body (c.effect s)⟩ := by
  rcases command?_cases h with ⟨rfl, rfl⟩ | ⟨rfl, rfl⟩ | ⟨rfl, rfl⟩ | ⟨rfl, rfl⟩ | ⟨rfl, rfl⟩
  exacts [⟨.options n, rfl, rfl⟩, ⟨.describe n, rfl, rfl⟩, ⟨.play n, rfl, rfl⟩,
    ⟨.pause n, rfl, rfl⟩, ⟨.teardown n, rfl, rfl⟩]

/-- What `Handled` transmits is one of the handlers' answers, built in the session the request
found; a 200 answer is the one for the request's method. -/
theorem Handled.answer {s s' : RtspSession} {r : Text} (h : Handled s r s') :
    ∃ out : Option Answer, s'.outbox = s.outbox ++ (out.map s.answer).toList ∧
      ∀ a ∈ out, (s.answer a).code = 200 → a.method = methodToken r := by
  cases h with
  | badLine n | unknownMethod n =>
    exact ⟨some (.badRequest n), rfl, by rintro _ ⟨⟩ ⟨⟩⟩
  | commandNoCSeq | setupNoCSeq =>
    exact ⟨some (.badRequest none), rfl, by rintro _ ⟨⟩ ⟨⟩⟩
  | command c n _ hc =>
    obtain ⟨a, hm, ha⟩ := command?_answer hc s n
    exact ⟨some a, by simp [ha, c.effect_outbox], by simp [hm]⟩
  | setup path p q n _ hm => exact ⟨some (.setup n p q), rfl, by simp [Answer.method, hm]⟩
  | tcpTransport =>
    exact ⟨some .unsupportedTransport, rfl, by rintro _ ⟨⟩ ⟨⟩⟩
  | setupIgnored => exact ⟨none, (List.append_nil _).symm, by rintro _ ⟨⟩⟩

/-- On every request the reader can receive, in a session whose address and path are lines, what
`handle_rtsp_request` transmits splits at its first empty line into the status line, the `CSeq`
line unless the number is `-1`, the handler's header lines and the `Content-Length` line when there
is a body; what follows is the body.  A 200 answer is the one for the request's method, and a
DESCRIBE answered 200 carries the SDP of the spec. -/
theorem handleRtspRequest_wire {s s' : RtspSession} {r : Text} {b : Bool}
    (hr : r.length ≤ maxRequestSize) (h : s.handleRtspRequest r = .ok (b, s'))
    (haddr : IsLine s.serverAddress) (hpath : IsLine s.rtspPath) :
    ∃ out : Option Answer, s'.outbox = s.outbox ++ (out.map s.answer).toList ∧
      ∀ a ∈ out, (s.answer a).headers = crlfLines (a.lines s) ∧
        (∀ l ∈ (s.answer a).headerLines (a.lines s), l ≠ [] ∧ IsLine l) ∧
        splitAtEmptyLine (s.answer a).render =
          some (crlf.intercalate ((s.answer a).headerLines (a.lines s)), (s.answer a).body) ∧
        (∀ n, a = .describe n → (s.answer a).body = crlfLines (sdpLines s)) ∧
        ((s.answer a).code = 200 → a.method = methodToken r) ∧
        (methodToken r = "DESCRIBE".toList → (s.answer a).code = 200 →
          (s.answer a).body = crlfLines (sdpLines s)) := by
  obtain ⟨out, hout, hmethod⟩ := (handleRtspRequest_handled hr h).answer
  have hls := answer_lines_isLine haddr hpath
  have hsdp : ∀ n, (s.answer (.describe n)).body = crlfLines (sdpLines s) :=
    fun _ => describeBody_eq_sdpLines s
  refine ⟨out, hout, fun a ha => ⟨answer_headers s a, ?_, ?_, ?_, hmethod a ha, fun hd h200 => ?_⟩⟩
  · exact Response.headerLines_isLine (answer_message_isLine s a) (hls a)
  · exact Response.splitAtEmptyLine_render (answer_message_isLine s a) (hls a) (answer_headers s a)
  · rintro n rfl
    exact hsdp n
  · obtain ⟨n, rfl⟩ := Answer.eq_describe_of_method ((hmethod a ha h200).trans hd)
    exact hsdp n

theorem handleRtspRequest_wire_describe :
    let s := RtspSession.create 42 "host".toList "stream".toList
    ∃ b s', s.handleRtspRequest "DESCRIBE rtsp://host/stream RTSP/1.0\r\nCSeq: 2\r\n\r\n".toList =
        .ok (b, s') ∧
      ∃ out : Option Answer, s'.outbox = s.outbox ++ (out.map s.answer).toList ∧
        ∀ a ∈ out, (s.answer a).headers = crlfLines (a.lines s) ∧
          (∀ l ∈ (s.answer a).headerLines (a.lines s), l ≠ [] ∧ IsLine l) ∧
          splitAtEmptyLine (s.answer a).render =
            some (crlf.intercalate ((s.answer a).headerLines (a.lines s)), (s.answer a).body) ∧
          (∀ n, a = .describe n → (s.answer a).body = crlfLines (sdpLines s)) ∧
          ((s.answer a).code = 200 →
            a.method = methodToken "DESCRIBE rtsp://host/stream RTSP/1.0\r\nCSeq: 2\r\n\r\n".toList) ∧
          (methodToken "DESCRIBE rtsp://host/stream RTSP/1.0\r\nCSeq: 2\r\n\r\n".toList =
              "DESCRIBE".toList → (s.answer a).code = 200 →
            (s.answer a).body = crlfLines (sdpLines s)) :=
  ⟨_, _, rfl, handleRtspRequest_wire
    (r := "DESCRIBE rtsp://host/stream RTSP/1.0\r\nCSeq: 2\r\n\r\n".toList) (by decide) rfl
    (by decide) (by decide)⟩

/-! ## The CSeq echo -/

/-- The text whose CSeq the handler reads: what follows the request line, or the whole request when
the request line is malformed. -/
def commandText (r : Text) : Text := if hasRequestLine r then requestBody r else r

theorem length_commandText_le (r : Text) : (commandText r).length ≤ r.length := by
  unfold commandText
  split
  · exact length_requestBody_le r
  · exact le_rfl

theorem cseqValue_range {t : Text} {n : Int} (h : cseqValue t = .ok (some n)) :
    -2 ^ 31 ≤ n ∧ n < 2 ^ 31 := by
  unfold cseqValue at h
  split at h
  · split at h
    · cases h
    · rcases hs : stoi _ with e | m <;> rw [hs] at h <;> cases h
      exact stoi_range hs
  · cases h

/-- Every answer of `Handled` but the 461 carries the CSeq the handler read, under the status line
of a 200 OK or a 400 Bad Request. -/
theorem Handled.cseq {s s' : RtspSession} {r : Text} {n : Int} (h : Handled s r s')
    (hn : cseqValue (commandText r) = .ok (some n)) :
    ∀ resp ∈ s'.outbox.drop s.outbox.length, resp.code ≠ 461 →
      resp.sequenceNumber = n ∧ (resp.code = 200 ∧ resp.message = "OK".toList ∨
        resp.code = 400 ∧ resp.message = "Bad Request".toList) := by
  cases h with
  | badLine n' hl hv =>
    rw [commandText, if_neg hl, hv] at hn
    cases hn
    simp [badRequest]
  | unknownMethod n' hl _ _ hv =>
    rw [commandText, if_pos hl, hv] at hn
    cases hn
    simp [badRequest]
  | commandNoCSeq _ hl _ hv | setupNoCSeq hl _ _ hv =>
    rw [commandText, if_pos hl, hv] at hn
    cases hn
  | command c n' hl _ hv =>
    rw [commandText, if_pos hl, hv] at hn
    cases hn
    simp [c.effect_outbox]
  | setup _ _ _ n' hl _ _ _ hv =>
    rw [commandText, if_pos hl, hv] at hn
    cases hn
    simp
  | tcpTransport => simp [unsupportedTransport]
  | setupIgnored => simp

/-- A response with CSeq `n` other than `-1` has the line `CSeq: n` right after its status line,
and `parse_rtsp_command_sequence` reads `n` back from it. -/
theorem Response.parse_render {resp : Response} (hseq : resp.sequenceNumber ≠ -1)
    (hlo : -2 ^ 31 ≤ resp.sequenceNumber) (hhi : resp.sequenceNumber < 2 ^ 31)
    (hcode : resp.code < 10 ^ 10) (hC : 'C' ∉ resp.message) (hlen : resp.message.length < 2 ^ 30) :
    (∃ rest, resp.render = resp.statusLine ++ crlf ++ "CSeq: ".toList ++
        stdToString resp.sequenceNumber ++ crlf ++ rest) ∧
      RtspSession.parseRtspCommandSequence resp.render = .ok (some resp.sequenceNumber) := by
  set rest := resp.headers ++ (if resp.body ≠ [] then "Content-Length: ".toList ++
    stdToString resp.body.length ++ "\r\n".toList ++ "\r\n".toList ++ resp.body else "\r\n".toList)
  have hr : resp.render = resp.statusLine ++ crlf ++ "CSeq: ".toList ++
      (stdToString resp.sequenceNumber ++ '\r' :: '\n' :: rest) := by
    simp [Response.render, Response.statusLine, hseq, rest, crlf]
  have hpre : 'C' ∉ resp.statusLine ++ crlf := by
    simp only [Response.statusLine, List.mem_append, not_or]
    exact ⟨⟨⟨⟨by decide, fun h => by simpa using mem_stdToString h⟩, by decide⟩, hC⟩, by decide⟩
  have hcl := length_stdToString_le (n := resp.code) (by omega)
  have hsl := length_stdToString_le (n := resp.sequenceNumber) (by omega)
  have hc : ("CSeq: ".toList).head? = some 'C' := rfl
  refine ⟨⟨rest, by rw [hr]; simp [crlf]⟩, ?_⟩
  rw [hr, parseRtspCommandSequence_eq (headerFits_append hc hpre (cr_not_mem_stdToString _)
      (by simp [Response.statusLine, crlf]; omega)), cseqValue,
    headerValue_append hc hpre (cr_not_mem_stdToString _)]
  simp [stdToString_ne_nil, stoi_stdToString hlo hhi, Except.map]

/-- `CSeq: -1` is read as `-1`, which `send_response` takes for "no sequence number": the answer
has no CSeq line. -/
theorem handleRtspRequest_drops_cseq :
    let s := RtspSession.create 42 "host".toList "stream".toList
    RtspSession.parseRtspCommandSequence (commandText "OPTIONS a b\r\nCSeq: -1\r\n\r\n".toList) =
        .ok (some (-1)) ∧
      (s.handleRtspRequest "OPTIONS a b\r\nCSeq: -1\r\n\r\n".toList).map
          (·.2.outbox.map fun resp => RtspSession.parseRtspCommandSequence resp.render) =
        .ok [.ok none] :=
  ⟨rfl, rfl⟩

/-- On every request the reader can receive whose CSeq reads as `n`, other than `-1`, every
response but the 461 has the line `CSeq: n` right after its status line, and
`parse_rtsp_command_sequence` reads `n` back from it. -/
theorem handleRtspRequest_cseq_echo {s s' : RtspSession} {r : Text} {b : Bool} {n : Int}
    (hr : r.length ≤ maxRequestSize) (h : s.handleRtspRequest r = .ok (b, s'))
    (hn : RtspSession.parseRtspCommandSequence (commandText r) = .ok (some n)) (hneg : n ≠ -1) :
    ∀ resp ∈ s'.outbox.drop s.outbox.length, resp.code ≠ 461 →
      (∃ rest, resp.render = resp.statusLine ++ crlf ++ "CSeq: ".toList ++ stdToString n ++ crlf ++
        rest) ∧ RtspSession.parseRtspCommandSequence resp.render = .ok (some n) := by
  have hr' : r.length < 2 ^ 31 := by unfold maxRequestSize at hr; omega
  rw [parseRtspCommandSequence_eq
    (headerFits_of_length ((length_commandText_le r).trans_lt hr'))] at hn
  obtain ⟨hlo, hhi⟩ := cseqValue_range hn
  intro resp hresp h461
  obtain ⟨rfl, hmsg⟩ := (handleRtspRequest_handled hr h).cseq hn resp hresp h461
  have hcode : resp.code < 10 ^ 10 := by omega
  have hC : 'C' ∉ resp.message ∧ resp.message.length < 2 ^ 30 := by
    rcases hmsg with ⟨-, hm⟩ | ⟨-, hm⟩ <;> rw [hm] <;> decide
  exact Response.parse_render hneg hlo hhi hcode hC.1 hC.2

theorem handleRtspRequest_cseq_echo_options :
    let s := RtspSession.create 42 "host".toList "stream".toList
    ∃ b s', s.handleRtspRequest "OPTIONS a b\r\nCSeq: 1\r\n\r\n".toList = .ok (b, s') ∧
      ∀ resp ∈ s'.outbox.drop s.outbox.length, resp.code ≠ 461 →
        (∃ rest, resp.render = resp.statusLine ++ crlf ++ "CSeq: ".toList ++ stdToString 1 ++ crlf ++
          rest) ∧ RtspSession.parseRtspCommandSequence resp.render = .ok (some 1) :=
  ⟨_, _, rfl, handleRtspRequest_cseq_echo (r := "OPTIONS a b\r\nCSeq: 1\r\n\r\n".toList)
    (by decide) rfl rfl (by decide)⟩

end Rtsp
end Espp

import Espp.Rtsp.Text

/-!
# `RtspSession`: state, responses and the request handlers

The control path of `espp::RtspSession` (`rtsp_session.hpp`): `send_response`, the three parsers
and the seven handlers, down to `handle_rtsp_request`.  A handler either returns normally with its
`bool` and the new session, or lets a `std::out_of_range` or `std::invalid_argument` escape from
`substr` or `std::stoi`.  `outbox` is every response `send_response` hands to
`control_socket_->transmit`, in order.  Whether a `transmit` gets its response onto the connection
is the network's answer, not the session's: `linkUp` holds it, the environment sets it, and
`carried` keeps the responses transmitted while it was up.  `send_response` returns that answer,
which `control_task_fn` only logs; a failed `transmit` adds nothing to `carried`.
-/

namespace Espp
namespace Rtsp

/-- `static size_t max_request_size` in `control_task_fn`. -/
def maxRequestSize : Nat := 1024

/-- The arguments of one `send_response` call. -/
structure Response where
  code : Nat
  message : Text
  sequenceNumber : Int
  headers : Text
  body : Text
  deriving DecidableEq, Repr

/-- The members of `RtspSession` that the control path reads or writes, and what the control
socket does with them.  The client ports are `none` until the first successful SETUP: the source
leaves them uninitialised. -/
structure RtspSession where
  sessionId : UInt32
  serverAddress : Text
  rtspPath : Text
  closed : Bool
  sessionActive : Bool
  clientRtpPort : Option Int
  clientRtcpPort : Option Int
  /-- Every response handed to `control_socket_->transmit`, in order. -/
  outbox : List Response
  /-- Whether `control_socket_->transmit` currently gets a response through. -/
  linkUp : Bool
  /-- The responses the control connection carried, in order. -/
  carried : List Response
  deriving DecidableEq, Repr

/-- The text `send_response` transmits for a response.  Appending empty headers is a no-op, which
is what the source's `!headers.empty()` test skips. -/
def Response.render (r : Response) : Text :=
  "RTSP/1.0 ".toList ++ stdToString r.code ++ " ".toList ++ r.message ++ "\r\n".toList ++
    (if r.sequenceNumber ≠ -1 then
      "CSeq: ".toList ++ stdToString r.sequenceNumber ++ "\r\n".toList else []) ++
    r.headers ++
    (if r.body ≠ [] then
      "Content-Length: ".toList ++ stdToString r.body.length ++ "\r\n".toList ++ "\r\n".toList ++
        r.body
    else "\r\n".toList)

namespace RtspSession

/-- The constructor.  `session_id_` comes from `esp_random()`, so it is a parameter here. -/
def create (sessionId : UInt32) (serverAddress rtspPath : Text) : RtspSession :=
  ⟨sessionId, serverAddress, rtspPath, false, false, none, none, [], true, []⟩

/-! ## Owner operations -/

/-- `play()`. -/
def play (s : RtspSession) : RtspSession := { s with sessionActive := true }

/-- `pause()`. -/
def pause (s : RtspSession) : RtspSession := { s with sessionActive := false }

/-- `teardown()`. -/
def teardown (s : RtspSession) : RtspSession := { s with sessionActive := false, closed := true }

/-- `control_socket_->transmit(response)`: the response is handed to the socket, which carries it
when the link is up and drops it otherwise. -/
def transmit (s : RtspSession) (response : Response) : RtspSession :=
  { s with
    outbox := s.outbox ++ [response]
    carried := if s.linkUp then s.carried ++ [response] else s.carried }

@[simp] theorem transmit_closed (s : RtspSession) (r : Response) : (s.transmit r).closed = s.closed :=
  rfl

@[simp] theorem transmit_sessionActive (s : RtspSession) (r : Response) :
    (s.transmit r).sessionActive = s.sessionActive := rfl

@[simp] theorem transmit_clientRtpPort (s : RtspSession) (r : Response) :
    (s.transmit r).clientRtpPort = s.clientRtpPort := rfl

@[simp] theorem transmit_clientRtcpPort (s : RtspSession) (r : Response) :
    (s.transmit r).clientRtcpPort = s.clientRtcpPort := rfl

@[simp] theorem transmit_outbox (s : RtspSession) (r : Response) :
    (s.transmit r).outbox = s.outbox ++ [r] := rfl

@[simp] theorem transmit_linkUp (s : RtspSession) (r : Response) :
    (s.transmit r).linkUp = s.linkUp := rfl

@[simp] theorem transmit_carried (s : RtspSession) (r : Response) :
    (s.transmit r).carried = if s.linkUp then s.carried ++ [r] else s.carried := rfl

/-- `send_response`: build the response, transmit it on the control socket and return whether
the socket got it through. -/
def sendResponse (s : RtspSession) (code : Nat) (message : Text) (sequenceNumber : Int := -1)
    (headers body : Text := []) : Bool × RtspSession :=
  (s.linkUp, s.transmit ⟨code, message, sequenceNumber, headers, body⟩)

/-! ## Parsers -/

/-- `parse_rtsp_command_sequence`: `none` where the source returns false, `some cseq` where it
returns true. -/
def parseRtspCommandSequence (request : Text) : Except StdException (Option Int) := do
  let cseqIndex := find request "CSeq: ".toList 0
  if cseqIndex = npos then return none
  let cseqEndIndex := find request ['\r'] cseqIndex
  if cseqEndIndex = npos then return none
  let cseqStr ← substr request (cseqIndex + 6) (cseqEndIndex - cseqIndex - 6)
  if cseqStr.isEmpty then return none
  return some (← stoi cseqStr)

/-- `parse_rtsp_path`. -/
def parseRtspPath (request : Text) : Except StdException Text :=
  substr request (find request [' '] 0 + 1)
    (find request [' '] (find request [' '] 0 + 1) - find request [' '] 0 - 1)

/-- `parse_rtsp_setup_request`: the path and the two client ports where the source returns true.
It transmits the 461 answer itself. -/
def parseRtspSetupRequest (s : RtspSession) (request : Text) :
    Except StdException (Option (Text × Int × Int) × RtspSession) := do
  let rtspPath ← parseRtspPath request
  if rtspPath.isEmpty then return (none, s)
  let transportIndex := find request "Transport: ".toList 0
  if transportIndex = npos then return (none, s)
  let transportEndIndex := find request ['\r'] transportIndex
  if transportEndIndex = npos then return (none, s)
  let transport ← substr request (transportIndex + 11) (transportEndIndex - transportIndex - 11)
  if transport.isEmpty then return (none, s)
  if find transport "RTP/AVP/TCP".toList 0 ≠ npos then
    return (none, (s.sendResponse 461 "Unsupported Transport".toList).2)
  let clientPortIndex := find request "client_port=".toList 0
  let dashIndex := find request ['-'] clientPortIndex
  let rtpPort ← substr request (clientPortIndex + 12) (dashIndex - clientPortIndex - 12)
  if rtpPort.isEmpty then return (none, s)
  let rtcpPort ← substr request (dashIndex + 1)
    (find request ['\r'] clientPortIndex - dashIndex - 1)
  if rtcpPort.isEmpty then return (none, s)
  let clientRtpPort ← stoi rtpPort
  let clientRtcpPort ← stoi rtcpPort
  return (some (rtspPath, clientRtpPort, clientRtcpPort), s)

/-! ## Handlers -/

/-- `handle_rtsp_invalid_request`: 400, echoing the CSeq when one parses. -/
def handleRtspInvalidRequest (s : RtspSession) (request : Text) :
    Except StdException (Bool × RtspSession) := do
  match ← parseRtspCommandSequence request with
  | none => return s.sendResponse 400 "Bad Request".toList
  | some sequenceNumber => return s.sendResponse 400 "Bad Request".toList sequenceNumber

/-- The shape the OPTIONS, DESCRIBE, PLAY, PAUSE and TEARDOWN handlers share: without a CSeq the
request is invalid; otherwise apply the method's effect and answer 200 OK with its headers and
body. -/
def handleRtspCommand (effect : RtspSession → RtspSession) (headers body : RtspSession → Text)
    (s : RtspSession) (request : Text) : Except StdException (Bool × RtspSession) := do
  match ← parseRtspCommandSequence request with
  | none => handleRtspInvalidRequest s request
  | some sequenceNumber =>
    let s := effect s
    return s.sendResponse 200 "OK".toList sequenceNumber (headers s) (body s)

/-- The `rtsp://server_address_/rtsp_path_` URL of DESCRIBE. -/
def rtspUrl (s : RtspSession) : Text := "rtsp://".toList ++ s.serverAddress ++ "/".toList ++ s.rtspPath

/-- The `Session: <id>` header line. -/
def sessionHeader (s : RtspSession) : Text :=
  "Session: ".toList ++ stdToString s.sessionId.toNat ++ "\r\n".toList

/-- The SDP body of DESCRIBE. -/
def describeBody (s : RtspSession) : Text :=
  "v=0\r\no=- ".toList ++ stdToString s.sessionId.toNat ++ " 1 IN IP4 ".toList ++
    s.serverAddress ++ "\r\ns=MJPEG Stream\r\ni=MJPEG Stream\r\nt=0 0\r\na=control:".toList ++
    s.rtspUrl ++
    "\r\na=mimetype:string;\"video/x-motion-jpeg\"\r\nm=video 0 RTP/AVP 26\r\nc=IN IP4 0.0.0.0\r\nb=AS:256\r\na=control:".toList ++
    s.rtspUrl ++ "\r\na=udp-only\r\n".toList

/-- The headers of DESCRIBE. -/
def describeHeaders (s : RtspSession) : Text :=
  "Content-Type: application/sdp\r\nContent-Base: ".toList ++ s.rtspUrl ++ "\r\n".toList

/-- The headers of PLAY. -/
def playHeaders (s : RtspSession) : Text :=
  "Session: ".toList ++ stdToString s.sessionId.toNat ++ "\r\n".toList ++
    "Range: npt=0.000-\r\n".toList

/-- The headers of a successful SETUP. -/
def setupHeaders (s : RtspSession) (clientRtpPort clientRtcpPort : Int) : Text :=
  "Session: ".toList ++ stdToString s.sessionId.toNat ++ "\r\n".toList ++
    "Transport: RTP/AVP;unicast;client_port=".toList ++ stdToString clientRtpPort ++ "-".toList ++
    stdToString clientRtcpPort ++ "\r\n".toList

/-- The headers of OPTIONS. -/
def optionsHeaders (_ : RtspSession) : Text :=
  "Public: DESCRIBE, SETUP, TEARDOWN, PLAY, PAUSE\r\n".toList

/-- `handle_rtsp_options`. -/
def handleRtspOptions : RtspSession → Text → Except StdException (Bool × RtspSession) :=
  handleRtspCommand id optionsHeaders (fun _ => [])

/-- `handle_rtsp_describe`. -/
def handleRtspDescribe : RtspSession → Text → Except StdException (Bool × RtspSession) :=
  handleRtspCommand id describeHeaders describeBody

/-- `handle_rtsp_play`. -/
def handleRtspPlay : RtspSession → Text → Except StdException (Bool × RtspSession) :=
  handleRtspCommand play playHeaders (fun _ => [])

/-- `handle_rtsp_pause`. -/
def handleRtspPause : RtspSession → Text → Except StdException (Bool × RtspSession) :=
  handleRtspCommand pause sessionHeader (fun _ => [])

/-- `handle_rtsp_teardown`. -/
def handleRtspTeardown : RtspSession → Text → Except StdException (Bool × RtspSession) :=
  handleRtspCommand teardown sessionHeader (fun _ => [])

/-- `handle_rtsp_setup`: the ports are stored only once the CSeq has parsed too. -/
def handleRtspSetup (s : RtspSession) (request : Text) :
    Except StdException (Bool × RtspSession) := do
  let (parsed, s) ← parseRtspSetupRequest s request
  match parsed with
  | none => return (false, s)
  | some (_, clientRtpPort, clientRtcpPort) =>
    match ← parseRtspCommandSequence request with
    | none => handleRtspInvalidRequest s request
    | some sequenceNumber =>
      let s := { s with clientRtpPort := some clientRtpPort, clientRtcpPort := some clientRtcpPort }
      return s.sendResponse 200 "OK".toList sequenceNumber (s.setupHeaders clientRtpPort clientRtcpPort)

/-- The method dispatch at the end of `handle_rtsp_request`. -/
def dispatchRtspMethod (s : RtspSession) (method requestBody : Text) :
    Except StdException (Bool × RtspSession) :=
  if method = "OPTIONS".toList then handleRtspOptions s requestBody
  else if method = "DESCRIBE".toList then handleRtspDescribe s requestBody
  else if method = "SETUP".toList then handleRtspSetup s requestBody
  else if method = "PLAY".toList then handleRtspPlay s requestBody
  else if method = "PAUSE".toList then handleRtspPause s requestBody
  else if method = "TEARDOWN".toList then handleRtspTeardown s requestBody
  else handleRtspInvalidRequest s requestBody

/-- `handle_rtsp_request`: split the request line at its first two spaces and first CR, then
dispatch the rest of the request on the method. -/
def handleRtspRequest (s : RtspSession) (request : Text) :
    Except StdException (Bool × RtspSession) := do
  let firstSpaceIndex := find request [' '] 0
  let secondSpaceIndex := find request [' '] (firstSpaceIndex + 1)
  let endOfLineIndex := find request ['\r'] 0
  if firstSpaceIndex = npos ∨ secondSpaceIndex = npos ∨ endOfLineIndex = npos then
    handleRtspInvalidRequest s request
  else
    let method ← substr request 0 firstSpaceIndex
    let _rtspPath ← substr request (firstSpaceIndex + 1) (secondSpaceIndex - firstSpaceIndex - 1)
    let _rtspVersion ← substr request (secondSpaceIndex + 1)
      (endOfLineIndex - secondSpaceIndex - 1)
    let requestBody ← substr request (endOfLineIndex + 2)
    dispatchRtspMethod s method requestBody

end RtspSession

end Rtsp
end Espp

import Espp.Rtsp.Answer

/-!
# The reader task and the owner

`control_task_fn` runs in its own task, once per iteration: it checks `closed_` and the control
socket, then blocks in `receive` and hands what arrives to `handle_rtsp_request`.  The owner calls
`play()`, `pause()` and `teardown()` from another task at any time.  A run is any interleaving of
the reader's two steps with the owner's calls; the owner may act while the reader is blocked
between its check and its receive.  The network takes steps too: it decides, from one step to the
next, whether the control socket's `transmit` gets a response through.

`step_cases` says once what a step can do to the session; the results about whole runs follow from
it by induction on the run.
-/

namespace Espp
namespace Rtsp

open RtspSession

/-! ## Runs -/

/-- What `control_socket_->receive(buffer, max_request_size)` delivers: at most
`max_request_size` bytes. -/
structure Received where
  bytes : Text
  fits : bytes.length ≤ maxRequestSize

/-- Where the reader task stands. -/
inductive Reader where
  /-- At the head of `control_task_fn`, before the checks. -/
  | head
  /-- Past the checks, blocked in `receive`. -/
  | receiving
  /-- `control_task_fn` returned true: the task has stopped. -/
  | stopped
  /-- An exception escaped `handle_rtsp_request`. -/
  | crashed
  deriving DecidableEq, Repr

/-- The session and its reader task. -/
structure System where
  session : RtspSession
  reader : Reader

/-- The steps of a run: the reader's check (with the state of the control socket) and receive
(with what arrived, if anything), the owner's calls, and the network starting or stopping to get
what `transmit` sends through. -/
inductive Event where
  | check (connected : Bool)
  | receive (buffer : Option Received)
  | play
  | pause
  | teardown
  | link (up : Bool)

/-- A freshly constructed session whose task has just started. -/
def System.init (sessionId : UInt32) (serverAddress rtspPath : Text) : System :=
  ⟨RtspSession.create sessionId serverAddress rtspPath, .head⟩

/-- One step.  A reader step that is not the reader's next one changes nothing. -/
def step (sys : System) : Event → System
  | .check connected =>
    match sys.reader with
    | .head =>
      if sys.session.closed then { sys with reader := .stopped }
      else if connected then { sys with reader := .receiving }
      else ⟨sys.session.teardown, .stopped⟩
    | _ => sys
  | .receive buffer =>
    match sys.reader, buffer with
    | .receiving, none => { sys with reader := .head }
    | .receiving, some b =>
      match sys.session.handleRtspRequest b.bytes with
      | .ok (_, s') => ⟨s', .head⟩
      | .error _ => { sys with reader := .crashed }
    | _, _ => sys
  | .play => { sys with session := sys.session.play }
  | .pause => { sys with session := sys.session.pause }
  | .teardown => { sys with session := sys.session.teardown }
  | .link up => { sys with session := { sys.session with linkUp := up } }

/-- The system after a run. -/
def run (sys : System) (es : List Event) : System := es.foldl step sys

@[simp] theorem run_nil (sys : System) : run sys [] = sys := rfl

@[simp] theorem run_cons (sys : System) (e : Event) (es : List Event) :
    run sys (e :: es) = run (step sys e) es := rfl

theorem run_append (sys : System) (es es' : List Event) :
    run sys (es ++ es') = run (run sys es) es' := List.foldl_append _ _ _ _

/-! ## What one step can do -/

/-- Every step leaves the session alone, applies an owner operation to it, sets the state of the
link, or (from a blocked reader) handles one received request normally. -/
theorem step_cases (sys : System) (e : Event) :
    (step sys e).session = sys.session ∨ (e = .play ∧ (step sys e).session = sys.session.play) ∨
      (step sys e).session = sys.session.pause ∨ (step sys e).session = sys.session.teardown ∨
      (∃ up, e = .link up ∧ (step sys e).session = { sys.session with linkUp := up }) ∨
      ∃ b, e = .receive (some b) ∧ sys.reader = .receiving ∧
        Handled sys.session b.bytes (step sys e).session ∧ (step sys e).reader = .head := by
  obtain ⟨s, r⟩ := sys
  cases e with
  | check connected =>
    cases r
    case head =>
      simp only [step]
      split_ifs
      · exact .inl rfl
      · exact .inl rfl
      · exact .inr (.inr (.inr (.inl rfl)))
    all_goals exact .inl rfl
  | receive buffer =>
    cases r
    case receiving =>
      cases buffer with
      | none => exact .inl rfl
      | some b =>
        simp only [step]
        split
        · next s' h =>
          exact .inr (.inr (.inr (.inr (.inr
            ⟨b, rfl, trivial, handleRtspRequest_handled b.fits h, rfl⟩))))
        · exact .inl rfl
    all_goals exact .inl rfl
  | play => exact .inr (.inl ⟨rfl, rfl⟩)
  | pause => exact .inr (.inr (.inl rfl))
  | teardown => exact .inr (.inr (.inr (.inl rfl)))
  | link up => exact .inr (.inr (.inr (.inr (.inl ⟨up, rfl, rfl⟩))))

/-- The reader gets past its checks only from the head of an open session. -/
theorem step_reader_receiving {sys : System} {e : Event} (h : (step sys e).reader = .receiving) :
    sys.reader = .receiving ∨ (sys.reader = .head ∧ sys.session.closed = false) := by
  obtain ⟨s, r⟩ := sys
  cases e with
  | check connected =>
    cases r
    case head =>
      simp only [step] at h
      split_ifs at h with hc
      exact .inr ⟨rfl, by simpa using hc⟩
    all_goals exact .inl h
  | receive buffer =>
    cases r
    case receiving => exact .inl rfl
    all_goals exact .inl h
  | play | pause | teardown | link => exact .inl h

theorem command?_closed {m : Text} {c : Command} (h : command? m = some c) {s : RtspSession}
    (hs : s.closed = true) : (c.effect s).closed = true := by
  rcases command?_cases h with ⟨-, rfl⟩ | ⟨-, rfl⟩ | ⟨-, rfl⟩ | ⟨-, rfl⟩ | ⟨-, rfl⟩ <;>
    first | exact hs | rfl

/-- A handled request never reopens the session. -/
theorem Handled.closed {s s' : RtspSession} {r : Text} (h : Handled s r s') (hs : s.closed = true) :
    s'.closed = true := by
  cases h with
  | command c n _ hc => exact command?_closed hc hs
  | _ => exact hs

theorem command?_activates {m : Text} {c : Command} (h : command? m = some c) {s : RtspSession}
    (hs : s.sessionActive = false) (ha : (c.effect s).sessionActive = true) :
    m = "PLAY".toList ∧ c.headers (c.effect s) = playHeaders s ∧ c.body (c.effect s) = [] := by
  rcases command?_cases h with ⟨-, rfl⟩ | ⟨-, rfl⟩ | ⟨rfl, rfl⟩ | ⟨-, rfl⟩ | ⟨-, rfl⟩ <;>
    simp_all [play, pause, teardown, playHeaders]

/-- A handled request turns `session_active_` on only as a PLAY answered 200. -/
theorem Handled.activates {s s' : RtspSession} {r : Text} (h : Handled s r s')
    (hs : s.sessionActive = false) (ha : s'.sessionActive = true) :
    methodToken r = "PLAY".toList ∧
      ∃ n, s'.outbox = s.outbox ++ [⟨200, "OK".toList, n, playHeaders s, []⟩] := by
  cases h with
  | command c n _ hc =>
    obtain ⟨hm, hh, hb⟩ := command?_activates hc hs ha
    exact ⟨hm, n, by simp [c.effect_outbox, hh, hb]⟩
  | setup => simp_all
  | _ => simp_all

/-- What a step can still send once the session is closed: one response if the reader is blocked
in `receive`, none otherwise. -/
def budget (r : Reader) : Nat := if r = .receiving then 1 else 0

theorem step_closed {sys : System} (e : Event) (h : sys.session.closed = true) :
    (step sys e).session.closed = true := by
  rcases step_cases sys e with hs | ⟨-, hs⟩ | hs | hs | ⟨_, -, hs⟩ | ⟨b, -, -, hh, -⟩ <;>
    try rw [hs]
  exacts [h, h, h, rfl, h, hh.closed h]

theorem step_outbox_of_closed {sys : System} (e : Event) (h : sys.session.closed = true) :
    ∃ x, (step sys e).session.outbox = sys.session.outbox ++ x ∧
      x.length + budget (step sys e).reader ≤ budget sys.reader := by
  have hb : budget (step sys e).reader ≤ budget sys.reader := by
    unfold budget
    split_ifs with h1 h2 <;> try omega
    rcases step_reader_receiving h1 with h3 | ⟨-, h3⟩
    · exact absurd h3 h2
    · simp [h] at h3
  rcases step_cases sys e with hs | ⟨-, hs⟩ | hs | hs | ⟨_, -, hs⟩ | ⟨b, -, hr, hh, hr'⟩
  · exact ⟨[], by rw [hs, List.append_nil], by simpa using hb⟩
  all_goals try exact ⟨[], by rw [hs]; simp [play, pause, teardown], by simpa using hb⟩
  obtain ⟨out, hout, -⟩ := hh.status
  refine ⟨out.toList, hout, ?_⟩
  rw [hr, hr']
  cases out <;> simp [budget]

theorem step_active {sys : System} (e : Event)
    (ha : (step sys e).session.sessionActive = true) :
    sys.session.sessionActive = true ∨ e = .play ∨ sys.reader = .receiving := by
  rcases step_cases sys e with hs | ⟨he, -⟩ | hs | hs | ⟨_, -, hs⟩ | ⟨b, -, hr, -⟩
  · exact .inl (hs ▸ ha)
  · exact .inr (.inl he)
  · rw [hs] at ha; cases ha
  · rw [hs] at ha; cases ha
  · rw [hs] at ha; exact .inl ha
  · exact .inr (.inr hr)

/-! ## Runs after `teardown` -/

/-- Once `closed_` is set it stays set; afterwards the control stream gets at most one more
response, the answer to a request the reader was already blocked on, and none if it was not; and
`session_active_` comes back only through an owner `play()` or that one request. -/
theorem run_of_closed {sys : System} (es : List Event) (h : sys.session.closed = true) :
    (run sys es).session.closed = true ∧
      (∃ extra, (run sys es).session.outbox = sys.session.outbox ++ extra ∧
        extra.length ≤ budget sys.reader) ∧
      ((run sys es).session.sessionActive = true →
        sys.session.sessionActive = true ∨ Event.play ∈ es ∨ sys.reader = .receiving) := by
  induction es generalizing sys with
  | nil => exact ⟨h, ⟨[], by simp, by simp⟩, .inl⟩
  | cons e es ih =>
    obtain ⟨hc, ⟨extra, hout, hlen⟩, hact⟩ := ih (step_closed e h)
    obtain ⟨x, hx, hxlen⟩ := step_outbox_of_closed e h
    refine ⟨hc, ⟨x ++ extra, by simp [hout, hx], ?_⟩, fun ha => ?_⟩
    · have : extra.length ≤ budget (step sys e).reader := hlen
      simp only [List.length_append]
      omega
    · rcases hact ha with ha' | hp | hr
      · rcases step_active e ha' with h1 | rfl | h1
        · exact .inl h1
        · exact .inr (.inl (List.mem_cons_self _ _))
        · exact .inr (.inr h1)
      · exact .inr (.inl (List.mem_cons_of_mem e hp))
      · rcases step_reader_receiving hr with h1 | ⟨-, h1⟩
        · exact .inr (.inr h1)
        · simp [h] at h1

/-- `teardown()` then `play()` leaves the session closed and active; and a PLAY the reader was
already waiting for when the owner tore the session down is answered, and activates it. -/
theorem run_reopens :
    let sys := System.init 42 "host".toList "stream".toList
    let b : Received := ⟨"PLAY a b\r\nCSeq: 4\r\n\r\n".toList, by decide⟩
    (run sys [.teardown, .play]).session.closed = true ∧
      (run sys [.teardown, .play]).session.sessionActive = true ∧
      (run sys [.check true, .teardown, .receive (some b)]).session.closed = true ∧
      (run sys [.check true, .teardown, .receive (some b)]).session.sessionActive = true ∧
      (run sys [.check true, .teardown, .receive (some b)]).session.outbox.map (·.code) = [200] :=
  ⟨rfl, rfl, rfl, rfl, rfl⟩

theorem run_of_closed_teardown :
    let sys := step (System.init 42 "host".toList "stream".toList) .teardown
    sys.session.closed = true ∧
      (run sys [.play]).session.closed = true ∧
      (∃ extra, (run sys [.play]).session.outbox = sys.session.outbox ++ extra ∧
        extra.length ≤ budget sys.reader) ∧
      ((run sys [.play]).session.sessionActive = true →
        sys.session.sessionActive = true ∨ Event.play ∈ [Event.play] ∨ sys.reader = .receiving) :=
  ⟨rfl, run_of_closed [.play] rfl⟩

/-! ## What turns the session active -/

/-- A step that turns `session_active_` on: an owner `play()`, or a PLAY request answered 200 with
the PLAY headers. -/
def Activation (sys : System) (e : Event) : Prop :=
  e = .play ∨ ∃ b n, e = .receive (some b) ∧ methodToken b.bytes = "PLAY".toList ∧
    (step sys e).session.outbox = sys.session.outbox ++
      [⟨200, "OK".toList, n, playHeaders sys.session, []⟩]

theorem step_activation {sys : System} {e : Event} (h0 : sys.session.sessionActive = false)
    (h : (step sys e).session.sessionActive = true) : Activation sys e := by
  rcases step_cases sys e with hs | ⟨he, -⟩ | hs | hs | ⟨_, -, hs⟩ | ⟨b, rfl, -, hh, -⟩
  · rw [hs, h0] at h; cases h
  · exact .inl he
  · rw [hs] at h; cases h
  · rw [hs] at h; cases h
  · rw [hs] at h; exact absurd h (by simp [h0])
  · obtain ⟨hm, n, hout⟩ := hh.activates h0 h
    exact .inr ⟨b, n, rfl, hm, hout⟩

/-- In every run from an inactive session, whenever `session_active_` is on, some earlier step
turned it on: an owner `play()` or a PLAY answered 200.  Nothing asks for a SETUP first. -/
theorem run_activation {sys : System} {es : List Event} (h0 : sys.session.sessionActive = false)
    (h : (run sys es).session.sessionActive = true) :
    ∃ pre e post, es = pre ++ e :: post ∧ Activation (run sys pre) e := by
  induction es generalizing sys with
  | nil => rw [run_nil, h0] at h; cases h
  | cons e es ih =>
    cases h1 : (step sys e).session.sessionActive with
    | false =>
      obtain ⟨pre, e', post, rfl, ha⟩ := ih h1 h
      exact ⟨e :: pre, e', post, rfl, ha⟩
    | true => exact ⟨[], e, es, rfl, step_activation h0 h1⟩

/-- A PLAY as the first request makes the session active with no client ports. -/
theorem run_play_before_setup :
    let sys := System.init 42 "host".toList "stream".toList
    let b : Received := ⟨"PLAY a b\r\nCSeq: 1\r\n\r\n".toList, by decide⟩
    (run sys [.check true, .receive (some b)]).session.sessionActive = true ∧
      (run sys [.check true, .receive (some b)]).session.clientRtpPort = none ∧
      (run sys [.play]).session.sessionActive = true ∧
      (run sys [.play]).session.clientRtpPort = none :=
  ⟨rfl, rfl, rfl, rfl⟩

theorem run_activation_play :
    let sys := System.init 42 "host".toList "stream".toList
    sys.session.sessionActive = false ∧ (run sys [.pause, .play]).session.sessionActive = true ∧
      ∃ pre e post, [Event.pause, .play] = pre ++ e :: post ∧ Activation (run sys pre) e :=
  ⟨rfl, rfl, run_activation rfl rfl⟩

end Rtsp
end Espp

import Espp.Rtsp.Parse

/-!
# Handling one request

The inversion of `handle_rtsp_request`.  `Handled s r s'` lists every way the handler returns
normally on request `r` in session `s`, with the one response it transmits (or none) and the
session `s'` it leaves; `handleRtspRequest_handled` proves that the code takes one of these ways on
every request the reader can receive.  The frame, status and CSeq results are read off this
relation, one case per constructor.
-/

namespace Espp
namespace Rtsp

open RtspSession

/-! ## Responses and the command table -/

/-- The 400 answer of `handle_rtsp_invalid_request`, with the CSeq when one parsed. -/
def badRequest (n : Option Int) : Response := ⟨400, "Bad Request".toList, n.getD (-1), [], []⟩

/-- The 461 answer of `parse_rtsp_setup_request` to a TCP transport. -/
def unsupportedTransport : Response := ⟨461, "Unsupported Transport".toList, -1, [], []⟩

/-- A method served by `handleRtspCommand`: its effect on the session, its headers and body.  The
effect is one of the owner operations, which never touch the socket. -/
structure Command where
  effect : RtspSession → RtspSession
  headers : RtspSession → Text
  body : RtspSession → Text
  effect_outbox : ∀ s, (effect s).outbox = s.outbox

/-- The methods of the dispatch that share `handleRtspCommand`; SETUP has its own handler. -/
def command? (method : Text) : Option Command :=
  if method = "OPTIONS".toList then some ⟨id, optionsHeaders, fun _ => [], fun _ => rfl⟩
  else if method = "DESCRIBE".toList then some ⟨id, describeHeaders, describeBody, fun _ => rfl⟩
  else if method = "PLAY".toList then some ⟨play, playHeaders, fun _ => [], fun _ => rfl⟩
  else if method = "PAUSE".toList then some ⟨pause, sessionHeader, fun _ => [], fun _ => rfl⟩
  else if method = "TEARDOWN".toList then some ⟨teardown, sessionHeader, fun _ => [], fun _ => rfl⟩
  else none

/-- The five entries of the command table. -/
theorem command?_cases {m : Text} {c : Command} (h : command? m = some c) :
    (m = "OPTIONS".toList ∧ c = ⟨id, optionsHeaders, fun _ => [], fun _ => rfl⟩) ∨
      (m = "DESCRIBE".toList ∧ c = ⟨id, describeHeaders, describeBody, fun _ => rfl⟩) ∨
      (m = "PLAY".toList ∧ c = ⟨play, playHeaders, fun _ => [], fun _ => rfl⟩) ∨
      (m = "PAUSE".toList ∧ c = ⟨pause, sessionHeader, fun _ => [], fun _ => rfl⟩) ∨
      (m = "TEARDOWN".toList ∧ c = ⟨teardown, sessionHeader, fun _ => [], fun _ => rfl⟩) := by
  unfold command? at h
  rcases ite_eq_iff.mp h with ⟨h1, ⟨⟩⟩ | ⟨-, h⟩; · exact .inl ⟨h1, rfl⟩
  rcases ite_eq_iff.mp h with ⟨h2, ⟨⟩⟩ | ⟨-, h⟩; · exact .inr (.inl ⟨h2, rfl⟩)
  rcases ite_eq_iff.mp h with ⟨h3, ⟨⟩⟩ | ⟨-, h⟩; · exact .inr (.inr (.inl ⟨h3, rfl⟩))
  rcases ite_eq_iff.mp h with ⟨h4, ⟨⟩⟩ | ⟨-, h⟩; · exact .inr (.inr (.inr (.inl ⟨h4, rfl⟩)))
  rcases ite_eq_iff.mp h with ⟨h5, ⟨⟩⟩ | ⟨-, ⟨⟩⟩
  exact .inr (.inr (.inr (.inr ⟨h5, rfl⟩)))

/-- The dispatch is the command table, then SETUP, then the invalid-request answer. -/
theorem dispatchRtspMethod_eq (s : RtspSession) (m t : Text) :
    s.dispatchRtspMethod m t =
      match command? m with
      | some c => s.handleRtspCommand c.effect c.headers c.body t
      | none => if m = "SETUP".toList then s.handleRtspSetup t else s.handleRtspInvalidRequest t := by
  unfold dispatchRtspMethod command?
  by_cases h1 : m = "OPTIONS".toList; · subst h1; rfl
  by_cases h2 : m = "DESCRIBE".toList; · subst h2; rfl
  by_cases h3 : m = "SETUP".toList; · subst h3; rfl
  by_cases h4 : m = "PLAY".toList; · subst h4; rfl
  by_cases h5 : m = "PAUSE".toList; · subst h5; rfl
  by_cases h6 : m = "TEARDOWN".toList; · subst h6; rfl
  simp only [if_neg h1, if_neg h2, if_neg h3, if_neg h4, if_neg h5, if_neg h6]

/-! ## One equation per handler -/

theorem handleRtspInvalidRequest_eq (s : RtspSession) {t : Text} (ht : t.length < 2 ^ 31) :
    s.handleRtspInvalidRequest t = (cseqValue t).map fun n => (s.linkUp, s.transmit (badRequest n)) := by
  unfold handleRtspInvalidRequest
  rw [parseRtspCommandSequence_eq (headerFits_of_length ht)]
  rcases cseqValue t with e | (_ | n) <;> rfl

theorem handleRtspCommand_eq (s : RtspSession) (c : Command) {t : Text} (ht : t.length < 2 ^ 31) :
    s.handleRtspCommand c.effect c.headers c.body t =
      match cseqValue t with
      | .error e => .error e
      | .ok none => .ok (s.linkUp, s.transmit (badRequest none))
      | .ok (some n) =>
        .ok ((c.effect s).linkUp, (c.effect s).transmit
          ⟨200, "OK".toList, n, c.headers (c.effect s), c.body (c.effect s)⟩) := by
  unfold handleRtspCommand
  rw [parseRtspCommandSequence_eq (headerFits_of_length ht)]
  rcases hv : cseqValue t with e | (_ | n)
  · rfl
  · simp only [bind, Except.bind]
    rw [handleRtspInvalidRequest_eq s ht, hv]
    rfl
  · rfl

/-- Every normal return of `handle_rtsp_setup`. -/
theorem handleRtspSetup_ok {s s' : RtspSession} {t : Text} {b : Bool} (ht : t.length < 2 ^ 31)
    (h : s.handleRtspSetup t = .ok (b, s')) :
    (s' = s ∧ SetupSilent t) ∨
      (s' = s.transmit unsupportedTransport ∧ requestsTcp t ∧ ¬ SetupSilent t) ∨
      (requestsTcp t = false ∧ ¬ SetupSilent t ∧ cseqValue t = .ok none ∧
        s' = s.transmit (badRequest none)) ∨
      ∃ path p q n, s.parseRtspSetupRequest t = .ok (some (path, p, q), s) ∧
        requestsTcp t = false ∧ ¬ SetupSilent t ∧ cseqValue t = .ok (some n) ∧
        s' = { s with clientRtpPort := some p, clientRtcpPort := some q }.transmit
          ⟨200, "OK".toList, n, s.setupHeaders p q, []⟩ := by
  unfold handleRtspSetup at h
  rw [bind_eq_ok] at h
  obtain ⟨⟨parsed, s₁⟩, hp, h⟩ := h
  simp only at h
  rcases parseRtspSetupRequest_ok ht hp with ⟨hn, hs, hsil⟩ | ⟨hn, hs, htcp, hsil⟩ |
    ⟨hsome, hs, htcp, hsil⟩
  · subst hn hs; cases h; exact .inl ⟨rfl, hsil⟩
  · subst hn hs; cases h; exact .inr (.inl ⟨rfl, htcp, hsil⟩)
  · subst hs
    obtain ⟨⟨path, p, q⟩, rfl⟩ := Option.isSome_iff_exists.mp hsome
    simp only at h
    rw [parseRtspCommandSequence_eq (headerFits_of_length ht)] at h
    rcases hv : cseqValue t with e | (_ | n) <;> rw [hv] at h
    · cases h
    · simp only [bind, Except.bind] at h
      rw [handleRtspInvalidRequest_eq _ ht, hv] at h
      cases h
      exact .inr (.inr (.inl ⟨htcp, hsil, rfl, rfl⟩))
    · cases h
      exact .inr (.inr (.inr ⟨path, p, q, n, hp, htcp, hsil, rfl, rfl⟩))

/-! ## Every normal return of `handle_rtsp_request` -/

/-- The ways `handle_rtsp_request` returns normally on request `r` in session `s`, and the session
it leaves: at most one response transmitted, and the members each way changes. -/
inductive Handled (s : RtspSession) (r : Text) : RtspSession → Prop
  /-- No two spaces or no CR: 400, with the CSeq of the whole request. -/
  | badLine (n : Option Int) :
      ¬ hasRequestLine r → cseqValue r = .ok n → Handled s r (s.transmit (badRequest n))
  /-- A method outside the dispatch: 400, with the CSeq of the body. -/
  | unknownMethod (n : Option Int) :
      hasRequestLine r → command? (methodToken r) = none → methodToken r ≠ "SETUP".toList →
      cseqValue (requestBody r) = .ok n → Handled s r (s.transmit (badRequest n))
  /-- A method of the command table without a CSeq value: 400. -/
  | commandNoCSeq (c : Command) :
      hasRequestLine r → command? (methodToken r) = some c → cseqValue (requestBody r) = .ok none →
      Handled s r (s.transmit (badRequest none))
  /-- A method of the command table with CSeq `n`: its effect, then 200 with its headers and body. -/
  | command (c : Command) (n : Int) :
      hasRequestLine r → command? (methodToken r) = some c →
      cseqValue (requestBody r) = .ok (some n) →
      Handled s r ((c.effect s).transmit
        ⟨200, "OK".toList, n, c.headers (c.effect s), c.body (c.effect s)⟩)
  /-- A SETUP whose transport parsed, without a CSeq value: 400. -/
  | setupNoCSeq :
      hasRequestLine r → methodToken r = "SETUP".toList → requestsTcp (requestBody r) = false →
      cseqValue (requestBody r) = .ok none → ¬ SetupSilent (requestBody r) →
      Handled s r (s.transmit (badRequest none))
  /-- A SETUP with ports `p`, `q` and CSeq `n`: the ports are stored, then 200. -/
  | setup (path : Text) (p q n : Int) :
      hasRequestLine r → methodToken r = "SETUP".toList →
      s.parseRtspSetupRequest (requestBody r) = .ok (some (path, p, q), s) →
      requestsTcp (requestBody r) = false → cseqValue (requestBody r) = .ok (some n) →
      ¬ SetupSilent (requestBody r) →
      Handled s r ({ s with clientRtpPort := some p, clientRtcpPort := some q }.transmit
        ⟨200, "OK".toList, n, s.setupHeaders p q, []⟩)
  /-- A SETUP asking for TCP: 461 without a CSeq. -/
  | tcpTransport :
      hasRequestLine r → methodToken r = "SETUP".toList → requestsTcp (requestBody r) →
      ¬ SetupSilent (requestBody r) → Handled s r (s.transmit unsupportedTransport)
  /-- A SETUP the parser rejects silently: nothing is transmitted. -/
  | setupIgnored :
      hasRequestLine r → methodToken r = "SETUP".toList → SetupSilent (requestBody r) →
      Handled s r s

theorem length_requestBody_le (r : Text) : (requestBody r).length ≤ r.length := by
  unfold requestBody
  have := @length_takeWhile_add r '\r'
  simp only [List.length_drop]
  omega

/-- `handle_rtsp_request` refines `Handled`: on every request the reader can receive, a normal
return takes one of the listed ways. -/
theorem handleRtspRequest_handled {s s' : RtspSession} {r : Text} {b : Bool}
    (hr : r.length ≤ maxRequestSize) (h : s.handleRtspRequest r = .ok (b, s')) :
    Handled s r s' := by
  have hr' : r.length < 2 ^ 31 := by unfold maxRequestSize at hr; omega
  have hb : (requestBody r).length < 2 ^ 31 := (length_requestBody_le r).trans_lt hr'
  rw [handleRtspRequest_eq s hr'] at h
  split at h
  · rename_i hline
    split at h
    · cases h
    rw [dispatchRtspMethod_eq] at h
    cases hc : command? (methodToken r) with
    | some c =>
      rw [hc] at h
      dsimp only at h
      rw [handleRtspCommand_eq s c hb] at h
      rcases hv : cseqValue (requestBody r) with e | (_ | n) <;> rw [hv] at h <;> cases h
      · exact .commandNoCSeq c hline hc hv
      · exact .command c n hline hc hv
    | none =>
      rw [hc] at h
      dsimp only at h
      split at h
      · rename_i hsetup
        rcases handleRtspSetup_ok hb h with ⟨rfl, hsil⟩ | ⟨rfl, htcp, hsil⟩ |
          ⟨htcp, hsil, hv, rfl⟩ | ⟨path, p, q, n, hp, htcp, hsil, hv, rfl⟩
        · exact .setupIgnored hline hsetup hsil
        · exact .tcpTransport hline hsetup htcp hsil
        · exact .setupNoCSeq hline hsetup htcp hv hsil
        · exact .setup path p q n hline hsetup hp htcp hv hsil
      · rename_i hsetup
        rw [handleRtspInvalidRequest_eq s hb] at h
        rcases hv : cseqValue (requestBody r) with e | n <;> rw [hv] at h <;> cases h
        exact .unknownMethod n hline hc hsetup hv
  · rename_i hline
    rw [handleRtspInvalidRequest_eq s hr'] at h
    rcases hv : cseqValue r with e | n <;> rw [hv] at h <;> cases h
    exact .badLine n hline hv

end Rtsp
end Espp

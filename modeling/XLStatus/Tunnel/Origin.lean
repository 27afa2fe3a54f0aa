import XLStatus.Tunnel.System

/-! Whose bytes the agent obeys. The payloads of a tunnel's client and the server's
control messages travel in the same data frames; the agent tells them apart by the session
it has for the stream. -/

namespace XLStatus.Tunnel

open Shared Grpc Agent.Io Transition List

def ControlFrame (codec : Codec) (x : Tagged) : Prop :=
  x.origin = .server ∧
    ((∃ localHost localPort,
        x.frame.payload = some (.data (codec.encodeNat (.open localHost localPort)))) ∨
      ∃ message, x.frame.payload = some (.data (codec.encodeTerminal message)))

inductive Source (codec : Codec) (st : System) (x : Tagged) : Prop
  | client (horigin : x.origin = .client)
      (htunnel : (st.bridges x.frame.streamId).isSome = true)
  | openRequest (horigin : x.origin = .server) {localHost : String} {localPort : UInt16}
      (hpayload : x.frame.payload = some (.data (codec.encodeNat (.open localHost localPort))))
      (hopens : codec.OpensAs localHost localPort)
  | close (horigin : x.origin = .server) {reason : String}
      (hpayload : x.frame.payload = some (.close reason))
  | terminal (horigin : x.origin = .server) {message : TerminalBridgeMessage}
      (hpayload : x.frame.payload = some (.data (codec.encodeTerminal message)))
      (hterminal : (st.terminals.lookup x.frame.streamId).isSome = true)

structure Apart (codec : Codec) (st : System) : Prop where
  disjoint : ∀ s, (st.terminals.lookup s).isSome = true → st.bridges s = none
  sessions : ∀ s, (st.agent.terminalSessions.lookup s).isSome = true →
    (st.terminals.lookup s).isSome = true
  queue : ∀ x ∈ st.toAgent, Source codec st x
  acts : ∀ x ∈ st.agent.acts, ControlFrame codec x.cause

def clientBytesInert (codec : Codec) (st : System) : Event → Bool
  | .receive _ => match st.agent.handler, st.toAgent with
    | .idle, x :: _ => match x.origin, x.frame.payload with
      | .client, some (.data payload) =>
        (st.agent.natSessions.lookup x.frame.streamId).isSome ||
          !Session.opensSession codec st.agent payload
      | _, _ => true
    | _, _ => true
  | _ => true

section Steps

variable {codec : Codec} {agentId : AgentId} {st : System}

theorem Source.mono {st' : System} {x : Tagged} (h : Source codec st x)
    (hbridges : ∀ s, (st.bridges s).isSome = true → (st'.bridges s).isSome = true)
    (hterminals : ∀ s, (st.terminals.lookup s).isSome = true →
      (st'.terminals.lookup s).isSome = true) : Source codec st' x := by
  cases h with
  | client horigin htunnel => exact .client horigin (hbridges _ htunnel)
  | openRequest horigin hpayload hopens => exact .openRequest horigin hpayload hopens
  | close horigin hpayload => exact .close horigin hpayload
  | terminal horigin hpayload hterminal => exact .terminal horigin hpayload (hterminals _ hterminal)

theorem apart_bridge (h : Apart codec st) {s : String} {b : Bridge} {frames : List Tagged}
    (hs : st.terminals.lookup s = none)
    (hframes : ∀ x ∈ frames, Source codec
      { st with bridges := Function.update st.bridges s (some b) } x) :
    Apart codec
      { st with
        bridges := Function.update st.bridges s (some b)
        toAgent := st.toAgent ++ frames } := by
  refine ⟨fun s' hs' => ?_, h.sessions, fun x hx => ?_, h.acts⟩
  · have hne : s' ≠ s := by
      rintro rfl
      rw [hs] at hs'
      cases hs'
    simpa only [Function.update_of_ne hne] using h.disjoint s' hs'
  · rcases mem_append.mp hx with hold | hnew
    · exact (h.queue x hold).mono (fun s' => isSome_update b) fun _ h => h
    · exact (hframes x hnew).mono (fun _ h => h) fun _ h => h

theorem apart_openTunnel (h : Apart codec st) (s : String) {mapping : Mapping}
    (hopens : codec.OpensAs mapping.localHost mapping.localPort) :
    Apart codec (st.openTunnel codec agentId s mapping) := by
  unfold System.openTunnel
  split
  · rename_i hcond
    obtain ⟨hunused, -⟩ := Bool.and_eq_true_iff.mp hcond
    obtain ⟨-, hterminal⟩ := Bool.and_eq_true_iff.mp hunused
    refine apart_bridge h (Option.isNone_iff_eq_none.mp hterminal) fun x hx => ?_
    obtain rfl := mem_singleton.mp hx
    exact .openRequest rfl rfl hopens
  · exact h

theorem apart_stepBridge (h : Apart codec st) (s : String) (e : BridgeEvent) :
    Apart codec (st.stepBridge codec agentId s e) := by
  unfold System.stepBridge
  split
  · exact h
  · rename_i b hb
    -- A stream with a bridge has no terminal socket.
    have hs : st.terminals.lookup s = none := by
      by_contra hne
      rw [h.disjoint s (Option.isSome_iff_ne_none.mpr hne)] at hb
      cases hb
    refine apart_bridge h hs fun x hx => ?_
    obtain ⟨rfl, hclient | ⟨hserver, reason, hclose⟩⟩ := Bridge.bridgeFrame_step hx
    · exact .client hclient (by simp)
    · exact .close hserver hclose

theorem apart_terminal {st' : System} (h : Apart codec st) (heff : TerminalEffect codec st st') :
    Apart codec st' := by
  cases heff with
  | same => exact h
  | @send x terminals hterminals hfree horigin hpayload =>
    have hkept : ∀ s, (st.terminals.lookup s).isSome = true → (terminals.lookup s).isSome = true :=
      fun s hs => (hterminals s).mpr (.inr hs)
    refine ⟨fun s hs => ?_, fun s hs => hkept s (h.sessions s hs), fun y hy => ?_, h.acts⟩
    · rcases (hterminals s).mp hs with rfl | hold
      · exact hfree.elim id (h.disjoint _)
      · exact h.disjoint s hold
    · rcases mem_append.mp hy with hold | hnew
      · exact (h.queue y hold).mono (fun _ h => h) hkept
      · obtain rfl := mem_singleton.mp hnew
        rcases hpayload with ⟨message, hmessage⟩ | ⟨reason, hclose⟩
        · exact .terminal horigin hmessage ((hterminals _).mpr (.inl rfl))
        · exact .close horigin hclose

theorem apart_receive (h : Apart codec st) {result : Except String Unit}
    (hinert : clientBytesInert codec st (.receive result) = true) :
    Apart codec (st.receive codec agentId result) := by
  unfold System.receive
  split
  · rename_i x rest hidle hqueue
    have hx : Source codec st x := h.queue x (by rw [hqueue]; exact mem_cons_self)
    have heff := (Session.handled codec agentId st.agent x result).effect
    -- a client's frame opens nothing
    have hclient : ∀ payload, x.origin = .client → x.frame.payload = some (.data payload) →
        (st.bridges x.frame.streamId).isSome = true →
        (st.agent.terminalSessions.lookup x.frame.streamId).isSome = true ∨
          (st.agent.natSessions.lookup x.frame.streamId = none ∧
            Session.opensSession codec st.agent payload = true) → False := by
      rintro payload horigin hpayload htunnel (hsession | ⟨hnat, hopens⟩)
      · rw [h.disjoint _ (h.sessions _ hsession)] at htunnel
        cases htunnel
      · simp [clientBytesInert, hidle, hqueue, horigin, hpayload, hnat, hopens] at hinert
    refine ⟨h.disjoint, fun s hs => ?_, fun y hy => ?_, fun y hy => ?_⟩
    · rcases heff.sessions s hs with hold | ⟨rfl, payload, hpayload, hnat, hopens, hdecode⟩
      · exact h.sessions s hold
      · cases hx with
        | client horigin htunnel =>
          exact (hclient payload horigin hpayload htunnel (.inr ⟨hnat, hopens⟩)).elim
        | openRequest _ hopen hcodec =>
          rw [hopen] at hpayload
          cases hpayload
          rw [hcodec.terminal] at hdecode
          cases hdecode
        | close _ hclose =>
          rw [hclose] at hpayload
          cases hpayload
        | terminal _ _ hterminal => exact hterminal
    · have hmem : y ∈ st.toAgent := by
        rw [hqueue]
        exact mem_cons_of_mem x hy
      exact (h.queue y hmem).mono (fun _ h => h) fun _ h => h
    · rcases heff.acts with hsame | ⟨act, payload, happ, hpayload, hwhy⟩
      · rw [hsame] at hy
        exact h.acts y hy
      · rw [happ] at hy
        rcases mem_append.mp hy with hold | hnew
        · exact h.acts y hold
        · obtain rfl := mem_singleton.mp hnew
          cases hx with
          | client horigin htunnel =>
            exact (hclient payload horigin hpayload htunnel hwhy).elim
          | openRequest horigin hopen => exact ⟨horigin, .inl ⟨_, _, hopen⟩⟩
          | close _ hclose =>
            rw [hclose] at hpayload
            cases hpayload
          | terminal horigin hmessage => exact ⟨horigin, .inr ⟨_, hmessage⟩⟩
  · exact h

theorem apart_step (h : Apart codec st) {e : Event} (hinert : clientBytesInert codec st e = true)
    (hopens : ∀ s mapping, e = .openTunnel s mapping →
      codec.OpensAs mapping.localHost mapping.localPort) :
    Apart codec (st.step codec agentId e) := by
  cases e with
  | openTunnel s mapping => exact apart_openTunnel h s (hopens s mapping rfl)
  | bridge s e => exact apart_stepBridge h s e
  | openTerminal s cols rows => exact apart_terminal h (terminalEffect_openTerminal s cols rows)
  | browserMessage s message => exact apart_terminal h (terminalEffect_browserMessage s message)
  | browserGone s => exact apart_terminal h (terminalEffect_browserGone s)
  | receive => exact apart_receive h hinert
  | agent e =>
    have hquiet := (Session.stepped codec agentId st.agent e).quiet.1
    refine ⟨h.disjoint, fun s hs => h.sessions s ?_, fun x hx => ?_, fun x hx => h.acts x ?_⟩
    · rwa [← hquiet.terminalSessions]
    · exact (h.queue x hx).mono (fun _ h => h) fun _ h => h
    · rwa [← hquiet.acts]

end Steps

namespace Sample

def agentId : AgentId := ⟨"00000000-0000-4000-8000-000000000001", canonical_one⟩

def bytes (s : String) : List UInt8 := s.toUTF8.toList

def openTerminalText : List UInt8 := bytes "\x7b\"type\":\"open\",\"cols\":80,\"rows\":24\x7d"
def inputText : List UInt8 := bytes "\x7b\"type\":\"input\",\"data\":\"id\"\x7d"
def readyText : List UInt8 := bytes "\x7b\"type\":\"ready\"\x7d"

def openText (localHost : String) (localPort : UInt16) : List UInt8 :=
  bytes ("\x7b\"type\":\"open\",\"local_host\":\"" ++ localHost ++ "\",\"local_port\":" ++
    toString localPort.toNat ++ "\x7d")

def codec : Codec where
  encodeNat
    | .open localHost localPort => openText localHost localPort
    | .ready => readyText
  decodeNat bytes :=
    if bytes = readyText then some .ready
    else if bytes = openText "127.0.0.1" 8080 then some (.open "127.0.0.1" 8080)
    else none
  encodeTerminal
    | .open _ _ => openTerminalText
    | _ => inputText
  decodeTerminal bytes :=
    if bytes = openTerminalText then some (.open 80 24)
    else if bytes = inputText then some (.input "id")
    else none
  parseUuid s := if s = agentId.text then some agentId else none

def mapping : Mapping := ⟨agentId.text, "127.0.0.1", 8080, none, none⟩

theorem opensAs : codec.OpensAs mapping.localHost mapping.localPort :=
  ⟨by decide +kernel, by decide +kernel⟩

def start : System := .init false false

def step : System → Event → System := System.step codec agentId

def clientSends (chunk : List UInt8) : Event := .bridge "t" (.publicRead chunk (.ok ()) (.ok ()))

def takeover : List Event :=
  [.openTunnel "t" mapping, .receive (.ok ()), .agent (.connected (.error "connection refused")),
    .agent .reply, clientSends openTerminalText, .receive (.ok ()), clientSends inputText,
    .receive (.ok ())]

def forwarded : List Event :=
  [.openTunnel "t" mapping, .receive (.ok ()), .agent (.connected (.ok ())),
    .agent .insertSession, .agent .reply, clientSends openTerminalText, .receive (.ok ()),
    .agent .natSend]

end Sample

theorem client_bytes_open_terminal :
    (run Sample.step Sample.start Sample.takeover).agent.acts.map
        (fun x => (x.act, x.cause.origin)) =
      [(.dial "127.0.0.1" 8080, .server), (.createTerminal 80 24, .client),
        (.terminalInput "id", .client)] := by
  decide +kernel

/-- In every run in which client bytes are inert where they are handled, the agent creates
terminals, feeds them and dials targets only for the server's control messages. -/
theorem acts_of_control_frames (codec : Codec) (agentId : AgentId)
    (disableCommandExecute disableNat : Bool) (es : List Event)
    (hopens : ∀ s mapping, .openTunnel s mapping ∈ es →
      codec.OpensAs mapping.localHost mapping.localPort)
    (hinert : Meets (System.step codec agentId) (fun st e => clientBytesInert codec st e)
      (.init disableCommandExecute disableNat) es) :
    ∀ x ∈ (run (System.step codec agentId) (.init disableCommandExecute disableNat) es).agent.acts,
      ControlFrame codec x.cause := by
  have hinit : Apart codec (.init disableCommandExecute disableNat) := by
    refine ⟨fun _ _ => rfl, fun s hs => ?_, fun _ hx => ?_, fun _ hx => ?_⟩
    · simp [System.init, Session.init] at hs
    · cases hx
    · cases hx
  have hstep : ∀ st e, clientBytesInert codec st e = true →
      (∀ s mapping, e = .openTunnel s mapping →
        codec.OpensAs mapping.localHost mapping.localPort) →
      Apart codec st → Apart codec (st.step codec agentId e) :=
    fun _ _ hinert hopens h => apart_step h hinert hopens
  exact (run_of_opens hstep hinit hopens hinert).acts

theorem acts_of_control_frames_forwarded :
    (run Sample.step Sample.start Sample.forwarded).agent.acts.map (·.act) =
        [.dial "127.0.0.1" 8080] ∧
      ∀ x ∈ (run Sample.step Sample.start Sample.forwarded).agent.acts,
        ControlFrame Sample.codec x.cause := by
  refine ⟨by decide +kernel, ?_⟩
  refine acts_of_control_frames Sample.codec Sample.agentId false false Sample.forwarded
    (fun s mapping hmem => ?_) (by decide +kernel)
  obtain ⟨-, rfl⟩ : s = "t" ∧ mapping = Sample.mapping := by
    simpa [Sample.forwarded, Sample.clientSends] using hmem
  exact Sample.opensAs

end XLStatus.Tunnel

import XLStatus.Tunnel.Origin
import XLStatus.Tunnel.Stage

/-! What a tunnel's client gets. In a run in which no reader overtakes the ready message
of its connection, the bytes written to the client are a beginning of the bytes the
tunnel's target produced. -/

namespace XLStatus.Tunnel

open Shared Grpc Agent.Io Transition List Option Function

section Steps

variable {codec : Codec} {agentId : AgentId} {st st' : System}

/-- The agent's session fits together, every stream that occurs anywhere belongs to a
tunnel or a terminal, and every tunnel stands at a stage and refines its download. -/
structure DownloadInv (codec : Codec) (agentId : AgentId) (st : System) : Prop where
  wired : st.agent.Wired
  queue : ∀ x ∈ st.toAgent, st.unused x.frame.streamId = false
  known : ∀ s, st.agent.Mentions s → st.unused s = false
  tunnels : ∀ s b, st.bridges s = some b → TunnelInv codec st.agent st.toAgent s ∧
    b.Refines codec agentId s (st.inbound agentId s)

theorem payload_inbound (st : System) (s : String) :
    (st.inbound agentId s).map (·.payload) = log st.agent s := by
  rw [System.inbound, List.map_map, log]
  rfl

variable {s : String} {queue : List Tagged}

theorem mem_inbound {f : IoFrame} (hf : f ∈ st.inbound agentId s) :
    f.streamId = s ∧ f.agentId = agentId.text := by
  obtain ⟨g, hg, rfl⟩ := List.mem_map.mp hf
  exact ⟨by simpa using (mem_filter.mp hg).2, rfl⟩

theorem tunnelInv_new (h : DownloadInv codec agentId st) (hs : st.unused s = true) {x : Tagged}
    (hx : x.frame.streamId = s) (horigin : x.origin = .server) {localHost : String}
    {localPort : UInt16}
    (hpayload : x.frame.payload = some (.data (codec.encodeNat (.open localHost localPort))))
    (hopens : codec.OpensAs localHost localPort) :
    TunnelInv codec st.agent (st.toAgent ++ [x]) s := by
  have hnot : ¬ st.agent.Mentions s := fun hm => by
    rw [h.known s hm] at hs
    cases hs
  obtain ⟨hhandler, hconn, hloops, hsent, hterminal, hnat⟩ :
      st.agent.handler.stream ≠ some s ∧ NoConn st.agent s ∧
        (∀ n l, st.agent.outputLoops n = some l → l.streamId ≠ s) ∧
        (∀ f ∈ st.agent.sent, f.streamId ≠ s) ∧ st.agent.terminalSessions.lookup s = none ∧
        st.agent.natSessions.lookup s = none := by
    simp only [Session.Mentions, not_or, not_exists, not_and, Bool.not_eq_true,
      isSome_eq_false_iff, isNone_iff_eq_none] at hnot
    exact hnot
  have hqueue : st.toAgent.filter (·.frame.streamId = s) = [] := by
    refine filter_eq_nil_iff.mpr fun y hy hys => ?_
    rw [← decide_eq_true_iff.mp hys, h.queue y hy] at hs
    cases hs
  have hfirst : (st.toAgent ++ [x]).filter (·.frame.streamId = s) = [x] := by
    rw [filter_append, hqueue]
    simp [hx]
  have hlog : log st.agent s = [] := by
    rw [log, filter_eq_nil_iff.mpr fun f hf => by simpa using hsent f hf]
    rfl
  exact .inr ⟨⟨hterminal, hloops⟩,
    .queued hfirst horigin hpayload hopens hhandler hnat hlog hconn⟩

theorem downloadInv_server (h : DownloadInv codec agentId st) {frames : List Tagged}
    (hagent : st'.agent = st.agent) (hqueue : st'.toAgent = st.toAgent ++ frames)
    (hused : ∀ s, st.unused s = false → st'.unused s = false)
    (hframes : ∀ x ∈ frames, st'.unused x.frame.streamId = false)
    (hbridges : ∀ s b', st'.bridges s = some b' →
      (∃ b, st.bridges s = some b ∧
        (b.Refines codec agentId s (st.inbound agentId s) →
          b'.Refines codec agentId s (st.inbound agentId s))) ∨
      (TunnelInv codec st.agent (st.toAgent ++ frames) s ∧
        b'.Refines codec agentId s (st.inbound agentId s))) :
    DownloadInv codec agentId st' := by
  have hinbound : ∀ s, st'.inbound agentId s = st.inbound agentId s := fun s => by
    rw [System.inbound, hagent, System.inbound]
  refine ⟨hagent ▸ h.wired, fun x hx => ?_, fun s hs => hused s (h.known s (hagent ▸ hs)),
    fun s b' hb' => ?_⟩
  · rw [hqueue] at hx
    rcases mem_append.mp hx with hold | hnew
    · exact hused _ (h.queue x hold)
    · exact hframes x hnew
  · rw [hagent, hqueue, hinbound]
    rcases hbridges s b' hb' with ⟨b, hb, hrefines⟩ | hnew
    · obtain ⟨hinv, href⟩ := h.tunnels s b hb
      exact ⟨hinv.append frames, hrefines href⟩
    · exact hnew

theorem downloadInv_agent (h : DownloadInv codec agentId st) {a' : Session} {t : Option String}
    (hstep : Session.StepOn t st.agent a') (hwired : a'.Wired)
    (ht : ∀ s, some s = t → st.unused s = false) (hqueue : ∀ x ∈ queue, x ∈ st.toAgent)
    (htunnels : ∀ s, TunnelInv codec st.agent st.toAgent s → TunnelInv codec a' queue s) :
    DownloadInv codec agentId { st with agent := a', toAgent := queue } := by
  refine ⟨hwired, fun x hx => h.queue x (hqueue x hx), fun s hs => ?_, fun s b hb => ?_⟩
  · rcases hstep.mentions hs with hst | hold
    · exact ht s hst
    · exact h.known s hold
  · obtain ⟨hinv, href⟩ := h.tunnels s b hb
    refine ⟨htunnels s hinv, ?_⟩
    rcases hstep.sent with hsame | ⟨f, -, happ⟩
    · have hinbound : System.inbound agentId { st with agent := a', toAgent := queue } s =
          st.inbound agentId s := by
        rw [System.inbound, hsame, System.inbound]
      rw [hinbound]
      exact href
    · have hinbound : System.inbound agentId { st with agent := a', toAgent := queue } s =
          st.inbound agentId s ++
            ([f].filter (·.streamId = s)).map ({ · with agentId := agentId.text }) := by
        rw [System.inbound, happ, filter_append, map_append, System.inbound]
      rw [hinbound]
      exact href.more _

theorem downloadInv_openTunnel (h : DownloadInv codec agentId st) (s : String) {mapping : Mapping}
    (hopens : codec.OpensAs mapping.localHost mapping.localPort) :
    DownloadInv codec agentId (st.openTunnel codec agentId s mapping) := by
  unfold System.openTunnel
  split
  · rename_i hcond
    obtain ⟨hunused, -⟩ := Bool.and_eq_true_iff.mp hcond
    refine downloadInv_server h rfl rfl (fun s' hs' => ?_) (fun x hx => ?_) fun s' b' hb' => ?_
    · exact unused_eq_false.mpr ((unused_eq_false.mp hs').imp (isSome_update _) id)
    · obtain rfl := mem_singleton.mp hx
      exact unused_eq_false.mpr (.inl (by simp))
    · by_cases hs : s' = s
      · subst hs
        simp only [update_self] at hb'
        cases hb'
        exact .inr ⟨tunnelInv_new h hunused rfl rfl rfl hopens, Bridge.refines_new _ _⟩
      · simp only [update_of_ne hs] at hb'
        exact .inl ⟨b', hb', id⟩
  · exact h

theorem downloadInv_stepBridge (h : DownloadInv codec agentId st) (s : String) (e : BridgeEvent) :
    DownloadInv codec agentId (st.stepBridge codec agentId s e) := by
  unfold System.stepBridge
  split
  · exact h
  · rename_i b hb
    refine downloadInv_server h rfl rfl (fun s' hs' => ?_) (fun x hx => ?_) fun s' b' hb' => ?_
    · exact unused_eq_false.mpr ((unused_eq_false.mp hs').imp (isSome_update _) id)
    · rw [(Bridge.bridgeFrame_step hx).1]
      exact unused_eq_false.mpr (.inl (by simp))
    · by_cases hs : s' = s
      · subst hs
        simp only [update_self] at hb'
        cases hb'
        exact .inl ⟨b, hb, fun href => Bridge.refines_step href e⟩
      · simp only [update_of_ne hs] at hb'
        exact .inl ⟨b', hb', id⟩

theorem downloadInv_terminal (h : DownloadInv codec agentId st)
    (heff : TerminalEffect codec st st') : DownloadInv codec agentId st' := by
  cases heff with
  | same => exact h
  | send hterminals =>
    refine downloadInv_server h rfl rfl (fun s hs => ?_) (fun y hy => ?_)
      fun s b hb => .inl ⟨b, hb, id⟩
    · exact unused_eq_false.mpr
        ((unused_eq_false.mp hs).imp id fun hold => (hterminals s).mpr (.inr hold))
    · obtain rfl := mem_singleton.mp hy
      exact unused_eq_false.mpr (.inr ((hterminals _).mpr (.inl rfl)))

theorem downloadInv_receive (h : DownloadInv codec agentId st) (result : Except String Unit) :
    DownloadInv codec agentId (st.receive codec agentId result) := by
  unfold System.receive
  split
  · rename_i x rest hidle hqueue
    refine downloadInv_agent h (Session.stepOn_handleIoFrame h.wired hidle x result)
      (Session.wired_handleIoFrame h.wired x result) (fun s hs => ?_) (fun y hy => ?_)
      fun s hinv => ?_
    · rw [some.inj hs]
      exact h.queue x (by rw [hqueue]; exact mem_cons_self)
    · rw [hqueue]
      exact mem_cons_of_mem x hy
    · rw [hqueue] at hinv
      exact tunnelInv_handleIoFrame h.wired hidle hinv
  · exact h

def chunksAfterReady (st : System) : Event → Bool
  | .agent e => chunkAfterReady st.agent e
  | _ => true

theorem downloadInv_step (h : DownloadInv codec agentId st) {e : Event}
    (hguard : chunksAfterReady st e = true)
    (hopens : ∀ s mapping, e = .openTunnel s mapping →
      codec.OpensAs mapping.localHost mapping.localPort) :
    DownloadInv codec agentId (st.step codec agentId e) := by
  cases e with
  | openTunnel s mapping => exact downloadInv_openTunnel h s (hopens s mapping rfl)
  | bridge s e => exact downloadInv_stepBridge h s e
  | openTerminal s cols rows =>
    exact downloadInv_terminal h (terminalEffect_openTerminal s cols rows)
  | browserMessage s message =>
    exact downloadInv_terminal h (terminalEffect_browserMessage s message)
  | browserGone s =>
    exact downloadInv_terminal h (terminalEffect_browserGone s)
  | receive result => exact downloadInv_receive h result
  | agent e =>
    exact downloadInv_agent h (Session.stepOn_step h.wired e) (Session.wired_step h.wired e)
      (fun s hs => h.known s (Session.mentions_eventStream hs.symm)) (fun _ hx => hx)
      fun s hinv => tunnelInv_step h.wired hinv hguard

theorem TunnelInv.log_eq {a : Session} (h : TunnelInv codec a queue s) :
    ∃ body rest, log a s = body ++ rest ∧ (∀ p ∈ rest.head?, isEnd p = true) ∧
      Sound codec a s body := by
  rcases h with ⟨body, p, rest, hlog, hp, hsound⟩ | ⟨-, hstage⟩
  · refine ⟨body, p :: rest, hlog, fun q hq => ?_, hsound⟩
    cases hq
    exact hp
  · exact ⟨log a s, [], by simp, fun _ hq => (nomatch hq), hstage.sound⟩

theorem out_prefix_produced (hready : codec.decodeNat (codec.encodeNat .ready) = some .ready)
    (mapping : Mapping) (h : TunnelInv codec st.agent queue s) :
    (run (Download.absorb codec agentId s mapping) .init (st.inbound agentId s)).out = [] ∨
      ∃ k c, TargetConn st.agent s k c ∧
        (run (Download.absorb codec agentId s mapping) .init (st.inbound agentId s)).out <+:
          c.produced := by
  by_cases hverified : verifyAgentIdMatches codec agentId agentId.text = true ∧
      verifyAgentIdMatches codec agentId mapping.agentId = true
  · have hframes : ∀ f ∈ st.inbound agentId s,
        verifyInboundTunnelFrame codec agentId s f = true := by
      intro f hf
      obtain ⟨hstream, hagent⟩ := mem_inbound hf
      simp [verifyInboundTunnelFrame, hstream, hagent, hverified.1]
    rw [Download.run_absorb_eq hframes hverified.2, payload_inbound]
    obtain ⟨body, rest, hlog, hrest, hsound⟩ := h.log_eq
    rw [hlog]
    rcases hsound with rfl | ⟨k, c, chunks, hconn, rfl, hbytes⟩
    · left
      rw [nil_append, Download.out_run_of_isEnd hrest]
      rfl
    · exact .inr ⟨k, c, hconn, (Download.out_run_ready hready chunks hrest).trans hbytes⟩
  -- The server rejects every frame of this agent, so nothing is ever written.
  · left
    refine Download.out_run_absorb_of_rejected (fun f hf => ?_) .init
    obtain ⟨-, hagent⟩ := mem_inbound hf
    rcases not_and_or.mp hverified with hagents | howner
    · left
      simp [verifyInboundTunnelFrame, hagent, hagents]
    · exact .inr (Bool.eq_false_iff.mpr howner)

theorem DownloadInv.written (h : DownloadInv codec agentId st)
    (hready : codec.decodeNat (codec.encodeNat .ready) = some .ready) {b : Bridge}
    (hb : st.bridges s = some b) :
    b.written = [] ∨ ∃ k c, TargetConn st.agent s k c ∧ b.written <+: c.produced := by
  obtain ⟨hinv, href⟩ := h.tunnels s b hb
  have hout := href.written.trans
    (Download.out_prefix_mono (List.take_prefix b.received (st.inbound agentId s)))
  rcases out_prefix_produced hready b.mapping hinv with hnil | ⟨k, c, hconn, hproduced⟩
  · rw [hnil] at hout
    exact .inl (prefix_nil.mp hout)
  · exact .inr ⟨k, c, hconn, hout.trans hproduced⟩

theorem downloadInv_init (disableCommandExecute disableNat : Bool) :
    DownloadInv codec agentId (.init disableCommandExecute disableNat) := by
  refine ⟨Session.wired_init _ _, fun _ hx => (nomatch hx), fun s hs => ?_,
    fun _ _ hb => (nomatch hb)⟩
  simp [Session.Mentions, System.init, Session.init, Handler.stream] at hs

end Steps

namespace Sample

def clientReceives : List Event :=
  [.bridge "t" (.agentFrame (.ok ())), .bridge "t" (.publicWrite 8192),
    .bridge "t" (.publicWritten (.ok ()))]

def overtaken : List Event :=
  [.openTunnel "t" mapping, .receive (.ok ()), .agent (.connected (.ok ())),
    .agent (.read 0 [83, 83, 72]), .agent (.sendChunk 0), .agent .insertSession,
    .agent .reply] ++ clientReceives ++ clientReceives

def inOrder : List Event :=
  [.openTunnel "t" mapping, .receive (.ok ()), .agent (.connected (.ok ())),
    .agent (.read 0 [83, 83, 72]), .agent .insertSession, .agent .reply,
    .agent (.sendChunk 0)] ++ clientReceives ++ clientReceives

end Sample

theorem ready_message_written_to_client :
    ((run Sample.step Sample.start Sample.overtaken).bridges "t").map (·.written) =
        some ([83, 83, 72] ++ Sample.readyText) ∧
      ((run Sample.step Sample.start Sample.overtaken).agent.conns 0).map (·.produced) =
        some [83, 83, 72] := by
  decide +kernel

/-- In every run in which chunks are sent after the ready message of their connection, what
a tunnel has written to its client is a beginning of what its target has produced. -/
theorem written_prefix_of_produced (codec : Codec) (agentId : AgentId)
    (disableCommandExecute disableNat : Bool) (es : List Event)
    (hready : codec.decodeNat (codec.encodeNat .ready) = some .ready)
    (hopens : ∀ s mapping, .openTunnel s mapping ∈ es →
      codec.OpensAs mapping.localHost mapping.localPort)
    (hguard : Meets (System.step codec agentId) (fun st e => chunksAfterReady st e)
      (.init disableCommandExecute disableNat) es) :
    ∀ s b,
      (run (System.step codec agentId) (.init disableCommandExecute disableNat) es).bridges s =
        some b →
      b.written = [] ∨ ∃ k c,
        TargetConn
          (run (System.step codec agentId) (.init disableCommandExecute disableNat) es).agent
          s k c ∧
        b.written <+: c.produced := by
  intro s b hb
  have hstep : ∀ st e, chunksAfterReady st e = true →
      (∀ s mapping, e = .openTunnel s mapping →
        codec.OpensAs mapping.localHost mapping.localPort) →
      DownloadInv codec agentId st → DownloadInv codec agentId (st.step codec agentId e) :=
    fun _ _ hguard hopens h => downloadInv_step h hguard hopens
  exact (run_of_opens hstep (downloadInv_init _ _) hopens hguard).written hready hb

theorem written_prefix_of_produced_inOrder :
    ((run Sample.step Sample.start Sample.inOrder).bridges "t").map (·.written) =
        some [83, 83, 72] ∧
      ∀ s b, (run Sample.step Sample.start Sample.inOrder).bridges s = some b →
        b.written = [] ∨ ∃ k c,
          TargetConn (run Sample.step Sample.start Sample.inOrder).agent s k c ∧
          b.written <+: c.produced := by
  refine ⟨by decide +kernel, ?_⟩
  refine written_prefix_of_produced Sample.codec Sample.agentId false false Sample.inOrder
    (by decide +kernel) (fun s mapping hmem => ?_) (by decide +kernel)
  obtain ⟨-, rfl⟩ : s = "t" ∧ mapping = Sample.mapping := by
    simpa [Sample.inOrder, Sample.clientReceives] using hmem
  exact Sample.opensAs

end XLStatus.Tunnel

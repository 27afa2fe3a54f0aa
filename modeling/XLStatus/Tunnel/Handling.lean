import XLStatus.Tunnel.Origin
import XLStatus.Tunnel.Usage

/-! One run of `handle_connection` after its open request: the bytes it forwards against the
bytes it records, and the close frame the agent is owed, for every way the bridge can end. -/

namespace XLStatus.Tunnel

open Auth (DateTime)
open Shared Grpc Agent.Io Transition List Option

/-! ## The run -/

/-- The bridge, the frames delivered to its subscription and the frames it handed to the
agent. -/
structure Handling where
  bridge : Bridge
  inbound : List IoFrame
  sent : List Tagged

inductive HandlingEvent where
  | deliver (frame : IoFrame)
  | bridge (e : BridgeEvent)

def NatMapping.bridged (mapping : NatMapping) : Mapping where
  agentId := mapping.agentId
  localHost := mapping.localHost
  localPort := mapping.localPort
  idleTimeoutSeconds := mapping.idleTimeoutSeconds.map UInt32.toNat
  maxBytesPerTunnel := mapping.maxBytesPerTunnel.map UInt64.toNat

def isClose (x : Tagged) : Bool :=
  match x.frame.payload with
  | some (.close _) => true
  | _ => false

def dataBytes (x : Tagged) : ℕ :=
  match x.frame.payload with
  | some (.data bytes) => bytes.length
  | _ => 0

namespace Handling

def start (mapping : NatMapping) : Handling := ⟨.new mapping.bridged, [], []⟩

def step (codec : Codec) (agentId : AgentId) (tunnelId : String) (h : Handling) :
    HandlingEvent → Handling
  | .deliver frame => { h with inbound := h.inbound ++ [frame] }
  | .bridge e =>
    let (bridge, out) := h.bridge.step codec agentId tunnelId h.inbound e
    { h with bridge, sent := h.sent ++ out }

def forwarded (h : Handling) : ℕ := (h.sent.map dataBytes).sum + h.bridge.written.length

def Reported (codec : Codec) (agentId : AgentId) (tunnelId : String) (h : Handling) : Prop :=
  ∃ frame ∈ h.inbound, verifyInboundTunnelFrame codec agentId tunnelId frame = true ∧
    isEnd frame.payload = true

def ClosedByServer (h : Handling) : Prop := ∃ x ∈ h.sent, isClose x = true

end Handling

def Bridge.EndsCleanly (b : Bridge) (inbound : List IoFrame) : BridgeEvent → Prop
  | .publicRead chunk sent _ => chunk = [] ∧ sent = .ok ()
  | .agentFrame _ => ∃ frame reason, inbound[b.received]? = some frame ∧
      frame.payload = some (.close reason)
  | .inboundClosed => True
  | _ => False

def BridgeEvent.Unclosed : BridgeEvent → Prop
  | .publicReadError _ | .publicWriteError _ | .inboundClosed => True
  | .publicRead chunk sent closeSent => sent ≠ .ok () ∨ chunk ≠ [] ∧ closeSent ≠ .ok ()
  | .agentFrame sent | .idleTimeout sent | .publicWritten sent => sent ≠ .ok ()
  | .publicWrite _ => False

def recordResult (st : Usage) (mapping : NatMapping) (usageWindow : Option NatUsageWindowKey)
    (result : Except String (ℕ × ℕ)) (now recordedAt : DateTime)
    (recorded : Except String Unit) : Usage :=
  match result, usageWindow with
  | .ok (sent, received), some window =>
    recordNatWindowBytes st mapping window (sent + received) now recordedAt recorded
  | _, _ => st

def usedBytes (st : Usage) (key : UsageKey) : ℕ := (st.table.lookup key).elim 0 (·.bytesTransferred)

/-! ## How a bridge ends -/

section

variable {codec : Codec} {agentId : AgentId} {s : String} {b : Bridge} {inbound : List IoFrame}

def Codec.ReadsTrimmed (codec : Codec) : Prop :=
  ∀ text id, codec.parseUuid text = some id → Text.trim text = text ∧ text ≠ ""

theorem verifyAgentIdMatches_of_parse (hcodec : Codec.ReadsTrimmed codec) {text : String}
    (hagent : codec.parseUuid text = some agentId) :
    verifyAgentIdMatches codec agentId text = true := by
  obtain ⟨htrim, hne⟩ := hcodec text agentId hagent
  simp [verifyAgentIdMatches, htrim, hne, hagent]

namespace Bridge

def IsOk (b : Bridge) : Prop := ∃ counts, b.result = some (.ok counts)

@[simp] theorem not_isOk_fail (b : Bridge) (e : String) : ¬ (b.fail e).IsOk := by
  simp [IsOk, fail]

@[simp] theorem isOk_leave (b : Bridge) : b.leave.IsOk := ⟨_, rfl⟩

theorem closeWith_ends (b : Bridge) (s reason : String) (sent : Except String Unit)
    (exit : Bridge → Bridge) (hexit : (exit b).result ≠ none) :
    (b.closeWith s reason sent exit).1.result ≠ none ∧
      ((b.closeWith s reason sent exit).2.any isClose = true ↔ sent = .ok ()) ∧
      ((b.closeWith s reason sent exit).1.IsOk ↔ sent = .ok () ∧ (exit b).IsOk) := by
  unfold closeWith
  split
  · exact ⟨hexit, by simp [closeFrame, isClose], by simp⟩
  · exact ⟨by simp [fail], by simp, by simp⟩

theorem ensureNatByteLimit_cases (b : Bridge) (sent : Except String Unit) :
    b.ensureNatByteLimit s sent = (b, []) ∨
      (b.ensureNatByteLimit s sent).1.result ≠ none ∧
        ((b.ensureNatByteLimit s sent).2.any isClose = true ↔ sent = .ok ()) ∧
        ¬ (b.ensureNatByteLimit s sent).1.IsOk := by
  unfold ensureNatByteLimit
  split
  · obtain ⟨hresult, hclose, hok⟩ := closeWith_ends b s "NAT tunnel byte limit exceeded" sent
      (·.fail "NAT tunnel byte limit exceeded") (by simp [fail])
    exact .inr ⟨hresult, hclose, by simp [hok]⟩
  · exact .inl rfl

theorem judge_eq_stop {mapping : Mapping} {sawReady : Bool} {frame : IoFrame}
    (howner : verifyAgentIdMatches codec agentId mapping.agentId = true)
    {result : Except String Unit}
    (hjudge : judge codec agentId s mapping sawReady frame = .stop result) :
    verifyInboundTunnelFrame codec agentId s frame = true ∧ isEnd frame.payload = true ∧
      (result = .ok () ↔ ∃ reason, frame.payload = some (.close reason)) := by
  unfold judge at hjudge
  split at hjudge
  · cases hjudge
  · rename_i hverified
    rw [howner] at hjudge
    refine ⟨by simpa using hverified, ?_⟩
    unfold judgePayload at hjudge
    simp only [Bool.not_true, Bool.false_eq_true, if_false] at hjudge
    split at hjudge
    · repeat' split at hjudge
      all_goals cases hjudge
    · rename_i hpayload
      cases hjudge
      simp [hpayload, isEnd]
    · rename_i hpayload
      cases hjudge
      simp [hpayload, isEnd]
    · cases hjudge

structure Ends (Reported : Prop) (b : Bridge) (inbound : List IoFrame) (e : BridgeEvent)
    (x : Bridge × List Tagged) : Prop where
  running : x.1.result = none → x.2.any isClose = false
  closed : x.1.result ≠ none → (Reported ∨ x.2.any isClose = true ↔ Reported ∨ ¬ e.Unclosed)
  clean : x.1.result ≠ none → (x.1.IsOk ↔ b.EndsCleanly inbound e)

variable {Reported : Prop} {e : BridgeEvent}

theorem Ends.of_running {x : Bridge × List Tagged} (hresult : x.1.result = none)
    (hclose : x.2.any isClose = false) : Ends Reported b inbound e x :=
  ⟨fun _ => hclose, fun h => absurd hresult h, fun h => absurd hresult h⟩

theorem Ends.of_ended {x : Bridge × List Tagged} (hresult : x.1.result ≠ none)
    (hclose : x.2.any isClose = true ↔ ¬ e.Unclosed)
    (hok : x.1.IsOk ↔ b.EndsCleanly inbound e) : Ends Reported b inbound e x :=
  ⟨fun h => absurd h hresult, fun _ => or_congr_right hclose, fun _ => hok⟩

theorem Ends.of_fail {b' : Bridge} {error : String} {out : List Tagged}
    (hclose : out.any isClose = true ↔ ¬ e.Unclosed) (hclean : ¬ b.EndsCleanly inbound e) :
    Ends Reported b inbound e (b'.fail error, out) :=
  .of_ended (by simp [fail]) hclose (iff_of_false (not_isOk_fail b' error) hclean)

theorem ends_agentFrame (howner : verifyAgentIdMatches codec agentId b.mapping.agentId = true)
    (hrunning : b.result = none) (sent : Except String Unit) :
    Ends (∃ frame ∈ inbound, verifyInboundTunnelFrame codec agentId s frame = true ∧
      isEnd frame.payload = true) b inbound (.agentFrame sent)
      (b.agentFrame codec agentId s inbound sent) := by
  unfold agentFrame
  split
  · exact .of_running hrunning rfl
  · split
    · exact .of_running hrunning rfl
    · rename_i frame hframe
      have hclean : b.EndsCleanly inbound (.agentFrame sent) ↔
          ∃ reason, frame.payload = some (.close reason) := by
        simp [EndsCleanly, hframe]
      simp only
      split <;> rename_i hjudge
      · exact .of_running hrunning rfl
      · exact .of_running hrunning rfl
      · exact .of_running hrunning rfl
      · refine .of_fail ?_ (hclean.not.mpr ?_)
        · split
          · simp [closeFrame, isClose, BridgeEvent.Unclosed]
          · simp [BridgeEvent.Unclosed]
        · rintro ⟨reason, hpayload⟩
          simp only [judge, hpayload, judgePayload] at hjudge
          split at hjudge
          · cases hjudge
          · split at hjudge <;> cases hjudge
      all_goals
        -- the frame that ends the stream is the agent's report
        obtain ⟨hverified, hend, hok⟩ := judge_eq_stop howner hjudge
        have hreported : ∃ frame ∈ inbound, verifyInboundTunnelFrame codec agentId s frame = true ∧
            isEnd frame.payload = true :=
          ⟨frame, mem_of_getElem? hframe, hverified, hend⟩
        refine ⟨fun h => absurd h (some_ne_none _), fun _ => iff_of_true (.inl hreported) (.inl hreported),
          fun _ => ?_⟩
        rw [hclean, ← hok]
        simp

theorem ends_step (s : String) (inbound : List IoFrame)
    (howner : verifyAgentIdMatches codec agentId b.mapping.agentId = true) (hrunning : b.result = none) (e : BridgeEvent) :
    Ends (∃ frame ∈ inbound, verifyInboundTunnelFrame codec agentId s frame = true ∧
      isEnd frame.payload = true) b inbound e (b.step codec agentId s inbound e) := by
  cases e with
  | publicRead chunk sent closeSent =>
    simp only [step, publicRead]
    split
    · exact .of_running hrunning rfl
    · split
      · rename_i hempty
        obtain ⟨hresult, hclose, hok⟩ := closeWith_ends b s "public stream closed" sent leave
          (by simp [leave])
        refine .of_ended hresult ?_ ?_
        · simp [hclose, BridgeEvent.Unclosed, hempty]
        · simp [hok, EndsCleanly, hempty]
      · rename_i hne
        have hclean : ¬ b.EndsCleanly inbound (.publicRead chunk sent closeSent) :=
          fun h => hne h.1
        split
        · exact .of_fail (by simp [BridgeEvent.Unclosed]) hclean
        · rcases ensureNatByteLimit_cases (s := s) { b with
              sentTotal := b.sentTotal + chunk.length
              sequence := saturatingAdd b.sequence 1 } closeSent with
            heq | ⟨hresult, hclose, hok⟩
          · simp only [heq]
            exact .of_running hrunning rfl
          · refine .of_ended hresult ?_ (iff_of_false hok hclean)
            rw [any_cons, show isClose ⟨_, .client⟩ = false from rfl, Bool.false_or, hclose]
            simp [BridgeEvent.Unclosed, hne]
  | publicReadError =>
    simp only [step, publicReadError]
    split
    · exact .of_fail (by simp [BridgeEvent.Unclosed]) id
    · exact .of_running hrunning rfl
  | agentFrame sent => exact ends_agentFrame howner hrunning sent
  | inboundClosed =>
    simp only [step, inboundClosed]
    split
    · refine .of_ended (by simp [leave]) (by simp [BridgeEvent.Unclosed]) ?_
      exact iff_of_true (isOk_leave b) trivial
    · exact .of_running hrunning rfl
  | idleTimeout sent =>
    simp only [step, idleTimeout]
    split
    · obtain ⟨hresult, hclose, hok⟩ := closeWith_ends b s "NAT tunnel idle timeout" sent
        (·.fail "NAT tunnel idle timeout") (by simp [fail])
      refine .of_ended hresult ?_ ?_
      · simp [hclose, BridgeEvent.Unclosed]
      · simp [hok, EndsCleanly]
    · exact .of_running hrunning rfl
  | publicWrite =>
    simp only [step, publicWrite]
    split
    · exact .of_running hrunning rfl
    · exact .of_running hrunning rfl
  | publicWritten sent =>
    simp only [step, publicWritten]
    split
    · rename_i w _ _
      split
      · rcases ensureNatByteLimit_cases (s := s) { b with
            writing := none
            receivedTotal := b.receivedTotal + w.length } sent with heq | ⟨hresult, hclose, hok⟩
        · rw [heq]
          exact .of_running hrunning rfl
        · exact .of_ended hresult (by simp [hclose, BridgeEvent.Unclosed]) (iff_of_false hok id)
      · exact .of_running hrunning rfl
    · exact .of_running hrunning rfl
  | publicWriteError =>
    simp only [step, publicWriteError]
    split
    · exact .of_fail (by simp [BridgeEvent.Unclosed]) id
    · exact .of_running hrunning rfl

/-! ## What a bridge counts -/

structure Balanced (b : Bridge) : Prop where
  written : b.written.length + b.writing.elim 0 (·.rest.length) =
    b.receivedTotal + b.writing.elim 0 (·.length)
  left : ∀ counts, b.result = some (.ok counts) →
    counts = (b.sentTotal, b.receivedTotal) ∧ b.writing = none

theorem Balanced.of_running (hrunning : b.result = none)
    (hwritten : b.written.length + b.writing.elim 0 (·.rest.length) =
      b.receivedTotal + b.writing.elim 0 (·.length)) : Balanced b := by
  refine ⟨hwritten, fun counts hresult => ?_⟩
  rw [hrunning] at hresult
  cases hresult

theorem Balanced.of_fail (h : Balanced b) (e : String) : Balanced (b.fail e) :=
  ⟨h.written, fun _ hresult => nomatch hresult⟩

theorem Balanced.of_leave (h : Balanced b) (hwriting : b.writing = none) : Balanced b.leave := by
  refine ⟨h.written, fun counts hresult => ?_⟩
  cases hresult
  exact ⟨rfl, hwriting⟩

theorem selecting_iff : b.selecting = true ↔ b.result = none ∧ b.writing = none := by
  simp [selecting]

structure Counts (b : Bridge) (x : Bridge × List Tagged) : Prop where
  balanced : Balanced x.1
  sent : x.1.sentTotal = b.sentTotal + (x.2.map dataBytes).sum
  mapping : x.1.mapping = b.mapping

theorem counts_closeWith (h : Balanced b) {reason : String} {sent : Except String Unit}
    {exit : Bridge → Bridge} (hexit : Counts b (exit b, [])) :
    Counts b (b.closeWith s reason sent exit) := by
  unfold closeWith
  split
  · exact ⟨hexit.balanced, hexit.sent, hexit.mapping⟩
  · exact ⟨h.of_fail _, rfl, rfl⟩

theorem counts_ensureNatByteLimit (h : Balanced b) (sent : Except String Unit) :
    Counts b (b.ensureNatByteLimit s sent) := by
  unfold ensureNatByteLimit
  split
  · exact counts_closeWith h ⟨h.of_fail _, rfl, rfl⟩
  · exact ⟨h, rfl, rfl⟩

theorem counts_agentFrame (h : Balanced b) (sent : Except String Unit) :
    Counts b (b.agentFrame codec agentId s inbound sent) := by
  unfold agentFrame
  split
  · exact ⟨h, rfl, rfl⟩
  · rename_i hselecting
    simp only [Bool.not_eq_true, Bool.not_eq_false', selecting_iff] at hselecting
    obtain ⟨hrunning, hwriting⟩ := hselecting
    split
    · exact ⟨h, rfl, rfl⟩
    · rename_i frame hframe
      have hnext : Balanced { b with received := b.received + 1 } := ⟨h.written, h.left⟩
      have hwritten := h.written
      simp only [hwriting, elim_none, add_zero] at hwritten
      simp only
      split
      · exact ⟨hnext, rfl, rfl⟩
      · exact ⟨⟨h.written, h.left⟩, rfl, rfl⟩
      · exact ⟨.of_running hrunning (by simp [hwritten]), rfl, rfl⟩
      · refine ⟨hnext.of_fail _, ?_, rfl⟩
        split <;> rfl
      · exact ⟨hnext.of_leave hwriting, rfl, rfl⟩
      · exact ⟨hnext.of_fail _, rfl, rfl⟩

theorem counts_step (codec : Codec) (agentId : AgentId) (s : String) (inbound : List IoFrame)
    (h : Balanced b) (e : BridgeEvent) :
    Counts b (b.step codec agentId s inbound e) := by
  have hsame : Counts b (b, []) := ⟨h, rfl, rfl⟩
  cases e with
  | publicRead chunk sent closeSent =>
    simp only [step, publicRead]
    split
    · exact hsame
    · rename_i hguard
      obtain ⟨hselecting, -⟩ : b.selecting = true ∧ chunk.length ≤ readBufferBytes := by
        simpa using hguard
      obtain ⟨hrunning, hwriting⟩ := selecting_iff.mp hselecting
      split
      · exact counts_closeWith h ⟨h.of_leave hwriting, rfl, rfl⟩
      · split
        · exact ⟨h.of_fail _, rfl, rfl⟩
        · have hcounted : Balanced { b with
              sentTotal := b.sentTotal + chunk.length
              sequence := saturatingAdd b.sequence 1 } := .of_running hrunning h.written
          obtain ⟨hbalanced, hsent, hmapping⟩ :=
            counts_ensureNatByteLimit (s := s) hcounted closeSent
          refine ⟨hbalanced, hsent.trans ?_, hmapping⟩
          rw [map_cons, sum_cons, ← Nat.add_assoc]
          rfl
  | publicReadError =>
    simp only [step, publicReadError]
    split
    · exact ⟨h.of_fail _, rfl, rfl⟩
    · exact hsame
  | agentFrame sent => exact counts_agentFrame h sent
  | inboundClosed =>
    simp only [step, inboundClosed]
    split
    · rename_i hguard
      simp only [Bool.and_eq_true, selecting_iff] at hguard
      exact ⟨h.of_leave hguard.1.2, rfl, rfl⟩
    · exact hsame
  | idleTimeout =>
    simp only [step, idleTimeout]
    split
    · exact counts_closeWith h ⟨h.of_fail _, rfl, rfl⟩
    · exact hsame
  | publicWrite =>
    simp only [step, publicWrite]
    split
    · rename_i w hrunning hwriting
      have hwritten := h.written
      simp only [hwriting, elim_some] at hwritten
      refine ⟨.of_running hrunning ?_, rfl, rfl⟩
      simp only [length_append, length_take, length_drop, elim_some]
      omega
    · exact hsame
  | publicWritten sent =>
    simp only [step, publicWritten]
    split
    · rename_i w hrunning hwriting
      split
      · rename_i hrest
        have hwritten := h.written
        simp only [hwriting, elim_some, hrest, length_nil, add_zero] at hwritten
        have hdone : Balanced { b with
            writing := none
            receivedTotal := b.receivedTotal + w.length } := .of_running hrunning hwritten
        obtain ⟨hbalanced, hsent, hmapping⟩ := counts_ensureNatByteLimit (s := s) hdone sent
        exact ⟨hbalanced, hsent, hmapping⟩
      · exact hsame
    · exact hsame
  | publicWriteError =>
    simp only [step, publicWriteError]
    split
    · exact ⟨h.of_fail _, rfl, rfl⟩
    · exact hsame

theorem step_of_ended (h : b.result ≠ none) (e : BridgeEvent) :
    b.step codec agentId s inbound e = (b, []) := by
  obtain ⟨r, hr⟩ := ne_none_iff_exists'.mp h
  cases e <;>
    simp [step, publicRead, publicReadError, agentFrame, inboundClosed, idleTimeout, publicWrite,
      publicWritten, publicWriteError, selecting, hr]

end Bridge

/-! ## Whole runs -/

namespace Handling

variable {mapping : NatMapping} {h : Handling}

structure Tallied (mapping : NatMapping) (h : Handling) : Prop where
  balanced : h.bridge.Balanced
  sent : h.bridge.sentTotal = (h.sent.map dataBytes).sum
  mapping : h.bridge.mapping = mapping.bridged
  running : h.bridge.result = none → ¬ h.ClosedByServer

theorem tallied_start (mapping : NatMapping) : Tallied mapping (start mapping) :=
  ⟨⟨rfl, nofun⟩, rfl, rfl, fun _ ⟨_, hx, _⟩ => nomatch hx⟩

theorem closedByServer_append {sent : List Tagged} {bridge : Bridge} :
    ClosedByServer ⟨bridge, inbound, h.sent ++ sent⟩ ↔
      h.ClosedByServer ∨ sent.any isClose = true := by
  simp only [ClosedByServer, mem_append, List.any_eq_true]
  constructor
  · rintro ⟨x, hx | hx, hclose⟩
    · exact .inl ⟨x, hx, hclose⟩
    · exact .inr ⟨x, hx, hclose⟩
  · rintro (⟨x, hx, hclose⟩ | ⟨x, hx, hclose⟩)
    · exact ⟨x, .inl hx, hclose⟩
    · exact ⟨x, .inr hx, hclose⟩

theorem tallied_step (howner : verifyAgentIdMatches codec agentId mapping.agentId = true)
    (h : Handling) (e : HandlingEvent) (ht : Tallied mapping h) :
    Tallied mapping (h.step codec agentId s e) := by
  cases e with
  | deliver => exact ⟨ht.balanced, ht.sent, ht.mapping, ht.running⟩
  | bridge e =>
    have hcounts := Bridge.counts_step codec agentId s h.inbound ht.balanced e
    refine ⟨hcounts.balanced, ?_, hcounts.mapping.trans ht.mapping, fun hrunning => ?_⟩
    · simp only [step, map_append, sum_append]
      rw [hcounts.sent, ht.sent]
    · have hbefore : h.bridge.result = none := by
        by_contra hended
        simp only [step, Bridge.step_of_ended hended] at hrunning
        exact hended hrunning
      have hends := Bridge.ends_step s h.inbound (by rw [ht.mapping]; exact howner) hbefore e
      rw [step, closedByServer_append, hends.running hrunning]
      simp [ht.running hbefore]

theorem tallied_run (howner : verifyAgentIdMatches codec agentId mapping.agentId = true)
    (events : List HandlingEvent) :
    Tallied mapping (run (step codec agentId s) (start mapping) events) :=
  run_induct (tallied_step howner) (tallied_start mapping) events

theorem Tallied.forwarded_eq (ht : Tallied mapping h) {sent received : ℕ}
    (hresult : h.bridge.result = some (.ok (sent, received))) : sent + received = h.forwarded := by
  obtain ⟨hcounts, hwriting⟩ := ht.balanced.left _ hresult
  obtain ⟨rfl, rfl⟩ := Prod.mk.inj hcounts
  have hwritten := ht.balanced.written
  simp only [hwriting, elim_none, add_zero] at hwritten
  rw [forwarded, ht.sent, hwritten]

end Handling

end

theorem usedBytes_recordNatWindowBytes (st : Usage) {mapping : NatMapping}
    (hlimit : mapping.maxBytesPerWindow.isSome = true) (window : NatUsageWindowKey) (bytes : ℕ)
    (now recordedAt : DateTime) (recorded : Except String Unit) :
    usedBytes (recordNatWindowBytes st mapping window bytes now recordedAt recorded)
        ⟨mapping.id, window.sourceIp, window.windowStart⟩ =
      usedBytes st ⟨mapping.id, window.sourceIp, window.windowStart⟩ +
        if recorded = .ok () then min bytes (2 ^ 63 - 1) else 0 := by
  have hsome : mapping.maxBytesPerWindow.isNone = false := by
    rw [← not_isSome, hlimit, Bool.not_true]
  unfold recordNatWindowBytes
  rw [hsome, Bool.false_or]
  split
  · rename_i hbytes
    simp [of_decide_eq_true hbytes]
  · -- the counters in memory are not the table
    have htable : ∀ rateLimits : HashMap String Sources,
        usedBytes { st with rateLimits } = usedBytes st := fun _ => rfl
    split <;> cases recorded with
    | error => simp [htable]
    | ok =>
      simp only [usedBytes, recordWindowBytes, AList.lookup_insert, elim_some, if_true]
      cases st.table.lookup ⟨mapping.id, window.sourceIp, window.windowStart⟩ with
      | none => simp
      | some => simp

/-- The bytes of a tunnel are added to the usage of its window if and only if there are none, or
the tunnel ended by a close of one of its sides and the statement that adds them succeeded. -/
theorem bytes_recorded_iff (codec : Codec) (hcodec : Codec.ReadsTrimmed codec)
    (agentId : AgentId) (tunnelId : String) (mapping : NatMapping)
    (hagent : codec.parseUuid mapping.agentId = some agentId)
    (hlimit : mapping.maxBytesPerWindow.isSome = true) (st : Usage) (window : NatUsageWindowKey)
    (now recordedAt : DateTime) (recorded : Except String Unit) (events : List HandlingEvent)
    (last : BridgeEvent) (result : Except String (ℕ × ℕ)) :
    let before := run (Handling.step codec agentId tunnelId) (.start mapping) events
    let after := before.step codec agentId tunnelId (.bridge last)
    let key : UsageKey := ⟨mapping.id, window.sourceIp, window.windowStart⟩
    before.bridge.result = none → after.bridge.result = some result →
    (usedBytes (recordResult st mapping (some window) result now recordedAt recorded) key =
        usedBytes st key + after.forwarded ↔
      after.forwarded = 0 ∨ before.bridge.EndsCleanly before.inbound last ∧ recorded = .ok () ∧
        after.forwarded < 2 ^ 63) := by
  intro before after key hrunning hended
  have howner := verifyAgentIdMatches_of_parse hcodec hagent
  have hbefore : before.Tallied mapping := Handling.tallied_run howner events
  have hafter : after.Tallied mapping := Handling.tallied_step howner _ (.bridge last) hbefore
  have hclean : after.bridge.IsOk ↔ before.bridge.EndsCleanly before.inbound last :=
    (Bridge.ends_step tunnelId before.inbound
      (by rw [hbefore.mapping]; exact howner) hrunning last).clean
      (ne_none_iff_exists'.mpr ⟨result, hended⟩)
  rw [← hclean]
  cases result with
  | error e =>
    have hnot : ¬ after.bridge.IsOk := by
      rintro ⟨counts, hok⟩
      rw [hended] at hok
      cases hok
    simp only [recordResult]
    constructor
    · intro hused
      exact .inl (by omega)
    · rintro (hzero | ⟨hok, -⟩)
      · rw [hzero, add_zero]
      · exact absurd hok hnot
  | ok counts =>
    obtain ⟨sent, received⟩ := counts
    simp only [recordResult]
    rw [hafter.forwarded_eq hended, usedBytes_recordNatWindowBytes st hlimit]
    have hok : after.bridge.IsOk := ⟨_, hended⟩
    change usedBytes st key + _ = _ ↔ _
    cases recorded with
    | error e => simp
    | ok u =>
      simp only [if_true, hok, true_and]
      omega

/-- When the bridge has ended, the agent has reported the end of the stream or got a close frame
if and only if it had reported it before, or the last event is not one of those without one. -/
theorem ended_for_agent_iff (codec : Codec) (hcodec : Codec.ReadsTrimmed codec)
    (agentId : AgentId) (tunnelId : String) (mapping : NatMapping)
    (hagent : codec.parseUuid mapping.agentId = some agentId) (events : List HandlingEvent)
    (last : BridgeEvent) :
    let before := run (Handling.step codec agentId tunnelId) (.start mapping) events
    let after := before.step codec agentId tunnelId (.bridge last)
    before.bridge.result = none → after.bridge.result ≠ none →
    (after.Reported codec agentId tunnelId ∨ after.ClosedByServer ↔
      before.Reported codec agentId tunnelId ∨ ¬ last.Unclosed) := by
  intro before after hrunning hended
  have howner := verifyAgentIdMatches_of_parse hcodec hagent
  have hbefore : before.Tallied mapping := Handling.tallied_run howner events
  have hclosed := (Bridge.ends_step tunnelId before.inbound
    (by rw [hbefore.mapping]; exact howner) hrunning last).closed hended
  have hserver : after.ClosedByServer ↔
      (before.bridge.step codec agentId tunnelId before.inbound last).2.any isClose = true :=
    Handling.closedByServer_append.trans (or_iff_right (hbefore.running hrunning))
  rw [hserver]
  exact hclosed

namespace Sample

theorem codec_readsTrimmed : Codec.ReadsTrimmed codec := by
  intro text id hparse
  obtain ⟨rfl, -⟩ : text = agentId.text ∧ agentId = id := by simpa [codec] using hparse
  decide +kernel

def metered : NatMapping := { limited "m" 60 with agentId := agentId.text }

def handling (events : List HandlingEvent) : Handling :=
  run (Handling.step codec agentId "t") (.start metered) events

def request : List HandlingEvent := [.bridge (.publicRead [104, 105] (.ok ()) (.ok ()))]

def clientCloses : BridgeEvent := .publicRead [] (.ok ()) (.ok ())

def nothingUsed : Usage := ⟨∅, ∅⟩

def firstWindow : NatUsageWindowKey := ⟨0, "203.0.113.7"⟩

end Sample

theorem bytes_recorded_iff_sample :
    usedBytes (recordResult Sample.nothingUsed Sample.metered (some Sample.firstWindow)
      (.ok (2, 0)) 0 0 (.ok ())) ⟨"m", "203.0.113.7", 0⟩ = 0 + 2 := by
  refine (bytes_recorded_iff Sample.codec Sample.codec_readsTrimmed Sample.agentId "t"
    Sample.metered (by decide +kernel) rfl Sample.nothingUsed Sample.firstWindow 0 0 (.ok ())
    Sample.request Sample.clientCloses (.ok (2, 0)) ?_ ?_).mpr (.inr ⟨?_, rfl, ?_⟩)
  · decide +kernel
  · decide +kernel
  · exact ⟨rfl, rfl⟩
  · decide +kernel

theorem idle_tunnel_not_recorded :
    let after := Sample.handling (Sample.request ++ [.bridge (.idleTimeout (.ok ()))])
    let result : Except String (ℕ × ℕ) := .error "NAT tunnel idle timeout"
    after.bridge.result = some result ∧ after.forwarded = 2 ∧
      usedBytes (recordResult Sample.nothingUsed Sample.metered (some Sample.firstWindow) result
        0 0 (.ok ())) ⟨"m", "203.0.113.7", 0⟩ ≠
          usedBytes Sample.nothingUsed ⟨"m", "203.0.113.7", 0⟩ + after.forwarded := by
  decide +kernel

theorem ended_for_agent_iff_sample :
    (Sample.handling (Sample.request ++ [.bridge Sample.clientCloses])).Reported Sample.codec
        Sample.agentId "t" ∨
      (Sample.handling (Sample.request ++ [.bridge Sample.clientCloses])).ClosedByServer := by
  refine (ended_for_agent_iff Sample.codec Sample.codec_readsTrimmed Sample.agentId "t"
    Sample.metered (by decide +kernel) Sample.request Sample.clientCloses ?_ ?_).mpr (.inr ?_)
  · decide +kernel
  · decide +kernel
  · simp [Sample.clientCloses, BridgeEvent.Unclosed]

theorem reset_leaves_agent_open :
    let after := Sample.handling (Sample.request ++ [.bridge (.publicReadError "reset")])
    after.bridge.result = some (.error "reset") ∧
      ¬ (after.Reported Sample.codec Sample.agentId "t" ∨ after.ClosedByServer) := by
  intro after
  have hinbound : after.inbound = [] := by decide +kernel
  have hsent : after.sent.any isClose = false := by decide +kernel
  refine ⟨by decide +kernel, ?_⟩
  rintro (⟨frame, hframe, -⟩ | ⟨x, hx, hclose⟩)
  · rw [hinbound] at hframe
    cases hframe
  · rw [List.any_eq_false] at hsent
    exact hsent x hx hclose

end XLStatus.Tunnel

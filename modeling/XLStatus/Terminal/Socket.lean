import XLStatus.Agent.Io
import XLStatus.Terminal.SocketDefs

/-! When a terminal socket leaves no shell behind: the agent closes a session only for a close
frame, and only the task that reads the browser sends one. -/

namespace XLStatus.Terminal

open Shared Grpc Agent.Io Transition List AList
open Tunnel.System (buildDataFrame buildCloseFrame)

/-! ## The slots of the agent -/

structure Slots (a : Session) (terminals : List TerminalSession) : Prop where
  length : terminals.length = a.nextTerminal
  held : ∀ (n : ℕ) (terminal : TerminalSession), terminals[n]? = some terminal →
    terminal.slotGuard = true → a.terminalSessions.lookup terminal.streamId = some n

section Slots

variable {a a' : Session} {terminals : List TerminalSession} {s : String} {st : System}

theorem slots_congr (h : Slots a terminals)
    (hlookup : ∀ s, a'.terminalSessions.lookup s = a.terminalSessions.lookup s)
    (hnext : a'.nextTerminal = a.nextTerminal) : Slots a' terminals :=
  ⟨h.length.trans hnext.symm, fun n terminal hn hguard =>
    (hlookup terminal.streamId).trans (h.held n terminal hn hguard)⟩

theorem released_of_lookup (h : Slots a terminals) (hnone : a.terminalSessions.lookup s = none) :
    ∀ terminal ∈ terminals, terminal.streamId = s → terminal.slotGuard = false := by
  intro terminal hmem hstream
  obtain ⟨n, hn⟩ := mem_iff_getElem?.mp hmem
  by_contra hguard
  have hlookup := h.held n terminal hn (Bool.eq_true_of_not_eq_false hguard)
  rw [hstream, hnone] at hlookup
  cases hlookup

theorem slots_removed (h : Slots a terminals) {n : ℕ} (hn : a.terminalSessions.lookup s = some n)
    (hsessions : a'.terminalSessions = a.terminalSessions.erase s)
    (hnext : a'.nextTerminal = a.nextTerminal) :
    Slots a' (terminals.modify n TerminalSession.close) := by
  refine ⟨by rw [length_modify, h.length, hnext], fun i terminal hi hguard => ?_⟩
  rw [getElem?_modify, Option.map_eq_map, Option.map_eq_some_iff] at hi
  obtain ⟨before, hbefore, rfl⟩ := hi
  by_cases hni : n = i
  · simp [hni, TerminalSession.close] at hguard
  · rw [if_neg hni] at hguard ⊢
    have hheld := h.held i before hbefore hguard
    have hstream : before.streamId ≠ s := by
      rintro rfl
      exact hni (Option.some.inj (hn.symm.trans hheld))
    rw [hsessions, lookup_erase_ne hstream, hheld]

theorem slots_made (h : Slots a terminals) (hnone : a.terminalSessions.lookup s = none)
    (hsessions : a'.terminalSessions = a.terminalSessions.insert s a.nextTerminal)
    (hnext : a'.nextTerminal = a.nextTerminal + 1) : Slots a' (terminals ++ [⟨s, true⟩]) := by
  refine ⟨by rw [length_append, h.length, hnext]; rfl, fun i terminal hi hguard => ?_⟩
  rw [hsessions]
  by_cases hi' : i < terminals.length
  · rw [getElem?_append_left hi'] at hi
    have hheld := h.held i terminal hi hguard
    have hstream : terminal.streamId ≠ s := by
      rintro rfl
      rw [hnone] at hheld
      cases hheld
    rw [lookup_insert_ne hstream, hheld]
  · rw [getElem?_append_right (not_lt.mp hi'), getElem?_singleton] at hi
    split at hi
    · rename_i hlast
      cases hi
      rw [lookup_insert, ← h.length]
      congr 1
      omega
    · cases hi

theorem slots_terminalsAfter (h : Slots st.agent st.terminals)
    (heffect : Session.TerminalEffect s st.agent a') : Slots a' (st.terminalsAfter s a') := by
  cases heffect with
  | same hsessions hnext =>
    have hsame : st.terminalsAfter s a' = st.terminals := by
      unfold System.terminalsAfter
      rw [hsessions]
      split <;> simp_all
    rw [hsame]
    exact slots_congr h (fun _ => by rw [hsessions]) hnext
  | removed hsessions hnext =>
    unfold System.terminalsAfter
    rw [hsessions, lookup_erase]
    cases hlookup : st.agent.terminalSessions.lookup s with
    | none =>
      refine slots_congr h (fun s' => ?_) hnext
      rw [hsessions, lookup_erase_eq]
      split
      · rename_i heq
        rw [heq, hlookup]
      · rfl
    | some => exact slots_removed h hlookup hsessions hnext
  | made hnone hsessions hnext =>
    unfold System.terminalsAfter
    rw [hsessions, hnone, lookup_insert]
    exact slots_made h hnone hsessions hnext

end Slots

/-! ## The frames of the session -/

def System.ownFrames (env : Env) (st : System) : List Tagged :=
  st.toAgent.filter fun x => x.frame.streamId == env.sessionId

def System.Absent (env : Env) (st : System) : Prop :=
  st.ownFrames env = [] ∧ st.agent.terminalSessions.lookup env.sessionId = none

def System.Closing (env : Env) (st : System) : Prop :=
  ∃ x reason, (st.ownFrames env).getLast? = some x ∧ x.frame.payload = some (.close reason)

section Frames

variable {env : Env} {st : System} {x : Tagged} {rest : List Tagged} {result : Except String Unit}

theorem lookup_of_ne {a a' : Session} {s s' : String} (h : Session.TerminalEffect s a a')
    (hne : s' ≠ s) : a'.terminalSessions.lookup s' = a.terminalSessions.lookup s' := by
  cases h with
  | same hsessions => rw [hsessions]
  | removed hsessions => rw [hsessions, lookup_erase_ne hne]
  | made _ hsessions => rw [hsessions, lookup_insert_ne hne]

theorem receive_cases (env : Env) (st : System) (result : Except String Unit) :
    st.receive env result = st ∨ ∃ x rest result', st.toAgent = x :: rest ∧
      st.receive env result =
        { st with
          agent := st.agent.handleIoFrame env.codec env.agentId x result', toAgent := rest
          terminals := st.terminalsAfter x.frame.streamId
            (st.agent.handleIoFrame env.codec env.agentId x result') } := by
  unfold System.receive
  split
  · rename_i x rest _ hframes
    exact .inr ⟨x, rest, _, hframes, rfl⟩
  · exact .inl rfl

theorem ownFrames_of_ne (hframes : st.toAgent = x :: rest)
    (hne : x.frame.streamId ≠ env.sessionId) :
    st.ownFrames env = rest.filter fun x => x.frame.streamId == env.sessionId := by
  unfold System.ownFrames
  rw [hframes, filter_cons_of_neg (by simpa using hne)]

theorem ownFrames_of_eq (hframes : st.toAgent = x :: rest)
    (heq : x.frame.streamId = env.sessionId) :
    st.ownFrames env = x :: rest.filter fun x => x.frame.streamId == env.sessionId := by
  unfold System.ownFrames
  rw [hframes, filter_cons_of_pos (by simpa using heq)]

theorem absent_receive (h : st.Absent env) : (st.receive env result).Absent env := by
  obtain heq | ⟨x, rest, result', hframes, heq⟩ := receive_cases env st result
  · rwa [heq]
  · rw [heq]
    have hne : x.frame.streamId ≠ env.sessionId := by
      intro hx
      have hnil := h.1
      rw [ownFrames_of_eq hframes hx] at hnil
      cases hnil
    refine ⟨(ownFrames_of_ne hframes hne).symm.trans h.1, ?_⟩
    exact (lookup_of_ne (Session.handled env.codec env.agentId st.agent x result').terminalEffect
      hne.symm).trans h.2

theorem closing_receive (h : st.Closing env) :
    (st.receive env result).Closing env ∨ (st.receive env result).Absent env := by
  obtain heq | ⟨x, rest, result', hframes, heq⟩ := receive_cases env st result
  · rw [heq]
    exact .inl h
  · rw [heq]
    obtain ⟨last, reason, hlast, hclose⟩ := h
    by_cases hx : x.frame.streamId = env.sessionId
    · rw [ownFrames_of_eq hframes hx] at hlast
      cases hrest : rest.filter fun x => x.frame.streamId == env.sessionId with
      | nil =>
        rw [hrest] at hlast
        cases hlast
        exact .inr ⟨hrest, hx ▸ Session.lookup_of_close hclose⟩
      | cons =>
        rw [hrest, getLast?_cons_cons, ← hrest] at hlast
        exact .inl ⟨last, reason, hlast, hclose⟩
    · rw [ownFrames_of_ne hframes hx] at hlast
      exact .inl ⟨last, reason, hlast, hclose⟩

end Frames

/-! ## The socket -/

def Socket.closesFirst (s : Socket) : Bool :=
  (s.sendTask != .finished || s.recvTask == .finished true) && s.recvTask != .finished false

namespace Stage

def early : Stage → Bool
  | .subscribing | .opening | .failing | .greeting => true
  | _ => false

def ending : Stage → Bool
  | .removing | .unsubscribing | .returned => true
  | _ => false

end Stage

structure Inv (env : Env) (st : System) : Prop where
  slots : Slots st.agent st.terminals
  early : st.socket.stage.early = true → st.socket.recvTask = .notStarted
  ending : st.socket.stage.ending = true →
    st.socket.recvTask = .finished true ∨ st.socket.recvTask = .notStarted
  unopened : st.socket.recvTask = .notStarted → st.socket.stage = .greeting ∨ st.Absent env
  closed : st.socket.recvTask = .finished true → st.Closing env ∨ st.Absent env

section Inv

variable {env : Env} {st : System}

theorem inv_init (disableCommandExecute disableNat : Bool) :
    Inv env (.init disableCommandExecute disableNat) where
  slots := ⟨rfl, fun _ _ h => by simp [System.init] at h⟩
  early _ := rfl
  ending h := by cases h
  unopened _ := .inr ⟨rfl, rfl⟩
  closed h := by cases h

theorem inv_socket (h : Inv env st) {s : Socket}
    (hearly : s.stage.early = true → s.recvTask = .notStarted)
    (hending : s.stage.ending = true → s.recvTask = .finished true ∨ s.recvTask = .notStarted)
    (hunopened : s.recvTask = .notStarted → st.socket.recvTask = .notStarted ∧
      (st.socket.stage = .greeting → s.stage = .greeting))
    (hclosed : s.recvTask = .finished true → st.socket.recvTask = .finished true) :
    Inv env { st with socket := s } where
  slots := h.slots
  early := hearly
  ending := hending
  unopened hrecv := (h.unopened (hunopened hrecv).1).imp_left (hunopened hrecv).2
  closed hrecv := h.closed (hclosed hrecv)

theorem inv_sending (h : Inv env st) {s : Socket} (hstage : s.stage = st.socket.stage)
    (hrecv : s.recvTask = st.socket.recvTask) : Inv env { st with socket := s } :=
  inv_socket h (by rw [hstage, hrecv]; exact h.early) (by rw [hstage, hrecv]; exact h.ending)
    (fun hnot => ⟨hrecv ▸ hnot, fun hgreeting => hstage.trans hgreeting⟩)
    (fun hfinished => hrecv ▸ hfinished)

theorem inv_stage (h : Inv env st) {s : Socket} (hrecv : s.recvTask = st.socket.recvTask)
    (hgreeting : st.socket.stage ≠ .greeting)
    (hearly : s.stage.early = true → st.socket.stage.early = true)
    (hending : st.socket.stage.early = true ∨ st.socket.stage.ending = true) :
    Inv env { st with socket := s } := by
  refine inv_socket h (fun he => hrecv.trans (h.early (hearly he))) (fun _ => ?_)
    (fun hnot => ⟨hrecv ▸ hnot, (absurd · hgreeting)⟩) (fun hfinished => hrecv ▸ hfinished)
  rw [hrecv]
  exact hending.elim (fun he => .inr (h.early he)) h.ending

theorem inv_reading (h : Inv env st) (task : RecvTask)
    (hnot : st.socket.recvTask ≠ .notStarted) (hopen : st.socket.recvTask ≠ .finished true)
    (hnot' : task ≠ .notStarted) (hopen' : task ≠ .finished true) :
    Inv env { st with socket := { st.socket with recvTask := task } } :=
  inv_socket h (fun hearly => absurd (h.early hearly) hnot)
    (fun hending => (h.ending hending).elim (absurd · hopen) (absurd · hnot))
    (absurd · hnot') (absurd · hopen')

theorem inv_browser (h : Inv env st) (message : BrowserMessage) :
    Inv env { st with socket := st.socket.browser env message } := by
  unfold Socket.browser
  split
  · rename_i sequence hrecv
    have hreading : ∀ task, task ≠ .notStarted → task ≠ .finished true →
        Inv env { st with socket := { st.socket with recvTask := task } } := fun task =>
      inv_reading h task (by simp [hrecv]) (by simp [hrecv])
    split
    · split
      · exact hreading _ (by simp) (by simp)
      · exact hreading _ (by simp) (by simp)
      · exact hreading _ (by simp) (by simp)
      · exact h
    · exact hreading _ (by simp) (by simp)
    · exact hreading _ (by simp) (by simp)
    · exact h
    · exact hreading _ (by simp) (by simp)
  · exact h

theorem inv_forward (h : Inv env st) : Inv env (st.step env .forward) := by
  simp only [System.step, Socket.forward]
  split
  · rename_i sequence message hrecv
    have hreading := inv_reading h (.waiting (sequence + 1)) (by simp [hrecv])
      (by simp [hrecv]) (by simp) (by simp)
    exact ⟨hreading.slots, hreading.early, hreading.ending, nofun, nofun⟩
  · rename_i sequence reason hrecv
    refine ⟨h.slots, fun hearly => ?_, fun _ => .inl rfl, nofun, fun _ => ?_⟩
    · have hnot := h.early hearly
      rw [hrecv] at hnot
      cases hnot
    · refine .inl ⟨buildCloseFrame env.agentId env.sessionId sequence reason, reason, ?_, rfl⟩
      simp [System.ownFrames, buildCloseFrame]
  · simpa using h

theorem inv_select (h : Inv env st) (hfirst : st.socket.closesFirst = true) :
    Inv env { st with socket := st.socket.select } := by
  obtain ⟨hsend, hrecv⟩ : (st.socket.sendTask = .finished → st.socket.recvTask = .finished true) ∧
      st.socket.recvTask ≠ .finished false := by
    simpa [Socket.closesFirst, imp_iff_not_or] using hfirst
  unfold Socket.select
  split
  · rename_i hstage
    have hending : ∀ s : Socket, s.stage = .removing → s.recvTask = st.socket.recvTask →
        st.socket.recvTask = .finished true → Inv env { st with socket := s } := by
      intro s hs hsame hfinished
      refine inv_socket h (fun hearly => by simp [hs, Stage.early] at hearly)
        (fun _ => .inl (hsame.trans hfinished)) (fun hnot => ?_) (fun _ => hfinished)
      rw [hsame, hfinished] at hnot
      cases hnot
    split
    · rename_i closeSent hfinished
      cases closeSent with
      | true => exact hending _ rfl rfl hfinished
      | false => exact absurd hfinished hrecv
    · rename_i hfinished _
      exact hending _ rfl rfl (hsend hfinished)
    · exact h
  · exact h

theorem inv_cancelRecv (h : Inv env st) : Inv env { st with socket := st.socket.cancelRecv } := by
  unfold Socket.cancelRecv
  split
  · exact h
  · exact h
  · rename_i hnot hopen
    split
    · exact inv_reading h .cancelled hnot (hopen true) (by simp) (by simp)
    · exact h

theorem inv_takeInbound (h : Inv env st) :
    Inv env { st with socket := st.socket.takeInbound env } := by
  unfold Socket.takeInbound
  split
  · split <;> exact inv_sending h rfl rfl
  · split
    · exact h
    · exact inv_sending h rfl rfl
  · exact h

theorem inv_write (h : Inv env st) (ok : Bool) :
    Inv env { st with socket := st.socket.write ok } := by
  unfold Socket.write
  split
  · split
    · exact inv_sending h rfl rfl
    · split <;> exact inv_sending h rfl rfl
  · exact h

theorem inv_cancelSend (h : Inv env st) : Inv env { st with socket := st.socket.cancelSend } := by
  unfold Socket.cancelSend
  split
  · exact h
  · exact h
  · split
    · exact inv_sending h rfl rfl
    · exact h

theorem inv_sendOpen (h : Inv env st) (result : Except String Unit) :
    Inv env (st.sendOpen env result) := by
  unfold System.sendOpen
  split
  · rename_i hstage
    have hnot := h.early (by rw [hstage]; rfl)
    refine ⟨h.slots, fun _ => hnot, nofun, fun _ => .inl rfl, fun hfinished => ?_⟩
    simp only [hnot] at hfinished
    cases hfinished
  · rename_i hstage
    exact inv_stage h rfl (by simp [hstage]) (by simp [hstage, Stage.early])
      (by simp [hstage, Stage.early])
  · exact h

theorem inv_greet (h : Inv env st) : Inv env st.greet := by
  unfold System.greet
  split
  · rename_i hstage
    exact inv_stage h rfl (by simp [hstage]) (by simp [hstage, Stage.early])
      (by simp [hstage, Stage.early])
  · exact inv_socket h nofun nofun nofun nofun
  · exact h

theorem inv_receive (h : Inv env st) (result : Except String Unit) :
    Inv env (st.receive env result) := by
  have hsocket : (st.receive env result).socket = st.socket := by
    obtain heq | ⟨x, rest, result', -, heq⟩ := receive_cases env st result <;> rw [heq]
  refine ⟨?_, hsocket ▸ h.early, hsocket ▸ h.ending, fun hnot => ?_, fun hfinished => ?_⟩
  · obtain heq | ⟨x, rest, result', -, heq⟩ := receive_cases env st result
    · rw [heq]
      exact h.slots
    · rw [heq]
      exact slots_terminalsAfter h.slots
        (Session.handled env.codec env.agentId st.agent x result').terminalEffect
  · rw [hsocket] at hnot ⊢
    exact (h.unopened hnot).imp_right absent_receive
  · rw [hsocket] at hfinished
    exact (h.closed hfinished).elim closing_receive fun habsent => .inr (absent_receive habsent)

theorem inv_frame (h : Inv env st) {agent : Session} {toAgent : List Tagged} {taken : ℕ}
    (hsessions : agent.terminalSessions = st.agent.terminalSessions)
    (hnext : agent.nextTerminal = st.agent.nextTerminal)
    (hframes : (toAgent.filter fun x => x.frame.streamId == env.sessionId) = st.ownFrames env) :
    Inv env { st with agent, toAgent, taken } := by
  have habsent : st.Absent env → System.Absent env { st with agent, toAgent, taken } :=
    fun ⟨hnil, hnone⟩ => ⟨hframes.trans hnil, by rw [hsessions]; exact hnone⟩
  have hclosing : st.Closing env → System.Closing env { st with agent, toAgent, taken } :=
    fun ⟨x, reason, hlast, hclose⟩ => ⟨x, reason, (congrArg _ hframes).trans hlast, hclose⟩
  exact ⟨slots_congr h.slots (fun _ => by rw [hsessions]) hnext, h.early, h.ending,
    fun hnot => (h.unopened hnot).imp_right habsent,
    fun hfinished => (h.closed hfinished).imp hclosing habsent⟩

theorem inv_step (h : Inv env st) (hfirst : st.socket.closesFirst = true) (e : Event) :
    Inv env (st.step env e) := by
  cases e with
  | subscribe =>
    simp only [System.step]
    split
    · rename_i hstage
      exact inv_stage h rfl (by simp [hstage]) (by simp [hstage, Stage.early])
        (by simp [hstage, Stage.early])
    · exact h
  | sendOpen result => exact inv_sendOpen h result
  | greet => exact inv_greet h
  | browser message => exact inv_browser h message
  | forward => exact inv_forward h
  | takeInbound => exact inv_takeInbound h
  | write ok => exact inv_write h ok
  | select => exact inv_select h hfirst
  | cancelRecv => exact inv_cancelRecv h
  | cancelSend => exact inv_cancelSend h
  | remove =>
    simp only [System.step]
    split
    · rename_i hstage
      exact inv_stage h rfl (by simp [hstage]) nofun (by simp [hstage, Stage.ending])
    · exact h
  | unsubscribe =>
    simp only [System.step]
    split
    · rename_i hstage
      exact inv_stage h rfl (by simp [hstage]) nofun (by simp [hstage, Stage.ending])
    · exact h
  | receive result => exact inv_receive h result
  | agent e =>
    obtain ⟨hquiet, hnext⟩ := (Session.stepped env.codec env.agentId st.agent e).quiet
    exact inv_frame h hquiet.terminalSessions hnext rfl
  | deliver =>
    simp only [System.step, System.deliver]
    split
    · exact h
    · rename_i frame _
      split
      · have hsending := inv_sending h (s := { st.socket with
          inbound := st.socket.inbound ++ [{ frame with agentId := env.agentId.text }] }) rfl rfl
        exact inv_frame hsending rfl rfl rfl
      · exact inv_frame h rfl rfl rfl
  | other =>
    simp only [System.step]
    split
    · exact h
    · rename_i hne
      refine inv_frame h rfl rfl ?_
      simp [System.ownFrames, hne]

end Inv

/-! ## No shell is left behind -/

def System.Released (env : Env) (st : System) : Prop :=
  st.agent.terminalSessions.lookup env.sessionId = none ∧
    ∀ terminal ∈ st.terminals, terminal.streamId = env.sessionId → terminal.slotGuard = false

namespace Sample

def openText : List UInt8 :=
  Text.bytes "\x7b\"type\":\"open\",\"cols\":80,\"rows\":24\x7d"

def closeText (reason : String) : List UInt8 :=
  Text.bytes ("\x7b\"type\":\"close\",\"reason\":\"" ++ reason ++ "\"\x7d")

def env : Env where
  codec :=
    { encodeNat := fun _ => []
      decodeNat := fun _ => none
      encodeTerminal := fun
        | .open _ _ => openText
        | .close (some reason) => closeText reason
        | _ => []
      decodeTerminal := fun bytes =>
        if bytes = openText then some (.open 80 24)
        else if bytes = closeText "terminal exited" then some (.close (some "terminal exited"))
        else none
      parseUuid := fun _ => none }
  socketCodec := ⟨fun _ => none, fun _ => none, fun _ => none, fun _ => ""⟩
  agentId := ⟨"0190a6f4-2b1c-7c3d-8e4f-00000000000a", canonical_v7a⟩
  sessionId := "0190a6f4-2b1c-7c3d-8e4f-00000000000c"
  cols := 80
  rows := 24

def opened : List Event :=
  [.subscribe true, .sendOpen (.ok ()), .receive (.ok ()), .greet]

def exited : List Event :=
  opened ++ [.agent (.terminalExit 0), .deliver, .takeInbound, .write true, .select, .cancelRecv,
    .remove, .unsubscribe]

def writeFailed : List Event :=
  opened ++ [.agent (.terminalOutput 0 "$ "), .deliver, .takeInbound, .write false, .select,
    .cancelRecv, .remove, .unsubscribe]

def browserClosed : List Event :=
  opened ++ [.browser .close, .forward, .select, .cancelSend, .remove, .unsubscribe,
    .receive (.ok ()), .agent .reply]

end Sample

def System.LeftBehind (env : Env) (st : System) : Prop :=
  st.socket.stage = .returned ∧ st.toAgent = [] ∧ st.agent.handler = .idle ∧
    (st.agent.terminalSessions.lookup env.sessionId).isSome = true ∧
    0 < activeTerminalSessions st.terminals

instance (env : Env) (st : System) : Decidable (st.LeftBehind env) :=
  inferInstanceAs (Decidable (_ ∧ _))

theorem shell_left_behind :
    (run (System.step Sample.env) (.init false false) Sample.exited).LeftBehind Sample.env ∧
      (run (System.step Sample.env) (.init false false) Sample.writeFailed).LeftBehind
        Sample.env := by
  decide +kernel

/-- In every run in which the forwarding task does not end before the close frame was sent,
and the browser's messages do not end without one: once the socket has returned and the agent
has taken every frame, the terminal of the session is gone and its slot is free. -/
theorem terminal_released (env : Env) (disableCommandExecute disableNat : Bool) (es : List Event)
    (hfirst : Meets (System.step env) (fun st _ => st.socket.closesFirst)
      (.init disableCommandExecute disableNat) es)
    (hreturned : (run (System.step env) (.init disableCommandExecute disableNat) es).socket.stage =
      .returned)
    (htaken : (run (System.step env) (.init disableCommandExecute disableNat) es).toAgent = []) :
    (run (System.step env) (.init disableCommandExecute disableNat) es).Released env := by
  have hstep : ∀ st (e : Event), st.socket.closesFirst = true → Inv env st →
      Inv env (st.step env e) := fun st e hfirst h => inv_step h hfirst e
  have hinv := run_induct_of_meets hstep (inv_init disableCommandExecute disableNat) hfirst
  generalize run (System.step env) (.init disableCommandExecute disableNat) es = st at *
  have hown : st.ownFrames env = [] := by simp [System.ownFrames, htaken]
  have habsent : st.Absent env := by
    obtain hfinished | hnot := hinv.ending (by rw [hreturned]; rfl)
    · refine (hinv.closed hfinished).resolve_left fun ⟨x, reason, hlast, _⟩ => ?_
      simp [hown] at hlast
    · exact (hinv.unopened hnot).resolve_left (by simp [hreturned])
  exact ⟨habsent.2, released_of_lookup hinv.slots habsent.2⟩

theorem terminal_released_browserClosed :
    (run (System.step Sample.env) (.init false false) Sample.opened).agent.terminalSessions.lookup
        Sample.env.sessionId = some 0 ∧
      (run (System.step Sample.env) (.init false false) Sample.browserClosed).Released
        Sample.env := by
  refine ⟨by decide +kernel, ?_⟩
  exact terminal_released Sample.env false false Sample.browserClosed (by decide +kernel)
    (by decide +kernel) (by decide +kernel)

end XLStatus.Terminal

import XLStatus.Agent.IoDefs

/-! What the steps of the agent's IO session change. A frame is the only thing that makes
the agent act, and every step is about one stream. -/

namespace XLStatus.Agent.Io

open Shared Grpc List Option Function AList

def Handler.stream : Handler → Option String
  | .idle => none
  | .dialing x _ _ | .opened x _ | .inserted x _ | .natWrite x _ _ => some x.frame.streamId
  | .replying frame => some frame.streamId

def Handler.conn : Handler → Option ℕ
  | .opened _ k | .inserted _ k | .natWrite _ _ k => some k
  | .idle | .dialing _ _ _ | .replying _ => none

def isEnd : Option IoPayload → Bool
  | some (.close _) | some (.error _ _) => true
  | some (.data _) | none => false

variable {codec : Codec} {agentId : AgentId} {a a' : Session}

namespace Session

variable {k n : ℕ} {c c' : Conn} {s : String} {e : SessionEvent} {h : Handler} {l : OutputLoop}

theorem onConn_of {P : Session → Prop} {f : Conn → Session} (h : P a)
    (hf : ∀ c, a.conns k = some c → P (f c)) : P (a.onConn k f) := by
  unfold onConn
  split
  · exact h
  · rename_i c hc
    exact hf c hc

@[simp] theorem setConn_self : (a.setConn k c).conns k = some c :=
  update_self ..

theorem setConn_of_ne {i : ℕ} (h : i ≠ k) : (a.setConn k c).conns i = a.conns i :=
  update_of_ne h ..

theorem closeNatSession_eq (hk : a.natSessions.lookup s = some k) (hc : a.conns k = some c) :
    a.closeNatSession s =
      { a.setConn k { c with aborted := true } with natSessions := a.natSessions.erase s } := by
  simp [closeNatSession, hk, hc, setConn]

/-! ## What makes the agent act -/

def opensSession (codec : Codec) (a : Session) (payload : List UInt8) : Bool :=
  match codec.decodeTerminal payload with
  | some (.open _ _) => !a.disableCommandExecute
  | some _ => false
  | none => match codec.decodeNat payload with
    | some (.open _ _) => !a.disableNat
    | _ => false

structure Quiet (a a' : Session) : Prop where
  acts : a'.acts = a.acts
  terminalSessions : a'.terminalSessions = a.terminalSessions

theorem Quiet.refl (a : Session) : Quiet a a := ⟨rfl, rfl⟩

theorem quiet_closeNatSession (a : Session) (s : String) : Quiet a (a.closeNatSession s) := by
  unfold closeNatSession
  split
  · exact .refl a
  · exact ⟨rfl, rfl⟩

def Answers (a : Session) (s : String) (h : Handler) : Prop :=
  h = a.handler ∨ ∃ frame : IoFrame, h = .replying frame ∧ frame.streamId = s

inductive Handled (codec : Codec) (a : Session) (x : Tagged) : Session → Prop where
  | answered {h : Handler} (hh : a.Answers x.frame.streamId h) :
      Handled codec a x { a with handler := h }
  | terminalClosed {h : Handler} (hh : a.Answers x.frame.streamId h) :
      Handled codec a x
        { a with
          terminalSessions := a.terminalSessions.erase x.frame.streamId
          handler := h }
  | natClosed {frame : IoFrame} (hs : frame.streamId = x.frame.streamId) :
      Handled codec a x ((a.closeNatSession x.frame.streamId).replyWith frame)
  | natData {payload : List UInt8} {k : ℕ}
      (hk : a.natSessions.lookup x.frame.streamId = some k) :
      Handled codec a x { a with handler := .natWrite x payload k }
  | input {payload : List UInt8} {data : String} {h : Handler}
      (hp : x.frame.payload = some (.data payload))
      (hsession : (a.terminalSessions.lookup x.frame.streamId).isSome = true)
      (hh : a.Answers x.frame.streamId h) :
      Handled codec a x
        { a with
          acts := a.acts ++ [⟨.terminalInput data, x⟩]
          handler := h }
  | made {payload : List UInt8} {cols rows : UInt16} {loop : OutputLoop}
      (hp : x.frame.payload = some (.data payload))
      (hnone : a.terminalSessions.lookup x.frame.streamId = none)
      (hnat : a.natSessions.lookup x.frame.streamId = none)
      (hopens : opensSession codec a payload = true)
      (hdecode : (codec.decodeTerminal payload).isSome = true)
      (hloop : loop.streamId = x.frame.streamId) :
      Handled codec a x
        { a with
          terminalSessions := a.terminalSessions.insert x.frame.streamId a.nextTerminal
          outputLoops := Function.update a.outputLoops a.nextTerminal (some loop)
          nextTerminal := a.nextTerminal + 1
          acts := a.acts ++ [⟨.createTerminal cols rows, x⟩] }
  | dialed {payload : List UInt8} {localHost : String} {localPort : UInt16}
      (hp : x.frame.payload = some (.data payload))
      (hnat : a.natSessions.lookup x.frame.streamId = none)
      (hopens : opensSession codec a payload = true) :
      Handled codec a x
        { a with
          handler := .dialing x localHost localPort
          acts := a.acts ++ [⟨.dial localHost localPort, x⟩] }

variable {x : Tagged} {payload : List UInt8} {result : Except String Unit}

theorem Handled.ignored : Handled codec a x a := .answered (.inl rfl)

theorem Handled.replied {frame : IoFrame} (hs : frame.streamId = x.frame.streamId) :
    Handled codec a x (a.replyWith frame) := .answered (.inr ⟨frame, rfl, hs⟩)

theorem handled_handleTerminalMessage (hp : x.frame.payload = some (.data payload))
    (hs : (a.terminalSessions.lookup x.frame.streamId).isSome = true) :
    Handled codec a x (a.handleTerminalMessage codec agentId x payload result) := by
  unfold handleTerminalMessage
  split
  · exact .terminalClosed (.inr ⟨_, rfl, rfl⟩)
  · split
    · exact .replied rfl
    · simp only
      split
      · exact .input hp hs (.inl rfl)
      · exact .input hp hs (.inr ⟨_, rfl, rfl⟩)
    · split
      · exact .ignored
      · exact .replied rfl
    · exact .terminalClosed (.inr ⟨_, rfl, rfl⟩)
    all_goals exact .ignored

theorem handled_handleNewTerminalSession {message : TerminalBridgeMessage}
    (hp : x.frame.payload = some (.data payload))
    (hnone : a.terminalSessions.lookup x.frame.streamId = none)
    (hnat : a.natSessions.lookup x.frame.streamId = none)
    (hdecode : codec.decodeTerminal payload = some message) :
    Handled codec a x (a.handleNewTerminalSession agentId x result message) := by
  unfold handleNewTerminalSession
  split
  · split
    · exact .replied rfl
    · rename_i hallowed
      split
      · refine .made hp hnone hnat ?_ (by rw [hdecode]; rfl) rfl
        simp [opensSession, hdecode, hallowed]
      · exact .replied rfl
  all_goals first | exact .ignored | exact .replied rfl

theorem handled_handleNatControlMessage {message : NatTunnelControlMessage}
    (hp : x.frame.payload = some (.data payload))
    (hnat : a.natSessions.lookup x.frame.streamId = none)
    (hterminal : codec.decodeTerminal payload = none)
    (hdecode : codec.decodeNat payload = some message) :
    Handled codec a x (a.handleNatControlMessage agentId x message) := by
  unfold handleNatControlMessage
  split
  · exact .replied rfl
  · rename_i hallowed
    split
    · refine .dialed hp hnat ?_
      simp [opensSession, hterminal, hdecode, hallowed]
    · exact .ignored

theorem handled (codec : Codec) (agentId : AgentId) (a : Session) (x : Tagged)
    (result : Except String Unit) : Handled codec a x (a.handleIoFrame codec agentId x result) := by
  unfold handleIoFrame
  split
  · rename_i payload hp
    unfold handleData
    split
    · rename_i hs
      exact handled_handleTerminalMessage hp hs
    · rename_i hnone
      rw [not_isSome_iff_eq_none] at hnone
      split
      · rename_i hk
        split
        · exact .natClosed rfl
        · exact .natData hk
      · rename_i hnat
        split
        · rename_i message hdecode
          exact handled_handleNewTerminalSession hp hnone hnat hdecode
        · rename_i hterminal
          split
          · rename_i message hdecode
            exact handled_handleNatControlMessage hp hnat hterminal hdecode
          · exact .replied rfl
  · split
    · exact .terminalClosed (.inr ⟨_, rfl, rfl⟩)
    · split
      · exact .natClosed rfl
      · exact .ignored
  all_goals exact .ignored

/-- What handling a frame does: it acts only for data, on a stream with a terminal session
or with no session and a payload that opens one; and a new terminal session is only made
for a terminal message. -/
structure HandleEffect (codec : Codec) (a : Session) (x : Tagged) (a' : Session) : Prop where
  acts : a'.acts = a.acts ∨ ∃ act payload, a'.acts = a.acts ++ [⟨act, x⟩] ∧
    x.frame.payload = some (.data payload) ∧
    ((a.terminalSessions.lookup x.frame.streamId).isSome = true ∨
      (a.natSessions.lookup x.frame.streamId = none ∧ opensSession codec a payload = true))
  sessions : ∀ s, (a'.terminalSessions.lookup s).isSome = true →
    (a.terminalSessions.lookup s).isSome = true ∨
      (s = x.frame.streamId ∧ ∃ payload, x.frame.payload = some (.data payload) ∧
        a.natSessions.lookup s = none ∧ opensSession codec a payload = true ∧
        (codec.decodeTerminal payload).isSome = true)

theorem Handled.effect (h : Handled codec a x a') : HandleEffect codec a x a' := by
  cases h with
  | answered | natData => exact ⟨.inl rfl, fun _ hs => .inl hs⟩
  | natClosed =>
    have hquiet := quiet_closeNatSession a x.frame.streamId
    exact ⟨.inl hquiet.acts, fun s hs => .inl (hquiet.terminalSessions ▸ hs)⟩
  | terminalClosed =>
    refine ⟨.inl rfl, fun s hs => .inl ?_⟩
    rw [lookup_erase_eq] at hs
    split at hs
    · cases hs
    · exact hs
  | input hp hsession => exact ⟨.inr ⟨_, _, rfl, hp, .inl hsession⟩, fun _ hs => .inl hs⟩
  | made hp _ hnat hopens hdecode =>
    refine ⟨.inr ⟨_, _, rfl, hp, .inr ⟨hnat, hopens⟩⟩, fun s hs => ?_⟩
    simp only [lookup_insert_eq] at hs
    split at hs
    · rename_i heq
      subst heq
      exact .inr ⟨rfl, _, hp, hnat, hopens, hdecode⟩
    · exact .inl hs
  | dialed hp hnat hopens =>
    exact ⟨.inr ⟨_, _, rfl, hp, .inr ⟨hnat, hopens⟩⟩, fun _ hs => .inl hs⟩

/-! ## The terminal sessions -/

inductive TerminalEffect (s : String) (a a' : Session) : Prop where
  | same (hsessions : a'.terminalSessions = a.terminalSessions)
      (hnext : a'.nextTerminal = a.nextTerminal)
  | removed (hsessions : a'.terminalSessions = a.terminalSessions.erase s)
      (hnext : a'.nextTerminal = a.nextTerminal)
  | made (hnone : a.terminalSessions.lookup s = none)
      (hsessions : a'.terminalSessions = a.terminalSessions.insert s a.nextTerminal)
      (hnext : a'.nextTerminal = a.nextTerminal + 1)

theorem nextTerminal_closeNatSession (a : Session) (s : String) :
    (a.closeNatSession s).nextTerminal = a.nextTerminal := by
  unfold closeNatSession
  split <;> rfl

theorem Handled.terminalEffect (h : Handled codec a x a') :
    TerminalEffect x.frame.streamId a a' := by
  cases h with
  | answered | natData | input | dialed => exact .same rfl rfl
  | natClosed =>
    exact .same (quiet_closeNatSession a _).terminalSessions (nextTerminal_closeNatSession a _)
  | terminalClosed => exact .removed rfl rfl
  | made _ hnone => exact .made hnone rfl rfl

theorem lookup_of_close {reason : String} (hclose : x.frame.payload = some (.close reason)) :
    (a.handleIoFrame codec agentId x result).terminalSessions.lookup x.frame.streamId = none := by
  simp only [handleIoFrame, hclose]
  split
  · exact lookup_erase _ _
  · rename_i hnone
    rw [not_isSome_iff_eq_none] at hnone
    split
    · rw [replyWith, (quiet_closeNatSession a _).terminalSessions, hnone]
    · exact hnone

/-! ## Every step is about one stream -/

structure Wired (a : Session) : Prop where
  freshConns : ∀ k, a.nextConn ≤ k → a.conns k = none
  freshLoops : ∀ n, a.nextTerminal ≤ n → a.outputLoops n = none
  sessions : ∀ s k, a.natSessions.lookup s = some k → ∃ c, a.conns k = some c ∧ c.streamId = s
  handler : ∀ k, a.handler.conn = some k →
    ∃ c, a.conns k = some c ∧ a.handler.stream = some c.streamId
  endings : ∀ k c frame, a.conns k = some c → c.reader = .ending frame →
    frame.streamId = c.streamId ∧ isEnd frame.payload = true

def eventStream (a : Session) : SessionEvent → Option String
  | .configure _ _ => none
  | .connected _ | .insertSession | .reply | .natSend => a.handler.stream
  | .read k _ | .readError k _ | .sendChunk k | .sendEnd k | .removeSession k | .cancel k
  | .writeTarget k _ | .writerEnd k => (a.conns k).map (·.streamId)
  | .terminalOutput n _ | .terminalExit n => (a.outputLoops n).map (·.streamId)

structure TaskStep (c c' : Conn) : Prop where
  cause : c'.cause = c.cause
  produced : c.produced <+: c'.produced
  aborted : c'.aborted = c.aborted
  ending : ∀ frame, c'.reader = .ending frame →
    c.reader = .ending frame ∨ frame.streamId = c.streamId ∧ isEnd frame.payload = true
  running : c'.reader = .done → c.reader = .done ∨ c.aborted = true

inductive Stepped (a : Session) : SessionEvent → Session → Prop where
  | same {e : SessionEvent} : Stepped a e a
  | configured {disableCommandExecute disableNat : Bool} :
      Stepped a (.configure disableCommandExecute disableNat)
        { a with disableCommandExecute, disableNat }
  | opened {x : Tagged} {localHost : String} {localPort : UInt16} {result : Except String Unit}
      (hx : a.handler = .dialing x localHost localPort) :
      Stepped a (.connected result)
        { a.setConn a.nextConn (.new x) with
          nextConn := a.nextConn + 1
          handler := .opened x a.nextConn }
  | refused {frame : IoFrame} {result : Except String Unit}
      (hs : a.handler.stream = some frame.streamId) :
      Stepped a (.connected result) (a.replyWith frame)
  | inserted {x : Tagged} {k : ℕ} (hx : a.handler = .opened x k) :
      Stepped a .insertSession
        { a with
          natSessions := a.natSessions.insert x.frame.streamId k
          handler := .inserted x k }
  | replied {frame : IoFrame} (hs : a.handler.stream = some frame.streamId) :
      Stepped a .reply ({ a with handler := .idle }.send frame)
  | natClosed {x : Tagged} {payload : List UInt8} {k : ℕ} {frame : IoFrame}
      (hx : a.handler = .natWrite x payload k) (hs : frame.streamId = x.frame.streamId) :
      Stepped a .natSend ((a.closeNatSession x.frame.streamId).replyWith frame)
  | queued {x : Tagged} {payload : List UInt8} {k : ℕ} {c : Conn}
      (hx : a.handler = .natWrite x payload k) (hc : a.conns k = some c) :
      Stepped a .natSend
        { a.setConn k { c with queue := c.queue ++ [payload] } with handler := .idle }
  | task {e : SessionEvent} {k : ℕ} {c c' : Conn} (hc : a.conns k = some c) (h : TaskStep c c')
      (he : a.eventStream e = some c.streamId) : Stepped a e (a.setConn k c')
  | taskSent {e : SessionEvent} {k : ℕ} {c c' : Conn} {frame : IoFrame} (hc : a.conns k = some c)
      (h : TaskStep c c') (hframe : c.reader = .ending frame ∨ frame.streamId = c.streamId)
      (he : a.eventStream e = some c.streamId) : Stepped a e ((a.setConn k c').send frame)
  | removed {k : ℕ} {c : Conn} (hc : a.conns k = some c) :
      Stepped a (.removeSession k)
        { a.setConn k { c with reader := .done } with
          natSessions := a.natSessions.erase c.streamId }
  | looped {e : SessionEvent} {n : ℕ} {l : OutputLoop} {next : Option OutputLoop} {frame : IoFrame}
      (hl : a.outputLoops n = some l) (hnext : ∀ l', next = some l' → l'.streamId = l.streamId)
      (hframe : frame.streamId = l.streamId) (he : a.eventStream e = some l.streamId) :
      Stepped a e ({ a with outputLoops := Function.update a.outputLoops n next }.send frame)

theorem stepped (codec : Codec) (agentId : AgentId) (a : Session) (e : SessionEvent) :
    Stepped a e (a.step codec agentId e) := by
  have honConn : ∀ k f, (∀ c, a.conns k = some c →
      (a.conns k).map (·.streamId) = some c.streamId → Stepped a e (f c)) →
      Stepped a e (a.onConn k f) :=
    fun k f h => onConn_of .same fun c hc => h c hc (by rw [hc]; rfl)
  cases e with
  | configure =>
    simp only [step]
    split
    · exact .configured
    · exact .same
  | connected =>
    simp only [step, connected]
    split
    · rename_i hx
      exact .opened hx
    · rename_i hx
      exact .refused (by rw [hx]; rfl)
    · exact .same
  | insertSession =>
    simp only [step, insertSession]
    split
    · rename_i hx
      exact .inserted hx
    · exact .same
  | reply =>
    simp only [step, reply]
    split
    · rename_i hx
      exact .replied (by rw [hx]; rfl)
    · rename_i hx
      exact .replied (by rw [hx]; rfl)
    · exact .same
  | natSend =>
    simp only [step, natSend]
    split
    · rename_i hx
      split
      · exact .same
      · rename_i hc
        split
        · exact .natClosed hx rfl
        · split
          · exact .queued hx hc
          · exact .same
    · exact .same
  | read k =>
    refine honConn k _ fun c hc he => ?_
    split
    · refine .task hc ⟨rfl, prefix_append _ _, rfl, fun frame hr => .inr ?_, fun hr => ?_⟩ he
      · simp only at hr
        split at hr
        · obtain rfl := Reader.ending.inj hr
          exact ⟨rfl, rfl⟩
        · cases hr
      · simp only at hr
        split at hr <;> cases hr
    · exact .same
  | readError k =>
    refine honConn k _ fun c hc he => ?_
    split
    · refine .task hc ⟨rfl, prefix_refl _, rfl, fun frame hr => .inr ?_, nofun⟩ he
      obtain rfl := Reader.ending.inj hr
      exact ⟨rfl, rfl⟩
    · exact .same
  | sendChunk k =>
    refine honConn k _ fun c hc he => ?_
    split
    · exact .taskSent hc ⟨rfl, prefix_refl _, rfl, nofun, nofun⟩ (.inr rfl) he
    · exact .same
  | sendEnd k =>
    refine honConn k _ fun c hc he => ?_
    split
    · rename_i hframe
      exact .taskSent hc ⟨rfl, prefix_refl _, rfl, nofun, nofun⟩ (.inl hframe) he
    · exact .same
  | removeSession k =>
    refine honConn k _ fun c hc _ => ?_
    split
    · exact .removed hc
    · exact .same
  | cancel k =>
    refine honConn k _ fun c hc he => ?_
    split
    · rename_i haborted
      exact .task hc ⟨rfl, prefix_refl _, rfl, nofun, fun _ => .inr haborted⟩ he
    · exact .same
  | writeTarget k =>
    refine honConn k _ fun c hc he => ?_
    split
    · split <;> exact .task hc ⟨rfl, prefix_refl _, rfl, fun _ => .inl, .inl⟩ he
    · exact .same
  | writerEnd k =>
    refine honConn k _ fun c hc he => ?_
    split
    · exact .taskSent hc ⟨rfl, prefix_refl _, rfl, fun _ => .inl, .inl⟩ (.inr rfl) he
    · exact .same
  | terminalOutput =>
    simp only [step, terminalOutput]
    split
    · exact .same
    · rename_i l hl
      refine .looped hl (fun l' hl' => ?_) ?_ (by rw [eventStream, hl]; rfl)
      · rw [← some.inj hl']
      · rfl
  | terminalExit =>
    simp only [step, terminalExit]
    split
    · exact .same
    · rename_i l hl
      refine .looped hl (fun l' hl' => ?_) ?_ (by rw [eventStream, hl]; rfl)
      · cases hl'
      · rfl

theorem Stepped.quiet (h : Stepped a e a') :
    Quiet a a' ∧ a'.nextTerminal = a.nextTerminal := by
  cases h with
  | natClosed =>
    have hquiet := quiet_closeNatSession a
    exact ⟨⟨(hquiet _).acts, (hquiet _).terminalSessions⟩, nextTerminal_closeNatSession a _⟩
  | _ => exact ⟨⟨rfl, rfl⟩, rfl⟩

/-- The step from `a` to `a'` is about stream `t` and leaves the others alone. -/
structure StepOn (t : Option String) (a a' : Session) : Prop where
  sent : a'.sent = a.sent ∨ ∃ f, some f.streamId = t ∧ a'.sent = a.sent ++ [f]
  nat : ∀ s, some s ≠ t → a'.natSessions.lookup s = a.natSessions.lookup s
  terminal : ∀ s, some s ≠ t → a'.terminalSessions.lookup s = a.terminalSessions.lookup s
  conns : ∀ k, a'.conns k = a.conns k ∨ ∃ c', a'.conns k = some c' ∧ some c'.streamId = t ∧
    ∀ c, a.conns k = some c → c'.cause = c.cause ∧ c.produced <+: c'.produced
  loops : ∀ n, a'.outputLoops n = a.outputLoops n ∨
    ((∀ l, a'.outputLoops n = some l → some l.streamId = t) ∧
      ∀ l, a.outputLoops n = some l → some l.streamId = t)
  handler : a'.handler = a.handler ∨
    ((∀ s, a.handler.stream = some s → some s = t) ∧
      ∀ s, a'.handler.stream = some s → some s = t)

variable {t : Option String}

theorem StepOn.refl (t : Option String) (a : Session) : StepOn t a a :=
  ⟨.inl rfl, fun _ _ => rfl, fun _ _ => rfl, fun _ => .inl rfl, fun _ => .inl rfl, .inl rfl⟩

theorem StepOn.of_handler (hold : ∀ s, a.handler.stream = some s → some s = t)
    (hnew : ∀ s, h.stream = some s → some s = t) : StepOn t a { a with handler := h } :=
  { StepOn.refl t a with handler := .inr ⟨hold, hnew⟩ }

theorem StepOn.replyWith (h : StepOn t a a')
    (hold : ∀ s, a.handler.stream = some s → some s = t) {frame : IoFrame}
    (hframe : some frame.streamId = t) : StepOn t a (a'.replyWith frame) :=
  { h with handler := .inr ⟨hold, fun _ hs => hs.symm.trans hframe⟩ }

theorem StepOn.send (h : StepOn t a a') (hsent : a'.sent = a.sent) {frame : IoFrame}
    (hframe : some frame.streamId = t) : StepOn t a (a'.send frame) :=
  { h with sent := .inr ⟨frame, hframe, by rw [Session.send, hsent]⟩ }

theorem StepOn.setConn (hstream : some c'.streamId = t)
    (hold : ∀ c, a.conns k = some c → c'.cause = c.cause ∧ c.produced <+: c'.produced) :
    StepOn t a (a.setConn k c') := by
  refine { StepOn.refl t a with conns := fun i => ?_ }
  by_cases hi : i = k
  · subst hi
    exact .inr ⟨c', setConn_self, hstream, hold⟩
  · exact .inl (setConn_of_ne hi)

theorem stepOn_setConn (hc : a.conns k = some c) (hcause : c'.cause = c.cause)
    (hproduced : c.produced <+: c'.produced) : StepOn (some c.streamId) a (a.setConn k c') := by
  refine .setConn ?_ fun c₀ hc₀ => ?_
  · rw [Conn.streamId, Conn.streamId, hcause]
  · rw [hc] at hc₀
    cases hc₀
    exact ⟨hcause, hproduced⟩

theorem stepOn_closeNatSession (hw : Wired a) (s : String) :
    StepOn (some s) a (a.closeNatSession s) := by
  cases hk : a.natSessions.lookup s with
  | none =>
    rw [closeNatSession, hk]
    exact .refl _ a
  | some k =>
    obtain ⟨c, hc, rfl⟩ := hw.sessions s k hk
    rw [closeNatSession_eq hk hc]
    have hset : StepOn (some c.streamId) a (a.setConn k { c with aborted := true }) :=
      stepOn_setConn hc rfl (prefix_refl _)
    refine { hset with nat := fun s' hs' => ?_ }
    have hne : s' ≠ c.streamId := fun h => hs' (congrArg some h)
    rw [lookup_erase_eq, if_neg hne]

theorem stepOn_eraseTerminal (a : Session) (s : String) :
    StepOn (some s) a { a with terminalSessions := a.terminalSessions.erase s } := by
  refine { StepOn.refl (some s) a with terminal := fun s' hs' => ?_ }
  have hne : s' ≠ s := fun h => hs' (congrArg some h)
  rw [lookup_erase_eq, if_neg hne]

theorem StepOn.answer (hstep : StepOn (some s) a a')
    (hold : ∀ s', a.handler.stream = some s' → some s' = some s) (hh : a.Answers s h) :
    StepOn (some s) a { a' with handler := h } := by
  refine { hstep with handler := ?_ }
  rcases hh with rfl | ⟨frame, rfl, rfl⟩
  · exact .inl rfl
  · exact .inr ⟨hold, fun _ hs => hs.symm⟩

theorem stepOn_handleIoFrame (hw : Wired a) (hidle : a.handler = .idle) (x : Tagged)
    (result : Except String Unit) :
    StepOn (some x.frame.streamId) a (a.handleIoFrame codec agentId x result) := by
  have hold : ∀ s, a.handler.stream = some s → some s = some x.frame.streamId := fun s hs => by
    rw [hidle] at hs
    cases hs
  have hself := StepOn.refl (some x.frame.streamId) a
  have h := handled codec agentId a x result
  generalize a.handleIoFrame codec agentId x result = a' at h ⊢
  cases h with
  | answered hh => exact hself.answer hold hh
  | terminalClosed hh => exact (stepOn_eraseTerminal a _).answer hold hh
  | natClosed hs => exact (stepOn_closeNatSession hw _).replyWith hold (congrArg some hs)
  | natData => exact .of_handler hold fun _ hs => hs.symm
  | input _ _ hh => exact { hself.answer hold hh with }
  | dialed => exact { StepOn.of_handler (h := .dialing x _ _) hold fun _ hs => hs.symm with }
  | made _ _ _ _ _ hloop =>
    refine { hself with terminal := fun s hs => ?_, loops := fun n => ?_ }
    · have hne : s ≠ x.frame.streamId := fun h => hs (congrArg some h)
      rw [lookup_insert_eq, if_neg hne]
    · by_cases hn : n = a.nextTerminal
      · subst hn
        refine .inr ⟨fun l hl => ?_, fun l hl => ?_⟩
        · simp only [update_self, some.injEq] at hl
          rw [← hl, hloop]
        · rw [hw.freshLoops _ le_rfl] at hl
          cases hl
      · exact .inl (by simp [update_of_ne hn])

theorem stepOn_setLoop {next : Option OutputLoop} (hl : a.outputLoops n = some l)
    (hnext : ∀ l', next = some l' → l'.streamId = l.streamId) :
    StepOn (some l.streamId) a
      { a with outputLoops := Function.update a.outputLoops n next } := by
  refine { StepOn.refl _ a with loops := fun i => ?_ }
  by_cases hi : i = n
  · subst hi
    refine .inr ⟨fun l' hl' => ?_, fun l' hl' => ?_⟩
    · simp only [update_self] at hl'
      exact congrArg some (hnext l' hl')
    · rw [hl] at hl'
      rw [some.inj hl']
  · exact .inl (by simp [update_of_ne hi])

theorem stepOn_step (hw : Wired a) (e : SessionEvent) :
    StepOn (a.eventStream e) a (a.step codec agentId e) := by
  have h := stepped codec agentId a e
  generalize a.step codec agentId e = a' at h ⊢
  have hold : ∀ s, a.handler.stream = some s → some s = a.handler.stream := fun _ hs => hs.symm
  cases h with
  | same => exact .refl _ a
  | configured => exact { StepOn.refl _ a with }
  | @opened x _ _ _ hx =>
    have hset : StepOn (some x.frame.streamId) a (a.setConn a.nextConn (.new x)) := by
      refine .setConn rfl fun c hc => ?_
      rw [hw.freshConns _ le_rfl] at hc
      cases hc
    rw [eventStream, hx]
    exact { hset with handler := .inr ⟨fun s hs => by rw [← hs, hx], fun _ hs => hs.symm⟩ }
  | refused hs => exact (StepOn.refl _ a).replyWith hold hs.symm
  | @inserted x k hx =>
    rw [eventStream, hx]
    refine { StepOn.refl (some x.frame.streamId) a with
      nat := fun s hs => ?_, handler := .inr ⟨fun s hs => by rw [← hs, hx], fun _ hs => hs.symm⟩ }
    have hne : s ≠ x.frame.streamId := fun h => hs (congrArg some h)
    rw [lookup_insert_eq, if_neg hne]
  | replied hs =>
    have hidle : StepOn a.handler.stream a { a with handler := .idle } :=
      .of_handler hold fun _ h => nomatch h
    exact hidle.send rfl hs.symm
  | natClosed hx hs =>
    rw [eventStream, hx]
    refine (stepOn_closeNatSession hw _).replyWith (fun s hs => ?_) (congrArg some hs)
    rw [← hs, hx, Handler.stream]
  | @queued x payload k c hx hc =>
    obtain ⟨c₀, hc₀, hstream⟩ := hw.handler k (by rw [hx]; rfl)
    cases hc.symm.trans hc₀
    have hset : StepOn (some c.streamId) a
        (a.setConn k { c with queue := c.queue ++ [payload] }) :=
      stepOn_setConn hc rfl (prefix_refl _)
    rw [eventStream, hstream]
    exact { hset with handler := .inr ⟨fun s hs => by rw [← hs, hstream], fun _ h => nomatch h⟩ }
  | task hc htask he =>
    rw [he]
    exact stepOn_setConn hc htask.cause htask.produced
  | @taskSent _ k c c' frame hc htask hframe he =>
    rw [he]
    refine (stepOn_setConn hc htask.cause htask.produced).send rfl (congrArg some ?_)
    exact hframe.elim (fun hr => (hw.endings k c frame hc hr).1) id
  | @removed k c hc =>
    have hset : StepOn (some c.streamId) a (a.setConn k { c with reader := .done }) :=
      stepOn_setConn hc rfl (prefix_refl _)
    rw [eventStream, hc]
    refine { hset with nat := fun s hs => ?_ }
    have hne : s ≠ c.streamId := fun h => hs (congrArg some h)
    rw [lookup_erase_eq, if_neg hne]
  | looped hl hnext hframe he =>
    rw [he]
    exact (stepOn_setLoop hl hnext).send rfl (congrArg some hframe)

def Mentions (a : Session) (s : String) : Prop :=
  a.handler.stream = some s ∨ (∃ k c, a.conns k = some c ∧ c.streamId = s) ∨
    (∃ n l, a.outputLoops n = some l ∧ l.streamId = s) ∨ (∃ f ∈ a.sent, f.streamId = s) ∨
    (a.terminalSessions.lookup s).isSome = true ∨ (a.natSessions.lookup s).isSome = true

theorem mentions_eventStream (h : a.eventStream e = some s) :
    a.Mentions s := by
  have hconn : ∀ k, (a.conns k).map (·.streamId) = some s → a.Mentions s := fun k hk => by
    obtain ⟨c, hc, hcs⟩ := map_eq_some_iff.mp hk
    exact .inr (.inl ⟨k, c, hc, hcs⟩)
  have hloop : ∀ n, (a.outputLoops n).map (·.streamId) = some s → a.Mentions s := fun n hn => by
    obtain ⟨l, hl, hls⟩ := map_eq_some_iff.mp hn
    exact .inr (.inr (.inl ⟨n, l, hl, hls⟩))
  cases e with
  | configure => cases h
  | connected | insertSession | reply | natSend => exact .inl h
  | read k | readError k | sendChunk k | sendEnd k | removeSession k | cancel k | writeTarget k
  | writerEnd k => exact hconn k h
  | terminalOutput n | terminalExit n => exact hloop n h

theorem StepOn.mentions (h : StepOn t a a') (hs : a'.Mentions s) :
    some s = t ∨ a.Mentions s := by
  by_cases ht : some s = t
  · exact .inl ht
  right
  rcases hs with hhandler | ⟨k, c', hc', rfl⟩ | ⟨n, l, hl, rfl⟩ | ⟨f, hf, rfl⟩ | hterminal | hnat
  · rcases h.handler with hsame | ⟨-, hnew⟩
    · exact .inl (hsame ▸ hhandler)
    · exact absurd (hnew s hhandler) ht
  · rcases h.conns k with hsame | ⟨c, hc, hct, -⟩
    · exact .inr (.inl ⟨k, c', hsame ▸ hc', rfl⟩)
    · rw [hc] at hc'
      cases hc'
      exact absurd hct ht
  · rcases h.loops n with hsame | ⟨hnew, -⟩
    · exact .inr (.inr (.inl ⟨n, l, hsame ▸ hl, rfl⟩))
    · exact absurd (hnew l hl) ht
  · rcases h.sent with hsame | ⟨g, hg, happ⟩
    · exact .inr (.inr (.inr (.inl ⟨f, hsame ▸ hf, rfl⟩)))
    · rw [happ] at hf
      rcases mem_append.mp hf with hold | hnew
      · exact .inr (.inr (.inr (.inl ⟨f, hold, rfl⟩)))
      · obtain rfl := mem_singleton.mp hnew
        exact absurd hg ht
  · exact .inr (.inr (.inr (.inr (.inl (h.terminal s ht ▸ hterminal)))))
  · exact .inr (.inr (.inr (.inr (.inr (h.nat s ht ▸ hnat)))))

/-! ## The session stays wired -/

theorem StepOn.grows (h : StepOn t a a') (hc : a.conns k = some c) :
    ∃ c', a'.conns k = some c' ∧ c'.cause = c.cause ∧ c.produced <+: c'.produced := by
  rcases h.conns k with hsame | ⟨c', hc', -, hgrow⟩
  · exact ⟨c, hsame.trans hc, rfl, prefix_refl _⟩
  · exact ⟨c', hc', hgrow c hc⟩

theorem wired_init (disableCommandExecute disableNat : Bool) :
    Wired (.init disableCommandExecute disableNat) := by
  refine ⟨fun _ _ => rfl, fun _ _ => rfl, fun s k hs => ?_, fun _ h => (nomatch h),
    fun _ _ _ h => (nomatch h)⟩
  simp [init] at hs

theorem Wired.withHandler (hw : Wired a)
    (hh : ∀ k, h.conn = some k → ∃ c, a.conns k = some c ∧ h.stream = some c.streamId) :
    Wired { a with handler := h } :=
  { hw with handler := hh }

theorem Wired.replyWith (hw : Wired a) (frame : IoFrame) : Wired (a.replyWith frame) :=
  hw.withHandler fun _ h => (nomatch h)

theorem Wired.send (hw : Wired a) (frame : IoFrame) : Wired (a.send frame) := { hw with }

theorem Wired.setConn (hw : Wired a) (hc : a.conns k = some c) (hcause : c'.cause = c.cause)
      (hending : ∀ frame, c'.reader = .ending frame → frame.streamId = c'.streamId ∧ isEnd
      frame.payload = true) :
    Wired (a.setConn k c') := by
  have hstream : c'.streamId = c.streamId := by rw [Conn.streamId, hcause, Conn.streamId]
  have hkeep : ∀ i d, a.conns i = some d →
      ∃ d', (a.setConn k c').conns i = some d' ∧ d'.streamId = d.streamId := by
    intro i d hd
    by_cases hi : i = k
    · subst hi
      rw [hc] at hd
      cases hd
      exact ⟨c', setConn_self, hstream⟩
    · exact ⟨d, by rw [setConn_of_ne hi, hd], rfl⟩
  refine ⟨fun i hi => ?_, hw.freshLoops, fun s i hs => ?_, fun i hi => ?_,
    fun i d frame hd hr => ?_⟩
  · have hnone := hw.freshConns i hi
    have hne : i ≠ k := by
      rintro rfl
      rw [hc] at hnone
      cases hnone
    rw [setConn_of_ne hne, hnone]
  · obtain ⟨d, hd, hds⟩ := hw.sessions s i hs
    obtain ⟨d', hd', heq⟩ := hkeep i d hd
    exact ⟨d', hd', heq.trans hds⟩
  · obtain ⟨d, hd, hds⟩ := hw.handler i hi
    obtain ⟨d', hd', heq⟩ := hkeep i d hd
    exact ⟨d', hd', by rw [heq]; exact hds⟩
  · by_cases hi : i = k
    · subst hi
      rw [setConn_self] at hd
      cases hd
      exact hending frame hr
    · rw [setConn_of_ne hi] at hd
      exact hw.endings i d frame hd hr

theorem Wired.setLoop (hw : Wired a) (hl : a.outputLoops n = some l) (next : Option OutputLoop) :
    Wired { a with outputLoops := Function.update a.outputLoops n next } := by
  refine { hw with freshLoops := fun i hi => ?_ }
  have hnone := hw.freshLoops i hi
  have hne : i ≠ n := by
    rintro rfl
    rw [hl] at hnone
    cases hnone
  simpa only [update_of_ne hne] using hnone

theorem Wired.withSessions (hw : Wired a) {natSessions : HashMap String ℕ}
    (hsub : ∀ s k, natSessions.lookup s = some k → a.natSessions.lookup s = some k) :
    Wired { a with natSessions } :=
  { hw with sessions := fun s k hs => hw.sessions s k (hsub s k hs) }

theorem lookup_of_lookup_erase {m : HashMap String ℕ} {s' : String}
    (h : (m.erase s).lookup s' = some k) : m.lookup s' = some k := by
  rw [lookup_erase_eq] at h
  split at h
  · cases h
  · exact h

theorem wired_closeNatSession (hw : Wired a) (s : String) : Wired (a.closeNatSession s) := by
  cases hk : a.natSessions.lookup s with
  | none =>
    rw [closeNatSession, hk]
    exact hw
  | some k =>
    obtain ⟨c, hc, -⟩ := hw.sessions s k hk
    rw [closeNatSession_eq hk hc]
    have hset : Wired (a.setConn k { c with aborted := true }) :=
      hw.setConn hc rfl fun frame hr => hw.endings k c frame hc hr
    exact hset.withSessions fun _ _ h => lookup_of_lookup_erase h

theorem Wired.answer {b : Session} (hw : Wired b) (hb : b.handler = a.handler)
    (hh : a.Answers s h) : Wired { b with handler := h } := by
  refine hw.withHandler ?_
  rcases hh with rfl | ⟨frame, rfl, -⟩
  · exact hb ▸ hw.handler
  · exact nofun

theorem wired_handleIoFrame (hw : Wired a) (x : Tagged) (result : Except String Unit) :
    Wired (a.handleIoFrame codec agentId x result) := by
  have h := handled codec agentId a x result
  generalize a.handleIoFrame codec agentId x result = a' at h ⊢
  cases h with
  | answered hh => exact hw.answer rfl hh
  | terminalClosed hh => exact { hw.answer rfl hh with }
  | natClosed => exact (wired_closeNatSession hw _).replyWith _
  | natData hk =>
    obtain ⟨c, hc, hcs⟩ := hw.sessions _ _ hk
    refine hw.withHandler fun k' hk' => ?_
    cases hk'
    exact ⟨c, hc, congrArg some hcs.symm⟩
  | input _ _ hh => exact { hw.answer rfl hh with }
  | made =>
    refine { hw with freshLoops := fun n hn => ?_ }
    have hne : n ≠ a.nextTerminal := (Nat.lt_of_succ_le hn).ne'
    simp only [update_of_ne hne]
    exact hw.freshLoops n ((Nat.le_succ _).trans hn)
  | dialed => exact { hw with handler := fun _ h => nomatch h }

theorem wired_opened (hw : Wired a) (x : Tagged) :
    Wired { a.setConn a.nextConn (.new x) with
      nextConn := a.nextConn + 1
      handler := .opened x a.nextConn } := by
  have hkeep : ∀ i d, a.conns i = some d →
      (a.setConn a.nextConn (.new x)).conns i = some d := by
    intro i d hd
    have hne : i ≠ a.nextConn := by
      rintro rfl
      rw [hw.freshConns _ le_rfl] at hd
      cases hd
    rw [setConn_of_ne hne, hd]
  refine ⟨fun i hi => ?_, hw.freshLoops, fun s i hs => ?_, fun i hi => ?_,
    fun i d frame hd hr => ?_⟩
  · have hne : i ≠ a.nextConn := (Nat.lt_of_succ_le hi).ne'
    exact (setConn_of_ne hne).trans (hw.freshConns i ((Nat.le_succ _).trans hi))
  · obtain ⟨d, hd, hds⟩ := hw.sessions s i hs
    exact ⟨d, hkeep i d hd, hds⟩
  · cases hi
    exact ⟨.new x, setConn_self, rfl⟩
  · by_cases hi : i = a.nextConn
    · subst hi
      cases setConn_self.symm.trans hd
      cases hr
    · exact hw.endings i d frame ((setConn_of_ne hi).symm.trans hd) hr

theorem Wired.task (hw : Wired a) (hc : a.conns k = some c) (h : TaskStep c c') :
    Wired (a.setConn k c') := by
  refine hw.setConn hc h.cause fun frame hr => ?_
  rw [Conn.streamId, h.cause]
  exact (h.ending frame hr).elim (hw.endings k c frame hc) id

theorem wired_step (hw : Wired a) (e : SessionEvent) : Wired (a.step codec agentId e) := by
  have h := stepped codec agentId a e
  generalize a.step codec agentId e = a' at h ⊢
  cases h with
  | same => exact hw
  | configured => exact { hw with }
  | @opened x => exact wired_opened hw x
  | refused => exact hw.replyWith _
  | @inserted x k hx =>
    obtain ⟨c, hc, hcs⟩ := hw.handler k (by rw [hx]; rfl)
    rw [hx] at hcs
    refine { hw with sessions := fun s i hs => ?_, handler := fun i hi => ?_ }
    · simp only [lookup_insert_eq] at hs
      split at hs
      · rename_i heq
        cases hs
        exact ⟨c, hc, by rw [heq]; exact (some.inj hcs).symm⟩
      · exact hw.sessions s i hs
    · cases hi
      exact ⟨c, hc, hcs⟩
  | replied =>
    have hidle : Wired { a with handler := .idle } := hw.withHandler fun _ h => nomatch h
    exact hidle.send _
  | natClosed => exact (wired_closeNatSession hw _).replyWith _
  | @queued x payload k c hx hc =>
    have hset : Wired (a.setConn k { c with queue := c.queue ++ [payload] }) :=
      hw.setConn hc rfl fun frame hr => hw.endings k c frame hc hr
    exact hset.withHandler fun _ h => nomatch h
  | task hc htask => exact hw.task hc htask
  | taskSent hc htask => exact (hw.task hc htask).send _
  | @removed k c hc =>
    have hdone : Wired (a.setConn k { c with reader := .done }) := hw.setConn hc rfl fun _ h => nomatch h
    exact hdone.withSessions fun _ _ h => lookup_of_lookup_erase h
  | looped hl => exact (hw.setLoop hl _).send _

end Session

end XLStatus.Agent.Io

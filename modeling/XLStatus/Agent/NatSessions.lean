import XLStatus.Agent.Io

/-! The agent's map of NAT sessions against the tasks that read the targets: a session whose
reader has finished is gone from the map, if it was entered before the reader finished. -/

namespace XLStatus.Agent.Io

open Shared Grpc Transition Option Function

inductive TaskEvent where
  | frame (x : Tagged) (result : Except String Unit)
  | session (e : SessionEvent)
  | sendFailed (k : ℕ)

namespace Session

def sendFailed (a : Session) (k : ℕ) : Session :=
  a.onConn k fun c => match c.reader with
    | .sending _ | .ending _ => a.setConn k { c with reader := .removing }
    | _ => a

def taskStep (codec : Codec) (agentId : AgentId) (a : Session) : TaskEvent → Session
  | .frame x result =>
    if a.handler = .idle then a.handleIoFrame codec agentId x result else a
  | .session e => a.step codec agentId e
  | .sendFailed k => a.sendFailed k

def MapMatches (a : Session) : Prop :=
  ∀ s, (∀ k c, a.conns k = some c → c.streamId = s → c.reader = .done) →
    a.handler.stream ≠ some s → a.natSessions.lookup s = none

def EntersInTime (a : Session) : TaskEvent → Prop
  | .session .insertSession =>
    ∀ x k, a.handler = .opened x k → (a.conns k).all fun c => c.reader ≠ .done
  | _ => True

variable {codec : Codec} {agentId : AgentId} {a a' : Session}

/-- Sessions have connections that are read and were not closed, and the connection that is to
be entered was not closed either. -/
structure Live (a : Session) : Prop where
  reading : ∀ s k c, a.natSessions.lookup s = some k → a.conns k = some c →
    c.reader ≠ .done ∧ c.aborted = false
  opened : ∀ x k c, a.handler = .opened x k → a.conns k = some c → c.aborted = false

structure SameSessions (a a' : Session) : Prop where
  nat : a'.natSessions = a.natSessions
  conns : a'.conns = a.conns
  opened : ∀ x k, a'.handler = .opened x k → a.handler = .opened x k

theorem Live.of_same (h : Live a) (hsame : SameSessions a a') : Live a' := by
  obtain ⟨hnat, hconns, hopened⟩ := hsame
  refine ⟨?_, fun x k c hx => ?_⟩
  · rw [hnat, hconns]
    exact h.reading
  · rw [hconns]
    exact h.opened x k c (hopened x k hx)

theorem Live.of_conn (h : Live a) {k : ℕ} {c c' : Conn} (hc : a.conns k = some c)
    (hconns : a'.conns = Function.update a.conns k (some c')) (haborted : c'.aborted = c.aborted)
    (hopened : ∀ x i, a'.handler = .opened x i → a.handler = .opened x i)
    (hnat : ∀ s i, a'.natSessions.lookup s = some i → a.natSessions.lookup s = some i ∧
      (i = k → c'.reader ≠ .done)) : Live a' := by
  constructor
  · intro s i d hs hd
    obtain ⟨hs, hreader⟩ := hnat s i hs
    rw [hconns] at hd
    by_cases hi : i = k
    · subst hi
      rw [update_self] at hd
      cases hd
      exact ⟨hreader rfl, haborted.trans (h.reading s i c hs hc).2⟩
    · rw [update_of_ne hi] at hd
      exact h.reading s i d hs hd
  · intro x i d hx hd
    rw [hconns] at hd
    by_cases hi : i = k
    · subst hi
      rw [update_self] at hd
      cases hd
      exact haborted.trans (h.opened x i c (hopened x i hx) hc)
    · rw [update_of_ne hi] at hd
      exact h.opened x i d (hopened x i hx) hd

theorem Live.close (h : Live a) (hw : Wired a) (hhandler : ∀ x k, a.handler ≠ .opened x k)
    (s : String) : Live (a.closeNatSession s) := by
  cases hk : a.natSessions.lookup s with
  | none =>
    rw [closeNatSession, hk]
    exact h
  | some k =>
    obtain ⟨c, hc, hcs⟩ := hw.sessions s k hk
    rw [closeNatSession_eq hk hc]
    refine ⟨fun s' i d hs hd => ?_, fun x i d hx => absurd hx (hhandler x i)⟩
    rw [AList.lookup_erase_eq] at hs
    split at hs
    · cases hs
    · rename_i hne
      have hi : i ≠ k := by
        rintro rfl
        obtain ⟨c', hc', hcs'⟩ := hw.sessions s' i hs
        rw [hc] at hc'
        cases hc'
        exact hne (hcs'.symm.trans hcs)
      exact h.reading s' i d hs ((setConn_of_ne hi).symm.trans hd)

theorem sameSessions_handleIoFrame (hidle : a.handler = .idle) (x : Tagged)
    (result : Except String Unit) :
    SameSessions a (a.handleIoFrame codec agentId x result) ∨
      SameSessions (a.closeNatSession x.frame.streamId)
        (a.handleIoFrame codec agentId x result) := by
  have hanswer : ∀ {h y k}, a.Answers x.frame.streamId h → h ≠ .opened y k := by
    rintro h y k (rfl | ⟨frame, rfl, -⟩)
    · rw [hidle]
      nofun
    · nofun
  have h := handled codec agentId a x result
  generalize a.handleIoFrame codec agentId x result = a' at h ⊢
  cases h with
  | answered hh | terminalClosed hh | input _ _ hh =>
    exact .inl ⟨rfl, rfl, fun _ _ h => absurd h (hanswer hh)⟩
  | natClosed => exact .inr ⟨rfl, rfl, fun _ _ h => nomatch h⟩
  | natData | dialed => exact .inl ⟨rfl, rfl, fun _ _ h => nomatch h⟩
  | made => exact .inl ⟨rfl, rfl, fun _ _ h => h⟩

theorem live_opened (h : Live a) (hw : Wired a) (x : Tagged) :
    Live { a.setConn a.nextConn (.new x) with
      nextConn := a.nextConn + 1
      handler := .opened x a.nextConn } := by
  have hfresh := hw.freshConns a.nextConn le_rfl
  refine ⟨fun s k c hs hc => ?_, fun y k c hy hc => ?_⟩
  · have hk : k ≠ a.nextConn := by
      rintro rfl
      obtain ⟨d, hd, -⟩ := hw.sessions s _ hs
      rw [hfresh] at hd
      cases hd
    exact h.reading s k c hs ((setConn_of_ne hk).symm.trans hc)
  · cases hy
    cases setConn_self.symm.trans hc
    rfl

theorem Live.task (h : Live a) {k : ℕ} {c c' : Conn} (hc : a.conns k = some c)
    (htask : TaskStep c c') : Live (a.setConn k c') := by
  refine h.of_conn hc rfl htask.aborted (fun _ _ h => h) fun s i hs => ⟨hs, fun hi hdone => ?_⟩
  subst hi
  obtain ⟨hreader, haborted⟩ := h.reading s i c hs hc
  rcases htask.running hdone with hended | hclosed
  · exact hreader hended
  · rw [haborted] at hclosed
    cases hclosed

theorem live_step (h : Live a) (hw : Wired a) {e : SessionEvent}
    (hin : a.EntersInTime (.session e)) : Live (a.step codec agentId e) := by
  have hstepped := stepped codec agentId a e
  generalize a.step codec agentId e = a' at hstepped ⊢
  cases hstepped with
  | same => exact h
  | configured | looped => exact h.of_same ⟨rfl, rfl, fun _ _ h => h⟩
  | @opened x => exact live_opened h hw x
  | refused | replied => exact h.of_same ⟨rfl, rfl, fun _ _ h => nomatch h⟩
  | @inserted x k hx =>
    refine ⟨fun s i c hs hc => ?_, fun _ _ _ hx' => nomatch hx'⟩
    simp only [AList.lookup_insert_eq] at hs
    split at hs
    · cases hs
      have hreader := hin x k hx
      rw [show a.conns k = some c from hc] at hreader
      exact ⟨by simpa using hreader, h.opened x k c hx hc⟩
    · exact h.reading s i c hs hc
  | natClosed hx =>
    have hhandler : ∀ y i, a.handler ≠ .opened y i := fun y i hy => by rw [hx] at hy; cases hy
    exact (h.close hw hhandler _).of_same ⟨rfl, rfl, fun _ _ h => nomatch h⟩
  | @queued x payload k c hx hc =>
    exact h.of_conn hc rfl rfl (fun _ _ h => nomatch h) fun s i hs =>
      ⟨hs, fun hi => by subst hi; exact (h.reading s i c hs hc).1⟩
  | task hc htask => exact h.task hc htask
  | taskSent hc htask => exact (h.task hc htask).of_same ⟨rfl, rfl, fun _ _ h => h⟩
  | @removed k c hc =>
    -- the session that leaves the map is the only one of the connection
    refine h.of_conn hc rfl rfl (fun _ _ h => h) fun s i hs => ?_
    simp only [AList.lookup_erase_eq] at hs
    split at hs
    · cases hs
    · rename_i hne
      refine ⟨hs, fun hi => ?_⟩
      subst hi
      obtain ⟨d, hd, hds⟩ := hw.sessions s i hs
      rw [hc] at hd
      cases hd
      exact absurd hds.symm hne

theorem wired_taskStep (hw : Wired a) (e : TaskEvent) : Wired (a.taskStep codec agentId e) := by
  cases e with
  | frame x result =>
    simp only [taskStep]
    split
    · exact wired_handleIoFrame hw x result
    · exact hw
  | session e => exact wired_step hw e
  | sendFailed =>
    refine onConn_of hw fun c hc => ?_
    split
    · exact hw.setConn hc rfl fun _ h => nomatch h
    · exact hw.setConn hc rfl fun _ h => nomatch h
    · exact hw

theorem live_taskStep (h : Live a) (hw : Wired a) {e : TaskEvent} (hin : a.EntersInTime e) :
    Live (a.taskStep codec agentId e) := by
  cases e with
  | frame x result =>
    simp only [taskStep]
    split
    · rename_i hidle
      rcases sameSessions_handleIoFrame hidle x result with hsame | hsame
      · exact h.of_same hsame
      · refine Live.of_same (h.close hw (fun y k hy => ?_) _) hsame
        rw [hidle] at hy
        cases hy
    · exact h
  | session => exact live_step h hw hin
  | sendFailed =>
    refine onConn_of h fun c hc => ?_
    split
    · exact h.of_conn hc rfl rfl (fun _ _ h => h) fun s i hs => ⟨hs, fun _ => nofun⟩
    · exact h.of_conn hc rfl rfl (fun _ _ h => h) fun s i hs => ⟨hs, fun _ => nofun⟩
    · exact h

/-- In every run that enters its sessions before their readers have finished, no stream whose
readers have finished has a session once the handler has left it. -/
theorem sessions_match_readers (codec : Codec) (agentId : AgentId)
    (disableCommandExecute disableNat : Bool) (events : List TaskEvent)
    (hin : Meets (taskStep codec agentId) EntersInTime (.init disableCommandExecute disableNat)
      events) :
    MapMatches (run (taskStep codec agentId) (.init disableCommandExecute disableNat) events) := by
  have hinit : Live (.init disableCommandExecute disableNat) :=
    ⟨(fun _ _ _ hs => nomatch hs), fun _ _ _ hx => nomatch hx⟩
  obtain ⟨hw, h⟩ := run_induct_of_meets (P := fun a : Session => Wired a ∧ Live a)
    (fun a e hguard h => ⟨wired_taskStep h.1 e, live_taskStep h.2 h.1 hguard⟩)
    ⟨wired_init disableCommandExecute disableNat, hinit⟩ hin
  intro s hdone _
  rw [eq_none_iff_forall_not_mem]
  intro k hk
  obtain ⟨c, hc, hcs⟩ := hw.sessions s k hk
  exact (h.reading s k c hk hc).1 (hdone k c hc hcs)

end Session

namespace Sample

def agentId : AgentId := ⟨"00000000-0000-4000-8000-000000000001", canonical_one⟩

def openText : List UInt8 := String.toUTF8
  "\x7b\"type\":\"open\",\"local_host\":\"127.0.0.1\",\"local_port\":8080\x7d" |>.toList

def codec : Codec where
  encodeNat
    | .open _ _ => openText
    | .ready => ("\x7b\"type\":\"ready\"\x7d".toUTF8).toList
  decodeNat bytes := if bytes = openText then some (.open "127.0.0.1" 8080) else none
  encodeTerminal _ := []
  decodeTerminal _ := none
  parseUuid s := if s = agentId.text then some agentId else none

def openFrame : Tagged := ⟨⟨"s", 1, agentId.text, some (.data openText)⟩, .server⟩

def opens : List TaskEvent := [.frame openFrame (.ok ()), .session (.connected (.ok ()))]

def readerEnds : List TaskEvent :=
  [.session (.read 0 []), .session (.sendEnd 0), .session (.removeSession 0)]

def handlerEnds : List TaskEvent := [.session .insertSession, .session .reply]

end Sample

namespace Session

theorem sessions_match_readers_sample :
    MapMatches (run (taskStep Sample.codec Sample.agentId) (.init false false)
      (Sample.opens ++ Sample.handlerEnds ++ Sample.readerEnds)) := by
  apply sessions_match_readers
  refine ⟨trivial, trivial, fun x k hx => ?_, trivial, trivial, trivial, trivial, trivial⟩
  have hopened : (run (taskStep Sample.codec Sample.agentId) (.init false false)
      Sample.opens).handler = .opened Sample.openFrame 0 := by decide +kernel
  obtain ⟨rfl, rfl⟩ := Handler.opened.inj (hopened.symm.trans hx)
  decide +kernel

theorem session_outlives_reader :
    ¬ MapMatches (run (taskStep Sample.codec Sample.agentId) (.init false false)
      (Sample.opens ++ Sample.readerEnds ++ Sample.handlerEnds)) := by
  set a := run (taskStep Sample.codec Sample.agentId) (.init false false)
    (Sample.opens ++ Sample.readerEnds ++ Sample.handlerEnds) with ha
  have hw : Wired a := run_induct (P := fun a : Session => Wired a)
    (fun _ e h => wired_taskStep h e) (wired_init false false) _
  have hsession : a.natSessions.lookup "s" = some 0 := by decide +kernel
  have hreader : (a.conns 0).all (fun c => c.reader = .done) := by decide +kernel
  have hidle : a.handler.stream = none := by decide +kernel
  intro hmatch
  have hnone := hmatch "s" (fun k c hc _ => ?_) (by rw [hidle]; nofun)
  · rw [hsession] at hnone
    cases hnone
  · have hk : k < a.nextConn := by
      by_contra hge
      rw [hw.freshConns k (not_lt.mp hge)] at hc
      cases hc
    have hnext : a.nextConn = 1 := by decide +kernel
    obtain rfl : k = 0 := by omega
    rw [hc] at hreader
    simpa using hreader

end Session

end XLStatus.Agent.Io

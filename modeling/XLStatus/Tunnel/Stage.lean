import XLStatus.Agent.Io

/-! The life of a tunnel in the agent, from the queued open request to its end, and what
the agent has sent for it at every stage. -/

namespace XLStatus.Tunnel

open Shared Grpc Agent.Io List Option

variable {codec : Codec} {agentId : AgentId} {a a' : Session} {s : String}

def log (a : Session) (s : String) : List (Option IoPayload) :=
  (a.sent.filter (·.streamId = s)).map (·.payload)

def readyThen (codec : Codec) (chunks : List (List UInt8)) : List (Option IoPayload) :=
  some (.data (codec.encodeNat .ready)) :: chunks.map (some ∘ .data)

structure TargetConn (a : Session) (s : String) (k : ℕ) (c : Conn) : Prop where
  conn : a.conns k = some c
  stream : c.streamId = s
  origin : c.cause.origin = .server

def Sound (codec : Codec) (a : Session) (s : String) (body : List (Option IoPayload)) : Prop :=
  body = [] ∨ ∃ k c chunks, TargetConn a s k c ∧ body = readyThen codec chunks ∧
    chunks.flatten <+: c.produced

def Ended (codec : Codec) (a : Session) (s : String) : Prop :=
  ∃ body p rest, log a s = body ++ p :: rest ∧ isEnd p = true ∧ Sound codec a s body

structure Clean (a : Session) (s : String) : Prop where
  terminal : a.terminalSessions.lookup s = none
  loops : ∀ n l, a.outputLoops n = some l → l.streamId ≠ s

def NoConn (a : Session) (s : String) : Prop := ∀ k c, a.conns k = some c → c.streamId ≠ s

structure OnlyConn (a : Session) (s : String) (k : ℕ) (c : Conn) : Prop extends
    TargetConn a s k c where
  unique : ∀ i d, a.conns i = some d → d.streamId = s → i = k

def HasSent (c : Conn) (bytes : List UInt8) : Prop :=
  match c.reader with
  | .reading => bytes = c.produced
  | .sending chunk => bytes ++ chunk = c.produced
  | .ending _ | .removing | .done => bytes <+: c.produced

structure Alive (c : Conn) : Prop where
  aborted : c.aborted = false
  removing : c.reader ≠ .removing
  done : c.reader ≠ .done

inductive Body (codec : Codec) (a : Session) (s : String) : Prop
  | empty (hlog : log a s = []) (hconn : NoConn a s)
  | chunks {k : ℕ} {c : Conn} {chunks : List (List UInt8)} (hconn : OnlyConn a s k c)
      (hlog : log a s = readyThen codec chunks) (hsent : HasSent c chunks.flatten)

/-- Where a tunnel stands that the agent has not ended: the request is in the queue, the
agent dials, the tail of the handler runs beside the reader, the session is open, or the
handler is about to end it. -/
inductive Stage (codec : Codec) (a : Session) (queue : List Tagged) (s : String) : Prop
  | queued {x : Tagged} {rest : List Tagged} {localHost : String} {localPort : UInt16}
      (hqueue : queue.filter (·.frame.streamId = s) = x :: rest) (horigin : x.origin = .server)
      (hpayload : x.frame.payload = some (.data (codec.encodeNat (.open localHost localPort))))
      (hopens : codec.OpensAs localHost localPort) (hhandler : a.handler.stream ≠ some s)
      (hnat : a.natSessions.lookup s = none) (hlog : log a s = []) (hconn : NoConn a s)
  | dialing {x : Tagged} {localHost : String} {localPort : UInt16}
      (hhandler : a.handler = .dialing x localHost localPort) (hstream : x.frame.streamId = s)
      (horigin : x.origin = .server) (hlog : log a s = []) (hconn : NoConn a s)
  | tail {x : Tagged} {k : ℕ} {c : Conn}
      (hhandler : a.handler = .opened x k ∨
        (a.handler = .inserted x k ∧ a.natSessions.lookup s = some k))
      (hstream : x.frame.streamId = s) (hlog : log a s = []) (hconn : OnlyConn a s k c)
      (hsent : HasSent c []) (halive : Alive c)
  | live {k : ℕ} {c : Conn} {chunks : List (List UInt8)}
      (hhandler : a.handler.stream ≠ some s ∨ ∃ x payload i, a.handler = .natWrite x payload i)
      (hnat : a.natSessions.lookup s = some k) (hlog : log a s = readyThen codec chunks)
      (hconn : OnlyConn a s k c) (hsent : HasSent c chunks.flatten) (halive : Alive c)
  | closing {f : IoFrame} (hhandler : a.handler = .replying f) (hstream : f.streamId = s)
      (hend : isEnd f.payload = true) (hbody : Body codec a s)

def TunnelInv (codec : Codec) (a : Session) (queue : List Tagged) (s : String) : Prop :=
  Ended codec a s ∨ (Clean a s ∧ Stage codec a queue s)

/-! ## What has been sent -/

theorem HasSent.prefix_produced {c : Conn} {bytes : List UInt8} (h : HasSent c bytes) :
    bytes <+: c.produced := by
  unfold HasSent at h
  split at h
  · exact h ▸ prefix_refl _
  · exact ⟨_, h⟩
  all_goals exact h

theorem Body.sound (h : Body codec a s) : Sound codec a s (log a s) := by
  cases h with
  | empty hlog => exact .inl hlog
  | chunks hconn hlog hsent => exact .inr ⟨_, _, _, hconn.toTargetConn, hlog, hsent.prefix_produced⟩

variable {queue : List Tagged}

theorem Stage.sound (h : Stage codec a queue s) :
    Sound codec a s (log a s) := by
  cases h with
  | queued _ _ _ _ _ _ hlog => exact .inl hlog
  | dialing _ _ _ hlog => exact .inl hlog
  | tail _ _ hlog => exact .inl hlog
  | live _ _ hlog hconn hsent =>
    exact .inr ⟨_, _, _, hconn.toTargetConn, hlog, hsent.prefix_produced⟩
  | closing _ _ _ hbody => exact hbody.sound

theorem log_send (a : Session) (f : IoFrame) (s : String) :
    log (a.send f) s = if f.streamId = s then log a s ++ [f.payload] else log a s := by
  unfold log Session.send
  rw [filter_append, map_append]
  split <;> simp_all

theorem log_send_self {b : Session} (hsent : b.sent = a.sent) {f : IoFrame}
    (hf : f.streamId = s) : log (b.send f) s = log a s ++ [f.payload] := by
  rw [log_send, if_pos hf, log, hsent, log]

section StepOn

variable {t : Option String} (h : Session.StepOn t a a')

include h

theorem log_of_stepOn : log a' s = log a s ∨ ∃ p, some s = t ∧ log a' s = log a s ++ [p] := by
  rcases h.sent with hsame | ⟨f, hf, happ⟩
  · left
    rw [log, hsame, log]
  · have hlog := log_send a f s
    rw [Session.send, ← happ] at hlog
    change log a' s = _ at hlog
    split at hlog
    · rename_i hs
      exact .inr ⟨f.payload, hs ▸ hf, hlog⟩
    · exact .inl hlog

theorem TargetConn.of_stepOn {k : ℕ} {c : Conn} (hc : TargetConn a s k c) :
    ∃ c', TargetConn a' s k c' ∧ c.produced <+: c'.produced := by
  obtain ⟨c', hc', hcause, hproduced⟩ := h.grows hc.conn
  refine ⟨c', ⟨hc', ?_, ?_⟩, hproduced⟩
  · rw [Conn.streamId, hcause]
    exact hc.stream
  · rw [hcause]
    exact hc.origin

theorem Sound.of_stepOn {body : List (Option IoPayload)} (hs : Sound codec a s body) :
    Sound codec a' s body := by
  rcases hs with hnil | ⟨k, c, chunks, hc, hbody, hbytes⟩
  · exact .inl hnil
  · obtain ⟨c', hc', hproduced⟩ := hc.of_stepOn h
    exact .inr ⟨k, c', chunks, hc', hbody, hbytes.trans hproduced⟩

theorem Ended.of_stepOn (he : Ended codec a s) : Ended codec a' s := by
  obtain ⟨body, p, rest, hlog, hp, hsound⟩ := he
  rcases log_of_stepOn (s := s) h with hsame | ⟨q, -, happ⟩
  · exact ⟨body, p, rest, hsame.trans hlog, hp, hsound.of_stepOn h⟩
  · refine ⟨body, p, rest ++ [q], ?_, hp, hsound.of_stepOn h⟩
    rw [happ, hlog]
    simp

theorem ended_of_isEnd (hs : Sound codec a s (log a s)) {p : Option IoPayload}
    (hlog : log a' s = log a s ++ [p]) (hp : isEnd p = true) : Ended codec a' s :=
  ⟨log a s, p, [], hlog, hp, hs.of_stepOn h⟩

end StepOn

/-! ## Steps about other streams -/

section Other

variable {t : Option String} (h : Session.StepOn t a a') (ht : some s ≠ t)

include h ht

theorem log_of_other : log a' s = log a s :=
  (log_of_stepOn h).resolve_right fun ⟨_, hs, _⟩ => ht hs

variable {c : Conn} {k : ℕ}

theorem conns_of_other (hc : c.streamId = s) :
    a'.conns k = some c ↔ a.conns k = some c := by
  rcases h.conns k with hsame | ⟨c', hc', hstream, hgrow⟩
  · rw [hsame]
  · constructor
    · intro hk
      rw [hc'] at hk
      cases hk
      exact absurd (hc ▸ hstream) ht
    · intro hk
      have hcause := (hgrow c hk).1
      rw [Conn.streamId, hcause] at hstream
      exact absurd (hc ▸ hstream) ht

theorem handler_of_other : a'.handler = a.handler ∨
    (a.handler.stream ≠ some s ∧ a'.handler.stream ≠ some s) :=
  h.handler.imp id fun ⟨hold, hnew⟩ => ⟨fun hs => ht (hold s hs), fun hs => ht (hnew s hs)⟩

theorem handler_eq_of_other (hs : a.handler.stream = some s) : a'.handler = a.handler :=
  (handler_of_other h ht).resolve_right fun hne => hne.1 hs

theorem NoConn.other (hn : NoConn a s) : NoConn a' s :=
  fun k c hc hs => hn k c ((conns_of_other h ht hs).mp hc) hs

theorem OnlyConn.other (hc : OnlyConn a s k c) : OnlyConn a' s k c where
  conn := (conns_of_other h ht hc.stream).mpr hc.conn
  stream := hc.stream
  origin := hc.origin
  unique := fun i d hd hs => hc.unique i d ((conns_of_other h ht hs).mp hd) hs

theorem Clean.other (hc : Clean a s) : Clean a' s := by
  refine ⟨(h.terminal s ht).trans hc.terminal, fun n l hl hs => ?_⟩
  rcases h.loops n with hsame | ⟨hnew, -⟩
  · exact hc.loops n l (hsame ▸ hl) hs
  · exact ht (hs ▸ hnew l hl)

theorem Body.other (hb : Body codec a s) : Body codec a' s := by
  have hlog := log_of_other h ht
  cases hb with
  | empty hl hconn => exact .empty (hlog.trans hl) (hconn.other h ht)
  | chunks hconn hl hsent => exact .chunks (hconn.other h ht) (hlog.trans hl) hsent

theorem Stage.other {queue : List Tagged} (hs : Stage codec a queue s) :
    Stage codec a' queue s := by
  have hlog := log_of_other h ht
  have hnat := h.nat s ht
  cases hs with
  | queued hqueue horigin hpayload hopens hhandler hn hl hconn =>
    refine .queued hqueue horigin hpayload hopens ?_ (hnat.trans hn) (hlog.trans hl)
      (hconn.other h ht)
    rcases handler_of_other h ht with hsame | hne
    · rwa [hsame]
    · exact hne.2
  | dialing hhandler hstream horigin hl hconn =>
    have hsame := handler_eq_of_other h ht (by rw [hhandler, ← hstream]; rfl)
    exact .dialing (hsame.trans hhandler) hstream horigin (hlog.trans hl) (hconn.other h ht)
  | @tail x k c hhandler hstream hl hconn hsent halive =>
    have hs : a.handler.stream = some s := by
      rcases hhandler with hopened | ⟨hinserted, -⟩
      · rw [hopened, ← hstream]
        rfl
      · rw [hinserted, ← hstream]
        rfl
    have hsame := handler_eq_of_other h ht hs
    refine .tail ?_ hstream (hlog.trans hl) (hconn.other h ht) hsent halive
    rw [hsame, hnat]
    exact hhandler
  | live hhandler hn hl hconn hsent halive =>
    refine .live ?_ (hnat.trans hn) (hlog.trans hl) (hconn.other h ht) hsent halive
    rcases handler_of_other h ht with hsame | hne
    · rwa [hsame]
    · exact .inl hne.2
  | closing hhandler hstream hend hbody =>
    have hsame := handler_eq_of_other h ht (by rw [hhandler, ← hstream]; rfl)
    exact .closing (hsame.trans hhandler) hstream hend (hbody.other h ht)

end Other

theorem TunnelInv.other {t : Option String} (h : Session.StepOn t a a') (ht : some s ≠ t)
    (hs : TunnelInv codec a queue s) : TunnelInv codec a' queue s :=
  hs.imp (·.of_stepOn h) fun ⟨hclean, hstage⟩ => ⟨hclean.other h ht, hstage.other h ht⟩

theorem Stage.of_queue {queue' : List Tagged} (h : Stage codec a queue s) (hqueue : ∀ x rest,
      queue.filter (·.frame.streamId = s) = x :: rest → ∃ rest', queue'.filter (·.frame.streamId =
      s) = x :: rest') : Stage codec a queue' s := by
  cases h with
  | queued hfirst horigin hpayload hopens hhandler hnat hlog hconn =>
    obtain ⟨rest', hfirst'⟩ := hqueue _ _ hfirst
    exact .queued hfirst' horigin hpayload hopens hhandler hnat hlog hconn
  | dialing hhandler hstream horigin hlog hconn =>
    exact .dialing hhandler hstream horigin hlog hconn
  | tail hhandler hstream hlog hconn hsent halive =>
    exact .tail hhandler hstream hlog hconn hsent halive
  | live hhandler hnat hlog hconn hsent halive =>
    exact .live hhandler hnat hlog hconn hsent halive
  | closing hhandler hstream hend hbody => exact .closing hhandler hstream hend hbody

theorem Stage.append (h : Stage codec a queue s) (frames : List Tagged) :
    Stage codec a (queue ++ frames) s := by
  refine h.of_queue fun x rest hfirst => ⟨rest ++ frames.filter (·.frame.streamId = s), ?_⟩
  rw [filter_append, hfirst, cons_append]

theorem TunnelInv.append (h : TunnelInv codec a queue s) (frames : List Tagged) :
    TunnelInv codec a (queue ++ frames) s :=
  h.imp id fun ⟨hclean, hstage⟩ => ⟨hclean, hstage.append frames⟩

/-! ## Steps of the tunnel's connection -/

section Conn

variable {queue : List Tagged} {k : ℕ} {c c' : Conn}

theorem OnlyConn.eq {i : ℕ} {d : Conn} (h : OnlyConn a s k c) (hd : a.conns i = some d)
    (hs : d.streamId = s) : i = k ∧ d = c := by
  obtain rfl := h.unique i d hd hs
  exact ⟨rfl, some.inj (hd.symm.trans h.conn)⟩

theorem OnlyConn.of_eq (h : OnlyConn a s k c) (hconns : a'.conns = a.conns) :
    OnlyConn a' s k c :=
  ⟨⟨hconns ▸ h.conn, h.stream, h.origin⟩, fun i d hd => h.unique i d (hconns ▸ hd)⟩

theorem Body.of_eq (h : Body codec a s) (hconns : a'.conns = a.conns)
    (hsent : a'.sent = a.sent) : Body codec a' s := by
  have hlog : log a' s = log a s := by rw [log, hsent, log]
  cases h with
  | empty hl hconn => exact .empty (hlog.trans hl) fun k c hc => hconn k c (hconns ▸ hc)
  | chunks hconn hl hbytes => exact .chunks (hconn.of_eq hconns) (hlog.trans hl) hbytes

theorem OnlyConn.setConn (h : OnlyConn a s k c) (hcause : c'.cause = c.cause) :
    OnlyConn (a.setConn k c') s k c' where
  conn := Session.setConn_self
  stream := by
    rw [Conn.streamId, hcause]
    exact h.stream
  origin := hcause ▸ h.origin
  unique := fun i d hd hs => by
    by_contra hi
    rw [Session.setConn_of_ne hi] at hd
    exact hi (h.unique i d hd hs)

theorem Body.setConn (h : Body codec a s) (hc : a.conns k = some c) (hs : c.streamId = s)
    (hcause : c'.cause = c.cause) (hsent : ∀ bytes, HasSent c bytes → HasSent c' bytes) :
    Body codec (a.setConn k c') s := by
  cases h with
  | empty _ hconn => exact absurd hs (hconn k c hc)
  | chunks hconn hlog hbytes =>
    obtain ⟨rfl, rfl⟩ := hconn.eq hc hs
    exact .chunks (hconn.setConn hcause) hlog (hsent _ hbytes)

theorem Stage.setConn (h : Stage codec a queue s) (hc : a.conns k = some c)
    (hs : c.streamId = s) (hcause : c'.cause = c.cause)
    (hsent : ∀ bytes, HasSent c bytes → HasSent c' bytes) (halive : Alive c → Alive c') :
    Stage codec (a.setConn k c') queue s := by
  cases h with
  | queued _ _ _ _ _ _ _ hconn => exact absurd hs (hconn k c hc)
  | dialing _ _ _ _ hconn => exact absurd hs (hconn k c hc)
  | tail hhandler hstream hlog hconn hbytes hal =>
    obtain ⟨rfl, rfl⟩ := hconn.eq hc hs
    exact .tail hhandler hstream hlog (hconn.setConn hcause) (hsent _ hbytes) (halive hal)
  | live hhandler hnat hlog hconn hbytes hal =>
    obtain ⟨rfl, rfl⟩ := hconn.eq hc hs
    exact .live hhandler hnat hlog (hconn.setConn hcause) (hsent _ hbytes) (halive hal)
  | closing hhandler hstream hend hbody =>
    exact .closing hhandler hstream hend (hbody.setConn hc hs hcause hsent)

theorem Stage.body_of_not_alive (h : Stage codec a queue s) (hc : a.conns k = some c)
    (hs : c.streamId = s) (hdead : ¬ Alive c) :
    ∃ f, a.handler = .replying f ∧ f.streamId = s ∧ isEnd f.payload = true ∧ Body codec a s := by
  cases h with
  | queued _ _ _ _ _ _ _ hconn => exact absurd hs (hconn k c hc)
  | dialing _ _ _ _ hconn => exact absurd hs (hconn k c hc)
  | tail _ _ _ hconn _ hal =>
    obtain ⟨rfl, rfl⟩ := hconn.eq hc hs
    exact absurd hal hdead
  | live _ _ _ hconn _ hal =>
    obtain ⟨rfl, rfl⟩ := hconn.eq hc hs
    exact absurd hal hdead
  | closing hhandler hstream hend hbody => exact ⟨_, hhandler, hstream, hend, hbody⟩


theorem Stage.sendChunk (h : Stage codec a queue s) (hc : a.conns k = some c)
    (hs : c.streamId = s) {chunk : List UInt8} (hreader : c.reader = .sending chunk)
    (hready : ∀ x, a.handler ≠ .opened x k ∧ a.handler ≠ .inserted x k)
    (hcause : c'.cause = c.cause) (hreader' : c'.reader = .reading)
    (hproduced : c'.produced = c.produced) (haborted : c'.aborted = c.aborted) {f : IoFrame}
    (hf : f.streamId = s) (hpayload : f.payload = some (.data chunk)) :
    Stage codec ((a.setConn k c').send f) queue s := by
  have hlog : ∀ chunks, log a s = readyThen codec chunks →
      log ((a.setConn k c').send f) s = readyThen codec (chunks ++ [chunk]) := by
    intro chunks hl
    have hsent : (a.setConn k c').sent = a.sent := rfl
    rw [log_send_self hsent hf, hpayload, hl]
    simp [readyThen]
  have hbytes : ∀ chunks : List (List UInt8), HasSent c chunks.flatten →
      HasSent c' (chunks ++ [chunk]).flatten := by
    intro chunks hsent
    rw [HasSent, hreader] at hsent
    rw [HasSent, hreader']
    simpa [hproduced] using hsent
  have hal : Alive c → Alive c' := fun hal =>
    ⟨haborted.trans hal.aborted, by simp [hreader'], by simp [hreader']⟩
  cases h with
  | queued _ _ _ _ _ _ _ hconn => exact absurd hs (hconn k c hc)
  | dialing _ _ _ _ hconn => exact absurd hs (hconn k c hc)
  | @tail x _ _ hhandler _ _ hconn _ _ =>
    -- The reader runs from here on, but the ready message has not been sent.
    obtain ⟨rfl, rfl⟩ := hconn.eq hc hs
    rcases hhandler with hopened | ⟨hinserted, -⟩
    · exact absurd hopened (hready x).1
    · exact absurd hinserted (hready x).2
  | live hhandler hnat hl hconn hsent halive =>
    obtain ⟨rfl, rfl⟩ := hconn.eq hc hs
    exact .live hhandler hnat (hlog _ hl) ((hconn.setConn hcause).of_eq rfl) (hbytes _ hsent)
      (hal halive)
  | closing hhandler hstream hend hbody =>
    cases hbody with
    | empty _ hconn => exact absurd hs (hconn k c hc)
    | chunks hconn hl hsent =>
      obtain ⟨rfl, rfl⟩ := hconn.eq hc hs
      exact .closing hhandler hstream hend
        (.chunks ((hconn.setConn hcause).of_eq rfl) (hlog _ hl) (hbytes _ hsent))

end Conn

/-! ## Steps of the handler -/

section Handler

variable {queue : List Tagged} {k : ℕ} {c : Conn} {chunks : List (List UInt8)}

theorem Clean.of_eq (h : Clean a s) (hterminal : a'.terminalSessions = a.terminalSessions)
    (hloops : a'.outputLoops = a.outputLoops) : Clean a' s :=
  ⟨hterminal ▸ h.terminal, fun n l hl => h.loops n l (hloops ▸ hl)⟩

theorem tunnelInv_close (hclean : Clean a s) (hnat : a.natSessions.lookup s = some k)
    (hlog : log a s = readyThen codec chunks) (hconn : OnlyConn a s k c)
    (hsent : HasSent c chunks.flatten) {f : IoFrame} (hf : f.streamId = s)
    (hend : isEnd f.payload = true) :
    TunnelInv codec ((a.closeNatSession s).replyWith f) queue s := by
  rw [Session.closeNatSession_eq hnat hconn.conn]
  have hset : OnlyConn (a.setConn k { c with aborted := true }) s k { c with aborted := true } :=
    hconn.setConn rfl
  exact .inr ⟨hclean.of_eq rfl rfl, .closing rfl hf hend
    (.chunks (hset.of_eq rfl) hlog hsent)⟩

def HandlerStage (codec : Codec) (a : Session) (s : String) : Handler → Prop
  | .idle => False
  | .dialing x _ _ => x.origin = .server ∧ log a s = [] ∧ NoConn a s
  | .opened _ k => log a s = [] ∧ ∃ c, OnlyConn a s k c ∧ HasSent c [] ∧ Alive c
  | .inserted _ k => a.natSessions.lookup s = some k ∧ log a s = [] ∧
    ∃ c, OnlyConn a s k c ∧ HasSent c [] ∧ Alive c
  | .natWrite _ _ _ => ∃ k c chunks, a.natSessions.lookup s = some k ∧
    log a s = readyThen codec chunks ∧ OnlyConn a s k c ∧ HasSent c chunks.flatten ∧ Alive c
  | .replying f => isEnd f.payload = true ∧ Body codec a s

theorem Stage.handlerStage (h : Stage codec a queue s) (hs : a.handler.stream = some s) :
    HandlerStage codec a s a.handler := by
  cases h with
  | queued _ _ _ _ hhandler => exact absurd hs hhandler
  | dialing hhandler _ horigin hlog hconn =>
    rw [hhandler]
    exact ⟨horigin, hlog, hconn⟩
  | tail hhandler _ hlog hconn hsent halive =>
    rcases hhandler with hopened | ⟨hinserted, hnat⟩
    · rw [hopened]
      exact ⟨hlog, _, hconn, hsent, halive⟩
    · rw [hinserted]
      exact ⟨hnat, hlog, _, hconn, hsent, halive⟩
  | live hhandler hnat hlog hconn hsent halive =>
    rcases hhandler with hne | ⟨x, payload, i, hwrite⟩
    · exact absurd hs hne
    · rw [hwrite]
      exact ⟨_, _, _, hnat, hlog, hconn, hsent, halive⟩
  | closing hhandler _ hend hbody =>
    rw [hhandler]
    exact ⟨hend, hbody⟩

variable (hclean : Clean a s) (h : Stage codec a queue s) (hs : a.handler.stream = some s)

include hclean h hs

theorem tunnelInv_connected (result : Except String Unit) :
    TunnelInv codec (a.connected agentId result) queue s := by
  have hstage := h.handlerStage hs
  unfold Session.connected
  split <;> (try rename_i hx)
  · rename_i x _ _
    rw [hx] at hs hstage
    obtain ⟨horigin, hlog, hconn⟩ := hstage
    have hstream : x.frame.streamId = s := some.inj hs
    have hnew : OnlyConn (a.setConn a.nextConn (.new x)) s a.nextConn (.new x) := by
      refine ⟨⟨Session.setConn_self, hstream, horigin⟩, fun i d hd hds => ?_⟩
      by_contra hi
      rw [Session.setConn_of_ne hi] at hd
      exact hconn i d hd hds
    refine .inr ⟨hclean.of_eq rfl rfl, .tail (.inl rfl) hstream hlog
      (hnew.of_eq rfl) rfl ⟨rfl, ?_, ?_⟩⟩
    · exact fun h => by cases h
    · exact fun h => by cases h
  · rw [hx] at hs hstage
    obtain ⟨-, hlog, hconn⟩ := hstage
    exact .inr ⟨hclean.of_eq rfl rfl,
      .closing rfl (some.inj hs) rfl (.empty hlog hconn)⟩
  · exact .inr ⟨hclean, h⟩

theorem tunnelInv_insertSession : TunnelInv codec a.insertSession queue s := by
  have hstage := h.handlerStage hs
  unfold Session.insertSession
  split
  · rename_i x k hx
    rw [hx] at hs hstage
    obtain ⟨hlog, c, hconn, hsent, halive⟩ := hstage
    have hstream : x.frame.streamId = s := some.inj hs
    refine .inr ⟨hclean.of_eq rfl rfl, .tail (.inr ⟨rfl, ?_⟩) hstream hlog
      (hconn.of_eq rfl) hsent halive⟩
    rw [AList.lookup_insert_eq, if_pos hstream.symm]
  · exact .inr ⟨hclean, h⟩

theorem tunnelInv_reply (hw : Session.Wired a) :
    TunnelInv codec (a.reply codec agentId) queue s := by
  have hstage := h.handlerStage hs
  have hstep : Session.StepOn a.handler.stream a (a.reply codec agentId) :=
    Session.stepOn_step hw .reply
  unfold Session.reply at hstep ⊢
  split at hstep <;> rename_i hx
  · rename_i x k
    rw [hx] at hs hstage
    obtain ⟨hnat, hlog, c, hconn, hsent, halive⟩ := hstage
    have hready : log ({ a with handler := .idle }.send
        (ioRawDataFrame agentId x.frame.streamId (saturatingAdd x.frame.sequence 1)
          (codec.encodeNat .ready))) s = readyThen codec [] := by
      refine (log_send_self (a := a) ?_ ?_).trans ?_
      · rfl
      · exact some.inj hs
      · rw [hlog]
        rfl
    exact .inr ⟨hclean.of_eq rfl rfl,
      .live (.inl fun h => by cases h) hnat hready (hconn.of_eq rfl) hsent halive⟩
  · rename_i f
    have hf : f.streamId = s := by
      rw [hx] at hs
      exact some.inj hs
    rw [hx] at hstage
    exact .inl (ended_of_isEnd hstep hstage.2.sound (log_send_self rfl hf) hstage.1)
  · exact .inr ⟨hclean, h⟩

theorem tunnelInv_natSend (hw : Session.Wired a) :
    TunnelInv codec (a.natSend agentId) queue s := by
  have hstage := h.handlerStage hs
  unfold Session.natSend
  split
  · rename_i x payload i hx
    obtain ⟨d, hd, hds⟩ := hw.handler i (by rw [hx]; rfl)
    rw [hs] at hds
    rw [hx] at hs hstage
    obtain ⟨k, c, chunks, hnat, hlog, hconn, hsent, halive⟩ := hstage
    have hstream : x.frame.streamId = s := some.inj hs
    obtain ⟨rfl, rfl⟩ := hconn.eq hd (some.inj hds).symm
    simp only [hd, hstream]
    split
    · exact tunnelInv_close hclean hnat hlog hconn hsent rfl rfl
    · split
      · have hset : OnlyConn (a.setConn i { d with queue := d.queue ++ [payload] }) s i
            { d with queue := d.queue ++ [payload] } := hconn.setConn rfl
        refine .inr ⟨hclean.of_eq rfl rfl, .live (.inl ?_) hnat hlog
          (hset.of_eq rfl) hsent
          ⟨halive.aborted, halive.removing, halive.done⟩⟩
        exact fun h => by cases h
      · exact .inr ⟨hclean, h⟩
  · exact .inr ⟨hclean, h⟩

end Handler

/-! ## The steps of the agent -/

def chunkAfterReady (a : Session) : SessionEvent → Bool
  | .sendChunk k => match a.handler with
    | .opened _ i | .inserted _ i => i != k
    | _ => true
  | _ => true

theorem tunnelInv_step (hw : Session.Wired a) (h : TunnelInv codec a queue s) {e : SessionEvent}
    (hguard : chunkAfterReady a e = true) :
    TunnelInv codec (a.step codec agentId e) queue s := by
  have hstep : Session.StepOn (a.eventStream e) a (a.step codec agentId e) :=
    Session.stepOn_step hw e
  by_cases ht : some s = a.eventStream e
  case neg => exact h.other hstep ht
  rcases h with hended | ⟨hclean, hstage⟩
  · exact .inl (hended.of_stepOn hstep)
  -- the step of a task is about the tunnel's connection
  have hconn : ∀ {k}, some s = (a.conns k).map (·.streamId) →
      ∃ c, a.conns k = some c ∧ c.streamId = s :=
    fun hk => map_eq_some_iff.mp hk.symm
  have hloop : ∀ {n}, some s ≠ (a.outputLoops n).map (·.streamId) := fun hn => by
    obtain ⟨l, hl, hls⟩ := map_eq_some_iff.mp hn.symm
    exact hclean.loops _ l hl hls
  have hsame : TunnelInv codec a queue s := .inr ⟨hclean, hstage⟩
  cases e with
  | configure => cases ht
  | connected result => exact tunnelInv_connected hclean hstage ht.symm result
  | insertSession => exact tunnelInv_insertSession hclean hstage ht.symm
  | reply => exact tunnelInv_reply hclean hstage ht.symm hw
  | natSend => exact tunnelInv_natSend hclean hstage ht.symm hw
  | read k chunk =>
    obtain ⟨c, hc, hs⟩ := hconn ht
    simp only [Session.step, Session.read, Session.onConn, hc]
    split
    · rename_i hcond
      refine .inr ⟨hclean.of_eq rfl rfl, hstage.setConn hc hs rfl (fun bytes hsent => ?_)
        fun halive => ⟨halive.aborted, ?_, ?_⟩⟩
      · rw [HasSent, hcond.1] at hsent
        subst hsent
        by_cases hchunk : chunk = []
        · simp [HasSent, hchunk]
        · simp [HasSent, hchunk]
      · by_cases hchunk : chunk = [] <;> simp [hchunk]
      · by_cases hchunk : chunk = [] <;> simp [hchunk]
    · exact hsame
  | readError =>
    obtain ⟨c, hc, hs⟩ := hconn ht
    simp only [Session.step, Session.readError, Session.onConn, hc]
    split
    · exact .inr ⟨hclean.of_eq rfl rfl, hstage.setConn hc hs rfl
        (fun bytes hsent => hsent.prefix_produced)
        fun halive => ⟨halive.aborted, by simp, by simp⟩⟩
    · exact hsame
  | sendChunk =>
    obtain ⟨c, hc, hs⟩ := hconn ht
    simp only [Session.step, Session.sendChunk, Session.onConn, hc]
    split
    · rename_i chunk hreader
      refine .inr ⟨hclean.of_eq rfl rfl,
        hstage.sendChunk hc hs hreader (fun x => ⟨fun hx => ?_, fun hx => ?_⟩) ?_ ?_ ?_ ?_ ?_ ?_⟩
      · simp [chunkAfterReady, hx] at hguard
      · simp [chunkAfterReady, hx] at hguard
      all_goals first | rfl | exact hs
    · exact hsame
  | sendEnd k =>
    obtain ⟨c, hc, hs⟩ := hconn ht
    simp only [Session.step, Session.sendEnd, Session.onConn, hc] at hstep ⊢
    split at hstep
    · rename_i f hreader
      obtain ⟨hf, hend⟩ := hw.endings k c f hc hreader
      exact .inl (ended_of_isEnd hstep hstage.sound (log_send_self rfl (hf.trans hs)) hend)
    · exact hsame
  | removeSession k =>
    obtain ⟨c, hc, hs⟩ := hconn ht
    simp only [Session.step, Session.removeSession, Session.onConn, hc]
    split
    · rename_i hreader
      obtain ⟨f, hhandler, hf, hend, hbody⟩ :=
        hstage.body_of_not_alive hc hs fun halive => halive.removing hreader
      have hset : Body codec (a.setConn k { c with reader := .done }) s :=
        hbody.setConn hc hs rfl fun bytes hsent => hsent.prefix_produced
      exact .inr ⟨hclean.of_eq rfl rfl, .closing hhandler hf hend (hset.of_eq rfl rfl)⟩
    · exact hsame
  | cancel =>
    obtain ⟨c, hc, hs⟩ := hconn ht
    simp only [Session.step, Session.cancel, Session.onConn, hc]
    split
    · rename_i haborted
      obtain ⟨f, hhandler, hf, hend, hbody⟩ :=
        hstage.body_of_not_alive hc hs fun halive => by simp [halive.aborted] at haborted
      exact .inr ⟨hclean.of_eq rfl rfl, .closing hhandler hf hend
        (hbody.setConn hc hs rfl fun bytes hsent => hsent.prefix_produced)⟩
    · exact hsame
  | writeTarget =>
    obtain ⟨c, hc, hs⟩ := hconn ht
    simp only [Session.step, Session.writeTarget, Session.onConn, hc]
    split
    · split <;> exact .inr ⟨hclean.of_eq rfl rfl, hstage.setConn hc hs rfl (fun _ hsent => hsent)
        fun halive => ⟨halive.aborted, halive.removing, halive.done⟩⟩
    · exact hsame
  | writerEnd =>
    obtain ⟨c, hc, hs⟩ := hconn ht
    simp only [Session.step, Session.writerEnd, Session.onConn, hc] at hstep ⊢
    split at hstep
    · refine .inl (ended_of_isEnd hstep hstage.sound (log_send_self rfl ?_) ?_)
      · exact hs
      · rfl
    · exact hsame
  | terminalOutput => exact absurd ht hloop
  | terminalExit => exact absurd ht hloop

/-! ## The agent takes a frame -/

section Receive

variable {queue : List Tagged} {x : Tagged} {result : Except String Unit}

theorem tunnelInv_openRequest {localHost : String} {localPort : UInt16} (hclean : Clean a s)
    (hs : x.frame.streamId = s) (horigin : x.origin = .server)
    (hpayload : x.frame.payload = some (.data (codec.encodeNat (.open localHost localPort))))
    (hopens : codec.OpensAs localHost localPort) (hnat : a.natSessions.lookup s = none)
    (hlog : log a s = []) (hconn : NoConn a s) :
    TunnelInv codec (a.handleIoFrame codec agentId x result) queue s := by
  subst hs
  have hhandle : a.handleIoFrame codec agentId x result =
      a.handleNatControlMessage agentId x (.open localHost localPort) := by
    simp [Session.handleIoFrame, Session.handleData, hpayload, hclean.terminal, hnat,
      hopens.terminal, hopens.nat]
  rw [hhandle, Session.handleNatControlMessage]
  split
  · exact .inr ⟨hclean.of_eq rfl rfl, .closing rfl rfl rfl (.empty hlog hconn)⟩
  · exact .inr ⟨hclean.of_eq rfl rfl, .dialing rfl rfl horigin hlog hconn⟩

theorem tunnelInv_liveFrame {k : ℕ} {c : Conn} {chunks : List (List UInt8)} (hclean : Clean a s)
    (hidle : a.handler = .idle) (hs : x.frame.streamId = s)
    (hnat : a.natSessions.lookup s = some k) (hlog : log a s = readyThen codec chunks)
    (hconn : OnlyConn a s k c) (hsent : HasSent c chunks.flatten) (halive : Alive c) :
    TunnelInv codec (a.handleIoFrame codec agentId x result) queue s := by
  subst hs
  have hsame : TunnelInv codec a queue x.frame.streamId :=
    .inr ⟨hclean, .live (.inl (by simp [hidle, Handler.stream])) hnat hlog hconn hsent halive⟩
  have hclose : ∀ f : IoFrame, f.streamId = x.frame.streamId → isEnd f.payload = true →
      TunnelInv codec ((a.closeNatSession x.frame.streamId).replyWith f) queue x.frame.streamId :=
    fun f => tunnelInv_close hclean hnat hlog hconn hsent
  unfold Session.handleIoFrame
  split
  · rename_i payload _
    simp only [Session.handleData, hclean.terminal, hnat, isSome_none,
      Bool.false_eq_true, if_false]
    split
    · exact hclose _ rfl rfl
    · exact .inr ⟨hclean.of_eq rfl rfl, .live (.inr ⟨x, payload, k, rfl⟩) hnat hlog
        (hconn.of_eq rfl) hsent halive⟩
  · simp only [hclean.terminal, hnat, isSome_none, Bool.false_eq_true, if_false,
      isSome_some, if_true]
    exact hclose _ rfl rfl
  all_goals exact hsame

theorem tunnelInv_handleIoFrame (hw : Session.Wired a) (hidle : a.handler = .idle)
    (h : TunnelInv codec a (x :: queue) s) :
    TunnelInv codec (a.handleIoFrame codec agentId x result) queue s := by
  have hstep : Session.StepOn (some x.frame.streamId) a
      (a.handleIoFrame codec agentId x result) := Session.stepOn_handleIoFrame hw hidle x result
  by_cases hs : x.frame.streamId = s
  · rcases h with hended | ⟨hclean, hstage⟩
    · exact .inl (hended.of_stepOn hstep)
    · cases hstage with
      | queued hqueue horigin hpayload hopens _ hnat hlog hconn =>
        rw [filter_cons_of_pos (by simpa using hs)] at hqueue
        obtain ⟨rfl, -⟩ := List.cons.inj hqueue
        exact tunnelInv_openRequest hclean hs horigin hpayload hopens hnat hlog hconn
      | live _ hnat hlog hconn hsent halive =>
        exact tunnelInv_liveFrame hclean hidle hs hnat hlog hconn hsent halive
      | dialing hhandler =>
        rw [hidle] at hhandler
        cases hhandler
      | tail hhandler =>
        rw [hidle] at hhandler
        rcases hhandler with hopened | ⟨hinserted, -⟩
        · cases hopened
        · cases hinserted
      | closing hhandler =>
        rw [hidle] at hhandler
        cases hhandler
  · have hqueue : TunnelInv codec a queue s := by
      refine h.imp id fun ⟨hclean, hstage⟩ => ⟨hclean, hstage.of_queue fun y rest hfirst => ?_⟩
      rw [filter_cons_of_neg (by simpa using hs)] at hfirst
      exact ⟨rest, hfirst⟩
    exact hqueue.other hstep fun heq => hs (some.inj heq).symm

end Receive

end XLStatus.Tunnel

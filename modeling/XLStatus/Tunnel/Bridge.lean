import XLStatus.Agent.Io
import XLStatus.Tunnel.BridgeDefs

/-! The download half of a tunnel's bridge. The bridge refines a function of the frames it
has taken: what it has written is a beginning of what that function puts out. -/

namespace XLStatus.Tunnel

open Shared Grpc Agent.Io Transition List Option

structure Download where
  sawReady : Bool
  out : List UInt8
  ended : Bool

namespace Download

def init : Download := ⟨false, [], false⟩

def apply (d : Download) : Verdict → Download
  | .skip => d
  | .ready => { d with sawReady := true }
  | .write data => { d with sawReady := true, out := d.out ++ data }
  | .oversize _ | .stop _ => { d with ended := true }

def absorb (codec : Codec) (agentId : AgentId) (s : String) (mapping : Mapping) (d : Download)
    (frame : IoFrame) : Download :=
  if d.ended then d else d.apply (judge codec agentId s mapping d.sawReady frame)

def absorbPayload (codec : Codec) (d : Download) (payload : Option IoPayload) : Download :=
  if d.ended then d else d.apply (judgePayload codec d.sawReady payload)

variable {codec : Codec} {agentId : AgentId} {s : String} {mapping : Mapping} {d : Download}

theorem out_prefix_apply (d : Download) (v : Verdict) : d.out <+: (d.apply v).out := by
  cases v with
  | write => exact prefix_append _ _
  | skip | ready | oversize | stop => exact prefix_refl _

theorem out_prefix_absorb (d : Download) (frame : IoFrame) :
    d.out <+: (d.absorb codec agentId s mapping frame).out := by
  unfold absorb
  split
  · exact prefix_refl _
  · exact out_prefix_apply d _

variable {frames : List IoFrame} {rest : List (Option IoPayload)}

theorem out_prefix_mono {frames' : List IoFrame} (h : frames <+: frames') :
    (run (absorb codec agentId s mapping) init frames).out <+:
      (run (absorb codec agentId s mapping) init frames').out := by
  obtain ⟨more, rfl⟩ := h
  rw [run_append]
  exact run_rel (R := fun d d' : Download => d.out <+: d'.out) (fun _ => prefix_refl _)
    (fun _ _ _ => IsPrefix.trans) out_prefix_absorb _ more

theorem run_absorbPayload_of_ended (hd : d.ended = true) (payloads : List (Option IoPayload)) :
    run (absorbPayload codec) d payloads = d := by
  induction payloads with
  | nil => rfl
  | cons p payloads ih =>
    have hp : d.absorbPayload codec p = d := by simp [absorbPayload, hd]
    rw [run_cons, hp, ih]

theorem run_absorb_eq (hframes : ∀ f ∈ frames, verifyInboundTunnelFrame codec agentId s f = true)
    (howner : verifyAgentIdMatches codec agentId mapping.agentId = true) (d : Download) :
    run (absorb codec agentId s mapping) d frames =
      run (absorbPayload codec) d (frames.map (·.payload)) := by
  induction frames generalizing d with
  | nil => rfl
  | cons f frames ih =>
    have hf : d.absorb codec agentId s mapping f = d.absorbPayload codec f.payload := by
      simp [absorb, absorbPayload, judge, hframes f mem_cons_self, howner]
    rw [run_cons, map_cons, run_cons, hf]
    exact ih (fun g hg => hframes g (mem_cons_of_mem f hg)) _

theorem out_run_absorb_of_rejected (hframes : ∀ f ∈ frames, verifyInboundTunnelFrame codec agentId s
      f = false ∨ verifyAgentIdMatches codec agentId mapping.agentId = false) (d : Download) :
    (run (absorb codec agentId s mapping) d frames).out = d.out := by
  induction frames generalizing d with
  | nil => rfl
  | cons f frames ih =>
    rw [run_cons, ih fun g hg => hframes g (mem_cons_of_mem f hg)]
    unfold absorb judge
    split
    · rfl
    · split
      · rfl
      · rename_i hverified
        rcases hframes f mem_cons_self with hf | howner
        · simp [hf] at hverified
        · simp [howner, apply]

theorem out_run_of_isEnd (hrest : ∀ p ∈ rest.head?, isEnd p = true) :
    (run (absorbPayload codec) d rest).out = d.out := by
  cases rest with
  | nil => rfl
  | cons p =>
    have hp : isEnd p = true := hrest p rfl
    have hended : (d.absorbPayload codec p).ended = true ∧
        (d.absorbPayload codec p).out = d.out := by
      unfold absorbPayload
      split
      · rename_i hd
        exact ⟨hd, rfl⟩
      · match p, hp with
        | some (.close _), _ => exact ⟨rfl, rfl⟩
        | some (.error _ _), _ => exact ⟨rfl, rfl⟩
    rw [run_cons, run_absorbPayload_of_ended hended.1, hended.2]

theorem out_run_chunks (chunks : List (List UInt8)) (hrest : ∀ p ∈ rest.head?, isEnd p = true)
    (hready : d.sawReady = true) :
    (run (absorbPayload codec) d (chunks.map (some ∘ .data) ++ rest)).out <+:
      d.out ++ chunks.flatten := by
  induction chunks generalizing d with
  | nil =>
    simp only [map_nil, nil_append, flatten_nil, append_nil]
    rw [out_run_of_isEnd hrest]
  | cons chunk chunks ih =>
    rw [map_cons, cons_append, run_cons]
    by_cases hd : d.ended = true
    · have hsame : d.absorbPayload codec ((some ∘ .data) chunk) = d := by
        simp [absorbPayload, hd]
      rw [hsame, run_absorbPayload_of_ended hd]
      exact prefix_append _ _
    · by_cases hlong : chunk.length > maxNatFrameBytes
      · have hended : d.absorbPayload codec ((some ∘ .data) chunk) = { d with ended := true } := by
          simp [absorbPayload, hd, judgePayload, hlong, apply]
        rw [hended, run_absorbPayload_of_ended rfl]
        exact prefix_append _ _
      · have hwrite : d.absorbPayload codec ((some ∘ .data) chunk) =
            { d with sawReady := true, out := d.out ++ chunk } := by
          simp [absorbPayload, hd, judgePayload, hlong, hready, apply]
        rw [hwrite, flatten_cons, ← append_assoc]
        exact ih rfl

theorem out_run_ready (hcodec : codec.decodeNat (codec.encodeNat .ready) = some .ready)
    (chunks : List (List UInt8)) (hrest : ∀ p ∈ rest.head?, isEnd p = true) :
    (run (absorbPayload codec) init
      (some (.data (codec.encodeNat .ready)) :: chunks.map (some ∘ .data) ++ rest)).out <+:
      chunks.flatten := by
  rw [cons_append, run_cons]
  by_cases hlong : (codec.encodeNat .ready).length > maxNatFrameBytes
  · have hended : init.absorbPayload codec (some (.data (codec.encodeNat .ready))) =
        { init with ended := true } := by
      simp [absorbPayload, init, judgePayload, hlong, apply]
    rw [hended, run_absorbPayload_of_ended rfl]
    exact nil_prefix
  · have hready : init.absorbPayload codec (some (.data (codec.encodeNat .ready))) =
        { init with sawReady := true } := by
      simp [absorbPayload, init, judgePayload, hlong, hcodec, apply]
    rw [hready]
    exact out_run_chunks chunks hrest rfl

end Download

namespace Bridge

variable {codec : Codec} {agentId : AgentId} {s : String} {b b' : Bridge} {inbound : List IoFrame}

def download (codec : Codec) (agentId : AgentId) (s : String) (b : Bridge)
    (inbound : List IoFrame) : Download :=
  run (Download.absorb codec agentId s b.mapping) .init (inbound.take b.received)

/-- As long as the bridge runs, what it has written and what it is writing is all that
should be written; when it has left, what it has written is a beginning of it. -/
structure Refines (codec : Codec) (agentId : AgentId) (s : String) (b : Bridge)
    (inbound : List IoFrame) : Prop where
  received : b.received ≤ inbound.length
  written : b.written <+: (b.download codec agentId s inbound).out
  running : b.result = none →
    (b.download codec agentId s inbound).ended = false ∧
    (b.download codec agentId s inbound).sawReady = b.sawReady ∧
    b.written ++ b.writing.elim [] (·.rest) = (b.download codec agentId s inbound).out

theorem refines_new (mapping : Mapping) (inbound : List IoFrame) :
    Refines codec agentId s (.new mapping) inbound :=
  ⟨Nat.zero_le _, nil_prefix, fun _ => ⟨rfl, rfl, rfl⟩⟩

theorem Refines.more (h : Refines codec agentId s b inbound) (frames : List IoFrame) :
    Refines codec agentId s b (inbound ++ frames) := by
  have hsame : b.download codec agentId s (inbound ++ frames) =
      b.download codec agentId s inbound := by
    rw [download, download, take_append_of_le_length h.received]
  refine ⟨h.received.trans (by simp), ?_, ?_⟩
  · rw [hsame]
    exact h.written
  · rw [hsame]
    exact h.running

structure Stays (b b' : Bridge) : Prop where
  mapping : b'.mapping = b.mapping
  received : b'.received = b.received
  written : b'.written = b.written
  running : b'.result = none →
    b.result = none ∧ b'.sawReady = b.sawReady ∧ b'.writing = b.writing

theorem Stays.refl (b : Bridge) : Stays b b := ⟨rfl, rfl, rfl, fun h => ⟨h, rfl, rfl⟩⟩

theorem stays_fail (b : Bridge) (e : String) : Stays b (b.fail e) :=
  ⟨rfl, rfl, rfl, fun h => nomatch h⟩

theorem stays_leave (b : Bridge) : Stays b b.leave := ⟨rfl, rfl, rfl, fun h => nomatch h⟩

variable {sent : Except String Unit} {reason : String} {x : Tagged}

theorem stays_closeWith {exit : Bridge → Bridge} (hexit : Stays b (exit b)) :
    Stays b (b.closeWith s reason sent exit).1 := by
  unfold closeWith
  split
  · exact hexit
  · exact stays_fail b _

theorem stays_ensureNatByteLimit (b : Bridge) (sent : Except String Unit) :
    Stays b (b.ensureNatByteLimit s sent).1 := by
  unfold ensureNatByteLimit
  split
  · exact stays_closeWith (stays_fail b _)
  · exact .refl b

theorem Refines.stays (h : Refines codec agentId s b inbound) (hs : Stays b b') :
    Refines codec agentId s b' inbound := by
  have hsame : b'.download codec agentId s inbound = b.download codec agentId s inbound := by
    rw [download, download, hs.mapping, hs.received]
  refine ⟨hs.received ▸ h.received, ?_, fun hrunning => ?_⟩
  · rw [hsame, hs.written]
    exact h.written
  · obtain ⟨hresult, hready, hwriting⟩ := hs.running hrunning
    rw [hsame, hs.written, hready, hwriting]
    exact h.running hresult

theorem stays_publicRead {chunk : List UInt8} {closeSent : Except String Unit} :
    Stays b (b.publicRead s chunk sent closeSent).1 := by
  unfold publicRead
  split
  · exact .refl b
  · split
    · exact stays_closeWith (stays_leave b)
    · split
      · exact stays_fail b _
      · have hlimit := stays_ensureNatByteLimit (s := s) { b with
          sentTotal := b.sentTotal + chunk.length
          sequence := saturatingAdd b.sequence 1 } closeSent
        exact ⟨hlimit.mapping, hlimit.received, hlimit.written, hlimit.running⟩

theorem refines_agentFrame (h : Refines codec agentId s b inbound)
    (sent : Except String Unit) :
    Refines codec agentId s (b.agentFrame codec agentId s inbound sent).1 inbound := by
  unfold agentFrame
  split
  · exact h
  · rename_i hselecting
    simp only [selecting, Bool.not_eq_true, Bool.not_eq_false', Bool.and_eq_true,
      isNone_iff_eq_none] at hselecting
    split
    · exact h
    · rename_i frame hframe
      obtain ⟨hlt, -⟩ := List.getElem?_eq_some_iff.mp hframe
      obtain ⟨hended, hready, hout⟩ := h.running hselecting.1
      rw [hselecting.2, elim_none, append_nil] at hout
      -- the download takes the same frame with the same verdict
      have htake : ∀ (b' : Bridge) (v : Verdict),
          judge codec agentId s b.mapping b.sawReady frame = v → b'.mapping = b.mapping →
          b'.received = b.received + 1 → b'.written = b.written →
          (b'.result = none → ((b.download codec agentId s inbound).apply v).ended = false ∧
            ((b.download codec agentId s inbound).apply v).sawReady = b'.sawReady ∧
            b.written ++ b'.writing.elim [] (·.rest) =
              ((b.download codec agentId s inbound).apply v).out) →
          Refines codec agentId s b' inbound := by
        intro b' v hv hmapping hreceived hwritten hrunning
        have hnext : b'.download codec agentId s inbound =
            (b.download codec agentId s inbound).apply v := by
          rw [download, hmapping, hreceived, take_add_one, hframe, toList_some,
            run_snoc, ← download, Download.absorb, hready, hv]
          simp [hended]
        refine ⟨hreceived ▸ hlt, ?_, fun hnone => ?_⟩
        · rw [hnext, hwritten]
          exact h.written.trans (Download.out_prefix_apply _ _)
        · rw [hnext, hwritten]
          exact hrunning hnone
      simp only
      split <;> rename_i hverdict
      · refine htake _ _ hverdict rfl rfl rfl fun _ => ⟨hended, hready, ?_⟩
        simpa [hselecting.2, Download.apply] using hout
      · refine htake _ _ hverdict rfl rfl rfl fun _ => ⟨hended, rfl, ?_⟩
        simpa [hselecting.2, Download.apply] using hout
      · refine htake _ _ hverdict rfl rfl rfl fun _ => ⟨hended, rfl, ?_⟩
        simp [Download.apply, hout]
      all_goals exact htake _ _ hverdict rfl rfl rfl fun hnone => by cases hnone

theorem refines_publicWrite (h : Refines codec agentId s b inbound) (n : ℕ) :
    Refines codec agentId s (b.publicWrite n) inbound := by
  unfold publicWrite
  split
  · rename_i w hresult hwriting
    obtain ⟨hended, hready, hout⟩ := h.running hresult
    rw [hwriting, elim_some] at hout
    have hall : b.written ++ w.rest.take n ++ w.rest.drop n =
        (b.download codec agentId s inbound).out := by
      rw [append_assoc, take_append_drop, hout]
    exact ⟨h.received, ⟨w.rest.drop n, hall⟩, fun _ => ⟨hended, hready, hall⟩⟩
  · exact h

theorem refines_publicWritten (h : Refines codec agentId s b inbound)
    (sent : Except String Unit) :
    Refines codec agentId s (b.publicWritten s sent).1 inbound := by
  unfold publicWritten
  split
  · rename_i w hresult hwriting
    split
    · rename_i hrest
      obtain ⟨hended, hready, hout⟩ := h.running hresult
      rw [hwriting, elim_some, hrest] at hout
      have hdone : Refines codec agentId s
          { b with writing := none, receivedTotal := b.receivedTotal + w.length } inbound :=
        ⟨h.received, h.written, fun _ => ⟨hended, hready, hout⟩⟩
      exact hdone.stays (stays_ensureNatByteLimit _ sent)
    · exact h
  · exact h

theorem refines_step (h : Refines codec agentId s b inbound) (e : BridgeEvent) :
    Refines codec agentId s (b.step codec agentId s inbound e).1 inbound := by
  cases e with
  | publicRead => exact h.stays stays_publicRead
  | publicReadError e =>
    refine h.stays ?_
    simp only [step, publicReadError]
    split
    · exact stays_fail b e
    · exact .refl b
  | agentFrame sent => exact refines_agentFrame h sent
  | inboundClosed =>
    refine h.stays ?_
    simp only [step, inboundClosed]
    split
    · exact stays_leave b
    · exact .refl b
  | idleTimeout =>
    refine h.stays ?_
    simp only [step, idleTimeout]
    split
    · exact stays_closeWith (stays_fail b _)
    · exact .refl b
  | publicWrite n => exact refines_publicWrite h n
  | publicWritten sent => exact refines_publicWritten h sent
  | publicWriteError e =>
    refine h.stays ?_
    simp only [step, publicWriteError]
    split
    · exact stays_fail b e
    · exact .refl b

def BridgeFrame (s : String) (x : Tagged) : Prop :=
  x.frame.streamId = s ∧
    (x.origin = .client ∨ (x.origin = .server ∧ ∃ reason, x.frame.payload = some (.close reason)))

theorem bridgeFrame_closeWith {exit : Bridge → Bridge}
    (hx : x ∈ (b.closeWith s reason sent exit).2) :
    BridgeFrame s x := by
  unfold closeWith at hx
  split at hx
  · obtain rfl := mem_singleton.mp hx
    exact ⟨rfl, .inr ⟨rfl, reason, rfl⟩⟩
  · cases hx

theorem bridgeFrame_ensureNatByteLimit (hx : x ∈ (b.ensureNatByteLimit s sent).2) :
    BridgeFrame s x := by
  unfold ensureNatByteLimit at hx
  split at hx
  · exact bridgeFrame_closeWith hx
  · cases hx

theorem bridgeFrame_agentFrame (hx : x ∈ (b.agentFrame codec agentId s inbound sent).2) :
    BridgeFrame s x := by
  unfold agentFrame at hx
  split at hx
  · cases hx
  · split at hx
    · cases hx
    · simp only at hx
      split at hx
      case h_4 =>
        split at hx
        · obtain rfl := mem_singleton.mp hx
          exact ⟨rfl, .inr ⟨rfl, _, rfl⟩⟩
        · cases hx
      all_goals cases hx

theorem bridgeFrame_step {e : BridgeEvent} (hx : x ∈ (b.step codec agentId s inbound e).2) :
    BridgeFrame s x := by
  cases e with
  | publicRead =>
    simp only [step, publicRead] at hx
    split at hx
    · cases hx
    · split at hx
      · exact bridgeFrame_closeWith hx
      · split at hx
        · cases hx
        · rcases mem_cons.mp hx with rfl | hclose
          · exact ⟨rfl, .inl rfl⟩
          · exact bridgeFrame_ensureNatByteLimit hclose
  | agentFrame => exact bridgeFrame_agentFrame hx
  | idleTimeout =>
    simp only [step, idleTimeout] at hx
    split at hx
    · exact bridgeFrame_closeWith hx
    · cases hx
  | publicWritten =>
    simp only [step, publicWritten] at hx
    split at hx
    · split at hx
      · exact bridgeFrame_ensureNatByteLimit hx
      · cases hx
    · cases hx
  | publicReadError | inboundClosed | publicWrite | publicWriteError => cases hx

end Bridge

end XLStatus.Tunnel

import XLStatus.Tunnel.Bridge
import XLStatus.Tunnel.SystemDefs

/-! What the server's side of the system does in a step, and the induction over its runs. -/

namespace XLStatus.Tunnel

open Shared Grpc Agent.Io Transition

variable {codec : Codec} {agentId : AgentId} {st : System}

theorem unused_eq_false {s : String} : st.unused s = false ↔
    (st.bridges s).isSome = true ∨ (st.terminals.lookup s).isSome = true := by
  rw [System.unused, Bool.and_eq_false_iff, Option.isNone_eq_false_iff, Option.isNone_eq_false_iff]

theorem isSome_update {s s' : String} (b : Bridge) (h : (st.bridges s').isSome = true) :
    (Function.update st.bridges s (some b) s').isSome = true := by
  by_cases hs : s' = s
  · simp [hs]
  · rwa [Function.update_of_ne hs]

inductive TerminalEffect (codec : Codec) (st : System) : System → Prop
  | same : TerminalEffect codec st st
  | send {x : Tagged} {terminals : HashMap String UInt64}
      (hterminals : ∀ s, (terminals.lookup s).isSome = true ↔
        s = x.frame.streamId ∨ (st.terminals.lookup s).isSome = true)
      (hfree : st.bridges x.frame.streamId = none ∨
        (st.terminals.lookup x.frame.streamId).isSome = true)
      (horigin : x.origin = .server)
      (hpayload : (∃ message, x.frame.payload = some (.data (codec.encodeTerminal message))) ∨
        ∃ reason, x.frame.payload = some (.close reason)) :
      TerminalEffect codec st { st with terminals, toAgent := st.toAgent ++ [x] }

theorem terminalEffect_openTerminal (s : String) (cols rows : UInt16) :
    TerminalEffect codec st (st.openTerminal codec agentId s cols rows) := by
  unfold System.openTerminal
  split
  · rename_i hunused
    obtain ⟨hbridge, -⟩ := Bool.and_eq_true_iff.mp hunused
    exact .send (fun s' => AList.isSome_lookup_insert _ _ _ _)
      (.inl (Option.isNone_iff_eq_none.mp hbridge)) rfl (.inl ⟨_, rfl⟩)
  · exact .same

theorem terminalEffect_close {s reason : String} {sequence : UInt64}
    (hs : st.terminals.lookup s = some sequence) :
    TerminalEffect codec st
      { st with
        toAgent := st.toAgent ++ [System.buildCloseFrame agentId s sequence reason] } := by
  have hsome : (st.terminals.lookup s).isSome = true := by rw [hs]; rfl
  refine .send (fun s' => ⟨.inr, fun hor => ?_⟩) (.inr hsome) rfl (.inr ⟨_, rfl⟩)
  rcases hor with rfl | hold
  · exact hsome
  · exact hold

theorem terminalEffect_browserMessage (s : String) (message : TerminalClientMessage) :
    TerminalEffect codec st (st.browserMessage codec agentId s message) := by
  unfold System.browserMessage
  split
  · exact .same
  · rename_i sequence hs
    have hsome : (st.terminals.lookup s).isSome = true := by rw [hs]; rfl
    cases message with
    | input data | resize cols rows =>
      exact .send (fun s' => AList.isSome_lookup_insert _ _ _ _) (.inr hsome) rfl (.inl ⟨_, rfl⟩)
    | close => exact terminalEffect_close hs

theorem terminalEffect_browserGone (s : String) :
    TerminalEffect codec st (st.browserGone agentId s) := by
  unfold System.browserGone
  split
  · exact .same
  · rename_i sequence hs
    exact terminalEffect_close hs

theorem run_of_opens {guard : System → Event → Prop} {P : System → Prop}
    (hstep : ∀ st e, guard st e → (∀ s mapping, e = .openTunnel s mapping →
      codec.OpensAs mapping.localHost mapping.localPort) → P st → P (st.step codec agentId e))
    {st : System} (h : P st) {es : List Event}
    (hopens : ∀ s mapping, .openTunnel s mapping ∈ es →
      codec.OpensAs mapping.localHost mapping.localPort)
    (hguard : Meets (System.step codec agentId) guard st es) :
    P (run (System.step codec agentId) st es) := by
  have hmeets := hguard.and_forall
    (p := fun e => ∀ s mapping, e = .openTunnel s mapping →
      codec.OpensAs mapping.localHost mapping.localPort)
    fun e he s mapping heq => hopens s mapping (heq ▸ he)
  exact run_induct_of_meets (fun st e hg h => hstep st e hg.1 hg.2 h) h hmeets

end XLStatus.Tunnel

import XLStatus.Grpc.IoRegistry
import XLStatus.Shared.Messages
import XLStatus.Tunnel.PolicyDefs

/-! Runs of `handle_connection` side by side: the table of the active tunnels with its limits, and
the reservation and the subscription of each run from its checks to its return. -/

namespace XLStatus.Tunnel

open Shared Grpc Transition Option Function AList

/-! ## The table of the active tunnels -/

/-- `run` is the run whose counters the entry shares. -/
structure ActiveTunnel where
  tunnelId : String
  mappingId : String
  agentId : String
  run : ℕ

abbrev ActiveTunnels := HashMap String ActiveTunnel

def mappingCount (active : ActiveTunnels) (mappingId : String) : ℕ :=
  (active.retain fun _ tunnel => tunnel.mappingId == mappingId).len

def reserveActiveTunnel (active : ActiveTunnels) (tunnel : ActiveTunnel) (globalLimit : ℕ)
    (mappingLimit : Option ℕ) : Except String Unit × ActiveTunnels :=
  if active.len ≥ globalLimit then (.error "active tunnel limit reached", active)
  else if mappingLimit.any fun limit => mappingCount active tunnel.mappingId ≥ limit then
    (.error "mapping active tunnel limit reached", active)
  else if tunnel.tunnelId ∈ active then (.error "duplicate tunnel id", active)
  else (.ok (), active.insert tunnel.tunnelId tunnel)

def defaultNatMaxActiveTunnels : ℕ := 128

def natMaxActiveTunnels (env : String → Option String) : ℕ :=
  (((env "XLSTATUS_NAT_MAX_ACTIVE_TUNNELS").bind fun value =>
    Text.parseUnsigned 64 (Text.trim value)).filter (0 < ·)).getD defaultNatMaxActiveTunnels

/-! ## The runs -/

inductive Phase where
  | reserving (agentId : AgentId)
  | subscribing (agentId : AgentId)
  | bridging (receiver : ℕ)
  | unsubscribing (receiver : ℕ) (result : Except String (ℕ × ℕ))
  | removing (receiver : ℕ) (result : Except String (ℕ × ℕ))
  | returned (receiver : Option ℕ) (result : Except String Unit)

def Phase.Reserved : Phase → Prop
  | .subscribing _ | .bridging _ | .unsubscribing _ _ | .removing _ _ => True
  | .reserving _ | .returned _ _ => False

def Phase.receiver : Phase → Option ℕ
  | .bridging n | .unsubscribing n _ | .removing n _ => some n
  | .returned n _ => n
  | .reserving _ | .subscribing _ => none

def Phase.Subscribed : Phase → Prop
  | .bridging _ | .unsubscribing _ _ => True
  | _ => False

structure ConnectionRun where
  mapping : NatMapping
  tunnelId : String
  phase : Phase

structure TunnelManager where
  active : ActiveTunnels
  registry : IoRegistry
  runs : ℕ → Option ConnectionRun

/-- The steps of the runs, and whatever else happens in the registry. The end of a run's bridge
stands also for an open request that was not sent. -/
inductive ManagerEvent where
  | registry (e : IoRegistry.Event)
  | start (i : ℕ) (mapping : NatMapping) (tunnelId : String) (portCheck : Except String Unit)
  | reserve (i : ℕ)
  | subscribe (i : ℕ)
  | bridged (i : ℕ) (result : Except String (ℕ × ℕ))
  | unsubscribe (i : ℕ)
  | remove (i : ℕ)

namespace TunnelManager

def init : TunnelManager := ⟨∅, .init, fun _ => none⟩

def setRun (m : TunnelManager) (i : ℕ) (r : ConnectionRun) : TunnelManager :=
  { m with runs := Function.update m.runs i (some r) }

def check (m : TunnelManager) (codec : Codec) (mapping : NatMapping)
    (portCheck : Except String Unit) : Phase :=
  match portCheck, codec.parseUuid mapping.agentId with
  | .error e, _ => .returned none (.error e)
  | .ok (), none => .returned none (.error ("invalid agent id on mapping " ++ mapping.id))
  | .ok (), some agentId =>
    if m.registry.isAgentOnline agentId then .reserving agentId
    else .returned none (.error ("agent " ++ mapping.agentId ++ " has no active IO stream"))

def reserve (m : TunnelManager) (env : String → Option String) (i : ℕ) (r : ConnectionRun)
    (agentId : AgentId) : TunnelManager :=
  let tunnel : ActiveTunnel := ⟨r.tunnelId, r.mapping.id, r.mapping.agentId, i⟩
  match reserveActiveTunnel m.active tunnel (natMaxActiveTunnels env)
    (r.mapping.maxActiveTunnels.map UInt32.toNat) with
  | (.ok (), active) => { m with active }.setRun i { r with phase := .subscribing agentId }
  | (.error e, active) => { m with active }.setRun i { r with phase := .returned none (.error e) }

def step (env : String → Option String) (codec : Codec) (m : TunnelManager) :
    ManagerEvent → TunnelManager
  | .registry e => { m with registry := m.registry.step e }
  | .start i mapping tunnelId portCheck =>
    match m.runs i with
    | some _ => m
    | none => m.setRun i ⟨mapping, tunnelId, m.check codec mapping portCheck⟩
  | .reserve i =>
    match m.runs i with
    | some ⟨mapping, tunnelId, .reserving agentId⟩ =>
      m.reserve env i ⟨mapping, tunnelId, .reserving agentId⟩ agentId
    | _ => m
  | .subscribe i =>
    match m.runs i with
    | some ⟨mapping, tunnelId, .subscribing agentId⟩ =>
      { m with registry := m.registry.subscribeStream tunnelId agentId }.setRun i
        ⟨mapping, tunnelId, .bridging m.registry.nextReceiver⟩
    | _ => m
  | .bridged i result =>
    match m.runs i with
    | some ⟨mapping, tunnelId, .bridging n⟩ =>
      m.setRun i ⟨mapping, tunnelId, .unsubscribing n result⟩
    | _ => m
  | .unsubscribe i =>
    match m.runs i with
    | some ⟨mapping, tunnelId, .unsubscribing n result⟩ =>
      { m with registry := m.registry.unsubscribeStream tunnelId }.setRun i
        ⟨mapping, tunnelId, .removing n result⟩
    | _ => m
  | .remove i =>
    match m.runs i with
    | some ⟨mapping, tunnelId, .removing n result⟩ =>
      { m with active := m.active.erase tunnelId }.setRun i
        ⟨mapping, tunnelId, .returned (some n) (result.map fun _ => ())⟩
    | _ => m

end TunnelManager

/-! ## Reservations -/

theorem mappingCount_insert_le (active : ActiveTunnels) (tunnel : ActiveTunnel)
    (mappingId : String) :
    mappingCount (active.insert tunnel.tunnelId tunnel) mappingId ≤
      mappingCount active mappingId + 1 :=
  len_retain_insert_le active tunnel.tunnelId tunnel _

theorem reserveActiveTunnel_cases (active : ActiveTunnels) (tunnel : ActiveTunnel)
    (globalLimit : ℕ) (mappingLimit : Option ℕ) :
    (∃ e, reserveActiveTunnel active tunnel globalLimit mappingLimit = (.error e, active)) ∨
      reserveActiveTunnel active tunnel globalLimit mappingLimit =
          (.ok (), active.insert tunnel.tunnelId tunnel) ∧
        (active.insert tunnel.tunnelId tunnel).len ≤ globalLimit ∧
        ∀ limit ∈ mappingLimit,
          mappingCount (active.insert tunnel.tunnelId tunnel) tunnel.mappingId ≤ limit := by
  unfold reserveActiveTunnel
  split
  · exact .inl ⟨_, rfl⟩
  · rename_i hglobal
    split
    · exact .inl ⟨_, rfl⟩
    · rename_i hmapping
      split
      · exact .inl ⟨_, rfl⟩
      · refine .inr ⟨rfl, ?_, fun limit hlimit => ?_⟩
        · have hlen := len_insert_le active tunnel.tunnelId tunnel
          omega
        · have hcount := mappingCount_insert_le active tunnel tunnel.mappingId
          have hroom : mappingCount active tunnel.mappingId < limit := by
            simpa [mem_def.mp hlimit] using hmapping
          omega

namespace TunnelManager

variable {m m' : TunnelManager} {env : String → Option String} {codec : Codec}

theorem reserve_cases (m : TunnelManager) (env : String → Option String) (i : ℕ)
    (r : ConnectionRun) (agentId : AgentId) :
    (∃ e, m.reserve env i r agentId =
        m.setRun i { r with phase := .returned none (.error e) }) ∨
      ∃ active,
        active = m.active.insert r.tunnelId ⟨r.tunnelId, r.mapping.id, r.mapping.agentId, i⟩ ∧
        m.reserve env i r agentId =
          { m with active }.setRun i { r with phase := .subscribing agentId } ∧
        active.len ≤ natMaxActiveTunnels env ∧
        ∀ limit ∈ r.mapping.maxActiveTunnels, mappingCount active r.mapping.id ≤ limit.toNat := by
  unfold reserve
  rcases reserveActiveTunnel_cases m.active ⟨r.tunnelId, r.mapping.id, r.mapping.agentId, i⟩
    (natMaxActiveTunnels env) (r.mapping.maxActiveTunnels.map UInt32.toNat) with
    ⟨error, heq⟩ | ⟨heq, hlen, hcount⟩
  · simp only [heq]
    exact .inl ⟨error, rfl⟩
  · simp only [heq]
    exact .inr ⟨_, rfl, rfl, hlen,
      fun limit hlimit => hcount limit.toNat (mem_map_of_mem _ hlimit)⟩

/-! ## What the runs hold -/

def Bound (registry : IoRegistry) (r : ConnectionRun) : Prop :=
  ∀ n, r.phase.receiver = some n → n < registry.nextReceiver ∧
    ∀ s sub, registry.subscribers.lookup s = some sub → sub.sender = n →
      s = r.tunnelId ∧ r.phase.Subscribed

structure Sound (m : TunnelManager) : Prop where
  owned : ∀ s tunnel, m.active.lookup s = some tunnel →
    ∃ r, m.runs tunnel.run = some r ∧ s = r.tunnelId ∧ r.phase.Reserved
  fresh : ∀ s sub, m.registry.subscribers.lookup s = some sub →
    sub.sender < m.registry.nextReceiver
  bound : ∀ i r, m.runs i = some r → Bound m.registry r

theorem sound_init : Sound init := by
  refine ⟨fun s tunnel hlook => ?_, fun s sub hlook => ?_, fun i r hr => ?_⟩
  · simp [init] at hlook
  · simp [init, IoRegistry.init] at hlook
  · simp [init] at hr

section Effect

variable {registry registry' : IoRegistry} {e : IoRegistry.Event}

theorem Bound.of_effect {r : ConnectionRun} (h : Bound registry r)
    (heffect : IoRegistry.Effect registry e registry') : Bound registry' r := by
  intro n hn
  obtain ⟨hlt, hsub⟩ := h n hn
  refine ⟨hlt.trans_le heffect.next_le, fun s sub hs hsender => ?_⟩
  rcases heffect.subscribers s sub hs with hold | ⟨a, -, rfl, -⟩
  · exact hsub s sub hold hsender
  · -- a new subscription has the next receiver
    exact absurd hsender hlt.ne'

theorem fresh_of_effect (h : ∀ s sub, registry.subscribers.lookup s = some sub →
      sub.sender < registry.nextReceiver)
    (heffect : IoRegistry.Effect registry e registry') :
    ∀ s sub, registry'.subscribers.lookup s = some sub → sub.sender < registry'.nextReceiver := by
  intro s sub hs
  rcases heffect.subscribers s sub hs with hold | ⟨a, -, rfl, hlt⟩
  · exact (h s sub hold).trans_le heffect.next_le
  · exact hlt

end Effect

theorem Sound.mine (hs : Sound m) {i : ℕ} {r : ConnectionRun} (hrun : m.runs i = some r)
    {s : String} {tunnel : ActiveTunnel} (hlook : m.active.lookup s = some tunnel)
    (hi : tunnel.run = i) : s = r.tunnelId := by
  obtain ⟨r', hr', hid, -⟩ := hs.owned s tunnel hlook
  rw [hi, hrun] at hr'
  cases hr'
  exact hid

theorem Sound.of_step (hs : Sound m) {i : ℕ} {r : ConnectionRun} {e : IoRegistry.Event}
    (heffect : IoRegistry.Effect m.registry e m'.registry)
    (hruns : m'.runs = Function.update m.runs i (some r))
    (hmine : ∀ s tunnel, m'.active.lookup s = some tunnel → tunnel.run = i →
      s = r.tunnelId ∧ r.phase.Reserved)
    (hothers : ∀ s tunnel, m'.active.lookup s = some tunnel → tunnel.run ≠ i →
      m.active.lookup s = some tunnel)
    (hnew : Bound m'.registry r) : Sound m' := by
  refine ⟨fun s tunnel hlook => ?_, fresh_of_effect hs.fresh heffect, fun j r' hr' => ?_⟩
  · by_cases hi : tunnel.run = i
    · refine ⟨r, ?_, hmine s tunnel hlook hi⟩
      rw [hruns, hi, update_self]
    · obtain ⟨r', hr', hkept⟩ := hs.owned s tunnel (hothers s tunnel hlook hi)
      refine ⟨r', ?_, hkept⟩
      rw [hruns, update_of_ne hi]
      exact hr'
  · rw [hruns] at hr'
    by_cases hj : j = i
    · subst hj
      rw [update_self] at hr'
      cases hr'
      exact hnew
    · rw [update_of_ne hj] at hr'
      exact (hs.bound j r' hr').of_effect heffect

theorem Sound.of_reserved (hs : Sound m) {i : ℕ} {r : ConnectionRun} {phase : Phase}
    {e : IoRegistry.Event} (hrun : m.runs i = some r)
    (heffect : IoRegistry.Effect m.registry e m'.registry) (hactive : m'.active = m.active)
    (hruns : m'.runs = Function.update m.runs i (some { r with phase }))
    (hreserved : phase.Reserved) (hnew : Bound m'.registry { r with phase }) : Sound m' := by
  refine hs.of_step heffect hruns (fun s tunnel hlook hi => ?_) (fun s tunnel hlook _ => ?_) hnew
  · rw [hactive] at hlook
    exact ⟨hs.mine hrun hlook hi, hreserved⟩
  · rw [hactive] at hlook
    exact hlook

theorem Sound.not_mine (hs : Sound m) {i : ℕ} {r : ConnectionRun} (hrun : m.runs i = some r)
    (hreserved : ¬ r.phase.Reserved) {s : String} {tunnel : ActiveTunnel}
    (hlook : m.active.lookup s = some tunnel) : tunnel.run ≠ i := by
  rintro rfl
  obtain ⟨r', hr', -, hres⟩ := hs.owned s tunnel hlook
  rw [hrun] at hr'
  cases hr'
  exact hreserved hres

theorem bound_of_receiver_eq_none (registry : IoRegistry) {r : ConnectionRun}
    (h : r.phase.receiver = none) : Bound registry r := by
  intro n hn
  rw [h] at hn
  cases hn

theorem sound_reserve (hs : Sound m) {i : ℕ} {r : ConnectionRun} {agentId : AgentId}
    (hrun : m.runs i = some r) (hphase : ¬ r.phase.Reserved) :
    Sound (m.reserve env i r agentId) := by
  have hrefl := IoRegistry.Effect.refl m.registry (.recv 0)
  rcases m.reserve_cases env i r agentId with ⟨error, heq⟩ | ⟨active, hactive, heq, -, -⟩
  · rw [heq]
    refine hs.of_step hrefl rfl (fun s tunnel hlook hi => ?_) (fun s tunnel hlook _ => hlook)
      (bound_of_receiver_eq_none _ rfl)
    exact absurd hi (hs.not_mine hrun hphase hlook)
  · have hlookup : ∀ s tunnel, active.lookup s = some tunnel →
        s = r.tunnelId ∧ tunnel.run = i ∨ m.active.lookup s = some tunnel := by
      intro s tunnel hlook
      rw [hactive, lookup_insert_eq] at hlook
      split at hlook
      · rename_i hid
        cases hlook
        exact .inl ⟨hid, rfl⟩
      · exact .inr hlook
    rw [heq]
    refine hs.of_step hrefl rfl (fun s tunnel hlook hi => ?_) (fun s tunnel hlook hi => ?_)
      (bound_of_receiver_eq_none _ rfl)
    · rcases hlookup s tunnel hlook with ⟨hid, -⟩ | hold
      · exact ⟨hid, trivial⟩
      · exact absurd hi (hs.not_mine hrun hphase hold)
    · exact (hlookup s tunnel hlook).resolve_left fun hnew => hi hnew.2

theorem sound_step (hs : Sound m) (e : ManagerEvent) : Sound (m.step env codec e) := by
  have hrefl := IoRegistry.Effect.refl m.registry (.recv 0)
  cases e with
  | registry e =>
    have heffect := IoRegistry.effect_step m.registry e
    exact ⟨hs.owned, fresh_of_effect hs.fresh heffect,
      fun i r hr => (hs.bound i r hr).of_effect heffect⟩
  | start =>
    simp only [step]
    split
    · exact hs
    · rename_i hnone
      refine hs.of_step hrefl rfl (fun s tunnel hlook hi => ?_) (fun s tunnel hlook _ => hlook)
        (bound_of_receiver_eq_none _ ?_)
      · obtain ⟨r, hr, -⟩ := hs.owned s tunnel hlook
        rw [hi, hnone] at hr
        cases hr
      · unfold check
        split
        · rfl
        · rfl
        · split <;> rfl
  | reserve =>
    simp only [step]
    split
    · rename_i hrun
      exact sound_reserve hs hrun id
    · exact hs
  | subscribe =>
    simp only [step]
    split
    · rename_i mapping tunnelId agentId hrun
      have heffect := IoRegistry.effect_step m.registry (.subscribeStream tunnelId agentId)
      refine hs.of_reserved hrun heffect rfl rfl trivial fun n hn => ?_
      cases hn
      refine ⟨?_, fun s sub hlook hsender => ⟨?_, trivial⟩⟩
      · exact (Nat.lt_succ_self _).trans_eq
          (IoRegistry.nextReceiver_subscribeStream m.registry tunnelId agentId).symm
      · rcases heffect.subscribers s sub hlook with hold | ⟨a, he, -, -⟩
        · exact absurd hsender (hs.fresh s sub hold).ne
        · cases he
          rfl
    · exact hs
  | bridged i =>
    simp only [step]
    split
    · rename_i hrun
      exact hs.of_reserved hrun hrefl rfl rfl trivial fun n hn => hs.bound i _ hrun n hn
    · exact hs
  | unsubscribe i =>
    simp only [step]
    split
    · rename_i mapping tunnelId n result hrun
      have heffect := IoRegistry.effect_step m.registry (.unsubscribeStream tunnelId)
      refine hs.of_reserved hrun heffect rfl rfl trivial fun n' hn' => ?_
      obtain ⟨hlt, hsub⟩ := (hs.bound i _ hrun).of_effect heffect n' hn'
      refine ⟨hlt, fun s sub hlook hsender => ?_⟩
      -- the run's receiver was under its tunnel only, and that has left the map
      obtain ⟨rfl, -⟩ := hsub s sub hlook hsender
      simp [IoRegistry.unsubscribeStream, setRun] at hlook
    · exact hs
  | remove i =>
    simp only [step]
    split
    · rename_i mapping tunnelId n result hrun
      have hlookup : ∀ s tunnel, (m.active.erase tunnelId).lookup s = some tunnel →
          s ≠ tunnelId ∧ m.active.lookup s = some tunnel := by
        intro s tunnel hlook
        rw [lookup_erase_eq] at hlook
        split at hlook
        · cases hlook
        · rename_i hne
          exact ⟨hne, hlook⟩
      refine hs.of_step hrefl rfl (fun s tunnel hlook hi => ?_) (fun s tunnel hlook _ => ?_)
        fun n' hn' => ?_
      · obtain ⟨hne, hold⟩ := hlookup s tunnel hlook
        exact absurd (hs.mine hrun hold hi) hne
      · exact (hlookup s tunnel hlook).2
      · obtain ⟨hlt, hsub⟩ := hs.bound i _ hrun n' hn'
        exact ⟨hlt, fun s sub hlook hsender => absurd (hsub s sub hlook hsender).2 id⟩
    · exact hs

theorem sound_run (events : List ManagerEvent) : Sound (run (step env codec) init events) :=
  run_induct (P := fun m : TunnelManager => Sound m) (fun _ e hs => sound_step hs e) sound_init
    events

/-! ## The limits -/

theorem len_step_le (h : m.active.len ≤ natMaxActiveTunnels env) (e : ManagerEvent) :
    (m.step env codec e).active.len ≤ natMaxActiveTunnels env := by
  cases e with
  | reserve i =>
    simp only [step]
    split
    · rename_i mapping tunnelId agentId _
      rcases m.reserve_cases env i ⟨mapping, tunnelId, .reserving agentId⟩ agentId with
        ⟨error, heq⟩ | ⟨active, -, heq, hlen, -⟩
      · rw [heq]
        exact h
      · rw [heq]
        exact hlen
    · exact h
  | remove =>
    simp only [step]
    split
    · exact (len_erase_le _ _).trans h
    · exact h
  | registry | start | subscribe | bridged | unsubscribe =>
    simp only [step]
    first
      | exact h
      | split <;> exact h

/-- In every interleaving of runs: the table of the active tunnels stays within the global limit;
a reservation stays within the limit of its mapping or fails and leaves the table; and a run that
has returned has no entry in the table and no subscription. -/
theorem tunnels_within_limits (env : String → Option String) (codec : Codec)
    (events : List ManagerEvent) :
    let m := run (step env codec) init events
    m.active.len ≤ natMaxActiveTunnels env ∧
    (∀ i mapping tunnelId agentId, m.runs i = some ⟨mapping, tunnelId, .reserving agentId⟩ →
      let m' := m.step env codec (.reserve i)
      (∃ e, m'.runs i = some ⟨mapping, tunnelId, .returned none (.error e)⟩ ∧
          m'.active = m.active) ∨
        m'.runs i = some ⟨mapping, tunnelId, .subscribing agentId⟩ ∧
          ∀ limit ∈ mapping.maxActiveTunnels,
            mappingCount m'.active mapping.id ≤ limit.toNat) ∧
    ∀ i mapping tunnelId receiver result,
      m.runs i = some ⟨mapping, tunnelId, .returned receiver result⟩ →
      (∀ s tunnel, m.active.lookup s = some tunnel → tunnel.run ≠ i) ∧
        ∀ s sub, m.registry.subscribers.lookup s = some sub → some sub.sender ≠ receiver := by
  intro m
  have hs : Sound m := sound_run events
  refine ⟨?_, fun i mapping tunnelId agentId hrun => ?_,
    fun i mapping tunnelId receiver result hrun => ⟨fun s tunnel hlook => ?_,
      fun s sub hlook hsender => ?_⟩⟩
  · refine run_induct (P := fun m : TunnelManager => m.active.len ≤ natMaxActiveTunnels env)
      (fun _ e h => len_step_le h e) (Nat.zero_le _) events
  · have hstep : m.step env codec (.reserve i) =
        m.reserve env i ⟨mapping, tunnelId, .reserving agentId⟩ agentId := by
      simp only [step, hrun]
    rw [hstep]
    rcases m.reserve_cases env i ⟨mapping, tunnelId, .reserving agentId⟩ agentId with
      ⟨error, heq⟩ | ⟨active, -, heq, -, hcount⟩
    · rw [heq]
      exact .inl ⟨error, update_self .., rfl⟩
    · rw [heq]
      exact .inr ⟨update_self .., hcount⟩
  · exact hs.not_mine hrun id hlook
  · exact ((hs.bound i _ hrun sub.sender hsender.symm).2 s sub hlook rfl).2

end TunnelManager

end XLStatus.Tunnel

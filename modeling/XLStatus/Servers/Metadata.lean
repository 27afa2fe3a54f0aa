import XLStatus.Servers.MetadataDefs

/-! Who can change what visitors see of a server: a request that may not change it writes back
the public fields it has read, so it changes them only if they were changed in between. -/

namespace XLStatus.Servers

open Shared Auth Checked Transition Option String

variable {R : Type} {codec : Codec R}

def storedPublic (codec : Codec R) (stored : Option String) : PublicFields :=
  (dashboardMetadata codec stored noTelemetry).public

def Request.Authorized (request : Request) : Prop :=
  request.auth.role.isAdmin = true ∧ request.auth.authKind ≠ .personalAccessToken ∧
    request.passedTotp = true

def Request.TagAction (request : Request) : Prop :=
  ∃ batch, request.batch = some batch ∧ batch.action ≠ .setDashboardVisible

def Request.MayChange (request : Request) : Prop := request.Authorized ∧ ¬ request.TagAction

/-! ## The documents -/

variable {json : String} {auth : AuthSession} {totp totpPublic totpTags : Except AppError Unit}
  {req : UpdateServerRequest R} {id : AgentId} {σ : System} {batch : Batch}

theorem storedPublic_of_dashboardMetadataJson {metadata : DashboardMetadata R}
    (h : dashboardMetadataJson codec metadata = .ok json) :
    storedPublic codec (some json) = metadata.public := by
  simp only [dashboardMetadataJson, bind_eq_ok, mapError_eq_ok, ensure_eq_ok, pure_eq_ok,
    decide_eq_true_eq] at h
  obtain ⟨text, htext, -, hlen, rfl⟩ := h
  obtain ⟨htrim, hne, metadata', hfrom, hpublic⟩ := codec.fromText_toText metadata text htext
  have hparse : parseDashboardMetadataJson codec.fromText (some text) = some metadata' :=
    (parseBoundedAgentJson_of_trim codec.fromText htrim hne hlen).trans hfrom
  calc storedPublic codec (some text)
      = metadata'.public := by simp [storedPublic, dashboardMetadata, hparse,
        DashboardMetadata.public]
    _ = metadata.public := hpublic

theorem public_eq_of_not_changed {current next : DashboardMetadata R}
    (h : publicServerVisibilityMetadataChanged current next = false) :
    next.public = current.public := by
  simp only [publicServerVisibilityMetadataChanged, Bool.or_eq_false_iff, bne_eq_false_iff_eq] at h
  obtain ⟨⟨hnote, hvisible⟩, hhide⟩ := h
  rw [DashboardMetadata.public, DashboardMetadata.public, hnote, hvisible, hhide]

theorem admin_of_visibilityWriteAuth
    (h : requirePublicServerVisibilityWriteAuth auth totp = .ok ()) :
    auth.role.isAdmin = true ∧ auth.authKind ≠ .personalAccessToken := by
  simp only [requirePublicServerVisibilityWriteAuth, requireAdminCookieSession, bind_eq_ok,
    ensure_eq_ok, decide_eq_true_eq] at h
  obtain ⟨-, ⟨-, hadmin, hcookie⟩, -⟩ := h
  exact ⟨hadmin, hcookie⟩

/-! ## The requests -/

structure Request.Sound (codec : Codec R) (request : Request) : Prop where
  pending : ∀ pending, request.pending = some pending → request.MayChange ∨
    storedPublic codec (some pending.json) = storedPublic codec pending.read
  batch : ∀ batch, request.batch = some batch → batch.action = .setDashboardVisible →
    request.Authorized

theorem prepareUpdate_spec {row : AgentRow} {passed : Bool}
    (h : prepareUpdate codec auth totpPublic totpTags id row req = .ok (json, passed)) :
    (auth.role.isAdmin = true ∧ auth.authKind ≠ .personalAccessToken ∧ passed = true) ∨
      storedPublic codec (some json) = storedPublic codec row.dashboardMetadataJson := by
  simp only [prepareUpdate, bind_eq_ok, pure_eq_ok, Prod.mk.injEq] at h
  obtain ⟨-, -, tags, -, note, -, rest, -, _, hauth, -, -, _, hjson, rfl, hpassed⟩ := h
  unfold requirePublicServerMetadataWriteAuth at hauth
  split at hauth
  · rename_i hchanged
    obtain ⟨hadmin, hcookie⟩ := admin_of_visibilityWriteAuth hauth
    exact .inl ⟨hadmin, hcookie, by rw [← hpassed, hchanged, Bool.true_or]⟩
  · rename_i hchanged
    rw [storedPublic_of_dashboardMetadataJson hjson]
    exact .inr (public_eq_of_not_changed (Bool.not_eq_true _ ▸ hchanged))

theorem startUpdate_sound {id : String} {request : Request}
    (h : startUpdate codec σ auth totpPublic totpTags id req = .ok request) :
    request.Sound codec := by
  simp only [startUpdate, bind_eq_ok, pure_eq_ok] at h
  obtain ⟨-, -, agentId, -, row, -, ⟨json, passed⟩, hprepare, rfl⟩ := h
  refine ⟨?_, nofun⟩
  rintro _ ⟨⟩
  refine (prepareUpdate_spec hprepare).imp_left fun hauthorized => ⟨hauthorized, ?_⟩
  rintro ⟨batch, hbatch, -⟩
  cases hbatch

theorem startBatch_sound {req : BatchUpdateServersRequest}
    (h : startBatch auth totp req = .ok batch) :
    (Request.mk auth true (some batch) none).Sound codec := by
  simp only [startBatch, bind_eq_ok, pure_eq_ok] at h
  obtain ⟨-, -, _, hauth, ids, -, -, -, -, -, tags, -, -, -, rfl⟩ := h
  refine ⟨nofun, ?_⟩
  rintro _ ⟨⟩ haction
  rw [show req.action = .setDashboardVisible from haction] at hauth
  obtain ⟨hadmin, hcookie⟩ := admin_of_visibilityWriteAuth hauth
  exact ⟨hadmin, hcookie, rfl⟩

theorem prepareBatchAction_spec {row : AgentRow}
    (h : prepareBatchAction codec auth batch id row = .ok json)
    (haction : batch.action ≠ .setDashboardVisible) :
    storedPublic codec (some json) = storedPublic codec row.dashboardMetadataJson := by
  simp only [prepareBatchAction, bind_eq_ok] at h
  obtain ⟨-, -, hjson⟩ := h
  rw [storedPublic_of_dashboardMetadataJson hjson]
  -- a tag action keeps the public fields of the document it has read
  cases hkind : batch.action with
  | setTags => rfl
  | addTags => rfl
  | removeTags => rfl
  | setDashboardVisible => exact absurd hkind haction

theorem readNext_sound {request : Request} (h : request.Sound codec)
    (hbatch : request.batch = some batch) : (readNext codec σ request batch).Sound codec := by
  unfold readNext
  cases hids : batch.serverIds with
  | nil => exact h
  | cons id =>
    have hauthorized : ∀ pending batch', batch.action = .setDashboardVisible →
        ({ request with batch := batch', pending := pending } : Request).Authorized :=
      fun _ _ haction => h.batch batch hbatch haction
    refine ⟨fun pending hpending => ?_, fun batch' hbatch' haction => ?_⟩
    · by_cases haction : batch.action = .setDashboardVisible
      · refine .inl ⟨hauthorized _ _ haction, ?_⟩
        rintro ⟨batch', hbatch', hother⟩
        cases hbatch'
        exact hother haction
      · simp only [bind_eq_some_iff, map_eq_some_iff] at hpending
        obtain ⟨row, -, json, hjson, rfl⟩ := hpending
        cases hprepare : prepareBatchAction codec request.auth batch id row with
        | error => simp [hprepare, Except.toOption] at hjson
        | ok json' =>
          obtain rfl : json' = json := by simpa [hprepare, Except.toOption] using hjson
          exact .inr (prepareBatchAction_spec hprepare haction)
    · cases hbatch'
      exact hauthorized _ _ haction

/-! ## Runs -/

def Sound (codec : Codec R) (σ : System) : Prop :=
  ∀ r request, σ.requests.lookup r = some request → request.Sound codec

theorem Sound.insert (h : Sound codec σ) {request : Request} (hrequest : request.Sound codec)
    (r : ℕ) (agents : HashMap AgentId AgentRow) :
    Sound codec ⟨agents, σ.requests.insert r request⟩ := by
  intro r' request' hlookup
  rw [AList.lookup_insert_eq] at hlookup
  split at hlookup
  · cases hlookup
    exact hrequest
  · exact h r' request' hlookup

theorem Sound.step (h : Sound codec σ) (event : Event R) :
    Sound codec (step codec σ event) := by
  cases event with
  | update r =>
    simp only [Servers.step]
    split
    · exact h
    · split
      · exact h
      · exact h.insert (startUpdate_sound ‹_›) r _
  | startBatch r =>
    simp only [Servers.step]
    split
    · exact h
    · split
      · exact h
      · exact h.insert (startBatch_sound ‹_›) r _
  | batchRead r =>
    simp only [Servers.step]
    cases hlookup : σ.requests.lookup r with
    | none => exact h
    | some request =>
      dsimp only
      cases hbatch : request.batch with
      | none => exact h
      | some =>
        cases request.pending with
        | some => exact h
        | none => exact h.insert (readNext_sound (h r request hlookup) hbatch) r _
  | write r =>
    simp only [Servers.step]
    cases hlookup : σ.requests.lookup r with
    | none => exact h
    | some request =>
      dsimp only
      cases request.pending with
      | none => exact h
      | some pending =>
        have hdone : ({ request with pending := none } : Request).Sound codec :=
          ⟨(fun _ hpending => nomatch hpending), (h r request hlookup).batch⟩
        exact h.insert hdone r _
  | agentChanged => exact h

section Run

def jsonOf (tags visible : String) : String :=
  "\x7b" ++ ("\"public_note\":null,\"provider\":null,\"region\":null,\"country\":null," ++
  "\"city\":null,\"latitude\":null,\"longitude\":null,\"plan\":null,\"price\":null," ++
  "\"currency\":null,\"billing_cycle\":null,\"auto_renew\":null,\"traffic_quota_bytes\":null," ++
  "\"traffic_quota_type\":null,\"tags\":" ++ tags ++ ",\"accent_color\":null," ++
  "\"dashboard_visible\":" ++ visible ++ ",\"hide_for_guest\":null,\"display_order\":null") ++ "\x7d"

theorem toList_jsonOf (tags visible : String) :
    ∃ chars, (jsonOf tags visible).toList = '\x7b' :: (chars ++ ['\x7d']) := by
  have hopen : "\x7b".toList = ['\x7b'] := rfl
  have hclose : "\x7d".toList = ['\x7d'] := rfl
  unfold jsonOf
  rw [toList_append, toList_append, hopen, hclose]
  exact ⟨_, rfl⟩

def documents : List (DashboardMetadata Unit × String) :=
  [(⟨none, none, none, [], ()⟩, jsonOf "[]" "null"),
    (⟨none, some false, none, [], ()⟩, jsonOf "[]" "false"),
    (⟨none, none, none, ["edge"], ()⟩, jsonOf "[\"edge\"]" "null")]

def flag : Option Bool → Char
  | none => '-'
  | some false => '0'
  | some true => '1'

def unflag : Char → Option Bool
  | '0' => some false
  | '1' => some true
  | _ => none

theorem unflag_flag (b : Option Bool) : unflag (flag b) = b := by
  cases b with
  | none => rfl
  | some b => cases b <;> rfl

def otherChars (metadata : DashboardMetadata Unit) : List Char :=
  flag metadata.dashboardVisible :: flag metadata.hideForGuest ::
    match metadata.publicNote with
    | none => ['-']
    | some note => '=' :: note.toList

def otherText (metadata : DashboardMetadata Unit) : String :=
  ofList ('[' :: (otherChars metadata ++ [']']))

def otherDocument (text : String) : Option (DashboardMetadata Unit) :=
  match text.toList with
  | '[' :: v :: h :: c :: rest =>
    some ⟨if c = '=' then some (ofList rest.dropLast) else none, unflag v, unflag h, [], ()⟩
  | _ => none

theorem documents_spec : ∀ e ∈ documents, (∃ tags visible, e.2 = jsonOf tags visible) ∧
    documents.find? (·.2 = e.2) = some e := by
  have hfind : documents.all (fun e => documents.find? (·.2 = e.2) = some e) = true := by
    decide +kernel
  intro e he
  refine ⟨?_, by simpa using List.all_eq_true.mp hfind e he⟩
  simp only [documents, List.mem_cons, List.not_mem_nil, or_false] at he
  obtain rfl | rfl | rfl := he
  · exact ⟨_, _, rfl⟩
  · exact ⟨_, _, rfl⟩
  · exact ⟨_, _, rfl⟩

theorem otherDocument_otherText (metadata : DashboardMetadata Unit) :
    ∃ metadata', otherDocument (otherText metadata) = some metadata' ∧
      metadata'.public = metadata.public := by
  obtain ⟨note, visible, hide, tags, rest⟩ := metadata
  cases note with
  | none =>
    refine ⟨⟨none, visible, hide, [], ()⟩, ?_, rfl⟩
    simp [otherDocument, otherText, otherChars, unflag_flag]
  | some note =>
    refine ⟨⟨some note, visible, hide, [], ()⟩, ?_, rfl⟩
    simp [otherDocument, otherText, otherChars, unflag_flag]

def sampleCodec : Codec Unit where
  toText metadata := .ok (((documents.find? (·.1 = metadata)).map (·.2)).getD (otherText metadata))
  fromText text := ((documents.find? (·.2 = text)).map (·.1)).or (otherDocument text)
  defaultRest := ()
  telemetry _ _ := noTelemetry
  fromText_toText metadata text htext := by
    obtain rfl := Except.ok.inj htext
    cases hfind : documents.find? (·.1 = metadata) with
    | some e =>
      obtain ⟨⟨tags, visible, hjson⟩, hread⟩ := documents_spec e (List.mem_of_find?_eq_some hfind)
      obtain rfl : e.1 = metadata := by simpa using List.find?_some hfind
      obtain ⟨chars, hchars⟩ := toList_jsonOf tags visible
      rw [← hjson] at hchars
      refine ⟨Text.trim_eq_self hchars (by decide) (by decide), ?_, e.1, by simp [hread], rfl⟩
      rintro hempty
      simp [show e.2 = "" from hempty] at hchars
    | none =>
      obtain ⟨metadata', hother, hpublic⟩ := otherDocument_otherText metadata
      have hread : documents.find? (·.2 = otherText metadata) = none := by
        rw [List.find?_eq_none]
        intro e he heq
        obtain ⟨⟨tags, visible, hjson⟩, -⟩ := documents_spec e he
        obtain ⟨chars, hchars⟩ := toList_jsonOf tags visible
        rw [← hjson, of_decide_eq_true heq] at hchars
        simp [otherText] at hchars
      exact ⟨Text.trim_eq_self toList_ofList (by decide) (by decide), by simp [otherText],
        metadata', by simp [hread, hother], hpublic⟩

def sampleAgent : AgentId := ⟨"00000000-0000-4000-8000-000000000001", canonical_one⟩

def adminSession (authKind : AuthKind) : AuthSession where
  sessionId := "session"
  userId := ⟨"00000000-0000-4000-8000-000000000002", canonical_two⟩
  username := "admin"
  role := .admin
  csrfToken := "csrf"
  authKind := authKind
  scopes := ["server:write"]
  serverIds := none
  patId := none

def sampleAgents : HashMap AgentId AgentRow :=
  (∅ : HashMap AgentId AgentRow).insert sampleAgent
    ⟨(adminSession .session).userId, none, none, none, none⟩

def tokenUpdate : Event Unit :=
  .update 1 (adminSession .personalAccessToken) (.error (.forbidden "TOTP code is required"))
    (.error (.forbidden "TOTP code is required")) sampleAgent.text ⟨none, none, none, none, .ok ()⟩

def hideServer : List (Event Unit) :=
  [.startBatch 2 (adminSession .session) (.ok ())
      ⟨[sampleAgent.text], .setDashboardVisible, [], some false⟩, .batchRead 2, .write 2]

def tagServer : List (Event Unit) :=
  [.startBatch 3 (adminSession .session) (.ok ())
    ⟨[sampleAgent.text], .setTags, ["edge"], none⟩, .batchRead 3]

def visibility (σ : System) : Option (Option Bool) :=
  (σ.agents.lookup sampleAgent).map fun row =>
    (storedPublic sampleCodec row.dashboardMetadataJson).dashboardVisible

theorem visibility_eq {σ : System} {metadata : DashboardMetadata Unit} {json : String}
    (hjson : dashboardMetadataJson sampleCodec metadata = .ok json)
    (hrow : (σ.agents.lookup sampleAgent).map (·.dashboardMetadataJson) = some (some json)) :
    visibility σ = some metadata.dashboardVisible := by
  obtain ⟨row, hlookup, hstored⟩ := map_eq_some_iff.mp hrow
  rw [visibility, hlookup, map_some, hstored, storedPublic_of_dashboardMetadataJson hjson]
  rfl

end Run

end XLStatus.Servers

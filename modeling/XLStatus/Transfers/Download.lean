import XLStatus.Agent.FileOps
import XLStatus.Transfers.Tokens

/-! Temporary downloads from the agent's file to the response. The server asks for as many
bytes as it would accept, so a longer file is cut at that length and taken for complete. -/

namespace XLStatus.Transfers

open Shared Checked Auth Transition List
open XLStatus.Agent (AgentConfig)
open XLStatus.Agent.Files (readFile openFileRead canonicalAllowedRoots resolveExistingPath
  boundedReadLength)

def runFileRead (cfg : AgentConfig) (t : FileTree) (path : String) (offset length : UInt64) :
    TaskResult :=
  let result : TaskResult := ⟨.unspecified, 0, "", "", ""⟩
  if cfg.disableCommandExecute then
    { result with
      status := .failure, exitCode := 126, error := "file access disabled by agent policy" }
  else match readFile t path offset length cfg.fileAllowedRoots with
    | .ok data => { result with status := .success, stdout := base64Encode data }
    | .error e => { result with status := .failure, exitCode := 1, error := e }

def fileContent (cfg : AgentConfig) (t : FileTree) (path : String) :
    Except String (List UInt8) := do
  ensure (!cfg.disableCommandExecute) "file access disabled by agent policy"
  let roots ← (canonicalAllowedRoots false t cfg.fileAllowedRoots).1
  openFileRead t (← resolveExistingPath t path roots)

section Agent

variable {cfg : AgentConfig} {t : FileTree} {path : String}

theorem readFile_eq_take {allowedRoots : List String} :
    readFile t path 0 (UInt64.ofNat tempTransferMaxBytes) allowedRoots =
      (do
        let roots ← (canonicalAllowedRoots false t allowedRoots).1
        let data ← openFileRead t (← resolveExistingPath t path roots)
        return data.take tempTransferMaxBytes) := by
  have hbound : boundedReadLength (UInt64.ofNat tempTransferMaxBytes) =
      .ok (UInt64.ofNat tempTransferMaxBytes) := by decide
  simp only [readFile, hbound]
  rfl

theorem runFileRead_of_content {content : List UInt8} (h : fileContent cfg t path = .ok content) :
    runFileRead cfg t path 0 (UInt64.ofNat tempTransferMaxBytes) =
      ⟨.success, 0, base64Encode (content.take tempTransferMaxBytes), "", ""⟩ := by
  simp only [fileContent, bind_eq_ok, ensure_eq_ok] at h
  obtain ⟨_, henabled, roots, hroots, obj, hobj, hopen⟩ := h
  have hread : readFile t path 0 (UInt64.ofNat tempTransferMaxBytes) cfg.fileAllowedRoots =
      .ok (content.take tempTransferMaxBytes) := by
    rw [readFile_eq_take]
    simp only [bind_eq_ok, pure_eq_ok]
    exact ⟨roots, hroots, obj, hobj, content, hopen, rfl⟩
  simp only [Bool.not_eq_true'] at henabled
  simp only [runFileRead, henabled, hread, Bool.false_eq_true, if_false]

theorem content_of_runFileRead
    (h : (runFileRead cfg t path 0 (UInt64.ofNat tempTransferMaxBytes)).status = .success) :
    ∃ content, fileContent cfg t path = .ok content := by
  unfold runFileRead at h
  split at h
  · cases h
  · rename_i henabled
    cases hread : readFile t path 0 (UInt64.ofNat tempTransferMaxBytes) cfg.fileAllowedRoots with
    | error =>
      rw [hread] at h
      cases h
    | ok =>
      rw [readFile_eq_take] at hread
      simp only [bind_eq_ok, pure_eq_ok] at hread
      obtain ⟨roots, hroots, obj, hobj, content, hopen, -⟩ := hread
      refine ⟨content, ?_⟩
      simp only [fileContent, bind_eq_ok, ensure_eq_ok]
      exact ⟨(), by simpa using henabled, roots, hroots, obj, hobj, hopen⟩

end Agent

theorem base64EncodedLen_mono {m n : ℕ} (h : m ≤ n) : base64EncodedLen m ≤ base64EncodedLen n := by
  unfold base64EncodedLen
  split_ifs <;> omega

def isVisible (c : Char) : Bool := 32 ≤ c.val && c.val < 127

theorem headerValueFromStr_ok {s : String} (h : s.toList.all isVisible = true) :
    headerValueFromStr s = .ok s := by
  unfold headerValueFromStr
  rw [bind_eq_ok]
  refine ⟨(), ensure_eq_ok.mpr (all_eq_true.mpr fun c hc => ?_), rfl⟩
  have hvisible := all_eq_true.mp h c hc
  simp only [isVisible, Bool.and_eq_true, decide_eq_true_eq] at hvisible
  have hne : c.val ≠ 127 := fun heq => by simp [heq] at hvisible
  simp [hvisible.1, hne]

theorem sanitizeFilename_visible (filename : String) :
    (sanitizeFilename filename).toList.all isVisible = true := by
  unfold sanitizeFilename
  simp only
  split
  · decide +kernel
  · refine all_eq_true.mpr fun c hc => ?_
    have hmem := mem_of_mem_take (by simpa using Text.mem_of_mem_trim hc)
    obtain ⟨c', -, rfl⟩ := mem_map.mp hmem
    split
    · decide
    · rename_i hplain
      simp only [isVisible, Text.isControl, not_or, Bool.not_eq_true, Bool.or_eq_false_iff,
        Bool.and_eq_false_iff, Bool.and_eq_true, decide_eq_true_eq, decide_eq_false_iff_not,
        UInt32.le_iff_toNat_le, UInt32.lt_iff_toNat_lt, UInt32.reduceToNat] at hplain ⊢
      omega

theorem temporaryDownloadHeaders_ok (dataLen : ℕ) (filename : String) :
    ∃ headers, temporaryDownloadHeaders dataLen filename = .ok headers := by
  have hlength : headerValueFromStr (toString dataLen) = .ok (toString dataLen) := by
    refine headerValueFromStr_ok (all_eq_true.mpr fun c hc => ?_)
    rw [Text.toList_toString] at hc
    have hdigit := Text.isDigit_of_mem_toDigits hc
    have hzero : '0'.val.toNat = 48 := rfl
    have hnine : '9'.val.toNat = 57 := rfl
    simp only [isVisible, Char.isDigit, Bool.and_eq_true, decide_eq_true_eq, ge_iff_le,
      UInt32.le_iff_toNat_le, UInt32.lt_iff_toNat_lt, UInt32.reduceToNat] at hdigit ⊢
    omega
  have hdisposition : headerValueFromStr
      ("attachment; filename=\"" ++ sanitizeFilename filename ++ "\"") =
        .ok ("attachment; filename=\"" ++ sanitizeFilename filename ++ "\"") := by
    refine headerValueFromStr_ok ?_
    have hstart : "attachment; filename=\"".toList.all isVisible = true := by decide +kernel
    have hend : "\"".toList.all isVisible = true := by decide +kernel
    rw [String.toList_append, String.toList_append, all_append, all_append, hstart,
      sanitizeFilename_visible, hend]
    rfl
  simp only [temporaryDownloadHeaders, hlength, hdisposition]
  exact ⟨_, rfl⟩

theorem downloadResponse_of_success (path : String) {data : List UInt8}
    (h : data.length ≤ tempTransferMaxBytes) :
    ∃ headers, downloadResponse path ⟨.success, 0, base64Encode data, "", ""⟩ =
      .ok (.file headers data) := by
  obtain ⟨headers, hheaders⟩ := temporaryDownloadHeaders_ok data.length
    (((Text.split path '/').reverse.find? fun part => !part.isEmpty).getD "download.bin")
  have hlen : Text.len (base64Encode data) ≤ base64EncodedLen tempTransferMaxBytes := by
    rw [len_base64Encode]
    exact base64EncodedLen_mono h
  have htext : ensureTemporaryTransferResultText ⟨.success, 0, base64Encode data, "", ""⟩
      (base64EncodedLen tempTransferMaxBytes) "temporary download agent result" = .ok () := by
    simp only [ensureTemporaryTransferResultText, mapError_eq_ok, ensureTaskResultTextWithin,
      bind_eq_ok, ensure_eq_ok, decide_eq_true_eq]
    exact ⟨(), hlen, (), by decide, by decide⟩
  refine ⟨headers, ?_⟩
  simp only [downloadResponse, bind_eq_ok, mapError_eq_ok, ensure_eq_ok, pure_eq_ok]
  refine ⟨(), htext, (), rfl, data, ?_, (), decide_eq_true h, headers, hheaders, rfl⟩
  rw [trim_base64Encode, base64Decode_base64Encode]

theorem success_of_downloadResponse {path : String} {result : TaskResult} {response : Response}
    (h : downloadResponse path result = .ok response) : result.status = .success := by
  simp only [downloadResponse, bind_eq_ok] at h
  obtain ⟨_, -, _, hsuccess, -⟩ := h
  unfold ensureTaskSuccess at hsuccess
  split at hsuccess
  · rename_i hok
    exact hok.1
  · cases hsuccess

def System.Answers (st : System) (k : ℕ) (headers : List (String × String))
    (data : List UInt8) : Prop :=
  ∃ call, st.calls k = some call ∧ call.phase = .done (.ok (.file headers data))

section Download

variable (env : Env) {st : System} {k : ℕ} {call : Call} {transfer : ValidatedTemporaryTransfer}
  {runId : String}

def resultAndRecord (k : ℕ) (result : TaskResult) (reply : Reply) : List Event :=
  [.step k (.result (.answered result)), .step k (.statement reply)]

theorem answers_iff (hcall : st.calls k = some call)
    (hphase : call.phase = .await transfer (Call.readTask transfer) runId) (result : TaskResult)
    (reply : Reply) {headers : List (String × String)} {data : List UInt8} :
    (run (System.step env) st (resultAndRecord k result reply)).Answers k headers data ↔
      downloadResponse transfer.path result = .ok (.file headers data) := by
  have hrespond : Call.respond transfer (Call.readTask transfer) (.answered result) =
      downloadResponse transfer.path result := rfl
  have hdone : ∃ call', (run (System.step env) st (resultAndRecord k result reply)).calls k =
      some call' ∧ call'.phase = .done (downloadResponse transfer.path result) := by
    simp only [resultAndRecord, run_cons, run_nil, System.step, hcall, System.stepCall, hphase,
      hrespond, System.setCall, Function.update_self, System.stepStatement, Call.statement,
      Call.goTo]
    cases reply <;> exact ⟨_, Function.update_self .., rfl⟩
  obtain ⟨call', hcall', hphase'⟩ := hdone
  unfold System.Answers
  rw [hcall']
  constructor
  · rintro ⟨call'', hcall'', hanswer⟩
    cases hcall''
    exact Phase.done.inj (hphase'.symm.trans hanswer)
  · intro h
    exact ⟨call', rfl, by rw [hphase', h]⟩

theorem answers_take (cfg : AgentConfig) (t : FileTree) {content : List UInt8}
    (hcall : st.calls k = some call)
    (hphase : call.phase = .await transfer (Call.readTask transfer) runId)
    (hcontent : fileContent cfg t transfer.path = .ok content) (reply : Reply) :
    ∃ headers, (run (System.step env) st (resultAndRecord k
      (runFileRead cfg t transfer.path 0 (UInt64.ofNat tempTransferMaxBytes)) reply)).Answers k
        headers (content.take tempTransferMaxBytes) := by
  obtain ⟨headers, hheaders⟩ := downloadResponse_of_success transfer.path
    (length_take_le tempTransferMaxBytes content)
  refine ⟨headers, (answers_iff env hcall hphase _ reply).mpr ?_⟩
  rw [runFileRead_of_content hcontent, hheaders]

theorem recorded_success (hcall : st.calls k = some call)
    (hphase : call.phase = .await transfer (Call.readTask transfer) runId) {result : TaskResult}
    {response : Response} (hresponse : downloadResponse transfer.path result = .ok response)
    (htoken : transfer.tokenId ∈ st.tokens) :
    (run (System.step env) st (resultAndRecord k result .done)).tokens.Has transfer.tokenId
      fun row => row.usedStatus = some .success := by
  have hrespond : Call.respond transfer (Call.readTask transfer) (.answered result) =
      .ok response := hresponse
  simp only [resultAndRecord, run_cons, run_nil, System.step, hcall, System.stepCall, hphase,
    hrespond, System.setCall, Function.update_self, System.stepStatement, Call.statement,
    Call.goTo]
  obtain ⟨row, hrow⟩ := Option.isSome_iff_exists.mp (AList.lookup_isSome.mpr htoken)
  simp only [Tokens.recordUseResult, Tokens.updateWhere, hrow, if_true]
  exact Tokens.has_insert_self rfl

end Download

/-- A download answered with status 200 has the complete file for its body exactly when the
file, if the agent has one under the path, is of at most `tempTransferMaxBytes` bytes. -/
theorem download_complete_iff (env : Env) (st : System) (k : ℕ) (call : Call)
    (transfer : ValidatedTemporaryTransfer) (runId : String) (hcall : st.calls k = some call)
    (hphase : call.phase = .await transfer (Call.readTask transfer) runId) (cfg : AgentConfig)
    (t : FileTree) (reply : Reply) :
    (∀ headers data, (run (System.step env) st (resultAndRecord k
        (runFileRead cfg t transfer.path 0 (UInt64.ofNat tempTransferMaxBytes)) reply)).Answers k
          headers data → fileContent cfg t transfer.path = .ok data) ↔
      ∀ content, fileContent cfg t transfer.path = .ok content →
        content.length ≤ tempTransferMaxBytes := by
  constructor
  · intro hcomplete content hcontent
    obtain ⟨headers, hanswer⟩ := answers_take env cfg t hcall hphase hcontent reply
    have hall := Except.ok.inj (hcontent.symm.trans (hcomplete headers _ hanswer))
    rw [hall]
    exact length_take_le _ _
  · intro hsmall headers data hanswer
    have hresponse := (answers_iff env hcall hphase _ reply).mp hanswer
    obtain ⟨content, hcontent⟩ := content_of_runFileRead (success_of_downloadResponse hresponse)
    have hfits := hsmall content hcontent
    obtain ⟨headers', hheaders⟩ := downloadResponse_of_success transfer.path hfits
    rw [runFileRead_of_content hcontent, take_of_length_le hfits, hheaders] at hresponse
    rw [hcontent, (Response.file.inj (Except.ok.inj hresponse)).2]

namespace Sample

def cfg : AgentConfig :=
  { Agent.Sample.loaded.config with disableCommandExecute := false, fileAllowedRoots := ["/srv"] }

def reportTree (content : List UInt8) : FileTree :=
  .ofEntries [([], .dir), (["srv"], .dir), (["srv", "report"], .file content)] rfl (by
    intro e he
    simp only [mem_cons, not_mem_nil, or_false] at he
    rcases he with rfl | rfl | rfl
    · exact .inl rfl
    · exact .inr ⟨rfl, by decide⟩
    · exact .inr ⟨rfl, rfl⟩)

theorem fileContent_reportTree (content : List UInt8) :
    fileContent cfg (reportTree content) "/srv/report" = .ok content := rfl

def longFile : List UInt8 := replicate (tempTransferMaxBytes + 1) 0

def awaiting : System :=
  run (System.step env) (.init 0 (tokens .download)) (opened 0 .download ++
    [.step 0 (.statement .done), .step 0 (.agent true "run" (.ok ()))])

def transfer : ValidatedTemporaryTransfer := ⟨"link", agent, "/srv/report"⟩

def awaitingCall : Call :=
  ⟨.download, secret, "198.51.100.7", .await transfer (Call.readTask transfer) "run"⟩

theorem calls_awaiting : awaiting.calls 0 = some awaitingCall := by decide +kernel

end Sample

theorem longer_file_is_cut :
    fileContent Sample.cfg (Sample.reportTree Sample.longFile) "/srv/report" =
        .ok Sample.longFile ∧
      ∃ headers data, data ≠ Sample.longFile ∧ data <+: Sample.longFile ∧
        (run (System.step Sample.env) Sample.awaiting (resultAndRecord 0 (runFileRead Sample.cfg
          (Sample.reportTree Sample.longFile) "/srv/report" 0
            (UInt64.ofNat tempTransferMaxBytes)) .done)).Answers 0 headers data ∧
        (run (System.step Sample.env) Sample.awaiting (resultAndRecord 0 (runFileRead Sample.cfg
          (Sample.reportTree Sample.longFile) "/srv/report" 0
            (UInt64.ofNat tempTransferMaxBytes)) .done)).tokens.Has "link" fun row =>
              row.usedStatus = some .success := by
  have hcontent := Sample.fileContent_reportTree Sample.longFile
  obtain ⟨headers, hanswer⟩ := answers_take Sample.env Sample.cfg
    (Sample.reportTree Sample.longFile) Sample.calls_awaiting rfl hcontent .done
  refine ⟨hcontent, headers, _, fun heq => ?_, take_prefix _ _, hanswer, ?_⟩
  · have hlen := congrArg length heq
    rw [length_take, Sample.longFile, length_replicate] at hlen
    omega
  · exact recorded_success Sample.env Sample.calls_awaiting rfl
      ((answers_iff Sample.env Sample.calls_awaiting rfl _ _).mp hanswer) (by decide +kernel)

theorem download_complete_iff_short :
    fileContent Sample.cfg (Sample.reportTree [1, 2, 3]) "/srv/report" = .ok [1, 2, 3] ∧
      ∀ headers data, (run (System.step Sample.env) Sample.awaiting (resultAndRecord 0 (runFileRead
        Sample.cfg (Sample.reportTree [1, 2, 3]) "/srv/report" 0
          (UInt64.ofNat tempTransferMaxBytes)) .done)).Answers 0 headers data →
            fileContent Sample.cfg (Sample.reportTree [1, 2, 3]) "/srv/report" = .ok data := by
  have hcontent := Sample.fileContent_reportTree [1, 2, 3]
  refine ⟨hcontent, (download_complete_iff Sample.env Sample.awaiting 0 Sample.awaitingCall
    Sample.transfer "run" Sample.calls_awaiting rfl Sample.cfg (Sample.reportTree [1, 2, 3])
    .done).mpr fun content h => ?_⟩
  obtain rfl := Except.ok.inj (hcontent.symm.trans h)
  decide

end XLStatus.Transfers

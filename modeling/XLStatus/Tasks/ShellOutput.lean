import XLStatus.Agent.Shell
import XLStatus.Tasks.Dispatch

/-! The output of a shell task, from what the command writes to the row of its run: the agent
cuts it and says so in the error of the result, the server cuts it again and sets the row's
flag for its own cuts only. -/

namespace XLStatus.Tasks

open Agent.Shell Utf8
open Transfers (TaskResult)

def sendTaskMaxOutputBytes : ℕ := 64 * 1024

variable {s : String} {n : ℕ}

theorem truncateUtf8ToBytes_of_le (h : Text.len s ≤ n) :
    truncateUtf8ToBytes s n = (s, false) := if_pos h

theorem truncateUtf8ToBytes_of_lt (h : n < Text.len s) :
    truncateUtf8ToBytes s n = (truncate s n, true) := if_neg (Nat.not_le_of_lt h)

theorem truncateUtf8ToBytes_snd (s : String) (n : ℕ) :
    (truncateUtf8ToBytes s n).2 = decide (n < Text.len s) := by
  by_cases h : Text.len s ≤ n
  · rw [truncateUtf8ToBytes_of_le h, decide_eq_false (Nat.not_lt_of_le h)]
  · rw [truncateUtf8ToBytes_of_lt (Nat.lt_of_not_le h), decide_eq_true (Nat.lt_of_not_le h)]

theorem truncateUtf8ToBytes_fst_ne :
    (truncateUtf8ToBytes s n).1 ≠ s ↔ n < Text.len s := by
  by_cases h : Text.len s ≤ n
  · rw [truncateUtf8ToBytes_of_le h]
    exact ⟨fun hne => absurd rfl hne, fun hlt => absurd h (Nat.not_le_of_lt hlt)⟩
  · have hlt := Nat.lt_of_not_le h
    rw [truncateUtf8ToBytes_of_lt hlt]
    refine ⟨fun _ => hlt, fun _ heq => ?_⟩
    change truncate s n = s at heq
    have hlen := len_truncate_le s n
    rw [heq] at hlen
    exact h hlen

structure Written (stdout stderr : String) where
  code : Option Int32
  out : Pieces stdout bufferBytes
  err : Pieces stderr bufferBytes

variable {stdout stderr : String}

def Written.exit (w : Written stdout stderr) : Exit :=
  { code := w.code, stdout := w.out.pieces, stderr := w.err.pieces }

def Written.result (w : Written stdout stderr) : TaskResult :=
  runShellCommand false sendTaskMaxOutputBytes (.ok w.exit)

def kept (s : String) : String := fromUtf8Lossy ((Text.bytes s).take sendTaskMaxOutputBytes)

section Result

variable (w : Written stdout stderr)

theorem result_stdout : w.result.stdout = kept stdout := by
  show fromUtf8Lossy (collectOutput w.out.pieces sendTaskMaxOutputBytes).1 = kept stdout
  rw [collectOutput_pieces]
  rfl

theorem result_stderr : w.result.stderr = kept stderr := by
  show fromUtf8Lossy (collectOutput w.err.pieces sendTaskMaxOutputBytes).1 = kept stderr
  rw [collectOutput_pieces]
  rfl

theorem result_error : w.result.error =
    if sendTaskMaxOutputBytes < Text.len stdout ∨ sendTaskMaxOutputBytes < Text.len stderr then
      truncationMessage sendTaskMaxOutputBytes else "" := by
  show (if (collectOutput w.out.pieces sendTaskMaxOutputBytes).2 ||
    (collectOutput w.err.pieces sendTaskMaxOutputBytes).2 then _ else _) = _
  rw [collectOutput_pieces, collectOutput_pieces]
  simp only [Bool.or_eq_true, decide_eq_true_eq]
  rfl

end Result

theorem kept_of_le (h : Text.len s ≤ sendTaskMaxOutputBytes) : kept s = s :=
  fromUtf8Lossy_take_of_le h

theorem len_truncationMessage : Text.len (truncationMessage sendTaskMaxOutputBytes) = 31 := by
  decide +kernel

def OutputCut (w : Written stdout stderr) : Prop :=
  (collectOutput w.out.pieces sendTaskMaxOutputBytes).1 ≠ Text.bytes stdout ∨
  (collectOutput w.err.pieces sendTaskMaxOutputBytes).1 ≠ Text.bytes stderr ∨
  (truncateUtf8ToBytes w.result.stdout taskResultStdoutMaxBytes).1 ≠ w.result.stdout ∨
  (truncateUtf8ToBytes w.result.stderr taskResultStderrMaxBytes).1 ≠ w.result.stderr

def retainedStderr (w : Written stdout stderr) : String :=
  (truncateUtf8ToBytes w.result.stderr taskResultStderrMaxBytes).1

def OutputReported (w : Written stdout stderr) (outputTruncated : Bool) (error : Option String) :
    Prop :=
  (outputTruncated = true ↔ OutputCut w) ∧ (stderr ≠ "" → error = some (retainedStderr w))

def CutInsideCharacter (s : String) : Prop :=
  sendTaskMaxOutputBytes < Text.len s ∧
    Text.len (truncate s sendTaskMaxOutputBytes) < sendTaskMaxOutputBytes ∧
    sendTaskMaxOutputBytes < Text.len (truncate s sendTaskMaxOutputBytes) + 3

theorem cutInsideCharacter_iff :
    CutInsideCharacter s ↔ sendTaskMaxOutputBytes < Text.len (kept s) := by
  unfold CutInsideCharacter
  by_cases h : sendTaskMaxOutputBytes < Text.len s
  · have hle := len_truncate_le s sendTaskMaxOutputBytes
    unfold kept
    rw [len_fromUtf8Lossy_take h]
    split <;> omega
  · rw [kept_of_le (Nat.le_of_not_lt h)]
    exact ⟨fun hcut => absurd hcut.1 h, fun hlt => absurd hlt h⟩

section Row

variable (w : Written stdout stderr) (elapsed : ℤ)

theorem received_of_le (hout : Text.len stdout ≤ sendTaskMaxOutputBytes)
    (herr : Text.len stderr ≤ sendTaskMaxOutputBytes) :
    (RunResult.received w.result elapsed).outputTruncated = false ∧
      (RunResult.received w.result elapsed).error =
        if stderr.isEmpty then none else some stderr := by
  have herror : w.result.error = "" := by
    rw [result_error, if_neg (by omega)]
  have hstdout : truncateUtf8ToBytes w.result.stdout taskResultStdoutMaxBytes = (stdout, false) := by
    rw [result_stdout, kept_of_le hout]
    exact truncateUtf8ToBytes_of_le hout
  have hstderr : truncateUtf8ToBytes w.result.stderr taskResultStderrMaxBytes = (stderr, false) := by
    rw [result_stderr, kept_of_le herr]
    exact truncateUtf8ToBytes_of_le herr
  have htext : truncateUtf8ToBytes w.result.error taskResultErrorMaxBytes = ("", false) := by
    rw [herror]
    exact truncateUtf8ToBytes_of_le (by decide)
  unfold RunResult.received truncateTaskResultText TaskResultTextTruncation.any
  simp only [hstdout, hstderr, htext]
  exact ⟨rfl, rfl⟩

theorem received_of_lt (h : sendTaskMaxOutputBytes < Text.len stdout ∨
      sendTaskMaxOutputBytes < Text.len stderr) :
    ((RunResult.received w.result elapsed).outputTruncated = true ↔
        CutInsideCharacter stdout ∨ CutInsideCharacter stderr) ∧
      (RunResult.received w.result elapsed).error =
        some (truncationMessage sendTaskMaxOutputBytes) := by
  have hlen := len_truncationMessage
  have htext : truncateUtf8ToBytes w.result.error taskResultErrorMaxBytes =
      (truncationMessage sendTaskMaxOutputBytes, false) := by
    rw [result_error, if_pos h]
    refine truncateUtf8ToBytes_of_le ?_
    rw [hlen]
    decide
  have hne : (truncationMessage sendTaskMaxOutputBytes).isEmpty = false := by
    decide +kernel
  unfold RunResult.received truncateTaskResultText TaskResultTextTruncation.any
  simp only [htext, truncateUtf8ToBytes_snd, result_stdout, result_stderr, hne, Bool.or_false,
    Bool.or_eq_true, decide_eq_true_eq, cutInsideCharacter_iff]
  exact ⟨Iff.rfl, rfl⟩

theorem outputCut_iff : OutputCut w ↔
    sendTaskMaxOutputBytes < Text.len stdout ∨ sendTaskMaxOutputBytes < Text.len stderr := by
  have hagent {s : String} (p : Pieces s bufferBytes) :
      (collectOutput p.pieces sendTaskMaxOutputBytes).1 ≠ Text.bytes s ↔
        sendTaskMaxOutputBytes < Text.len s := by
    rw [collectOutput_pieces, ne_eq, List.take_eq_self_iff, Text.length_bytes, Nat.not_le]
  have hserver {s : String} (h : sendTaskMaxOutputBytes < Text.len (kept s)) :
      sendTaskMaxOutputBytes < Text.len s := (cutInsideCharacter_iff.mpr h).1
  unfold OutputCut
  rw [hagent, hagent, truncateUtf8ToBytes_fst_ne, truncateUtf8ToBytes_fst_ne, result_stdout,
    result_stderr]
  constructor
  · rintro (h | h | h | h)
    · exact .inl h
    · exact .inr h
    · exact .inl (hserver h)
    · exact .inr (hserver h)
  · rintro (h | h)
    · exact .inl h
    · exact .inr (.inl h)

theorem retainedStderr_ne (h : sendTaskMaxOutputBytes < Text.len stderr) :
    retainedStderr w ≠ truncationMessage sendTaskMaxOutputBytes := by
  have hkept : sendTaskMaxOutputBytes < Text.len (kept stderr) + 4 := by
    have htruncate := lt_len_truncate h
    unfold kept
    rw [len_fromUtf8Lossy_take h]
    omega
  have hretained : sendTaskMaxOutputBytes < Text.len (retainedStderr w) + 4 := by
    unfold retainedStderr
    rw [result_stderr]
    by_cases hlt : taskResultStderrMaxBytes < Text.len (kept stderr)
    · rw [truncateUtf8ToBytes_of_lt hlt]
      exact lt_len_truncate hlt
    · rw [truncateUtf8ToBytes_of_le (Nat.le_of_not_lt hlt)]
      exact hkept
  intro heq
  rw [heq, len_truncationMessage] at hretained
  exact absurd hretained (by decide)

theorem retainedStderr_of_le (h : Text.len stderr ≤ sendTaskMaxOutputBytes) :
    retainedStderr w = stderr := by
  unfold retainedStderr
  rw [result_stderr, kept_of_le h]
  exact congrArg Prod.fst (truncateUtf8ToBytes_of_le h)

theorem outputReported_iff :
    OutputReported w (RunResult.received w.result elapsed).outputTruncated
        (RunResult.received w.result elapsed).error ↔
      (Text.len stdout ≤ sendTaskMaxOutputBytes ∧ Text.len stderr ≤ sendTaskMaxOutputBytes) ∨
      (CutInsideCharacter stdout ∧
        (stderr = "" ∨ stderr = truncationMessage sendTaskMaxOutputBytes)) := by
  unfold OutputReported
  rw [outputCut_iff]
  by_cases hcut : sendTaskMaxOutputBytes < Text.len stdout ∨
      sendTaskMaxOutputBytes < Text.len stderr
  · obtain ⟨htruncated, herror⟩ := received_of_lt w elapsed hcut
    rw [htruncated, herror]
    constructor
    · rintro ⟨hflag, hstderr⟩
      have hshort : stderr = "" ∨ stderr = truncationMessage sendTaskMaxOutputBytes := by
        by_cases hempty : stderr = ""
        · exact .inl hempty
        · have hretained := Option.some.inj (hstderr hempty)
          by_cases hle : Text.len stderr ≤ sendTaskMaxOutputBytes
          · exact .inr ((retainedStderr_of_le w hle).symm.trans hretained.symm)
          · exact absurd hretained.symm (retainedStderr_ne w (Nat.lt_of_not_le hle))
      have hlen : Text.len stderr ≤ sendTaskMaxOutputBytes := by
        obtain rfl | rfl := hshort
        · exact Nat.zero_le _
        · rw [len_truncationMessage]
          decide
      obtain hinside | hinside := hflag.mpr hcut
      · exact .inr ⟨hinside, hshort⟩
      · exact absurd hinside.1 (Nat.not_lt_of_le hlen)
    · rintro (⟨hout, herr⟩ | ⟨hinside, hshort⟩)
      · omega
      · refine ⟨⟨fun _ => hcut, fun _ => .inl hinside⟩, fun hne => ?_⟩
        have heq := hshort.resolve_left hne
        rw [retainedStderr_of_le w (by rw [heq, len_truncationMessage]; decide), heq]
  · have hle : Text.len stdout ≤ sendTaskMaxOutputBytes ∧
        Text.len stderr ≤ sendTaskMaxOutputBytes := by omega
    obtain ⟨htruncated, herror⟩ := received_of_le w elapsed hle.1 hle.2
    rw [htruncated, herror]
    refine ⟨fun _ => .inl hle, fun _ => ⟨⟨fun h => (by cases h), fun h => absurd h hcut⟩, ?_⟩⟩
    intro hne
    rw [retainedStderr_of_le w hle.2, if_neg (by simpa using hne)]

end Row

theorem lookup_received_answer {st : State} {id : RunId} {d : Dispatch}
    (hd : st.dispatches.lookup id = some d) (hphase : d.phase = .await)
    (hdropped : d.dropped = false) (hrow : (st.runs.lookup id).isSome = true)
    (result : TaskResult) (elapsed : ℤ) :
    ∃ row, ((st.step (.received id result elapsed)).step (.answer id .done)).runs.lookup id =
        some row ∧
      row.outputTruncated = (RunResult.received result elapsed).outputTruncated ∧
      row.error = (RunResult.received result elapsed).error := by
  have hreceived : st.step (.received id result elapsed) = { st with
      dispatches := st.dispatches.insert id
        { d with phase := .update (.received result elapsed) } } := by
    show st.advance id _ = _
    unfold State.advance
    rw [hd]
    simp only [hphase, State.nextAwaited, hdropped, Bool.false_eq_true, if_false]
  have hanswered : ((st.step (.received id result elapsed)).step (.answer id .done)).runs =
      TaskRunRepository.updateResult st.runs id (.received result elapsed) := by
    rw [hreceived]
    show (State.answer _ id .done).runs = _
    unfold State.answer
    simp only [AList.lookup_insert, Dispatch.statement, hdropped, executed, State.succeed,
      Bool.false_eq_true, if_false, if_true, ne_eq, reduceCtorEq, not_false_eq_true, decide_true]
  obtain ⟨row, hrow⟩ := Option.isSome_iff_exists.mp hrow
  rw [hanswered, TaskRunRepository.lookup_updateResult st.runs hrow]
  exact ⟨_, rfl, rfl, rfl⟩

/-- After any history, the run of a shell task whose result is awaited is stored with a flag that
says whether output was cut and with what is left of stderr exactly if the agent cuts nothing, or
if its cut of stdout leaves one or two bytes of a character and stderr has nothing to lose. -/
theorem stored_output_reported_iff (es : List Event) (id : RunId) (d : Dispatch)
    (hd : (Transition.run State.step initial es).dispatches.lookup id = some d)
    (hphase : d.phase = .await) (hdropped : d.dropped = false) (w : Written stdout stderr)
    (elapsed : ℤ) :
    (∃ row, (Transition.run State.step initial
        (es ++ [.received id w.result elapsed, .answer id .done])).runs.lookup id = some row ∧
        OutputReported w row.outputTruncated row.error) ↔
      (Text.len stdout ≤ sendTaskMaxOutputBytes ∧ Text.len stderr ≤ sendTaskMaxOutputBytes) ∨
      (CutInsideCharacter stdout ∧
        (stderr = "" ∨ stderr = truncationMessage sendTaskMaxOutputBytes)) := by
  have hrow := (inv_run id es).recorded d hd (by rw [hphase]; rfl)
  obtain ⟨row, hlookup, htruncated, herror⟩ :=
    lookup_received_answer hd hphase hdropped hrow w.result elapsed
  rw [Transition.run_append, Transition.run_cons, Transition.run_cons, Transition.run_nil, hlookup,
    ← outputReported_iff w elapsed, ← htruncated, ← herror]
  constructor
  · rintro ⟨row', hrow', hreported⟩
    cases hrow'
    exact hreported
  · exact fun hreported => ⟨row, rfl, hreported⟩

def awaitedDispatch : List Event :=
  [.start "task" "00000000-0000-0000-0000-0000000000a1" "2026-01-01T00:00:00+00:00",
    .online 0 true, .sent 0 none, .answer 0 .done]

def awaited : Dispatch :=
  { taskId := "task", serverId := "00000000-0000-0000-0000-0000000000a1",
    createdAt := "2026-01-01T00:00:00+00:00", phase := .await, dropped := false }

theorem lookup_awaited :
    (Transition.run State.step initial awaitedDispatch).dispatches.lookup 0 = some awaited := by
  decide +kernel

def writtenBytewise (stdout stderr : String) : Written stdout stderr :=
  { code := some 1
    out := .bytewise stdout (by decide)
    err := .bytewise stderr (by decide) }

theorem stored_output_reported_short :
    ∃ row, (Transition.run State.step initial (awaitedDispatch ++
        [.received 0 (writtenBytewise "out" "err").result 5, .answer 0 .done])).runs.lookup 0 =
          some row ∧
      OutputReported (writtenBytewise "out" "err") row.outputTruncated row.error :=
  (stored_output_reported_iff awaitedDispatch 0 awaited lookup_awaited rfl rfl
    (writtenBytewise "out" "err") 5).mpr (.inl (by decide +kernel))

def repeated (n : ℕ) : String := String.ofList (List.replicate n 'a')

theorem len_repeated (n : ℕ) : Text.len (repeated n) = n := by
  unfold repeated
  rw [len_ofList]
  induction n with
  | zero => rfl
  | succ n ih =>
    rw [List.replicate_succ, encode_cons, List.length_append, ih, String.length_utf8EncodeChar]
    exact Nat.add_comm 1 n

theorem truncate_repeated (n m : ℕ) : truncate (repeated m) n = repeated (min n m) := by
  have htake : takeBytes n (List.replicate m 'a') = List.replicate (min n m) 'a' := by
    induction m generalizing n with
    | zero => rw [Nat.min_zero]; rfl
    | succ m ih =>
      cases n with
      | zero => rw [Nat.zero_min]; rfl
      | succ n =>
        have hsize : 'a'.utf8Size = 1 := rfl
        rw [List.replicate_succ, takeBytes, hsize, if_pos (Nat.le_add_left 1 n),
          Nat.add_sub_cancel, ih, Nat.succ_min_succ, List.replicate_succ]
  unfold truncate repeated
  rw [String.toList_ofList, htake]

theorem agent_cut_not_reported :
    OutputCut (writtenBytewise (repeated 65537) "err") ∧
    retainedStderr (writtenBytewise (repeated 65537) "err") = "err" ∧
    ∃ row, (Transition.run State.step initial (awaitedDispatch ++
        [.received 0 (writtenBytewise (repeated 65537) "err").result 5,
          .answer 0 .done])).runs.lookup 0 = some row ∧
      row.outputTruncated = false ∧ row.error = some "output truncated at 65536 bytes" := by
  have hlong : sendTaskMaxOutputBytes < Text.len (repeated 65537) := by
    rw [len_repeated]
    decide
  have hinside : ¬ (CutInsideCharacter (repeated 65537) ∨ CutInsideCharacter "err") := by
    rintro (⟨-, h, -⟩ | ⟨h, -⟩)
    · rw [truncate_repeated, len_repeated] at h
      exact absurd h (by decide)
    · exact absurd h (by decide +kernel)
  obtain ⟨hflag, herror⟩ :=
    received_of_lt (writtenBytewise (repeated 65537) "err") 5 (.inl hlong)
  refine ⟨(outputCut_iff _).mpr (.inl hlong), retainedStderr_of_le _ (by decide +kernel), ?_⟩
  obtain ⟨row, hlookup, htruncated, hstored⟩ := lookup_received_answer lookup_awaited rfl rfl
    (by decide +kernel) (writtenBytewise (repeated 65537) "err").result 5
  rw [Transition.run_append]
  refine ⟨row, hlookup, ?_, ?_⟩
  · rw [htruncated, ← Bool.not_eq_true, hflag]
    exact hinside
  · rw [hstored, herror]
    decide +kernel

end XLStatus.Tasks

import XLStatus.Lib.Utf8
import XLStatus.Transfers.TokensDefs

/-! The agent's shell task: what it keeps of a command's output, and the result it sends. -/

namespace XLStatus.Agent.Shell

open List

open Transfers (TaskResult TaskOutcome)

def shellDefaultOutputMaxBytes : ℕ := 64 * 1024
def shellMaxOutputBytes : ℕ := 64 * 1024
def agentShellDefaultOutputMaxBytes : ℕ := 64 * 1024
def agentShellOutputMaxBytes : ℕ := 64 * 1024

def bufferBytes : ℕ := 8192

def boundedOutputMaxBytes (value : ℕ) : ℕ :=
  if value = 0 then shellDefaultOutputMaxBytes else min value shellMaxOutputBytes

def shellTaskOutputMaxBytes (value : ℕ) : ℕ :=
  if value = 0 then agentShellDefaultOutputMaxBytes else min value agentShellOutputMaxBytes

def collectLoop (maxBytes : ℕ) : List (List UInt8) → List UInt8 → Bool → List UInt8 × Bool
  | [], output, truncated => (output, truncated)
  | buffer :: reads, output, truncated =>
    if buffer.isEmpty then (output, truncated)
    else
      let retainedBytes := min (maxBytes - output.length) buffer.length
      collectLoop maxBytes reads (output ++ buffer.take retainedBytes)
        (truncated || retainedBytes < buffer.length)

def collectOutput (reads : List (List UInt8)) (maxBytes : ℕ) : List UInt8 × Bool :=
  collectLoop maxBytes reads [] false

structure Exit where
  code : Option Int32
  stdout : List (List UInt8)
  stderr : List (List UInt8)

structure ShellResult where
  exitCode : Int32
  stdout : List UInt8
  stderr : List UInt8
  outputTruncated : Bool

/-- `execute_shell_command`, given how the command went: it is refused, cannot be run, does not
end in time, or ends. -/
def executeShellCommand (command : Except String Exit) (maxOutputBytes : ℕ) :
    Except String ShellResult := do
  let exit ← command
  let stdout := collectOutput exit.stdout (boundedOutputMaxBytes maxOutputBytes)
  let stderr := collectOutput exit.stderr (boundedOutputMaxBytes maxOutputBytes)
  pure
    { exitCode := exit.code.getD (-1), stdout := stdout.1, stderr := stderr.1,
      outputTruncated := stdout.2 || stderr.2 }

def truncationMessage (maxOutputBytes : ℕ) : String :=
  "output truncated at " ++ toString maxOutputBytes ++ " bytes"

def runShellCommand (disableCommandExecute : Bool) (maxOutputBytes : ℕ)
    (command : Except String Exit) : TaskResult :=
  if disableCommandExecute then
    { status := .failure, exitCode := 126, stdout := "", stderr := "",
      error := "command execution disabled by agent policy" }
  else
    let maxOutputBytes := shellTaskOutputMaxBytes maxOutputBytes
    match executeShellCommand command maxOutputBytes with
    | .ok out =>
      { status := if out.exitCode = 0 then .success else .failure
        exitCode := out.exitCode
        stdout := Utf8.fromUtf8Lossy out.stdout
        stderr := Utf8.fromUtf8Lossy out.stderr
        error := if out.outputTruncated then truncationMessage maxOutputBytes else "" }
    | .error error =>
      { status := .failure, exitCode := 0, stdout := "", stderr := "", error }

section CollectOutput

variable (maxBytes : ℕ)

theorem collectLoop_eq {reads : List (List UInt8)} (hreads : ∀ buffer ∈ reads, buffer ≠ [])
    (before : List UInt8) :
    collectLoop maxBytes reads (before.take maxBytes) (maxBytes < before.length) =
      ((before ++ reads.flatten).take maxBytes,
        decide (maxBytes < (before ++ reads.flatten).length)) := by
  induction reads generalizing before with
  | nil => simp [collectLoop]
  | cons buffer reads ih =>
    have hbuffer : buffer.isEmpty = false := by
      simpa using hreads buffer mem_cons_self
    have hkept : before.take maxBytes ++
        buffer.take (min (maxBytes - (before.take maxBytes).length) buffer.length) =
          (before ++ buffer).take maxBytes := by
      rw [take_append, ← take_take, take_length]
      congr 2
      rw [length_take]
      omega
    have hnoticed : (decide (maxBytes < before.length) ||
        decide (min (maxBytes - (before.take maxBytes).length) buffer.length < buffer.length)) =
          decide (maxBytes < (before ++ buffer).length) := by
      rw [← Bool.decide_or, decide_eq_decide, length_take, length_append]
      have := length_pos_of_ne_nil (hreads buffer mem_cons_self)
      omega
    rw [collectLoop, hbuffer]
    simp only [Bool.false_eq_true, if_false]
    rw [hkept, hnoticed, ih fun b hb => hreads b (mem_cons_of_mem _ hb), flatten_cons,
      append_assoc]

theorem collectOutput_pieces {s : String} {size : ℕ} (p : Utf8.Pieces s size) :
    collectOutput p.pieces maxBytes =
      ((Text.bytes s).take maxBytes, decide (maxBytes < Text.len s)) := by
  have h := collectLoop_eq maxBytes p.ne_nil []
  rw [nil_append, p.flatten_eq, Text.length_bytes] at h
  rw [← h]
  simp [collectOutput]

end CollectOutput

end XLStatus.Agent.Shell

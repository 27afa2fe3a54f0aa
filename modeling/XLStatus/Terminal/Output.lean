import XLStatus.Lib.JsonText
import XLStatus.Terminal.SocketDefs

/-! The output of a shell on its way to the browser: the reader of the terminal gives the agent
pieces of bytes, each becomes the text of a JSON message in a frame of its own, and the server
reads the frames one by one. -/

namespace XLStatus.Terminal

open Shared Grpc Agent.Io Utf8 JsonText List
open Transition (run run_cons)

def readBufferBytes : ℕ := 8192

def tooLarge : TerminalServerMessage := .error "terminal output frame is too large"

def outputJson (data : String) : String :=
  "\x7b\"type\":\"output\",\"data\":\"" ++ String.ofList (data.toList.flatMap escapeChar) ++
    "\"\x7d"

/-- `serde_json` writes the output message compactly and reads it back as itself. -/
structure CodesOutput (codec : Codec) (data : String) : Prop where
  encode : codec.encodeTerminal (.output data) = Text.bytes (outputJson data)
  decode : codec.decodeTerminal (codec.encodeTerminal (.output data)) = some (.output data)

theorem len_outputJson_le (l : List UInt8) :
    Text.len (outputJson (fromUtf8Lossy l)) ≤ 6 * l.length + 27 := by
  have hescaped : Text.len (String.ofList ((fromUtf8Lossy l).toList.flatMap escapeChar)) ≤
      6 * l.length := by
    unfold fromUtf8Lossy
    rw [len_ofList, String.toList_ofList, length_encode_flatMap_escapeChar]
    exact sum_map_decodeLossy_le _ 6 length_encode_escapeChar_le (by decide) l
  unfold outputJson Text.len at *
  rw [String.utf8ByteSize_append, String.utf8ByteSize_append]
  have hopen : "\x7b\"type\":\"output\",\"data\":\"".utf8ByteSize = 25 := by decide +kernel
  have hclose : "\"\x7d".utf8ByteSize = 2 := by decide +kernel
  omega

theorem len_fromUtf8Lossy_le (l : List UInt8) : Text.len (fromUtf8Lossy l) ≤ 3 * l.length := by
  unfold fromUtf8Lossy
  rw [len_ofList, length_encode_eq_sum]
  refine sum_map_decodeLossy_le Char.utf8Size 3 (fun c => ?_) (by decide) l
  omega

def outputFrames (codec : Codec) (agentId : AgentId) : OutputLoop → List (List UInt8) → List IoFrame
  | _, [] => []
  | loop, chunk :: chunks =>
    ioRawDataFrame agentId loop.streamId loop.sequence
        (codec.encodeTerminal (.output (fromUtf8Lossy chunk))) ::
      outputFrames codec agentId { loop with sequence := saturatingAdd loop.sequence 1 } chunks

def outputEvents (n : ℕ) (chunks : List (List UInt8)) : List SessionEvent :=
  chunks.map fun chunk => .terminalOutput n (fromUtf8Lossy chunk)

def sentOutput (env : Env) (a : Agent.Io.Session) (n : ℕ) (chunks : List (List UInt8)) :
    List IoFrame :=
  (run (Agent.Io.Session.step env.codec env.agentId) a (outputEvents n chunks)).sent.drop
    a.sent.length

variable {a : Agent.Io.Session} {loop : OutputLoop} {n : ℕ}

theorem sent_outputEvents (codec : Codec) (agentId : AgentId) (hloop : a.outputLoops n = some loop)
    (chunks : List (List UInt8)) :
    (run (Agent.Io.Session.step codec agentId) a (outputEvents n chunks)).sent =
      a.sent ++ outputFrames codec agentId loop chunks := by
  induction chunks generalizing a loop with
  | nil => exact (append_nil _).symm
  | cons chunk chunks ih =>
    have hstep : Agent.Io.Session.step codec agentId a (.terminalOutput n (fromUtf8Lossy chunk)) =
        { a with
          outputLoops := Function.update a.outputLoops n
            (some { loop with sequence := saturatingAdd loop.sequence 1 }) }.send
          (ioRawDataFrame agentId loop.streamId loop.sequence
            (codec.encodeTerminal (.output (fromUtf8Lossy chunk)))) := by
      show a.terminalOutput codec agentId n (fromUtf8Lossy chunk) = _
      unfold Agent.Io.Session.terminalOutput
      rw [hloop]
    rw [outputEvents, map_cons, run_cons, hstep]
    refine (ih (Function.update_self n _ a.outputLoops)).trans ?_
    unfold Agent.Io.Session.send
    rw [List.append_assoc, outputFrames, singleton_append]

theorem sentOutput_eq (env : Env) (hloop : a.outputLoops n = some loop)
    (chunks : List (List UInt8)) :
    sentOutput env a n chunks = outputFrames env.codec env.agentId loop chunks := by
  unfold sentOutput
  rw [sent_outputEvents env.codec env.agentId hloop, drop_left]

theorem mapAgentFrame_output (env : Env) {chunk : List UInt8} (streamId : String)
    (sequence : UInt64) (hchunk : chunk.length ≤ readBufferBytes)
    (hcodec : CodesOutput env.codec (fromUtf8Lossy chunk)) :
    mapAgentFrame env (ioRawDataFrame env.agentId streamId sequence
      (env.codec.encodeTerminal (.output (fromUtf8Lossy chunk)))) =
        some (.output (fromUtf8Lossy chunk)) := by
  have hbytes : chunk.length ≤ 8192 := hchunk
  have hframe : ¬ (env.codec.encodeTerminal (.output (fromUtf8Lossy chunk))).length >
      terminalMaxAgentFrameBytes := by
    have hjson := len_outputJson_le chunk
    rw [hcodec.encode, Text.length_bytes]
    unfold terminalMaxAgentFrameBytes
    omega
  have htext : limitTerminalText (fromUtf8Lossy chunk) terminalMaxAgentFrameBytes =
      fromUtf8Lossy chunk := by
    refine if_pos ?_
    have hlen := len_fromUtf8Lossy_le chunk
    unfold terminalMaxAgentFrameBytes
    omega
  unfold mapAgentFrame ioRawDataFrame
  simp only [if_neg hframe, hcodec.decode, htext]

theorem map_mapAgentFrame_outputFrames (env : Env) (loop : OutputLoop)
    {chunks : List (List UInt8)} (hchunks : ∀ chunk ∈ chunks, chunk.length ≤ readBufferBytes)
    (hcodec : ∀ chunk ∈ chunks, CodesOutput env.codec (fromUtf8Lossy chunk)) :
    (outputFrames env.codec env.agentId loop chunks).map (mapAgentFrame env) =
      chunks.map fun chunk => some (.output (fromUtf8Lossy chunk)) := by
  induction chunks generalizing loop with
  | nil => rfl
  | cons chunk chunks ih =>
    rw [outputFrames, map_cons, map_cons,
      mapAgentFrame_output env _ _ (hchunks chunk mem_cons_self)
        (hcodec chunk mem_cons_self),
      ih _ (fun c hc => hchunks c (mem_cons_of_mem _ hc))
        fun c hc => hcodec c (mem_cons_of_mem _ hc)]

def outputText : List (Option TerminalServerMessage) → String
  | [] => ""
  | some (.output data) :: messages => data ++ outputText messages
  | _ :: messages => outputText messages

theorem toList_outputText (chunks : List (List UInt8)) :
    (outputText (chunks.map fun chunk => some (.output (fromUtf8Lossy chunk)))).toList =
      chunks.flatMap decodeLossy := by
  induction chunks with
  | nil => rfl
  | cons chunk chunks ih =>
    rw [map_cons, outputText, String.toList_append, ih, flatMap_cons]
    unfold fromUtf8Lossy
    rw [String.toList_ofList]

/-- The text of a stream of output reaches the browser, and no frame of it is refused as too
large, exactly if no piece the reader gives begins inside a character. -/
theorem output_text_iff (env : Env) (a : Agent.Io.Session) (n : ℕ) (loop : OutputLoop)
    (hloop : a.outputLoops n = some loop) (s : String) (p : Pieces s readBufferBytes)
    (hcodec : ∀ chunk ∈ p.pieces, CodesOutput env.codec (fromUtf8Lossy chunk)) :
    (outputText ((sentOutput env a n p.pieces).map (mapAgentFrame env)) = s ∧
        ∀ frame ∈ sentOutput env a n p.pieces, mapAgentFrame env frame ≠ some tooLarge) ↔
      ∀ chunk ∈ p.pieces, ∀ b ∈ chunk.head?, isContinuation b = false := by
  have hmap := map_mapAgentFrame_outputFrames env loop p.length_le hcodec
  have hfits : ∀ frame ∈ outputFrames env.codec env.agentId loop p.pieces,
      mapAgentFrame env frame ≠ some tooLarge := by
    intro frame hframe heq
    have hmem := mem_map_of_mem (f := mapAgentFrame env) hframe
    rw [hmap, heq] at hmem
    obtain ⟨chunk, -, hchunk⟩ := mem_map.mp hmem
    cases hchunk
  rw [sentOutput_eq env hloop, and_iff_left hfits, hmap, ← String.toList_inj, toList_outputText]
  exact flatMap_decodeLossy_eq_iff (p.flatten_eq.trans (encode_toList s).symm)

namespace Sample

def outputCodec (texts : List String) : Codec where
  encodeNat _ := []
  decodeNat _ := none
  encodeTerminal
    | .output data => Text.bytes (outputJson data)
    | _ => []
  decodeTerminal bytes :=
    (texts.find? fun data => Text.bytes (outputJson data) = bytes).map .output
  parseUuid _ := none

def outputEnv (texts : List String) : Env where
  codec := outputCodec texts
  socketCodec := ⟨fun _ => none, fun _ => none, fun _ => none, fromUtf8Lossy⟩
  agentId := ⟨"0190a6f4-2b1c-7c3d-8e4f-00000000000a", canonical_v7a⟩
  sessionId := "0190a6f4-2b1c-7c3d-8e4f-00000000000c"
  cols := 80
  rows := 24

def outputAgent : Agent.Io.Session :=
  { Agent.Io.Session.init false false with
    outputLoops := fun _ => some ⟨"0190a6f4-2b1c-7c3d-8e4f-00000000000c", 1⟩ }

end Sample

theorem split_character_replaced :
    [[0xC3], [0xA9]].flatten = Text.bytes "é" ∧
    CodesOutput (Sample.outputEnv ["\uFFFD"]).codec (fromUtf8Lossy [0xC3]) ∧
    CodesOutput (Sample.outputEnv ["\uFFFD"]).codec (fromUtf8Lossy [0xA9]) ∧
    outputText ((sentOutput (Sample.outputEnv ["\uFFFD"]) Sample.outputAgent 0
      [[0xC3], [0xA9]]).map (mapAgentFrame (Sample.outputEnv ["\uFFFD"]))) = "\uFFFD\uFFFD" :=
  ⟨by decide +kernel, ⟨rfl, by decide +kernel⟩, ⟨rfl, by decide +kernel⟩, by decide +kernel⟩

def wholeCharacter : Pieces "\té" readBufferBytes where
  pieces := [[0x09], [0xC3, 0xA9]]
  ne_nil := by decide
  length_le := by decide
  flatten_eq := by decide +kernel

theorem output_text_whole :
    outputText ((sentOutput (Sample.outputEnv ["\t", "é"]) Sample.outputAgent 0
      wholeCharacter.pieces).map (mapAgentFrame (Sample.outputEnv ["\t", "é"]))) = "\té" := by
  refine ((output_text_iff (Sample.outputEnv ["\t", "é"]) Sample.outputAgent 0 _ rfl "\té"
    wholeCharacter ?_).mpr (by decide +kernel)).1
  intro chunk hchunk
  obtain rfl | rfl : chunk = [0x09] ∨ chunk = [0xC3, 0xA9] := by
    simpa [wholeCharacter] using hchunk
  · exact ⟨rfl, by decide +kernel⟩
  · exact ⟨rfl, by decide +kernel⟩

end XLStatus.Terminal

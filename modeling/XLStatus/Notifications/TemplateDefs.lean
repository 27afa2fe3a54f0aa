import XLStatus.Lib.Checked
import XLStatus.Lib.Find
import XLStatus.Lib.HashMap
import XLStatus.Lib.Percent

/-! Notification templates: the texts in which the values of a message are put in place of
placeholders, and the escaping of those values. -/

namespace XLStatus.Notifications

open Checked Find JsonText Utf8
open Text (len stripPrefix)

def notificationMaxRenderedUrlBytes : ℕ := 4096
def notificationMaxRenderedBodyBytes : ℕ := 128 * 1024

inductive NotificationSeverity where
  | info
  | warning
  | error
  | critical
  deriving DecidableEq, Repr

def NotificationSeverity.debug : NotificationSeverity → String
  | .info => "Info"
  | .warning => "Warning"
  | .error => "Error"
  | .critical => "Critical"

def NotificationSeverity.text : NotificationSeverity → String
  | .info => "info"
  | .warning => "warning"
  | .error => "error"
  | .critical => "critical"

structure NotificationMessage where
  title : String
  message : String
  severity : NotificationSeverity
  timestamp : String
  metadata : HashMap String String

def messageJson (message : NotificationMessage) : String :=
  let entries := message.metadata.entries.map fun e => stringJson e.1 ++ ":" ++ stringJson e.2
  "\x7b\"title\":" ++ stringJson message.title ++ ",\"message\":" ++ stringJson message.message ++
    ",\"severity\":" ++ stringJson message.severity.text ++
    ",\"timestamp\":" ++ stringJson message.timestamp ++
    ",\"metadata\":\x7b" ++ ",".intercalate entries ++ "\x7d\x7d"

def sizeError (field : String) (minBytes maxBytes : ℕ) : String :=
  field ++ " must be between " ++ toString minBytes ++ " and " ++ toString maxBytes ++ " bytes"

def ensureTextSize (value : String) (minBytes maxBytes : ℕ) (field : String) :
    Except String Unit :=
  ensure (!decide (len value < minBytes ∨ maxBytes < len value))
    (sizeError field minBytes maxBytes)

def appendBounded (out segment : List Char) (maxBytes : ℕ) (field : String) :
    Except String (List Char) :=
  if maxBytes < (encode out).length + (encode segment).length then
    .error (sizeError field 0 maxBytes)
  else .ok (out ++ segment)

def escapeJsonTemplateValue (value : String) : List Char :=
  ((stringJson value).toList.drop 1).dropLast

def escapeUrlComponentValue (value : String) : List Char :=
  (Text.bytes value).flatMap Percent.encodeByte

def openMark : List Char := ['\x7b', '\x7b']
def closeMark : List Char := ['\x7d', '\x7d']

def replacement (message : NotificationMessage) (key : List Char) : Option String :=
  match String.ofList key with
  | "title" => some message.title
  | "message" => some message.message
  | "severity" => some message.severity.debug
  | "timestamp" => some message.timestamp
  | key => (stripPrefix key "metadata.").bind message.metadata.lookup

section Render

variable (message : NotificationMessage) (maxBytes : ℕ) (field : String)
  (escaper : String → List Char)

def renderRest (rendered rest : List Char) : Except String (List Char) :=
  match _hopen : find openMark rest with
  | none => appendBounded rendered rest maxBytes field
  | some (before, afterOpen) => do
    let rendered ← appendBounded rendered before maxBytes field
    match _hclose : find closeMark afterOpen with
    | none =>
      let rendered ← appendBounded rendered (openMark ++ afterOpen) maxBytes field
      appendBounded rendered [] maxBytes field
    | some (key, after) =>
      let rendered ← match replacement message key with
        | some val => appendBounded rendered (escaper val) maxBytes field
        | none => appendBounded rendered (openMark ++ key ++ closeMark) maxBytes field
      renderRest rendered after
termination_by rest.length
decreasing_by
  exact (length_lt_of_find (by decide) _hclose).trans (length_lt_of_find (by decide) _hopen)

def renderValueTemplateLimitedWithEscaper (template : String) : Except String String := do
  let rendered ← renderRest message maxBytes field escaper [] template.toList
  ensureTextSize (String.ofList rendered) 0 maxBytes field
  pure (String.ofList rendered)

end Render

def renderMessage (message : NotificationMessage) : Except String String := do
  let body := messageJson message
  ensureTextSize body 0 notificationMaxRenderedBodyBytes "notification rendered body"
  pure body

def renderTemplate (template : String) (message : NotificationMessage) : Except String String :=
  if Text.trim template = "" then renderMessage message
  else renderValueTemplateLimitedWithEscaper message notificationMaxRenderedBodyBytes
    "notification rendered body" escapeJsonTemplateValue template

def renderFormTemplate (template : String) (message : NotificationMessage) :
    Except String String :=
  if Text.trim template = "" then renderMessage message
  else renderValueTemplateLimitedWithEscaper message notificationMaxRenderedBodyBytes
    "notification rendered body" escapeUrlComponentValue template

def renderUrlTemplate (template : String) (message : NotificationMessage) :
    Except String String :=
  renderValueTemplateLimitedWithEscaper message notificationMaxRenderedUrlBytes
    "notification rendered url" escapeUrlComponentValue template

end XLStatus.Notifications

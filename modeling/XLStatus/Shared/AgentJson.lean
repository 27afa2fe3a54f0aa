import XLStatus.Lib.Text

/-! The JSON documents kept with an agent are read only within their limits. -/

namespace XLStatus.Shared

def agentDashboardMetadataJsonMaxBytes : ℕ := 16 * 1024
def agentTelemetryJsonMaxBytes : ℕ := 256 * 1024

section

variable {T : Type} (fromStr : String → Option T)

def parseBoundedAgentJson (value : Option String) (maxBytes : ℕ) : Option T := do
  let value ← value
  if Text.len value > maxBytes then none
  else
    let value := Text.trim value
    if value = "" || Text.len value > maxBytes then none else fromStr value

def parseDashboardMetadataJson (value : Option String) : Option T :=
  parseBoundedAgentJson fromStr value agentDashboardMetadataJsonMaxBytes

def parseAgentTelemetryJson (value : Option String) : Option T :=
  parseBoundedAgentJson fromStr value agentTelemetryJsonMaxBytes

end

theorem parseBoundedAgentJson_of_trim {T : Type} (fromStr : String → Option T) {text : String}
    {maxBytes : ℕ} (htrim : Text.trim text = text) (hne : text ≠ "")
    (hlen : Text.len text ≤ maxBytes) :
    parseBoundedAgentJson fromStr (some text) maxBytes = fromStr text := by
  simp [parseBoundedAgentJson, htrim, hne, not_lt.mpr hlen]

end XLStatus.Shared

-- SUMMARY: Settings are read back from their JSON text, with the time limit in whole seconds.
import FunctionHost.Proofs.Json.Reading
import FunctionHost.Proofs.Settings.Load
import FunctionHost.Proofs.Time.Span

/-! # Settings as text and back

The text of settings holds everything but the part of the time limit that lies within a second. So
the settings that are read back have the same text, and settings whose time limit is a whole number
of seconds are read back as they are. The environment only ever gives such settings. -/

namespace FunctionHost

theorem Time.Span.toNanos_truncated (s : Time.Span) :
    s.truncated.toNanos = s.toNanos / 1000000000 * 1000000000 := by
  have fraction := s.nanos.isLt
  rw [truncated, toNanos_ofSeconds, toNanos]
  omega

namespace Settings

/-- Settings with their time limit cut to whole seconds. -/
def truncated (s : Settings) : Settings :=
  { s with timeout := s.timeout.truncated }

theorem ofText?_toText (s : Settings) : ofText? s.toText = some s.truncated := by
  rw [ofText?, toText, Json.parse?_render]
  exact settings?_toJson s

theorem toText_truncated (s : Settings) : s.truncated.toText = s.toText := rfl

/-- An environment gives a time limit of whole seconds, and one that is accepted. -/
theorem exists_timeout_of_load {env : Environment} {s : Settings} (h : load env = .ok s) :
    ∃ seconds : UInt64, seconds.toNat ≤ maxTimeout ∧ s.timeout = .ofSeconds seconds := by
  have loaded : loadTimeout env = .ok s.timeout := (load_eq_ok_iff.1 h).timeout
  unfold loadTimeout at loaded
  split at loaded
  · next raw _ =>
    cases parsed : parseTimeout raw with
    | error p =>
      rw [parsed] at loaded
      cases loaded
    | ok seconds =>
      have accepted := parseTimeout_le parsed
      have fits : seconds < UInt64.size := Nat.lt_of_le_of_lt accepted (by decide)
      rw [parsed] at loaded
      refine ⟨UInt64.ofNat seconds, ?_, (Except.ok.inj loaded).symm⟩
      have hread : (UInt64.ofNat seconds).toNat = seconds := UInt64.toNat_ofNat_of_lt fits
      rwa [hread]
  · exact ⟨defaultTimeout, by decide, (Except.ok.inj loaded).symm⟩

theorem truncated_of_load {env : Environment} {s : Settings} (h : load env = .ok s) :
    s.truncated = s := by
  obtain ⟨seconds, -, timeout⟩ := exists_timeout_of_load h
  have whole : s.timeout.truncated = s.timeout := by
    rw [timeout]
    rfl
  rw [truncated, whole]

/-- Whatever settings are written, they are read back: the same in every other respect, and with as
    many whole seconds as the time limit has. What is read back has the same text, and if the
    settings came from an environment, it is just these settings. -/
theorem read_back_truncated (s : Settings) :
    ∃ t, ofText? s.toText = some t ∧ { t with timeout := s.timeout } = s ∧
      t.timeout.toNanos = s.timeout.toNanos / 1000000000 * 1000000000 ∧ t.toText = s.toText ∧
      ∀ env, load env = .ok s → t = s :=
  ⟨s.truncated, ofText?_toText s, rfl, s.timeout.toNanos_truncated, toText_truncated s,
    fun _ => truncated_of_load⟩

/-- Entries with a time limit that is written at length, and texts that need escapes. -/
def escapedEntries : List String :=
  ["AWS_LAMBDA_FUNCTION_TIMEOUT=+0042", "_HANDLER=a\"b\\c\n", "AWS_SESSION_TOKEN=\x01😀"]

/-- The settings that they lead to. -/
def escapedSettings : Settings where
  timeout := .ofSeconds 42
  version := "$LATEST"
  memory := "3008"
  name := "test_function"
  handler := some "a\"b\\c\n"
  credentials := ⟨none, none, some "\x01😀"⟩

theorem read_back_escaped :
    load (.ofEntries escapedEntries) = .ok escapedSettings ∧
    ofText? escapedSettings.toText = some escapedSettings := by
  have loaded : load (.ofEntries escapedEntries) = .ok escapedSettings := by decide +kernel
  obtain ⟨t, read, -, -, -, same⟩ := read_back_truncated escapedSettings
  obtain rfl := same _ loaded
  exact ⟨loaded, read⟩

end Settings

end FunctionHost

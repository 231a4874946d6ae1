-- SUMMARY: The layers of settings are the document of the settings that come out of them.
import FunctionHost.Settings.Layers
import Mathlib.Data.List.Nodup

/-! # What the layers give

When a document only has names of the document below it, laying it over that one replaces values
and leaves the names as they are. The two layers of settings are of this kind: whatever the
environment gives, they are the document of the settings that come out. A document of settings can
always be read, so resolving settings in layers fails only where the time limit is refused. -/

namespace FunctionHost

namespace Json

/-- A value with the one above it laid over it, if there is one. -/
def under (lower : Json) (upper : Option Json) : Json :=
  upper.elim lower lower.overlay

variable {lower : List (String × Json)} {given : List (String × Option Json)} {name : String}

theorem not_mem_names_givenMembers (h : name ∉ given.map Prod.fst) :
    ∀ member ∈ givenMembers given, member.1 ≠ some name := by
  intro member hmember
  obtain ⟨⟨other, value⟩, hgiven, hvalue⟩ := List.mem_filterMap.1 hmember
  obtain ⟨v, -, rfl⟩ := Option.map_eq_some_iff.1 hvalue
  rintro hname
  exact h (List.mem_map.2 ⟨_, hgiven, Option.some.inj hname⟩)

/-- Members are laid over members of the same names by laying each value that is given over the
    value of its name. -/
theorem overlayMembers_given (names : lower.map Prod.fst = given.map Prod.fst)
    (distinct : (given.map Prod.fst).Nodup) :
    overlayMembers (lower.map fun (name, value) => (some name, value)) (givenMembers given) =
      List.zipWith (fun below above => (some below.1, below.2.under above.2)) lower given := by
  induction lower generalizing given with
  | nil =>
    obtain rfl : given = [] := List.map_eq_nil_iff.1 names.symm
    rfl
  | cons below lower ih =>
    obtain ⟨name, lowest⟩ := below
    cases given with
    | nil => cases names
    | cons above given =>
      obtain ⟨other, value⟩ := above
      obtain ⟨heq, hnames⟩ := List.cons.inj names
      obtain rfl : name = other := heq
      obtain ⟨fresh, hrest⟩ := List.nodup_cons.1 distinct
      have absent := not_mem_names_givenMembers fresh
      rw [List.map_cons, List.zipWith_cons_cons, ← ih hnames hrest]
      cases value with
      | none =>
        -- Nothing lies above this member, so the rest of the layer does.
        have hskip : givenMembers ((name, none) :: given) = givenMembers given := rfl
        have hfind : (givenMembers given).find? (fun member => member.1 == some name) = none := by
          simpa [List.find?_eq_none] using absent
        simp only [overlayMembers, hskip, hfind]
        rfl
      | some v =>
        have htop : givenMembers ((name, some v) :: given) =
            (some name, v) :: givenMembers given := rfl
        have hfilter : (givenMembers given).filter (fun member => member.1 != some name) =
            givenMembers given :=
          List.filter_eq_self.2 fun member hmember => by simpa using absent member hmember
        simp [overlayMembers, htop, hfilter, under]

theorem overlay_ofGiven (names : lower.map Prod.fst = given.map Prod.fst)
    (distinct : (given.map Prod.fst).Nodup) :
    (ofMembers lower).overlay (ofGiven given) =
      ofMembers
        (List.zipWith (fun below above => (below.1, below.2.under above.2)) lower given) := by
  simp only [ofMembers, ofGiven, overlay]
  rw [overlayMembers_given names distinct, List.map_zipWith]

end Json

namespace Settings

open Document (fields? orDefault nullableText? timeout? credentials? settings?)

/-! ## Reading what was written -/

@[simp] theorem nullableText?_ofText? (text : Option String) :
    nullableText? (Json.ofText? text) = some text := by
  cases text <;> rfl

theorem timeout?_ofNat (seconds : UInt64) :
    timeout? (.number (Numeral.ofNat seconds.toNat)) = some (Time.Span.ofSeconds seconds) := by
  simp [timeout?, Numeral.ofNat, Numeral.natural?, seconds.toNat_lt_size]

theorem credentials?_toJson (c : Credentials) : credentials? c.toJson = some c := by
  have fields : fields? ["access_key_id", "secret_access_key", "session_token"] c.toJson =
      some [some (Json.ofText? c.accessKeyId), some (Json.ofText? c.secretAccessKey),
        some (Json.ofText? c.sessionToken)] := rfl
  simp [credentials?, fields, orDefault]

/-- A document of settings is read as the settings that it was written from, but for the part of
    the time limit that lies within a second. -/
theorem settings?_toJson (s : Settings) :
    settings? s.toJson = some { s with timeout := s.timeout.truncated } := by
  have fields : fields? ["function_timeout", "function_version", "memory_size", "function_name",
      "handler", "credentials"] s.toJson =
      some [some (.number (Numeral.ofNat s.timeoutSeconds.toNat)), some (Json.ofText s.version),
        some (Json.ofText s.memory), some (Json.ofText s.name), some (Json.ofText? s.handler),
        some s.credentials.toJson] := rfl
  simp [settings?, fields, orDefault, timeout?_ofNat, credentials?_toJson, Json.ofText, Json.text?,
    timeoutSeconds, Time.Span.truncated]

/-! ## The layers of settings -/

/-- The settings that come out when some are given. -/
def Overrides.resolved (o : Overrides) : Settings where
  timeout := o.timeout.elim default.timeout fun seconds =>
    Time.Span.ofSeconds (UInt64.ofNat seconds)
  version := o.version.getD default.version
  memory := o.memory.getD default.memory
  name := o.name.getD default.name
  handler := o.handler
  credentials := o.credentials

theorem Overrides.resolved_truncated (o : Overrides) :
    { o.resolved with timeout := o.resolved.timeout.truncated } = o.resolved := by
  unfold Overrides.resolved
  cases o.timeout <;> rfl

theorem under_ofText (lower : String) (upper : Option String) :
    (Json.ofText lower).under (upper.map Json.ofText) = Json.ofText (upper.getD lower) := by
  cases upper <;> simp [Json.under, Json.ofText, Json.overlay]

theorem under_null (upper : Option String) :
    Json.null.under (upper.map Json.ofText) = Json.ofText? upper := by
  cases upper <;> simp [Json.under, Json.ofText?, Json.overlay]

theorem overlay_credentials (c : Credentials) :
    Credentials.none.toJson.overlay (Json.ofGiven (givenCredentials c)) = c.toJson := by
  rw [Credentials.toJson, Json.overlay_ofGiven rfl (by simp [givenCredentials])]
  simp [givenCredentials, Credentials.toJson, Credentials.none, Json.ofText?, under_null]

/-- The layers are the document of the settings that come out. -/
theorem overlay_default {o : Overrides} (fits : ∀ seconds ∈ o.timeout, seconds < UInt64.size) :
    default.toJson.overlay o.toJson = o.resolved.toJson := by
  have timeout : (Json.number (Numeral.ofNat default.timeoutSeconds.toNat)).under
      (o.timeout.map fun seconds => .number (Numeral.ofNat seconds)) =
        .number (Numeral.ofNat o.resolved.timeoutSeconds.toNat) := by
    simp only [Overrides.resolved]
    cases given : o.timeout with
    | none => rfl
    | some seconds =>
      have hread : (UInt64.ofNat seconds).toNat = seconds :=
        UInt64.toNat_ofNat_of_lt (fits seconds given)
      simp [Json.under, Json.overlay, timeoutSeconds, Time.Span.ofSeconds, hread]
  have handler : (Json.ofText? default.handler).under (o.handler.map Json.ofText) =
      Json.ofText? o.handler := under_null o.handler
  have credentials : default.credentials.toJson.under
      (some (Json.ofGiven (givenCredentials o.credentials))) = o.credentials.toJson :=
    overlay_credentials o.credentials
  rw [Settings.toJson, Overrides.toJson, Json.overlay_ofGiven rfl (by simp [Overrides.given])]
  simp only [Overrides.given, List.zipWith_cons_cons, List.zipWith_nil_left, timeout, under_ofText,
    handler, credentials]
  rfl

theorem parseTimeout_le {raw : String} {seconds : Nat} (h : parseTimeout raw = .ok seconds) :
    seconds ≤ maxTimeout := by
  unfold parseTimeout at h
  split at h
  · split at h
    · next hle =>
      cases h
      exact hle
    · cases h
  · cases h

theorem overrides_fits {env : Environment} {o : Overrides} (h : overrides env = .ok o) :
    ∀ seconds ∈ o.timeout, seconds < UInt64.size := by
  have htimeout : givenTimeout env = .ok o.timeout := by
    unfold overrides at h
    cases given : givenTimeout env with
    | error p => rw [given] at h; cases h
    | ok timeout => rw [given] at h; cases h; rfl
  intro seconds hseconds
  unfold givenTimeout at htimeout
  split at htimeout
  · next raw _ =>
    cases parsed : parseTimeout raw with
    | error p => rw [parsed] at htimeout; cases htimeout
    | ok accepted =>
      rw [parsed] at htimeout
      have heq : some accepted = o.timeout := Except.ok.inj htimeout
      obtain rfl : accepted = seconds := Option.some.inj (heq.trans hseconds)
      exact Nat.lt_of_le_of_lt (parseTimeout_le parsed) (by decide)
  · rw [← Except.ok.inj htimeout] at hseconds
    cases hseconds

/-- What is given leads to the same settings, whether they are taken from the variables directly or
    from what is given. -/
theorem load_eq_resolved (env : Environment) :
    load env = (overrides env).map Overrides.resolved := by
  unfold load overrides loadTimeout givenTimeout
  cases env.nonEmpty? timeoutVariable with
  | none => rfl
  | some raw =>
    dsimp only
    cases parseTimeout raw <;> rfl

/-- Resolving settings in layers always gives settings, unless the time limit is refused. -/
theorem loadLayered_eq (env : Environment) : loadLayered env = (load env).map some := by
  rw [load_eq_resolved, loadLayered]
  cases given : overrides env with
  | error p => rfl
  | ok o =>
    have resolved : settings? (default.toJson.overlay o.toJson) = some o.resolved := by
      rw [overlay_default (overrides_fits given), settings?_toJson, o.resolved_truncated]
    simp only [Except.map, resolved]

end Settings

end FunctionHost

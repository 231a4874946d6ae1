-- SUMMARY: The settings that entries lead to: the last entry of a variable decides, unless empty.
import FunctionHost.Proofs.Environment
import FunctionHost.Proofs.Settings.Layers

/-! # Settings from entries

For each setting only the last entry of its variable counts. If that entry sets the variable to
more than the empty text, this is the setting, and otherwise the setting keeps its default, even
where an earlier entry was not empty. What the platform defines does not interfere, because it
agrees with the defaults. -/

namespace FunctionHost

namespace Environment

open Dictionary (find?)

/-- The last entry of a variable sets it to a value that is not the empty text. -/
def Chosen (entries : List String) (name value : String) : Prop :=
  LastSets entries name value ∧ value ≠ ""

/-- What entries choose for a variable, if anything. -/
def chosen? (entries : List String) (name : String) : Option String :=
  (find? name (entries.map splitEntry).reverse).filter fun value => !value.isEmpty

/-- The entries of one variable. -/
def entriesOf (name : String) (entries : List String) : List String :=
  entries.filter fun entry => (splitEntry entry).1 == name

variable {entries others : List String} {name value default : String}

theorem chosen?_eq_some_iff : chosen? entries name = some value ↔ Chosen entries name value := by
  simp [chosen?, Chosen, Option.filter_eq_some_iff, find?_eq_some_iff_lastSets]

/-- A variable that the platform does not define has the value that the entries choose. -/
theorem nonEmpty?_ofEntries (undefined : find? name platform.reverse = none) :
    (ofEntries entries).nonEmpty? name = chosen? entries name := by
  rw [nonEmpty?, get?_ofEntries, undefined, Option.or_none, chosen?]

/-- What the platform defines is only seen where it is the default anyway. -/
theorem getD_nonEmpty?_ofEntries (defined : find? name platform.reverse = some default) :
    ((ofEntries entries).nonEmpty? name).getD default = (chosen? entries name).getD default := by
  rw [nonEmpty?, get?_ofEntries, defined, getD_filter_or, chosen?]

theorem find?_entriesOf (name : String) (entries : List String) :
    find? name ((entriesOf name entries).map splitEntry).reverse =
      find? name (entries.map splitEntry).reverse := by
  have hfilter : (entriesOf name entries).map splitEntry =
      (entries.map splitEntry).filter fun pair => pair.1 == name := by
    rw [List.filter_map]
    rfl
  rw [hfilter, ← List.filter_reverse, find?, List.find?_filter, find?]
  congr 2
  funext pair
  cases pair.1 == name <;> rfl

/-- Only the entries of a variable matter for its value. -/
theorem get?_ofEntries_congr (same : entriesOf name others = entriesOf name entries) :
    (ofEntries others).get? name = (ofEntries entries).get? name := by
  rw [get?_ofEntries, get?_ofEntries, ← find?_entriesOf name others, same, find?_entriesOf]

end Environment

namespace Settings

open Environment (Chosen chosen? entriesOf ofEntries)
open Dictionary (find?)

/-! ## The settings that entries lead to -/

/-- A text is what is chosen for a variable, or the default if nothing is. -/
def ChosenOr (entries : List String) (name default value : String) : Prop :=
  Chosen entries name value ∨ (value = default ∧ ∀ other, ¬ Chosen entries name other)

/-- A text that may be missing is what is chosen for a variable. -/
def ChosenOnly (entries : List String) (name : String) (value : Option String) : Prop :=
  ∀ text, value = some text ↔ Chosen entries name text

/-- A handler is what is chosen for the variable of the function or else for the general one. -/
def ChosenHandler (entries : List String) (handler : Option String) : Prop :=
  ∃ own general, ChosenOnly entries "AWS_LAMBDA_FUNCTION_HANDLER" own ∧
    ChosenOnly entries "_HANDLER" general ∧ handler = own.or general

/-- A time limit is the number of seconds that is chosen, or the default if nothing is. -/
def ChosenTimeout (entries : List String) (timeout : Time.Span) : Prop :=
  (∃ raw seconds, Chosen entries timeoutVariable raw ∧ parseTimeout raw = .ok seconds.toNat ∧
    timeout = .ofSeconds seconds) ∨
  (timeout = .ofSeconds 300 ∧ ∀ raw, ¬ Chosen entries timeoutVariable raw)

/-- Settings are those that entries lead to. -/
structure ResolvedFrom (entries : List String) (s : Settings) : Prop where
  timeout : ChosenTimeout entries s.timeout
  version : ChosenOr entries "AWS_LAMBDA_FUNCTION_VERSION" "$LATEST" s.version
  memory : ChosenOr entries "AWS_LAMBDA_FUNCTION_MEMORY_SIZE" "3008" s.memory
  name : ChosenOr entries "AWS_LAMBDA_FUNCTION_NAME" "test_function" s.name
  handler : ChosenHandler entries s.handler
  accessKeyId : ChosenOnly entries "AWS_ACCESS_KEY_ID" s.credentials.accessKeyId
  secretAccessKey : ChosenOnly entries "AWS_SECRET_ACCESS_KEY" s.credentials.secretAccessKey
  sessionToken : ChosenOnly entries "AWS_SESSION_TOKEN" s.credentials.sessionToken

variable {entries : List String} {name fallback value : String} {text : Option String}

theorem chosenOr_iff :
    ChosenOr entries name fallback value ↔ value = (chosen? entries name).getD fallback := by
  unfold ChosenOr
  simp only [← Environment.chosen?_eq_some_iff]
  cases chosen? entries name <;> simp [eq_comm]

theorem chosenOnly_iff : ChosenOnly entries name text ↔ text = chosen? entries name := by
  unfold ChosenOnly
  simp only [← Environment.chosen?_eq_some_iff]
  exact Option.ext_iff.symm

theorem chosenHandler_iff : ChosenHandler entries text ↔
    text = (chosen? entries "AWS_LAMBDA_FUNCTION_HANDLER").or (chosen? entries "_HANDLER") := by
  simp [ChosenHandler, chosenOnly_iff]

/-! ## Loading -/

/-- Settings are those that the variables of an environment say. -/
structure LoadedFrom (env : Environment) (s : Settings) : Prop where
  timeout : loadTimeout env = .ok s.timeout
  version : s.version = (env.nonEmpty? "AWS_LAMBDA_FUNCTION_VERSION").getD default.version
  memory : s.memory = (env.nonEmpty? "AWS_LAMBDA_FUNCTION_MEMORY_SIZE").getD default.memory
  name : s.name = (env.nonEmpty? "AWS_LAMBDA_FUNCTION_NAME").getD default.name
  handler : s.handler =
    (env.nonEmpty? "AWS_LAMBDA_FUNCTION_HANDLER").or (env.nonEmpty? "_HANDLER")
  accessKeyId : s.credentials.accessKeyId = env.nonEmpty? "AWS_ACCESS_KEY_ID"
  secretAccessKey : s.credentials.secretAccessKey = env.nonEmpty? "AWS_SECRET_ACCESS_KEY"
  sessionToken : s.credentials.sessionToken = env.nonEmpty? "AWS_SESSION_TOKEN"

theorem load_eq_ok_iff {env : Environment} {s : Settings} :
    load env = .ok s ↔ LoadedFrom env s := by
  constructor
  · intro h
    unfold load at h
    cases limit : loadTimeout env with
    | error p => rw [limit] at h; cases h
    | ok timeout =>
      rw [limit] at h
      cases h
      exact ⟨limit, rfl, rfl, rfl, rfl, rfl, rfl, rfl⟩
  · rintro ⟨timeout, version, memory, name, handler, accessKeyId, secretAccessKey, sessionToken⟩
    unfold load
    rw [timeout, ← version, ← memory, ← name, ← handler, ← accessKeyId, ← secretAccessKey,
      ← sessionToken]
    rfl

theorem load_eq_error_iff {env : Environment} {p : Problem} :
    load env = .error p ↔ loadTimeout env = .error p := by
  unfold load
  cases loadTimeout env with
  | error q => constructor <;> (intro h; cases h; rfl)
  | ok timeout => exact iff_of_false nofun nofun

/-- Only the variables of the settings matter for what is loaded. -/
theorem load_congr {env other : Environment}
    (h : ∀ name ∈ variableNames, env.nonEmpty? name = other.nonEmpty? name) :
    load env = load other := by
  simp only [variableNames, List.forall_mem_cons] at h
  obtain ⟨timeout, version, memory, name, handler, general, accessKeyId, secretAccessKey,
    sessionToken, -⟩ := h
  simp only [load, loadTimeout, timeout, version, memory, name, handler, general, accessKeyId,
    secretAccessKey, sessionToken]

/-! ## Loading from entries -/

theorem loadTimeout_ofEntries (entries : List String) :
    loadTimeout (ofEntries entries) =
      match chosen? entries timeoutVariable with
      | some raw => (parseTimeout raw).map fun seconds => .ofSeconds (UInt64.ofNat seconds)
      | none => .ok default.timeout := by
  rw [← Environment.nonEmpty?_ofEntries rfl]
  rfl

theorem loadTimeout_eq_error_iff {p : Problem} : loadTimeout (ofEntries entries) = .error p ↔
    ∃ raw, Chosen entries timeoutVariable raw ∧ parseTimeout raw = .error p := by
  simp only [loadTimeout_ofEntries, ← Environment.chosen?_eq_some_iff]
  cases chosen? entries timeoutVariable with
  | none => exact iff_of_false nofun fun ⟨_, chosen, _⟩ => nomatch chosen
  | some raw =>
    simp only [Option.some.injEq, exists_eq_left']
    cases parseTimeout raw <;> simp [Except.map]

theorem loadTimeout_eq_ok_iff {timeout : Time.Span} :
    loadTimeout (ofEntries entries) = .ok timeout ↔ ChosenTimeout entries timeout := by
  simp only [loadTimeout_ofEntries, ChosenTimeout, ← Environment.chosen?_eq_some_iff]
  cases chosen? entries timeoutVariable with
  | none => simp [default, defaultTimeout, eq_comm]
  | some raw =>
    dsimp only
    cases parsed : parseTimeout raw with
    | error p => simp [Except.map, parsed]
    | ok seconds =>
      have fits : seconds < UInt64.size := Nat.lt_of_le_of_lt (parseTimeout_le parsed) (by decide)
      have hread : (UInt64.ofNat seconds).toNat = seconds := UInt64.toNat_ofNat_of_lt fits
      constructor
      · intro h
        exact .inl ⟨raw, UInt64.ofNat seconds, rfl, by rw [parsed, hread], (Except.ok.inj h).symm⟩
      · rintro (⟨raw', seconds', hraw, hparsed, rfl⟩ | ⟨-, unchosen⟩)
        · obtain rfl : raw = raw' := Option.some.inj hraw
          obtain rfl : seconds = seconds'.toNat := Except.ok.inj (parsed.symm.trans hparsed)
          rw [Except.map, UInt64.ofNat_toNat]
        · exact absurd rfl (unchosen raw)

theorem loadedFrom_ofEntries {s : Settings} :
    LoadedFrom (ofEntries entries) s ↔ ResolvedFrom entries s := by
  have undefined {name : String} {text : Option String}
      (h : find? name Environment.platform.reverse = none) :
      text = (ofEntries entries).nonEmpty? name ↔ ChosenOnly entries name text := by
    rw [chosenOnly_iff, Environment.nonEmpty?_ofEntries h]
  have defined {name fallback value : String}
      (h : find? name Environment.platform.reverse = some fallback) :
      value = ((ofEntries entries).nonEmpty? name).getD fallback ↔
        ChosenOr entries name fallback value := by
    rw [chosenOr_iff, Environment.getD_nonEmpty?_ofEntries h]
  have handler : s.handler = ((ofEntries entries).nonEmpty? "AWS_LAMBDA_FUNCTION_HANDLER").or
      ((ofEntries entries).nonEmpty? "_HANDLER") ↔ ChosenHandler entries s.handler := by
    rw [chosenHandler_iff, Environment.nonEmpty?_ofEntries rfl, Environment.nonEmpty?_ofEntries rfl]
  constructor
  · intro h
    exact {
      timeout := loadTimeout_eq_ok_iff.1 h.timeout
      version := (defined rfl).1 h.version
      memory := (defined rfl).1 h.memory
      name := (defined rfl).1 h.name
      handler := handler.1 h.handler
      accessKeyId := (undefined rfl).1 h.accessKeyId
      secretAccessKey := (undefined rfl).1 h.secretAccessKey
      sessionToken := (undefined rfl).1 h.sessionToken }
  · intro h
    exact {
      timeout := loadTimeout_eq_ok_iff.2 h.timeout
      version := (defined rfl).2 h.version
      memory := (defined rfl).2 h.memory
      name := (defined rfl).2 h.name
      handler := handler.2 h.handler
      accessKeyId := (undefined rfl).2 h.accessKeyId
      secretAccessKey := (undefined rfl).2 h.secretAccessKey
      sessionToken := (undefined rfl).2 h.sessionToken }

/-- What entries lead to. Resolving the settings in layers never goes wrong by itself. They are
    refused exactly if a time limit is chosen that is refused, and otherwise they are what is chosen
    for each of their variables. Entries of other variables do not matter, nor does the order of
    entries of different variables. -/
theorem load_ofEntries (entries : List String) :
    loadLayered (ofEntries entries) = (load (ofEntries entries)).map some ∧
    (∀ p, load (ofEntries entries) = .error p ↔
      ∃ raw, Chosen entries timeoutVariable raw ∧ parseTimeout raw = .error p) ∧
    (∀ s, load (ofEntries entries) = .ok s ↔ ResolvedFrom entries s) ∧
    ∀ others, (∀ name ∈ variableNames, entriesOf name others = entriesOf name entries) →
      load (ofEntries others) = load (ofEntries entries) := by
  refine ⟨loadLayered_eq _, fun p => load_eq_error_iff.trans loadTimeout_eq_error_iff,
    fun s => load_eq_ok_iff.trans loadedFrom_ofEntries, fun others same => ?_⟩
  refine load_congr fun name hname => ?_
  rw [Environment.nonEmpty?, Environment.nonEmpty?,
    Environment.get?_ofEntries_congr (same name hname)]

/-- Entries with a variable that is set and then set to the empty text, one without a mark, and one
    with a mark in its value. -/
def mixedEntries : List String :=
  ["AWS_LAMBDA_FUNCTION_NAME=orders", "_HANDLER=app=main", "AWS_LAMBDA_FUNCTION_TIMEOUT=x",
    "AWS_LAMBDA_FUNCTION_NAME=", "AWS_LAMBDA_FUNCTION_HANDLER", "AWS_LAMBDA_FUNCTION_TIMEOUT=+5"]

/-- The same entries of each variable in another order, and one of another variable. -/
def shuffledEntries : List String :=
  ["AWS_LAMBDA_FUNCTION_TIMEOUT=x", "AWS_LAMBDA_FUNCTION_HANDLER",
    "AWS_LAMBDA_FUNCTION_NAME=orders", "AWS_LAMBDA_FUNCTION_TIMEOUT=+5", "HOME=/root",
    "AWS_LAMBDA_FUNCTION_NAME=", "_HANDLER=app=main"]

theorem load_mixedEntries :
    ResolvedFrom mixedEntries
      { default with timeout := .ofSeconds 5, handler := some "app=main" } ∧
    load (ofEntries shuffledEntries) = load (ofEntries mixedEntries) ∧
    (∃ raw, Chosen (mixedEntries.take 3) timeoutVariable raw ∧
      parseTimeout raw = .error (.notANumber "x" .badDigit)) := by
  obtain ⟨-, -, loaded, unmoved⟩ := load_ofEntries mixedEntries
  obtain ⟨-, refused, -, -⟩ := load_ofEntries (mixedEntries.take 3)
  refine ⟨(loaded _).1 ?_, unmoved shuffledEntries ?_, (refused _).1 ?_⟩
  · decide +kernel
  · decide +kernel
  · decide +kernel

end Settings

end FunctionHost

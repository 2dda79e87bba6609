import RowServe.ConfigError
import RowServe.Keyed
import RowServe.Number.Parse

/-!
# Settings

What a service is started with, read from environment variables. Texts are taken as they
are; numbers may have blanks around them.

Results:

* `load_error`: an error names a variable that is set, with its text.
* `load_congr`: variables of other names do not matter.
-/

namespace RowServe

/-- What a service is started with. Times are in milliseconds. -/
structure Settings where
  databaseUrl : String
  maxConnections : Nat
  acquireTimeout : Nat
  statementTimeout : Nat
  bindAddress : String
  resourcesPath : String
  bodyLimit : Nat
  deriving DecidableEq, Repr

namespace Settings

/-- What holds unless a variable says something else. -/
def default : Settings where
  databaseUrl := "postgres://localhost/resources"
  maxConnections := 5
  acquireTimeout := 5000
  statementTimeout := 30000
  bindAddress := "127.0.0.1:3000"
  resourcesPath := "resources"
  bodyLimit := 1048576

/-- The number in a variable, below a bound. -/
def number (env : Keyed String) (key : String) (bound otherwise : Nat) :
    Except ConfigError Nat :=
  match env.find? key with
  | none => .ok otherwise
  | some raw =>
    match Number.unsigned? bound (Text.trim raw) with
    | some n => .ok n
    | none => .error (.environment key raw)

/-- The text in a variable. -/
def text (env : Keyed String) (key otherwise : String) : String :=
  (env.find? key).getD otherwise

/-- The settings that an environment describes. -/
def load (env : Keyed String) : Except ConfigError Settings := do
  return {
    databaseUrl := text env "DATABASE_URL" default.databaseUrl
    maxConnections := ← number env "DB_MAX_CONNECTIONS" (Nat.pow 2 32) default.maxConnections
    acquireTimeout := ← number env "DB_ACQUIRE_TIMEOUT_MS" (Nat.pow 2 64) default.acquireTimeout
    statementTimeout :=
      ← number env "STATEMENT_TIMEOUT_MS" (Nat.pow 2 64) default.statementTimeout
    bindAddress := text env "BIND_ADDR" default.bindAddress
    resourcesPath := text env "RESOURCES_PATH" default.resourcesPath
    bodyLimit := ← number env "BODY_LIMIT_BYTES" (Nat.pow 2 64) default.bodyLimit }

/-- The variables that settings are read from. -/
def variableNames : List String :=
  ["DATABASE_URL", "DB_MAX_CONNECTIONS", "DB_ACQUIRE_TIMEOUT_MS", "STATEMENT_TIMEOUT_MS",
    "BIND_ADDR", "RESOURCES_PATH", "BODY_LIMIT_BYTES"]

theorem number_error {env : Keyed String} {key : String} {bound otherwise : Nat} {e : ConfigError}
    (h : number env key bound otherwise = .error e) :
    ∃ raw, e = .environment key raw ∧ env.find? key = some raw := by
  unfold number at h
  split at h
  · cases h
  · rename_i raw hraw
    split at h
    · cases h
    · exact ⟨raw, (Except.error.inj h).symm, hraw⟩

/-- A failure of two steps is a failure of one of them. -/
theorem fails_bind {α β : Type} {x : Except ConfigError α} {f : α → Except ConfigError β}
    {e : ConfigError} (h : x >>= f = .error e) : x = .error e ∨ ∃ a, f a = .error e := by
  cases x with
  | error _ => exact .inl (congrArg Except.error (Except.error.inj h))
  | ok a => exact .inr ⟨a, h⟩

theorem load_error {env : Keyed String} {e : ConfigError} (h : load env = .error e) :
    ∃ key ∈ variableNames, ∃ raw, e = .environment key raw ∧ env.find? key = some raw := by
  rcases fails_bind h with h | ⟨_, h⟩
  · exact ⟨"DB_MAX_CONNECTIONS", by decide, number_error h⟩
  rcases fails_bind h with h | ⟨_, h⟩
  · exact ⟨"DB_ACQUIRE_TIMEOUT_MS", by decide, number_error h⟩
  rcases fails_bind h with h | ⟨_, h⟩
  · exact ⟨"STATEMENT_TIMEOUT_MS", by decide, number_error h⟩
  rcases fails_bind h with h | ⟨_, h⟩
  · exact ⟨"BODY_LIMIT_BYTES", by decide, number_error h⟩
  · cases h

theorem load_congr {env other : Keyed String}
    (h : ∀ key ∈ variableNames, env.find? key = other.find? key) : load env = load other := by
  have htext (key) (hkey : key ∈ variableNames) (otherwise : String) :
      text env key otherwise = text other key otherwise := by
    unfold text
    rw [h key hkey]
  have hnumber (key) (hkey : key ∈ variableNames) (bound otherwise : Nat) :
      number env key bound otherwise = number other key bound otherwise := by
    unfold number
    rw [h key hkey]
  unfold load
  rw [htext "DATABASE_URL" (by decide), htext "BIND_ADDR" (by decide),
    htext "RESOURCES_PATH" (by decide), hnumber "DB_MAX_CONNECTIONS" (by decide),
    hnumber "DB_ACQUIRE_TIMEOUT_MS" (by decide), hnumber "STATEMENT_TIMEOUT_MS" (by decide),
    hnumber "BODY_LIMIT_BYTES" (by decide)]

end Settings

end RowServe

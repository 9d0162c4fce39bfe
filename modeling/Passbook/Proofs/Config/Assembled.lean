import Mathlib.Tactic.Common
import Passbook.Config.Database

/-!
How the settings of the database are read: the address, given or put together from parts, and the
limits, which do not depend on it.
-/

set_option autoImplicit false

namespace Passbook.Config

namespace Settings

variable {one two : Settings}

theorem get?_cons_self (name value : String) (settings : Settings) :
    get? ((name, value) :: settings) name = some value := by
  simp [get?]

theorem get?_cons_other {name other : String} (different : other ≠ name) (value : String)
    (settings : Settings) :
    get? ((name, value) :: settings) other = settings.get? other := by
  simp only [get?, List.lookup_cons, beq_eq_false_iff_ne.mpr different]

theorem getOr_congr {name : String} (same : one.get? name = two.get? name) (default : String) :
    one.getOr name default = two.getOr name default := by
  rw [getOr, getOr, same]

theorem natural_congr {name : String} (same : one.get? name = two.get? name)
    (default requirement : String) (bits : Nat) :
    one.natural name default requirement bits = two.natural name default requirement bits := by
  rw [natural, natural, getOr_congr same]

theorem flag_congr {name : String} (same : one.get? name = two.get? name) (default : String) :
    one.flag name default = two.flag name default := by
  rw [flag, flag, getOr_congr same]

end Settings

namespace Database

variable {settings one two : Settings} {url : String}

/-!
## Limits
-/

def withUrl (database : Database) (url : String) : Database := { database with url }

def limits (settings : Settings) : Except Problem Database := do
  let maxConnections ← settings.natural "DB_MAX_CONNECTIONS" "90" "a valid u32" 32
  let idleTimeout ← settings.natural "DB_IDLE_TIMEOUT_SECS" "10" "a whole number of seconds" 64
  let acquireTimeout ← settings.natural "DB_ACQUIRE_TIMEOUT_SECS" "30"
    "a whole number of seconds" 64
  let runMigrations ← settings.flag "DB_RUN_MIGRATIONS" "true"
  return ⟨"", maxConnections, idleTimeout, acquireTimeout, runMigrations⟩

def limitNames : List String :=
  ["DB_MAX_CONNECTIONS", "DB_IDLE_TIMEOUT_SECS", "DB_ACQUIRE_TIMEOUT_SECS", "DB_RUN_MIGRATIONS"]

theorem limits_congr (alike : ∀ name ∈ limitNames, one.get? name = two.get? name) :
    limits one = limits two := by
  rw [limits, limits, Settings.natural_congr (alike "DB_MAX_CONNECTIONS" (by decide)),
    Settings.natural_congr (alike "DB_IDLE_TIMEOUT_SECS" (by decide)),
      Settings.natural_congr (alike "DB_ACQUIRE_TIMEOUT_SECS" (by decide)),
    Settings.flag_congr (alike "DB_RUN_MIGRATIONS" (by decide))]

theorem bind_limits (settings : Settings) (url : String) :
    (do
      let maxConnections ← settings.natural "DB_MAX_CONNECTIONS" "90" "a valid u32" 32
      let idleTimeout ← settings.natural "DB_IDLE_TIMEOUT_SECS" "10" "a whole number of seconds" 64
      let acquireTimeout ← settings.natural "DB_ACQUIRE_TIMEOUT_SECS" "30"
        "a whole number of seconds" 64
      let runMigrations ← settings.flag "DB_RUN_MIGRATIONS" "true"
      return ⟨url, maxConnections, idleTimeout, acquireTimeout, runMigrations⟩) =
        (limits settings).map (withUrl · url) := by
  rw [limits]
  cases settings.natural "DB_MAX_CONNECTIONS" "90" "a valid u32" 32 with
  | error problem => rfl
  | ok connections =>
      cases settings.natural "DB_IDLE_TIMEOUT_SECS" "10" "a whole number of seconds" 64 with
      | error problem => rfl
      | ok idle =>
          cases settings.natural "DB_ACQUIRE_TIMEOUT_SECS" "30" "a whole number of seconds" 64 with
          | error problem => rfl
          | ok acquire =>
              cases settings.flag "DB_RUN_MIGRATIONS" "true" with
              | error problem => rfl
              | ok migrations => rfl

/-- Without an address among the settings it is put together, and fails before the limits do. -/
theorem ofSettings_assembled (absent : settings.get? "DATABASE_URL" = none) :
    ofSettings settings = (assembledUrl settings).bind fun url =>
      (limits settings).map (withUrl · url) := by
  rw [ofSettings, absent]
  cases assembled : assembledUrl settings with
  | error problem => simp only [bind, Except.bind]
  | ok url =>
      simp only [bind, Except.bind]
      exact bind_limits settings url

/-!
## Addresses from parts
-/

def credentials (user password : String) : List Char :=
  user.toList ++ if password = "" then [] else ':' :: password.toList

def location (host : String) (port : Nat) (name : String) : List Char :=
  host.toList ++ ':' :: ((toString port).toList ++ '/' :: name.toList)

/-- The parameters of an address with their mark, if there are any. -/
def query (parameters : String) : List Char :=
  if parameters = "" then [] else '?' :: parameters.toList.dropWhile (· == '?')

def schemeMark : List Char := [':', '/', '/']

def postgres : List Char := ['p', 'o', 's', 't', 'g', 'r', 'e', 's']

def assembled (user password host : String) (port : Nat) (name parameters : String) : List Char :=
  postgres ++ schemeMark ++
    (credentials user password ++ '@' :: (location host port name ++ query parameters))

theorem ofList_credentials (user password : String) :
    (if password.isEmpty then user else user ++ ":" ++ password) =
      String.ofList (credentials user password) := by
  rw [credentials, ← String.toList_inj, String.toList_ofList]
  by_cases absent : password = ""
  · simp [absent]
  · simp [absent]

theorem ofList_assembled (user password host : String) (port : Nat) (name parameters : String) :
    (let address := "postgres://" ++ (if password.isEmpty then user else user ++ ":" ++ password) ++
      "@" ++ host ++ ":" ++ toString port ++ "/" ++ name
      if parameters.isEmpty then address else
        address ++ "?" ++ String.ofList (parameters.toList.dropWhile (· == '?'))) =
      String.ofList (assembled user password host port name parameters) := by
  apply String.toList_inj.mp
  rw [ofList_credentials, String.toList_ofList, assembled, postgres, schemeMark, location, query]
  by_cases absent : parameters = ""
  · simp [absent]
  · simp [absent]

theorem assembledUrl_eq (settings : Settings) :
    assembledUrl settings = (settings.natural "DB_PORT" "5432" "a valid u16" 16).map fun port =>
      String.ofList
        (assembled (settings.getOr "DB_USERNAME" "postgres") (settings.getOr "DB_PASSWORD" "")
          (settings.getOr "DB_HOST" "localhost") port (settings.getOr "DB_NAME" "ewallet")
          (settings.getOr "DB_PARAMS" "")) := by
  rw [assembledUrl]
  cases settings.natural "DB_PORT" "5432" "a valid u16" 16 with
  | error problem => rfl
  | ok port =>
      refine Eq.trans ?_
        (congrArg Except.ok
          (ofList_assembled (settings.getOr "DB_USERNAME" "postgres")
            (settings.getOr "DB_PASSWORD" "") (settings.getOr "DB_HOST" "localhost") port
            (settings.getOr "DB_NAME" "ewallet") (settings.getOr "DB_PARAMS" "")))
      exact (apply_ite Except.ok _ _ _).symm

end Database

end Passbook.Config

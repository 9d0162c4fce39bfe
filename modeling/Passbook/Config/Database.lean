import Passbook.Config.Settings
import Passbook.Text.Quoted
import Passbook.Text.Split

/-!
How to reach the database. A whole address wins; otherwise the address is put together from its
parts, as they are. Messages show an address only with its password replaced.
-/

set_option autoImplicit false

namespace Passbook.Config

/-- The settings of the database. Times are in seconds. -/
structure Database where
  url : String
  maxConnections : Nat
  idleTimeout : Nat
  acquireTimeout : Nat
  runMigrations : Bool
  deriving DecidableEq

namespace Database

def assembledUrl (settings : Settings) : Except Problem String := do
  let user := settings.getOr "DB_USERNAME" "postgres"
  let password := settings.getOr "DB_PASSWORD" ""
  let host := settings.getOr "DB_HOST" "localhost"
  let port ← settings.natural "DB_PORT" "5432" "a valid u16" 16
  let name := settings.getOr "DB_NAME" "ewallet"
  let parameters := settings.getOr "DB_PARAMS" ""
  let credentials := if password.isEmpty then user else user ++ ":" ++ password
  let address := "postgres://" ++ credentials ++ "@" ++ host ++ ":" ++ toString port ++ "/" ++ name
  if parameters.isEmpty then return address
  else return address ++ "?" ++ String.ofList (parameters.toList.dropWhile (· == '?'))

/-- Reads the settings of the database. The first setting that is not accepted is reported. -/
def ofSettings (settings : Settings) : Except Problem Database := do
  let url ← (match settings.get? "DATABASE_URL" with
    | some url => pure url
    | none => assembledUrl settings)
  let seconds := "a whole number of seconds"
  let maxConnections ← settings.natural "DB_MAX_CONNECTIONS" "90" "a valid u32" 32
  let idleTimeout ← settings.natural "DB_IDLE_TIMEOUT_SECS" "10" seconds 64
  let acquireTimeout ← settings.natural "DB_ACQUIRE_TIMEOUT_SECS" "30" seconds 64
  let runMigrations ← settings.flag "DB_RUN_MIGRATIONS" "true"
  return ⟨url, maxConnections, idleTimeout, acquireTimeout, runMigrations⟩

/-- An address with its password replaced. The password is what stands between the first colon of
the credentials and the last at sign; an address without credentials is shown as it is. -/
def redacted (url : List Char) : List Char :=
  match Text.splitFirst [':', '/', '/'] url with
  | none => url
  | some (scheme, rest) =>
      match Text.splitLast '@' rest with
      | none => url
      | some (credentials, host) =>
          match Text.splitFirst [':'] credentials with
          | none => url
          | some (user, _) => scheme ++ "://".toList ++ user ++ ":***@".toList ++ host

/-- The address, safe to show. -/
def redactedUrl (database : Database) : String := String.ofList (redacted database.url.toList)

def secondsText (seconds : Nat) : String := if seconds = 0 then "0ns" else toString seconds ++ "s"

/-- The settings in words, without the password. -/
def describe (database : Database) : String :=
  "DatabaseConfig \x7b url: " ++ Text.quote database.redactedUrl ++
    ", max_connections: " ++ toString database.maxConnections ++
    ", idle_timeout: " ++ secondsText database.idleTimeout ++
    ", acquire_timeout: " ++ secondsText database.acquireTimeout ++
    ", run_migrations: " ++ toString database.runMigrations ++ " \x7d"

end Database

end Passbook.Config

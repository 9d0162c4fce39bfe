import Passbook.Config.Database

/-!
The settings of the service: where it listens, how long a request may take, and its database.
-/

set_option autoImplicit false

namespace Passbook.Config

/-- The settings of the service. The time of a request is in milliseconds. -/
structure Service where
  host : String
  port : Nat
  requestTimeout : Nat
  database : Database
  deriving DecidableEq

namespace Service

/-- Reads the settings of the service. The first setting that is not accepted is reported. -/
def ofSettings (settings : Settings) : Except Problem Service := do
  let host := settings.getOr "APP_HOST" "0.0.0.0"
  let port ← settings.natural "APP_PORT" "3006" "a valid u16" 16
  let requestTimeout ←
    settings.natural "REQUEST_TIMEOUT_MS" "5000" "a whole number of milliseconds" 64
  let database ← (Database.ofSettings settings).mapError .database
  return ⟨host, port, requestTimeout, database⟩

def address (service : Service) : String := service.host ++ ":" ++ toString service.port

end Service

end Passbook.Config

import Passbook.Database.Failure
import Passbook.Database.Url

/-!
Where the database is and how to talk to it. An address is made of the parts of a URL, whatever its
scheme; parameters of the query may replace them. Parameters that nobody knows are ignored.
-/

set_option autoImplicit false

namespace Passbook.Database

/-- How much a connection insists on being encrypted. -/
inductive Encryption
  | disable
  | allow
  | prefer
  | require
  | verifyAuthority
  | verifyFull
  deriving DecidableEq

namespace Encryption

/-- Reads a mode. Capital letters do not matter. -/
def read? (text : List Char) : Option Encryption :=
  match String.ofList (text.map Char.toLower) with
  | "disable" => some .disable
  | "allow" => some .allow
  | "prefer" => some .prefer
  | "require" => some .require
  | "verify-ca" => some .verifyAuthority
  | "verify-full" => some .verifyFull
  | _ => none

def isRequired : Encryption → Bool
  | disable => false
  | allow => false
  | prefer => false
  | require => true
  | verifyAuthority => true
  | verifyFull => true

end Encryption

/-- An address. Parts that are not given are left to the environment. -/
structure Address where
  user : Option (List Char)
  password : Option (List Char)
  host : Option (List Char)
  port : Option Nat
  database : Option (List Char)
  encryption : Option Encryption
  deriving DecidableEq

namespace Address

/-- A part of a URL without its escapes; none inside if the part is empty, none at all if it is no
text. -/
def plain? (part : List Char) : Option (Option (List Char)) :=
  if part.isEmpty then some none else (Text.ofUtf8? (Text.percentDecoded part)).map some

/-- The host of a URL without its escapes. Only the name of a socket has to be text; in any other
host, what is no text is replaced. -/
def plainHost? (part : List Char) : Option (Option (List Char)) :=
  let bytes := Text.percentDecoded part
  if part.isEmpty then some none
  else if bytes.head? = some 0x2F then (Text.ofUtf8? bytes).map some
  else some (some ((Text.decodeUtf8 bytes).map (·.getD '\uFFFD')))

/-- A name or a value of a query. A plus sign is a blank; what is no text is replaced. -/
def plainParameter (part : List Char) : List Char :=
  let bytes := Text.percentDecoded (part.map fun char => if char = '+' then ' ' else char)
  (Text.decodeUtf8 bytes).map (·.getD '\uFFFD')

def parameters (query : List Char) : List (List Char × List Char) :=
  ((Text.splitAll '&' query).filter (!·.isEmpty)).map fun part =>
    match Text.splitFirst ['='] part with
    | some (name, value) => (plainParameter name, plainParameter value)
    | none => (plainParameter part, [])

/-- Takes one parameter over, if its value can be read. -/
def withParameter? (address : Address) (name value : List Char) : Option Address :=
  match String.ofList name with
  | "sslmode" => setEncryption
  | "ssl-mode" => setEncryption
  | "statement-cache-capacity" =>
      (Text.readNatural (twoTo 64 - 1) value).toOption.map fun _ => address
  | "host" => some { address with host := some value }
  | "hostaddr" =>
      if isIpv4 value || isIpv6 value then some { address with host := some value } else none
  | "port" =>
      (Text.readNatural 65535 value).toOption.map fun port => { address with port := some port }
  | "dbname" => some { address with database := some value }
  | "user" => some { address with user := some value }
  | "password" => some { address with password := some value }
  | _ => some address
where
  setEncryption : Option Address :=
    (Encryption.read? value).map fun encryption => { address with encryption := some encryption }

/-- The address of a URL, if all its parts can be read. -/
def ofUrl? (url : Url) : Option Address := do
  let host ← plainHost? url.host
  let user ← plain? url.user
  let password ← plain? url.password
  let database ← plain? (url.path.dropWhile (· == '/'))
  (parameters url.query).foldlM (fun address (name, value) => address.withParameter? name value)
    ⟨user, password, host, url.port, database, none⟩

/-- Reads an address. No connection is made yet. -/
def read (text : List Char) : Except StoreError Address :=
  match (Url.read? text).bind ofUrl? with
  | some address => .ok address
  | none => .error (Failure.unreadable.error .connect)

end Address

end Passbook.Database

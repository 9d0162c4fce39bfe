import Mathlib.Data.List.TakeWhile
import Passbook.Proofs.Config.Assembled
import Passbook.Proofs.Text.Digits
import Passbook.Proofs.Text.Percent
import Passbook.Proofs.Text.Split

/-!
What an address that is put together denotes when it is read in its generic form. Credentials are
written as they are, so that it denotes them exactly if they hold no mark that ends them early and
nothing that reads as an escape.
-/

set_option autoImplicit false

namespace Passbook.Config

open Text
open Passbook.Config.Database (schemeMark postgres assembled)

/-- What an address denotes. User and password are bytes, with their escapes read. -/
structure Endpoint where
  user : Option (List UInt8)
  password : Option (List UInt8)
  host : List Char
  port : Option Nat
  path : List Char
  deriving DecidableEq

namespace Endpoint

def endsAuthority (char : Char) : Bool := char = '/' || char = '?' || char = '#'

def port? (digits : List Char) : Option Nat :=
  if digits ≠ [] ∧ digits.all Char.isDigit then some (digitsValue digits) else none

def ofPlace (user password : Option (List UInt8)) (place path : List Char) : Endpoint :=
  match splitLast ':' place with
  | some (host, port) => ⟨user, password, host, port? port, path⟩
  | none => ⟨user, password, place, none, path⟩

def ofAuthority (authority path : List Char) : Endpoint :=
  match splitLast '@' authority with
  | none => ofPlace none none authority path
  | some (credentials, place) =>
      match splitFirst [':'] credentials with
      | some (user, password) =>
          ofPlace (some (percentDecoded user)) (some (percentDecoded password)) place path
      | none => ofPlace (some (percentDecoded credentials)) none place path

/-- Reads what follows the mark of the scheme: the authority, and the path up to its end. -/
def ofRest (rest : List Char) : Endpoint :=
  ofAuthority (rest.takeWhile fun char => !endsAuthority char)
    ((rest.dropWhile fun char => !endsAuthority char).takeWhile fun char =>
      char != '?' && char != '#')

def read? (address : List Char) : Option Endpoint :=
  (splitFirst schemeMark address).map fun (_, rest) => ofRest rest

def ofParts (user password host : String) (port : Nat) (name : String) : Endpoint :=
  ⟨some (toUtf8 user.toList), some (toUtf8 password.toList), host.toList,
    some port, '/' :: name.toList⟩

def HasNone (marks text : List Char) : Prop := ∀ char ∈ text, char ∉ marks

instance (marks text : List Char) : Decidable (HasNone marks text) := List.decidableBAll _ text

/-- Whether credentials can be written as they are. -/
structure Literal (user password : List Char) : Prop where
  userWhole : HasNone [':', '/', '?', '#'] user
  passwordWhole : HasNone ['/', '?', '#'] password
  userPlain : ¬ HasEscape user
  passwordPlain : ¬ HasEscape password

/-- The marks that the host and the name of the database are free of. -/
def marks : List Char := [':', '/', '?', '#', '@', '%']

variable {user password host name : List Char} {port : Nat} {text : List Char} {char : Char}

theorem endsAuthority_eq_false_iff : endsAuthority char = false ↔ char ∉ ['/', '?', '#'] := by
  simp [endsAuthority, and_assoc]

theorem HasNone.endsAuthority {others : List Char} (none : HasNone others text)
    (marked : ['/', '?', '#'] ⊆ others) (member : char ∈ text) :
    endsAuthority char = false :=
  endsAuthority_eq_false_iff.mpr fun mark => none char member (marked mark)

theorem endsAuthority_of_isDigit (digit : char.isDigit = true) :
    Endpoint.endsAuthority char = false := by
  have bounds := isDigit_bounds digit
  simp only [Endpoint.endsAuthority, Bool.or_eq_false_iff, decide_eq_false_iff_not]
  refine ⟨⟨?_, ?_⟩, ?_⟩ <;> rintro rfl <;> cases digit

theorem port?_toDigits (port : Nat) : port? (Nat.toDigits 10 port) = some port := by
  rw [port?, if_pos ⟨Nat.toDigits_ne_nil, toDigits_isDigit port⟩, digitsValue_toDigits]

/-!
## Literal credentials
-/

theorem ofPlace_name (user password : Option (List UInt8)) (path : List Char) :
    ofPlace user password (host ++ ':' :: Nat.toDigits 10 port) path =
      ⟨user, password, host, some port, path⟩ := by
  have absent : ':' ∉ Nat.toDigits 10 port := fun member =>
    absurd (List.all_eq_true.mp (toDigits_isDigit port) ':' member) (by decide)
  rw [ofPlace, splitLast_eq_some_iff.mpr ⟨rfl, absent⟩]
  simp only [port?_toDigits]

theorem takeWhile_authority {authority after : List Char}
    (whole : ∀ char ∈ authority, endsAuthority char = false) :
    (authority ++ '/' :: after).takeWhile (fun char => !endsAuthority char) = authority ∧
      (authority ++ '/' :: after).dropWhile (fun char => !endsAuthority char) = '/' :: after := by
  have inside : ∀ char ∈ authority, (!endsAuthority char) = true :=
    fun char member => by rw [whole char member]; rfl
  rw [List.takeWhile_append_of_pos inside, List.dropWhile_append_of_pos inside]
  simp [endsAuthority]

def afterScheme (user password host : List Char) (port : Nat) (name : List Char) : List Char :=
  user ++ ':' :: (password ++ '@' :: (host ++ ':' :: (Nat.toDigits 10 port ++ '/' :: name)))

theorem place_whole (hostName : HasNone marks host) (port : Nat) :
    ∀ char ∈ host ++ ':' :: Nat.toDigits 10 port,
    endsAuthority char = false ∧ char ≠ '@' := by
  intro char member
  rcases List.mem_append.mp member with inHost | inPort
  · have other := hostName char inHost
    exact ⟨hostName.endsAuthority (by decide) inHost, fun same => other (by simp [marks, same])⟩
  · rcases List.mem_cons.mp inPort with rfl | digit
    · exact ⟨by decide, by decide⟩
    · have isDigit := List.all_eq_true.mp (toDigits_isDigit port) char digit
      exact ⟨endsAuthority_of_isDigit isDigit, by rintro rfl; cases isDigit⟩

theorem Literal.authority_whole (literal : Literal user password) (hostName : HasNone marks host)
    (port : Nat) :
    ∀ char ∈ user ++ ':' :: (password ++ '@' :: (host ++ ':' :: Nat.toDigits 10 port)),
      endsAuthority char = false := by
  intro char member
  simp only [List.mem_append, List.mem_cons] at member
  rcases member with inUser | rfl | inPassword | rfl | inPlace
  · exact literal.userWhole.endsAuthority (by decide) inUser
  · decide
  · exact literal.passwordWhole.endsAuthority (by decide) inPassword
  · decide
  · exact (place_whole hostName port char (by simpa using inPlace)).1

theorem Literal.ofRest (literal : Literal user password) (hostName : HasNone marks host)
    (isName : HasNone marks name) :
    ofRest (afterScheme user password host port name) =
      ⟨some (toUtf8 user), some (toUtf8 password), host, some port, '/' :: name⟩ := by
  have whole := literal.authority_whole hostName port
  have split : afterScheme user password host port name =
      (user ++ ':' :: (password ++ '@' :: (host ++ ':' :: Nat.toDigits 10 port))) ++ '/' ::
        name := by simp [afterScheme]
  have path : ('/' :: name).takeWhile (fun char => char != '?' && char != '#') = '/' :: name := by
    rw [List.takeWhile_eq_self_iff]
    intro char member
    rcases List.mem_cons.mp member with rfl | inName
    · decide
    · have other := isName char inName
      simp only [marks, List.mem_cons, not_or] at other
      simp [other]
  have last : splitLast '@'
    (user ++ ':' :: (password ++ '@' :: (host ++ ':' :: Nat.toDigits 10 port))) =
      some (user ++ ':' :: password, host ++ ':' :: Nat.toDigits 10 port) :=
    splitLast_eq_some_iff.mpr ⟨by simp, fun member => (place_whole hostName port '@' member).2 rfl⟩
  have colon : splitFirst [':'] (user ++ ':' :: password) = some (user, password) :=
    splitFirst_single_iff.mpr ⟨rfl, fun member => literal.userWhole ':' member List.mem_cons_self⟩
  rw [Endpoint.ofRest, split, (takeWhile_authority whole).1, (takeWhile_authority whole).2,
    path, ofAuthority, last]
  simp only [colon, percentDecoded_eq_iff.mpr literal.userPlain,
    percentDecoded_eq_iff.mpr literal.passwordPlain]
  exact ofPlace_name _ _ _

/-!
## Other credentials
-/

theorem user_ofPlace (user password : Option (List UInt8)) (place path : List Char) :
    (ofPlace user password place path).user = user ∧
      (ofPlace user password place path).password = password := by
  rw [ofPlace]
  split <;> exact ⟨rfl, rfl⟩

theorem credentials_of_ofAuthority {authority path : List Char}
    {userBytes passwordBytes : List UInt8}
    (isUser : (ofAuthority authority path).user = some userBytes)
    (isPassword : (ofAuthority authority path).password = some passwordBytes) :
    ∃ user password place, authority = user ++ ':' :: (password ++ '@' :: place) ∧ ':' ∉ user ∧
      percentDecoded user = userBytes ∧ percentDecoded password = passwordBytes := by
  rw [ofAuthority] at isUser isPassword
  cases last : splitLast '@' authority with
  | none =>
      simp only [last, (user_ofPlace _ _ _ _).1] at isUser
      cases isUser
  | some parts =>
      obtain ⟨credentials, place⟩ := parts
      cases colon : splitFirst [':'] credentials with
      | none =>
          simp only [last, colon, (user_ofPlace _ _ _ _).2] at isPassword
          cases isPassword
      | some parts =>
          obtain ⟨user, password⟩ := parts
          simp only [last, colon, (user_ofPlace _ _ _ _).1, (user_ofPlace _ _ _ _).2,
            Option.some.injEq] at isUser isPassword
          obtain ⟨rfl, -⟩ := splitLast_eq_some_iff.mp last
          obtain ⟨rfl, absent⟩ := splitFirst_single_iff.mp colon
          exact ⟨user, password, place, by simp, absent, isUser, isPassword⟩

/-- A part that decodes to what is written up to a mark is just that, or reaches beyond the mark. -/
theorem eq_of_decoded {part written after : List Char} {mark : Char}
    (begins : part <+: written ++ mark :: after) (decoded : percentDecoded part = toUtf8 written) :
    part = written ∨ ∃ more, part = written ++ mark :: more := by
  rcases List.prefix_or_prefix_of_prefix begins (List.prefix_append written _)
    with ⟨more, rfl⟩ | ⟨more, rfl⟩
  · -- Decoding cannot make up for what the part lacks.
    cases more with
    | nil => exact .inl (List.append_nil part).symm
    | cons char more =>
        have length := (decoded_percentDecoded part).length_le
        rw [decoded, length_toUtf8_append] at length
        have some := length_toUtf8_pos char more
        omega
  · cases more with
    | nil => exact .inl (List.append_nil written)
    | cons char more =>
        obtain ⟨same, -⟩ :=
          List.cons_prefix_cons.mp ((List.prefix_append_right_inj written).mp begins)
        exact .inr ⟨more, by rw [same]⟩

theorem noSign_of_begins {authority : List Char} (hostName : HasNone marks host)
    (noSlash : '/' ∉ authority)
    (begins : authority <+: host ++ ':' :: (Nat.toDigits 10 port ++ '/' :: name)) :
    '@' ∉ authority := by
  have split : host ++ ':' :: (Nat.toDigits 10 port ++ '/' :: name) =
      (host ++ ':' :: Nat.toDigits 10 port) ++ '/' :: name := by simp
  have place : '@' ∉ host ++ ':' :: Nat.toDigits 10 port :=
    fun member => (place_whole hostName port '@' member).2 rfl
  rw [split] at begins
  rcases List.prefix_or_prefix_of_prefix begins (List.prefix_append _ _)
    with within | ⟨rest, across⟩
  · exact fun member => place (within.subset member)
  · cases rest with
    | nil => rwa [← across, List.append_nil]
    | cons char rest =>
        rw [← across, List.prefix_append_right_inj, List.cons_prefix_cons] at begins
        exact absurd (across ▸ List.mem_append_right _ (begins.1 ▸ List.mem_cons_self)) noSlash

theorem literal_of_ofRest (hostName : HasNone marks host)
    (isUser : (ofRest (afterScheme user password host port name)).user = some (toUtf8 user))
    (isPassword : (ofRest (afterScheme user password host port name)).password =
      some (toUtf8 password)) :
    Literal user password := by
  obtain ⟨readUser, readPassword, place, whole, noColon, userDecoded, passwordDecoded⟩ :=
    credentials_of_ofAuthority isUser isPassword
  have inside : ∀ char ∈ readUser ++ ':' :: (readPassword ++ '@' :: place),
      endsAuthority char = false := by
    intro char member
    rw [← whole] at member
    simpa using List.mem_takeWhile_imp member
  have begins : readUser ++ ':' :: (readPassword ++ '@' :: place) <+:
      afterScheme user password host port name :=
    whole ▸ List.takeWhile_prefix _
  rw [afterScheme] at begins
  have userSame : readUser = user := by
    rcases eq_of_decoded ((List.prefix_append _ _).trans begins) userDecoded
      with same | ⟨more, beyond⟩
    · exact same
    · exact absurd (beyond ▸ List.mem_append_right user List.mem_cons_self) noColon
  subst userSame
  have passwordBegins :=
    (List.cons_prefix_cons.mp ((List.prefix_append_right_inj readUser).mp begins)).2
  have passwordSame : readPassword = password := by
    rcases eq_of_decoded ((List.prefix_append _ _).trans passwordBegins) passwordDecoded
      with same | ⟨more, beyond⟩
    · exact same
    · -- A later at sign in the authority would have to stand in the host or the port.
      rw [beyond, List.append_assoc, List.prefix_append_right_inj, List.cons_append,
        List.cons_prefix_cons] at passwordBegins
      have noSlash : '/' ∉ more ++ '@' :: place := fun member =>
        absurd (inside '/'
          (by rw [beyond]; simp only [List.mem_append, List.mem_cons] at member ⊢; tauto))
          (by decide)
      exact absurd (by simp) (noSign_of_begins hostName noSlash passwordBegins.2)
  subst passwordSame
  refine ⟨fun char member mark => ?_, fun char member => ?_, percentDecoded_eq_iff.mp userDecoded,
    percentDecoded_eq_iff.mp passwordDecoded⟩
  · rcases List.mem_cons.mp mark with rfl | ends
    · exact noColon member
    · exact endsAuthority_eq_false_iff.mp (inside char (List.mem_append_left _ member)) ends
  · exact endsAuthority_eq_false_iff.mp
      (inside char
        (List.mem_append_right _ (List.mem_cons_of_mem _ (List.mem_append_left _ member))))

/-!
## Addresses from settings
-/

theorem read?_assembled_iff {user password host name : String} (port : Nat)
    (nonempty : password ≠ "") (hostName : HasNone marks host.toList)
    (isName : HasNone marks name.toList) :
    read? (assembled user password host port name "") =
      some (ofParts user password host port name) ↔
      Literal user.toList password.toList := by
  have rest : assembled user password host port name "" =
      postgres ++ schemeMark ++ afterScheme user.toList password.toList host.toList
        port name.toList := by
    have digits : (toString port).toList = Nat.toDigits 10 port := Nat.toList_repr
    rw [assembled, Database.credentials, if_neg nonempty, Database.location, Database.query,
      if_pos rfl, digits, afterScheme]
    simp
  have first : splitFirst schemeMark (postgres ++ schemeMark) = some (postgres, []) := by decide
  have read : read? (assembled user password host port name "") =
      some (ofRest (afterScheme user.toList password.toList host.toList port name.toList)) := by
    rw [read?, rest, splitFirst_change first]
    rfl
  rw [read, Option.some.injEq]
  constructor
  · intro same
    exact literal_of_ofRest hostName (congrArg Endpoint.user same) (congrArg Endpoint.password same)
  · intro literal
    exact literal.ofRest hostName isName

/-- The address that settings give denotes their parts exactly if user and password hold no mark
that ends them early and nothing that reads as an escape. -/
theorem assembled_address_denotes {settings : Settings} {password : String} {port : Nat}
    (absent : settings.get? "DATABASE_URL" = none) (noParameters : settings.get? "DB_PARAMS" = none)
    (given : settings.get? "DB_PASSWORD" = some password) (nonempty : password ≠ "")
    (portRead : settings.natural "DB_PORT" "5432" "a valid u16" 16 = .ok port)
    (hostName : HasNone marks (settings.getOr "DB_HOST" "localhost").toList)
    (isName : HasNone marks (settings.getOr "DB_NAME" "ewallet").toList) :
    ∃ url, Database.assembledUrl settings = .ok url ∧
      (∀ database, Database.ofSettings settings = .ok database → database.url = url) ∧
      (read? url.toList =
        some (ofParts (settings.getOr "DB_USERNAME" "postgres") password
          (settings.getOr "DB_HOST" "localhost") port (settings.getOr "DB_NAME" "ewallet")) ↔
        Literal (settings.getOr "DB_USERNAME" "postgres").toList password.toList) := by
  have secret : settings.getOr "DB_PASSWORD" "" = password := by rw [Settings.getOr, given]; rfl
  have parameters : settings.getOr "DB_PARAMS" "" = "" := by rw [Settings.getOr, noParameters]; rfl
  have made := Database.assembledUrl_eq settings
  rw [portRead, secret, parameters] at made
  refine ⟨_, made, fun database accepted => ?_, ?_⟩
  · rw [Database.ofSettings_assembled absent, made] at accepted
    cases limited : Database.limits settings with
    | error problem =>
        rw [limited] at accepted
        cases accepted
    | ok base =>
        rw [limited] at accepted
        cases accepted
        rfl
  · rw [String.toList_ofList]
    exact read?_assembled_iff port nonempty hostName isName

def markedSettings : Settings :=
  [("DB_USERNAME", "w@%2"), ("DB_PASSWORD", "p:@%g1"), ("DB_HOST", "db"), ("DB_PORT", "+06543"),
    ("DB_NAME", "ledger")]

theorem assembled_address_denotes_sample :
    ∃ url, Database.assembledUrl markedSettings = .ok url ∧
      read? url.toList = some (ofParts "w@%2" "p:@%g1" "db" 6543 "ledger") := by
  obtain ⟨url, made, -, denotes⟩ :=
    assembled_address_denotes (rfl : markedSettings.get? "DATABASE_URL" = none) rfl
      (rfl : markedSettings.get? "DB_PASSWORD" = some "p:@%g1") (by decide)
      (rfl : _ = Except.ok 6543)
    (by decide) (by decide)
  refine ⟨url, made, denotes.mpr ⟨by decide, by decide, ?_, ?_⟩⟩
  · exact percentDecoded_eq_iff.mp (by decide)
  · exact percentDecoded_eq_iff.mp (by decide)

/-- A slash in the password ends it early: the address denotes another host and port, without
credentials. -/
theorem slash_moves_endpoint :
    ∃ url, Database.assembledUrl [("DB_PASSWORD", "80/20")] = .ok url ∧
      read? url.toList =
        some ⟨none, none, "postgres".toList, some 80, "/20@localhost:5432/ewallet".toList⟩ :=
  ⟨"postgres://postgres:80/20@localhost:5432/ewallet", rfl, by decide⟩

end Endpoint

end Passbook.Config

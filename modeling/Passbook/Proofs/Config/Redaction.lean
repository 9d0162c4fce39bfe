import Passbook.Proofs.Config.Assembled
import Passbook.Proofs.Text.Split

/-!
What a shown address tells about passwords. The password of the credentials has no influence on what
is shown, wherever else the marks around it occur. A password among the parameters has none either
if an at sign follows it; otherwise it is shown.
-/

set_option autoImplicit false

namespace Passbook.Config

open Text

variable {url scheme user secret host front back : List Char}

namespace Database

/-!
## Addresses with credentials
-/

/-- How an address is cut that has credentials with a password. -/
structure Cuts (url scheme user secret host : List Char) : Prop where
  first : splitFirst schemeMark url = some (scheme, user ++ ':' :: (secret ++ '@' :: host))
  user : ':' ∉ user
  host : '@' ∉ host

def covered (scheme user host : List Char) : List Char :=
  scheme ++ schemeMark ++ (user ++ ':' :: ("***".toList ++ '@' :: host))

theorem Cuts.redacted (cuts : Cuts url scheme user secret host) :
    redacted url = covered scheme user host := by
  have first := cuts.first
  have last : splitLast '@' (user ++ ':' :: (secret ++ '@' :: host)) =
      some (user ++ ':' :: secret, host) :=
    splitLast_eq_some_iff.mpr ⟨by simp, cuts.host⟩
  have colon : splitFirst [':'] (user ++ ':' :: secret) = some (user, secret) :=
    splitFirst_single_iff.mpr ⟨rfl, cuts.user⟩
  rw [schemeMark] at first
  simp only [Database.redacted, first, last, colon]
  simp [covered, schemeMark]

theorem Cuts.colon_mem {other credentials last : List Char}
    (cuts : Cuts url scheme user secret host)
    (first : splitFirst schemeMark url = some (other, credentials ++ '@' :: last))
    (outside : '@' ∉ last) : ':' ∈ credentials := by
  have same : credentials ++ '@' :: last = user ++ ':' :: secret ++ '@' :: host := by
    simpa using congrArg Prod.snd (Option.some.inj (first.symm.trans cuts.first))
  have one : splitLast '@' (credentials ++ '@' :: last) = some (credentials, last) :=
    splitLast_eq_some_iff.mpr ⟨rfl, outside⟩
  have two : splitLast '@' (credentials ++ '@' :: last) = some (user ++ ':' :: secret, host) :=
    splitLast_eq_some_iff.mpr ⟨same, cuts.host⟩
  have whole : credentials = user ++ ':' :: secret :=
    congrArg Prod.fst (Option.some.inj (one.symm.trans two))
  simp [whole]

theorem redacted_cases (url : List Char) :
    (∃ scheme user secret host, Cuts url scheme user secret host) ∨ redacted url = url := by
  rw [Database.redacted.eq_def]
  split
  · exact .inr rfl
  · next scheme rest first =>
      split
      · exact .inr rfl
      · next credentials host last =>
          split
          · exact .inr rfl
          · next user secret colon =>
              obtain ⟨rfl, outside⟩ := splitLast_eq_some_iff.mp last
              obtain ⟨rfl, before⟩ := splitFirst_single_iff.mp colon
              refine .inl ⟨scheme, user, secret, host, ?_, before, outside⟩
              rw [schemeMark, first]
              simp

theorem Cuts.covered (cuts : Cuts url scheme user secret host) :
    Cuts (covered scheme user host) scheme user "***".toList host where
  first := splitFirst_change cuts.first _
  user := cuts.user
  host := cuts.host

theorem redacted_redacted (url : List Char) : redacted (redacted url) = redacted url := by
  rcases redacted_cases url with ⟨scheme, user, secret, host, cuts⟩ | same
  · rw [cuts.redacted, cuts.covered.redacted]
  · rw [same, same]

/-!
## Places that are covered
-/

/-- Whether what stands between two texts is never shown: a colon after the mark of a scheme comes
before it, and an at sign after it. -/
structure Covers (front back : List Char) : Prop where
  opened : ∃ before after, front = before ++ schemeMark ++ after ∧ ':' ∈ after
  closed : '@' ∈ back

/-- The cuts lie outside of what is covered, so that they do not depend on it. -/
theorem Covers.cuts (covers : Covers front back) :
    ∃ scheme user host,
      ∀ secret, ∃ hidden, Cuts (front ++ secret ++ back) scheme user hidden host := by
  obtain ⟨before, after, rfl, colon⟩ := covers.opened
  obtain ⟨scheme, between, first⟩ :=
    exists_splitFirst (List.suffix_append before schemeMark).isInfix
  obtain ⟨user, inside, opened⟩ :=
    exists_splitFirst ((List.singleton_infix_iff _ _).mpr (List.mem_append_right between colon))
  obtain ⟨credentials, absent⟩ := splitFirst_single_iff.mp opened
  obtain ⟨more, host, rfl, outside⟩ := exists_last covers.closed
  refine ⟨scheme, user, host, fun secret => ⟨inside ++ secret ++ more, ?_, absent, outside⟩⟩
  have whole : before ++ schemeMark ++ after ++ secret ++ (more ++ '@' :: host) =
      before ++ schemeMark ++ (after ++ (secret ++ (more ++ '@' :: host))) := by
        simp only [List.append_assoc]
  have rest : between ++ (after ++ (secret ++ (more ++ '@' :: host))) =
      user ++ ':' :: (inside ++ secret ++ more ++ '@' :: host) := by
    rw [← List.append_assoc, credentials]
    simp
  rw [whole, splitFirst_append first, rest]

theorem Covers.redacted_eq (covers : Covers front back) (one other : List Char) :
    redacted (front ++ one ++ back) = redacted (front ++ other ++ back) := by
  obtain ⟨scheme, user, host, cuts⟩ := covers.cuts
  obtain ⟨_, oneCuts⟩ := cuts one
  obtain ⟨_, otherCuts⟩ := cuts other
  rw [oneCuts.redacted, otherCuts.redacted]

/-!
## Places that are not covered
-/

theorem redacted_append {more : List Char} (begun : schemeMark <:+: front) (plain : '@' ∉ more) :
    redacted (front ++ more) = redacted front ++ more := by
  obtain ⟨scheme, rest, first⟩ := exists_splitFirst begun
  have longer := splitFirst_append first more
  rcases redacted_cases (front ++ more) with ⟨other, user, secret, host, cuts⟩ | whole
  · obtain ⟨rfl, same⟩ : scheme = other ∧
        rest ++ more = user ++ ':' :: (secret ++ '@' :: host) := by
      simpa using longer.symm.trans cuts.first
    -- The at sign is the last one, so it comes before what is added.
    obtain ⟨inner, rfl, within⟩ : ∃ inner, host = inner ++ more ∧
        rest = user ++ ':' :: (secret ++ '@' :: inner) := by
      have split : (user ++ ':' :: secret) ++ '@' :: host = rest ++ more := by simp [same]
      rcases List.append_eq_append_iff.mp split with ⟨middle, inRest, tail⟩ | ⟨middle, _, tail⟩
      · cases middle with
        | nil => exact absurd ((show '@' :: host = more from tail) ▸ List.mem_cons_self) plain
        | cons sign inner =>
            obtain ⟨rfl, rfl⟩ := List.cons.inj tail
            exact ⟨inner, rfl, by simp [inRest]⟩
      · exact absurd (tail ▸ List.mem_append_right middle List.mem_cons_self) plain
    have inside : Cuts front scheme user secret inner :=
      ⟨within ▸ first, cuts.user, fun member => cuts.host (List.mem_append_left more member)⟩
    rw [cuts.redacted, inside.redacted]
    simp [covered]
  · rw [whole]
    rcases redacted_cases front with ⟨scheme, user, secret, host, cuts⟩ | same
    · have outside : Cuts (front ++ more) scheme user secret (host ++ more) := by
        refine ⟨?_, cuts.user, by simpa using ⟨cuts.host, plain⟩⟩
        rw [splitFirst_append cuts.first]
        simp
      rw [← whole, outside.redacted, cuts.redacted]
      simp [covered]
    · rw [same]

theorem redacted_later {more : List Char}
    (later : ∀ tail, tail <:+ front → tail ≠ [] → ¬ schemeMark <+: tail ++ more) :
    redacted (front ++ more) = front ++ redacted more := by
  have first := splitFirst_later later
  rcases redacted_cases more with ⟨scheme, user, secret, host, cuts⟩ | same
  · have outer : Cuts (front ++ more) (front ++ scheme) user secret host :=
      ⟨by rw [first, cuts.first]; rfl, cuts.user, cuts.host⟩
    rw [outer.redacted, cuts.redacted]
    simp [covered]
  · rcases redacted_cases (front ++ more) with ⟨scheme, user, secret, host, cuts⟩ | whole
    · obtain ⟨⟨inner, rest⟩, found, split⟩ :=
        Option.map_eq_some_iff.mp (first.symm.trans cuts.first)
      obtain ⟨rfl, rfl⟩ := Prod.mk.inj split
      have inside : Cuts more inner user secret host := ⟨found, cuts.user, cuts.host⟩
      rw [cuts.redacted, inside.redacted]
      simp [covered]
    · rw [whole, same]

/-- Whether what stands between two texts is shown in full, whatever it is, if it has no mark of its
own. -/
def Shows (front back : List Char) : Prop :=
  ∃ before after, ∀ secret, ':' ∉ secret → '@' ∉ secret →
    redacted (front ++ secret ++ back) = before ++ secret ++ after

/-- Before the last at sign but without a colon before it, everything belongs to a user, who is
shown. -/
theorem shows_of_colonless {rest : List Char}
    (first : splitFirst schemeMark front = some (scheme, rest)) (plain : ':' ∉ rest)
    (closed : '@' ∈ back) : Shows front back := by
  obtain ⟨more, host, rfl, outside⟩ := exists_last closed
  by_cases colon : ':' ∈ more
  · obtain ⟨user, hidden, opened⟩ := exists_splitFirst ((List.singleton_infix_iff _ _).mpr colon)
    obtain ⟨rfl, absent⟩ := splitFirst_single_iff.mp opened
    refine ⟨scheme ++ schemeMark ++ rest, user ++ ':' :: ("***".toList ++ '@' :: host),
      fun secret own _ => ?_⟩
    have cuts : Cuts (front ++ secret ++ (user ++ ':' :: hidden ++ '@' :: host)) scheme
        (rest ++ secret ++ user) hidden host := by
      refine ⟨?_, by simpa using ⟨plain, own, absent⟩, outside⟩
      rw [List.append_assoc, splitFirst_append first]
      simp
    rw [cuts.redacted]
    simp [covered]
  · refine ⟨front, more ++ '@' :: host, fun secret own _ => ?_⟩
    rcases redacted_cases (front ++ secret ++ (more ++ '@' :: host))
      with ⟨other, user, hidden, last, cuts⟩ | whole
    · have cut : splitFirst schemeMark (front ++ secret ++ (more ++ '@' :: host)) =
          some (scheme, rest ++ secret ++ more ++ '@' :: host) := by
        rw [List.append_assoc, splitFirst_append first]
        simp
      have present := cuts.colon_mem cut outside
      simp [plain, own, colon] at present
    · exact whole

/-- A place after a sign that is part of no mark is covered, or everything is shown there. -/
theorem shows_of_not_covers (ends : front.getLast? = some '=') (exposed : ¬ Covers front back) :
    Shows front back := by
  by_cases begun : schemeMark <:+: front
  · by_cases closed : '@' ∈ back
    · obtain ⟨scheme, rest, first⟩ := exists_splitFirst begun
      exact shows_of_colonless first
        (fun colon => exposed ⟨⟨scheme, rest, splitFirst_sound first, colon⟩, closed⟩) closed
    · refine ⟨redacted front, back, fun secret _ plain => ?_⟩
      rw [List.append_assoc, redacted_append begun (by simpa using ⟨plain, closed⟩),
        List.append_assoc]
  · refine ⟨front, redacted back,
      fun secret colon _ => redacted_later fun tail suffix nonempty here => ?_⟩
    obtain ⟨start, whole⟩ := suffix
    obtain ⟨first, others, rfl⟩ := List.exists_cons_of_ne_nil nonempty
    have mark : ':' = first := (List.cons_prefix_cons.mp here).1
    subst mark
    rcases List.append_eq_append_iff.mp whole with ⟨middle, inFront, split⟩ | ⟨middle, _, rest⟩
    · cases middle with
      | nil => exact colon ((show ':' :: others = secret from split) ▸ List.mem_cons_self)
      | cons sign middle =>
          rw [split, List.append_assoc] at here
          -- A mark that begins in the front lies within it, as the last character of the front is
          -- part of no mark.
          rcases List.prefix_or_prefix_of_prefix here (List.prefix_append (sign :: middle) _)
            with inside | across
          · exact begun (inside.isInfix.trans ⟨start, [], by rw [inFront, List.append_nil]⟩)
          · have last : (sign :: middle).getLast? = some '=' := by
              rw [inFront, List.getLast?_append] at ends
              simpa using ends
            exact absurd (across.subset (List.mem_of_getLast? last)) (by decide)
    · exact colon (rest ▸ List.mem_append_right middle List.mem_cons_self)

/-!
## Passwords
-/

def shown (database : Database) : String × String := (database.redactedUrl, database.describe)

theorem shown_congr (database : Database) {one other : String}
    (same : redacted one.toList = redacted other.toList) :
    (database.withUrl one).shown = (database.withUrl other).shown := by
  have url : (database.withUrl one).redactedUrl = (database.withUrl other).redactedUrl :=
    congrArg String.ofList same
  refine Prod.ext url ?_
  change (database.withUrl one).describe = (database.withUrl other).describe
  delta describe
  rewrite [url]
  rfl

theorem redacted_assembled (user : String) {first second : String} (nonempty : first ≠ "")
    (otherNonempty : second ≠ "") (host : String) (port : Nat) (name parameters : String) :
    redacted (assembled user first host port name parameters) =
      redacted (assembled user second host port name parameters) := by
  have covers : Covers (postgres ++ schemeMark ++ (user.toList ++ [':']))
      ('@' :: (location host port name ++ query parameters)) :=
    ⟨⟨postgres, _, rfl, by simp⟩, List.mem_cons_self⟩
  have split : ∀ {password : String}, password ≠ "" →
    assembled user password host port name parameters =
      postgres ++ schemeMark ++ (user.toList ++ [':']) ++ password.toList ++ '@' ::
        (location host port name ++ query parameters) := by
    intro password some
    rw [assembled, credentials, if_neg some]
    simp only [List.append_assoc, List.cons_append, List.nil_append]
  rw [split nonempty, split otherNonempty]
  exact covers.redacted_eq first.toList second.toList

theorem shown_assembled {one two : Settings} {first second : String}
    (absent : one.get? "DATABASE_URL" = none)
    (alike : ∀ name, name ≠ "DB_PASSWORD" → one.get? name = two.get? name)
    (given : one.get? "DB_PASSWORD" = some first) (nonempty : first ≠ "")
    (otherGiven : two.get? "DB_PASSWORD" = some second) (otherNonempty : second ≠ "") :
    (ofSettings one).map shown = (ofSettings two).map shown := by
  have otherAbsent : two.get? "DATABASE_URL" = none :=
    (alike "DATABASE_URL" (by decide)).symm.trans absent
  have sameLimits : limits one = limits two :=
    limits_congr fun name member => alike name (by rintro rfl; revert member; decide)
  have port := Settings.natural_congr (alike "DB_PORT" (by decide)) "5432" "a valid u16" 16
  have password : one.getOr "DB_PASSWORD" "" = first := by rw [Settings.getOr, given]; rfl
  have otherPassword : two.getOr "DB_PASSWORD" "" = second := by
    rw [Settings.getOr, otherGiven]; rfl
  rw [ofSettings_assembled absent, ofSettings_assembled otherAbsent, assembledUrl_eq,
    assembledUrl_eq, port, password, otherPassword, sameLimits,
    Settings.getOr_congr (alike "DB_USERNAME" (by decide)),
    Settings.getOr_congr (alike "DB_HOST" (by decide)),
    Settings.getOr_congr (alike "DB_NAME" (by decide)),
    Settings.getOr_congr (alike "DB_PARAMS" (by decide))]
  cases two.natural "DB_PORT" "5432" "a valid u16" 16 with
  | error problem => rfl
  | ok port =>
      cases limits two with
      | error problem => rfl
      | ok database =>
          refine congrArg Except.ok (shown_congr database ?_)
          rw [String.toList_ofList, String.toList_ofList]
          exact redacted_assembled _ nonempty otherNonempty _ _ _ _

/-- What is shown does not depend on the password of the credentials, whatever any of the texts
contain, and of a shown address nothing more is hidden. -/
theorem passwords_redacted :
    (∀ (database : Database) (scheme user first second host : String),
        (database.withUrl (scheme ++ "://" ++ user ++ ":" ++ first ++ "@" ++ host)).shown =
          (database.withUrl (scheme ++ "://" ++ user ++ ":" ++ second ++ "@" ++ host)).shown) ∧
      (∀ (one two : Settings) (first second : String), one.get? "DATABASE_URL" = none →
        (∀ name, name ≠ "DB_PASSWORD" → one.get? name = two.get? name) →
        one.get? "DB_PASSWORD" = some first → first ≠ "" → two.get? "DB_PASSWORD" = some second →
          second ≠ "" →
        (ofSettings one).map shown = (ofSettings two).map shown) ∧
      ∀ database : Database, (database.withUrl database.redactedUrl).redactedUrl =
        database.redactedUrl := by
  refine ⟨fun database scheme user first second host => ?_, ?_, fun database => ?_⟩
  · have covers : Covers (scheme.toList ++ schemeMark ++ (user.toList ++ [':']))
        ('@' :: host.toList) :=
      ⟨⟨scheme.toList, _, rfl, by simp⟩, List.mem_cons_self⟩
    have split : ∀ password : String,
      (scheme ++ "://" ++ user ++ ":" ++ password ++ "@" ++ host).toList =
        scheme.toList ++ schemeMark ++ (user.toList ++ [':']) ++ password.toList ++
          '@' :: host.toList := by
      intro password
      simp [schemeMark]
    refine shown_congr database ?_
    rw [split first, split second]
    exact covers.redacted_eq first.toList second.toList
  · intro one two first second absent alike given nonempty otherGiven otherNonempty
    exact shown_assembled absent alike given nonempty otherGiven otherNonempty
  · rw [redactedUrl, redactedUrl, withUrl, String.toList_ofList, redacted_redacted]

def trickySettings : Settings := [("DB_PASSWORD", "p@ss://w:rd/"), ("DB_HOST", "db@://")]

theorem passwords_redacted_sample :
    (ofSettings trickySettings).map shown =
      (ofSettings [("DB_PASSWORD", "secret"), ("DB_HOST", "db@://")]).map shown := by
  refine passwords_redacted.2.1 _ _ "p@ss://w:rd/" "secret" rfl ?_ rfl (by decide) rfl (by decide)
  intro name different
  rw [trickySettings, Settings.get?_cons_other different, Settings.get?_cons_other different]

/-!
## Passwords among the parameters
-/

def passwordName : List Char := ['p', 'a', 's', 's', 'w', 'o', 'r', 'd', '=']

/-- Whether a text can be the value of a parameter as it is, and has no at sign. -/
structure IsValue (text : List Char) : Prop where
  noParameter : '&' ∉ text
  noFragment : '#' ∉ text
  noSign : '@' ∉ text

def withPassword (front back secret : List Char) : List Char :=
  front ++ passwordName ++ secret ++ back

/-- Whether a password is shown in full by the address and, with escapes, by the whole, as long as
it has no colon. -/
def Leaks (database : Database) (front back : List Char) : Prop :=
  ∃ before after beforeQuoted afterQuoted, ∀ secret, IsValue secret → ':' ∉ secret →
    (database.withUrl (String.ofList (withPassword front back secret))).redactedUrl.toList =
      before ++ secret ++ after ∧
    (database.withUrl (String.ofList (withPassword front back secret))).describe.toList =
      beforeQuoted ++ secret.flatMap quotedChar ++ afterQuoted

theorem describe_withUrl (database : Database) :
    ∃ before after, ∀ url, (database.withUrl url).describe.toList =
      before ++ quoted (redacted url.toList) ++ after := by
  refine ⟨"DatabaseConfig \x7b url: ".toList,
    ", max_connections: ".toList ++ (toString database.maxConnections).toList ++
    ", idle_timeout: ".toList ++ (secondsText database.idleTimeout).toList ++
    ", acquire_timeout: ".toList ++ (secondsText database.acquireTimeout).toList ++
    ", run_migrations: ".toList ++ (toString database.runMigrations).toList ++ " \x7d".toList,
    fun url => ?_⟩
  delta describe
  simp only [String.toList_append, quote, redactedUrl, withUrl,
    String.toList_ofList, List.append_assoc]

theorem leaks_of_shows {database : Database} (shows : Shows (front ++ passwordName) back) :
    Leaks database front back := by
  obtain ⟨before, after, shown⟩ := shows
  obtain ⟨opening, outro, described⟩ := describe_withUrl database
  refine ⟨before, after, opening ++ '"' :: before.flatMap quotedChar,
    after.flatMap quotedChar ++ '"' :: outro, fun secret value colon => ?_⟩
  have same := shown secret colon value.noSign
  constructor
  · rw [redactedUrl, String.toList_ofList, withUrl, String.toList_ofList, withPassword, same]
  · rw [described, String.toList_ofList, withPassword, same, quoted]
    simp

theorem Leaks.exposes {database : Database} (leaks : Leaks database front back) :
    ¬ ∀ one other, IsValue one → IsValue other →
      (database.withUrl (String.ofList (withPassword front back one))).shown =
      (database.withUrl (String.ofList (withPassword front back other))).shown := by
  intro same
  obtain ⟨before, after, _, _, shown⟩ := leaks
  have empty : IsValue [] := ⟨List.not_mem_nil, List.not_mem_nil, List.not_mem_nil⟩
  have letter : IsValue ['x'] := ⟨by decide, by decide, by decide⟩
  have equal := congrArg (fun pair : String × String => pair.1.toList) (same [] ['x'] empty letter)
  simp only [Database.shown, (shown [] empty (by decide)).1, (shown ['x'] letter (by decide)).1]
    at equal
  have length := congrArg List.length equal
  simp only [List.length_append, List.length_nil, List.length_cons] at length
  omega

theorem hidden_or_leaks (database : Database) (front back : List Char) :
    Covers (front ++ passwordName) back ∨ Leaks database front back := by
  by_cases covers : Covers (front ++ passwordName) back
  · exact .inl covers
  · exact .inr (leaks_of_shows (shows_of_not_covers (by simp [passwordName]) covers))

def withParameters (settings : Settings) (front back secret : List Char) : Settings :=
  ("DB_PARAMS", String.ofList (withPassword front back secret)) :: settings

theorem query_withPassword (front back secret : List Char) :
    query (String.ofList (withPassword front back secret)) =
      '?' :: withPassword (front.dropWhile (· == '?')) back secret := by
  have some : String.ofList (withPassword front back secret) ≠ "" := by
    intro empty
    have chars := congrArg String.toList empty
    simp [withPassword, passwordName] at chars
  rw [query, if_neg some, String.toList_ofList]
  simp only [withPassword, List.append_assoc, List.dropWhile_append]
  split
  · next none => simp [List.isEmpty_iff.mp none, passwordName]
  · rfl

/-- Parameters that are put into accepted settings give an address with the same password, which has
a colon before it. -/
theorem ofSettings_withParameters {settings : Settings} {database : Database}
    (absent : settings.get? "DATABASE_URL" = none) (accepted : ofSettings settings = .ok database)
    (front back : List Char) :
    ∃ address, (∀ secret, ofSettings (withParameters settings front back secret) =
        .ok (database.withUrl (String.ofList (withPassword address back secret)))) ∧
      ∃ before after, address ++ passwordName = before ++ schemeMark ++ after ∧ ':' ∈ after := by
  rw [ofSettings_assembled absent, assembledUrl_eq] at accepted
  cases port : settings.natural "DB_PORT" "5432" "a valid u16" 16 with
  | error problem =>
      rw [port] at accepted
      cases accepted
  | ok number =>
      cases read : limits settings with
      | error problem =>
          rw [port, read] at accepted
          cases accepted
      | ok base =>
          rw [port, read] at accepted
          cases accepted
          refine ⟨postgres ++ schemeMark ++
            (credentials (settings.getOr "DB_USERNAME" "postgres")
              (settings.getOr "DB_PASSWORD" "") ++ '@' ::
              (location (settings.getOr "DB_HOST" "localhost") number
                (settings.getOr "DB_NAME" "ewallet") ++ '?' :: front.dropWhile (· == '?'))),
            fun secret => ?_, postgres, _, List.append_assoc _ _ _, by simp [location]⟩
          have other : ∀ {name}, name ≠ "DB_PARAMS" →
              (withParameters settings front back secret).get? name = settings.get? name :=
            fun different => Settings.get?_cons_other different _ _
          have parameters : (withParameters settings front back secret).getOr "DB_PARAMS" "" =
              String.ofList (withPassword front back secret) := by
            rw [Settings.getOr, withParameters, Settings.get?_cons_self]
            rfl
          rw [ofSettings_assembled ((other (by decide)).trans absent), assembledUrl_eq, parameters,
            Settings.natural_congr (other (by decide)) "5432" "a valid u16" 16, port,
            limits_congr fun name member => other (by rintro rfl; revert member; decide), read,
            Settings.getOr_congr (other (by decide)) "postgres",
              Settings.getOr_congr (other (by decide)) "localhost",
            Settings.getOr_congr (other (by decide)) "ewallet",
              Settings.getOr_congr (other (by decide) : _ = settings.get? "DB_PASSWORD") ""]
          refine congrArg (fun url => Except.ok (withUrl base (String.ofList url))) ?_
          rw [assembled, query_withPassword, withPassword, withPassword]
          simp only [List.append_assoc, List.cons_append]

/-- A password among the parameters is hidden only if an at sign comes after it and a colon before
it, after the scheme; otherwise it is shown in full. In an address that is put together there is
always such a colon. -/
theorem parameter_passwords_shown (database : Database) (front back : List Char) :
    ((∀ one other, IsValue one → IsValue other →
      (database.withUrl (String.ofList (withPassword front back one))).shown =
        (database.withUrl (String.ofList (withPassword front back other))).shown) ↔
          Covers (front ++ passwordName) back) ∧
      (Covers (front ++ passwordName) back ∨ Leaks database front back) ∧
      ∀ settings : Settings, settings.get? "DATABASE_URL" = none →
        ofSettings settings = .ok database →
        ∃ address, (∀ secret, ofSettings (withParameters settings front back secret) =
            .ok (database.withUrl (String.ofList (withPassword address back secret)))) ∧
          (Covers (address ++ passwordName) back ↔ '@' ∈ back) := by
  refine ⟨⟨fun same => ?_, fun covers one other _ _ => ?_⟩, hidden_or_leaks database front back,
    fun settings absent accepted => ?_⟩
  · exact (hidden_or_leaks database front back).resolve_right fun leaks => leaks.exposes same
  · refine shown_congr database ?_
    rw [String.toList_ofList, String.toList_ofList, withPassword, withPassword]
    exact covers.redacted_eq one other
  · obtain ⟨address, given, opened⟩ := ofSettings_withParameters absent accepted front back
    exact ⟨address, given, fun covers => covers.closed, fun closed => ⟨opened, closed⟩⟩

theorem parameter_passwords_shown_sample :
    ∃ address, (∀ secret,
      ofSettings (withParameters [] "sslmode=disable&".toList "&x=a@b".toList secret) =
        .ok (withUrl ⟨"postgres://postgres@localhost:5432/ewallet", 90, 10, 30, true⟩
          (String.ofList (withPassword address "&x=a@b".toList secret)))) ∧
      Covers (address ++ passwordName) "&x=a@b".toList := by
  obtain ⟨address, given, covers⟩ :=
    (parameter_passwords_shown ⟨"postgres://postgres@localhost:5432/ewallet", 90, 10, 30, true⟩
      "sslmode=disable&".toList "&x=a@b".toList).2.2 [] rfl rfl
  exact ⟨address, given, covers.mpr (by decide)⟩

theorem parameter_password_leaked :
    (ofSettings [("DATABASE_URL", "postgres://app@db/wallet?password=hunter2")]).map redactedUrl =
        .ok "postgres://app@db/wallet?password=hunter2" ∧
      (ofSettings [("DATABASE_URL", "postgres://app@db/wallet?password=hunter3")]).map redactedUrl =
        .ok "postgres://app@db/wallet?password=hunter3" := by
  constructor <;> rfl

end Database

end Passbook.Config

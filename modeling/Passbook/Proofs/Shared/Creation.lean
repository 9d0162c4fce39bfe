import Passbook.Proofs.Shared.AppendOnly
import Passbook.Proofs.Shared.Plain
import Passbook.Proofs.Shared.Single

/-!
Calls that race for the name of an account. A name is looked up when an account is inserted and
again when it is committed. The commit decides: a call that returns an account has committed it in a
step before which nobody had the name, and from then on everybody else finds the name taken.
-/

set_option autoImplicit false

namespace Passbook.Shared

open Memory (Progress Rearmed Stops)

/-- The result that a call for an account has returned. -/
def State.Returns (state : State) (id : ClientId) (registration : Registration)
    (result : Except StoreError Account) : Prop :=
  ∃ deadline, state.clients id = some (.inquiry (.create registration deadline) (.ended result))

/-- Whether a call for an account of some name has returned one. -/
def State.Wins (state : State) (id : ClientId) (username : String) : Prop :=
  ∃ registration account, state.Returns id registration (.ok account) ∧
    registration.username = username

/-- Whether a call for an account of some name has returned, and was not stopped by an ordered
failure or by its deadline. -/
def State.Concludes (state : State) (id : ClientId) (username : String) : Prop :=
  ∃ registration result, state.Returns id registration result ∧ registration.username = username ∧
    ∀ error, result = .error error → ¬ Stops error

variable {actions earlier moment last another : List Action} {id other reader : ClientId}
  {registration : Registration} {account : Account} {error : StoreError} {deadline : Deadline}
  {unit : UnitId} {username : String} {left : World Memory}

/-!
## What is kept
-/

theorem State.Returns.onwards {result : Except StoreError Account}
    (returns : (run earlier).Returns id registration result) (reached : earlier <+: actions) :
    (run actions).Returns id registration result := by
  obtain ⟨deadline, known⟩ := returns
  obtain ⟨later, rfl⟩ := reached
  exact ⟨deadline, settled_onwards known rfl later⟩

theorem account?_onwards (known : (run earlier).memory.account? account.id = some account)
    (reached : earlier <+: actions) :
    ∃ balance, (run actions).memory.account? account.id = some { account with balance } := by
  obtain ⟨later, rfl⟩ := reached
  exact (extends_onwards earlier later).accounts account.id account known

theorem hasName_of_account? {id : AccountId}
    (known : (run actions).memory.account? id = some account) :
    (run actions).memory.HasName account.username :=
  ⟨account, List.mem_of_find?_eq_some known, rfl⟩

theorem hasName_onwards (named : (run earlier).memory.HasName username)
    (reached : earlier <+: actions) :
    (run actions).memory.HasName username := by
  obtain ⟨account, member, rfl⟩ := named
  obtain ⟨balance, now⟩ :=
    account?_onwards ((owned_run earlier).sound.account?_of_mem member) reached
  exact ⟨{ account with balance }, List.mem_of_find?_eq_some now, rfl⟩

/-!
## How a call goes
-/

/-- The step in which a call commits an account of a name that nobody had before. -/
structure Takes (actions : List Action) (id : ClientId) (registration : Registration)
    (account : Account) (last : List Action) :
    Prop where
  taken : last ++ [.proceed id] <+: actions
  made : account = registration.account account.id
  free : ¬ (run last).memory.HasName registration.username
  committed : (run (last ++ [.proceed id])).memory.account? account.id = some account

theorem Hears.created
    (hears : Hears id (Query.create registration deadline).script unit account moment left last) :
    account = registration.account account.id ∧
      (run last).memory.staged unit = { Staged.empty with created := [account] } := by
  obtain ⟨progress, reply, tried, done⟩ := hears.answers
  cases done
  obtain ⟨made, staged⟩ := Memory.tryInsert_creates hears.blank tried
  refine ⟨made, ?_⟩
  rw [Memory.staged, hears.kept]
  exact staged

theorem single_create {course : Course (Query.Phase UnitId Progress Account) (Query.Result Account)}
    (known : (run actions).clients id = some (.inquiry (.create registration deadline) course)) :
    Single id (.create registration deadline) actions course :=
  single_run (fun reply => ⟨reply, rfl⟩) known

theorem State.Returns.takes (returns : (run actions).Returns id registration (.ok account)) :
    ∃ last, Takes actions id registration account last := by
  obtain ⟨deadline, known⟩ := returns
  cases single_create known with
  | @succeeds unit answer moment last left before taken hears rearmed free published =>
      obtain ⟨made, staged⟩ := hears.created
      have kept : before.staged unit = { Staged.empty with created := [account] } := by
        rw [← staged, rearmed.staged]
      have member : account ∈ (before.staged unit).created := by
        rw [kept]
        exact List.mem_singleton_self account
      have name : account.username = registration.username := congrArg Account.username made
      have stored : account ∈ (run (last ++ [.proceed id])).memory.accounts := by
        rw [published]
        exact Memory.mem_publish member (by rw [kept]; rfl)
      refine ⟨last, taken, made, fun named => ?_, (owned_run _).sound.account?_of_mem stored⟩
      refine Memory.not_hasName_of_free free member ?_
      rw [Memory.HasName, rearmed.accounts, name]
      exact named

/-- A call that fails was stopped, or it found the name taken. -/
theorem State.Returns.refused (returns : (run actions).Returns id registration (.error error)) :
    Stops error ∨
      (error.fault = .conflict ∧ (run actions).memory.HasName registration.username) := by
  obtain ⟨deadline, known⟩ := returns
  cases single_create known with
  | stops stops => exact .inl stops
  | refuses refused =>
      obtain ⟨moment, unit, reached, blank, progress, tried⟩ := refused
      obtain ⟨conflict, named⟩ := Memory.tryInsert_refuses blank tried
      exact .inr ⟨conflict, hasName_onwards named reached⟩
  | clashes reached hears clashes =>
      obtain ⟨made, staged⟩ := hears.created
      obtain ⟨conflict, account, member, named⟩ := clashes
      rw [staged] at member
      obtain rfl := List.mem_singleton.mp member
      rw [made] at named
      exact .inr ⟨conflict, hasName_onwards named reached⟩

/-!
## Winners
-/

private theorem prefix_steps {action next : Action} (one : last ++ [action] <+: actions)
    (two : another ++ [next] <+: actions) :
    (last = another ∧ action = next) ∨ last ++ [action] <+: another ∨
      another ++ [next] <+: last := by
  rcases List.prefix_or_prefix_of_prefix one two with before | before
  · rcases List.prefix_concat_iff.mp before with same | sooner
    · obtain ⟨rfl, final⟩ := List.append_inj' same rfl
      exact .inl ⟨rfl, List.singleton_inj.mp final⟩
    · exact .inr (.inl sooner)
  · rcases List.prefix_concat_iff.mp before with same | sooner
    · obtain ⟨rfl, final⟩ := List.append_inj' same rfl
      exact .inl ⟨rfl, (List.singleton_inj.mp final).symm⟩
    · exact .inr (.inr sooner)

theorem Takes.named (takes : Takes actions id registration account last)
    (reached : last ++ [.proceed id] <+: moment) :
    (run moment).memory.HasName registration.username := by
  have named := hasName_of_account? takes.committed
  rw [takes.made] at named
  exact hasName_onwards named reached

theorem State.Wins.unique (one : (run actions).Wins id username)
    (two : (run actions).Wins other username) : id = other := by
  obtain ⟨registration, account, returns, rfl⟩ := one
  obtain ⟨rival, twin, returnsToo, same⟩ := two
  obtain ⟨last, takes⟩ := returns.takes
  obtain ⟨another, takesToo⟩ := returnsToo.takes
  -- A name goes from free to taken in one step only, so neither step can come before the other.
  rcases prefix_steps takes.taken takesToo.taken with ⟨_, same⟩ | sooner | later
  · cases same
    rfl
  · have named := takes.named sooner
    rw [← same] at named
    exact absurd named takesToo.free
  · have named := takesToo.named later
    rw [same] at named
    exact absurd named takes.free

private theorem Client.Publishes.answers {asked : Inquiry} {world : World Memory}
    {course : Course (Query.Phase UnitId Progress asked.Answer) (Query.Result asked.Answer)}
    (publishes : (Client.inquiry asked course).Publishes world unit) :
    ∃ answer progress, course = .running (.committing unit answer progress) ∧
      ((Client.inquiry asked course).proceed world).1 = .inquiry asked (.ended (.ok answer)) := by
  have commits := publishes.commits
  have succeeds := publishes.succeeds
  cases course with
  | ended result => cases commits
  | dropped => cases commits
  | running phase =>
      cases phase with
      | committing unit answer progress =>
          cases commits
          refine ⟨answer, progress, rfl, ?_⟩
          have move := asked.query.step_move (.committing unit answer progress) world
          have next : ((Client.inquiry asked (.running (.committing unit answer progress))).proceed
            world).1 =
            .inquiry asked
              (.ofTurn (asked.query.step Memory.store (.committing unit answer progress)
                world).1) := rfl
          rw [next] at succeeds ⊢
          generalize
            (asked.query.step Memory.store (.committing unit answer progress) world).1 = turn,
            (asked.query.step Memory.store (.committing unit answer progress) world).2.store = left
            at move succeeds ⊢
          cases move with
          | keepsCommitting rearmed => cases succeeds
          | commits ended => rfl
          | failsToCommit ended => cases succeeds
      | _ => cases commits

private theorem Client.create_of_creates {client : Client} (creates : client.creates = true) :
    ∃ registration deadline course, client = .inquiry (.create registration deadline) course := by
  cases client with
  | posting wanted course => cases creates
  | hand course => cases creates
  | inquiry asked course =>
      cases asked with
      | create registration deadline => exact ⟨registration, deadline, course, rfl⟩
      | _ => cases creates

/-- What a unit has created when it is published is returned by the call that publishes it. -/
private theorem returned_of_created {client : Client}
    (modest : Client.Modest (run actions).memory client)
    (known : (run actions).clients id = some client)
    (publishes : client.Publishes (run actions).world unit)
    (created : account ∈ ((run actions).memory.staged unit).created) :
    ((run actions).memory.staged unit).overlay account = account ∧
      ∃ registration, (run (actions ++ [.proceed id])).Returns id registration (.ok account) := by
  cases creates : client.creates with
  | false =>
      have owns := Client.unit?_of_commits publishes.commits
      rw [(modest creates).2 unit owns] at created
      cases created
  | true =>
      -- The call is about to commit, so its unit has staged what it will return and nothing else.
      obtain ⟨registration, deadline, course, rfl⟩ := Client.create_of_creates creates
      obtain ⟨answer, progress, rfl, next⟩ := publishes.answers
      cases single_create known with
      | committing hears =>
          obtain ⟨made, staged⟩ := hears.created
          rw [staged] at created ⊢
          obtain rfl := List.mem_singleton.mp created
          refine ⟨rfl, registration, deadline, ?_⟩
          rw [← next, run_append]
          exact (State.perform_proceed known).2

/-- An account that is committed after an action was committed before it, or its unit is published
by the action. -/
private theorem accounts_of_perform {state : State} {action : Action}
    (member : account ∈ (state.perform action).memory.accounts) :
    (∃ original ∈ state.memory.accounts, ∃ balance, account = { original with balance }) ∨
      ∃ id client unit, action = .proceed id ∧ state.clients id = some client ∧
        client.Publishes state.world unit ∧
        ∃ original ∈ (state.memory.staged unit).created,
          account = (state.memory.staged unit).overlay original := by
  rcases state.perform_tables action with same | ⟨id, client, unit, rfl, known, publishes⟩
  · have accounts : (state.perform action).memory.accounts = state.memory.accounts :=
      congrArg Prod.fst same
    rw [accounts] at member
    exact .inl ⟨account, member, account.balance, rfl⟩
  · obtain ⟨before, rearmed, free, left⟩ := publishes.leaves known
    rw [left] at member
    obtain ⟨original, among, rfl⟩ := List.mem_map.mp member
    rw [rearmed.accounts, rearmed.staged] at among
    rw [rearmed.staged]
    rcases List.mem_append.mp among with committed | created
    · exact .inl ⟨original, committed, _, rfl⟩
    · exact .inr ⟨id, client, unit, rfl, known, publishes, original, created, rfl⟩

/-- Every committed account was returned by a call, and only its balance can have changed since. -/
theorem returned_run (asked : Asks (fun request => request.creates = false) actions) :
    ∀ account ∈ (run actions).memory.accounts, ∃ id registration first balance,
      (run actions).Returns id registration (.ok first) ∧ account = { first with balance } := by
  induction actions using List.reverseRecOn with
  | nil => exact fun account member => by cases member
  | append_singleton actions action ih =>
      have before : Asks (fun request => request.creates = false) actions :=
        fun id request member =>
        asked id request (List.mem_append_left _ member)
      have next : run (actions ++ [action]) = (run actions).perform action :=
        run_append actions [action]
      intro account member
      rw [next] at member
      rcases accounts_of_perform member with
        ⟨original, committed, balance, rfl⟩ | ⟨id, client, unit, rfl, known, publishes,
          original, created, rfl⟩
      · obtain ⟨id, registration, first, earlier, returns, rfl⟩ := ih before original committed
        exact ⟨id, registration, first, balance, returns.onwards (List.prefix_append _ _), rfl⟩
      · have modest := modest_clients.run before id client known
        obtain ⟨kept, registration, returns⟩ := returned_of_created modest known publishes created
        exact ⟨id, registration, original, original.balance, returns, kept⟩

/-!
## Calls that return no account
-/

theorem Client.isOver_of_hasSucceeded {client : Client} (succeeded : client.hasSucceeded = true) :
    client.isOver = true := by
  cases client using Client.running_or_over with
  | settled client isOver => exact isOver
  | _ => cases succeeded

theorem tookNoEffect_of_failed {client : Client} (known : (run actions).clients id = some client)
    (failed : client.hasSucceeded = false) : TookNoEffect actions id := by
  rintro earlier action ⟨⟨later, rfl⟩, own, changed⟩
  have stepped : run (earlier ++ [action]) = (run earlier).perform action :=
    run_append earlier [action]
  rcases (run earlier).perform_tables action
    with same | ⟨actor, client, unit, rfl, present, publishes⟩
  · exact changed (by rw [stepped]; exact same)
  · cases own
    -- Whoever publishes has succeeded, and stays so.
    have now := (State.perform_proceed present).2
    rw [← stepped] at now
    have settled := settled_onwards now (Client.isOver_of_hasSucceeded publishes.succeeds) later
    cases known.symm.trans settled
    cases failed.symm.trans publishes.succeeds

/-!
## Readers
-/

/-- A reader that was not there at some moment has heard what it heard later. -/
private theorem Hears.late {α : Type} {script : Script α} {answer : α}
    (hears : Hears reader script unit answer moment left last)
    (absent : (run earlier).clients reader = none) (reached : earlier <+: actions)
    (taken : last ++ [.proceed reader] <+: actions) :
    earlier <+: moment := by
  have heard : moment <+: actions :=
    ((List.prefix_append _ _).trans hears.taken).trans ((List.prefix_append _ _).trans taken)
  rcases List.prefix_or_prefix_of_prefix heard reached with ⟨later, rfl⟩ | before
  · exact absurd absent (present_onwards hears.present later)
  · exact before

private theorem State.Returns.found (returns : (run earlier).Returns id registration (.ok account))
    (reached : earlier <+: actions) :
    ∃ balance, (run actions).memory.account? account.id = some { account with balance } := by
  obtain ⟨last, takes⟩ := returns.takes
  exact account?_onwards takes.committed (takes.taken.trans reached)

private theorem found_by_id {answer : Option Account}
    (returns : (run earlier).Returns id registration (.ok account)) (reached : earlier <+: actions)
    (absent : (run earlier).clients reader = none)
    (known : (run actions).clients reader =
      some (.inquiry (.byId account.id deadline) (.ended (.ok answer)))) :
    ∃ balance, answer = some { account with balance } := by
  have single : Single reader (.byId account.id deadline) actions (.ended (.ok answer)) :=
    single_run (fun reply => ⟨reply, rfl⟩) known
  cases single with
  | succeeds taken hears rearmed free published =>
      obtain ⟨balance, now⟩ := returns.found (hears.late absent reached taken)
      obtain ⟨progress, reply, tried, done⟩ := hears.answers
      cases done
      cases tried
      exact ⟨balance, (Memory.view_of_empty hears.blank account.id).trans now⟩

private theorem found_by_name {answer : Option Account}
    (returns : (run earlier).Returns id registration (.ok account)) (reached : earlier <+: actions)
    (absent : (run earlier).clients reader = none)
    (known : (run actions).clients reader =
      some (.inquiry (.byName registration.username deadline) (.ended (.ok answer)))) :
    ∃ balance, answer = some { account with balance } := by
  have single : Single reader (.byName registration.username deadline) actions
      (.ended (.ok answer)) :=
    single_run (fun reply => ⟨reply, rfl⟩) known
  cases single with
  | succeeds taken hears rearmed free published =>
      obtain ⟨balance, now⟩ := returns.found (hears.late absent reached taken)
      obtain ⟨last, takes⟩ := returns.takes
      have name : account.username = registration.username := congrArg Account.username takes.made
      obtain ⟨progress, reply, tried, done⟩ := hears.answers
      cases done
      cases tried
      have named := Memory.named_of_blank { account with balance } (intact_run _) hears.blank now
      exact ⟨balance, name ▸ named⟩

/-!
## One winner for each name
-/

/-- What the calls for accounts that are made in a run make of their names. -/
structure OneWinner (actions : List Action) : Prop where
  made : ∀ id registration account, (run actions).Returns id registration (.ok account) →
    account = registration.account account.id
  unique : ∀ username one other, (run actions).Wins one username →
    (run actions).Wins other username → one = other
  uncommitted : ∀ moment, moment <+: actions → ∀ username, ¬ (run moment).memory.HasName username →
    ∀ id, ¬ (run moment).Wins id username
  conflicts : ∀ moment, moment <+: actions →
    ∀ id registration error, (run moment).Returns id registration (.error error) →
    error.fault = .conflict → (run moment).memory.HasName registration.username
  /-- When a call that nothing stopped has returned, exactly one has returned an account. -/
  exactlyOne : ∀ username id, (run actions).Concludes id username →
    ∃! winner, (run actions).Wins winner username
  /-- A call that fails, that is dropped, or that is still under way has added no account. -/
  harmless : ∀ id registration deadline course, (run actions).clients id =
    some (.inquiry (.create registration deadline) course) →
    (∀ account, course ≠ .ended (.ok account)) → TookNoEffect actions id
  returned : ∀ account ∈ (run actions).memory.accounts, ∃ id registration first balance,
    (run actions).Returns id registration (.ok first) ∧ account = { first with balance }
  /-- Whoever asks after the return finds the account, by its number and by its name. -/
  byId : ∀ moment, moment <+: actions →
    ∀ id registration account, (run moment).Returns id registration (.ok account) →
    ∀ reader deadline answer, (run moment).clients reader = none →
      (run actions).clients reader =
        some (.inquiry (.byId account.id deadline) (.ended (.ok answer))) →
      ∃ balance, answer = some { account with balance }
  byName : ∀ moment, moment <+: actions →
    ∀ id registration account, (run moment).Returns id registration (.ok account) →
    ∀ reader deadline answer, (run moment).clients reader = none →
      (run actions).clients reader =
        some (.inquiry (.byName registration.username deadline) (.ended (.ok answer))) →
      ∃ balance, answer = some { account with balance }

private theorem State.Wins.named (wins : (run actions).Wins id username) :
    (run actions).memory.HasName username := by
  obtain ⟨registration, account, returns, rfl⟩ := wins
  obtain ⟨last, takes⟩ := returns.takes
  exact takes.named takes.taken

private theorem winner_of_hasName (asked : Asks (fun request => request.creates = false) actions)
    (named : (run actions).memory.HasName username) :
    ∃ winner, (run actions).Wins winner username := by
  obtain ⟨account, member, rfl⟩ := named
  obtain ⟨winner, registration, first, balance, returns, rfl⟩ := returned_run asked account member
  obtain ⟨last, takes⟩ := returns.takes
  exact ⟨winner, registration, first, returns, (congrArg Account.username takes.made).symm⟩

/-- In a run in which accounts are created by calls only, each name has at most one winner, and the
others fail for a name that is committed or because they are stopped. -/
theorem one_winner_per_name (actions : List Action)
    (asked : Asks (fun request => request.creates = false) actions) :
    OneWinner actions := by
  refine ⟨?_, fun username one other => State.Wins.unique, ?_, ?_, ?_, ?_,
    returned_run asked, ?_, ?_⟩
  · intro id registration account returns
    obtain ⟨last, takes⟩ := returns.takes
    exact takes.made
  · exact fun moment reached username free id wins => free wins.named
  · intro moment reached id registration error returns conflict
    rcases returns.refused with stops | ⟨-, named⟩
    · exact absurd stops (Memory.not_stops_of_conflict conflict)
    · exact named
  · rintro username id ⟨registration, result, returns, rfl, unstopped⟩
    have named : (run actions).memory.HasName registration.username := by
      cases result with
      | ok account => exact State.Wins.named ⟨registration, account, returns, rfl⟩
      | error error => exact (returns.refused.resolve_left (unstopped error rfl)).2
    obtain ⟨winner, wins⟩ := winner_of_hasName asked named
    exact ⟨winner, wins, fun other winsToo => winsToo.unique wins⟩
  · intro id registration deadline course known failed
    refine tookNoEffect_of_failed known ?_
    cases course with
    | running phase => rfl
    | dropped => rfl
    | ended result =>
        cases result with
        | error error => rfl
        | ok account => exact absurd rfl (failed account)
  · exact fun moment reached id registration account returns reader deadline answer =>
      found_by_id returns reached
  · exact fun moment reached id registration account returns reader deadline answer =>
      found_by_name returns reached

/-- Two calls for the same name insert their accounts before either commits. The one that came
second commits first. -/
def sampleRace : List Action :=
  [.inquire (.create sampleRegistration .never), .inquire (.create sampleRegistration .never)] ++
    List.replicate 2 (.proceed ⟨1⟩) ++ List.replicate 3 (.proceed ⟨2⟩) ++ [.proceed ⟨1⟩]

theorem one_winner_per_name_sample :
    (run sampleRace).Returns ⟨2⟩ sampleRegistration (.ok (sampleRegistration.account ⟨2⟩)) ∧
      (run sampleRace).Returns ⟨1⟩ sampleRegistration
        (.error ⟨.conflict, "username 'alice' already exists"⟩) ∧
      (∃! winner, (run sampleRace).Wins winner sampleRegistration.username) ∧
        TookNoEffect sampleRace ⟨1⟩ := by
  have asked : Asks (fun request => request.creates = false) sampleRace := by
    intro id request member
    simp [sampleRace] at member
  have loses : (run sampleRace).Returns ⟨1⟩ sampleRegistration
      (.error ⟨.conflict, "username 'alice' already exists"⟩) :=
    ⟨.never, rfl⟩
  have race := one_winner_per_name sampleRace asked
  refine ⟨⟨.never, rfl⟩, loses, race.exactlyOne _ ⟨1⟩ ⟨_, _, loses, rfl, ?_⟩,
    race.harmless _ _ _ _ loses.choose_spec ?_⟩
  · rintro error ⟨⟩
    exact Memory.not_stops_of_conflict rfl
  · rintro account ⟨⟩

end Passbook.Shared

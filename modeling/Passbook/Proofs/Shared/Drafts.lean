import Passbook.Proofs.Memory.Refusals
import Passbook.Proofs.Shared.Invariant

/-!
What inquiries stage and publish. A call for an account stages the account that it is going to
return and nothing else, any other inquiry stages nothing; so the former publishes one row in the
step in which it succeeds, and the latter leave the committed ledger alone.
-/

set_option autoImplicit false

namespace Passbook

open Memory (Progress Rearmed)

/-- What a unit has staged that has created one account. -/
def Staged.founding (account : Account) : Staged := { Staged.empty with created := [account] }

/-- Whether a script, made by a unit that has staged nothing, leads to answers that go with what the
unit has staged by then. -/
def Script.Stages {α : Type} (goes : α → Staged → Prop) : Script α → Prop
  | .done answer => goes answer .empty
  | .ask (.insert registration) next =>
      ∀ id, ∃ answer, next (registration.account id) = .done answer ∧
        goes answer (.founding (registration.account id))
  | .ask request next => request.writes = false ∧ ∀ reply, (next reply).Stages goes

/-- Whether the unit of a query has staged what goes with its answer, or nothing if there is no
answer yet. -/
def Query.Phase.Stages {α : Type} (goes : α → Staged → Prop) (memory : Memory) :
    Query.Phase UnitId Progress α → Prop
  | .opening _ => True
  | .asking unit request next _ =>
      memory.units unit = some .empty ∧ (Script.ask request next).Stages goes
  | .committing unit answer _ => ∃ staged, memory.units unit = some staged ∧ goes answer staged
  | .undoing _ _ _ => True

namespace Query

variable {α : Type} {goes : α → Staged → Prop} {unit : UnitId} {memory after : Memory}
  {world : World Memory}

private theorem stages_proceed {script : Script α} (blank : memory.units unit = some .empty)
    (stages : script.Stages goes) :
    (proceed Memory.store unit script).Stages goes memory := by
  cases script with
  | done answer => exact ⟨.empty, blank, stages⟩
  | ask request next => exact ⟨blank, stages⟩

theorem Phase.Stages.congr {phase : Phase UnitId Progress α} (stages : phase.Stages goes memory)
    (kept : ∀ unit, phase.unit? = some unit → after.units unit = memory.units unit) :
    phase.Stages goes after := by
  cases phase with
  | opening progress => trivial
  | asking unit request next progress => exact ⟨(kept unit rfl).trans stages.1, stages.2⟩
  | committing unit answer progress =>
      obtain ⟨staged, known, goes⟩ := stages
      exact ⟨staged, (kept unit rfl).trans known, goes⟩
  | undoing unit cause progress => trivial

private theorem stages_hears {request : Request} {next : request.Reply → Script α}
    {progress : Progress} {reply : request.Reply} {left : World Memory}
    (blank : world.store.units unit = some .empty) (stages : (Script.ask request next).Stages goes)
    (tried : Memory.tryAsk unit request progress world = (.ready (.ok reply), left)) :
    (proceed Memory.store unit (next reply)).Stages goes left.store := by
  have staging := Memory.tryAsk_staging unit request progress world
  rw [tried] at staging
  have unwritten : request.writes = false → left.store.units unit = some .empty := by
    intro reads
    generalize left.store = after at staging ⊢
    cases staging with
    | nothing unwritten unheard => exact (congrFun unwritten.units unit).trans blank
    | creates registration free => cases reads
    | sets id balance unwritten => cases reads
    | appends draft time unwritten => cases reads
  cases request with
  | insert registration =>
      obtain ⟨answer, done, goes⟩ := stages ⟨world.store.lastAccount + 1⟩
      generalize left.store = after at staging ⊢
      cases staging with
      | nothing unwritten unheard => exact absurd rfl (unheard rfl reply)
      | creates _ free =>
          rw [show next (world.store.create unit registration).1 = .done answer from done]
          refine ⟨_, Memory.units_stage_same _ _ _, ?_⟩
          rw [Memory.staged_of_units blank]
          exact goes
  | lock id deadline => exact stages_proceed (unwritten rfl) (stages.2 reply)
  | find id => exact stages_proceed (unwritten rfl) (stages.2 reply)
  | findName username => exact stages_proceed (unwritten rfl) (stages.2 reply)
  | list id => exact stages_proceed (unwritten rfl) (stages.2 reply)
  | setBalance id balance => cases stages.1
  | append draft => cases stages.1

theorem Move.stages {query : Query α} {phase : Phase UnitId Progress α}
    {turn : Turn (Phase UnitId Progress α) (Result α)} (move : query.Move world phase turn after)
    (script : query.script.Stages goes) (stages : phase.Stages goes world.store) :
    (Shared.Course.ofTurn turn).WhileRunning fun next => next.Stages goes after := by
  cases move with
  | keepsOpening opening => trivial
  | opens opening =>
      cases opening with
      | opens rearmed => exact stages_proceed (assign_same _ _ _) script
  | failsToOpen opening => trivial
  | keepsAsking tried =>
      exact ⟨(congrFun (Memory.units_of_waiting tried) _).trans stages.1, stages.2⟩
  | hears tried => exact stages_hears stages.1 stages.2 tried
  | fails tried => trivial
  | keepsCommitting rearmed =>
      exact Phase.Stages.congr stages fun unit _ => congrFun rearmed.units unit
  | commits ended => trivial
  | failsToCommit ended => trivial
  | keepsUndoing rearmed => trivial
  | undoes ended => trivial

/-- What a step of a query does to the committed ledger: nothing, unless it succeeds and publishes
what goes with its answer. -/
theorem Move.tables {query : Query α} {phase : Phase UnitId Progress α}
    {turn : Turn (Phase UnitId Progress α) (Result α)} (move : query.Move world phase turn after)
    (stages : phase.Stages goes world.store) :
    (∃ unit answer before staged, turn = .ends (.ok answer) ∧ goes answer staged ∧
      Rearmed world.store before ∧
        before.staged unit = staged ∧ after = before.publish unit) ∨
      ((∀ answer, turn ≠ .ends (.ok answer)) ∧ after.tables = world.store.tables) := by
  have opened : ∀ {result}, Memory.Opening world.store result after →
      after.tables = world.store.tables := by
    intro result opening
    cases opening with
    | waits progress rearmed => exact rearmed.tables
    | opens rearmed => exact rearmed.tables
    | fails error rearmed => exact rearmed.tables
  have asked : ∀ {unit request progress result left},
    Memory.tryAsk unit request progress world = (result, left) →
      left.store.tables = world.store.tables := by
    intro unit request progress result left tried
    have acts := Memory.tryAsk_acts unit request progress world
    rw [tried] at acts
    exact acts.tables
  cases move with
  | keepsOpening opening => exact .inr ⟨by simp, opened opening⟩
  | opens opening => exact .inr ⟨by simp, opened opening⟩
  | failsToOpen opening => exact .inr ⟨by simp, opened opening⟩
  | keepsAsking tried => exact .inr ⟨by simp, asked tried⟩
  | hears tried => exact .inr ⟨by simp, asked tried⟩
  | fails tried => exact .inr ⟨by simp, asked tried⟩
  | keepsCommitting rearmed => exact .inr ⟨by simp, rearmed.tables⟩
  | commits ended =>
      obtain ⟨staged, known, goes⟩ := stages
      cases ended with
      | discards rearmed unpublished => exact absurd rfl (unpublished rfl)
      | publishes rearmed free =>
          exact .inl ⟨_, _, _, staged, rfl, goes, rearmed,
            (rearmed.staged _).trans (Memory.staged_of_units known), rfl⟩
  | failsToCommit ended =>
      cases ended with
      | discards rearmed unpublished => exact .inr ⟨by simp, rearmed.tables⟩
  | keepsUndoing rearmed => exact .inr ⟨by simp, rearmed.tables⟩
  | undoes ended =>
      cases ended with
      | discards rearmed unpublished => exact .inr ⟨by simp, rearmed.tables⟩

end Query

namespace Shared

/-- What goes with an answer of an inquiry: the account that it has founded, or nothing. -/
def Inquiry.Goes : (asked : Inquiry) → asked.Answer → Staged → Prop
  | .create registration _, account, staged =>
      staged = .founding account ∧ ∃ id, account = registration.account id
  | .byId _ _, _, staged => staged = .empty
  | .byName _ _, _, staged => staged = .empty
  | .history _ _, _, staged => staged = .empty
  | .statement _ _, _, staged => staged = .empty

theorem Inquiry.stages_query (asked : Inquiry) : asked.query.script.Stages asked.Goes := by
  cases asked with
  | create registration deadline => exact fun id => ⟨_, rfl, rfl, id, rfl⟩
  | byId id deadline => exact ⟨rfl, fun _ => rfl⟩
  | byName username deadline => exact ⟨rfl, fun _ => rfl⟩
  | history id deadline => exact ⟨rfl, fun _ => rfl⟩
  | statement id deadline =>
      refine ⟨rfl, fun reply => ?_⟩
      cases reply with
      | none => rfl
      | some account => exact ⟨rfl, fun _ => rfl⟩

/-- Whether an inquiry has staged what goes with its answer. -/
def Client.Drafts (memory : Memory) : Client → Prop
  | .inquiry asked course => course.WhileRunning fun phase => phase.Stages asked.Goes memory
  | _ => True

variable {memory after : Memory} {client : Client}

private theorem drafts_of_isOver (isOver : client.isOver = true) : client.Drafts memory := by
  cases client with
  | posting wanted course => trivial
  | inquiry asked course => cases course <;> trivial
  | hand course => trivial

theorem drafts_clients : Invariant (fun _ => True) Client.Drafts where
  rearms {memory after client} rearmed drafts := by
    cases client using Client.running_or_over with
    | posting wanted phase => trivial
    | inquiry asked phase =>
        exact Query.Phase.Stages.congr drafts fun unit _ => congrFun rearmed.units unit
    | hand task => trivial
    | settled client isOver => exact drafts_of_isOver isOver
  posts memory posting := trivial
  inquires memory inquiry := trivial
  opens memory deadline := trivial
  asks allowed drafts := trivial
  finishes drafts := trivial
  proceeds client world drafts := by
    cases client using Client.running_or_over with
    | posting wanted phase => trivial
    | inquiry asked phase =>
        exact (asked.query.step_move phase world).stages asked.stages_query drafts
    | hand task => trivial
    | settled client isOver => rwa [Client.proceed_of_isOver isOver]
  givesUp client world drafts := by
    cases client using Client.running_or_over with
    | posting wanted phase => trivial
    | inquiry asked phase => trivial
    | hand task => trivial
    | settled client isOver => rwa [Client.giveUp_of_isOver isOver]
  others {memory after client other next} drafts otherDrafts effect apart := by
    cases client using Client.running_or_over with
    | posting wanted phase => trivial
    | inquiry asked phase =>
        exact Query.Phase.Stages.congr drafts fun unit has =>
          effect.units_other (apart unit has).1 (apart unit has).2
    | hand task => trivial
    | settled client isOver => exact drafts_of_isOver isOver

/-!
## What is published
-/

/-- What the commit of a new account does to the committed ledger: one row more, under a new number.
-/
structure Founds (registration : Registration) (account : Account)
    (memory after : Memory) : Prop where
  made : account = registration.account account.id
  fresh : ∀ other ∈ memory.accounts, other.id ≠ account.id
  accounts : after.accounts = memory.accounts ++ [account]
  entries : after.entries = memory.entries

theorem Founds.tables_ne {registration : Registration} {account : Account}
    (founds : Founds registration account memory after) :
    after.tables ≠ memory.tables := by
  intro same
  have unchanged : memory.accounts ++ [account] = memory.accounts :=
    founds.accounts.symm.trans (congrArg Prod.fst same)
  simp at unchanged

private theorem overlay_unstaged {staged : Staged} (unstaged : staged.balances = fun _ => none)
    (accounts : List Account) :
    accounts.map staged.overlay = accounts := by
  refine (List.map_congr_left fun account _ => ?_).trans (List.map_id accounts)
  simp [Staged.overlay, unstaged]

private theorem founds_publish {registration : Registration} {account : Account} {unit : UnitId}
    (sound : Memory.Sound memory) (staged : memory.staged unit = .founding account)
    (made : ∃ id, account = registration.account id) :
    Founds registration account memory (memory.publish unit) where
  made := by
    obtain ⟨id, rfl⟩ := made
    rfl
  fresh other member same := by
    have theirs : account.id.value ∈ memory.accountNumbers none :=
      List.mem_map.mpr ⟨other, member, congrArg AccountId.value same⟩
    have mine : account.id.value ∈ memory.accountNumbers (some unit) := by
      simp [Memory.accountNumbers, staged, Staged.founding]
    cases sound.accounts.apart _ _ _ theirs mine
  accounts := by
    simp only [Memory.publish, Memory.discard, staged]
    exact overlay_unstaged rfl _
  entries := by
    rw [Memory.entries_publish, staged]
    exact List.append_nil _

private theorem tables_publish_empty {unit : UnitId} (staged : memory.staged unit = .empty) :
    (memory.publish unit).tables = memory.tables := by
  have accounts : (memory.publish unit).accounts = memory.accounts := by
    simp only [Memory.publish, Memory.discard, staged]
    rw [show (Staged.empty.created) = [] from rfl, List.append_nil]
    exact overlay_unstaged rfl _
  have entries : (memory.publish unit).entries = memory.entries := by
    rw [Memory.entries_publish, staged]
    exact List.append_nil _
  exact Prod.ext accounts entries

/-- A step of a call for an account changes the committed ledger if it succeeds, by the account that
it returns, and not otherwise. -/
theorem create_step {registration : Registration} {deadline : Deadline}
    {phase : Query.Phase UnitId Progress Account} {world : World Memory}
    (sound : Memory.Sound world.store)
    (drafts : (Client.inquiry (.create registration deadline) (.running phase)).Drafts
      world.store) :
    (∃ account, ((Query.create registration deadline).step Memory.store phase world).1 =
      .ends (.ok account) ∧
        Founds registration account world.store
          ((Query.create registration deadline).step Memory.store phase world).2.store) ∨
      ((∀ account, ((Query.create registration deadline).step Memory.store phase world).1 ≠
        .ends (.ok account)) ∧
        ((Query.create registration deadline).step Memory.store phase world).2.store.tables =
          world.store.tables) := by
  refine ((Query.create registration deadline).step_move phase world |>.tables drafts).imp_left ?_
  rintro ⟨unit, account, before, staged, ends, ⟨rfl, made⟩, rearmed, known, left⟩
  have founds := founds_publish (sound.rearmed rearmed) known made
  refine ⟨account, ends, founds.made, ?_, ?_, ?_⟩
  · rw [← rearmed.accounts]
    exact founds.fresh
  · rw [left, founds.accounts, rearmed.accounts]
  · rw [left, founds.entries, rearmed.entries]

/-- A step of any other inquiry leaves the committed ledger alone. -/
theorem read_step (asked : Inquiry)
    (reads : ∀ answer staged, asked.Goes answer staged → staged = .empty)
    {phase : Query.Phase UnitId Progress asked.Answer} {world : World Memory}
    (drafts : (Client.inquiry asked (.running phase)).Drafts world.store) :
    (asked.query.step Memory.store phase world).2.store.tables = world.store.tables := by
  rcases (asked.query.step_move phase world).tables drafts
    with ⟨unit, answer, before, staged, _, goes, rearmed, known, left⟩ | same
  · rw [left, tables_publish_empty (known.trans (reads answer staged goes))]
    exact rearmed.tables
  · exact same.2

end Shared

end Passbook

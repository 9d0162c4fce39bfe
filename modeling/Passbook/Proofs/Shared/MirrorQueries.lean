import Passbook.Proofs.Shared.MirrorSteps

/-!
Steps of queries in two worlds whose ledgers agree about an account. The scripts that are run in the
two ask the same, and go on in the same way as long as they are told the same.
-/

set_option autoImplicit false

namespace Passbook

open Memory (Progress Alongside Agree Level)
open Shared (Course)

/-- Whether two scripts ask the same about an account, and go on so whatever they are told, if both
are told the same. -/
inductive Script.Level {α : Type} (row : AccountId) (same : Renumbering → α → α → Prop) :
    Renumbering → Script α → Script α → Prop
  | done {renumbering : Renumbering} {one other : α} (related : same renumbering one other) :
      Level row same renumbering (.done one) (.done other)
  | ask {renumbering : Renumbering} {request : Request} {next another : request.Reply → Script α}
      (concerns : request.Concerns row)
      (goesOn : ∀ later : Renumbering,
        (∀ {one other}, renumbering.renames one other → later.renames one other) →
        ∀ reply twin, request.SameReply later reply twin →
        Level row same later (next reply) (another twin)) :
      Level row same renumbering (.ask request next) (.ask request another)

namespace Query

variable {α : Type} {pairing later : Pairing} {row : AccountId} {same : Renumbering → α → α → Prop}
  {whole part : World Memory} {unit twin : UnitId} {drawn : Nat} {query : Query α}

/-- Whether two queries have come equally far, with units that correspond to each other. -/
inductive Phase.Level (row : AccountId) (same : Renumbering → α → α → Prop) (pairing : Pairing) :
    Phase UnitId Progress α → Phase UnitId Progress α → Prop
  | opening (progress : Progress) : Level row same pairing (.opening progress) (.opening progress)
  | asking {unit twin : UnitId} {request : Request} {next another : request.Reply → Script α}
      (paired : pairing.units unit twin)
      (scripts : Script.Level row same pairing.entries (.ask request next) (.ask request another))
      (progress : Progress) :
      Level row same pairing (.asking unit request next progress)
        (.asking twin request another progress)
  | committing {unit twin : UnitId} {one other : α} (paired : pairing.units unit twin)
      (related : same pairing.entries one other) (progress : Progress) :
      Level row same pairing (.committing unit one progress) (.committing twin other progress)
  | undoing {unit twin : UnitId} (paired : pairing.units unit twin) (cause : StoreError)
      (progress : Progress) :
      Level row same pairing (.undoing unit cause progress) (.undoing twin cause progress)

/-- Whether two queries are equally far after a turn. -/
def TurnLevel (row : AccountId) (same : Renumbering → α → α → Prop) (pairing : Pairing)
    (one other : Turn (Phase UnitId Progress α) (Result α)) : Prop :=
  Course.Level (Phase.Level row same pairing) (SameResult (same pairing.entries))
    (.ofTurn one) (.ofTurn other)

theorem proceed_level {script another : Script α} (paired : pairing.units unit twin)
    (scripts : Script.Level row same pairing.entries script another) :
    (proceed Memory.store unit script).Level row same pairing
      (proceed Memory.store twin another) := by
  cases scripts with
  | done related => exact .committing paired related .fresh
  | ask concerns goesOn => exact .asking paired (.ask concerns goesOn) .fresh

theorem finish_agree {one other : Result α} (along : Alongside pairing row whole part)
    (related : SameResult (same pairing.entries) one other) (drawn : Nat) :
    Agree pairing row drawn (TurnLevel row same) (query.finish one whole)
      (query.finish other part) := by
  cases related with
  | fails error =>
      have ended : TurnLevel row same pairing (.ends (.error error)) (.ends (.error error)) :=
        .ended (.fails error)
      unfold finish
      cases query.isReported with
      | true => exact (along.report _ _).agree drawn ended
      | false => exact along.agree drawn ended
  | succeeds related => exact along.agree drawn (.ended (.succeeds related))

/-- Whether answers that are the same stay so when more entries are known to correspond. -/
def Widens (same : Renumbering → α → α → Prop) : Prop :=
  ∀ {renumbering later : Renumbering},
    (∀ {one other}, renumbering.renames one other → later.renames one other) →
    ∀ {one other}, same renumbering one other → same later one other

private theorem opening_agree
    (scripts : ∀ renumbering, Script.Level row same renumbering query.script query.script)
    (along : Alongside pairing row whole part) (progress : Progress) :
    Agree pairing row whole.store.lastUnit (TurnLevel row same)
      (step Memory.store query (.opening progress) whole)
      (step Memory.store query (.opening progress) part) := by
  obtain ⟨later, grows, level, left⟩ := Memory.tryOpenBy_agree along query.deadline progress
  simp only [step]
  generalize Memory.store.tryOpenBy query.deadline progress whole = one,
    Memory.store.tryOpenBy query.deadline progress part = other at level left
  obtain ⟨one, whole⟩ := one
  obtain ⟨other, part⟩ := other
  cases level with
  | waits progress => exact ⟨later, grows, .running (.opening progress), left⟩
  | fails error => exact (finish_agree left (.fails error) _).after grows
  | succeeds paired =>
      exact ⟨later, grows, .running (proceed_level paired (scripts later.entries)), left⟩

private theorem asking_agree {request : Request} {next another : request.Reply → Script α}
    (along : Alongside pairing row whole part) (paired : pairing.units unit twin)
    (scripts : Script.Level row same pairing.entries (.ask request next) (.ask request another))
    (progress : Progress) :
    Agree pairing row whole.store.lastUnit (TurnLevel row same)
      (step Memory.store query (.asking unit request next progress) whole)
      (step Memory.store query (.asking twin request another progress) part) := by
  cases scripts with
  | ask concerns goesOn =>
      obtain ⟨later, grows, level, left⟩ : Agree pairing row whole.store.lastUnit
        (fun later => Level (request.SameReply later.entries))
          (Memory.store.tryAsk _ request progress whole)
        (Memory.store.tryAsk _ request progress part) :=
          Memory.tryAsk_agree along paired concerns progress whole.store.lastUnit
      have still := grows.units paired
      simp only [step]
      generalize Memory.store.tryAsk _ request progress whole = one,
        Memory.store.tryAsk _ request progress part = other at level left
      obtain ⟨one, whole⟩ := one
      obtain ⟨other, part⟩ := other
      cases level with
      | waits progress =>
          have kept : Script.Level row same later.entries (.ask request next)
              (.ask request another) :=
            .ask concerns fun last wider => goesOn last fun renamed => wider (grows.entries renamed)
          exact ⟨later, grows, .running (.asking still kept progress), left⟩
      | fails error => exact ⟨later, grows, .running (.undoing still error .fresh), left⟩
      | succeeds told =>
          exact ⟨later, grows,
            .running (proceed_level still (goesOn later.entries grows.entries _ _ told)), left⟩

private theorem committing_agree {answer other : α} (widens : Widens same)
    (along : Alongside pairing row whole part) (paired : pairing.units unit twin)
    (related : same pairing.entries answer other) (progress : Progress) :
    Agree pairing row whole.store.lastUnit (TurnLevel row same)
      (step Memory.store query (.committing unit answer progress) whole)
      (step Memory.store query (.committing twin other progress) part) := by
  obtain ⟨later, grows, level, left⟩ : Agree pairing row whole.store.lastUnit (fun _ => Level Eq)
    (Memory.store.tryFinish _ .commit progress whole)
      (Memory.store.tryFinish _ .commit progress part) :=
      Memory.tryFinish_agree along paired .commit progress whole.store.lastUnit
  have kept := widens grows.entries related
  simp only [step]
  generalize Memory.store.tryFinish _ .commit progress whole = one,
    Memory.store.tryFinish _ .commit progress part = other at level left
  obtain ⟨one, whole⟩ := one
  obtain ⟨other, part⟩ := other
  cases level with
  | waits progress =>
      exact ⟨later, grows, .running (.committing (grows.units paired) kept progress), left⟩
  | fails error => exact (finish_agree left (.fails error) _).after grows
  | succeeds _ => exact (finish_agree left (.succeeds kept) _).after grows

private theorem undoing_agree (along : Alongside pairing row whole part)
    (paired : pairing.units unit twin) (cause : StoreError) (progress : Progress) :
    Agree pairing row whole.store.lastUnit (TurnLevel row same)
      (step Memory.store query (.undoing unit cause progress) whole)
      (step Memory.store query (.undoing twin cause progress) part) := by
  obtain ⟨later, grows, level, left⟩ : Agree pairing row whole.store.lastUnit (fun _ => Level Eq)
    (Memory.store.tryFinish _ .rollback progress whole)
      (Memory.store.tryFinish _ .rollback progress part) :=
      Memory.tryFinish_agree along paired .rollback progress whole.store.lastUnit
  simp only [step]
  generalize Memory.store.tryFinish _ .rollback progress whole = one,
    Memory.store.tryFinish _ .rollback progress part = other at level left
  obtain ⟨one, whole⟩ := one
  obtain ⟨other, part⟩ := other
  cases level with
  | waits progress =>
      exact ⟨later, grows, .running (.undoing (grows.units paired) cause progress), left⟩
  | fails error => exact (finish_agree (left.report _ _) (.fails cause) _).after grows
  | succeeds _ => exact (finish_agree left (.fails cause) _).after grows

theorem step_agree {one other : Phase UnitId Progress α} (widens : Widens same)
    (scripts : ∀ renumbering, Script.Level row same renumbering query.script query.script)
    (along : Alongside pairing row whole part) (level : one.Level row same pairing other) :
    Agree pairing row whole.store.lastUnit (TurnLevel row same) (step Memory.store query one whole)
      (step Memory.store query other part) := by
  cases level with
  | opening progress => exact opening_agree scripts along progress
  | asking paired scripts progress => exact asking_agree along paired scripts progress
  | committing paired related progress =>
      exact committing_agree widens along paired related progress
  | undoing paired cause progress => exact undoing_agree along paired cause progress

theorem giveUp_alongside {one other : Phase UnitId Progress α}
    (along : Alongside pairing row whole part) (level : one.Level row same pairing other) :
    Alongside pairing row (giveUp Memory.store one whole) (giveUp Memory.store other part) := by
  cases level with
  | opening progress => exact along
  | asking paired scripts progress =>
      cases scripts with
      | ask concerns goesOn => exact (along.withdraw _ paired concerns progress).drop paired
  | committing paired related progress => exact along.drop paired
  | undoing paired cause progress => exact along.drop paired

end Query

/-!
## Queries about other accounts
-/

/-- Whether a script leaves an account alone, whatever it is told. -/
def Script.Avoids {α : Type} (row : AccountId) : Script α → Prop
  | .done _ => True
  | .ask request next => request.Avoids row ∧ ∀ reply, (next reply).Avoids row

namespace Query

variable {α : Type} {pairing : Pairing} {row : AccountId} {whole part : World Memory}
  {unit : UnitId} {query : Query α} {phase : Phase UnitId Progress α}

/-- Whether a query leaves an account alone from now on. -/
def Phase.Avoids (row : AccountId) : Phase UnitId Progress α → Prop
  | .asking _ request next _ => (Script.ask request next).Avoids row
  | _ => True

/-- Whether the unit of a query, if it has one, corresponds to none. -/
def Phase.Lone (pairing : Pairing) (phase : Phase UnitId Progress α) : Prop :=
  ∀ unit, phase.unit? = some unit → ∀ twin, ¬ pairing.units unit twin

theorem proceed_avoids {script : Script α} (avoids : script.Avoids row) (unit : UnitId) :
    (proceed Memory.store unit script).Avoids row := by
  cases script with
  | done answer => trivial
  | ask request next => exact avoids

theorem finish_elsewhere (along : Alongside pairing row whole part) (result : Result α) :
    Alongside pairing row (query.finish result whole : Turn (Phase UnitId Progress α) (Result α) ×
      World Memory).2 part := by
  cases result with
  | ok answer => exact along
  | error error =>
      unfold finish
      cases query.isReported with
      | true => exact along.reportWhole _
      | false => exact along

theorem step_elsewhere (avoidsAll : query.script.Avoids row)
    (along : Alongside pairing row whole part) (avoids : phase.Avoids row)
    (lone : phase.Lone pairing) :
    Alongside pairing row (step Memory.store query phase whole).2 part ∧
      (Course.ofTurn (step Memory.store query phase whole).1).WhileRunning (Phase.Avoids row) := by
  cases phase with
  | opening progress =>
      have left := Memory.tryOpenBy_elsewhere along query.deadline progress
      simp only [step]
      generalize Memory.store.tryOpenBy query.deadline progress whole = tried at left
      obtain ⟨progress | (error | unit), after⟩ := tried
      · exact ⟨left, trivial⟩
      · exact ⟨finish_elsewhere left _, trivial⟩
      · exact ⟨left, proceed_avoids avoidsAll unit⟩
  | asking unit request next progress =>
      have left : Alongside pairing row (Memory.store.tryAsk unit request progress whole).2 part :=
        Memory.tryAsk_elsewhere along (lone unit rfl) avoids.1 progress
      simp only [step]
      generalize Memory.store.tryAsk unit request progress whole = tried at left
      obtain ⟨progress | (error | reply), after⟩ := tried
      · exact ⟨left, avoids⟩
      · exact ⟨left, trivial⟩
      · exact ⟨left, proceed_avoids (avoids.2 reply) unit⟩
  | committing unit answer progress =>
      have left : Alongside pairing row
          (Memory.store.tryFinish unit .commit progress whole).2 part :=
        Memory.tryFinish_elsewhere along (lone unit rfl) .commit progress
      simp only [step]
      generalize Memory.store.tryFinish unit .commit progress whole = tried at left
      obtain ⟨progress | (error | _), after⟩ := tried
      · exact ⟨left, trivial⟩
      · exact ⟨finish_elsewhere left _, trivial⟩
      · exact ⟨finish_elsewhere left _, trivial⟩
  | undoing unit cause progress =>
      have left : Alongside pairing row
          (Memory.store.tryFinish unit .rollback progress whole).2 part :=
        Memory.tryFinish_elsewhere along (lone unit rfl) .rollback progress
      simp only [step]
      generalize Memory.store.tryFinish unit .rollback progress whole = tried at left
      obtain ⟨progress | (error | _), after⟩ := tried
      · exact ⟨left, trivial⟩
      · exact ⟨finish_elsewhere (left.reportWhole _) _, trivial⟩
      · exact ⟨finish_elsewhere left _, trivial⟩

theorem giveUp_elsewhere (along : Alongside pairing row whole part) (avoids : phase.Avoids row)
    (lone : phase.Lone pairing) :
    Alongside pairing row (giveUp Memory.store phase whole) part := by
  cases phase with
  | opening progress => exact along
  | asking unit request next progress =>
      exact (along.withdrawElsewhere unit request avoids.1 progress).dropElsewhere (lone unit rfl)
  | committing unit answer progress => exact along.dropElsewhere (lone unit rfl)
  | undoing unit cause progress => exact along.dropElsewhere (lone unit rfl)

end Query

end Passbook

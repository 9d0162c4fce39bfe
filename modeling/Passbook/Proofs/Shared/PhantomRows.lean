import Passbook.Proofs.Memory.Footing
import Passbook.Proofs.Shared.RowLocks
import Passbook.Proofs.Shared.Standing

/-!
Rows that are held without an account behind them. Between two of its requests a unit in the hands
of a caller holds the rows of accounts that it finds, and those where it could not set a balance
because the row was missing. It keeps the latter, so that others wait for them.
-/

set_option autoImplicit false

namespace Passbook.Shared

open Memory (Progress Sound)

variable {actions : List Action} {id : ClientId} {unit : UnitId} {row : AccountId} {client : Client}
  {memory after : Memory} {hand next : Hand} {world : World Memory}
  {missed more : UnitId → AccountId → Prop}

/-- Whether a unit in the hands of a caller has been told, in the course of some actions, that a row
is missing. -/
def Missed (actions : List Action) (id : ClientId) (unit : UnitId) (row : AccountId) : Prop :=
  ∃ earlier later request reply, actions = earlier ++ later ∧
    (run earlier).clients id = some (.hand (.running (.idle unit (some ⟨request, reply⟩)))) ∧
      request.missed? reply = some row

theorem Missed.onwards (missed : Missed actions id unit row) (action : Action) :
    Missed (actions ++ [action]) id unit row := by
  obtain ⟨earlier, later, request, reply, rfl, known, told⟩ := missed
  exact ⟨earlier, later ++ [action], request, reply, by simp, known, told⟩

/-- Whether the unit of a caller, if there is one, sees an account wherever it stands, waits there,
or was told that there is none. -/
def Hand.Footed (memory : Memory) (missed : UnitId → AccountId → Prop) (hand : Hand) : Prop :=
  ∀ unit, hand.unit? = some unit → memory.Footed unit (missed unit) hand.awaited?

theorem Hand.Footed.wider (footed : hand.Footed memory missed)
    (wide : ∀ unit row, missed unit row → more unit row) :
    hand.Footed memory more :=
  fun unit has => (footed unit has).wider (wide unit)

/-!
## Steps
-/

theorem Hand.Footed.others {one two : Option UnitId} (footed : hand.Footed memory missed)
    (effect : Effect memory one two after)
    (apart : ∀ unit, hand.unit? = some unit → one ≠ some unit ∧ two ≠ some unit) :
    hand.Footed after missed := by
  intro unit has row member
  obtain ⟨before, now⟩ := apart unit has
  refine (footed unit has row ((effect.mem_queues_other before).mp member)).imp_left fun seen => ?_
  rw [Memory.isSome_view, Memory.staged_congr (effect.units_other before now)]
  exact (Memory.isSome_view.mp seen).imp_right effect.isSome_account?

private theorem footed_of_move (footed : hand.Footed world.store missed) (sound : Sound world.store)
    (move : hand.Move world (.running next) after)
    (wide : ∀ unit row, missed unit row → more unit row)
    (told : ∀ unit request reply row, next = .idle unit (some ⟨request, reply⟩) →
      request.missed? reply = some row → more unit row) :
    next.Footed after more := by
  intro unit has
  have footed := footed.wider wide
  cases move with
  | keepsOpening opening => cases has
  | opens opening =>
      cases has
      exact .nowhere fun row member =>
        (((Memory.Stands.opening opening sound).queued row).mp member).elim nofun nofun
  | idles => exact footed unit has
  | keepsAsking tried =>
      cases has
      have asked := (footed unit rfl).tryAsk
      rw [tried] at asked
      exact asked
  | @hears _ request _ reply left tried =>
      cases has
      have asked := (footed unit rfl).tryAsk
      rw [tried] at asked
      exact asked.settled fun row missing => told unit request reply row rfl missing
  | keepsFinishing rearmed => exact (footed unit has).rearmed rearmed

private theorem footed_giveUp (footed : hand.Footed world.store missed)
    (gone : (hand.giveUp world).1 = .running next) :
    next.Footed (hand.giveUp world).2.store missed := by
  intro unit has
  cases hand with
  | opening deadline progress => cases gone
  | idle other last => cases gone
  | asking other request progress =>
      cases gone
      cases has
      exact (footed unit rfl).withdraw
  | finishing other ending progress => cases gone

theorem footed_run (known : (run actions).clients id = some (.hand (.running hand))) :
    hand.Footed (run actions).memory (Missed actions id) := by
  refine client_run (motive := fun actions client => ∀ hand, client = .hand (.running hand) →
    hand.Footed (run actions).memory (Missed actions id)) ?_ ?_ ?_ ?_ known hand rfl
  · rintro _ _ _ ⟨⟩
  · rintro _ _ _ ⟨⟩
  · rintro _ _ _ ⟨⟩ _ ⟨⟩
  · rintro actions action client _ _ footed fate now hand rfl
    cases fate with
    | spared same effect apart owner =>
        cases same.symm.trans now
        exact ((footed hand rfl).others effect apart).wider fun unit row missed =>
          missed.onwards action
    | proceeds here world =>
        obtain ⟨before, rfl, move⟩ := hand_of_proceed (Option.some.inj (here.symm.trans now))
        rw [State.memory, world]
        refine footed_of_move (footed before rfl) (owned_run actions).sound move
          (fun unit row missed => missed.onwards _) ?_
        rintro unit request reply row rfl missing
        exact ⟨_, [], request, reply, (List.append_nil _).symm, now, missing⟩
    | givesUp here world =>
        obtain ⟨before, rfl, gone, left⟩ := hand_of_giveUp (Option.some.inj (here.symm.trans now))
        rw [State.memory, world, left]
        exact (footed_giveUp (footed before rfl) gone).wider fun unit row missed => missed.onwards _
    | asks idle here world =>
        cases idle
        cases here.symm.trans now
        rw [State.memory, world]
        exact (footed _ rfl).wider fun unit row missed => missed.onwards _
    | finishes idle here world =>
        cases idle
        cases here.symm.trans now
        rw [State.memory, world]
        exact (footed _ rfl).wider fun unit row missed => missed.onwards _

/-!
## Refusals
-/

/-- A unit that has been told that a row is missing holds the row, until it asks for something else.
-/
theorem holds_of_missed {request : Request} {reply : Except StoreError request.Reply}
    (known : (run actions).clients id =
      some (.hand (.running (.idle unit (some ⟨request, reply⟩)))))
    (missing : request.missed? reply = some row) : (run actions).memory.holds unit row = true := by
  refine client_run (motive := fun actions client =>
    client = .hand (.running (.idle unit (some ⟨request, reply⟩))) →
      (run actions).memory.holds unit row = true) ?_ ?_ ?_ ?_ known rfl
  · rintro _ _ ⟨⟩
  · rintro _ _ ⟨⟩
  · rintro _ _ ⟨⟩
  · rintro actions action client _ _ held fate now rfl
    cases fate with
    | spared same effect apart owner =>
        cases same.symm.trans now
        exact effect.holds_other (apart unit rfl).1 (held rfl)
    | proceeds here world =>
        obtain ⟨before, rfl, move⟩ := hand_of_proceed (Option.some.inj (here.symm.trans now))
        rw [State.memory, world]
        generalize ((Client.hand (.running before)).proceed (run actions).world).2.store =
          left at move
        cases move with
        | idles => exact held rfl
        | hears tried => exact Memory.held_of_missed tried missing
    | givesUp here world =>
        obtain ⟨before, rfl, gone, left⟩ := hand_of_giveUp (Option.some.inj (here.symm.trans now))
        cases before <;> cases gone
    | asks idle here world => cases here.symm.trans now
    | finishes idle here world => cases here.symm.trans now

/-- Between two of its requests a unit in the hands of a caller holds only rows of accounts that it
finds and rows that it has been told are missing. A row of the latter kind it does hold: no other
unit gets it or sets a balance there. -/
theorem held_rows_found {last : Option ((request : Request) × Except StoreError request.Reply)}
    (idle : (run actions).clients id = some (.hand (.running (.idle unit last)))) :
    (∀ row, (run actions).memory.holds unit row = true →
      ((run actions).memory.view unit row).isSome ∨ Missed actions id unit row) ∧
    ∀ request reply row, last = some ⟨request, reply⟩ → request.missed? reply = some row →
      (run actions).memory.holds unit row = true ∧ ∀ other, other ≠ unit →
        ∀ deadline progress answer,
        (Memory.store.tryAsk other (.lock row deadline) progress (run actions).world).1 ≠
        .ready (.ok answer) := by
  constructor
  · intro row held
    have member : unit ∈ (run actions).memory.queues row :=
      List.mem_of_mem_head? (Memory.holds_iff.mp held)
    rcases footed_run idle unit rfl row member with seen | missed | ⟨⟨⟩⟩
    · exact .inl seen
    · exact .inr missed
  · rintro request reply row rfl missing
    have held := holds_of_missed idle missing
    exact ⟨held, fun other different deadline progress answer =>
      Memory.unlocked_of_held held different deadline progress⟩

/-- An account is opened, and its row given to a unit, which then cannot set the balance of an
account that does not exist yet. -/
def samplePhantom : List Action :=
  sampleLock ++ [.ask ⟨2⟩ (.setBalance ⟨2⟩ sampleBalance), .proceed ⟨2⟩]

theorem held_rows_found_sample :
    (run samplePhantom).memory.holds ⟨2⟩ ⟨1⟩ = true ∧
      (((run samplePhantom).memory.view ⟨2⟩ ⟨1⟩).isSome ∨ Missed samplePhantom ⟨2⟩ ⟨2⟩ ⟨1⟩) ∧
      (run samplePhantom).memory.holds ⟨2⟩ ⟨2⟩ = true := by
  have idle : (run samplePhantom).clients ⟨2⟩ = some (.hand (.running (.idle ⟨2⟩
      (some ⟨.setBalance ⟨2⟩ sampleBalance, .error ⟨.missingRow, "account 2"⟩⟩)))) := rfl
  have held : (run samplePhantom).memory.holds ⟨2⟩ ⟨1⟩ = true := by decide +kernel
  exact ⟨held, (held_rows_found idle).1 _ held, ((held_rows_found idle).2 _ _ _ rfl rfl).1⟩

def sampleNewcomer : Registration :=
  ⟨"carol", sampleRegistration.passwordHash, by decide +kernel, by decide +kernel,
    by decide +kernel, sampleRegistration.hashed⟩

/-- The account is created by another call, and a unit asks for its row. -/
def sampleArrival : List Action :=
  [.inquire (.create sampleNewcomer .never)] ++ List.replicate 3 (.proceed ⟨3⟩) ++
    [.openUnit .never, .proceed ⟨4⟩, .ask ⟨4⟩ (.lock ⟨2⟩ .never), .proceed ⟨4⟩]

/-- A unit between two of its requests holds the row of an account that does not exist, and later
keeps others waiting for it. -/
theorem missing_row_kept :
    (run samplePhantom).clients ⟨2⟩ = some (.hand (.running (.idle ⟨2⟩
      (some ⟨.setBalance ⟨2⟩ sampleBalance, .error ⟨.missingRow, "account 2"⟩⟩)))) ∧
    (run samplePhantom).memory.holds ⟨2⟩ ⟨2⟩ = true ∧
      (run samplePhantom).memory.view ⟨2⟩ ⟨2⟩ = none ∧
    (run (samplePhantom ++ sampleArrival)).memory.account? ⟨2⟩ = some (sampleNewcomer.account ⟨2⟩) ∧
    (run (samplePhantom ++ sampleArrival)).memory.queues ⟨2⟩ = [⟨2⟩, ⟨4⟩] := by
  refine ⟨rfl, ?_, ?_, ?_, ?_⟩ <;> decide +kernel

end Passbook.Shared

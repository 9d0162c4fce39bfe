import Passbook.Proofs.Shared.Coverage
import Passbook.Proofs.Shared.Retirement

/-!
Rows as locks. A unit that has been given the row of an account finds the same account there until
it ends, but for the balances that it sets itself. Nobody else gets the row or sets a balance there,
and nobody but the unit itself publishes one.
-/

set_option autoImplicit false

namespace Passbook.Shared

open Memory (Progress Rearmed Sees)

/-- The balance that a unit in the hands of a caller has set for a row between two moments that are
one action apart. -/
def setBetween? (row : AccountId) : Option Client → Option Client → Option Money
  | some (.hand (.running (.asking _ _ _))),
      some (.hand (.running (.idle _ (some ⟨request, reply⟩)))) => request.sets? row reply
  | _, _ => none

namespace State

def sets? (state : State) (id : ClientId) (row : AccountId) (action : Action) : Option Money :=
  setBetween? row (state.clients id) ((state.perform action).clients id)

/-- The balance that a unit in the hands of a caller sets for a row last, in the course of some
actions. -/
def lastSet? (state : State) (id : ClientId) (row : AccountId) : List Action → Option Money
  | [] => none
  | action :: later => (state.perform action).lastSet? id row later <|> state.sets? id row action

/-- Whether a unit in the hands of a caller has got the row of an account as its last reply. -/
def GivesRow (state : State) (id : ClientId) (unit : UnitId) (row : AccountId)
    (account : Account) : Prop :=
  ∃ deadline, state.clients id =
    some (.hand (.running (.idle unit (some ⟨.lock row deadline, .ok (some account)⟩))))

/-- Whether an action is the step by which a unit in the hands of a caller is committed. -/
structure IsCommit (state : State) (id : ClientId) (unit : UnitId) (action : Action) : Prop where
  step : action = .proceed id
  before : ∃ progress, state.clients id = some (.hand (.running (.finishing unit .commit progress)))
  after : (state.perform action).clients id = some (.hand (.ended (.ok ())))

/-- A unit in the hands of a caller holds the row of an account and is not waiting for it. -/
structure Holding (state : State) (id : ClientId) (unit : UnitId) (row : AccountId)
    (account : Account) : Prop where
  hand : ∃ hand, state.clients id = some (.hand (.running hand)) ∧ hand.unit? = some unit ∧
    hand.awaited? ≠ some row
  sees : Sees state.memory unit row account

end State

/-!
## Steps of others
-/

variable {state after : State} {id : ClientId} {unit : UnitId} {row : AccountId} {account : Account}
  {one two : Option UnitId}

/-- What a unit sees in a row that it holds, and what is committed there, is out of the reach of
others. -/
theorem sees_others (owned : state.Owned) (careful : Invariant.Everywhere Client.Careful state)
    (sees : Sees state.memory unit row account) (effect : Effect state.memory one two after.memory)
    (apart : one ≠ some unit ∧ two ≠ some unit)
    (owner : ∀ unit, one = some unit → ∃ other actor, state.clients other = some actor ∧
      actor.unit? = some unit) :
    Sees after.memory unit row account ∧ after.memory.account? row = state.memory.account? row := by
  have committed : after.memory.account? row = state.memory.account? row := by
    generalize after.memory = left at effect
    cases effect with
    | idles rearmed => exact Memory.account?_congr rearmed.accounts row
    | opens rearmed => exact Memory.account?_congr rearmed.accounts row
    | acts acts => exact Memory.account?_congr acts.unpublished.1 row
    | drops acts => exact Memory.account?_congr acts.unpublished.1 row
    | @publishes other before rearmed free =>
        obtain ⟨_, actor, present, has⟩ := owner other rfl
        have rows : ∀ id, (before.staged other).balances id ≠ none →
            before.holds other id = true := by
          intro id staged
          rw [Memory.staged, rearmed.units] at staged
          exact rearmed.holds.trans ((careful _ actor present).rows has id staged)
        have different : other ≠ unit := fun same => apart.1 (same ▸ rfl)
        rw [(sees.rearmed rearmed).account?_publish (owned.sound.rearmed rearmed) different rows]
        exact Memory.account?_congr rearmed.accounts row
  have units : after.memory.units unit = state.memory.units unit :=
    effect.units_other apart.1 apart.2
  exact ⟨⟨effect.holds_other apart.1 sees.held,
    (Memory.view_congr units committed).trans sees.seen⟩, committed⟩

/-!
## Steps of the unit
-/

private theorem setBetween?_same (row : AccountId) (client : Option Client) :
    setBetween? row client client = none := by
  rcases client with _ | posting | inquiry | (hand | result | _)
  · rfl
  · rfl
  · rfl
  · cases hand <;> rfl
  · rfl
  · rfl

/-- What a step of a unit leaves of a row that it holds. -/
inductive Leaves (memory : Memory) (hand : Hand) (unit : UnitId) (row : AccountId)
    (account : Account) :
    Course Hand Hand.Result → Memory → Prop
  | holds {next : Hand} {after : Memory} (has : next.unit? = some unit)
      (unawaited : next.awaited? ≠ some row)
      (sees : Sees after unit row
        (account.reset
          (setBetween? row (some (.hand (.running hand))) (some (.hand (.running next))))))
      (committed : after.account? row = memory.account? row) :
      Leaves memory hand unit row account (.running next) after
  | spares {course : Course Hand Hand.Result} {after : Memory} (closed : after.units unit = none)
      (committed : after.account? row = memory.account? row) :
      Leaves memory hand unit row account course after
  | publishes {progress : Progress} {after : Memory}
      (commit : hand = .finishing unit .commit progress) (closed : after.units unit = none) :
      Leaves memory hand unit row account (.ended (.ok ())) after

private theorem leaves_tried {request : Request} {progress : Progress} {world left : World Memory}
    {result : Poll Progress (Except StoreError request.Reply)}
    (sees : Sees world.store unit row account) (sound : Memory.Sound world.store)
    (tried : Memory.tryAsk unit request progress world = (result, left)) :
    Sees left.store unit row (account.reset (request.settles? row result)) ∧
      left.store.account? row = world.store.account? row := by
  have seen := sees.tryAsk sound request progress
  have acts := Memory.tryAsk_acts unit request progress world
  rw [tried] at seen acts
  exact ⟨seen, Memory.account?_congr acts.unpublished.1 row⟩

private theorem leaves_of_move {hand : Hand} {course : Course Hand Hand.Result}
    {world : World Memory} {left : Memory} (sees : Sees world.store unit row account)
    (sound : Memory.Sound world.store) (has : hand.unit? = some unit)
    (unawaited : hand.awaited? ≠ some row) (move : hand.Move world course left) :
    Leaves world.store hand unit row account course left := by
  cases move with
  | keepsOpening opening => cases has
  | opens opening => cases has
  | failsToOpen opening => cases has
  | idles => exact .holds has unawaited sees rfl
  | @keepsAsking _ request _ next _ tried =>
      cases has
      obtain ⟨seen, committed⟩ := leaves_tried sees sound tried
      refine .holds rfl (fun awaited => ?_) seen committed
      have free := Memory.not_held_of_awaited (congrArg Prod.fst tried) awaited
      rw [tried] at free
      cases free.symm.trans seen.held
  | hears tried =>
      cases has
      obtain ⟨seen, committed⟩ := leaves_tried sees sound tried
      exact .holds rfl (by simp [Hand.awaited?]) seen committed
  | keepsFinishing rearmed =>
      cases has
      exact .holds rfl (by simp [Hand.awaited?]) (sees.rearmed rearmed)
        (Memory.account?_congr rearmed.accounts row)
  | finishes ended =>
      cases has
      cases ended with
      | discards rearmed unpublished =>
          exact .spares (Memory.units_discard_same _ _) (Memory.account?_congr rearmed.accounts row)
      | publishes rearmed free => exact .publishes rfl (Memory.units_discard_same _ _)

private theorem leaves_giveUp {hand : Hand} {world : World Memory}
    (sees : Sees world.store unit row account) (has : hand.unit? = some unit)
    (unawaited : hand.awaited? ≠ some row) :
    Leaves world.store hand unit row account (hand.giveUp world).1 (hand.giveUp world).2.store := by
  cases hand with
  | opening deadline progress => cases has
  | idle other last =>
      cases has
      exact .spares (Memory.units_discard_same _ _) rfl
  | finishing other ending progress =>
      cases has
      exact .spares (Memory.units_discard_same _ _) rfl
  | asking other request progress =>
      cases has
      have committed := (Memory.withdraw_acts unit request progress world).unpublished.1
      refine .holds rfl (by simp [Hand.awaited?]) ?_ (Memory.account?_congr committed row)
      change Sees (Memory.withdraw unit request progress world).store unit row account
      rw [Memory.withdraw_eq]
      cases awaited : request.awaited? progress with
      | none => exact sees
      | some other => exact sees.leave fun same => unawaited (awaited.trans (congrArg some same))

/-- What becomes of a unit that holds a row by an action: it holds the row still, or it has ended,
and then what is committed there has changed only if the unit itself has been committed. -/
inductive HoldingThen (state : State) (id : ClientId) (unit : UnitId) (row : AccountId)
    (account : Account) (action : Action) : Prop
  | holds
      (holding : (state.perform action).Holding id unit row
        (account.reset (state.sets? id row action)))
      (committed : (state.perform action).memory.account? row = state.memory.account? row)
  | ends (closed : (state.perform action).memory.units unit = none)
      (committed : (state.perform action).memory.account? row = state.memory.account? row ∨
        state.IsCommit id unit action)

private theorem then_of_leaves {hand : Hand} {course : Course Hand Hand.Result}
    {world : World Memory} {action : Action}
    (known : state.clients id = some (.hand (.running hand)))
    (now : (state.perform action).clients id = some (.hand course))
    (left : (state.perform action).world = world)
    (leaves : Leaves state.memory hand unit row account course world.store)
    (step : course = .ended (.ok ()) → action = .proceed id) :
    HoldingThen state id unit row account action := by
  subst left
  cases leaves with
  | holds has unawaited sees committed =>
      refine .holds ⟨⟨_, now, has, unawaited⟩, ?_⟩ committed
      rw [State.sets?, known, now]
      exact sees
  | spares closed committed => exact .ends closed (.inl committed)
  | @publishes progress _ commit closed =>
      exact .ends closed (.inr ⟨step rfl, ⟨progress, commit ▸ known⟩, now⟩)

theorem State.Holding.perform (holding : state.Holding id unit row account) (owned : state.Owned)
    (careful : Invariant.Everywhere Client.Careful state) (action : Action) :
    HoldingThen state id unit row account action := by
  obtain ⟨⟨hand, known, has, unawaited⟩, sees⟩ := holding
  have fate := perform_fate owned known action
  cases fate with
  | spared same effect apart owner =>
      obtain ⟨seen, committed⟩ := sees_others owned careful sees effect (apart unit has) owner
      refine .holds ⟨⟨hand, same, has, unawaited⟩, ?_⟩ committed
      rw [State.sets?, known, same, setBetween?_same]
      exact seen
  | proceeds now world =>
      exact then_of_leaves known now world
        (leaves_of_move sees owned.sound has unawaited (hand.step_move state.world)) fun _ => rfl
  | givesUp now world =>
      refine then_of_leaves known now world (leaves_giveUp sees has unawaited) fun succeeds => ?_
      cases hand <;> cases succeeds
  | asks idle now world =>
      cases idle
      exact then_of_leaves known now world
        (.holds has (by simp [Hand.awaited?, Request.awaited?]) sees rfl)
        fun ended => by cases ended
  | finishes idle now world =>
      cases idle
      exact then_of_leaves known now world (.holds has (by simp [Hand.awaited?]) sees rfl)
        fun ended => by cases ended

/-!
## Rows that have been given
-/

/-- A unit that has given up a request has got no reply. -/
private theorem giveUp_not_replied {client : Client} {world : World Memory}
    {reply : (request : Request) × Except StoreError request.Reply} :
    (client.giveUp world).1 ≠ .hand (.running (.idle unit (some reply))) := by
  intro now
  cases client with
  | posting wanted course => cases course <;> cases now
  | inquiry asked course => cases course <;> cases now
  | hand course =>
      cases course with
      | running hand => cases hand <;> cases now
      | ended result => cases now
      | dropped => cases now

theorem sees_of_givesRow {actions : List Action}
    (gives : (run actions).GivesRow id unit row account) :
    Sees (run actions).memory unit row account := by
  obtain ⟨deadline, known⟩ := gives
  refine client_run (motive := fun actions client =>
    client = .hand (.running (.idle unit (some ⟨.lock row deadline, .ok (some account)⟩))) →
      Sees (run actions).memory unit row account) ?_ ?_ ?_ ?_ known rfl
  · rintro _ _ ⟨⟩
  · rintro _ _ ⟨⟩
  · rintro _ _ ⟨⟩
  · rintro actions action client _ _ sees fate idle rfl
    cases fate with
    | spared same effect apart owner =>
        cases same.symm.trans idle
        exact (sees_others (owned_run actions) (careful_clients.run (asks_anything actions))
          (sees rfl) effect (apart unit rfl) owner).1
    | proceeds now world =>
        obtain ⟨hand, rfl, move⟩ := hand_of_proceed (Option.some.inj (now.symm.trans idle))
        rw [State.memory, world]
        generalize ((Client.hand (.running hand)).proceed (run actions).world).2.store =
          left at move
        cases move with
        | idles => exact sees rfl
        | hears tried => exact Memory.sees_of_locked tried
    | givesUp now world => exact absurd (Option.some.inj (now.symm.trans idle)) giveUp_not_replied
    | asks was now world => cases now.symm.trans idle
    | finishes was now world => cases now.symm.trans idle

/-- A unit that is not open any more will not be open again. -/
private theorem closed_onwards {actions : List Action} (retired : (run actions).Retired unit)
    (later : List Action) :
    (run (actions ++ later)).memory.units unit = none := by
  have still : (run (actions ++ later)).Retired unit :=
    run_onwards (fun state => state.Retired unit) (asks_anything later) retired
      fun _ _ owned retired transition => retired.advance owned transition.advance
  exact still.closed

theorem State.Holding.onwards {actions : List Action}
    (holding : (run actions).Holding id unit row account) (later : List Action)
    (isOpen : (run (actions ++ later)).memory.units unit ≠ none) :
    (run (actions ++ later)).Holding id unit row
      (account.reset ((run actions).lastSet? id row later)) ∧
      (run (actions ++ later)).memory.account? row = (run actions).memory.account? row := by
  induction later generalizing actions account with
  | nil =>
      rw [List.append_nil]
      exact ⟨holding, rfl⟩
  | cons action later ih =>
      have next : run (actions ++ [action]) = (run actions).perform action :=
        run_append actions [action]
      have path : actions ++ action :: later = actions ++ [action] ++ later := by simp
      rw [path] at isOpen ⊢
      have owned := owned_run actions
      cases holding.perform owned (careful_clients.run (asks_anything actions)) action with
      | holds still committed =>
          rw [← next] at still committed
          obtain ⟨later, same⟩ := ih still isOpen
          rw [Account.reset_reset, next] at later
          exact ⟨later, same.trans committed⟩
      | ends closed committed =>
          obtain ⟨⟨hand, known, has, _⟩, _⟩ := holding
          have transition :
              Transition (fun _ => True) (run actions) ((run actions).perform action) :=
            (run actions).perform_transition action fun _ _ _ => trivial
          have mine : (run actions).unitOf id = some unit := by
            simpa [State.unitOf, known, Client.unit?, Course.unit?] using has
          rw [← next] at closed transition
          rcases State.unitOf_or_retired owned transition.advance (.inl mine) with still | retired
          · exact absurd closed ((owned_run (actions ++ [action])).isOpen id unit still)
          · exact absurd (closed_onwards retired later) isOpen

/-- A unit is given the row of an account. -/
def sampleLock : List Action :=
  [.inquire (.create sampleRegistration .never)] ++ List.replicate 3 (.proceed ⟨1⟩) ++
    [.openUnit .never, .proceed ⟨2⟩, .ask ⟨2⟩ (.lock ⟨1⟩ .never), .proceed ⟨2⟩]

def sampleBalance : Money :=
  .ofDecimal { Decimal.zero with mantissa := 7, mantissa_lt := by decide }

/-- The unit sets a balance, while another unit waits for the row. -/
def sampleContest : List Action :=
  [.openUnit .never, .proceed ⟨3⟩, .ask ⟨3⟩ (.lock ⟨1⟩ .never), .proceed ⟨3⟩,
    .ask ⟨2⟩ (.setBalance ⟨1⟩ sampleBalance), .proceed ⟨2⟩]

/-- Each row is held by at most one unit, and by an open one. Once a unit in the hands of a caller
has been given the row of an account, then until it ends the row is its own, what it finds there is
the account that it was given with the balance that it has set itself last, and what is committed
there changes by nothing but its own commit. -/
theorem row_locks_exclusive (earlier later : List Action) :
    (∀ row one other, (run earlier).memory.holds one row = true →
      (run earlier).memory.holds other row = true → one = other) ∧
    (∀ row unit, (run earlier).memory.holds unit row = true →
      (run earlier).memory.units unit ≠ none) ∧
    ∀ id unit row account, (run earlier).GivesRow id unit row account →
      (run (earlier ++ later)).memory.units unit ≠ none →
        Memory.Reserved (run (earlier ++ later)).world unit row
          (account.reset ((run earlier).lastSet? id row later)) ∧
        (run (earlier ++ later)).memory.account? row = (run earlier).memory.account? row ∧
        ∀ action, (run (earlier ++ later ++ [action])).memory.account? row =
          (run (earlier ++ later)).memory.account? row ∨
          (run (earlier ++ later)).IsCommit id unit action := by
  refine ⟨fun row one other => Memory.holds_unique,
    fun row unit held => ?_, fun id unit row account gives isOpen => ?_⟩
  · have member : unit ∈ (run earlier).memory.queues row :=
      List.mem_of_mem_head? (Memory.holds_iff.mp held)
    exact (owned_run earlier).sound.queued row unit member
  · have sees := sees_of_givesRow gives
    obtain ⟨deadline, known⟩ := gives
    have holding : (run earlier).Holding id unit row account :=
      ⟨⟨_, known, rfl, by simp [Hand.awaited?]⟩, sees⟩
    obtain ⟨still, committed⟩ := holding.onwards later isOpen
    refine ⟨still.sees.reserved, committed, fun action => ?_⟩
    have next : run (earlier ++ later ++ [action]) = (run (earlier ++ later)).perform action :=
      run_append _ [action]
    rw [next]
    cases still.perform (owned_run _) (careful_clients.run (asks_anything _)) action with
    | holds _ same => exact .inl same
    | ends _ changes => exact changes

theorem row_locks_exclusive_sample :
    (run sampleLock).GivesRow ⟨2⟩ ⟨2⟩ ⟨1⟩ (sampleRegistration.account ⟨1⟩) ∧
      (run (sampleLock ++ sampleContest)).memory.queues ⟨1⟩ = [⟨2⟩, ⟨3⟩] ∧
      Memory.Reserved (run (sampleLock ++ sampleContest)).world ⟨2⟩ ⟨1⟩
        ((sampleRegistration.account ⟨1⟩).reset ((run sampleLock).lastSet? ⟨2⟩ ⟨1⟩ sampleContest)) ∧
      (run sampleLock).lastSet? ⟨2⟩ ⟨1⟩ sampleContest = some sampleBalance := by
  have gives : (run sampleLock).GivesRow ⟨2⟩ ⟨2⟩ ⟨1⟩ (sampleRegistration.account ⟨1⟩) :=
    ⟨.never, rfl⟩
  have isOpen : (run (sampleLock ++ sampleContest)).memory.units ⟨2⟩ ≠ none := by
    intro closed
    cases closed
  exact ⟨gives, by decide +kernel,
    ((row_locks_exclusive sampleLock sampleContest).2.2 _ _ _ _ gives isOpen).1, by decide +kernel⟩

end Passbook.Shared

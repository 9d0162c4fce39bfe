import Passbook.Proofs.Shared.Judgement

/-!
Ledgers in which only postings write balances and entries. Inquiries never do; units in the hands of
callers may lock, read and create accounts. What such units stage leaves the balances and the
entries of all accounts as they are.
-/

set_option autoImplicit false

namespace Passbook

/-- Whether a request writes neither a balance nor an entry. -/
def Request.isMild : Request → Bool
  | .setBalance _ _ => false
  | .append _ => false
  | _ => true

/-- Whether all requests of a script are mild, whatever the replies. -/
def Script.IsMild {α : Type} : Script α → Prop
  | .done _ => True
  | .ask request next => request.isMild = true ∧ ∀ reply, (next reply).IsMild

/-- Whether what remains of a query is mild. -/
def Query.Phase.IsMild {α : Type} : Query.Phase UnitId Memory.Progress α → Prop
  | .asking _ request next _ => request.isMild = true ∧ ∀ reply, (next reply).IsMild
  | _ => True

theorem Query.isMild_proceed {α : Type} {unit : UnitId} {script : Script α} (mild : script.IsMild) :
    (Query.proceed Memory.store unit script).IsMild := by
  cases script with
  | done answer => trivial
  | ask request next => exact mild

theorem Shared.Inquiry.isMild_query (inquiry : Inquiry) : inquiry.query.script.IsMild := by
  cases inquiry with
  | create registration deadline => exact ⟨rfl, fun _ => trivial⟩
  | byId id deadline => exact ⟨rfl, fun _ => trivial⟩
  | byName username deadline => exact ⟨rfl, fun _ => trivial⟩
  | history id deadline => exact ⟨rfl, fun _ => trivial⟩
  | statement id deadline =>
      refine ⟨rfl, fun reply => ?_⟩
      cases reply with
      | none => trivial
      | some account => exact ⟨rfl, fun _ => trivial⟩

/-!
## Units that write no balance and no entry
-/

/-- Whether only empty accounts are staged. -/
structure Staged.IsStill (staged : Staged) : Prop where
  balances : ∀ id, staged.balances id = none
  entries : staged.entries = []
  created : ∀ account ∈ staged.created, account.balance = .zero

namespace Memory

variable {memory after : Memory} {unit : UnitId} {id : AccountId}

/-- Whether a unit has staged only empty accounts. -/
def Still (memory : Memory) (unit : UnitId) : Prop :=
  ∀ staged, memory.units unit = some staged → staged.IsStill

theorem still_of_empty (known : memory.units unit = some .empty) : memory.Still unit := by
  intro staged same
  rw [known] at same
  cases same
  exact ⟨fun _ => rfl, rfl, fun _ created => by cases created⟩

theorem Still.congr (still : memory.Still unit) (same : after.units unit = memory.units unit) :
    after.Still unit :=
  fun staged known => still staged (same.symm.trans known)

theorem Still.staged (still : memory.Still unit) : (memory.staged unit).IsStill := by
  rw [Memory.staged]
  cases known : memory.units unit with
  | none => exact ⟨fun _ => rfl, rfl, fun _ created => by cases created⟩
  | some staged => exact still staged known

theorem Still.guarded (still : memory.Still unit) : memory.Guarded unit := fun staged known =>
  ⟨fun id balance => absurd ((still staged known).balances id) balance,
    (still staged known).created⟩

theorem Still.create {registration : Registration} (still : memory.Still unit) :
    (memory.create unit registration).2.Still unit := by
  intro staged known
  have same : some { memory.staged unit with
      created :=
        (memory.staged unit).created ++ [registration.account ⟨memory.lastAccount + 1⟩] } =
          some staged :=
    (units_stage_same memory unit _).symm.trans known
  cases same
  refine ⟨still.staged.balances, still.staged.entries, fun account member => ?_⟩
  rcases List.mem_append.mp member with old | new
  · exact still.staged.created account old
  · rw [List.mem_singleton.mp new]
    rfl

/-- A unit that is asked for nothing but mild requests stays still. -/
theorem Still.tryAsk {request : Request} {progress : Progress} {world : World Memory}
    (still : world.store.Still unit) (mild : request.isMild = true) :
    (Memory.tryAsk unit request progress world).2.store.Still unit := by
  cases request with
  | lock id deadline =>
      have locking := tryLock_locking unit id deadline world
      have joined : (world.store.join unit id).Still unit :=
        still.congr (congrFun (units_join _ _ _) unit)
      have same : (Memory.tryAsk unit (.lock id deadline) progress world).2.store =
        (tryLock unit id deadline world).2.store := rfl
      rw [same]
      generalize (tryLock unit id deadline world).1 = result,
        (tryLock unit id deadline world).2.store = left at locking
      cases locking with
      | waits deadline free => exact joined
      | timesOut detail free => exact joined
      | locks held seen => exact joined
      | misses held unseen => exact joined
  | find id => exact still
  | findName username => exact still
  | list id => exact still
  | insert registration =>
      have inserting := tryInsert_inserting unit registration world
      have same : (Memory.tryAsk unit (.insert registration) progress world).2.store =
        (tryInsert unit registration world).2.store := rfl
      rw [same]
      generalize (tryInsert unit registration world).1 = result,
        (tryInsert unit registration world).2.store = left at inserting
      cases inserting with
      | refuses error => exact still
      | inserts free => exact still.create
  | setBalance id balance => cases mild
  | append draft => cases mild

theorem Still.withdraw {request : Request} {progress : Progress} {world : World Memory}
    (still : world.store.Still unit) :
    (Memory.withdraw unit request progress world).store.Still unit := by
  refine still.congr ?_
  unfold Memory.withdraw
  split <;> rfl

end Memory

namespace Shared

open Memory (Progress)

/-- Whether what remains to be done with a unit in the hands of a caller is mild. -/
def Hand.IsMild : Hand → Prop
  | .asking _ request _ => request.isMild = true
  | _ => True

/-- Whether the unit of a call, if it has one, is still. -/
def Calm (memory : Memory) (unit? : Option UnitId) : Prop :=
  ∀ unit, unit? = some unit → memory.Still unit

/-- What a client has staged and knows: a posting has staged what the committed balance of its
account decides, any other client nothing but empty accounts. -/
def Client.Mild (memory : Memory) : Client → Prop
  | .posting wanted course => course.Fits wanted memory ∧ course.Knows wanted memory
  | .inquiry _ (.running phase) => phase.IsMild ∧ Calm memory phase.unit?
  | .inquiry _ _ => True
  | .hand (.running task) => task.IsMild ∧ Calm memory task.unit?
  | .hand _ => True

variable {memory after : Memory} {unit : UnitId} {unit? : Option UnitId}

theorem calm_some (still : memory.Still unit) : Calm memory (some unit) := by
  intro other same
  cases same
  exact still

theorem calm_none : Calm memory none := fun _ has => by cases has

theorem Calm.rearmed (calm : Calm memory unit?) (rearmed : Memory.Rearmed memory after) :
    Calm after unit? :=
  fun unit has => (calm unit has).congr (congrFun rearmed.units unit)

theorem Client.Mild.fits {client : Client} (mild : client.Mild memory) : client.Fits memory := by
  cases client with
  | posting posting course => exact mild.1
  | inquiry inquiry course => trivial
  | hand course => trivial

theorem Client.Mild.guarded {client : Client} (mild : client.Mild memory) :
    ∀ unit, client.unit? = some unit → memory.Guarded unit := by
  intro unit has
  cases client using Client.running_or_over with
  | posting wanted phase => exact guarded_of_fits mild.1 has
  | inquiry asked phase => exact (mild.2 unit has).guarded
  | hand task => exact (mild.2 unit has).guarded
  | settled client isOver => cases (Client.unit?_of_isOver isOver).symm.trans has

private theorem mild_of_isOver {client : Client} (isOver : client.isOver = true) :
    client.Mild memory := by
  cases client with
  | posting wanted course => cases course <;> first | exact ⟨trivial, trivial⟩ | cases isOver
  | inquiry asked course => cases course <;> trivial
  | hand course => cases course <;> trivial

private theorem calm_opens (opening : Memory.Opening memory (.ready (.ok unit)) after) :
    Calm after (some unit) := by
  cases opening with
  | opens rearmed => exact calm_some (Memory.still_of_empty (assign_same _ _ _))

private theorem calm_tries {request : Request} {progress : Progress} {world left : World Memory}
    {result : Poll Progress (Except StoreError request.Reply)} (calm : Calm world.store (some unit))
    (tried : Memory.tryAsk unit request progress world = (result, left))
    (mild : request.isMild = true) :
    Calm left.store (some unit) := by
  have still : (Memory.tryAsk unit request progress world).2.store.Still unit :=
    (calm unit rfl).tryAsk mild
  rw [tried] at still
  exact calm_some still

theorem mild_inquiry (inquiry : Inquiry) {phase : Query.Phase UnitId Progress inquiry.Answer}
    {world : World Memory}
    {turn : Turn (Query.Phase UnitId Progress inquiry.Answer) (Query.Result inquiry.Answer)}
    (mild : phase.IsMild) (calm : Calm world.store phase.unit?)
    (move : inquiry.query.Move world phase turn after) :
    (Client.inquiry inquiry (.ofTurn turn)).Mild after := by
  cases move with
  | keepsOpening opening => exact ⟨trivial, calm_none⟩
  | opens opening =>
      refine ⟨Query.isMild_proceed inquiry.isMild_query, ?_⟩
      rw [proceed_unit? _ inquiry.query.script]
      exact calm_opens opening
  | failsToOpen opening => trivial
  | keepsAsking tried => exact ⟨mild, calm_tries calm tried mild.1⟩
  | hears tried =>
      refine ⟨Query.isMild_proceed (mild.2 _), ?_⟩
      rw [proceed_unit?]
      exact calm_tries calm tried mild.1
  | fails tried => exact ⟨trivial, calm_tries calm tried mild.1⟩
  | keepsCommitting rearmed => exact ⟨trivial, calm.rearmed rearmed⟩
  | commits ended => trivial
  | failsToCommit ended => trivial
  | keepsUndoing rearmed => exact ⟨trivial, calm.rearmed rearmed⟩
  | undoes ended => trivial

private theorem mild_hand {hand : Hand} {world : World Memory} {course : Course Hand Hand.Result}
    (mild : hand.IsMild) (calm : Calm world.store hand.unit?)
    (move : hand.Move world course after) : (Client.hand course).Mild after := by
  cases move with
  | keepsOpening opening => exact ⟨trivial, calm_none⟩
  | opens opening => exact ⟨trivial, calm_opens opening⟩
  | failsToOpen opening => trivial
  | idles => exact ⟨trivial, calm⟩
  | keepsAsking tried => exact ⟨mild, calm_tries calm tried mild⟩
  | hears tried => exact ⟨trivial, calm_tries calm tried mild⟩
  | keepsFinishing rearmed => exact ⟨trivial, calm.rearmed rearmed⟩
  | finishes ended => trivial

private theorem mild_hand_giveUp {hand : Hand} {world : World Memory}
    (calm : Calm world.store hand.unit?) :
    (Client.hand (hand.giveUp world).1).Mild (hand.giveUp world).2.store := by
  cases hand with
  | opening deadline progress => trivial
  | idle unit last => trivial
  | asking unit request progress => exact ⟨trivial, calm_some (calm unit rfl).withdraw⟩
  | finishing unit ending progress => trivial

theorem calm_others {one two : Option UnitId} (calm : Calm memory unit?)
    (effect : Effect memory one two after)
    (apart : ∀ unit, unit? = some unit → one ≠ some unit ∧ two ≠ some unit) : Calm after unit? :=
  fun unit has => (calm unit has).congr (effect.units_other (apart unit has).1 (apart unit has).2)

theorem mild_clients : Invariant (fun request => request.isMild = true) Client.Mild where
  rearms {memory after client} rearmed mild := by
    cases client using Client.running_or_over with
    | posting wanted phase =>
        exact ⟨mild.1.rearmed rearmed,
          mild.2.congr (Memory.balanceOf_congr rearmed.accounts wanted.account)⟩
    | inquiry asked phase => exact ⟨mild.1, mild.2.rearmed rearmed⟩
    | hand task => exact ⟨mild.1, mild.2.rearmed rearmed⟩
    | settled client isOver => exact mild_of_isOver isOver
  posts memory posting := ⟨trivial, trivial⟩
  inquires memory inquiry := ⟨trivial, calm_none⟩
  opens memory deadline := ⟨trivial, calm_none⟩
  asks allowed mild := ⟨allowed, mild.2⟩
  finishes mild := ⟨trivial, mild.2⟩
  proceeds client world mild := by
    cases client using Client.running_or_over with
    | posting wanted phase =>
        exact ⟨move_fits mild.1 (wanted.step_move phase world),
          move_knows mild.1 mild.2 (wanted.step_move phase world)⟩
    | inquiry asked phase =>
        exact mild_inquiry asked mild.1 mild.2 (asked.query.step_move phase world)
    | hand task => exact mild_hand mild.1 mild.2 (task.step_move world)
    | settled client isOver =>
        rw [Client.proceed_of_isOver isOver]
        exact mild
  givesUp client world mild := by
    cases client using Client.running_or_over with
    | posting wanted phase => exact ⟨trivial, trivial⟩
    | inquiry asked phase => trivial
    | hand task => exact mild_hand_giveUp mild.2
    | settled client isOver =>
        rw [Client.giveUp_of_isOver isOver]
        exact mild
  others {memory after client other next} mild otherMild effect apart := by
    cases client using Client.running_or_over with
    | posting wanted phase =>
        exact ⟨fits_others mild.1 effect apart,
          knows_others mild.1 mild.2 effect otherMild.guarded fun unit has => (apart unit has).1⟩
    | inquiry asked phase => exact ⟨mild.1, calm_others mild.2 effect apart⟩
    | hand task => exact ⟨mild.1, calm_others mild.2 effect apart⟩
    | settled client isOver => exact mild_of_isOver isOver

/-- What every step keeps in which clients have staged and know what they should holds throughout
every run in which only postings write balances and entries. -/
theorem mild_onwards (property : State → Prop) {actions : List Action}
    (asked : Asks (fun request => request.isMild = true) actions) (start : property (run []))
    (kept : ∀ state after, state.Owned → Invariant.Everywhere Client.Mild state → property state →
      State.Transition (fun request => request.isMild = true) state after → property after) :
    property (run actions) := by
  rw [← List.nil_append actions]
  have both :=
    run_onwards (fun state => property state ∧ Invariant.Everywhere Client.Mild state) asked
      (⟨start, mild_clients.run (fun _ _ member => by cases member)⟩ : property (run []) ∧ _)
    fun state after owned holds transition =>
      ⟨kept state after owned holds.2 holds.1 transition,
        mild_clients.transition owned holds.2 transition⟩
  exact both.1

theorem asks_sample : Asks (fun request => request.isMild = true) sampleActions := by
  intro id request member
  simp [sampleActions] at member

end Shared

end Passbook

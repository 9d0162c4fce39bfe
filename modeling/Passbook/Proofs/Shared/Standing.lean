import Passbook.Proofs.Memory.Standing
import Passbook.Proofs.Shared.Coverage
import Passbook.Proofs.Shared.Inquiries

/-!
Where calls stand in the queues for rows. A posting and an inquiry stand in the queue of the account
that they are about, and in no other; they wait for its row only as long as they have not got it,
and once they have got it they keep it to the end of their unit of work.
-/

set_option autoImplicit false

namespace Passbook

open Memory (Progress Rearmed Stands Served Sound)

/-- Whether a script, having got a row or not, asks for no other row than that of an account, and
for that only if it has not got it. -/
def Script.Orderly {α : Type} (account? : Option AccountId) : Option AccountId → Script α → Prop
  | _, .done _ => True
  | got?, .ask (.lock id _) next =>
      account? = some id ∧ got? = none ∧ (next none).Orderly account? none ∧
        ∀ account, (next (some account)).Orderly account? (some id)
  | got?, .ask request next => request.row? = none ∧ ∀ reply, (next reply).Orderly account? got?

theorem Script.orderly_rowless {α : Type} {account? got? : Option AccountId} {request : Request}
    {next : request.Reply → Script α} (rowless : request.row? = none) :
    (Script.ask request next).Orderly account? got? ↔
      ∀ reply, (next reply).Orderly account? got? := by
  cases request with
  | lock id deadline => cases rowless
  | _ => exact and_iff_right rowless

namespace Shared

/-- The account that an inquiry is about, if it is about one. -/
def Inquiry.account? : Inquiry → Option AccountId
  | create _ _ => none
  | byId id _ => some id
  | byName _ _ => none
  | history id _ => some id
  | statement id _ => some id

theorem Inquiry.orderly_query (inquiry : Inquiry) :
    inquiry.query.script.Orderly inquiry.account? none := by
  cases inquiry with
  | create registration deadline => exact ⟨rfl, fun _ => trivial⟩
  | byId id deadline => exact ⟨rfl, fun _ => trivial⟩
  | byName username deadline => exact ⟨rfl, fun _ => trivial⟩
  | history id deadline => exact ⟨rfl, fun _ => trivial⟩
  | statement id deadline => exact ⟨rfl, rfl, trivial, fun account => ⟨rfl, fun _ => trivial⟩⟩

end Shared

/-!
## What calls have got and what they wait for
-/

namespace Posting

/-- The row that a posting has got. -/
def Phase.got? (posting : Posting) (phase : Phase UnitId Progress) : Option AccountId :=
  if phase.hasRow then some posting.account else none

/-- The row that a posting waits for. -/
def Phase.awaited? (posting : Posting) : Phase UnitId Progress → Option AccountId
  | .locking _ progress => posting.lockRequest.awaited? progress
  | .writing _ balance progress => (posting.balanceRequest balance).awaited? progress
  | _ => none

/-- Whether the unit of a posting, if it has one, stands where the posting is. -/
def Phase.Placed (posting : Posting) (memory : Memory) (phase : Phase UnitId Progress) : Prop :=
  ∀ unit, phase.unit? = some unit → Stands memory unit (phase.got? posting) (phase.awaited? posting)

end Posting

/-- Whether the unit of a query, if it has one, stands where the query is. -/
def Query.Phase.Placed {α : Type} (account? : Option AccountId) (memory : Memory) :
    Query.Phase UnitId Progress α → Prop
  | .opening _ => True
  | .asking unit request next progress =>
      ∃ got?, (Script.ask request next).Orderly account? got? ∧
        (∀ row, got? = some row → account? = some row) ∧
        Stands memory unit got? (request.awaited? progress)
  | .committing unit _ _ =>
      ∃ got?, (∀ row, got? = some row → account? = some row) ∧ Stands memory unit got? none
  | .undoing unit _ _ =>
      ∃ got?, (∀ row, got? = some row → account? = some row) ∧ Stands memory unit got? none

/-- Where a query stands whose request has been tried, with this result. -/
def Query.Answered {α : Type} (account? : Option AccountId) (memory : Memory) (unit : UnitId)
    (request : Request) (script : request.Reply → Script α) :
    Poll Progress (Except StoreError request.Reply) → Prop
  | .waiting next => (Query.Phase.asking unit request script next).Placed account? memory
  | .ready (.ok reply) => (Query.proceed Memory.store unit (script reply)).Placed account? memory
  | .ready (.error error) =>
      (Query.Phase.undoing unit error .fresh : Query.Phase UnitId Progress α).Placed account? memory

namespace Shared

/-- The row that a client waits for. -/
def Client.awaited? : Client → Option AccountId
  | .posting wanted (.running phase) => phase.awaited? wanted
  | .inquiry _ (.running phase) => phase.awaited?
  | .hand (.running task) => task.awaited?
  | _ => none

/-- The account that a call is about, if it is about one. -/
def Client.account? : Client → Option AccountId
  | .posting wanted _ => some wanted.account
  | .inquiry asked _ => asked.account?
  | .hand _ => none

/-- Whether the unit of a call, if it has one, stands where the call is. -/
def Client.Placed (memory : Memory) : Client → Prop
  | .posting wanted course => course.WhileRunning fun phase => phase.Placed wanted memory
  | .inquiry asked course => course.WhileRunning fun phase => phase.Placed asked.account? memory
  | .hand _ => True

variable {memory after : Memory} {unit : UnitId} {client : Client}

/-!
## Steps of postings
-/

private theorem got?_of_hasRow {posting : Posting} {phase : Posting.Phase UnitId Progress}
    (has : phase.hasRow = true) :
    phase.got? posting = some posting.account := if_pos has

/-- A posting that has got its row does not wait for it. -/
theorem awaited?_of_hasRow {posting : Posting} {phase : Posting.Phase UnitId Progress}
    (placed : phase.Placed posting memory) (has : phase.hasRow = true) :
    phase.awaited? posting = none := by
  cases phase with
  | opening progress => cases has
  | writing unit balance progress =>
      exact (placed unit rfl).single.resolve_left (by simp [got?_of_hasRow has])
  | _ => first | rfl | cases has

/-- What becomes of a posting that has got its row: it keeps the row until its unit ends. -/
private theorem placed_holding {posting : Posting} {phase next : Posting.Phase UnitId Progress}
    (placed : phase.Placed posting memory) (has : phase.hasRow = true) (still : next.hasRow = true)
    (idle : next.awaited? posting = none) (same : next.unit? = phase.unit?)
    (queues : after.queues = memory.queues) : next.Placed posting after := by
  intro unit owned
  have stands := placed unit (same ▸ owned)
  rw [got?_of_hasRow has, awaited?_of_hasRow placed has] at stands
  rw [got?_of_hasRow still, idle]
  exact stands.congr queues

private theorem held_of_placed {posting : Posting} {phase : Posting.Phase UnitId Progress}
    (placed : phase.Placed posting memory) (has : phase.hasRow = true)
    (owned : phase.unit? = some unit) : memory.holds unit posting.account = true :=
  (placed unit owned).held _ (got?_of_hasRow has)

private theorem placed_locking {posting : Posting} {progress : Progress}
    {result : Poll Progress (Except StoreError (Option Account))}
    (placed : (Posting.Phase.locking unit progress).Placed posting memory)
    (locking : Memory.Locking unit posting.account memory result after) :
    Served after unit posting.account result := by
  have within : ∀ row, posting.lockRequest.awaited? progress = some row →
      row = posting.account := by
    intro row awaited
    cases progress <;> cases awaited
    rfl
  exact (placed unit rfl).locking within locking

theorem posting_placed {posting : Posting} {phase : Posting.Phase UnitId Progress}
    {turn : Turn (Posting.Phase UnitId Progress) Posting.Result}
    (placed : phase.Placed posting memory) (sound : Sound memory)
    (move : Posting.Move posting memory phase turn after) :
    (Client.posting posting (.ofTurn turn)).Placed after := by
  cases move with
  | keepsOpening opening =>
      intro unit owned
      cases owned
  | opens opening =>
      rintro unit ⟨⟩
      exact .opening opening sound
  | keepsLocking locking =>
      rintro unit ⟨⟩
      have stands := placed_locking placed locking
      cases locking with
      | waits deadline free => exact stands
  | accepts locking posted =>
      rintro unit ⟨⟩
      exact placed_locking placed locking
  | refuses locking posted =>
      rintro unit ⟨⟩
      have stands : Stands after _ (some posting.account) none := placed_locking placed locking
      simpa [Posting.Phase.got?, Posting.Phase.hasRow, kind_ofRefusal, Posting.Phase.awaited?]
        using stands
  | misses locking =>
      rintro unit ⟨⟩
      exact placed_locking placed locking
  | keepsWriting setting =>
      have held := held_of_placed placed rfl rfl
      exact placed_holding placed rfl rfl (setting.progress held) rfl (setting.queues held)
  | writes setting =>
      exact placed_holding placed rfl rfl rfl rfl (setting.queues (held_of_placed placed rfl rfl))
  | failsToWrite setting =>
      exact placed_holding placed rfl rfl rfl rfl (setting.queues (held_of_placed placed rfl rfl))
  | keepsAppending appending => exact placed_holding placed rfl rfl rfl rfl appending.queues
  | appends appending => exact placed_holding placed rfl rfl rfl rfl appending.queues
  | failsToAppend appending => exact placed_holding placed rfl rfl rfl rfl appending.queues
  | keepsCommitting committing =>
      exact placed_holding placed rfl rfl rfl rfl committing.rearmed.queues
  | keepsUndoing rollingBack =>
      intro unit owned
      cases owned
      exact (placed _ rfl).rearmed rollingBack.rearmed
  | failsToOpen opening => trivial
  | interruptedOpening interruption => trivial
  | timesOut locking => trivial
  | appendsTooLate interruption appending => trivial
  | interrupted stage interruption owned early withdrawn => trivial
  | commits committing => trivial
  | failsToCommit committing => trivial
  | undoes rollingBack => trivial

/-!
## Steps of inquiries
-/

private theorem placed_proceed {α : Type} {account? got? : Option AccountId} {script : Script α}
    (orderly : script.Orderly account? got?) (within : ∀ row, got? = some row → account? = some row)
    (stands : Stands memory unit got? none) :
    (Query.proceed Memory.store unit script).Placed account? memory := by
  cases script with
  | done answer => exact ⟨got?, within, stands⟩
  | ask request next =>
      refine ⟨got?, orderly, within, ?_⟩
      cases request <;> exact stands

/-- What a request of an inquiry that is tried makes of the place of its unit. -/
private theorem placed_asking {α : Type} {account? : Option AccountId} {request : Request}
    {script : request.Reply → Script α} {progress : Progress} {world left : World Memory}
    {result : Poll Progress (Except StoreError request.Reply)}
    (placed : (Query.Phase.asking unit request script progress).Placed account? world.store)
    (tried : Memory.tryAsk unit request progress world = (result, left)) :
    Query.Answered account? left.store unit request script result := by
  obtain ⟨got?, orderly, within, stands⟩ := placed
  cases rowless : request.row? with
  | none =>
      -- The request needs no row, so the unit stays where it is.
      have unawaited : ∀ progress, request.awaited? progress = none := by
        intro progress
        cases progress <;> first | rfl | exact rowless
      have queues : left.store.queues = world.store.queues := by
        have same : (Memory.tryAsk unit request progress world).2.store.queues =
            world.store.queues := Memory.queues_tryAsk rowless
        rwa [tried] at same
      have still := stands.congr queues
      rw [unawaited] at still
      rcases result with next | error | reply
      · exact ⟨got?, orderly, within, unawaited next ▸ still⟩
      · exact ⟨got?, within, still⟩
      · exact placed_proceed ((Script.orderly_rowless rowless).mp orderly reply) within still
  | some row =>
      cases request with
      | lock id deadline =>
          obtain ⟨about, rfl, missed, found⟩ := orderly
          have waits : ∀ row, (Request.lock id deadline).awaited? progress = some row →
              row = id := by
            intro row awaited
            cases progress <;> cases awaited
            rfl
          have locking := Memory.tryLock_locking unit id deadline world
          rw [show Memory.tryLock unit id deadline world = (result, left) from tried] at locking
          have moved := stands.locking waits locking
          rcases result with next | error | _ | account
          · have queued : (Request.lock id deadline).awaited? next = some id := by
              generalize left.store = after at locking
              cases locking
              rfl
            exact ⟨none, ⟨about, rfl, missed, found⟩, within, queued ▸ moved⟩
          · exact ⟨none, within, moved⟩
          · exact placed_proceed missed within moved
          · refine placed_proceed (found account) (fun row got => ?_) moved
            cases got
            exact about
      | setBalance id balance => cases orderly.1
      | _ => cases rowless

theorem query_placed {α : Type} {account? : Option AccountId} {query : Query α}
    {phase : Query.Phase UnitId Progress α} {world : World Memory}
    {turn : Turn (Query.Phase UnitId Progress α) (Query.Result α)} {left : Memory}
    (orderly : query.script.Orderly account? none) (placed : phase.Placed account? world.store)
    (sound : Sound world.store) (move : query.Move world phase turn left) :
    (Course.ofTurn turn).WhileRunning fun next => next.Placed account? left := by
  cases move with
  | keepsOpening opening => trivial
  | opens opening => exact placed_proceed orderly nofun (.opening opening sound)
  | failsToOpen opening => trivial
  | keepsAsking tried => exact placed_asking placed tried
  | hears tried => exact placed_asking placed tried
  | fails tried => exact placed_asking placed tried
  | keepsCommitting rearmed =>
      obtain ⟨got?, within, stands⟩ := placed
      exact ⟨got?, within, stands.rearmed rearmed⟩
  | commits ended => trivial
  | failsToCommit ended => trivial
  | keepsUndoing rearmed =>
      obtain ⟨got?, within, stands⟩ := placed
      exact ⟨got?, within, stands.rearmed rearmed⟩
  | undoes ended => trivial

/-!
## Runs
-/

theorem Effect.mem_queues_other {one two : Option UnitId} {other : UnitId} {row : AccountId}
    (effect : Effect memory one two after) (before : one ≠ some other) :
    other ∈ after.queues row ↔ other ∈ memory.queues row := by
  cases effect with
  | idles rearmed => rw [rearmed.queues]
  | opens rearmed => exact iff_of_eq (congrArg (other ∈ · row) rearmed.queues)
  | acts acts => exact acts.mem_queues_iff fun same => before (same ▸ rfl)
  | drops acts =>
      have different : other ≠ _ := fun same => before (same ▸ rfl)
      exact (Memory.mem_queues_discard different).trans (acts.mem_queues_iff different)
  | publishes rearmed free =>
      have different : other ≠ _ := fun same => before (same ▸ rfl)
      rw [← rearmed.queues]
      exact Memory.mem_queues_discard different

private theorem stands_others {one two : Option UnitId} {got? awaited? : Option AccountId}
    (stands : Stands memory unit got? awaited?) (effect : Effect memory one two after)
    (before : one ≠ some unit) : Stands after unit got? awaited? where
  queued row := (effect.mem_queues_other before).trans (stands.queued row)
  held row got := effect.holds_other before (stands.held row got)
  single := stands.single

private theorem Client.Placed.others {one two : Option UnitId} (placed : client.Placed memory)
    (effect : Effect memory one two after)
    (apart : ∀ unit, client.unit? = some unit → one ≠ some unit) : client.Placed after := by
  cases client using Client.running_or_over with
  | posting wanted phase =>
      exact fun unit owned => stands_others (placed unit owned) effect (apart unit owned)
  | inquiry asked phase =>
      cases phase with
      | opening progress => trivial
      | asking unit request next progress =>
          obtain ⟨got?, orderly, within, stands⟩ := placed
          exact ⟨got?, orderly, within, stands_others stands effect (apart unit rfl)⟩
      | committing unit answer progress =>
          obtain ⟨got?, within, stands⟩ := placed
          exact ⟨got?, within, stands_others stands effect (apart unit rfl)⟩
      | undoing unit cause progress =>
          obtain ⟨got?, within, stands⟩ := placed
          exact ⟨got?, within, stands_others stands effect (apart unit rfl)⟩
  | hand task => trivial
  | settled client isOver =>
      cases client with
      | posting wanted course => cases course <;> trivial
      | inquiry asked course => cases course <;> trivial
      | hand course => trivial

theorem Client.Placed.proceed {world : World Memory} (placed : client.Placed world.store)
    (sound : Sound world.store) :
    (client.proceed world).1.Placed (client.proceed world).2.store := by
  cases client using Client.running_or_over with
  | posting wanted phase => exact posting_placed placed sound (wanted.step_move phase world)
  | inquiry asked phase =>
      have moved :=
        query_placed asked.orderly_query placed sound (asked.query.step_move phase world)
      simp only [Client.proceed]
      generalize (asked.query.step Memory.store phase world).1 = turn at moved ⊢
      cases turn with
      | rests next => exact moved
      | proceeds next => exact moved
      | ends result => trivial
  | hand task => trivial
  | settled client isOver => rwa [Client.proceed_of_isOver isOver]

theorem Client.Placed.giveUp {world : World Memory} (placed : client.Placed world.store) :
    (client.giveUp world).1.Placed (client.giveUp world).2.store := by
  cases client using Client.running_or_over with
  | posting wanted phase => trivial
  | inquiry asked phase => trivial
  | hand task => trivial
  | settled client isOver => rwa [Client.giveUp_of_isOver isOver]

theorem placed_run {actions : List Action} {id : ClientId}
    (known : (run actions).clients id = some client) :
    client.Placed (run actions).memory := by
  refine client_run (motive := fun actions client => client.Placed (run actions).memory) ?_ ?_ ?_
    ?_ known
  · rintro actions posting unit ⟨⟩
  · exact fun actions inquiry => trivial
  · exact fun actions deadline => trivial
  · intro actions action client next before placed fate now
    cases fate with
    | spared same effect apart owner =>
        cases same.symm.trans now
        exact placed.others effect fun unit has => (apart unit has).1
    | proceeds steps world =>
        cases steps.symm.trans now
        rw [State.memory, world]
        exact placed.proceed (owned_run actions).sound
    | givesUp drops world =>
        cases drops.symm.trans now
        rw [State.memory, world]
        exact placed.giveUp
    | asks idle told world =>
        cases told.symm.trans now
        trivial
    | finishes idle told world =>
        cases told.symm.trans now
        trivial

/-- Whether a client is a call, and not a unit of work in the hands of a caller. -/
def Client.isCall : Client → Bool
  | .hand _ => false
  | _ => true

/-- A call stands in the queue of the account that it is about, if anywhere. -/
theorem Client.Placed.stands (placed : client.Placed memory) (isCall : client.isCall = true)
    (owned : client.unit? = some unit) :
    ∃ got?, Stands memory unit got? client.awaited? ∧ ∀ row, unit ∈ memory.queues row →
      client.account? = some row := by
  cases client using Client.running_or_over with
  | posting wanted phase =>
      have stands := placed unit owned
      refine ⟨_, stands, fun row member => congrArg some ?_⟩
      rcases (stands.queued row).mp member with got | awaited
      · simp only [Posting.Phase.got?] at got
        split at got <;> simp_all
      · cases phase with
        | locking unit progress =>
            cases progress <;>
              simp_all [Posting.Phase.awaited?, Request.awaited?, Request.row?, Posting.lockRequest]
        | writing unit balance progress =>
            cases progress <;>
              simp_all [Posting.Phase.awaited?, Request.awaited?, Request.row?,
                Posting.balanceRequest]
        | _ => cases awaited
  | inquiry asked phase =>
      cases phase with
      | opening progress => cases owned
      | asking unit request next progress =>
          cases owned
          obtain ⟨got?, orderly, within, stands⟩ := placed
          refine ⟨got?, stands, fun row member => ?_⟩
          rcases (stands.queued row).mp member with got | awaited
          · exact within row got
          · cases request <;> cases progress <;> cases awaited
            · exact orderly.1
            · cases orderly.1
      | committing unit answer progress =>
          cases owned
          obtain ⟨got?, within, stands⟩ := placed
          exact ⟨got?, stands,
            fun row member => within row (((stands.queued row).mp member).resolve_right nofun)⟩
      | undoing unit cause progress =>
          cases owned
          obtain ⟨got?, within, stands⟩ := placed
          exact ⟨got?, stands,
            fun row member => within row (((stands.queued row).mp member).resolve_right nofun)⟩
  | hand task => cases isCall
  | settled client isOver => cases (Client.unit?_of_isOver isOver).symm.trans owned

end Shared

end Passbook

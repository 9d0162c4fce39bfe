import Passbook.Proofs.Shared.Ascending
import Passbook.Proofs.Shared.Inquiries
import Passbook.Proofs.Shared.RowLocks

/-!
The order in which units of work list the entries of an account. An entry is numbered when it is
appended and listed when its unit is committed, so units that append for one account at the same
time can be listed against the order of their numbers. Nothing of the kind happens to an account for
which no two units stage entries at once, as when the row of the account is held by whoever appends
for it.
-/

set_option autoImplicit false

namespace Passbook

namespace Memory

variable {memory after : Memory} {unit : UnitId} {row : AccountId} {world left : World Memory}

/-- What a unit has staged for an account, in the order in which it lists it. -/
def ownEntries (memory : Memory) (unit : UnitId) (row : AccountId) : List Entry :=
  (memory.staged unit).entries.filter fun entry => entry.account == some row

/-!
## Numbers
-/

/-- Whether every unit has staged its entries in the order of their numbers. -/
def StagesUpward (memory : Memory) : Prop :=
  ∀ unit, (memory.entryNumbers (some unit)).Pairwise (· < ·)

theorem StagesUpward.congr (upward : StagesUpward memory)
    (same : ∀ unit, after.staged unit = memory.staged unit) :
    StagesUpward after := by
  intro unit
  rw [entryNumbers, same]
  exact upward unit

theorem StagesUpward.act (upward : StagesUpward memory) (sound : Sound memory)
    (act : Act unit memory after) : StagesUpward after := by
  intro other
  rcases act.entryNumbers with ⟨same, -⟩ | ⟨grown, -⟩
  · rw [same]
    exact upward other
  · rw [grown]
    by_cases mine : other = unit
    · subst other
      rw [assign_same]
      refine List.pairwise_append.mpr ⟨upward unit, List.pairwise_singleton _ _,
        fun old member new isNew => ?_⟩
      have bound := (sound.entries.bounds (some unit) old member).2
      rw [List.mem_singleton.mp isNew]
      omega
    · rw [assign_other _ _ (by simpa using mine)]
      exact upward other

theorem StagesUpward.acts (upward : StagesUpward memory) (sound : Sound memory)
    (isOpen : memory.units unit ≠ none) (acts : Acts unit memory after) : StagesUpward after := by
  induction acts with
  | refl => exact upward
  | tail earlier act ih => exact ih.act (sound.acts isOpen earlier) act

theorem StagesUpward.discard (upward : StagesUpward memory) (unit : UnitId) :
    StagesUpward (memory.discard unit) := by
  intro other
  rw [entryNumbers_discard]
  by_cases mine : other = unit
  · rw [mine, assign_same]
    exact .nil
  · rw [assign_other _ _ (by simpa using mine)]
    exact upward other

theorem StagesUpward.ownEntries (upward : StagesUpward memory) (unit : UnitId) (row : AccountId) :
    (memory.ownEntries unit row).Pairwise fun one two => one.id.value < two.id.value :=
  (List.pairwise_map.mp (upward unit)).sublist List.filter_sublist

/-- No number is listed twice. -/
theorem Sound.nodup_history (sound : Sound memory) (unit : UnitId) (row : AccountId) :
    ((memory.history unit row).map (·.id.value)).Nodup := by
  have apart : (memory.entries ++ (memory.staged unit).entries).map (·.id.value) =
      memory.entryNumbers none ++ memory.entryNumbers (some unit) := List.map_append
  refine List.Nodup.sublist (List.filter_sublist.map _) ?_
  rw [apart]
  refine List.nodup_append.mpr ⟨sound.entries.nodup none, sound.entries.nodup (some unit),
    fun one first two second same => ?_⟩
  cases sound.entries.apart none (some unit) one first (same ▸ second)

/-!
## Appending
-/

theorem isSome_view_of_appended {draft : EntryDraft} {progress : Progress} {entry : Entry}
    (tried : tryAsk unit (.append draft) progress world = (.ready (.ok entry), left))
    (mine : draft.account = some row) :
    (world.store.view unit row).isSome := by
  have appending := tryAppend_appending unit draft progress world
  rw [show tryAppend unit draft progress world = (.ready (.ok entry), left) from tried] at appending
  generalize left.store = after at appending
  cases appending with
  | appends time rearmed seen =>
      rw [← view_congr (congrFun rearmed.units unit) (account?_congr rearmed.accounts row)]
      exact seen row mine

/-- A request adds nothing to what a unit has staged for an account, or it appends for an account
that the unit finds. -/
theorem records_tried {request : Request} {progress : Progress}
    {result : Poll Progress (Except StoreError request.Reply)}
    (tried : tryAsk unit request progress world = (result, left))
    (records : left.store.Records unit row) :
    world.store.Records unit row ∨
      ∃ draft, request = .append draft ∧ draft.account = some row ∧
        (world.store.view unit row).isSome := by
  have staging := tryAsk_staging unit request progress world
  have seen : ∀ draft entry, request = .append draft →
    result ≍ (.ready (.ok entry) : Poll Progress (Except StoreError Entry)) →
      draft.account = some row → (world.store.view unit row).isSome := by
    rintro draft entry rfl ⟨⟩ mine
    exact isSome_view_of_appended tried mine
  rw [tried] at staging
  generalize left.store = after at staging records
  cases staging with
  | nothing unwritten unheard => exact .inl (records.of_units (congrFun unwritten.units unit))
  | creates registration free =>
      rw [Records, staged_create] at records
      exact .inl records
  | sets id balance unwritten =>
      rw [Records, staged_setBalance, staged_congr (congrFun unwritten.units unit)] at records
      exact .inl records
  | appends draft time unwritten =>
      obtain ⟨entry, member, mine⟩ := records
      rw [staged_append, staged_congr (congrFun unwritten.units unit)] at member
      rcases List.mem_append.mp member with old | new
      · exact .inl ⟨entry, old, mine⟩
      · rw [List.mem_singleton.mp new] at mine
        exact .inr ⟨draft, rfl, mine, seen draft _ rfl .rfl mine⟩

end Memory

namespace Shared

open Memory (Progress Sound AscendingAt Records Unshared StagesUpward Sees)

variable {actions : List Action} {memory after : Memory} {state next : State}
  {one two : Option UnitId} {id : ClientId} {unit : UnitId} {row : AccountId}

/-!
## Runs
-/

theorem Effect.stagesUpward (effect : Effect memory one two after) (upward : StagesUpward memory)
    (sound : Sound memory) (isOpen : ∀ unit, one = some unit → memory.units unit ≠ none) :
    StagesUpward after := by
  cases effect with
  | idles rearmed => exact upward.congr rearmed.staged
  | opens rearmed =>
      refine upward.congr fun unit => ?_
      exact (Memory.staged_openUnit (sound.rearmed rearmed).next_units unit).trans
        (rearmed.staged unit)
  | acts acts => exact upward.acts sound (isOpen _ rfl) acts
  | drops acts => exact (upward.acts sound (isOpen _ rfl) acts).discard _
  | @publishes unit before rearmed free =>
      have same : (before.publish unit).units = (memory.discard unit).units :=
        congrArg (assign · unit none) rearmed.units
      exact (upward.discard unit).congr fun other => Memory.staged_congr (congrFun same other)

theorem stagesUpward_run (actions : List Action) : StagesUpward (run actions).memory := by
  rw [← List.nil_append actions]
  refine run_onwards (fun state => StagesUpward state.memory)
    (asks_anything actions) (fun _ => .nil) ?_
  intro state after owned upward transition
  cases transition.advance with
  | quiet rearmed clients count => exact upward.congr rearmed.staged
  | arrives fresh => exact upward
  | steps known effect clients count =>
      exact effect.stagesUpward upward owned.sound (owned.isOpen_of_known known)

/-- Every unit lists the entries of an account in the order of their numbers, if at no time two
units have staged entries of it. -/
theorem ascendingAt_run
    (unshared : ∀ earlier, earlier <+: actions → (run earlier).memory.Unshared row) :
    (run actions).memory.AscendingAt row := by
  induction actions using List.reverseRecOn with
  | nil => exact Memory.ascendingAt_empty row
  | append_singleton actions action ih =>
      have next : run (actions ++ [action]) = (run actions).perform action :=
        run_append actions [action]
      have ascending :=
        ih fun earlier isPrefix => unshared earlier (isPrefix.trans (List.prefix_append _ _))
      have transition :
          State.Transition (fun _ => True) (run actions) ((run actions).perform action) :=
        (run actions).perform_transition action fun _ _ _ => trivial
      rw [next]
      exact ascendingAt_advance ascending (owned_run actions)
        (unshared actions (List.prefix_append _ _)) transition.advance

/-!
## Rows that are held for appending
-/

namespace State

/-- Whether a unit in the hands of a caller that appends for an account by an action holds the row
of the account. -/
def holdsToAppend (state : State) (row : AccountId) : Action → Bool
  | .proceed id =>
      match state.clients id with
      | some (.hand (.running (.asking unit (.append draft) _))) =>
          draft.account != some row || state.memory.holds unit row
      | _ => true
  | _ => true

/-- Whether all units in the hands of callers that append for an account in the course of some
actions hold its row when they do. -/
def appendsHeld (state : State) (row : AccountId) : List Action → Bool
  | [] => true
  | action :: later =>
      state.holdsToAppend row action && (state.perform action).appendsHeld row later

theorem appendsHeld_append (state : State) (row : AccountId) (earlier later : List Action) :
    state.appendsHeld row (earlier ++ later) =
      (state.appendsHeld row earlier &&
        (earlier.foldl State.perform state).appendsHeld row later) := by
  induction earlier generalizing state with
  | nil => rfl
  | cons action earlier ih =>
      rw [List.cons_append, appendsHeld, appendsHeld, ih, Bool.and_assoc]
      rfl

end State

private theorem held_earlier {earlier later : List Action}
    (held : State.start.appendsHeld row (earlier ++ later) = true) :
    State.start.appendsHeld row earlier = true := by
  rw [State.appendsHeld_append, Bool.and_eq_true] at held
  exact held.1

private theorem holds_of_appends {draft : EntryDraft} {progress : Progress}
    (held : State.start.appendsHeld row (actions ++ [.proceed id]) = true)
    (known : (run actions).clients id =
      some (.hand (.running (.asking unit (.append draft) progress))))
    (mine : draft.account = some row) : (run actions).memory.holds unit row = true := by
  rw [State.appendsHeld_append, Bool.and_eq_true] at held
  have now : (run actions).appendsHeld row [.proceed id] = true := held.2
  simpa [State.appendsHeld, State.holdsToAppend, known, mine] using now

/-- An inquiry has staged nothing but empty accounts. -/
private theorem mild_of_inquiry {asked : Inquiry}
    {course : Course (Query.Phase UnitId Progress asked.Answer) (Query.Result asked.Answer)}
    (known : (run actions).clients id = some (.inquiry asked course)) :
    (Client.inquiry asked course).Mild (run actions).memory := by
  refine inquiry_run
    (motive := fun actions course => (Client.inquiry asked course).Mild (run actions).memory) ?_ ?_
    ?_ ?_ known
  · intro actions
    exact ⟨trivial, calm_none⟩
  · intro actions phase before mild world
    rw [State.memory, world]
    exact mild_inquiry asked mild.1 mild.2 (asked.query.step_move phase (run actions).world)
  · intro actions
    trivial
  · intro actions action course one two before mild effect apart
    cases course with
    | running phase => exact ⟨mild.1, calm_others mild.2 effect apart⟩
    | ended result => trivial
    | dropped => trivial

/-- Where the entries come from that a unit in the hands of a caller has staged for an account after
a step: they were there before, or the unit has appended one, and then it sees the account under the
row that it holds. -/
private theorem records_of_move {hand after : Hand} {world : World Memory} {left : Memory}
    (sound : Sound world.store) (move : hand.Move world (.running after) left)
    (has : after.unit? = some unit) (records : left.Records unit row)
    (held : ∀ draft progress, hand = .asking unit (.append draft) progress →
      draft.account = some row → world.store.holds unit row = true) :
    (hand.unit? = some unit ∧ world.store.Records unit row) ∨
      (after.awaited? = none ∧ ∃ account, Sees left unit row account) := by
  cases move with
  | keepsOpening opening => cases has
  | opens opening =>
      cases has
      cases opening with
      | opens rearmed =>
          obtain ⟨entry, member, -⟩ := records
          rw [Memory.staged_of_units (assign_same _ _ _)] at member
          cases member
  | idles => exact .inl ⟨has, records⟩
  | keepsAsking tried =>
      cases has
      exact .inl ⟨rfl, records.of_units (congrFun (Memory.units_of_waiting tried) unit)⟩
  | @hears _ _ progress _ _ tried =>
      cases has
      rcases Memory.records_tried tried records with old | ⟨draft, rfl, mine, seen⟩
      · exact .inl ⟨rfl, old⟩
      · obtain ⟨account, seen⟩ := Option.isSome_iff_exists.mp seen
        have sees : Sees world.store unit row account := ⟨held draft progress rfl mine, seen⟩
        have still := sees.tryAsk sound (.append draft) progress
        rw [tried] at still
        exact .inr ⟨rfl, _, still⟩
  | keepsFinishing rearmed =>
      cases has
      exact .inl ⟨rfl, records.of_units (congrFun rearmed.units unit)⟩

/-- A unit in the hands of a caller that has staged entries of an account holds its row, and keeps
it. -/
private theorem holding_of_records {hand : Hand} (held : State.start.appendsHeld row actions = true)
    (known : (run actions).clients id = some (.hand (.running hand))) (has : hand.unit? = some unit)
    (records : (run actions).memory.Records unit row) :
    ∃ account, (run actions).Holding id unit row account := by
  refine client_run (motive := fun actions client => State.start.appendsHeld row actions = true →
    ∀ hand, client = .hand (.running hand) → hand.unit? = some unit →
    (run actions).memory.Records unit row →
      ∃ account, (run actions).Holding id unit row account)
    ?_ ?_ ?_ ?_ known held hand rfl has records
  · rintro _ _ _ _ ⟨⟩
  · rintro _ _ _ _ ⟨⟩
  · rintro _ _ _ _ ⟨⟩ ⟨⟩
  · rintro actions action client _ before ih fate now held hand rfl has records
    have next : run (actions ++ [action]) = (run actions).perform action :=
      run_append actions [action]
    -- a unit that had staged entries before held the row then, and gives it up only by ending
    have kept : ∀ hand, client = .hand (.running hand) → hand.unit? = some unit →
      (run actions).memory.Records unit row →
        ∃ account, (run (actions ++ [action])).Holding id unit row account := by
      intro earlier same had recorded
      obtain ⟨account, holding⟩ := ih (held_earlier held) earlier same had recorded
      rw [next] at records ⊢
      cases holding.perform (owned_run actions) (careful_clients.run (asks_anything actions)) action
        with
      | holds still committed => exact ⟨_, still⟩
      | ends closed committed => exact absurd closed records.isOpen
    cases fate with
    | spared same effect apart owner =>
        cases same.symm.trans now
        exact kept hand rfl has
          (records.of_units (effect.units_other (apart unit has).1 (apart unit has).2))
    | proceeds here world =>
        obtain ⟨earlier, rfl, move⟩ := hand_of_proceed (Option.some.inj (here.symm.trans now))
        rw [State.memory, world] at records
        have appends : ∀ draft progress, earlier = .asking unit (.append draft) progress →
          draft.account = some row →
            (run actions).memory.holds unit row = true := by
          rintro draft progress rfl mine
          exact holds_of_appends held before mine
        rcases records_of_move (owned_run actions).sound move has records appends
          with ⟨had, recorded⟩ | ⟨unawaited, account, sees⟩
        · exact kept earlier rfl had recorded
        · refine ⟨account, ⟨hand, now, has, by simp [unawaited]⟩, ?_⟩
          rwa [State.memory, world]
    | givesUp here world =>
        obtain ⟨earlier, rfl, gone, left⟩ := hand_of_giveUp (Option.some.inj (here.symm.trans now))
        rw [State.memory, world, left] at records
        cases earlier with
        | opening deadline progress => cases gone
        | idle other last => cases gone
        | asking other request progress =>
            cases gone
            have units : (Memory.withdraw other request progress (run actions).world).store.units =
                (run actions).memory.units := by
              rw [Memory.withdraw_eq]
              cases request.awaited? progress <;> rfl
            exact kept _ rfl has (records.of_units (congrFun units unit))
        | finishing other ending progress => cases gone
    | asks idle here world =>
        cases here.symm.trans now
        rw [State.memory, world] at records
        exact kept _ idle has records
    | finishes idle here world =>
        cases here.symm.trans now
        rw [State.memory, world] at records
        exact kept _ idle has records

/-- If whoever appends for an account holds its row, no two units have ever staged entries of it at
the same time. -/
theorem unshared_of_appendsHeld (held : State.start.appendsHeld row actions = true) :
    (run actions).memory.Unshared row := by
  refine unshared_of_clients (owned_run actions) fun id client unit known has records => ?_
  cases client using Client.running_or_over with
  | posting wanted phase =>
      exact holds_of_fits (careful_clients.run (asks_anything actions) id _ known) has records
  | inquiry asked phase => exact (mild_of_inquiry known).holds has records
  | hand task =>
      obtain ⟨account, holding⟩ := holding_of_records held known has records
      exact holding.sees.held
  | settled client isOver => cases (Client.unit?_of_isOver isOver).symm.trans has

/-- A unit lists the committed entries of an account and after them its own, none of them twice and
its own in the order of their numbers. All of them come in that order if no two units have ever had
entries of the account staged at the same time; and so it is if whoever appends for the account
holds its row. -/
theorem history_in_order (actions : List Action) (unit : UnitId) (row : AccountId) :
    (run actions).memory.history unit row = (run actions).memory.entriesOf row ++
      (run actions).memory.ownEntries unit row ∧
      (((run actions).memory.history unit row).map (·.id.value)).Nodup ∧
      ((run actions).memory.ownEntries unit row).Pairwise
        (fun one two => one.id.value < two.id.value) ∧
      ((∀ earlier, earlier <+: actions → (run earlier).memory.Unshared row) →
        ((run actions).memory.history unit row).Pairwise fun one two =>
          one.id.value < two.id.value) ∧
      (State.start.appendsHeld row actions = true → ∀ earlier, earlier <+: actions →
        (run earlier).memory.Unshared row) := by
  refine ⟨Memory.history_eq _ _ _, (owned_run actions).sound.nodup_history unit row,
    (stagesUpward_run actions).ownEntries unit row, ?_, ?_⟩
  · intro unshared
    exact ascendingAt_run unshared unit
  · rintro held earlier ⟨later, rfl⟩
    exact unshared_of_appendsHeld (held_earlier held)

/-- A unit is given the row of an account and appends two entries for it. -/
def sampleEntries : List Action :=
  sampleLock ++ [.ask ⟨2⟩ (.append ⟨some ⟨1⟩, (sampleMovement .credit).amount, .credit⟩),
    .proceed ⟨2⟩, .ask ⟨2⟩ (.append ⟨some ⟨1⟩, (sampleMovement .debit).amount, .debit⟩),
    .proceed ⟨2⟩]

theorem history_in_order_sample :
    State.start.appendsHeld ⟨1⟩ sampleEntries = true ∧
      ((run sampleEntries).memory.history ⟨2⟩ ⟨1⟩).map (·.id.value) = [1, 2] ∧
      ((run sampleEntries).memory.history ⟨2⟩ ⟨1⟩).Pairwise fun one two =>
        one.id.value < two.id.value := by
  have held : State.start.appendsHeld ⟨1⟩ sampleEntries = true := by decide +kernel
  obtain ⟨-, -, -, inOrder, unshared⟩ := history_in_order sampleEntries ⟨2⟩ ⟨1⟩
  exact ⟨held, by decide +kernel, inOrder (unshared held)⟩

/-- Two units append for an account without asking for its row, and the one that appends last is
committed first. Then a third unit lists the entries of the account. -/
def sampleOvertaking : List Action :=
  [.inquire (.create sampleRegistration .never)] ++ List.replicate 3 (.proceed ⟨1⟩) ++
    [.openUnit .never, .proceed ⟨2⟩, .openUnit .never, .proceed ⟨3⟩,
      .ask ⟨2⟩ (.append ⟨some ⟨1⟩, (sampleMovement .credit).amount, .credit⟩), .proceed ⟨2⟩,
      .ask ⟨3⟩ (.append ⟨some ⟨1⟩, (sampleMovement .credit).amount, .credit⟩), .proceed ⟨3⟩,
      .finish ⟨3⟩ .commit, .proceed ⟨3⟩, .finish ⟨2⟩ .commit, .proceed ⟨2⟩,
      .openUnit .never, .proceed ⟨4⟩, .ask ⟨4⟩ (.list ⟨1⟩), .proceed ⟨4⟩]

/-- Entries are listed in the order of the commits, against that of their numbers. -/
theorem entries_listed_as_committed :
    ∃ entries, (run sampleOvertaking).clients ⟨4⟩ =
      some (.hand (.running (.idle ⟨4⟩ (some ⟨.list ⟨1⟩, .ok entries⟩)))) ∧
      entries.map (·.id.value) = [2, 1] ∧
        ¬entries.Pairwise fun one two => one.id.value < two.id.value := by
  refine ⟨_, rfl, ?_, ?_⟩ <;> decide +kernel

end Shared

end Passbook

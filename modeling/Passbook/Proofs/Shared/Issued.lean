import Passbook.Proofs.Shared.Trial

/-!
The numbers that a ledger hands out. All units of work hear their replies from one ledger, and the
numbers in these replies are one, two, three and so on, whatever becomes of the units that hear
them. Accounts and entries are counted apart.
-/

set_option autoImplicit false

namespace Passbook

open Memory (Progress Rearmed)

/-- The identifier of the account that a reply hands out. -/
def Request.accountGiven? : (request : Request) → Except StoreError request.Reply → Option AccountId
  | .insert _, .ok account => some account.id
  | _, _ => none

def Request.entryGiven? : (request : Request) → Except StoreError request.Reply → Option EntryId
  | .append _, .ok entry => some entry.id
  | _, _ => none

/-- The numbers that a counter has given out. -/
def numbersUpTo (last : Nat) : List Int :=
  (List.range last).map fun before : Nat => (before : Int) + 1

theorem numbersUpTo_succ (last : Nat) :
    numbersUpTo (last + 1) = numbersUpTo last ++ [(last : Int) + 1] := by
  rw [numbersUpTo, List.range_succ, List.map_append]
  rfl

theorem mem_numbersUpTo {last : Nat} {number : Int} :
    number ∈ numbersUpTo last ↔ 0 < number ∧ number ≤ last := by
  rw [numbersUpTo, List.mem_map]
  constructor
  · rintro ⟨before, member, rfl⟩
    rw [List.mem_range] at member
    omega
  · rintro ⟨positive, small⟩
    refine ⟨(number - 1).toNat, List.mem_range.mpr ?_, ?_⟩ <;> omega

theorem nodup_numbersUpTo (last : Nat) : (numbersUpTo last).Nodup := by
  apply List.nodup_range.map
  intro one other same
  have equal : (one : Int) + 1 = other + 1 := same
  omega

/-- What becomes of a counter by a reply: it gives out its next number, or nothing. -/
inductive Issues (last : Nat) : Option Int → Nat → Prop
  | nothing : Issues last none last
  | next : Issues last (some (last + 1)) (last + 1)

theorem Issues.numbers {last after : Nat} {issued : Option Int}
    (issues : Issues last issued after) :
    numbersUpTo last ++ issued.toList = numbersUpTo after := by
  cases issues with
  | nothing => exact List.append_nil _
  | next => exact (numbersUpTo_succ last).symm

namespace Shared

/-- A request with the reply to it. -/
abbrev Heard := (request : Request) × Except StoreError request.Reply

def Heard.accountGiven? (heard : Heard) : Option AccountId := heard.1.accountGiven? heard.2

def Heard.entryGiven? (heard : Heard) : Option EntryId := heard.1.entryGiven? heard.2

def State.hears? (state : State) : Action → Option Heard
  | .proceed id => (state.clients id).bind (·.hears? state.world)
  | _ => none

def State.heard : State → List Action → List Heard
  | _, [] => []
  | state, action :: later => (state.hears? action).toList ++ (state.perform action).heard later

/-- All replies that units of work hear in a run, in their order. -/
def heard (actions : List Action) : List Heard := State.start.heard actions

theorem State.heard_append (state : State) (earlier later : List Action) :
    state.heard (earlier ++ later) =
      state.heard earlier ++ (earlier.foldl State.perform state).heard later := by
  induction earlier generalizing state with
  | nil => rfl
  | cons action earlier ih =>
      simp only [List.cons_append, State.heard, ih, List.append_assoc, List.foldl_cons]

theorem heard_append (actions : List Action) (action : Action) :
    heard (actions ++ [action]) = heard actions ++ ((run actions).hears? action).toList := by
  rw [heard, State.heard_append]
  exact congrArg _ (List.append_nil _)

/-!
## Steps
-/

/-- What becomes of the counters by a reply, if one is heard. -/
structure Counts (memory : Memory) (heard : Option Heard) (after : Memory) : Prop where
  accounts : Issues memory.lastAccount ((heard.bind Heard.accountGiven?).map (·.value))
    after.lastAccount
  entries : Issues memory.lastEntry ((heard.bind Heard.entryGiven?).map (·.value)) after.lastEntry

variable {memory after left : Memory} {heard? : Option Heard}

theorem counts_nothing (noAccount : heard?.bind Heard.accountGiven? = none)
    (noEntry : heard?.bind Heard.entryGiven? = none)
    (same : after.lastAccount = memory.lastAccount ∧ after.lastEntry = memory.lastEntry) :
    Counts memory heard? after where
  accounts := by
    rw [noAccount, same.1]
    exact .nothing
  entries := by
    rw [noEntry, same.2]
    exact .nothing

private theorem counters_rearmed (rearmed : Rearmed memory after) :
    after.lastAccount = memory.lastAccount ∧ after.lastEntry = memory.lastEntry := by
  obtain ⟨faults, delays, rfl⟩ := rearmed
  exact ⟨rfl, rfl⟩

theorem Settles.counters (settles : Settles memory after) :
    after.lastAccount = memory.lastAccount ∧ after.lastEntry = memory.lastEntry := by
  cases settles with
  | rearms rearmed => exact counters_rearmed rearmed
  | leaves unit id => exact ⟨rfl, rfl⟩
  | opens rearmed | discards rearmed unit | publishes rearmed unit =>
      have counters := counters_rearmed rearmed
      exact counters

theorem Counts.of_same (counts : Counts left heard? after)
    (accounts : left.lastAccount = memory.lastAccount)
    (entries : left.lastEntry = memory.lastEntry) : Counts memory heard? after where
  accounts := accounts ▸ counts.accounts
  entries := entries ▸ counts.entries

theorem Counts.settles (counts : Counts memory heard? left) (settles : Settles left after) :
    Counts memory heard? after where
  accounts := settles.counters.1 ▸ counts.accounts
  entries := settles.counters.2 ▸ counts.entries

/-- The reply of a request that has been tried, if it has been answered. -/
def reply? {request : Request} : Poll Progress (Except StoreError request.Reply) → Option Heard
  | .waiting _ => none
  | .ready reply => some ⟨request, reply⟩

private theorem tryAsk_counts (unit : UnitId) (request : Request) (progress : Progress)
    (world : World Memory) :
    Counts world.store (reply? (Memory.tryAsk unit request progress world).1)
      (Memory.tryAsk unit request progress world).2.store := by
  have staging := Memory.tryAsk_staging unit request progress world
  generalize (Memory.tryAsk unit request progress world).1 = result,
    (Memory.tryAsk unit request progress world).2.store = left at staging
  cases staging with
  | nothing unwritten unheard =>
      have counters := And.intro unwritten.lastAccount unwritten.lastEntry
      rcases result with later | error | reply
      · exact counts_nothing rfl rfl counters
      · cases request <;> exact counts_nothing rfl rfl counters
      · cases request with
        | insert registration => exact absurd rfl (unheard rfl reply)
        | append draft => exact absurd rfl (unheard rfl reply)
        | _ => exact counts_nothing rfl rfl counters
  | creates registration free => exact ⟨.next, .nothing⟩
  | sets id balance unwritten =>
      exact counts_nothing rfl rfl ⟨unwritten.lastAccount, unwritten.lastEntry⟩
  | @appends draft time before unwritten =>
      have counts : Counts before (some ⟨.append draft, .ok (before.append unit draft time).1⟩)
          (before.append unit draft time).2 :=
        ⟨.nothing, .next⟩
      exact counts.of_same unwritten.lastAccount unwritten.lastEntry

theorem Client.proceed_counts (client : Client) (world : World Memory) :
    Counts world.store (client.hears? world) (client.proceed world).2.store := by
  have trying := client.proceed_trying world
  unfold Client.hears?
  generalize client.tries? world = tries, (client.proceed world).1.trial? = next,
    (client.proceed world).2.store = left at trying
  cases trying with
  | settles fresh settles => exact counts_nothing rfl rfl settles.counters
  | @waits unit request progress later left tried =>
      have counts := tryAsk_counts unit request progress world
      rw [tried] at counts
      simp only [show Memory.store.tryAsk unit request progress world = _ from tried]
      exact counts
  | @hears unit request progress reply left next after tried fresh settles =>
      have counts := tryAsk_counts unit request progress world
      rw [tried] at counts
      simp only [show Memory.store.tryAsk unit request progress world = _ from tried]
      exact counts.settles settles

theorem State.perform_counts (state : State) (action : Action) :
    Counts state.memory (state.hears? action) (state.perform action).memory := by
  have leaves := state.perform_leaves action
  generalize (state.perform action).memory = after at leaves ⊢
  cases leaves with
  | rearms idle rearmed =>
      have unheard : state.hears? action = none := by
        cases action with
        | proceed id => simp only [State.hears?, idle id rfl, Option.bind_none]
        | _ => rfl
      rw [unheard]
      exact counts_nothing rfl rfl (counters_rearmed rearmed)
  | @proceeds id client known =>
      simp only [State.hears?, known, Option.bind_some]
      exact client.proceed_counts state.world
  | @givesUp id client known =>
      exact counts_nothing rfl rfl (client.giveUp_settles state.world).2.counters

/-!
## Runs
-/

/-- The numbers of accounts and those of entries that are handed out in a run: all that the counters
give out. -/
theorem heard_numbers (actions : List Action) :
    (((heard actions).filterMap Heard.accountGiven?).map (·.value) =
      numbersUpTo (run actions).memory.lastAccount) ∧
      ((heard actions).filterMap Heard.entryGiven?).map (·.value) =
        numbersUpTo (run actions).memory.lastEntry := by
  induction actions using List.reverseRecOn with
  | nil => exact ⟨rfl, rfl⟩
  | append_singleton actions action ih =>
      have next : run (actions ++ [action]) = (run actions).perform action :=
        run_append actions [action]
      have counts := (run actions).perform_counts action
      have one : ∀ {ν : Type} (pick : Heard → Option ν),
        ((run actions).hears? action).toList.filterMap pick =
          (((run actions).hears? action).bind pick).toList := by
        intro ν pick
        cases (run actions).hears? action with
        | none => rfl
        | some heard =>
            rw [Option.toList_some, Option.bind_some, List.filterMap_cons]
            cases pick heard <;> rfl
      rw [heard_append, next, List.filterMap_append, List.filterMap_append, List.map_append,
        List.map_append, ih.1, ih.2, ← counts.accounts.numbers, ← counts.entries.numbers, one, one,
        Option.toList_map, Option.toList_map]
      exact ⟨rfl, rfl⟩

end Shared

end Passbook

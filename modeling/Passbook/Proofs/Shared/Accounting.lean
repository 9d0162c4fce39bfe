import Passbook.Proofs.Shared.Mild

/-!
What a step does to balances and entries if only postings write them: it leaves all of them alone,
or it decides one posting on the committed balance of its account, and books it if it is accepted.
-/

set_option autoImplicit false

namespace Passbook

open Memory (Progress)

/-- Whether all balances and entries are as they were. There may be new accounts, which are empty.
-/
structure Memory.Keeps (memory after : Memory) : Prop where
  balances : ∀ id, after.balanceOf id = memory.balanceOf id
  entries : after.entries = memory.entries

/-- The balance of an account after a posting has been decided on it. -/
def Posting.balanceAfter (balance : Money) (posting : Posting) : Money :=
  match posting.judgement balance with
  | .ok next => next
  | .error _ => balance

variable {memory after : Memory} {posting : Posting} {receipt : Receipt}

theorem Memory.keeps_of_tables (same : after.tables = memory.tables) : memory.Keeps after :=
  ⟨Memory.balanceOf_congr (congrArg Prod.fst same), congrArg Prod.snd same⟩

theorem Memory.Keeps.entriesOf (keeps : memory.Keeps after) (id : AccountId) :
    after.entriesOf id = memory.entriesOf id :=
  Memory.entriesOf_congr keeps.entries id

namespace Posting

theorem Commits.balanceOf (commits : posting.Commits receipt memory after) (id : AccountId) :
    after.balanceOf id = if id = posting.account then receipt.balance else memory.balanceOf id := by
  have found : after.account? id = (memory.account? id).map fun account =>
      if account.id = posting.account then { account with balance := receipt.balance } else
        account := by
    rw [Memory.account?, commits.accounts, List.find?_map]
    congr 2
    funext account
    by_cases same : account.id = posting.account <;> simp [same]
  cases known : memory.account? id with
  | none =>
      have other : id ≠ posting.account := by
        intro same
        have present := commits.present
        rw [← same, known] at present
        cases present
      rw [Memory.balanceOf, found, known, if_neg other, Memory.balanceOf, known]
      rfl
  | some account =>
      have mine : account.id = id := Memory.id_of_find? known
      rw [Memory.balanceOf, found, known, Memory.balanceOf, known, Option.map_some, Option.map_some,
        Option.getD_some, mine]
      split <;> rfl

theorem Commits.entriesOf (commits : posting.Commits receipt memory after) (id : AccountId) :
    ∃ entry, posting.Records receipt entry ∧
      after.entriesOf id = memory.entriesOf id ++ if id = posting.account then [entry] else [] := by
  obtain ⟨entry, records, entries⟩ := commits.entries
  refine ⟨entry, records, ?_⟩
  rw [Memory.entriesOf, entries, List.filter_append]
  by_cases same : id = posting.account
  · simp [Memory.entriesOf, records.account, same]
  · simp [Memory.entriesOf, records.account, same, Ne.symm same]

end Posting

namespace Shared

structure Verdict where
  posting : Posting
  result : Posting.Result

namespace Verdict

/-- What was answered, with the balance in place of the receipt. -/
def answer (verdict : Verdict) : Except PostingError Money := verdict.result.map Receipt.balance

/-- The number, direction and amount of the entry that was booked, if one was. -/
def booked? (verdict : Verdict) : Option (EntryId × EntryKind × Amount) :=
  match verdict.result with
  | .ok receipt => some (receipt.entry, verdict.posting.kind, verdict.posting.amount)
  | .error _ => none

end Verdict

def booking (entry : Entry) : EntryId × EntryKind × Amount := (entry.id, entry.kind, entry.amount)

/-- Whether a step has decided a posting on the committed balance of its account, and has booked it
there if it was accepted. -/
structure Decides (verdict : Verdict) (memory after : Memory) : Prop where
  answer : verdict.answer = verdict.posting.judgement (memory.balanceOf verdict.posting.account)
  balance : ∀ account, after.balanceOf account =
    if account = verdict.posting.account then
      verdict.posting.balanceAfter (memory.balanceOf account)
    else memory.balanceOf account
  entries : ∀ account, (after.entriesOf account).map booking = (memory.entriesOf account).map
    booking ++ if account = verdict.posting.account then verdict.booked?.toList else []

theorem decides_of_commits
    (allowed : posting.judgement (memory.balanceOf posting.account) = .ok receipt.balance)
    (commits : posting.Commits receipt memory after) :
    Decides ⟨posting, .ok receipt⟩ memory after where
  answer := allowed.symm
  balance account := by
    rw [commits.balanceOf account]
    by_cases same : account = posting.account
    · simp only [same, if_true, Posting.balanceAfter, allowed]
    · simp only [same, if_false]
  entries account := by
    obtain ⟨entry, records, entries⟩ := commits.entriesOf account
    rw [entries, List.map_append]
    by_cases same : account = posting.account
    · simp [same, Verdict.booked?, booking, records.id, records.kind, records.amount]
    · simp [same]

theorem decides_of_refusal {error : PostingError} (keeps : memory.Keeps after)
    (refused : posting.judgement (memory.balanceOf posting.account) = .error error) :
    Decides ⟨posting, .error error⟩ memory after where
  answer := refused.symm
  balance account := by
    rw [keeps.balances account]
    by_cases same : account = posting.account
    · simp only [same, if_true, Posting.balanceAfter, refused]
    · simp only [same, if_false]
  entries account := by
    rw [keeps.entriesOf account]
    by_cases same : account = posting.account <;> simp [same, Verdict.booked?]

theorem move_decides {phase : Posting.Phase UnitId Progress}
    {turn : Turn (Posting.Phase UnitId Progress) Posting.Result} (fits : phase.Fits posting memory)
    (knows : phase.Knows posting memory) (move : Posting.Move posting memory phase turn after) :
    (∃ result, turn = .ends result ∧ Posting.isDecision result = true ∧
      Decides ⟨posting, result⟩ memory after) ∨
      ((∀ result, turn = .ends result → Posting.isDecision result = false) ∧
        memory.Keeps after) := by
  rcases move.tables fits with ⟨receipt, rfl, commits⟩ | ⟨goesOn, tables⟩
  · exact .inl ⟨.ok receipt, rfl, rfl, decides_of_commits (accepted_of_move knows move) commits⟩
  · have keeps := Memory.keeps_of_tables tables
    cases turn with
    | rests next =>
        refine .inr ⟨?_, keeps⟩
        intro result same
        cases same
    | proceeds next =>
        refine .inr ⟨?_, keeps⟩
        intro result same
        cases same
    | ends result =>
        cases result with
        | ok receipt => exact absurd rfl (goesOn receipt)
        | error error =>
            cases refused : error.isRefusal with
            | true =>
                exact .inl ⟨.error error, rfl, refused,
                  decides_of_refusal keeps (refused_of_move knows move refused)⟩
            | false =>
                refine .inr ⟨fun result same => ?_, keeps⟩
                cases same
                exact refused

variable {one two : Option UnitId}

/-- A unit that is still ends without a trace in balances and entries. -/
theorem Effect.keeps_of_calm (effect : Effect memory one two after) (calm : Calm memory one) :
    memory.Keeps after := by
  cases effect with
  | idles rearmed => exact Memory.keeps_of_tables rearmed.tables
  | opens rearmed => exact Memory.keeps_of_tables rearmed.tables
  | acts acts => exact Memory.keeps_of_tables acts.tables
  | drops acts => exact Memory.keeps_of_tables acts.tables
  | @publishes unit before rearmed free =>
      have still := ((calm unit rfl).congr (congrFun rearmed.units unit)).staged
      refine ⟨fun id => ?_, ?_⟩
      · rw [Memory.balanceOf_publish_unstaged (still.balances id) still.created]
        exact Memory.balanceOf_congr rearmed.accounts id
      · rw [Memory.entries_publish, still.entries, List.append_nil, rearmed.entries]

/-- A step of a client decides a posting, or changes neither balances nor entries. -/
theorem proceed_decides (client : Client) (world : World Memory) (mild : client.Mild world.store) :
    (∃ posting phase result, client = .posting posting (.running phase) ∧
        (client.proceed world).1 = .posting posting (.ended result) ∧
          Posting.isDecision result = true ∧
        Decides ⟨posting, result⟩ world.store (client.proceed world).2.store) ∨
      ((∀ posting phase result, client = .posting posting (.running phase) →
          (client.proceed world).1 = .posting posting (.ended result) →
            Posting.isDecision result = false) ∧
        world.store.Keeps (client.proceed world).2.store) := by
  have effect := client_effect client world
  cases client with
  | posting posting course =>
      cases course with
      | running phase =>
          rcases move_decides mild.1 mild.2 (posting.step_move phase world) with
            ⟨result, ends, decision, decides⟩ | ⟨undecided, keeps⟩
          · refine .inl ⟨posting, phase, result, rfl, ?_, decision, decides⟩
            exact congrArg (fun turn => Client.posting posting (.ofTurn turn)) ends
          · refine .inr ⟨fun wanted other result same ends => undecided result ?_, keeps⟩
            have course : Course.ofTurn (posting.step Memory.store phase world).1 =
                .ended result := by
              cases same
              exact (Client.posting.inj ends).2
            generalize (posting.step Memory.store phase world).1 = turn at course
            cases turn with
            | rests next => cases course
            | proceeds next => cases course
            | ends result =>
                cases course
                rfl
      | ended result => exact .inr ⟨fun _ _ _ same _ => (by cases same), Memory.keeps_of_tables rfl⟩
      | dropped => exact .inr ⟨fun _ _ _ same _ => (by cases same), Memory.keeps_of_tables rfl⟩
  | inquiry inquiry course =>
      refine .inr ⟨fun _ _ _ same _ => (by cases same), ?_⟩
      cases course with
      | running phase => exact effect.keeps_of_calm mild.2
      | ended result => exact Memory.keeps_of_tables rfl
      | dropped => exact Memory.keeps_of_tables rfl
  | hand course =>
      refine .inr ⟨fun _ _ _ same _ => (by cases same), ?_⟩
      cases course with
      | running hand => exact effect.keeps_of_calm mild.2
      | ended result => exact Memory.keeps_of_tables rfl
      | dropped => exact Memory.keeps_of_tables rfl

theorem giveUp_keeps (client : Client) (world : World Memory) (mild : client.Mild world.store) :
    world.store.Keeps (client.giveUp world).2.store := by
  have effect := client_giveUp_effect client world
  cases client with
  | posting posting course =>
      cases course with
      | running phase => exact Memory.keeps_of_tables (Posting.tables_giveUp posting phase world)
      | ended result => exact Memory.keeps_of_tables rfl
      | dropped => exact Memory.keeps_of_tables rfl
  | inquiry inquiry course =>
      cases course with
      | running phase => exact effect.keeps_of_calm mild.2
      | ended result => exact Memory.keeps_of_tables rfl
      | dropped => exact Memory.keeps_of_tables rfl
  | hand course =>
      cases course with
      | running hand => exact effect.keeps_of_calm mild.2
      | ended result => exact Memory.keeps_of_tables rfl
      | dropped => exact Memory.keeps_of_tables rfl

end Shared

end Passbook

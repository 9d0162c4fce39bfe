import Passbook.Proofs.Calls.Reach

/-!
The trace of a posting in full. Up to its end a posting has one story to tell: the unit was opened,
then each request was issued and granted before the next, and from every point there is one way to
go wrong, which fixes the failure that the caller is told. A trace is built from the same few pieces
wherever the posting stands, and every step of the posting adds at most one of them.
-/

set_option autoImplicit false

namespace Passbook.Calls

variable {σ υ π : Type}

/-- The issue of a call, unless it has not been tried yet. -/
def issue (isTried : Bool) (call : Call υ) : List (Event υ) :=
  if isTried then [.issued call] else []

def begun (unit : υ) : List (Event υ) := [.issued .opening, .opened (.ok unit)]

def exchange (unit : υ) (request : Request) (answer : Except StoreError request.Reply)
    (given : World Unit) :
    List (Event υ) :=
  [.issued (.asking unit request), .answered unit request answer given]

def conclusion (unit : υ) (ending : Ending) (answer : Except StoreError Unit) : List (Event υ) :=
  [.issued (.finishing unit ending), .finished unit ending answer]

/-- What has been done when it is the turn of a request, and the stage that a failure would then
name. -/
inductive Ready (posting : Posting) (unit : υ) : List (Event υ) → Request → Stage → Prop
  | lock : Ready posting unit (begun unit) posting.lockRequest .idle
  | balance {done : List (Event υ)} {account : Account} {balance : Money}
      (ready : Ready posting unit done posting.lockRequest .idle) (given : World Unit)
      (posted : post account.balance posting.kind posting.amount = .ok balance) :
      Ready posting unit (done ++ exchange unit posting.lockRequest (.ok (some account)) given)
        (posting.balanceRequest balance) .validated
  | entry {done : List (Event υ)} {balance : Money}
      (ready : Ready posting unit done (posting.balanceRequest balance) .validated)
      (given : World Unit) :
      Ready posting unit (done ++ exchange unit (posting.balanceRequest balance) (.ok ()) given)
        posting.entryRequest .mutated

/-- What has been done when it is the turn of the commit. -/
inductive Recorded (posting : Posting) (unit : υ) : List (Event υ) → Prop
  | entry {done : List (Event υ)} {given : World Unit}
      (ready : Ready posting unit done posting.entryRequest .mutated) (entry : Entry)
      (goesOn : posting.context.interruption given = none) :
      Recorded posting unit (done ++ exchange unit posting.entryRequest (.ok entry) given)

/-- What has been done when a posting fails with its unit open, and the cause. -/
inductive Fails (posting : Posting) (unit : υ) : List (Event υ) → PostingError → Prop
  | interrupted {done : List (Event υ)} {request : Request} {stage : Stage}
      (ready : Ready posting unit done request stage) (isTried : Bool)
      (interruption : Interruption) :
      Fails posting unit (done ++ issue isTried (.asking unit request))
        (.ofInterruption stage interruption)
  | refused {done : List (Event υ)} {request : Request} {stage : Stage}
      (ready : Ready posting unit done request stage) (error : StoreError) (given : World Unit) :
      Fails posting unit (done ++ exchange unit request (.error error) given) (.ofStore stage error)
  | missing {done : List (Event υ)} (ready : Ready posting unit done posting.lockRequest .idle)
      (given : World Unit) :
      Fails posting unit (done ++ exchange unit posting.lockRequest (.ok none) given)
        (.notFound posting.account)
  | forbidden {done : List (Event υ)} {account : Account} {refusal : LedgerError}
      (ready : Ready posting unit done posting.lockRequest .idle) (given : World Unit)
      (posted : post account.balance posting.kind posting.amount = .error refusal) :
      Fails posting unit (done ++ exchange unit posting.lockRequest (.ok (some account)) given)
        (.ofRefusal posting.account account.balance posting.amount refusal)
  | late {done : List (Event υ)} {given : World Unit} {interruption : Interruption}
      (ready : Ready posting unit done posting.entryRequest .mutated) (entry : Entry)
      (interrupted : posting.context.interruption given = some interruption) :
      Fails posting unit (done ++ exchange unit posting.entryRequest (.ok entry) given)
        (.ofInterruption .recorded interruption)

/-- The trace of a posting, wherever it stands. -/
inductive Story (posting : Posting) : Standing υ π → List (Event υ) → Prop
  | opening (progress : Option π) :
      Story posting (.runs (.opening progress)) (issue progress.isSome .opening)
  | locking {unit : υ} {done : List (Event υ)}
      (ready : Ready posting unit done posting.lockRequest .idle) (progress : Option π) :
      Story posting (.runs (.locking unit progress))
        (done ++ issue progress.isSome (.asking unit posting.lockRequest))
  | writing {unit : υ} {balance : Money} {done : List (Event υ)}
      (ready : Ready posting unit done (posting.balanceRequest balance) .validated)
      (progress : Option π) :
      Story posting (.runs (.writing unit balance progress))
        (done ++ issue progress.isSome (.asking unit (posting.balanceRequest balance)))
  | appending {unit : υ} {done : List (Event υ)}
      (ready : Ready posting unit done posting.entryRequest .mutated) (balance : Money)
      (progress : Option π) :
      Story posting (.runs (.appending unit balance progress))
        (done ++ issue progress.isSome (.asking unit posting.entryRequest))
  | committing {unit : υ} {done : List (Event υ)} (recorded : Recorded posting unit done)
      (receipt : Receipt) (progress : Option π) :
      Story posting (.runs (.committing unit receipt progress))
        (done ++ issue progress.isSome (.finishing unit .commit))
  | undoing {unit : υ} {failed : List (Event υ)} {cause : PostingError}
      (fails : Fails posting unit failed cause) (awaited : cause.isInterruption = false)
      (progress : Option π) :
      Story posting (.runs (.undoing unit cause progress))
        (failed ++ issue progress.isSome (.finishing unit .rollback))
  | unopened (isTried : Bool) (error : PostingError) :
      Story posting (.ended (.error error)) (issue isTried .opening)
  | refusedOpening (refusal : StoreError) (error : PostingError) :
      Story posting (.ended (.error error)) [.issued .opening, .opened (.error refusal)]
  | committed {unit : υ} {done : List (Event υ)} (recorded : Recorded posting unit done)
      (answer : Except StoreError Unit) (result : Posting.Result) :
      Story posting (.ended result) (done ++ conclusion unit .commit answer)
  | undone {unit : υ} {failed : List (Event υ)} {cause : PostingError}
      (fails : Fails posting unit failed cause) (awaited : cause.isInterruption = false)
      (answer : Except StoreError Unit) :
      Story posting (.ended (.error cause)) (failed ++ conclusion unit .rollback answer)
  | dropped {unit : υ} {failed : List (Event υ)} {cause : PostingError}
      (fails : Fails posting unit failed cause) (unawaited : cause.isInterruption = true) :
      Story posting (.ended (.error cause)) (failed ++ [.dropped unit])
  | abandonedEarly (isTried : Bool) : Story posting .abandoned (issue isTried .opening)
  | abandonedAsking {unit : υ} {done : List (Event υ)} {request : Request} {stage : Stage}
      (ready : Ready posting unit done request stage) (isTried : Bool) :
      Story posting .abandoned (done ++ issue isTried (.asking unit request) ++ [.dropped unit])
  | abandonedCommitting {unit : υ} {done : List (Event υ)} (recorded : Recorded posting unit done)
      (isTried : Bool) :
      Story posting .abandoned (done ++ issue isTried (.finishing unit .commit) ++ [.dropped unit])
  | abandonedUndoing {unit : υ} {failed : List (Event υ)} {cause : PostingError}
      (fails : Fails posting unit failed cause) (isTried : Bool) :
      Story posting .abandoned
        (failed ++ issue isTried (.finishing unit .rollback) ++ [.dropped unit])

/-! ## What a call adds to the trace -/

/-- A call that has not been tried yet is not in the trace. -/
theorem append_issue_fresh (done : List (Event υ)) (call : Call υ) :
    done ++ issue (none : Option π).isSome call = done := List.append_nil done

theorem trace_noteIssue {done : List (Event υ)} {call : Call υ} {progress : Option π}
    {world : World (Traced σ υ)} (told : world.store.trace = done ++ issue progress.isSome call) :
    (Traced.noteIssue call progress world).store.trace = done ++ [.issued call] := by
  cases progress with
  | none =>
      have untold : world.store.trace = done := by simpa [issue] using told
      simp only [Traced.noteIssue, Traced.note, untold]
  | some _ => exact told

/-- A traced call has been issued once it has been tried, and its answer comes right after. -/
theorem attempt_told {α : Type} {done : List (Event υ)} {call : Call υ} {progress : Option π}
    {world : World (Traced σ υ)} (fresh : π) (tell : α → World Unit → Event υ)
    (tryCall : π → World σ → Poll π α × World σ)
    (told : world.store.trace = done ++ issue progress.isSome call) :
    (∃ next after, Traced.attempt call fresh tell tryCall progress world =
      (.waiting (some next), after) ∧
      after.store.trace = done ++ [.issued call]) ∨
    (∃ answer after, Traced.attempt call fresh tell tryCall progress world =
      (.ready answer, after) ∧
      after.store.trace = done ++ [.issued call, tell answer (moment after)]) := by
  have issued := trace_noteIssue told
  simp only [Traced.attempt]
  rcases tryCall (progress.getD fresh) (Traced.inside (Traced.noteIssue call progress world)) with
    ⟨next | answer, after⟩
  · exact .inl ⟨next, _, rfl, issued⟩
  · refine .inr ⟨answer, _, rfl, ?_⟩
    simp only [Traced.note, Traced.outside, issued, List.append_assoc]
    rfl

/-- What a request that has been tried can have come to. -/
def Asked (posting : Posting) (unit : υ) (done : List (Event υ)) (request : Request) :
    Poll (Option π) (Except PostingError request.Reply) × World (Traced σ υ) → Prop
  | (.waiting next, after) => after.store.trace = done ++ issue next.isSome (.asking unit request)
  | (.ready (.error cause), after) => Fails posting unit after.store.trace cause
  | (.ready (.ok reply), after) =>
      after.store.trace = done ++ exchange unit request (.ok reply) (moment after)

/-- A request either goes on waiting, fails the posting, or is granted at this moment. -/
theorem guardedAsk_told {posting : Posting} {unit : υ} {done : List (Event υ)} {request : Request}
    {stage : Stage} {progress : Option π} {world : World (Traced σ υ)} (behind : LedgerStore σ υ π)
    (ready : Ready posting unit done request stage)
    (told : world.store.trace = done ++ issue progress.isSome (.asking unit request)) :
    Asked posting unit done request
      (posting.guardedAsk (Traced.store behind) stage unit request progress world) := by
  unfold Posting.guardedAsk Posting.guarded
  cases posting.context.interruption world with
  | some interruption =>
      have fails := Fails.interrupted ready progress.isSome interruption
      rw [← told] at fails
      exact fails
  | none =>
      have tried :=
        attempt_told behind.fresh (.answered unit request) (behind.tryAsk unit request) told
      rcases tried with ⟨next, after, answered, traced⟩ | ⟨answer, after, answered, traced⟩
      · have same : (Traced.store behind).tryAsk unit request progress world =
            (.waiting (some next), after) := answered
        rw [same]
        exact traced
      · have same : (Traced.store behind).tryAsk unit request progress world =
            (.ready answer, after) := answered
        rw [same]
        cases answer with
        | error error =>
            have fails := Fails.refused ready error (moment after)
            simp only [exchange, ← traced] at fails
            exact fails
        | ok reply => exact traced

def Opened (posting : Posting) : Poll (Option π) (Except PostingError υ) × World (Traced σ υ) → Prop
  | (.waiting next, after) => after.store.trace = issue next.isSome .opening
  | (.ready (.error cause), after) =>
      Story (π := π) posting (.ended (.error cause)) after.store.trace
  | (.ready (.ok unit), after) => after.store.trace = begun unit

/-- An opening either goes on waiting, fails the posting before there is a unit, or opens one. -/
theorem guardedOpen_told {progress : Option π} {world : World (Traced σ υ)} (posting : Posting)
    (behind : LedgerStore σ υ π) (told : world.store.trace = issue progress.isSome .opening) :
    Opened posting (posting.guarded .idle id
      ((Traced.store behind).tryOpenBy posting.context.deadline progress) world) := by
  unfold Posting.guarded
  cases posting.context.interruption world with
  | some interruption =>
      have story :
          Story posting (.ended (.error (.ofInterruption .idle interruption)) : Standing υ π)
            (issue progress.isSome .opening) := .unopened progress.isSome _
      rw [← told] at story
      exact story
  | none =>
      have untold : world.store.trace = [] ++ issue progress.isSome .opening := told
      have tried := attempt_told behind.fresh (fun answer _ => .opened answer) behind.tryOpen untold
      unfold LedgerStore.tryOpenBy
      rcases tried with ⟨next, after, answered, traced⟩ | ⟨answer, after, answered, traced⟩
      · have same : (Traced.store behind).tryOpen progress world = (.waiting (some next), after) :=
          answered
        rw [same]
        by_cases passed : posting.context.deadline.hasPassed after.now = true
        · have story : Story posting (.ended (.error (.ofStore .idle
              ⟨.lockTimeout, "deadline passed while opening a unit of work"⟩)) : Standing υ π)
            (issue true .opening) := .unopened true _
          have same : after.store.trace = issue true .opening := traced
          rw [← same] at story
          simp only [if_pos passed]
          exact story
        · simp only [if_neg passed]
          exact traced
      · have same : (Traced.store behind).tryOpen progress world = (.ready answer, after) :=
          answered
        rw [same]
        cases answer with
        | error refusal =>
            have story : Story posting (.ended (.error (.ofStore .idle refusal)) : Standing υ π)
              [.issued .opening, .opened (.error refusal)] := .refusedOpening refusal _
            have same : after.store.trace = [.issued .opening, .opened (.error refusal)] := traced
            rw [← same] at story
            exact story
        | ok unit => exact traced

/-! ## Steps -/

theorem abort_story {posting : Posting} {unit : υ} {cause : PostingError}
    {world : World (Traced σ υ)} (behind : LedgerStore σ υ π)
    (fails : Fails posting unit world.store.trace cause) :
    Story posting (.ofTurn (Posting.abort (Traced.store behind) unit cause world).1)
      (Posting.abort (Traced.store behind) unit cause world).2.store.trace := by
  unfold Posting.abort
  cases interrupted : cause.isInterruption with
  | true => exact .dropped fails interrupted
  | false =>
      have story := Story.undoing fails interrupted (none : Option π)
      rw [append_issue_fresh] at story
      exact story

theorem judge_story {posting : Posting} {unit : υ} {account : Account} {done : List (Event υ)}
    {world : World (Traced σ υ)} (behind : LedgerStore σ υ π)
    (ready : Ready posting unit done posting.lockRequest .idle)
    (told : world.store.trace =
      done ++ exchange unit posting.lockRequest (.ok (some account)) (moment world)) :
    Story posting (.ofTurn (posting.judge (Traced.store behind) unit account world).1)
      (posting.judge (Traced.store behind) unit account world).2.store.trace := by
  unfold Posting.judge
  cases posted : post account.balance posting.kind posting.amount with
  | ok balance =>
      have next := ready.balance (moment world) posted
      rw [← told] at next
      have story := Story.writing next (none : Option π)
      rw [append_issue_fresh] at story
      exact story
  | error refusal =>
      apply abort_story
      have fails := Fails.forbidden ready (moment world) posted
      rw [← told] at fails
      exact fails

theorem decideCommit_story {posting : Posting} {unit : υ} {entry : Entry} {receipt : Receipt}
    {done : List (Event υ)} {world : World (Traced σ υ)} (behind : LedgerStore σ υ π)
    (ready : Ready posting unit done posting.entryRequest .mutated)
    (told : world.store.trace =
      done ++ exchange unit posting.entryRequest (.ok entry) (moment world)) :
    Story posting (.ofTurn (posting.decideCommit (Traced.store behind) unit receipt world).1)
      (posting.decideCommit (Traced.store behind) unit receipt world).2.store.trace := by
  have looked := interruption_moment posting.context world
  unfold Posting.decideCommit
  cases judged : posting.context.interruption world with
  | some interruption =>
      apply abort_story
      have fails := Fails.late ready entry (looked.trans judged)
      rw [← told] at fails
      exact fails
  | none =>
      have recorded := Recorded.entry ready entry (looked.trans judged)
      rw [← told] at recorded
      have story := Story.committing recorded receipt (none : Option π)
      rw [append_issue_fresh] at story
      exact story

theorem opening_story {posting : Posting} {progress : Option π} {world : World (Traced σ υ)}
    (behind : LedgerStore σ υ π) (told : world.store.trace = issue progress.isSome .opening) :
    Story posting (.ofTurn (posting.step (Traced.store behind) (.opening progress) world).1)
      (posting.step (Traced.store behind) (.opening progress) world).2.store.trace := by
  have opened := guardedOpen_told posting behind told
  simp only [Posting.step]
  rcases guarded : posting.guarded .idle id
      ((Traced.store behind).tryOpenBy posting.context.deadline progress) world with
    ⟨next | cause | unit, after⟩
  · rw [guarded] at opened
    have same : after.store.trace = issue next.isSome .opening := opened
    simp only [Standing.ofTurn, same]
    exact .opening next
  · rw [guarded] at opened
    exact opened
  · rw [guarded] at opened
    have same : after.store.trace = begun unit := opened
    have ready : Ready posting unit (begun unit) posting.lockRequest .idle := .lock
    have story := Story.locking ready (none : Option π)
    rw [append_issue_fresh, ← same] at story
    exact story

theorem locking_story {posting : Posting} {unit : υ} {done : List (Event υ)} {progress : Option π}
    {world : World (Traced σ υ)} (behind : LedgerStore σ υ π)
    (ready : Ready posting unit done posting.lockRequest .idle)
    (told : world.store.trace = done ++ issue progress.isSome (.asking unit posting.lockRequest)) :
    Story posting (.ofTurn (posting.step (Traced.store behind) (.locking unit progress) world).1)
      (posting.step (Traced.store behind) (.locking unit progress) world).2.store.trace := by
  have asked := guardedAsk_told behind ready told
  simp only [Posting.step]
  rcases guarded :
    posting.guardedAsk (Traced.store behind) .idle unit posting.lockRequest progress world with
    ⟨next | cause | _ | account, after⟩
  · rw [guarded] at asked
    have same : after.store.trace = done ++ issue next.isSome _ := asked
    simp only [Standing.ofTurn, same]
    exact .locking ready next
  · rw [guarded] at asked
    exact abort_story behind asked
  · rw [guarded] at asked
    have fails := Fails.missing ready (moment after)
    have same : after.store.trace = done ++ exchange unit posting.lockRequest (.ok none)
        (moment after) := asked
    rw [← same] at fails
    exact abort_story behind fails
  · rw [guarded] at asked
    exact judge_story behind ready asked

theorem writing_story {posting : Posting} {unit : υ} {balance : Money} {done : List (Event υ)}
    {progress : Option π} {world : World (Traced σ υ)} (behind : LedgerStore σ υ π)
    (ready : Ready posting unit done (posting.balanceRequest balance) .validated)
    (told : world.store.trace =
      done ++ issue progress.isSome (.asking unit (posting.balanceRequest balance))) :
    Story posting
      (.ofTurn (posting.step (Traced.store behind) (.writing unit balance progress) world).1)
      (posting.step (Traced.store behind) (.writing unit balance progress)
        world).2.store.trace := by
  have asked := guardedAsk_told behind ready told
  simp only [Posting.step]
  rcases guarded : posting.guardedAsk (Traced.store behind) .validated unit
    (posting.balanceRequest balance) progress world with ⟨next | cause | written, after⟩
  · rw [guarded] at asked
    have same : after.store.trace = done ++ issue next.isSome _ := asked
    simp only [Standing.ofTurn, same]
    exact .writing ready next
  · rw [guarded] at asked
    exact abort_story behind asked
  · rw [guarded] at asked
    have same : after.store.trace =
      done ++ exchange unit (posting.balanceRequest balance) (.ok ()) (moment after) := asked
    have story := Story.appending (ready.entry (moment after)) balance (none : Option π)
    rw [append_issue_fresh, ← same] at story
    exact story

theorem appending_story {posting : Posting} {unit : υ} {done : List (Event υ)} {progress : Option π}
    {world : World (Traced σ υ)} (behind : LedgerStore σ υ π)
    (ready : Ready posting unit done posting.entryRequest .mutated) (balance : Money)
    (told : world.store.trace = done ++ issue progress.isSome (.asking unit posting.entryRequest)) :
    Story posting
      (.ofTurn (posting.step (Traced.store behind) (.appending unit balance progress) world).1)
      (posting.step (Traced.store behind) (.appending unit balance progress)
        world).2.store.trace := by
  have asked := guardedAsk_told behind ready told
  simp only [Posting.step]
  rcases guarded : posting.guardedAsk (Traced.store behind) .mutated unit
    posting.entryRequest progress world with
    ⟨next | cause | entry, after⟩
  · rw [guarded] at asked
    have same : after.store.trace = done ++ issue next.isSome _ := asked
    simp only [Standing.ofTurn, same]
    exact .appending ready balance next
  · rw [guarded] at asked
    exact abort_story behind asked
  · rw [guarded] at asked
    exact decideCommit_story behind ready asked

/-- The end of a unit, once it has been tried, is under way or has been answered. -/
theorem tryFinish_told {unit : υ} {ending : Ending} {done : List (Event υ)} {progress : Option π}
    {world : World (Traced σ υ)} (behind : LedgerStore σ υ π)
    (told : world.store.trace = done ++ issue progress.isSome (.finishing unit ending)) :
    (∃ next after, (Traced.store behind).tryFinish unit ending progress world =
      (.waiting (some next), after) ∧
      after.store.trace = done ++ issue true (.finishing unit ending)) ∨
    (∃ answer after, (Traced.store behind).tryFinish unit ending progress world =
      (.ready answer, after) ∧
      after.store.trace = done ++ conclusion unit ending answer) :=
  attempt_told behind.fresh (fun answer _ => .finished unit ending answer)
    (behind.tryFinish unit ending) told

theorem committing_story {posting : Posting} {unit : υ} {done : List (Event υ)} {receipt : Receipt}
    {progress : Option π} {world : World (Traced σ υ)} (behind : LedgerStore σ υ π)
    (recorded : Recorded posting unit done)
    (told : world.store.trace = done ++ issue progress.isSome (.finishing unit .commit)) :
    Story posting
      (.ofTurn (posting.step (Traced.store behind) (.committing unit receipt progress) world).1)
      (posting.step (Traced.store behind) (.committing unit receipt progress)
        world).2.store.trace := by
  simp only [Posting.step]
  rcases tryFinish_told behind told with ⟨next, after, same, traced⟩ | ⟨answer, after, same, traced⟩
  · simp only [same, Standing.ofTurn, traced]
    exact .committing recorded receipt (some next)
  · have story := fun result => Story.committed (π := π) recorded answer result
    simp only [← traced] at story
    rw [same]
    cases answer with
    | error error => exact story _
    | ok finished => exact story _

theorem undoing_story {posting : Posting} {unit : υ} {failed : List (Event υ)}
    {cause : PostingError} {progress : Option π} {world : World (Traced σ υ)}
    (behind : LedgerStore σ υ π) (fails : Fails posting unit failed cause)
    (awaited : cause.isInterruption = false)
    (told : world.store.trace = failed ++ issue progress.isSome (.finishing unit .rollback)) :
    Story posting
      (.ofTurn (posting.step (Traced.store behind) (.undoing unit cause progress) world).1)
      (posting.step (Traced.store behind) (.undoing unit cause progress) world).2.store.trace := by
  simp only [Posting.step]
  rcases tryFinish_told behind told with ⟨next, after, same, traced⟩ | ⟨answer, after, same, traced⟩
  · simp only [same, Standing.ofTurn, traced]
    exact .undoing fails awaited (some next)
  · have story := Story.undone (π := π) fails awaited answer
    simp only [← traced] at story
    rw [same]
    cases answer with
    | error error => exact story
    | ok finished => exact story

/-- A step of a posting goes on with its story. -/
theorem step_story {posting : Posting} {phase : Posting.Phase υ (Option π)}
    {world : World (Traced σ υ)} (behind : LedgerStore σ υ π)
    (story : Story posting (.runs phase) world.store.trace) :
    Story posting (.ofTurn (posting.step (Traced.store behind) phase world).1)
      (posting.step (Traced.store behind) phase world).2.store.trace := by
  generalize told : world.store.trace = trace at story
  cases story with
  | opening progress => exact opening_story behind told
  | locking ready progress => exact locking_story behind ready told
  | writing ready progress => exact writing_story behind ready told
  | appending ready balance progress => exact appending_story behind ready balance told
  | committing recorded receipt progress => exact committing_story behind recorded told
  | undoing fails awaited progress => exact undoing_story behind fails awaited told

/-- A unit that is given up is dropped, and nothing else is called. -/
theorem giveUp_story {posting : Posting} {phase : Posting.Phase υ (Option π)}
    {world : World (Traced σ υ)} (behind : LedgerStore σ υ π)
    (story : Story posting (.runs phase) world.store.trace) :
    Story posting (.abandoned : Standing υ π)
      (posting.giveUp (Traced.store behind) phase world).store.trace := by
  generalize told : world.store.trace = trace at story
  cases story with
  | opening progress =>
      simp only [Posting.giveUp, told]
      exact .abandonedEarly progress.isSome
  | locking ready progress =>
      simp only [Posting.giveUp, Traced.store, Traced.note, Traced.outside, told]
      exact .abandonedAsking ready progress.isSome
  | writing ready progress =>
      simp only [Posting.giveUp, Traced.store, Traced.note, Traced.outside, told]
      exact .abandonedAsking ready progress.isSome
  | appending ready balance progress =>
      simp only [Posting.giveUp, Traced.store, Traced.note, Traced.outside, told]
      exact .abandonedAsking ready progress.isSome
  | committing recorded receipt progress =>
      simp only [Posting.giveUp, Traced.store, Traced.note, Traced.outside, told]
      exact .abandonedCommitting recorded progress.isSome
  | undoing fails awaited progress =>
      simp only [Posting.giveUp, Traced.store, Traced.note, Traced.outside, told]
      exact .abandonedUndoing fails progress.isSome

theorem story_run {behind : LedgerStore σ υ π} {posting : Posting} {standing : Standing υ π}
    {world : World (Traced σ υ)} (reached : Reaches behind posting standing world) :
    Story posting standing world.store.trace :=
  reached.keeps (Story posting) (.opening none) (fun _ _ => step_story behind)
    (fun _ _ => giveUp_story behind)

end Passbook.Calls

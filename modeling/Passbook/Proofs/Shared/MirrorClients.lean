import Passbook.Proofs.Shared.MirrorQueries

/-!
Clients of two shared ledgers that agree about an account. A call on the account and a call for a
new one are in both; of a call on another account, only the whole ledger sees steps.
-/

set_option autoImplicit false

namespace Passbook

open Memory (Progress Alongside Agree)

/-- Whether two statements are the same, but for the identifiers of entries. -/
structure Statement.Same (renumbering : Renumbering) (one other : Statement) : Prop where
  account : one.account = other.account
  entries : List.Forall₂ renumbering.SameEntry one.entries other.entries

/-!
## Later pairings
-/

section Later

variable {pairing later : Pairing} {row : AccountId} {drawn : Nat}

theorem Posting.Phase.Level.grows {one other : Posting.Phase UnitId Progress}
    (level : one.Level pairing other) (grows : pairing.Grows later drawn) :
    one.Level later other := by
  cases level with
  | opening progress => exact .opening progress
  | locking paired progress => exact .locking (grows.units paired) progress
  | writing paired balance progress => exact .writing (grows.units paired) balance progress
  | appending paired balance progress => exact .appending (grows.units paired) balance progress
  | committing paired same progress =>
      exact .committing (grows.units paired) (same.grows grows) progress
  | undoing paired cause progress => exact .undoing (grows.units paired) cause progress

theorem Query.Phase.Level.grows {α : Type} {same : Renumbering → α → α → Prop}
    {one other : Query.Phase UnitId Progress α} (widens : Query.Widens same)
    (level : one.Level row same pairing other) (grows : pairing.Grows later drawn) :
    one.Level row same later other := by
  cases level with
  | opening progress => exact .opening progress
  | asking paired scripts progress =>
      cases scripts with
      | ask concerns goesOn =>
          refine .asking (grows.units paired) (.ask concerns fun last wider => ?_) progress
          exact goesOn last fun renamed => wider (grows.entries renamed)
  | committing paired related progress =>
      exact .committing (grows.units paired) (widens grows.entries related) progress
  | undoing paired cause progress => exact .undoing (grows.units paired) cause progress

theorem SameResult.imp {ε α : Type} {same more : α → α → Prop} {one other : Except ε α}
    (related : SameResult same one other)
    (implies : ∀ {one other}, same one other → more one other) : SameResult more one other := by
  cases related with
  | fails error => exact .fails error
  | succeeds related => exact .succeeds (implies related)

theorem Shared.Course.Level.imp {κ ρ : Type} {calls moreCalls : κ → κ → Prop}
    {results moreResults : ρ → ρ → Prop} {one other : Course κ ρ}
    (level : one.Level calls results other)
    (call : ∀ {one other}, calls one other → moreCalls one other)
    (result : ∀ {one other}, results one other → moreResults one other) :
    one.Level moreCalls moreResults other := by
  cases level with
  | running related => exact .running (call related)
  | ended related => exact .ended (result related)
  | dropped => exact .dropped

theorem Renumbering.SameEntry.wider {renumbering wider : Renumbering} {one other : Entry}
    (same : renumbering.SameEntry one other)
    (renames : ∀ {one other}, renumbering.renames one other → wider.renames one other) :
    wider.SameEntry one other :=
  ⟨renames same.ids, same.rest⟩

end Later

namespace Shared

/-- Whether two answers to an inquiry are the same, but for the identifiers of entries. -/
def Inquiry.SameAnswer : (asked : Inquiry) → Renumbering → asked.Answer → asked.Answer → Prop
  | .create _ _, _ => Eq
  | .byId _ _, _ => Eq
  | .byName _ _, _ => Eq
  | .history _ _, renumbering => List.Forall₂ renumbering.SameEntry
  | .statement _ _, renumbering => Option.Rel (Statement.Same renumbering)

/-- Whether a call is a posting or a statement on another account. -/
def Client.isElsewhere (row : AccountId) : Client → Bool
  | .posting wanted _ => wanted.account ≠ row
  | .inquiry (.statement id _) _ => id ≠ row
  | _ => false

/-- Whether an inquiry creates an account or is a statement of a given one. -/
def Inquiry.Concerns (row : AccountId) : Inquiry → Prop
  | .create _ _ => True
  | .statement id _ => id = row
  | _ => False

/-- A call before its first step. -/
def Client.atStart : Client → Client
  | .posting wanted _ => .posting wanted (.running (Posting.start Memory.store))
  | .inquiry asked _ => .inquiry asked (.running (Query.start Memory.store))
  | .hand course => .hand course

/-- Whether the unit of a call, if it has one, corresponds to none. -/
def Client.Lone (pairing : Pairing) (memory : Memory) (client : Client) : Prop :=
  ∀ unit, client.unit? = some unit → unit.number ≤ memory.lastUnit ∧
    ∀ twin, ¬ pairing.units unit twin

/-- Whether two calls are the same call on an account or for a new one, and have come equally far.
-/
inductive Client.Level (pairing : Pairing) (row : AccountId) : Client → Client → Prop
  | posts {wanted : Posting} {one other : Course (Posting.Phase UnitId Progress) Posting.Result}
      (mine : wanted.account = row)
      (level : one.Level (Posting.Phase.Level pairing) (SameResult (Receipt.Same pairing.entries))
        other) :
      Level pairing row (.posting wanted one) (.posting wanted other)
  | inquires {asked : Inquiry}
      {one other : Course (Query.Phase UnitId Progress asked.Answer) (Query.Result asked.Answer)}
      (concerns : asked.Concerns row)
      (level : one.Level (Query.Phase.Level row asked.SameAnswer pairing)
        (SameResult (asked.SameAnswer pairing.entries)) other) :
      Level pairing row (.inquiry asked one) (.inquiry asked other)

/-- Whether a call is on another account, and its unit corresponds to none. -/
inductive Client.Elsewhere (pairing : Pairing) (row : AccountId) (memory : Memory) : Client → Prop
  | posts {wanted : Posting} {course : Course (Posting.Phase UnitId Progress) Posting.Result}
      (different : wanted.account ≠ row)
      (lone : (Client.posting wanted course).Lone pairing memory) :
      Elsewhere pairing row memory (.posting wanted course)
  | states {id : AccountId} {deadline : Deadline}
      {course : Course (Query.Phase UnitId Progress (Option Statement))
        (Query.Result (Option Statement))}
      (different : id ≠ row) (avoids : course.WhileRunning (Query.Phase.Avoids row))
      (lone : (Client.inquiry (.statement id deadline) course).Lone pairing memory) :
      Elsewhere pairing row memory (.inquiry (.statement id deadline) course)

/-- How a call of the whole run and that of the restricted run go together. A call on another
account does not begin in the latter. -/
def Client.Mirrors (pairing : Pairing) (row : AccountId) (memory : Memory)
    (client twin : Client) : Prop :=
  client.Level pairing row twin ∨ (client.Elsewhere pairing row memory ∧ twin = client.atStart)

variable {pairing later : Pairing} {row : AccountId} {memory after : Memory} {client twin : Client}
  {whole part : World Memory} {drawn : Nat}

theorem Inquiry.widens_sameAnswer (asked : Inquiry) : Query.Widens asked.SameAnswer := by
  intro renumbering later wider one other same
  cases asked with
  | create registration deadline => exact same
  | byId id deadline => exact same
  | byName username deadline => exact same
  | history id deadline => exact same.imp fun _ _ same => same.wider wider
  | statement id deadline =>
      cases same with
      | none => exact .none
      | some same => exact .some ⟨same.account, same.entries.imp fun _ _ same => same.wider wider⟩

theorem Inquiry.Concerns.script {asked : Inquiry} (concerns : asked.Concerns row)
    (renumbering : Renumbering) :
    Script.Level row asked.SameAnswer renumbering asked.query.script asked.query.script := by
  cases asked with
  | create registration deadline =>
      refine .ask trivial fun later wider reply twin same => ?_
      exact .done same
  | statement id deadline =>
      cases concerns
      refine .ask rfl fun later wider reply twin same => ?_
      cases same
      cases reply with
      | none => exact .done .none
      | some account =>
          refine .ask rfl fun last more entries others same => ?_
          exact .done (.some ⟨rfl, same⟩)
  | byId id deadline => cases concerns
  | byName username deadline => cases concerns
  | history id deadline => cases concerns

theorem Client.Level.grows (level : client.Level pairing row twin)
    (grows : pairing.Grows later drawn) : client.Level later row twin := by
  cases level with
  | posts mine level =>
      exact .posts mine (level.imp (·.grows grows) fun related => related.imp (·.grows grows))
  | @inquires asked _ _ concerns level =>
      refine .inquires concerns
        (level.imp (fun related => related.grows asked.widens_sameAnswer grows) fun related => ?_)
      exact related.imp (asked.widens_sameAnswer grows.entries)

/-!
## Calls on the account
-/

theorem Client.Level.proceed (level : client.Level pairing row twin)
    (along : Alongside pairing row whole part) :
    Agree pairing row whole.store.lastUnit (fun later one other => one.Level later row other)
      (client.proceed whole) (twin.proceed part) := by
  cases level with
  | @posts wanted _ _ mine level =>
      cases level with
      | running related =>
          subst mine
          obtain ⟨later, grows, level, left⟩ := wanted.step_agree along related
          exact ⟨later, grows, .posts rfl level, left⟩
      | ended related => exact along.agree _ (.posts mine (.ended related))
      | dropped => exact along.agree _ (.posts mine .dropped)
  | @inquires asked _ _ concerns level =>
      cases level with
      | running related =>
          obtain ⟨later, grows, level, left⟩ :=
            Query.step_agree asked.widens_sameAnswer concerns.script along related
          exact ⟨later, grows, .inquires concerns level, left⟩
      | ended related => exact along.agree _ (.inquires concerns (.ended related))
      | dropped => exact along.agree _ (.inquires concerns .dropped)

theorem Client.Level.giveUp (level : client.Level pairing row twin)
    (along : Alongside pairing row whole part) :
    (client.giveUp whole).1.Level pairing row (twin.giveUp part).1 ∧
      Alongside pairing row (client.giveUp whole).2 (twin.giveUp part).2 := by
  cases level with
  | posts mine level =>
      cases level with
      | running related =>
          subst mine
          exact ⟨.posts rfl .dropped, Posting.giveUp_alongside along related⟩
      | ended related => exact ⟨.posts mine (.ended related), along⟩
      | dropped => exact ⟨.posts mine .dropped, along⟩
  | inquires concerns level =>
      cases level with
      | running related => exact ⟨.inquires concerns .dropped, Query.giveUp_alongside along related⟩
      | ended related => exact ⟨.inquires concerns (.ended related), along⟩
      | dropped => exact ⟨.inquires concerns .dropped, along⟩

/-!
## Calls on other accounts
-/

/-- A unit that is opened elsewhere corresponds to none, because it is newer than those that do. -/
theorem Client.Lone.effect {next : Client} {mirror : Memory} (lone : client.Lone pairing memory)
    (mirrors : Memory.Mirrors pairing row memory mirror)
    (effect : Effect memory client.unit? next.unit? after) :
    next.Lone pairing after := by
  intro unit has
  generalize mine : client.unit? = before, next.unit? = now at effect has
  cases effect with
  | opens rearmed =>
      cases has
      refine ⟨Nat.le_refl _, fun twin paired => ?_⟩
      have drawn := (mirrors.drawnUnits paired).1
      rw [← rearmed.lastUnit] at drawn
      exact Nat.not_succ_le_self _ drawn
  | acts acts =>
      cases has
      rw [acts.lastUnit]
      exact lone unit mine
  | idles rearmed => cases has
  | drops acts => cases has
  | publishes rearmed free => cases has

theorem Client.Lone.grows (lone : client.Lone pairing memory)
    (grows : pairing.Grows later memory.lastUnit) (counted : memory.lastUnit ≤ after.lastUnit) :
    client.Lone later after := by
  intro unit has
  obtain ⟨drawn, alone⟩ := lone unit has
  refine ⟨Nat.le_trans drawn counted, fun twin paired => ?_⟩
  exact (grows.fresh paired).elim (alone twin) fun new => Nat.not_lt.mpr drawn new

theorem Client.Elsewhere.lone (elsewhere : client.Elsewhere pairing row memory) :
    client.Lone pairing memory := by
  cases elsewhere with
  | posts different lone => exact lone
  | states different avoids lone => exact lone

theorem Client.Elsewhere.grows (elsewhere : client.Elsewhere pairing row memory)
    (grows : pairing.Grows later memory.lastUnit) (counted : memory.lastUnit ≤ after.lastUnit) :
    client.Elsewhere later row after := by
  cases elsewhere with
  | posts different lone => exact .posts different (lone.grows grows counted)
  | states different avoids lone => exact .states different avoids (lone.grows grows counted)

theorem avoids_statement {id : AccountId} (different : id ≠ row) (deadline : Deadline) :
    (Query.statement id deadline).script.Avoids row := by
  refine ⟨different, fun reply => ?_⟩
  cases reply with
  | none => trivial
  | some account => exact ⟨trivial, fun _ => trivial⟩

theorem Client.Elsewhere.proceed (elsewhere : client.Elsewhere pairing row whole.store)
    (along : Alongside pairing row whole part) :
    (client.proceed whole).1.Elsewhere pairing row (client.proceed whole).2.store ∧
      Alongside pairing row (client.proceed whole).2 part := by
  have lone := elsewhere.lone.effect along.store (client_effect client whole)
  cases elsewhere with
  | @posts wanted course different alone =>
      cases course with
      | running phase =>
          exact ⟨.posts different lone,
            wanted.step_elsewhere along different fun unit has => (alone unit has).2⟩
      | ended result => exact ⟨.posts different alone, along⟩
      | dropped => exact ⟨.posts different alone, along⟩
  | @states id deadline course different avoids alone =>
      cases course with
      | running phase =>
          have stepped :=
            Query.step_elsewhere (avoids_statement different deadline) along avoids
              fun unit has => (alone unit has).2
          exact ⟨.states different stepped.2 lone, stepped.1⟩
      | ended result => exact ⟨.states different trivial alone, along⟩
      | dropped => exact ⟨.states different trivial alone, along⟩

theorem Client.Elsewhere.giveUp (elsewhere : client.Elsewhere pairing row whole.store)
    (along : Alongside pairing row whole part) :
    (client.giveUp whole).1.Elsewhere pairing row (client.giveUp whole).2.store ∧
      Alongside pairing row (client.giveUp whole).2 part := by
  have lone := elsewhere.lone.effect along.store (client_giveUp_effect client whole)
  cases elsewhere with
  | @posts wanted course different alone =>
      cases course with
      | running phase =>
          exact ⟨.posts different lone,
            wanted.giveUp_elsewhere along different fun unit has => (alone unit has).2⟩
      | ended result => exact ⟨.posts different alone, along⟩
      | dropped => exact ⟨.posts different alone, along⟩
  | @states id deadline course different avoids alone =>
      cases course with
      | running phase =>
          exact ⟨.states different trivial lone,
            Query.giveUp_elsewhere along avoids fun unit has => (alone unit has).2⟩
      | ended result => exact ⟨.states different trivial alone, along⟩
      | dropped => exact ⟨.states different trivial alone, along⟩

end Shared

end Passbook

import Mathlib.Order.Basic
import Passbook.Config.Service
import Passbook.Database.Store
import Passbook.Http.Exchange

/-!
The bound on waiting for a row that the database is sent. It is a whole number of milliseconds, at
least one, and no more than what is left of the request; only a call without a deadline lifts the
bound. Whether the database accepts the number depends on how long requests may take.
-/

set_option autoImplicit false

namespace Passbook.Database

/-- The longest bound on waiting that the database accepts, in milliseconds. -/
def longestWait : Nat := 2147483647

/-- What the database has been sent to bound waiting, the newest first. -/
def Server.waits (server : Server) : List (List Parameter) :=
  server.received.filterMap fun statement => if statement.kind = .limitWait then
    statement.parameters? else none

/-- Whether a bound in milliseconds is usable when some time is left, counted by the clock. -/
structure Bounds (resolution left bound : Nat) : Prop where
  positive : 1 ≤ bound
  inTime : bound * resolution ≤ left ∨ bound = 1 ∧ left < resolution

variable {resolution : Nat} {id : AccountId} {deadline : Deadline} {world : World Pool}
  {pool : Pool} {statement : Statement}

/-!
## Statements that are sent
-/

theorem received_send (pool : Pool) (statement : Statement) :
    (pool.send statement).2.server.received =
      if pool.line = .used false then statement :: pool.server.received else
        pool.server.received := by
  unfold Pool.send
  split
  · unfold Pool.transmit Server.receive
    cases (pool.server.replies statement.kind).getD (.affected 0) <;> rfl
  · rfl

theorem waits_send_other (other : statement.kind ≠ .limitWait) :
    (pool.send statement).2.server.waits = pool.server.waits := by
  rw [Server.waits, received_send]
  split
  · rw [List.filterMap_cons, if_neg other]
    rfl
  · rfl

theorem waits_send_limitWait (connected : pool.line = .used false) (timeout : Option Nat) :
    (pool.send (.limitWait timeout)).2.server.waits = [.text (waitText timeout)] ::
      pool.server.waits := by
  rw [Server.waits, received_send, if_pos connected]
  rfl

theorem query_store {α : Type} (operation : Operation) (statement : Statement)
    (read : Answer → Except StoreError α) (world : World Pool) :
    (query operation statement read world).2.store = (world.store.send statement).2 := by
  unfold query
  split <;> next sent => rw [sent]

/-- Once the bound is on its way, locking a row sends no other one. -/
private theorem waits_lock_sent (early : deadline.hasPassed world.now = false) :
    (lock resolution id deadline world).2.store.server.waits =
      (world.store.send
        (.limitWait (millisecondsLeft? resolution deadline world.now))).2.server.waits := by
  have bounded :=
    query_store .limitWait (.limitWait (millisecondsLeft? resolution deadline world.now))
      Except.ok world
  simp only [lock, early, Bool.false_eq_true, if_false]
  split
  · next sent =>
      rw [sent] at bounded
      rw [query_store, waits_send_other fun same => by cases same]
      exact congrArg (·.server.waits) bounded
  · next sent =>
      rw [sent] at bounded
      exact congrArg (·.server.waits) bounded

/-- A call that comes in time bounds its wait by the milliseconds that are left. -/
theorem waits_lock (connected : world.store.line = .used false)
    (early : deadline.hasPassed world.now = false) :
    (lock resolution id deadline world).2.store.server.waits =
      [.text (waitText (millisecondsLeft? resolution deadline world.now))] ::
        world.store.server.waits := by
  rw [waits_lock_sent early, waits_send_limitWait connected]

/-- Nothing is sent after the deadline, or on a connection that is broken. -/
theorem waits_lock_unsent
    (idle : deadline.hasPassed world.now = true ∨ world.store.line ≠ .used false) :
    (lock resolution id deadline world).2.store.server.waits = world.store.server.waits := by
  cases passed : deadline.hasPassed world.now with
  | true => simp only [lock, passed, if_true]
  | false =>
      have broken : world.store.line ≠ .used false := idle.resolve_left (by simp [passed])
      rw [waits_lock_sent passed, Server.waits, received_send, if_neg broken]
      rfl

/-!
## Bounds
-/

theorem waitText_ne_zero (milliseconds : Nat) : waitText (some milliseconds) ≠ "0" := by
  intro same
  have length := congrArg String.length same
  have short : (toString (max milliseconds 1)).length + 2 = 1 :=
    (String.length_append ..).symm.trans length
  omega

/-- The bound is lifted for calls without a deadline, and for no other. -/
theorem waits_lock_lifted :
    (lock resolution id deadline world).2.store.server.waits =
      [.text "0"] :: world.store.server.waits ↔
      deadline = .never ∧ world.store.line = .used false := by
  constructor
  · intro lifted
    have sent : ¬ (deadline.hasPassed world.now = true ∨ world.store.line ≠ .used false) :=
      fun idle =>
      List.cons_ne_self _ _ (lifted.symm.trans (waits_lock_unsent idle))
    have early : deadline.hasPassed world.now = false :=
      Bool.eq_false_iff.mpr fun passed => sent (.inl passed)
    have connected : world.store.line = .used false :=
      Decidable.byContradiction fun broken => sent (.inr broken)
    rw [waits_lock connected early] at lifted
    obtain ⟨instant⟩ := deadline
    cases instant with
    | none => exact ⟨rfl, connected⟩
    | some instant =>
        have text : waitText (some ((instant - world.now) / resolution)) = "0" :=
          Parameter.text.inj (List.cons.inj (List.cons.inj lifted).1).1
        exact absurd text (waitText_ne_zero _)
  · rintro ⟨rfl, connected⟩
    exact waits_lock connected rfl

theorem bounds_of_left (left : Nat) : Bounds resolution left (max (left / resolution) 1) := by
  refine ⟨Nat.le_max_right _ _, ?_⟩
  rcases Nat.lt_or_ge left resolution with little | enough
  · rw [Nat.div_eq_of_lt little]
    exact .inr ⟨rfl, little⟩
  · refine .inl ?_
    rcases Nat.eq_zero_or_pos resolution with rfl | fine
    · exact Nat.zero_le _
    · rw [Nat.max_eq_left ((Nat.one_le_div_iff fine).mpr enough)]
      exact Nat.div_mul_le_self left resolution

theorem le_longestWait_iff (fine : 0 < resolution) (left : Nat) :
    max (left / resolution) 1 ≤ longestWait ↔ left < (longestWait + 1) * resolution := by
  rw [Nat.max_le, and_iff_left (by decide), ← Nat.div_lt_iff_lt_mul fine, Nat.lt_succ_iff]

/-- The row of an account is waited for at most as long as the request may still take, and never
without a bound. The database accepts the bound exactly if less than its limit and one millisecond
are left, so always if requests may take no longer than the limit. -/
theorem row_wait_bounded (service : Config.Service) (resolution opened : Nat) (id : AccountId)
    (world : World Pool) (fine : 0 < resolution) (later : opened ≤ world.now)
    (connected : world.store.line = .used false)
    (early : world.now < opened + service.requestTimeout * resolution) :
    (∃ bound, (lock resolution id
      (Http.callContext opened (service.requestTimeout * resolution)).deadline
      world).2.store.server.waits =
          [.text (toString bound ++ "ms")] :: world.store.server.waits ∧
        Bounds resolution (opened + service.requestTimeout * resolution - world.now) bound ∧
        (bound ≤ longestWait ↔
          opened + service.requestTimeout * resolution - world.now <
            (longestWait + 1) * resolution) ∧
        (service.requestTimeout ≤ longestWait → bound ≤ longestWait)) ∧
      ∀ deadline, (lock resolution id deadline world).2.store.server.waits =
        [.text "0"] :: world.store.server.waits ↔
        deadline = .never := by
  refine ⟨?_, fun deadline => waits_lock_lifted.trans (and_iff_left connected)⟩
  have inTime : (Http.callContext opened (service.requestTimeout * resolution)).deadline.hasPassed
      world.now = false :=
    decide_eq_false (Nat.not_le.mpr early)
  have accepted :=
    le_longestWait_iff fine (opened + service.requestTimeout * resolution - world.now)
  refine ⟨_, waits_lock connected inTime, bounds_of_left _, accepted, fun short => accepted.mpr ?_⟩
  calc opened + service.requestTimeout * resolution - world.now
      ≤ service.requestTimeout * resolution := by omega
    _ ≤ longestWait * resolution := Nat.mul_le_mul_right resolution short
    _ < (longestWait + 1) * resolution := Nat.mul_lt_mul_of_pos_right (Nat.lt_succ_self _) fine

/-- A pool whose connection is in the hands of a unit of work. -/
def samplePool : Pool := { Pool.fresh false with line := .used false }

/-- Half a millisecond before the end of a request of five seconds, on a clock of microseconds, the
bound is a millisecond. -/
theorem row_wait_bounded_sample :
    ∃ bound, (lock 1000 ⟨1⟩ (Http.callContext 7 (5000 * 1000)).deadline
      ⟨4999507, [], samplePool, []⟩).2.store.server.waits =
        [[.text (toString bound ++ "ms")]] ∧ Bounds 1000 500 bound ∧ bound ≤ longestWait := by
  obtain ⟨⟨bound, sent, bounds, -, accepted⟩, -⟩ :=
    row_wait_bounded ⟨"0.0.0.0", 3006, 5000, ⟨"", 90, 10, 30, true⟩⟩ 1000 7 ⟨1⟩
      ⟨4999507, [], samplePool, []⟩ (by decide) (by decide) rfl (by decide)
  exact ⟨bound, sent, bounds, accepted (by decide)⟩

/-- Settings that let a request take longer than the database accepts as a bound. -/
def longSettings : Config.Settings :=
  [("DATABASE_URL", "postgres://localhost/ledger"), ("REQUEST_TIMEOUT_MS", "2147483648")]

/-- Such settings are accepted, and then the database is sent a bound that it refuses. -/
theorem long_wait_refused :
    (Config.Service.ofSettings longSettings).map (·.requestTimeout) = .ok 2147483648 ∧
      (lock 1 ⟨1⟩ (Http.callContext 0 2147483648).deadline
        ⟨0, [], samplePool, []⟩).2.store.server.waits =
        [[.text (toString 2147483648 ++ "ms")]] ∧
      longestWait < 2147483648 := by
  refine ⟨rfl, ?_, by decide⟩
  have left : millisecondsLeft? 1 (Http.callContext 0 2147483648).deadline 0 = some 2147483648 :=
    rfl
  rw [waits_lock rfl (by decide), left, waitText, Nat.max_eq_left (by decide)]
  rfl

end Passbook.Database

import Passbook.Proofs.Shared.Trial

/-!
Ledgers in which accounts are created by creations only. Postings and other inquiries create none,
and a unit in the hands of a caller that is not asked to create one creates none either.
-/

set_option autoImplicit false

namespace Passbook

open Memory (Progress Rearmed)

def Request.creates : Request → Bool
  | .insert _ => true
  | _ => false

/-- Whether a script creates no account, whatever the replies. -/
def Script.IsPlain {α : Type} : Script α → Prop
  | .done _ => True
  | .ask request next => request.creates = false ∧ ∀ reply, (next reply).IsPlain

def Query.Phase.IsPlain {α : Type} (script : Script α) : Query.Phase UnitId Progress α → Prop
  | .opening _ => script.IsPlain
  | .asking _ request next _ => request.creates = false ∧ ∀ reply, (next reply).IsPlain
  | _ => True

theorem Query.isPlain_proceed {α : Type} {script rest : Script α} {unit : UnitId}
    (plain : rest.IsPlain) :
    (Query.proceed Memory.store unit rest).IsPlain script := by
  cases rest with
  | done answer => trivial
  | ask request next => exact plain

theorem Memory.created_tryAsk {request : Request} (plain : request.creates = false)
    (unit other : UnitId) (progress : Progress) (world : World Memory) :
    ((tryAsk unit request progress world).2.store.staged other).created =
      (world.store.staged other).created := by
  by_cases same : other = unit
  · subst same
    have staging := tryAsk_staging other request progress world
    generalize (tryAsk other request progress world).1 = result,
      (tryAsk other request progress world).2.store = left at staging
    have kept : ∀ {before : Memory}, Unwritten world.store before →
        before.staged other = world.store.staged other := by
      intro before unwritten
      exact staged_congr (congrFun unwritten.units other)
    cases staging with
    | nothing unwritten unheard => rw [kept unwritten]
    | creates registration free => cases plain
    | sets id balance unwritten => rw [staged_setBalance, kept unwritten]
    | appends draft time unwritten => rw [staged_append, kept unwritten]
  · rw [staged_congr ((tryAsk_acts unit request progress world).spares.units other same)]

namespace Shared

def Inquiry.creates : Inquiry → Bool
  | .create _ _ => true
  | _ => false

theorem Inquiry.isPlain_query {asked : Inquiry} (other : asked.creates = false) :
    asked.query.script.IsPlain := by
  cases asked with
  | create registration deadline => cases other
  | byId id deadline => exact ⟨rfl, fun _ => trivial⟩
  | byName username deadline => exact ⟨rfl, fun _ => trivial⟩
  | history id deadline => exact ⟨rfl, fun _ => trivial⟩
  | statement id deadline =>
      refine ⟨rfl, fun reply => ?_⟩
      cases reply with
      | none => trivial
      | some account => exact ⟨rfl, fun _ => trivial⟩

namespace Client

def creates : Client → Bool
  | .inquiry asked _ => asked.creates
  | _ => false

def IsPlain : Client → Prop
  | .inquiry asked (.running phase) => phase.IsPlain asked.query.script
  | .hand (.running task) => ∀ trial ∈ task.trial?, trial.request.creates = false
  | _ => True

/-- What is known of a client that is not to create an account: it asks for none, and its unit has
created none. -/
def Modest (memory : Memory) (client : Client) : Prop :=
  client.creates = false → client.IsPlain ∧ ∀ unit, client.unit? = some unit →
    (memory.staged unit).created = []

end Client

variable {memory after : Memory} {client : Client} {world : World Memory} {unit : UnitId}

theorem Client.creates_proceed (client : Client) (world : World Memory) :
    (client.proceed world).1.creates = client.creates := by
  cases client using Client.running_or_over with
  | settled client isOver => rw [Client.proceed_of_isOver isOver]
  | _ => rfl

theorem Client.creates_giveUp (client : Client) (world : World Memory) :
    (client.giveUp world).1.creates = client.creates := by
  cases client using Client.running_or_over with
  | settled client isOver => rw [Client.giveUp_of_isOver isOver]
  | _ => rfl

theorem Client.IsPlain.trial (plain : client.IsPlain) :
    ∀ trial ∈ client.trial?, trial.request.creates = false := by
  intro trial member
  cases client using Client.running_or_over with
  | posting wanted phase => cases phase <;> cases member <;> rfl
  | inquiry asked phase =>
      cases phase with
      | asking unit request next progress =>
          cases member
          exact plain.1
      | _ => cases member
  | hand task => exact plain trial member
  | settled client isOver =>
      rw [Client.trial?_of_isOver isOver] at member
      cases member

private theorem plain_query {α : Type} {query : Query α} {phase : Query.Phase UnitId Progress α}
    {turn : Turn (Query.Phase UnitId Progress α) (Query.Result α)}
    (plain : phase.IsPlain query.script) (move : query.Move world phase turn after) :
    ∀ next, Course.ofTurn turn = .running next → next.IsPlain query.script := by
  intro next goesOn
  cases move with
  | opens opening =>
      cases goesOn
      exact Query.isPlain_proceed plain
  | hears tried =>
      cases goesOn
      exact Query.isPlain_proceed (plain.2 _)
  | _ =>
      cases goesOn <;> first | exact plain | trivial

private theorem plain_hand {hand : Hand} {course : Course Hand Hand.Result}
    (plain : ∀ trial ∈ hand.trial?, trial.request.creates = false)
    (move : hand.Move world course after) :
    ∀ next, course = .running next → ∀ trial ∈ next.trial?, trial.request.creates = false := by
  intro next goesOn trial member
  cases move with
  | keepsAsking tried =>
      cases goesOn
      cases member
      have asked := plain ⟨_, _, _⟩ rfl
      exact asked
  | _ => cases goesOn <;> cases member

private theorem isPlain_ofTurn {asked : Inquiry}
    {turn : Turn (Query.Phase UnitId Progress asked.Answer) (Query.Result asked.Answer)}
    (plain : ∀ next, Course.ofTurn turn = .running next → next.IsPlain asked.query.script) :
    (Client.inquiry asked (.ofTurn turn)).IsPlain := by
  cases turn with
  | rests next => exact plain next rfl
  | proceeds next => exact plain next rfl
  | ends result => trivial

theorem Client.IsPlain.proceed (plain : client.IsPlain) (world : World Memory) :
    (client.proceed world).1.IsPlain := by
  cases client using Client.running_or_over with
  | posting wanted phase => trivial
  | inquiry asked phase =>
      exact isPlain_ofTurn (plain_query plain (asked.query.step_move phase world))
  | hand task =>
      have next := plain_hand plain (task.step_move world)
      change (Client.hand (task.step world).1).IsPlain
      generalize (task.step world).1 = course at next
      cases course with
      | running task => exact next task rfl
      | ended result => trivial
      | dropped => trivial
  | settled client isOver =>
      rw [Client.proceed_of_isOver isOver]
      exact plain

theorem Client.IsPlain.giveUp (plain : client.IsPlain) (world : World Memory) :
    (client.giveUp world).1.IsPlain := by
  cases client using Client.running_or_over with
  | posting wanted phase => trivial
  | inquiry asked phase => trivial
  | hand task =>
      cases task with
      | asking unit request progress => exact fun trial member => by cases member
      | _ => trivial
  | settled client isOver =>
      rw [Client.giveUp_of_isOver isOver]
      exact plain

/-!
## What units have created
-/

private theorem Settles.staged (settles : Settles memory after) (unit : UnitId) :
    after.staged unit = memory.staged unit ∨ after.staged unit = .empty := by
  have closed : ∀ {before later : Memory} (other : UnitId), Rearmed memory before →
    later.units = assign before.units other none →
      later.staged unit = memory.staged unit ∨ later.staged unit = .empty := by
    intro before later other same units
    by_cases mine : unit = other
    · refine .inr ?_
      rw [Memory.staged, units, mine, assign_same]
      rfl
    · refine .inl (Eq.trans ?_ (same.staged unit))
      exact Memory.staged_congr ((congrFun units unit).trans (assign_other _ _ mine))
  cases settles with
  | rearms same => exact .inl (same.staged unit)
  | @opens before same =>
      by_cases new : unit = ⟨before.lastUnit + 1⟩
      · refine .inr ?_
        rw [new]
        exact Memory.staged_of_units (assign_same _ _ _)
      · exact .inl ((Memory.staged_congr (assign_other _ _ new)).trans (same.staged unit))
  | leaves other id => exact .inl rfl
  | discards same other => exact closed other same rfl
  | publishes same other => exact closed other same rfl

private theorem Trying.created {tries next : Option Trial}
    (plain : ∀ trial ∈ tries, trial.request.creates = false)
    (trying : Trying world tries next after) (none : (world.store.staged unit).created = []) :
    (after.staged unit).created = [] := by
  have settled : ∀ {left : Memory}, (left.staged unit).created = [] → Settles left after →
      (after.staged unit).created = [] := by
    intro left none settles
    rcases settles.staged unit with same | empty
    · rw [same, none]
    · rw [empty]
      rfl
  cases trying with
  | settles fresh settles => exact settled none settles
  | @waits other request progress later left tried =>
      have kept := Memory.created_tryAsk (plain _ rfl) other unit progress world
      rw [tried] at kept
      exact kept.trans none
  | @hears other request progress reply left next after tried fresh settles =>
      have kept := Memory.created_tryAsk (plain _ rfl) other unit progress world
      rw [tried] at kept
      exact settled (kept.trans none) settles

private theorem created_proceed (plain : client.IsPlain)
    (barren : ∀ unit, client.unit? = some unit → (world.store.staged unit).created = [])
    (has : (client.proceed world).1.unit? = some unit) :
    ((client.proceed world).2.store.staged unit).created = [] := by
  have effect := client_effect client world
  rw [has] at effect
  cases mine : client.unit? with
  | none =>
      rw [mine] at effect
      generalize (client.proceed world).2.store = left at effect
      cases effect with
      | opens rearmed =>
          rw [Memory.staged_of_units (assign_same _ _ _)]
          rfl
  | some old =>
      rw [mine] at effect
      rcases effect.keeps with same | gone
      · refine Trying.created (fun trial tries => plain.trial trial ?_)
          (client.proceed_trying world) (barren unit (mine.trans same.symm))
        exact Client.trial?_of_tries? tries
      · cases gone

private theorem created_giveUp
    (barren : ∀ unit, client.unit? = some unit → (world.store.staged unit).created = [])
    (has : (client.giveUp world).1.unit? = some unit) :
    ((client.giveUp world).2.store.staged unit).created = [] := by
  have effect := client_giveUp_effect client world
  rw [has] at effect
  rcases (client.giveUp_settles world).2.staged unit with same | empty
  · rw [same]
    generalize mine : client.unit? = owned, (client.giveUp world).2.store = left at effect same
    cases effect with
    | opens rearmed =>
        rw [← same, Memory.staged_of_units (assign_same _ _ _)]
        rfl
    | acts acts => exact barren unit mine
  · rw [empty]
    rfl

theorem modest_clients : Invariant (fun request => request.creates = false) Client.Modest where
  rearms {memory after client} rearmed modest := by
    intro other
    obtain ⟨plain, barren⟩ := modest other
    refine ⟨plain, fun unit has => ?_⟩
    rw [rearmed.staged]
    exact barren unit has
  posts memory posting := fun _ => ⟨trivial, fun unit has => by cases has⟩
  inquires memory inquiry :=
    fun other => ⟨Inquiry.isPlain_query other, fun unit has => by cases has⟩
  opens memory deadline :=
    fun _ => ⟨fun trial member => (by cases member), fun unit has => by cases has⟩
  asks allowed modest := fun other => by
    refine ⟨fun trial member => ?_, (modest other).2⟩
    cases member
    exact allowed
  finishes modest := fun other => ⟨fun trial member => (by cases member), (modest other).2⟩
  proceeds client world modest := by
    intro other
    rw [Client.creates_proceed] at other
    obtain ⟨plain, barren⟩ := modest other
    exact ⟨plain.proceed world, fun unit has => created_proceed plain barren has⟩
  givesUp client world modest := by
    intro other
    rw [Client.creates_giveUp] at other
    obtain ⟨plain, barren⟩ := modest other
    exact ⟨plain.giveUp world, fun unit has => created_giveUp barren has⟩
  others {memory after client other next} modest otherModest effect apart := by
    intro isOther
    obtain ⟨plain, barren⟩ := modest isOther
    refine ⟨plain, fun unit has => ?_⟩
    rw [Memory.staged_congr (effect.units_other (apart unit has).1 (apart unit has).2)]
    exact barren unit has

end Shared

end Passbook

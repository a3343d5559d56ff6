import ServiceMessages.Redis.ClientFactory

/-!
# The states of a connection

What a factory is for: there is no client, or one call waits for it, or one
call has it, or it is there for all.  Calls on a factory go through these
states as long as none of them finds the field unset while another one is at
work.
-/

namespace ServiceMessages.Redis

open Interaction TaskEither

variable (redisConfig : RedisConfig) {Thread : Type}

abbrev Calls (Thread : Type) :=
  Config FactoryInterface Factory Thread Unit (Except JsError RedisClient)

abbrev Call := TaskEither FactoryInterface JsError RedisClient

/-- The call has found the field unset and has not assigned it yet. -/
def Suspended (call : Call) : Prop :=
  call = connecting redisConfig ∨ ∃ client, call = assigning client

/-- How far a factory is with its only connection, and which call works on it. -/
inductive Connection (Thread : Type) where
  | absent
  | opening (thread : Thread)
  | opened (thread : Thread) (client : RedisClient)
  | ready (client : RedisClient)

namespace Connection

def factory : Connection Thread → Factory
  | .absent | .opening _ => .initial
  | .opened _ client => Factory.initial.connect client
  | .ready client => (Factory.initial.connect client).assign client

def client : Connection Thread → Option RedisClient
  | .ready client => some client
  | _ => none

/-- The call that works on the connection, and what is left of it. -/
def working : Connection Thread → Option (Thread × Call)
  | .opening thread => some (thread, connecting redisConfig)
  | .opened thread client => some (thread, assigning client)
  | _ => none

@[simp]
theorem redisClient_factory (connection : Connection Thread) :
    connection.factory.redisClient = connection.client := by
  cases connection <;> rfl

theorem length_connected_le_one (connection : Connection Thread) :
    connection.factory.connected.length ≤ 1 := by
  cases connection <;> simp [factory, Factory.initial, Factory.connect, Factory.assign]

end Connection

/-- The call has not read the field, has failed, or was answered with the client. -/
def Rests (client : Option RedisClient) (call : Call) : Prop :=
  call = getInstance redisConfig ∨ (∃ error, call = left error) ∨
    ∃ answered, client = some answered ∧ call = of answered

structure Represents (connection : Connection Thread) (calls : Calls Thread) : Prop where
  world : calls.world = connection.factory
  works : ∀ thread call, connection.working redisConfig = some (thread, call) →
    calls.threads thread = some ((), call)
  rests : ∀ thread call, calls.threads thread = some ((), call) →
    connection.working redisConfig = some (thread, call) ∨
      Rests redisConfig connection.client call

/-- A step in which no call finds the field unset while another one is suspended. -/
structure Orderly [DecidableEq Thread] (calls calls' : Calls Thread) : Prop where
  step : (factorySystem redisConfig).Step calls calls'
  exclusive : ∀ thread,
    calls'.trace = .command thread ⟨.readRedisClient, none⟩ :: calls.trace →
      ∀ other call, other ≠ thread → calls.threads other = some ((), call) →
        ¬ Suspended redisConfig call

variable {redisConfig}

theorem not_suspended_of_rests {client : Option RedisClient} {call : Call}
    (rests : Rests redisConfig client call) : ¬ Suspended redisConfig call := by
  intro suspended
  rcases rests with rfl | ⟨error, rfl⟩ | ⟨answered, -, rfl⟩
  · rw [Suspended, getInstance_eq] at suspended
    rcases suspended with same | ⟨client, same⟩ <;> cases same
  · rcases suspended with same | ⟨client, same⟩ <;> cases same
  · rcases suspended with same | ⟨client, same⟩ <;> cases same

theorem suspended_of_working {connection : Connection Thread} {thread : Thread} {call : Call}
    (working : connection.working redisConfig = some (thread, call)) :
    Suspended redisConfig call := by
  cases connection with
  | absent => cases working
  | opening waiting =>
      cases working
      exact .inl rfl
  | opened waiting client =>
      cases working
      exact .inr ⟨client, rfl⟩
  | ready client => cases working

theorem represents_initial : Represents redisConfig (.absent : Connection Thread)
    (.initial .initial) where
  world := rfl
  works := by
    intro thread call working
    cases working
  rests := by
    intro thread call running
    cases running

section Steps

variable [DecidableEq Thread] {connection connection' : Connection Thread} {calls : Calls Thread}

theorem Represents.advance (represents : Represents redisConfig connection calls)
    {thread : Thread} {call : Call} {factory : Factory}
    {trace : List (Label FactoryInterface Thread Unit)}
    (world : factory = connection'.factory)
    (appears : ∀ other rest, connection'.working redisConfig = some (other, rest) →
      other = thread ∧ rest = call ∨
        other ≠ thread ∧ connection.working redisConfig = some (other, rest))
    (remains : ∀ other rest, connection.working redisConfig = some (other, rest) →
      other ≠ thread → connection'.working redisConfig = some (other, rest))
    (rests : connection'.working redisConfig = some (thread, call) ∨
      Rests redisConfig connection'.client call)
    (clients : connection.client = none ∨ connection'.client = connection.client) :
    Represents redisConfig connection'
      { world := factory
        threads := Function.update calls.threads thread (some ((), call))
        trace := trace } where
  world := world
  works := by
    intro other rest working
    rcases appears other rest working with ⟨rfl, rfl⟩ | ⟨distinct, before⟩
    · exact Function.update_self ..
    · exact (Function.update_of_ne distinct ..).trans (represents.works other rest before)
  rests := by
    intro other rest running
    by_cases same : other = thread
    · subst same
      simp only [Function.update_self] at running
      cases running
      exact rests
    · simp only [Function.update_of_ne same] at running
      rcases represents.rests other rest running with working | resting
      · exact .inl (remains other rest working same)
      · right
        rcases resting with unread | failed | ⟨answered, here, done⟩
        · exact .inl unread
        · exact .inr (.inl failed)
        · rcases clients with none | unchanged
          · rw [none] at here
            cases here
          · exact .inr (.inr ⟨answered, unchanged.trans here, done⟩)

variable {thread : Thread} {client : RedisClient}
  {trace : List (Label FactoryInterface Thread Unit)}

theorem Represents.started (represents : Represents redisConfig connection calls)
    (fresh : calls.threads thread = none) :
    Represents redisConfig connection
      { world := calls.world
        threads := Function.update calls.threads thread (some ((), getInstance redisConfig))
        trace := trace } := by
  refine represents.advance represents.world ?_ ?_ (.inr (.inl rfl)) (.inr rfl)
  · intro other rest working
    refine .inr ⟨?_, working⟩
    rintro rfl
    have started := represents.works other rest working
    rw [fresh] at started
    cases started
  · exact fun other rest working _ => working

theorem Represents.found (represents : Represents redisConfig connection calls)
    (present : connection.client = some client) :
    Represents redisConfig connection
      { world := calls.world
        threads := Function.update calls.threads thread (some ((), of client))
        trace := trace } := by
  cases connection with
  | ready client' =>
      refine represents.advance represents.world ?_ ?_ (.inr (.inr (.inr ⟨client, present, rfl⟩)))
        (.inr rfl)
      · intro other rest working
        cases working
      · intro other rest working
        cases working
  | _ => cases present

theorem Represents.opens (represents : Represents redisConfig .absent calls) :
    Represents redisConfig (.opening thread)
      { world := calls.world
        threads := Function.update calls.threads thread (some ((), connecting redisConfig))
        trace := trace } := by
  refine represents.advance represents.world ?_ ?_ (.inl rfl) (.inl rfl)
  · intro other rest working
    cases working
    exact .inl ⟨rfl, rfl⟩
  · intro other rest working
    cases working

theorem Represents.failed (represents : Represents redisConfig (.opening thread) calls)
    (error : JsError) :
    Represents redisConfig .absent
      { world := calls.world
        threads := Function.update calls.threads thread (some ((), left error))
        trace := trace } := by
  refine represents.advance represents.world ?_ ?_ (.inr (.inr (.inl ⟨error, rfl⟩))) (.inl rfl)
  · intro other rest working
    cases working
  · intro other rest working distinct
    cases working
    exact absurd rfl distinct

theorem Represents.connected (represents : Represents redisConfig (.opening thread) calls)
    (client : RedisClient) :
    Represents redisConfig (.opened thread client)
      { world := calls.world.connect client
        threads := Function.update calls.threads thread (some ((), assigning client))
        trace := trace } := by
  refine represents.advance ?_ ?_ ?_ (.inl rfl) (.inl rfl)
  · rw [represents.world]
    rfl
  · intro other rest working
    cases working
    exact .inl ⟨rfl, rfl⟩
  · intro other rest working distinct
    cases working
    exact absurd rfl distinct

theorem Represents.assigned (represents : Represents redisConfig (.opened thread client) calls) :
    Represents redisConfig (.ready client)
      { world := calls.world.assign client
        threads := Function.update calls.threads thread (some ((), of client))
        trace := trace } := by
  refine represents.advance ?_ ?_ ?_ (.inr (.inr (.inr ⟨client, rfl, rfl⟩))) (.inl rfl)
  · rw [represents.world]
    rfl
  · intro other rest working
    cases working
  · intro other rest working distinct
    cases working
    exact absurd rfl distinct

/-- The step lemma: an orderly step is a step of the machine. -/
theorem Represents.step (represents : Represents redisConfig connection calls)
    {calls' : Calls Thread} (orderly : Orderly redisConfig calls calls') :
    ∃ connection' : Connection Thread, Represents redisConfig connection' calls' := by
  obtain ⟨step, exclusive⟩ := orderly
  cases step with
  | start thread request fresh => exact ⟨connection, represents.started fresh⟩
  | drift world drifted => exact drifted.elim
  | command thread request command next reply world running executed =>
      rcases represents.rests thread _ running with working | unread | ⟨error, failed⟩ |
        ⟨answered, _, done⟩
      · cases connection with
        | absent => cases working
        | ready client => cases working
        | opening waiting =>
            simp only [Connection.working, connecting, Option.some.injEq, Prod.mk.injEq] at working
            obtain ⟨rfl, same⟩ := working
            cases same
            cases reply with
            | error error =>
                obtain rfl : world = calls.world := executed
                exact ⟨.absent, represents.failed error⟩
            | ok client =>
                obtain ⟨-, -, rfl⟩ := executed
                exact ⟨.opened waiting client, represents.connected client⟩
        | opened waiting client =>
            simp only [Connection.working, assigning, Option.some.injEq, Prod.mk.injEq] at working
            obtain ⟨rfl, same⟩ := working
            cases same
            obtain ⟨rfl, returned⟩ := executed
            rw [returned]
            exact ⟨.ready client, represents.assigned⟩
      · rw [getInstance_eq] at unread
        cases unread
        obtain ⟨read, rfl⟩ := executed
        rw [represents.world, Connection.redisClient_factory] at read
        cases reply with
        | some client => exact ⟨connection, represents.found read.symm⟩
        | none =>
            -- no other call is suspended, and this one was not either
            have idle : ∀ other rest, connection.working redisConfig ≠ some (other, rest) := by
              intro other rest working
              have suspended := suspended_of_working working
              have works := represents.works other rest working
              by_cases same : other = thread
              · rw [same, running] at works
                cases works
                rcases suspended with same | ⟨client, same⟩ <;> cases same
              · exact exclusive thread rfl other rest same works suspended
            cases connection with
            | absent => exact ⟨.opening thread, represents.opens⟩
            | opening waiting => exact absurd rfl (idle waiting _)
            | opened waiting client => exact absurd rfl (idle waiting _)
            | ready client => cases read
      · cases failed
      · cases done

/-- The run lemma: orderly runs are runs of the machine. -/
theorem represents_of_reaches
    (reaches : Relation.ReflTransGen (Orderly redisConfig) (.initial .initial) calls) :
    ∃ connection : Connection Thread, Represents redisConfig connection calls := by
  induction reaches with
  | refl => exact ⟨.absent, represents_initial⟩
  | tail _ orderly inductionHypothesis =>
      obtain ⟨connection, represents⟩ := inductionHypothesis
      exact represents.step orderly

end Steps

end ServiceMessages.Redis

import ServiceMessages.Redis.Connection

/-!
# One connection for each factory

The test of the field and its assignment are separated by the wait for the
connection.  As long as no call makes the test while another one waits, one
client at most is ever connected.  Once two calls wait at the same time, they
can connect two clients.
-/

namespace ServiceMessages.Redis

open Interaction TaskEither

variable {redisConfig : RedisConfig} {Thread : Type}

theorem advances_connecting (redisConfig : RedisConfig) (factory : Factory) {client : RedisClient}
    (options : client.options = clientOptions redisConfig) (new : client ∉ factory.connected) :
    Advances factoryExec factory (connecting redisConfig)
      [⟨.connect (clientOptions redisConfig), .ok client⟩, ⟨.assignRedisClient client, client⟩]
      (of client) ((factory.connect client).assign client) := by
  have attempt : factoryExec factory (.connect (clientOptions redisConfig)) (.ok client)
      (factory.connect client) := ⟨options, new, rfl⟩
  have assignment : factoryExec (factory.connect client) (.assignRedisClient client) client
      ((factory.connect client).assign client) := ⟨rfl, rfl⟩
  exact .call attempt (.call assignment .refl)

section Progress

variable [DecidableEq Thread] {connection : Connection Thread} {calls : Calls Thread}
  {thread : Thread} {client : RedisClient}

theorem orderly_start (fresh : calls.threads thread = none) :
    Orderly redisConfig calls
      { world := calls.world
        threads := Function.update calls.threads thread (some ((), getInstance redisConfig))
        trace := .start thread () :: calls.trace } where
  step := .start thread () fresh
  exclusive := by
    intro reader read
    simp at read

theorem orderly_command {command : FactoryInterface.Command}
    {next : FactoryInterface.Reply command → Call} {reply : FactoryInterface.Reply command}
    {factory : Factory} (running : calls.threads thread = some ((), .call command next))
    (executed : factoryExec calls.world command reply factory)
    (exclusive : (⟨command, reply⟩ : Event FactoryInterface) = ⟨.readRedisClient, none⟩ →
      ∀ other call, other ≠ thread → calls.threads other = some ((), call) →
        ¬ Suspended redisConfig call) :
    Orderly redisConfig calls
      { world := factory
        threads := Function.update calls.threads thread (some ((), next reply))
        trace := .command thread ⟨command, reply⟩ :: calls.trace } where
  step := .command thread () command next reply factory running executed
  exclusive := by
    intro reader read
    obtain ⟨rfl, found⟩ : thread = reader ∧
        (⟨command, reply⟩ : Event FactoryInterface) = ⟨.readRedisClient, none⟩ := by
      simpa using read
    exact exclusive found

theorem Represents.settles (represents : Represents redisConfig connection calls) :
    ∃ (connection' : Connection Thread) (calls' : Calls Thread),
      Relation.ReflTransGen (Orderly redisConfig) calls calls' ∧
        Represents redisConfig connection' calls' ∧ connection'.working redisConfig = none ∧
          ∀ thread, calls.threads thread = none → calls'.threads thread = none := by
  have unstarted : ∀ {worker : Thread} {call rest : Call},
      calls.threads worker = some ((), call) → ∀ thread, calls.threads thread = none →
        Function.update calls.threads worker (some ((), rest)) thread = none := by
    intro worker call rest running thread fresh
    have distinct : thread ≠ worker := by
      rintro rfl
      rw [fresh] at running
      cases running
    rwa [Function.update_of_ne distinct]
  cases connection with
  | absent => exact ⟨.absent, calls, .refl, represents, rfl, fun _ => id⟩
  | ready client => exact ⟨.ready client, calls, .refl, represents, rfl, fun _ => id⟩
  | opening worker =>
      have running := represents.works worker _ rfl
      have attempt : factoryExec calls.world (.connect (clientOptions redisConfig))
          (.error (.new "Connection timeout")) calls.world := rfl
      exact ⟨.absent, _, .single (orderly_command running attempt (by simp)),
        represents.failed _, rfl, unstarted running⟩
  | opened worker client =>
      have running := represents.works worker _ rfl
      have assignment : factoryExec calls.world (.assignRedisClient client) client
          (calls.world.assign client) := ⟨rfl, rfl⟩
      exact ⟨.ready client, _, .single (orderly_command running assignment (by simp)),
        represents.assigned, rfl, unstarted running⟩

/-- A call may advance as long as no other one is suspended. -/
theorem orderly_of_advances {factory final : Factory} {program rest : Call}
    {events : List (Event FactoryInterface)}
    (advances : Advances factoryExec factory program events rest final)
    (here : calls.world = factory) (running : calls.threads thread = some ((), program))
    (alone : ∀ other call, other ≠ thread → calls.threads other = some ((), call) →
      ¬ Suspended redisConfig call) :
    ∃ later, Relation.ReflTransGen (Orderly redisConfig) calls later ∧ later.world = final ∧
      later.threads thread = some ((), rest) ∧
      ∀ other, other ≠ thread → later.threads other = calls.threads other := by
  induction advances generalizing calls with
  | refl => exact ⟨calls, .refl, here, running, fun _ _ => rfl⟩
  | @call _ command next reply factory' _ _ _ executed _ inductionHypothesis =>
      subst here
      have others : ∀ other, other ≠ thread →
          Function.update calls.threads thread (some ((), next reply)) other =
            calls.threads other := fun other distinct => Function.update_of_ne distinct ..
      obtain ⟨later, reaches, arrived, remaining, kept⟩ := @inductionHypothesis
        { world := factory'
          threads := Function.update calls.threads thread (some ((), next reply))
          trace := .command thread ⟨command, reply⟩ :: calls.trace }
        rfl (Function.update_self ..) (fun other call distinct waiting =>
          alone other call distinct ((others other distinct).symm.trans waiting))
      exact ⟨later, .head (orderly_command running executed fun _ => alone) reaches, arrived,
        remaining, fun other distinct => (kept other distinct).trans (others other distinct)⟩

theorem orderly_of_start {final : Factory} {rest : Call} {events : List (Event FactoryInterface)}
    (advances : Advances factoryExec calls.world (getInstance redisConfig) events rest final)
    (fresh : calls.threads thread = none)
    (alone : ∀ other call, other ≠ thread → calls.threads other = some ((), call) →
      ¬ Suspended redisConfig call) :
    ∃ later, Relation.ReflTransGen (Orderly redisConfig) calls later ∧ later.world = final ∧
      later.threads thread = some ((), rest) ∧
      ∀ other, other ≠ thread → later.threads other = calls.threads other := by
  have others : ∀ other, other ≠ thread →
      Function.update calls.threads thread (some ((), getInstance redisConfig)) other =
        calls.threads other := fun other distinct => Function.update_of_ne distinct ..
  obtain ⟨later, reaches, arrived, remaining, kept⟩ := @orderly_of_advances redisConfig _ _
    { world := calls.world
      threads := Function.update calls.threads thread (some ((), getInstance redisConfig))
      trace := .start thread () :: calls.trace }
    thread _ _ _ _ _ advances rfl (Function.update_self ..) (fun other call distinct waiting =>
      alone other call distinct ((others other distinct).symm.trans waiting))
  exact ⟨later, .head (orderly_start fresh) reaches, arrived, remaining,
    fun other distinct => (kept other distinct).trans (others other distinct)⟩

theorem Represents.answers (represents : Represents redisConfig connection calls)
    (settled : connection.working redisConfig = none) (fresh : calls.threads thread = none) :
    ∃ later client, Relation.ReflTransGen (Orderly redisConfig) calls later ∧
      later.Answered thread () (.ok client) := by
  have alone : ∀ other call, other ≠ thread → calls.threads other = some ((), call) →
      ¬ Suspended redisConfig call := fun other call _ running =>
    not_suspended_of_rests ((represents.rests other call running).resolve_left (by simp [settled]))
  obtain ⟨client, events, final, advances⟩ : ∃ client events final,
      Advances factoryExec calls.world (getInstance redisConfig) events (of client) final := by
    rw [getInstance_eq, represents.world]
    cases connection with
    | opening worker => cases settled
    | opened worker client => cases settled
    | ready client => exact ⟨client, _, _, .call ⟨rfl, rfl⟩ .refl⟩
    | absent =>
        exact ⟨⟨0, clientOptions redisConfig⟩, _, _,
          .call ⟨rfl, rfl⟩ (advances_connecting redisConfig _ rfl List.not_mem_nil)⟩
  obtain ⟨later, reaches, -, answered, -⟩ := orderly_of_start advances fresh alone
  exact ⟨later, client, reaches, answered⟩

end Progress

/-- As long as no call finds the field unset while another one is suspended,
at most one client is ever connected, every call that is answered with a client
is answered with that one, and a call that is still to come can be answered
with a client, also after attempts that failed. -/
theorem single_connection (redisConfig : RedisConfig) [DecidableEq Thread]
    {calls : Calls Thread}
    (reaches : Relation.ReflTransGen (Orderly redisConfig) (.initial .initial) calls) :
    calls.world.connected.length ≤ 1 ∧
      (∀ thread client, calls.Answered thread () (.ok client) →
        calls.world.connected = [client]) ∧
      ∀ thread, calls.threads thread = none → ∃ later client,
        Relation.ReflTransGen (Orderly redisConfig) calls later ∧
          later.Answered thread () (.ok client) := by
  obtain ⟨connection, represents⟩ := represents_of_reaches reaches
  refine ⟨?_, ?_, ?_⟩
  · rw [represents.world]
    exact connection.length_connected_le_one
  · intro thread client answered
    have rests : Rests redisConfig connection.client (.done (.ok client)) := by
      refine (represents.rests thread _ answered).resolve_left fun working => ?_
      rcases suspended_of_working working with same | ⟨assigned, same⟩ <;> cases same
    rcases rests with unread | ⟨error, failed⟩ | ⟨answer, here, done⟩
    · rw [getInstance_eq] at unread
      cases unread
    · cases failed
    · cases done
      rw [represents.world]
      cases connection with
      | ready client' =>
          cases here
          rfl
      | _ => cases here
  · intro thread fresh
    obtain ⟨connection', settled, reaches, represents, idle, unstarted⟩ := represents.settles
    obtain ⟨later, client, answers, answered⟩ :=
      represents.answers idle (unstarted thread fresh)
    exact ⟨later, client, reaches.trans answers, answered⟩

def aRedisConfig : RedisConfig where
  isProduction := false
  REDIS_URL := ⟨"aRedisUrl", by decide⟩
  REDIS_CLUSTER_ENABLED := none
  REDIS_PASSWORD := none
  REDIS_PORT := none
  REDIS_TLS_ENABLED := none

def aRedisClient (identity : ℕ) : RedisClient where
  identity := identity
  options := clientOptions aRedisConfig

/-- One call fails, another one is answered with a client, and a third one can
then be answered with that client. -/
theorem single_connection_sample :
    ∃ (calls later : Calls ℕ) (error : JsError) (client : RedisClient),
      Relation.ReflTransGen (Orderly aRedisConfig) (.initial .initial) calls ∧
      calls.Answered 0 () (.error error) ∧ calls.Answered 1 () (.ok client) ∧
      calls.world.connected = [client] ∧
      Relation.ReflTransGen (Orderly aRedisConfig) calls later ∧
      later.Answered 2 () (.ok client) := by
  have read : factoryExec .initial .readRedisClient none .initial := ⟨rfl, rfl⟩
  have attempt : factoryExec .initial (.connect (clientOptions aRedisConfig))
      (.error (.new "Connection timeout")) .initial := rfl
  have fails : Advances factoryExec .initial (getInstance aRedisConfig)
      [⟨.readRedisClient, none⟩,
        ⟨.connect (clientOptions aRedisConfig), .error (.new "Connection timeout")⟩]
      (left (.new "Connection timeout")) .initial := by
    rw [getInstance_eq]
    exact .call read (.call attempt .refl)
  have connects : Advances factoryExec .initial (getInstance aRedisConfig)
      [⟨.readRedisClient, none⟩, ⟨.connect (clientOptions aRedisConfig), .ok (aRedisClient 0)⟩,
        ⟨.assignRedisClient (aRedisClient 0), aRedisClient 0⟩]
      (of (aRedisClient 0))
      ((Factory.initial.connect (aRedisClient 0)).assign (aRedisClient 0)) := by
    rw [getInstance_eq]
    exact .call read (advances_connecting aRedisConfig _ rfl List.not_mem_nil)
  obtain ⟨middle, first, unconnected, failed, othersMiddle⟩ :=
    @orderly_of_start aRedisConfig ℕ _ (.initial .initial) 0 _ _ _ fails rfl (by nofun)
  have alone : ∀ other call, other ≠ 1 → middle.threads other = some ((), call) →
      ¬ Suspended aRedisConfig call := by
    intro other call distinct running
    have failing : other = 0 := by
      by_contra unstarted
      rw [othersMiddle other unstarted] at running
      cases running
    subst failing
    rw [failed] at running
    cases running
    exact @not_suspended_of_rests aRedisConfig none _ (.inr (.inl ⟨_, rfl⟩))
  rw [← unconnected] at connects
  obtain ⟨calls, second, -, answered, othersCalls⟩ :=
    orderly_of_start connects (othersMiddle 1 (by decide)) alone
  have reaches := first.trans second
  obtain ⟨-, same, answers⟩ := single_connection aRedisConfig reaches
  obtain ⟨later, client, third, answeredToo⟩ := answers 2
    ((othersCalls 2 (by decide)).trans (othersMiddle 2 (by decide)))
  have steps : (factorySystem aRedisConfig).Reaches calls later :=
    third.lift id fun _ _ orderly => orderly.step
  have still : later.Answered 1 () (.ok (aRedisClient 0)) := steps.answered answered
  obtain ⟨-, sameLater, -⟩ := single_connection aRedisConfig (reaches.trans third)
  obtain rfl : aRedisClient 0 = client :=
    List.singleton_inj.mp ((sameLater 1 _ still).symm.trans (sameLater 2 _ answeredToo))
  exact ⟨calls, later, _, _, reaches, (othersCalls 0 (by decide)).trans failed, answered,
    same 1 _ answered, third, answeredToo⟩

section Overlap

variable [DecidableEq Thread] {calls calls' : Calls Thread} {thread : Thread}

theorem two_clients_of_connecting {client : RedisClient}
    (waits : calls.threads thread = some ((), connecting redisConfig))
    (connected : calls.world.connected = [client]) :
    ∃ later, (factorySystem redisConfig).Reaches calls later ∧
      1 < later.world.connected.length := by
  have new : (⟨client.identity + 1, clientOptions redisConfig⟩ : RedisClient) ∉
      calls.world.connected := by
    rw [connected, List.mem_singleton]
    intro same
    have identities := congrArg RedisClient.identity same
    simp at identities
  obtain ⟨later, reaches, world, _⟩ := (factorySystem redisConfig).reaches_of_advances
    (advances_connecting redisConfig calls.world rfl new) calls rfl waits
  refine ⟨later, reaches, ?_⟩
  rw [world]
  simp [Factory.assign, Factory.connect, connected]

theorem connecting_of_reads {connection : Connection Thread}
    (represents : Represents redisConfig connection calls)
    (step : (factorySystem redisConfig).Step calls calls')
    (read : calls'.trace = .command thread ⟨.readRedisClient, none⟩ :: calls.trace) :
    calls'.world = calls.world ∧ calls'.threads thread = some ((), connecting redisConfig) ∧
      ∀ other, other ≠ thread → calls'.threads other = calls.threads other := by
  cases step with
  | start => simp at read
  | drift world drifted => exact drifted.elim
  | command reader request command next reply world running executed =>
      simp only [List.cons.injEq, and_true, Label.command.injEq] at read
      obtain ⟨rfl, event⟩ := read
      cases event
      obtain ⟨-, rfl⟩ := executed
      refine ⟨rfl, ?_, fun other distinct => Function.update_of_ne distinct ..⟩
      rcases represents.rests reader _ running with working | unread | ⟨error, failed⟩ |
        ⟨answered, _, done⟩
      · rcases suspended_of_working working with same | ⟨client, same⟩ <;> cases same
      · rw [getInstance_eq] at unread
        cases unread
        exact Function.update_self ..
      · cases failed
      · cases done

/-- The condition is exact: once a call finds the field unset while another one
is suspended, two clients can be connected. -/
theorem two_clients_of_overlap
    (reaches : Relation.ReflTransGen (Orderly redisConfig) (.initial .initial) calls)
    (step : (factorySystem redisConfig).Step calls calls')
    (overlap : ¬ Orderly redisConfig calls calls') :
    ∃ later, (factorySystem redisConfig).Reaches calls' later ∧
      1 < later.world.connected.length := by
  obtain ⟨connection, represents⟩ := represents_of_reaches reaches
  by_contra single
  refine overlap ⟨step, fun thread read other call distinct running suspended => single ?_⟩
  obtain ⟨world, waits, others⟩ := connecting_of_reads represents step read
  have working := (represents.rests other call running).resolve_right
    fun rests => not_suspended_of_rests rests suspended
  rw [represents.world] at world
  cases connection with
  | absent => cases working
  | ready client => cases working
  | opened worker client => exact two_clients_of_connecting waits (by rw [world]; rfl)
  | opening worker =>
      cases working
      -- the other call connects its client first
      have waitsToo := (others other distinct).trans running
      obtain ⟨later, first, connected, _, others, _⟩ :=
        (factorySystem redisConfig).reaches_of_advances
          (advances_connecting redisConfig .initial
            (rfl : (⟨0, clientOptions redisConfig⟩ : RedisClient).options = _) List.not_mem_nil)
          calls' world waitsToo
      obtain ⟨last, second, two⟩ := two_clients_of_connecting
        ((others thread distinct.symm).trans waits) (by rw [connected]; rfl)
      exact ⟨last, first.trans second, two⟩

end Overlap

/-- Two calls on a new factory that both find the field unset are answered with
two clients. -/
theorem two_calls_two_clients :
    ∃ (calls : Calls ℕ) (first second : RedisClient),
      (factorySystem aRedisConfig).Reaches (.initial .initial) calls ∧
        calls.Answered 0 () (.ok second) ∧ calls.Answered 1 () (.ok first) ∧ first ≠ second ∧
          calls.world.connected = [second, first] := by
  have read : factoryExec .initial .readRedisClient none .initial := ⟨rfl, rfl⟩
  have waits : Advances factoryExec .initial (getInstance aRedisConfig)
      [⟨.readRedisClient, none⟩] (connecting aRedisConfig) .initial := by
    rw [getInstance_eq]
    exact .call read .refl
  have distinct : aRedisClient 0 ≠ aRedisClient 1 := by
    intro same
    cases congrArg RedisClient.identity same
  -- both calls read the field before either of them assigns it
  obtain ⟨one, startsOne, worldOne, waitsZero, othersOne, _⟩ :=
    (factorySystem aRedisConfig).reaches_of_start 0 () (.initial .initial) waits rfl
  have waitsToo : Advances factoryExec one.world (getInstance aRedisConfig)
      [⟨.readRedisClient, none⟩] (connecting aRedisConfig) .initial := by
    rw [worldOne]
    exact waits
  obtain ⟨both, startsBoth, worldBoth, waitsOne, othersBoth, _⟩ :=
    (factorySystem aRedisConfig).reaches_of_start 1 () one waitsToo (othersOne 1 (by decide))
  -- then each of them connects and assigns a client of its own
  obtain ⟨half, answersOne, worldHalf, doneOne, othersHalf, _⟩ :=
    (factorySystem aRedisConfig).reaches_of_advances
      (advances_connecting aRedisConfig .initial
        (rfl : (aRedisClient 0).options = _) List.not_mem_nil) both worldBoth waitsOne
  have new : aRedisClient 1 ∉
      ((Factory.initial.connect (aRedisClient 0)).assign (aRedisClient 0)).connected := by
    simpa [Factory.initial, Factory.connect, Factory.assign] using distinct.symm
  have waitsStill : half.threads 0 = some ((), connecting aRedisConfig) :=
    (othersHalf 0 (by decide)).trans ((othersBoth 0 (by decide)).trans waitsZero)
  obtain ⟨later, answersZero, worldLater, doneZero, othersLater, _⟩ :=
    (factorySystem aRedisConfig).reaches_of_advances
      (advances_connecting aRedisConfig _ (rfl : (aRedisClient 1).options = _) new)
      half worldHalf waitsStill
  refine ⟨later, aRedisClient 0, aRedisClient 1, ?_, doneZero, ?_, distinct, ?_⟩
  · exact ((startsOne.trans startsBoth).trans answersOne).trans answersZero
  · exact (othersLater 1 (by decide)).trans doneOne
  · rw [worldLater]
    rfl

end ServiceMessages.Redis

import ServiceMessages.Interaction.Layering
import ServiceMessages.Interaction.Reaction
import ServiceMessages.Redis.SingleConnection
import ServiceMessages.RemoteContent.Serving

/-!
# The endpoints on their factories of cache clients

Before every command of the cache a request asks the factory of its app for a
client.  Here this is not one step any more: the field of the factory is read, a
client is connected and assigned, and other requests come between.
-/

namespace ServiceMessages.RemoteContent

open Interaction Redis TaskEither

/-- Every endpoint is an app of its own. -/
inductive App where
  | CreateRCConfiguration
  | GetRCConfiguration
  | ListRCConfiguration
  | UpdateRCConfiguration
deriving DecidableEq

def Request.app : Request → App
  | .create .. => .CreateRCConfiguration
  | .get .. => .GetRCConfiguration
  | .list _ => .ListRCConfiguration
  | .update .. => .UpdateRCConfiguration

/-- The apps that create a factory when they are loaded. -/
def App.UsesCache : App → Prop
  | .GetRCConfiguration | .UpdateRCConfiguration => True
  | .CreateRCConfiguration | .ListRCConfiguration => False

/-- The factory of each app.  In the place of an app without one there is a
factory that is never asked for a client, as `interpret_wire_eq` says. -/
abbrev Factories := App → Factory

inductive WiredCommand where
  | factory (app : App) (command : FactoryCommand)
  | service (command : Command)

abbrev WiredCommand.Reply : WiredCommand → Type
  | .factory _ command => command.Reply
  | .service command => command.Reply

abbrev WiredServices : Interface where
  Command := WiredCommand
  Reply := WiredCommand.Reply

/-- The services do not touch the factories, and a factory nothing else. -/
def wiredExec (policy : Semantics Services World) : Semantics WiredServices (World × Factories)
  | (world, factories), .factory app command, reply, (world', factories') =>
      world' = world ∧ ∃ factory, factoryExec (factories app) command reply factory ∧
        factories' = Function.update factories app factory
  | (world, factories), .service command, reply, (world', factories') =>
      exec.restrict policy world command reply world' ∧ factories' = factories

variable (redisConfig : RedisConfig) (app : App)

def lifted {A : Type} (call : Program FactoryInterface A) : Program WiredServices A :=
  call.interpret fun command => .call (I := WiredServices) (.factory app command) .done

/-- What every command of an endpoint is. -/
def wire : (command : Command) → Program WiredServices (Services.Reply command)
  | .getInstance => lifted app (Redis.getInstance redisConfig) |> map fun _ => ()
  | command => .call (I := WiredServices) (.service command) .done

def wiredSystem (commons : Commons) (config : IConfig) (policy : Semantics Services World) :
    System WiredServices (World × Factories) Request (Response Body) where
  exec := wiredExec policy
  drift := fun before after => Drift commons before.1 after.1 ∧ after.2 = before.2
  handler := fun request =>
    (handler commons config request).interpret (wire redisConfig request.app)

variable {redisConfig app} {commons : Commons} {config : IConfig}
  {policy : Semantics Services World}

/-- The policy lets a connection be refused or granted at any time. -/
def ConnectsFreely (policy : Semantics Services World) : Prop :=
  ∀ world reply, policy world .getInstance reply world

/-- Whatever a factory does, it does not touch the rest of the world. -/
theorem linearizes_lifted (free : ConnectsFreely policy)
    (call : TaskEither FactoryInterface JsError RedisClient) :
    Linearizes Prod.fst (exec.restrict policy) (wiredExec policy) .getInstance none
      (lifted app call |> map fun _ => ()) := by
  induction call with
  | done outcome =>
      cases outcome with
      | ok client => exact fun world => ⟨rfl, free world _⟩
      | error error => exact fun world => ⟨rfl, free world _⟩
  | call command next inductionHypothesis =>
      intro world reply world' executed
      exact .inl ⟨executed.1, inductionHypothesis reply⟩

theorem layer_wiredSystem (free : ConnectsFreely policy) :
    Layer (system commons config policy) (wiredSystem redisConfig commons config policy) Prod.fst
      (fun request => wire redisConfig request.app) where
  handler _ := rfl
  drift _ _ drifted := .inl drifted.1
  linearizes request command := by
    cases command with
    | getInstance => exact linearizes_lifted free (Redis.getInstance redisConfig)
    | _ => exact fun _ reply _ executed => .inr ⟨reply, executed.1, rfl⟩

section Runs

variable {Thread : Type} [DecidableEq Thread]
  {current later : Config WiredServices (World × Factories) Thread Request (Response Body)}

/-- Whatever requests do on the factories they share, they do as well when a
connection is one step that is granted or refused: with the same store and the
same cache, and with the same answers. -/
theorem wired_refines (commons : Commons) (config : IConfig) (redisConfig : RedisConfig)
    (free : ConnectsFreely policy) {first : World} {factories : Factories}
    (reaches : (wiredSystem redisConfig commons config policy).Reaches
      (.initial (first, factories)) current) :
    ∃ atomic : Config Services World Thread Request (Response Body),
      (system commons config policy).Reaches (.initial first) atomic ∧
        atomic.world = current.world.1 ∧
        ∀ thread request response, current.Answered thread request response →
          atomic.Answered thread request response :=
  (layer_wiredSystem free).reaches reaches

end Runs

inductive Stage where
  | resting
  | connecting
  | assigning

structure FactoryPhase where
  request : Request
  stage : Stage

namespace FactoryPhase

def Allows (phase : FactoryPhase) (command : WiredCommand) : Prop :=
  match phase.stage, command with
  | .resting, .service _ => True
  | .resting, .factory app .readRedisClient => app = phase.request.app
  | .connecting, .factory app (.connect _) => app = phase.request.app
  | .assigning, .factory app (.assignRedisClient _) => app = phase.request.app
  | _, _ => False

def advance (phase : FactoryPhase) : Event WiredServices → FactoryPhase
  | ⟨.factory _ .readRedisClient, none⟩ => { phase with stage := .connecting }
  | ⟨.factory _ (.connect _), .ok _⟩ => { phase with stage := .assigning }
  | ⟨.factory _ (.connect _), .error _⟩ => { phase with stage := .resting }
  | ⟨.factory _ (.assignRedisClient _), _⟩ => { phase with stage := .resting }
  | _ => phase

theorem request_advance (phase : FactoryPhase) (event : Event WiredServices) :
    (phase.advance event).request = phase.request := by
  unfold advance
  split <;> rfl

variable {phase : FactoryPhase}

theorem own_of_allows {asked : App} {command : FactoryCommand}
    (allowed : phase.Allows (.factory asked command)) : asked = phase.request.app := by
  unfold Allows at allowed
  split at allowed <;> simp_all

theorem resting_of_allows {command : WiredCommand} (allowed : phase.Allows command)
    (reads : ∀ asked, command = .factory phase.request.app asked → asked = .readRedisClient) :
    phase.stage = .resting := by
  unfold Allows at allowed
  split at allowed
  · assumption
  · assumption
  · cases reads _ (by rw [allowed])
  · cases reads _ (by rw [allowed])
  · exact allowed.elim

end FactoryPhase

/-- A request asks only the factory of its app, connects a client only after it
has found none, and then assigns it. -/
def factoryProtocol : Protocol WiredServices Request FactoryPhase where
  initial := fun request => ⟨request, .resting⟩
  allows := FactoryPhase.Allows
  advance := FactoryPhase.advance
  request := FactoryPhase.request
  request_initial := fun _ => rfl
  request_advance := FactoryPhase.request_advance

def Rested {A : Type} (app : App) (phase : FactoryPhase) (_ : A) : Prop :=
  phase.request.app = app ∧ phase.stage = .resting

theorem conforms_wire {phase : FactoryPhase} (own : phase.request.app = app)
    (resting : phase.stage = .resting) (command : Command) :
    factoryProtocol.Conforms (fun _ => True) (Rested app) (wire redisConfig app command)
      phase := by
  cases command with
  | getInstance =>
      simp only [wire, getInstance_eq]
      refine ⟨by simp [factoryProtocol, FactoryPhase.Allows, resting, own], fun reply _ => ?_⟩
      cases reply with
      | some client => exact ⟨own, resting⟩
      | none =>
          refine ⟨own.symm, fun reply _ => ?_⟩
          cases reply with
          | error error => exact ⟨own, rfl⟩
          | ok client => exact ⟨own.symm, fun _ _ => ⟨own, rfl⟩⟩
  | _ =>
      exact ⟨by simp [factoryProtocol, FactoryPhase.Allows, resting],
        fun _ _ => ⟨own, resting⟩⟩

theorem conforms_interpret_wire {A : Type} {phase : FactoryPhase}
    (own : phase.request.app = app) (resting : phase.stage = .resting)
    (program : Program Services A) :
    factoryProtocol.Conforms (fun _ => True) (Rested app)
      (program.interpret (wire redisConfig app)) phase := by
  induction program generalizing phase with
  | done result => exact ⟨own, resting⟩
  | call command next inductionHypothesis =>
      rw [Program.interpret, Protocol.conforms_bind]
      exact (conforms_wire own resting command).mono
        fun phase reply rested => inductionHypothesis reply rested.1 rested.2

theorem conforms_wiredSystem (request : Request) :
    factoryProtocol.Conforms (fun _ => True) (Rested request.app)
      ((wiredSystem redisConfig commons config policy).handler request)
      (factoryProtocol.initial request) := by
  apply conforms_interpret_wire
  · rfl
  · rfl

section Runs

variable {Thread : Type} [DecidableEq Thread]
  {middle later : Config WiredServices (World × Factories) Thread Request (Response Body)}

def GovernsFactory (current : Config WiredServices (World × Factories) Thread Request
    (Response Body)) : Prop :=
  factoryProtocol.Governs (fun _ => True) (fun request => Rested request.app) current

theorem governsFactory_of_reaches {world : World × Factories}
    (reaches : (wiredSystem redisConfig commons config policy).Reaches (.initial world) middle) :
    GovernsFactory middle :=
  ((Protocol.governs_initial _ world).reaches (fun _ _ _ _ _ => trivial) conforms_wiredSystem
    reaches).2

theorem GovernsFactory.resting (governs : GovernsFactory middle)
    (idle : ∀ thread request command next,
      middle.threads thread = some (request, .call (.factory app command) next) →
        command = .readRedisClient)
    {thread : Thread} {phase : FactoryPhase}
    (here : factoryProtocol.phaseOf middle.trace thread = some phase)
    (own : phase.request.app = app) : phase.stage = .resting := by
  cases running : middle.threads thread with
  | none =>
      rw [governs.phaseOf_eq_none running] at here
      cases here
  | some started =>
      obtain ⟨request, program⟩ := started
      obtain ⟨known, knownHere, -, conforms⟩ := governs.conforms running
      rw [here] at knownHere
      cases knownHere
      cases program with
      | done response => exact conforms.2
      | call command next =>
          subst own
          apply FactoryPhase.resting_of_allows conforms.1
          rintro asked rfl
          exact idle thread request asked next running

theorem rests_of_warm {phase : FactoryPhase} {command : WiredCommand}
    {reply : WiredServices.Reply command} {world world' : World × Factories}
    {client : RedisClient} (warm : (world.2 app).redisClient = some client)
    (resting : phase.request.app = app → phase.stage = .resting)
    (allowed : phase.Allows command) (executed : wiredExec policy world command reply world') :
    world'.2 app = world.2 app ∧
      (phase.request.app = app → (phase.advance ⟨command, reply⟩).stage = .resting) := by
  cases command with
  | service command =>
      rw [executed.2]
      exact ⟨rfl, resting⟩
  | factory asked command =>
      obtain ⟨-, factory, effect, changed⟩ := executed
      obtain rfl := FactoryPhase.own_of_allows allowed
      rw [changed]
      by_cases own : phase.request.app = app
      · subst own
        have stage := resting rfl
        cases command with
        | readRedisClient =>
            obtain ⟨read, rfl⟩ := effect
            rw [warm] at read
            subst read
            exact ⟨Function.update_self .., fun _ => stage⟩
        | connect | assignRedisClient => simp [FactoryPhase.Allows, stage] at allowed
      · exact ⟨Function.update_of_ne (Ne.symm own) .., fun here => absurd here own⟩

/-- Once a client is in the field of the factory of an app and none of its
requests is connecting another one, no interleaving ever connects or assigns a
client of that app again. -/
theorem warm_factory_is_shared (commons : Commons) (config : IConfig) (redisConfig : RedisConfig)
    (policy : Semantics Services World) {world : World × Factories}
    (started : (wiredSystem redisConfig commons config policy).Reaches (.initial world) middle)
    {app : App} {client : RedisClient}
    (warm : (middle.world.2 app).redisClient = some client)
    (idle : ∀ thread request command next,
      middle.threads thread = some (request, .call (.factory app command) next) →
        command = .readRedisClient)
    (reaches : (wiredSystem redisConfig commons config policy).Reaches middle later) :
    later.world.2 app = middle.world.2 app := by
  have governs := governsFactory_of_reaches started
  obtain ⟨run, -⟩ := Protocol.Governs.reaches (fun _ _ _ _ _ => trivial) conforms_wiredSystem
    governs reaches
  refine (Protocol.invariant
    (fun world trace => world.2 app = middle.world.2 app ∧
      ∀ thread phase, factoryProtocol.phaseOf trace thread = some phase →
        phase.request.app = app → phase.stage = .resting)
    ?_ ?_ ?_ run ⟨rfl, fun _ _ => governs.resting idle⟩).1
  · rintro world trace starting request ⟨same, resting⟩ _
    refine ⟨same, fun thread phase here own => ?_⟩
    rcases Protocol.phaseOf_start_cases here with ⟨_, rfl⟩ | ⟨_, here⟩
    · rfl
    · exact resting thread phase here own
  · rintro world trace executing before command reply world' ⟨same, resting⟩ known allowed executed
    have stillWarm : (world.2 app).redisClient = some client := by
      rw [same, warm]
    have unchanged := rests_of_warm stillWarm (resting executing before known) allowed executed
    refine ⟨unchanged.1.trans same, fun thread phase here own => ?_⟩
    rcases Protocol.phaseOf_command_cases here with ⟨rfl, other, knownToo, rfl⟩ | ⟨_, here⟩
    · rw [known] at knownToo
      cases knownToo
      exact unchanged.2 ((congrArg Request.app (before.request_advance _)).symm.trans own)
    · exact resting thread phase here own
  · rintro world trace world' ⟨same, resting⟩ drifted
    exact ⟨(congrFun drifted.2 app).trans same, resting⟩

end Runs

section Serial

variable {world world' : World × Factories} {events : List (Event WiredServices)}

theorem runs_lifted {A : Type} {call : Program FactoryInterface A} {result : A}
    (runs : Runs (wiredExec policy) world (lifted app call) events result world') :
    ∃ steps factory, Runs factoryExec (world.2 app) call steps result factory ∧
      world'.2 = Function.update world.2 app factory := by
  induction call generalizing world events with
  | done returned =>
      obtain ⟨-, rfl, rfl⟩ := runs_done_iff.mp runs
      exact ⟨[], _, .done, (Function.update_eq_self ..).symm⟩
  | call command next inductionHypothesis =>
      obtain ⟨reply, middle, _, ⟨-, factory, effect, changed⟩, -, runs⟩ := runs_call_iff.mp runs
      obtain ⟨steps, factory', rest, final⟩ := inductionHypothesis reply runs
      rw [changed, Function.update_self] at rest
      rw [changed, Function.update_idem] at final
      exact ⟨_, factory', .call effect rest, final⟩

theorem factories_of_runs {command : Command} {reply : Services.Reply command}
    (runs : Runs (wiredExec policy) world (wire redisConfig app command) events reply world') :
    world'.2 = world.2 ∨ ∃ steps result factory,
      Runs factoryExec (world.2 app) (Redis.getInstance redisConfig) steps result factory ∧
        world'.2 = Function.update world.2 app factory := by
  cases command with
  | getInstance =>
      rw [wire, TaskEither.map, TaskEither.fold, runs_bind_iff] at runs
      obtain ⟨_, _, middle, result, runs, returns, -⟩ := runs
      obtain ⟨steps, factory, runs, changed⟩ := runs_lifted runs
      have unchanged : world' = middle := by
        cases result <;> exact (runs_done_iff.mp returns).2.2
      rw [unchanged]
      exact .inr ⟨steps, result, factory, runs, changed⟩
  | _ =>
      obtain ⟨_, _, _, executed, -, rest⟩ := runs_call_iff.mp runs
      obtain ⟨-, -, rfl⟩ := runs_done_iff.mp rest
      exact .inl executed.2

theorem connected_of_runs {factory factory' : Factory} {steps : List (Event FactoryInterface)}
    {result : Except JsError RedisClient} (one : factory.connected = factory.redisClient.toList)
    (runs : Runs factoryExec factory (Redis.getInstance redisConfig) steps result factory') :
    factory'.connected = factory'.redisClient.toList := by
  rw [getInstance_eq] at runs
  obtain ⟨found, opening, _, ⟨read, rfl⟩, -, runs⟩ := runs_call_iff.mp runs
  cases found with
  | some client =>
      obtain ⟨-, -, rfl⟩ := runs_done_iff.mp runs
      exact one
  | none =>
      obtain ⟨attempt, opened, _, connects, -, runs⟩ := runs_call_iff.mp runs
      cases attempt with
      | error error =>
          obtain ⟨-, -, rfl⟩ := runs_done_iff.mp runs
          have unchanged : factory' = opening := connects
          rw [unchanged, one]
      | ok client =>
          obtain ⟨-, -, rfl⟩ := connects
          obtain ⟨_, assigned, _, ⟨rfl, -⟩, -, runs⟩ := runs_call_iff.mp runs
          obtain ⟨-, -, rfl⟩ := runs_done_iff.mp runs
          simp [Factory.assign, Factory.connect, one, ← read]

/-- Of every factory, the client in the field is the only one that was ever connected. -/
def OneClient (world : World × Factories) : Prop :=
  ∀ app, (world.2 app).connected = (world.2 app).redisClient.toList

theorem OneClient.runs {command : Command} {reply : Services.Reply command}
    (one : OneClient world)
    (runs : Runs (wiredExec policy) world (wire redisConfig app command) events reply world') :
    OneClient world' := by
  intro other
  rcases factories_of_runs runs with same | ⟨steps, result, factory, runs, changed⟩
  · rw [same]
    exact one other
  · rw [changed]
    by_cases own : other = app
    · subst own
      rw [Function.update_self]
      exact connected_of_runs (one other) runs
    · rw [Function.update_of_ne own]
      exact one other

theorem OneClient.serial {final : World × Factories}
    {history : List (Request × Response Body)} (one : OneClient world)
    (serial : (wiredSystem redisConfig commons config policy).Serial world history final) :
    OneClient final := by
  induction serial with
  | idle => exact one
  | drift drifted _ inductionHypothesis =>
      apply inductionHypothesis
      rwa [OneClient, drifted.2]
  | serve runs _ inductionHypothesis =>
      exact inductionHypothesis (runs.interpret OneClient
        (fun _ _ _ _ _ one served => one.runs served) one)

/-- The requests of an app without a factory are the same on any factory. -/
theorem interpret_wire_eq {request : Request} (uncached : ¬ request.app.UsesCache) (other : App) :
    (handler commons config request).interpret (wire redisConfig request.app) =
      (handler commons config request).interpret (wire redisConfig other) := by
  by_cases passes : request.Passes config
  · have agree : ∀ later command, (lifecycle commons config).request later = request →
        (lifecycle commons config).allows later command →
        wire redisConfig request.app command = wire redisConfig other command := by
      intro later command here allowed
      cases command with
      | getInstance =>
          have here : later.request = request := here
          cases request with
          | get | update => exact absurd trivial uncached
          | create | list => simp [lifecycle, Phase.Allows, here] at allowed
      | _ => rfl
    cases request with
    | get | update => exact absurd trivial uncached
    | create newRCConfiguration caller =>
        exact (conforms_create newRCConfiguration passes).interpret_congr agree
    | list caller => exact (conforms_list passes).interpret_congr agree
  · rw [handler_of_not_passes commons config passes]
    rfl

theorem unchanged_of_runs {A : Type} {asking : App} (distinct : asking ≠ app)
    {program : Program Services A} {result : A}
    (runs : Runs (wiredExec policy) world (program.interpret (wire redisConfig asking)) events
      result world') :
    world'.2 app = world.2 app := by
  refine runs.interpret (fun later => later.2 app = world.2 app) ?_ rfl
  intro command middle events reply later same served
  rcases factories_of_runs served with unchanged | ⟨_, _, factory, -, changed⟩
  · rw [unchanged, same]
  · rw [changed, Function.update_of_ne distinct.symm, same]

theorem unused_of_serial {final : World × Factories}
    {history : List (Request × Response Body)} (unused : ¬ app.UsesCache)
    (serial : (wiredSystem redisConfig commons config policy).Serial world history final) :
    final.2 app = world.2 app := by
  induction serial with
  | idle => rfl
  | drift drifted _ inductionHypothesis =>
      exact inductionHypothesis.trans (congrFun drifted.2 app)
  | @serve _ request _ _ _ _ _ runs _ inductionHypothesis =>
      refine inductionHypothesis.trans ?_
      by_cases own : request.app = app
      · subst own
        have elsewhere : (wiredSystem redisConfig commons config policy).handler request =
            (handler commons config request).interpret (wire redisConfig .GetRCConfiguration) :=
          interpret_wire_eq unused _
        have distinct : App.GetRCConfiguration ≠ request.app := by
          intro same
          rw [← same] at unused
          exact unused trivial
        rw [elsewhere] at runs
        exact unchanged_of_runs distinct runs
      · exact unchanged_of_runs own runs

/-- Requests that are served one after the other share one client for each app,
whatever attempts to connect it have failed. -/
theorem serial_requests_share_one_client (commons : Commons) (config : IConfig)
    (redisConfig : RedisConfig) (policy : Semantics Services World) {first : World}
    {final : World × Factories} {history : List (Request × Response Body)}
    (serial : (wiredSystem redisConfig commons config policy).Serial
      (first, fun _ => .initial) history final) (app : App) :
    (final.2 app).connected = (final.2 app).redisClient.toList ∧
      (¬ app.UsesCache → (final.2 app).connected = []) := by
  have one : OneClient (first, fun _ => Factory.initial) := fun _ => rfl
  refine ⟨one.serial serial app, fun unused => ?_⟩
  rw [unused_of_serial unused serial]
  rfl

end Serial

/-- The factory has the client, or it can still be connected. -/
def Provides (redisConfig : RedisConfig) (factory : Factory) (client : RedisClient) : Prop :=
  factory.redisClient = some client ∨ factory.redisClient = none ∧
    client.options = clientOptions redisConfig ∧ client ∉ factory.connected

theorem runs_wire_getInstance (world : World) {factories : Factories} {client : RedisClient}
    (provides : Provides redisConfig (factories app) client) :
    ∃ events factory, Runs (wiredExec policy) (world, factories)
      (wire redisConfig app .getInstance) events (.ok ())
      (world, Function.update factories app factory) ∧ factory.redisClient = some client := by
  simp only [wire, getInstance_eq]
  rcases provides with warm | ⟨cold, options, new⟩
  · have read : wiredExec policy (world, factories) (.factory app .readRedisClient) (some client)
        (world, Function.update factories app (factories app)) :=
      ⟨rfl, _, ⟨warm.symm, rfl⟩, rfl⟩
    exact ⟨_, _, .call read .done, warm⟩
  · have read : wiredExec policy (world, factories) (.factory app .readRedisClient) none
        (world, factories) :=
      ⟨rfl, _, ⟨cold.symm, rfl⟩, (Function.update_eq_self ..).symm⟩
    have attempt : wiredExec policy (world, factories)
        (.factory app (.connect (clientOptions redisConfig))) (.ok client)
        (world, Function.update factories app ((factories app).connect client)) :=
      ⟨rfl, _, ⟨options, new, rfl⟩, rfl⟩
    have assignment : wiredExec policy
        (world, Function.update factories app ((factories app).connect client))
        (.factory app (.assignRedisClient client)) client
        (world, Function.update factories app
          (((factories app).connect client).assign client)) := by
      refine ⟨rfl, _, ?_, (Function.update_idem ..).symm⟩
      rw [Function.update_self]
      exact ⟨rfl, rfl⟩
    exact ⟨_, _, .call read (.call attempt (.call assignment .done)), rfl⟩

/-- A run in which connections are granted is one on a factory that can connect. -/
theorem runs_wired {A : Type} {program : Program Services A} {world final : World}
    {events : List (Event Services)} {result : A}
    (runs : Runs (exec.restrict policy) world program events result final)
    (granted : ∀ reply, (⟨.getInstance, reply⟩ : Event Services) ∈ events → reply = .ok ())
    (factories : Factories) (client : RedisClient)
    (provides : Provides redisConfig (factories app) client) :
    ∃ wiredEvents factories', Runs (wiredExec policy) (world, factories)
        (program.interpret (wire redisConfig app)) wiredEvents result (final, factories') ∧
      ((factories' app).redisClient = some client ∨ factories' = factories ∧
        ∀ reply, (⟨.getInstance, reply⟩ : Event Services) ∉ events) := by
  induction runs generalizing factories with
  | done => exact ⟨_, factories, .done, .inr ⟨rfl, by simp⟩⟩
  | @call world command next reply world' events result final executed _ inductionHypothesis =>
      have grantedLater : ∀ reply, (⟨.getInstance, reply⟩ : Event Services) ∈ events →
          reply = .ok () := fun reply later => granted reply (List.mem_cons_of_mem _ later)
      cases command with
      | getInstance =>
          obtain rfl := granted reply List.mem_cons_self
          obtain rfl : world' = world := executed.1
          obtain ⟨opening, factory, opens, connected⟩ := runs_wire_getInstance world' provides
          have warm : (Function.update factories app factory app).redisClient = some client := by
            rw [Function.update_self, connected]
          obtain ⟨rest, factories', runs, kept⟩ :=
            inductionHypothesis grantedLater _ (.inl warm)
          refine ⟨_, factories', opens.bind runs, .inl ?_⟩
          rcases kept with still | ⟨rfl, -⟩
          · exact still
          · exact warm
      | _ =>
          obtain ⟨rest, factories', runs, kept⟩ :=
            inductionHypothesis grantedLater factories provides
          exact ⟨_, factories', .call ⟨executed, rfl⟩ runs, kept.imp_right
            fun ⟨same, unasked⟩ => ⟨same, by simp [unasked]⟩⟩

/-- No connection can be made, and the store answers. -/
def unreachableCache : Reaction WiredServices (World × Factories) :=
  fun _ (world, factories) command =>
    match command with
    | .factory app .readRedisClient => ((factories app).redisClient, world, factories)
    | .factory _ (.connect _) => (.error (.new "Connection timeout"), world, factories)
    | .factory app (.assignRedisClient client) =>
        (client, world, Function.update factories app ((factories app).assign client))
    | .service command => (onlyStore world command, world, factories)

theorem executes_unreachableCache (issued : List WiredCommand) (world : World × Factories)
    (command : WiredCommand) :
    wiredExec (fun _ _ _ _ => True) world command (unreachableCache issued world command).1
      (unreachableCache issued world command).2 := by
  obtain ⟨world, factories⟩ := world
  cases command with
  | factory app command =>
      have same := (Function.update_eq_self app factories).symm
      cases command with
      | readRedisClient => exact ⟨rfl, _, ⟨rfl, rfl⟩, same⟩
      | connect options => exact ⟨rfl, _, rfl, same⟩
      | assignRedisClient client => exact ⟨rfl, _, ⟨rfl, rfl⟩, rfl⟩
  | service command => exact ⟨⟨exec_onlyStore world command, trivial⟩, rfl⟩

abbrev aWiredSystem : System WiredServices (World × Factories) Request (Response Body) :=
  wiredSystem aRedisConfig Commons.standard aConfig fun _ _ _ _ => True

theorem wired_refines_sample :
    ∃ (current : Config WiredServices (World × Factories) ℕ Request (Response Body))
      (atomic : Config Services World ℕ Request (Response Body)) (response : Response Body),
      aWiredSystem.Reaches (.initial (aStoredWorld, fun _ => .initial)) current ∧
        atomic.world = current.world.1 ∧
        atomic.Answered 0 (.get aConfigurationId aCaller) response := by
  obtain ⟨events, runs⟩ := Program.runs_serve executes_unreachableCache
    (aWiredSystem.handler (.get aConfigurationId aCaller)) [] (aStoredWorld, fun _ => .initial)
  obtain ⟨current, reaches, -, answered, -⟩ := aWiredSystem.reaches_of_start 0
    (.get aConfigurationId aCaller) (.initial (aStoredWorld, fun _ => .initial)) runs.advances rfl
  obtain ⟨atomic, -, world, answers⟩ := wired_refines Commons.standard aConfig aRedisConfig
    (fun _ _ => trivial) reaches
  exact ⟨current, atomic, _, reaches, world, answers 0 _ _ answered⟩

def someWarmFactories : Factories := fun _ =>
  (Factory.initial.connect (aRedisClient 0)).assign (aRedisClient 0)

theorem warm_factory_is_shared_sample :
    ∃ (later : Config WiredServices (World × Factories) ℕ Request (Response Body))
      (response : Response Body),
      later.Answered 0 (.get aConfigurationId aCaller) response ∧
        later.world.2 .GetRCConfiguration = someWarmFactories .GetRCConfiguration := by
  obtain ⟨events, runs⟩ := Program.runs_serve executes_unreachableCache
    (aWiredSystem.handler (.get aConfigurationId aCaller)) [] (aStoredWorld, someWarmFactories)
  obtain ⟨later, reaches, -, answered, -⟩ := aWiredSystem.reaches_of_start 0
    (.get aConfigurationId aCaller) (.initial (aStoredWorld, someWarmFactories)) runs.advances rfl
  exact ⟨later, _, answered, warm_factory_is_shared Commons.standard aConfig aRedisConfig _ .refl
    rfl (by simp [Config.initial]) reaches⟩

/-- A `get` that fills the cache, and one that is answered from it. -/
theorem serial_requests_share_one_client_sample :
    ∃ final : World × Factories,
      aWiredSystem.Serial (aStoredWorld, fun _ => .initial)
        [(.get aConfigurationId aCaller, .successJson (.configuration
            (configurationResponse Commons.standard aRetrievedRCConfiguration))),
          (.get aConfigurationId aCaller, .successJson (.configuration
            (configurationResponse Commons.standard aRetrievedRCConfiguration)))] final ∧
        (final.2 .GetRCConfiguration).connected = [aRedisClient 0] ∧
        (final.2 .ListRCConfiguration).connected = [] := by
  have permissive : Permissive fun _ _ _ _ => True := fun _ _ _ _ _ => trivial
  have mayGet : MayGet aConfig aCaller := .inr aCaller_authorized
  have fills := runs_get_of_missed (connects permissive aStoredWorld)
    (readsCached permissive aStoredWorld rfl)
    (readsStored permissive aStoredWorld aStoredWorld_stored)
    (caches permissive aStoredWorld _ (Commons.standard.stringify aRetrievedRCConfiguration) _)
    mayGet
  have hits := runs_get_of_hit (connects permissive aCachedWorld)
    (readsCached permissive aCachedWorld (World.cache_setCache_self ..))
    (cachedConfiguration_stringify Commons.standard aRetrievedRCConfiguration)
    mayGet
  obtain ⟨_, factories, filled, asked⟩ := @runs_wired aRedisConfig .GetRCConfiguration _ _ _ _ _ _
    _ fills (by simp) (fun _ => .initial) (aRedisClient 0) (.inr ⟨rfl, rfl, List.not_mem_nil⟩)
  have connected : (factories .GetRCConfiguration).redisClient = some (aRedisClient 0) :=
    asked.resolve_right fun ⟨_, unasked⟩ => unasked (.ok ()) (by simp)
  obtain ⟨_, final, served, askedAgain⟩ := @runs_wired aRedisConfig .GetRCConfiguration _ _ _ _ _ _
    _ hits (by simp) factories (aRedisClient 0) (.inl connected)
  have still : (final .GetRCConfiguration).redisClient = some (aRedisClient 0) :=
    askedAgain.resolve_right fun ⟨_, unasked⟩ => unasked (.ok ()) (by simp)
  have second : aWiredSystem.Serial (aCachedWorld, factories)
      [(.get aConfigurationId aCaller, _)] (aCachedWorld, final) := .serve served .idle
  have serial : aWiredSystem.Serial (aStoredWorld, fun _ => .initial)
      ((.get aConfigurationId aCaller, _) :: _) (aCachedWorld, final) := .serve filled second
  refine ⟨_, serial, ?_, ?_⟩
  · rw [(serial_requests_share_one_client Commons.standard aConfig aRedisConfig _ serial
      .GetRCConfiguration).1, still]
    rfl
  · exact (serial_requests_share_one_client Commons.standard aConfig aRedisConfig _ serial
      .ListRCConfiguration).2 id

end ServiceMessages.RemoteContent

import ServiceMessages.Common.Numbers
import ServiceMessages.Common.Responses
import ServiceMessages.Interaction.Interleaving
import ServiceMessages.Interaction.TaskEither

/-!
# The factory of the cache client

The factory connects a client when it is asked for one the first time and hands
out the same client from then on.  A call reads the field of the factory, and
if there is no client in it, waits for a connection and assigns the field.
Other calls may run while it waits.
-/

namespace ServiceMessages.Redis

open Interaction TaskEither

/-- The part of the configuration the factory uses. -/
structure RedisConfig where
  isProduction : Bool
  REDIS_URL : NonEmptyString
  REDIS_CLUSTER_ENABLED : Option Bool
  REDIS_PASSWORD : Option NonEmptyString
  REDIS_PORT : Option NonEmptyString
  REDIS_TLS_ENABLED : Option Bool

inductive ClientOptions where
  | client (password : Option String) (port : Number) (tls : Bool) (url : String)
  | cluster (legacyMode : Bool) (password : Option String) (rootNodes : List String)
      (useReplicas : Bool)

/-- A client, told apart from all others that were created. -/
structure RedisClient where
  identity : ℕ
  options : ClientOptions

/-- The field of a factory, and the clients that were ever connected for it,
newest first. -/
structure Factory where
  redisClient : Option RedisClient
  connected : List RedisClient

namespace Factory

def initial : Factory where
  redisClient := none
  connected := []

def connect (factory : Factory) (client : RedisClient) : Factory :=
  { factory with connected := client :: factory.connected }

def assign (factory : Factory) (client : RedisClient) : Factory :=
  { factory with redisClient := some client }

end Factory

/-- What a call does between two points where others may run.  An assignment
returns what the field holds right after it. -/
inductive FactoryCommand where
  | readRedisClient
  | connect (options : ClientOptions)
  | assignRedisClient (client : RedisClient)

abbrev FactoryCommand.Reply : FactoryCommand → Type
  | .readRedisClient => Option RedisClient
  | .connect _ => Except JsError RedisClient
  | .assignRedisClient _ => RedisClient

abbrev FactoryInterface : Interface where
  Command := FactoryCommand
  Reply := FactoryCommand.Reply

/-- A connection attempt may succeed with a new client or fail. -/
def factoryExec : Semantics FactoryInterface Factory
  | factory, .readRedisClient, reply, factory' =>
      reply = factory.redisClient ∧ factory' = factory
  | factory, .connect options, reply, factory' =>
      match reply with
      | .ok client => client.options = options ∧ client ∉ factory.connected ∧
          factory' = factory.connect client
      | .error _ => factory' = factory
  | factory, .assignRedisClient client, reply, factory' =>
      factory' = factory.assign client ∧ reply = client

def DEFAULT_REDIS_PORT : String := "6379"

def redisPort (port : Option String) : Number :=
  parseInt (match port with
    | some port => if port = "" then DEFAULT_REDIS_PORT else port
    | none => DEFAULT_REDIS_PORT)

def createSimpleRedisClient (redisUrl : String) (password port : Option String)
    (useTls : Option Bool) : TaskEither FactoryInterface JsError RedisClient :=
  Program.perform (I := FactoryInterface)
    (.connect (.client password (redisPort port) (useTls.getD true) ("redis://" ++ redisUrl)))

def createClusterRedisClient (redisUrl : String) (password port : Option String) :
    TaskEither FactoryInterface JsError RedisClient :=
  Program.perform (I := FactoryInterface)
    (.connect (.cluster true password
      ["redis://" ++ redisUrl ++ ":" ++ (redisPort port).toText] true))

variable (config : RedisConfig)

/-- A cluster is used in production, if it is enabled. -/
def createRedisClient : TaskEither FactoryInterface JsError RedisClient :=
  (Option.guard id config.isProduction
    |>.bind (fun _ => config.REDIS_CLUSTER_ENABLED)
    |>.bind (Option.guard id)
    |>.map (fun _ =>
      createClusterRedisClient config.REDIS_URL.val
        (config.REDIS_PASSWORD.map Subtype.val) (config.REDIS_PORT.map Subtype.val)))
    |>.getD (createSimpleRedisClient config.REDIS_URL.val
      (config.REDIS_PASSWORD.map Subtype.val) (config.REDIS_PORT.map Subtype.val)
      config.REDIS_TLS_ENABLED)

def getInstance : TaskEither FactoryInterface JsError RedisClient :=
  .call (I := FactoryInterface) .readRedisClient fun
    | some redisClient => of redisClient
    | none => createRedisClient config |> chain fun redisClient =>
        .call (I := FactoryInterface) (.assignRedisClient redisClient) of

def factorySystem : System FactoryInterface Factory Unit (Except JsError RedisClient) where
  exec := factoryExec
  drift := fun _ _ => False
  handler := fun _ => getInstance config

def clientOptions : ClientOptions :=
  if config.isProduction = true ∧ config.REDIS_CLUSTER_ENABLED = some true then
    .cluster true (config.REDIS_PASSWORD.map Subtype.val)
      ["redis://" ++ config.REDIS_URL.val ++ ":" ++
        (redisPort (config.REDIS_PORT.map Subtype.val)).toText] true
  else
    .client (config.REDIS_PASSWORD.map Subtype.val)
      (redisPort (config.REDIS_PORT.map Subtype.val)) (config.REDIS_TLS_ENABLED.getD true)
      ("redis://" ++ config.REDIS_URL.val)

theorem createRedisClient_eq :
    createRedisClient config =
      Program.perform (I := FactoryInterface) (.connect (clientOptions config)) := by
  obtain ⟨isProduction, _, enabled, _, _, _⟩ := config
  cases isProduction with
  | false => simp [createRedisClient, createSimpleRedisClient, clientOptions, Option.guard]
  | true =>
      rcases enabled with _ | _ | _ <;>
        simp [createRedisClient, createSimpleRedisClient, createClusterRedisClient, clientOptions,
          Option.guard]

def assigning (client : RedisClient) : TaskEither FactoryInterface JsError RedisClient :=
  .call (I := FactoryInterface) (.assignRedisClient client) of

/-- A call that waits for its connection. -/
def connecting : TaskEither FactoryInterface JsError RedisClient :=
  .call (I := FactoryInterface) (.connect (clientOptions config)) fun
    | .error error => left error
    | .ok client => assigning client

theorem getInstance_eq :
    getInstance config =
      .call (I := FactoryInterface) .readRedisClient fun
        | some redisClient => of redisClient
        | none => connecting config := by
  simp only [getInstance, createRedisClient_eq, Program.perform, chain, fold_call]
  congr 1
  funext reply
  cases reply with
  | some redisClient => rfl
  | none =>
      simp only [connecting]
      congr 1
      funext attempt
      cases attempt <;> rfl

end ServiceMessages.Redis

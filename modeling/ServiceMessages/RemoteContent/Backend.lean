import Mathlib.Data.List.Dedup
import Mathlib.Logic.Function.Basic
import ServiceMessages.Common.Responses
import ServiceMessages.Interaction.Program
import ServiceMessages.RemoteContent.Configuration

/-!
# The services behind the remote-content handlers

The commands the handlers issue, the world they act on, and how the world
reacts.  The document store is the log of its commits: what it holds under an
identifier is the newest commit for it, and the log is the history of all
versions it ever held.
-/

namespace ServiceMessages.RemoteContent

open Interaction

/-- The functions of other packages that the handlers call, with what the
handlers rely on: decoding a serialized document gives that document back, the
public view renames every field, and a brand does not change a text. -/
structure Commons where
  Json : Type
  Errors : Type
  parse : String → Except Errors Json
  decode : Json → Except Errors RetrievedRCConfiguration
  stringify : RetrievedRCConfiguration → String
  retrievedRCConfigurationToPublic : RetrievedRCConfiguration → RCConfigurationPublic
  decodeUlid : String → Except Errors Ulid
  decode_stringify : ∀ configuration,
    (parse (stringify configuration)).bind decode = .ok configuration
  retrievedRCConfigurationToPublic_eq : ∀ configuration,
    retrievedRCConfigurationToPublic configuration = configuration.toRCConfiguration.toPublic
  text_of_decodeUlid : ∀ text configurationId,
    decodeUlid text = .ok configurationId → configurationId.text = text

structure IConfig where
  internalUserId : NonEmptyString
  rcConfigurationCacheTtl : ℕ

structure TelemetryEvent where
  name : String
  configurationId : Ulid
  configurationName : NonEmptyString
  userId : String
  samplingEnabled : String
deriving DecidableEq

inductive Command where
  | getInstance
  | get (key : String)
  | setex (key : String) (expirationInSeconds : ℕ) (value : String)
  | findByConfigurationId (configurationId : Ulid)
  | findAllByConfigurationId (configurationIds : List Ulid)
  | create (configuration : RCConfiguration)
  | upsert (configuration : RCConfiguration)
  | findAllByUserId (userId : String)
  | generateConfigurationId
  | trackEvent (event : TelemetryEvent)
deriving DecidableEq

abbrev Command.Reply : Command → Type
  | .getInstance => Except JsError Unit
  | .get _ => Except JsError (Option String)
  | .setex .. => Except JsError (Option String)
  | .findByConfigurationId _ => Except CosmosErrors (Option RetrievedRCConfiguration)
  | .findAllByConfigurationId _ => Except CosmosErrors (List RetrievedRCConfiguration)
  | .create _ => Except CosmosErrors RetrievedRCConfiguration
  | .upsert _ => Except CosmosErrors RetrievedRCConfiguration
  | .findAllByUserId _ => Except CosmosErrors (List RetrievedUserRCConfiguration)
  | .generateConfigurationId => Ulid
  | .trackEvent _ => Unit

abbrev Services : Interface where
  Command := Command
  Reply := Command.Reply

/-- The document store, as the log of its commits, newest first. -/
structure Store where
  commits : List RetrievedRCConfiguration

namespace Store

def empty : Store where
  commits := []

def findByConfigurationId (store : Store) (configurationId : Ulid) :
    Option RetrievedRCConfiguration :=
  store.commits.find? fun configuration => configuration.configurationId = configurationId

def commit (store : Store) (configuration : RetrievedRCConfiguration) : Store where
  commits := configuration :: store.commits

@[simp]
theorem commits_commit (store : Store) (configuration : RetrievedRCConfiguration) :
    (store.commit configuration).commits = configuration :: store.commits := rfl

@[simp]
theorem findByConfigurationId_empty (configurationId : Ulid) :
    empty.findByConfigurationId configurationId = none := rfl

@[simp]
theorem findByConfigurationId_commit_self (store : Store)
    (configuration : RetrievedRCConfiguration) :
    (store.commit configuration).findByConfigurationId configuration.configurationId =
      some configuration := by
  simp [findByConfigurationId]

theorem findByConfigurationId_commit_of_ne (store : Store)
    {configuration : RetrievedRCConfiguration} {configurationId : Ulid}
    (distinct : configuration.configurationId ≠ configurationId) :
    (store.commit configuration).findByConfigurationId configurationId =
      store.findByConfigurationId configurationId := by
  simp [findByConfigurationId, distinct]

theorem mem_commits_of_findByConfigurationId {store : Store} {configurationId : Ulid}
    {configuration : RetrievedRCConfiguration}
    (found : store.findByConfigurationId configurationId = some configuration) :
    configuration ∈ store.commits :=
  List.mem_of_find?_eq_some found

theorem configurationId_of_findByConfigurationId {store : Store} {configurationId : Ulid}
    {configuration : RetrievedRCConfiguration}
    (found : store.findByConfigurationId configurationId = some configuration) :
    configuration.configurationId = configurationId := by
  simpa using List.find?_some found

theorem findByConfigurationId_eq_none_iff {store : Store} {configurationId : Ulid} :
    store.findByConfigurationId configurationId = none ↔
      ∀ configuration ∈ store.commits, configuration.configurationId ≠ configurationId := by
  simp [findByConfigurationId]

/-- One way to answer a lookup of many identifiers. -/
def findAllByConfigurationId (store : Store) (configurationIds : List Ulid) :
    List RetrievedRCConfiguration :=
  configurationIds.dedup.filterMap store.findByConfigurationId

theorem nodup_findAllByConfigurationId (store : Store) (configurationIds : List Ulid) :
    (store.findAllByConfigurationId configurationIds).Nodup := by
  apply (List.nodup_dedup _).filterMap
  intro first second configuration found foundToo
  rw [← configurationId_of_findByConfigurationId found,
    ← configurationId_of_findByConfigurationId foundToo]

theorem mem_findAllByConfigurationId (store : Store) (configurationIds : List Ulid)
    (configuration : RetrievedRCConfiguration) :
    configuration ∈ store.findAllByConfigurationId configurationIds ↔
      ∃ configurationId ∈ configurationIds,
        store.findByConfigurationId configurationId = some configuration := by
  simp [findAllByConfigurationId]

end Store

structure World where
  store : Store
  cache : String → Option String
  userIndex : String → List RetrievedUserRCConfiguration

namespace World

def empty : World where
  store := .empty
  cache := fun _ => none
  userIndex := fun _ => []

def setCache (world : World) (key : String) (entry : Option String) : World :=
  { world with cache := Function.update world.cache key entry }

def commit (world : World) (configuration : RetrievedRCConfiguration) : World :=
  { world with store := world.store.commit configuration }

@[simp]
theorem store_setCache (world : World) (key : String) (entry : Option String) :
    (world.setCache key entry).store = world.store := rfl

@[simp]
theorem userIndex_setCache (world : World) (key : String) (entry : Option String) :
    (world.setCache key entry).userIndex = world.userIndex := rfl

@[simp]
theorem cache_setCache_self (world : World) (key : String) (entry : Option String) :
    (world.setCache key entry).cache key = entry := by
  simp [setCache]

theorem cache_setCache_of_ne (world : World) {key other : String} (distinct : other ≠ key)
    (entry : Option String) :
    (world.setCache key entry).cache other = world.cache other := by
  simp [setCache, distinct]

@[simp]
theorem setCache_setCache (world : World) (key : String) (first second : Option String) :
    (world.setCache key first).setCache key second = world.setCache key second := by
  simp [setCache]

theorem cache_of_expired {world : World} {key expired entry : String}
    (present : (world.setCache expired none).cache key = some entry) :
    world.cache key = some entry := by
  by_cases same : key = expired
  · subst same
    simp at present
  · rwa [cache_setCache_of_ne _ same] at present

@[simp]
theorem store_commit (world : World) (configuration : RetrievedRCConfiguration) :
    (world.commit configuration).store = world.store.commit configuration := rfl

@[simp]
theorem cache_commit (world : World) (configuration : RetrievedRCConfiguration) :
    (world.commit configuration).cache = world.cache := rfl

@[simp]
theorem userIndex_commit (world : World) (configuration : RetrievedRCConfiguration) :
    (world.commit configuration).userIndex = world.userIndex := rfl

end World

/-- A write of the store: the committed document is the one handed over with
the metadata the store adds to it. -/
def Commits (world : World) (configuration : RCConfiguration)
    (committed : RetrievedRCConfiguration) (world' : World) : Prop :=
  committed.toRCConfiguration = configuration ∧ world' = world.commit committed

/-- Every command may fail.  Reads leave the world as it is, except that an
entry of the cache may turn out to be expired when it is read.  A write that is
acknowledged has taken place; one that fails may have taken place or not.
`create` never commits a document under an identifier that is taken. -/
def exec : Semantics Services World
  | world, .getInstance, _, world' => world' = world
  | world, .get key, reply, world' =>
      (world' = world ∧ ∀ answer, reply = .ok answer → answer = world.cache key) ∨
        world' = world.setCache key none ∧ reply = .ok none
  | world, .setex key _ value, reply, world' =>
      world' = world.setCache key (some value) ∨ world' = world ∧ reply ≠ .ok (some "OK")
  | world, .findByConfigurationId configurationId, reply, world' =>
      world' = world ∧ ∀ answer, reply = .ok answer →
        answer = world.store.findByConfigurationId configurationId
  | world, .findAllByConfigurationId configurationIds, reply, world' =>
      world' = world ∧ ∀ answer, reply = .ok answer →
        answer.Nodup ∧ ∀ configuration, configuration ∈ answer ↔
          ∃ configurationId ∈ configurationIds,
            world.store.findByConfigurationId configurationId = some configuration
  | world, .create configuration, reply, world' =>
      match reply with
      | .ok committed =>
          world.store.findByConfigurationId configuration.configurationId = none ∧
            Commits world configuration committed world'
      | .error _ =>
          world' = world ∨
            world.store.findByConfigurationId configuration.configurationId = none ∧
              ∃ committed, Commits world configuration committed world'
  | world, .upsert configuration, reply, world' =>
      match reply with
      | .ok committed => Commits world configuration committed world'
      | .error _ => world' = world ∨ ∃ committed, Commits world configuration committed world'
  | world, .findAllByUserId userId, reply, world' =>
      world' = world ∧ ∀ answer, reply = .ok answer → answer = world.userIndex userId
  | world, .generateConfigurationId, _, world' => world' = world
  | world, .trackEvent _, _, world' => world' = world

def Succeeds : Event Services → Prop
  | ⟨.getInstance, reply⟩ => reply = .ok ()
  | ⟨.get _, reply⟩ => ∃ answer, reply = .ok answer
  | ⟨.setex .., reply⟩ => reply = .ok (some "OK")
  | ⟨.findByConfigurationId _, reply⟩ => ∃ answer, reply = .ok answer
  | ⟨.findAllByConfigurationId _, reply⟩ => ∃ answer, reply = .ok answer
  | ⟨.create _, reply⟩ => ∃ committed, reply = .ok committed
  | ⟨.upsert _, reply⟩ => ∃ committed, reply = .ok committed
  | ⟨.findAllByUserId _, reply⟩ => ∃ answer, reply = .ok answer
  | ⟨.generateConfigurationId, _⟩ => True
  | ⟨.trackEvent _, _⟩ => True

def unexpired : Semantics Services World :=
  fun world command _ world' =>
    match command with
    | .get _ => world' = world
    | _ => True

theorem total_unexpired : (exec.restrict unexpired).Total := by
  intro world command
  cases command with
  | get key => exact ⟨.ok (world.cache key), world, .inl ⟨rfl, by simp⟩, rfl⟩
  | getInstance => exact ⟨.ok (), world, rfl, trivial⟩
  | setex key seconds value => exact ⟨.ok (some "OK"), _, .inl rfl, trivial⟩
  | generateConfigurationId => exact ⟨⟨""⟩, world, rfl, trivial⟩
  | trackEvent event => exact ⟨(), world, rfl, trivial⟩
  | create configuration => exact ⟨.error ⟨"", "", ""⟩, world, .inl rfl, trivial⟩
  | upsert configuration => exact ⟨.error ⟨"", "", ""⟩, world, .inl rfl, trivial⟩
  | findByConfigurationId configurationId =>
      exact ⟨.ok _, world, ⟨rfl, by rintro answer ⟨⟩; rfl⟩, trivial⟩
  | findAllByConfigurationId configurationIds =>
      exact ⟨.error ⟨"", "", ""⟩, world, ⟨rfl, by simp⟩, trivial⟩
  | findAllByUserId userId => exact ⟨.ok _, world, ⟨rfl, by rintro answer ⟨⟩; rfl⟩, trivial⟩

/-- No command fails. -/
def reliable : Semantics Services World :=
  fun _ command reply _ => Succeeds ⟨command, reply⟩

def Command.IsRedis : Command → Prop
  | .getInstance => True
  | .get _ => True
  | .setex .. => True
  | _ => False

/-- The store never fails, and a command of the cache that fails leaves the
cache as it was. -/
def storeAvailable : Semantics Services World :=
  fun world command reply world' =>
    Succeeds ⟨command, reply⟩ ∨ command.IsRedis ∧ world' = world

/-- All that a command can do to the world. -/
theorem exec_cases {world world' : World} {command : Command} {reply : Services.Reply command}
    (executed : exec world command reply world') :
    world' = world ∨
      (∃ key, command = .get key ∧ world' = world.setCache key none) ∨
      (∃ key seconds value, command = .setex key seconds value ∧
        world' = world.setCache key (some value)) ∨
      ∃ committed : RetrievedRCConfiguration, world' = world.commit committed ∧
        (command = .upsert committed.toRCConfiguration ∨
          command = .create committed.toRCConfiguration ∧
            world.store.findByConfigurationId committed.configurationId = none) := by
  cases command with
  | setex key seconds value =>
      rcases executed with rfl | ⟨rfl, _⟩
      · exact .inr (.inr (.inl ⟨key, seconds, value, rfl, rfl⟩))
      · exact .inl rfl
  | create configuration =>
      cases reply with
      | ok committed =>
          obtain ⟨absent, rfl, rfl⟩ := executed
          exact .inr (.inr (.inr ⟨committed, rfl, .inr ⟨rfl, absent⟩⟩))
      | error error =>
          rcases executed with rfl | ⟨absent, committed, rfl, rfl⟩
          · exact .inl rfl
          · exact .inr (.inr (.inr ⟨committed, rfl, .inr ⟨rfl, absent⟩⟩))
  | upsert configuration =>
      cases reply with
      | ok committed =>
          obtain ⟨rfl, rfl⟩ := executed
          exact .inr (.inr (.inr ⟨committed, rfl, .inl rfl⟩))
      | error error =>
          rcases executed with rfl | ⟨committed, rfl, rfl⟩
          · exact .inl rfl
          · exact .inr (.inr (.inr ⟨committed, rfl, .inl rfl⟩))
  | getInstance => exact .inl executed
  | generateConfigurationId => exact .inl executed
  | trackEvent event => exact .inl executed
  | get key =>
      rcases executed with ⟨rfl, _⟩ | ⟨rfl, _⟩
      · exact .inl rfl
      · exact .inr (.inl ⟨key, rfl, rfl⟩)
  | findByConfigurationId configurationId => exact .inl executed.1
  | findAllByConfigurationId configurationIds => exact .inl executed.1
  | findAllByUserId userId => exact .inl executed.1

/-- What happens to the world by itself: entries of the cache expire, and the
index of the users changes.  An entry of the index that was not there before
is not a valid identifier or names a configuration that the user owns now. -/
inductive Drift (commons : Commons) : World → World → Prop where
  | expire {world} (key : String) : Drift commons world (world.setCache key none)
  | index {world} (userIndex : String → List RetrievedUserRCConfiguration) :
      (∀ userId, ((userIndex userId).map (·.id)).Nodup) →
      (∀ userId, ∀ entry ∈ userIndex userId, entry ∈ world.userIndex userId ∨
        ∀ configurationId, commons.decodeUlid entry.id = .ok configurationId →
          ∃ configuration, world.store.findByConfigurationId configurationId =
            some configuration ∧ configuration.userId = userId) →
      Drift commons world { world with userIndex := userIndex }

theorem Drift.store_eq {commons : Commons} {world world' : World}
    (drifted : Drift commons world world') : world'.store = world.store := by
  cases drifted <;> rfl

theorem Drift.cache_eq {commons : Commons} {world world' : World}
    (drifted : Drift commons world world') {key entry : String}
    (present : world'.cache key = some entry) : world.cache key = some entry := by
  cases drifted with
  | expire expired => exact World.cache_of_expired present
  | index => exact present

end ServiceMessages.RemoteContent

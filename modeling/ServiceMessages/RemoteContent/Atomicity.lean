import ServiceMessages.RemoteContent.Outcomes
import ServiceMessages.RemoteContent.Serving

/-!
# An update happens or does not

All that an update may do, event by event: it commits one document and tracks
it, or it leaves everything as it was.  The cache has no say in which of the
two it is.
-/

namespace ServiceMessages.RemoteContent

open Interaction TaskEither

/-- A write of the store either commits or fails without effect. -/
def atomicWrites : Semantics Services World :=
  fun world command reply world' =>
    match command, reply with
    | .upsert _, .error _ => world' = world
    | _, _ => True

theorem permissive_atomicWrites : Permissive atomicWrites := by
  intro world command reply world' succeeds
  cases command with
  | upsert configuration =>
      obtain ⟨committed, rfl⟩ := succeeds
      trivial
  | _ => trivial

def Command.isStore : Command → Bool
  | .findByConfigurationId _ | .findAllByConfigurationId _ | .create _ | .upsert _
  | .findAllByUserId _ => true
  | .getInstance | .get _ | .setex .. | .generateConfigurationId | .trackEvent _ => false

def tracked? : Event Services → Option TelemetryEvent
  | ⟨.trackEvent event, _⟩ => some event
  | _ => none

/-- A document was committed as an update. -/
def UpsertCommitted (events : List (Event Services)) : Prop :=
  ∃ configuration committed, (⟨.upsert configuration, .ok committed⟩ : Event Services) ∈ events

theorem tracked?_of_isRedis {event : Event Services} (redis : event.command.IsRedis) :
    tracked? event = none := by
  obtain ⟨command, reply⟩ := event
  cases command with
  | trackEvent => exact redis.elim
  | _ => rfl

theorem ensures_setWithExpirationTask_isRedis {semantics : Semantics Services World}
    (world : World) (key value : String) (seconds : ℕ) (errorMsg : Option String) :
    Ensures semantics world (setWithExpirationTask key value seconds errorMsg)
      fun events _ _ => ∀ event ∈ events, event.command.IsRedis := by
  rw [setWithExpirationTask_eq, ensures_call]
  intro client world' _
  cases client with
  | error error => exact ensures_left.mpr (by simp [Command.IsRedis])
  | ok client =>
      rw [ensures_call]
      intro reply final _
      cases reply with
      | error error => exact ensures_left.mpr (by simp [Command.IsRedis])
      | ok answer =>
          by_cases acknowledged : answer = some "OK" <;> simp [acknowledged, Command.IsRedis]

section Update

variable (commons : Commons) (world : World) (newRCConfiguration : NewRCConfigurationPublic)
  (configurationId : Ulid) (caller : Caller)

/-- The runs of an update, with all their events. -/
inductive UpdateRun : List (Event Services) → Response Body → World → Prop where
  | unauthorized :
      ¬ caller.Authorized → UpdateRun [] responseErrorForbiddenNotAuthorized world
  | lookupFailed {e} :
      UpdateRun [⟨.findByConfigurationId configurationId, .error e⟩]
        (.errorInternal ("Something went wrong trying to retrieve the configuration: " ++ e.text))
        world
  | missing :
      UpdateRun [⟨.findByConfigurationId configurationId, .ok none⟩]
        (.errorNotFound "Configuration not found" "Cannot find any remote-content configuration")
        world
  | forbidden {previous : RetrievedRCConfiguration} :
      previous.userId ≠ caller.userId →
      UpdateRun [⟨.findByConfigurationId configurationId, .ok (some previous)⟩]
        responseErrorForbiddenNotAuthorized world
  | upsertFailed {previous : RetrievedRCConfiguration} {configuration e} :
      previous.userId = caller.userId →
      UpdateRun
        [⟨.findByConfigurationId configurationId, .ok (some previous)⟩,
          ⟨.upsert configuration, .error e⟩]
        (.errorInternal ("Something went wrong trying to upsert the configuration: " ++ e.text))
        world
  | updated {previous committed : RetrievedRCConfiguration} {configuration redis final} :
      world.store.findByConfigurationId configurationId = some previous →
      previous.userId = caller.userId →
      committed.toRCConfiguration = makeNewRCConfigurationWithConfigurationId configurationId
        caller.userId newRCConfiguration →
      (∀ event ∈ redis, event.command.IsRedis) →
      final = world.commit committed ∨
        final = (world.commit committed).setCache (redisKey configurationId)
          (some (commons.stringify committed)) →
      UpdateRun
        ([⟨.findByConfigurationId configurationId, .ok (some previous)⟩,
          ⟨.upsert configuration, .ok committed⟩] ++ redis ++
            [⟨.trackEvent (updateEvent committed), ()⟩])
        .successNoContent final

variable {commons world newRCConfiguration configurationId caller}

theorem ensures_updateRun (config : IConfig) :
    Ensures (exec.restrict atomicWrites) world
      (updateRCConfigurationHandler commons config newRCConfiguration configurationId caller)
      (UpdateRun commons world newRCConfiguration configurationId caller) := by
  by_cases authorized : caller.Authorized
  · rw [updateRCConfigurationHandler_of_authorized commons config authorized, ensures_call]
    rintro reply world' ⟨⟨rfl, answers⟩, -⟩
    cases reply with
    | error e => exact ensures_done.mpr .lookupFailed
    | ok answer =>
        have found := answers answer rfl
        cases answer with
        | none => exact ensures_done.mpr .missing
        | some previous =>
            by_cases owner : previous.userId = caller.userId
            · simp only [owner, if_true]
              rw [toUnion_handleUpsert, ensures_call]
              rintro reply world'' ⟨executed, permitted⟩
              cases reply with
              | error e =>
                  obtain rfl : world'' = world' := permitted
                  exact ensures_done.mpr (.upsertFailed owner)
              | ok committed =>
                  obtain ⟨built, rfl⟩ := executed
                  rw [ensures_bind]
                  intro redis outcome final cached
                  have onlyRedis :=
                    ensures_setWithExpirationTask_isRedis _ _ _ _ _ redis outcome final cached
                  have effect :=
                    (ensures_setWithExpirationTask _ _ _ _ _ redis outcome final cached).1
                  rw [configurationId_of_built built] at effect
                  rw [ensures_call]
                  rintro ⟨⟩ last ⟨rfl, -⟩
                  exact ensures_done.mpr
                    (.updated found.symm owner built onlyRedis (effect.imp_left And.left))
            · simp only [owner, if_false]
              exact ensures_done.mpr (.forbidden owner)
  · rw [updateRCConfigurationHandler_of_not_authorized commons config authorized]
    exact ensures_done.mpr (.unauthorized authorized)

theorem UpdateRun.status_eq_204_iff {events : List (Event Services)} {response : Response Body}
    {final : World}
    (run : UpdateRun commons world newRCConfiguration configurationId caller events response
      final) :
    response.status = 204 ↔ UpsertCommitted events := by
  cases run with
  | @updated _ committed configuration =>
      refine iff_of_true rfl ⟨configuration, committed, ?_⟩
      apply List.mem_append_left
      apply List.mem_append_left
      exact List.mem_cons_of_mem _ List.mem_cons_self
  | unauthorized | lookupFailed | missing | forbidden | upsertFailed =>
      simp [Response.status, UpsertCommitted, responseErrorForbiddenNotAuthorized]

theorem UpdateRun.unchanged {events : List (Event Services)} {response : Response Body}
    {final : World}
    (run : UpdateRun commons world newRCConfiguration configurationId caller events response
      final)
    (failed : response.status ≠ 204) : final = world ∧ events.filterMap tracked? = [] := by
  cases run with
  | updated => exact absurd rfl failed
  | unauthorized | lookupFailed | missing | forbidden | upsertFailed => exact ⟨rfl, rfl⟩

def answerTo : List (Event Services) → Response Body
  | ⟨.findByConfigurationId _, .error e⟩ :: _ =>
      .errorInternal ("Something went wrong trying to retrieve the configuration: " ++ e.text)
  | ⟨.findByConfigurationId _, .ok none⟩ :: _ =>
      .errorNotFound "Configuration not found" "Cannot find any remote-content configuration"
  | _ :: ⟨.upsert _, .error e⟩ :: _ =>
      .errorInternal ("Something went wrong trying to upsert the configuration: " ++ e.text)
  | _ :: ⟨.upsert _, .ok _⟩ :: _ => .successNoContent
  | _ => responseErrorForbiddenNotAuthorized

theorem UpdateRun.response_eq_answerTo {events : List (Event Services)} {response : Response Body}
    {final : World}
    (run : UpdateRun commons world newRCConfiguration configurationId caller events response
      final) :
    response = answerTo (events.filter (·.command.isStore)) := by
  cases run <;> simp [answerTo, Command.isStore]

theorem UpdateRun.response_eq {events events' : List (Event Services)}
    {response response' : Response Body} {final final' : World}
    (run : UpdateRun commons world newRCConfiguration configurationId caller events response
      final)
    (run' : UpdateRun commons world newRCConfiguration configurationId caller events' response'
      final')
    (same : events.filter (·.command.isStore) = events'.filter (·.command.isStore)) :
    response = response' := by
  rw [run.response_eq_answerTo, run'.response_eq_answerTo, same]

/-- What a committed update has changed, and what it has tracked. -/
structure Replaced (commons : Commons) (world : World) (configurationId : Ulid)
    (events : List (Event Services)) (final : World)
    (previous committed : RetrievedRCConfiguration) : Prop where
  before : world.store.findByConfigurationId configurationId = some previous
  after : final.store.findByConfigurationId configurationId = some committed
  sameId : committed.id = previous.id
  sameConfigurationId : committed.configurationId = previous.configurationId
  sameOwner : committed.userId = previous.userId
  otherDocuments : ∀ other, other ≠ configurationId →
    final.store.findByConfigurationId other = world.store.findByConfigurationId other
  otherEntries : ∀ key, key ≠ redisKey configurationId → final.cache key = world.cache key
  entry : final.cache (redisKey configurationId) ≠ world.cache (redisKey configurationId) →
    ∃ redisValue, final.cache (redisKey configurationId) = some redisValue ∧
      cachedConfiguration commons redisValue = some committed
  tracked : events.filterMap tracked? =
    [{ name := "remote.content.configuration.updated"
       configurationId := committed.configurationId
       configurationName := committed.name
       userId := committed.userId
       samplingEnabled := "false" }]

/-- With a commit one document has been replaced, and nothing else has changed
but possibly its entry. -/
theorem UpdateRun.replaced {events : List (Event Services)} {response : Response Body}
    {final : World}
    (identified : ∀ stored configuration,
      world.store.findByConfigurationId stored = some configuration →
        configuration.id = configuration.configurationId.text)
    (run : UpdateRun commons world newRCConfiguration configurationId caller events response
      final)
    (succeeded : response.status = 204) :
    ∃ previous committed, Replaced commons world configurationId events final previous
      committed := by
  cases run with
  | unauthorized | lookupFailed | missing | forbidden | upsertFailed => cases succeeded
  | @updated previous committed configuration redis _ found owner built onlyRedis effect =>
      have named := configurationId_of_built built
      have previousNamed := Store.configurationId_of_findByConfigurationId found
      have store : final.store = world.store.commit committed := by
        rcases effect with rfl | rfl <;> rfl
      have silent : redis.filterMap tracked? = [] :=
        List.filterMap_eq_nil_iff.mpr fun event membership =>
          tracked?_of_isRedis (onlyRedis event membership)
      refine ⟨previous, committed, ?_⟩
      constructor
      case before => exact found
      case after => rw [store, ← named, Store.findByConfigurationId_commit_self]
      case sameId =>
        rw [identified _ _ found, previousNamed, built]
        rfl
      case sameConfigurationId => rw [named, previousNamed]
      case sameOwner => rw [userId_of_built built, owner]
      case otherDocuments =>
        intro other distinct
        rw [store]
        exact Store.findByConfigurationId_commit_of_ne _ (by rw [named]; exact distinct.symm)
      case otherEntries =>
        intro key distinct
        rcases effect with rfl | rfl
        · rfl
        · exact World.cache_setCache_of_ne _ distinct _
      case entry =>
        intro changed
        rcases effect with rfl | rfl
        · exact absurd rfl changed
        · exact ⟨_, World.cache_setCache_self _ _ _, cachedConfiguration_stringify _ _⟩
      case tracked =>
        rw [List.filterMap_append, List.filterMap_append, silent]
        rfl

end Update

/-- An update answers 204 exactly when it was committed.  Otherwise nothing has
changed and nothing was tracked.  A commit replaces one document, touches no
entry of the cache but its own, and is tracked once.  Updates that the store
answers alike are answered alike, whatever the cache does. -/
theorem update_all_or_nothing (commons : Commons) (config : IConfig) (world : World)
    (newRCConfiguration : NewRCConfigurationPublic) (configurationId : Ulid) (caller : Caller)
    (identified : ∀ stored configuration,
      world.store.findByConfigurationId stored = some configuration →
        configuration.id = configuration.configurationId.text) :
    (∃ events response final, Runs (exec.restrict atomicWrites) world
      (updateRCConfigurationHandler commons config newRCConfiguration configurationId caller)
      events response final) ∧
    Ensures (exec.restrict atomicWrites) world
      (updateRCConfigurationHandler commons config newRCConfiguration configurationId caller)
      fun events response final =>
        (response.status = 204 ↔ UpsertCommitted events) ∧
        (response.status ≠ 204 → final = world ∧ events.filterMap tracked? = []) ∧
        (response.status = 204 → ∃ previous committed,
          Replaced commons world configurationId events final previous committed) ∧
        ∀ events' response' final', Runs (exec.restrict atomicWrites) world
            (updateRCConfigurationHandler commons config newRCConfiguration configurationId
              caller) events' response' final' →
          events'.filter (·.command.isStore) = events.filter (·.command.isStore) →
            response' = response := by
  constructor
  · have answered := @request_answered commons config _ permissive_atomicWrites world
      (.update newRCConfiguration configurationId caller) (by simp)
    rwa [handler] at answered
  · intro events response final runs
    have run := ensures_updateRun config events response final runs
    refine ⟨run.status_eq_204_iff, run.unchanged, run.replaced identified, ?_⟩
    intro events' response' final' runs' same
    exact (ensures_updateRun config events' response' final' runs').response_eq run same

/-- An update of the sample configuration, from the answer to the document and the event. -/
theorem update_all_or_nothing_sample :
    ∃ events, Runs (exec.restrict atomicWrites) aStoredWorld
      (updateRCConfigurationHandler Commons.standard aConfig
        anUpdatedPublicRemoteContentConfiguration aConfigurationId aCaller)
      events .successNoContent anUpdatedWorld ∧
      UpsertCommitted events ∧
      Replaced Commons.standard aStoredWorld aConfigurationId events anUpdatedWorld
        aRetrievedRCConfiguration anUpdatedRCConfiguration := by
  have identified : ∀ stored configuration,
      aStoredWorld.store.findByConfigurationId stored = some configuration →
        configuration.id = configuration.configurationId.text := by
    intro stored configuration found
    have committed := Store.mem_commits_of_findByConfigurationId found
    obtain rfl : configuration = aRetrievedRCConfiguration := by
      simpa [aStoredWorld, World.empty, Store.empty] using committed
    rfl
  obtain ⟨events, runs⟩ := runs_sample_update permissive_atomicWrites
  obtain ⟨committedIff, -, replaced, -⟩ := (update_all_or_nothing Commons.standard aConfig
    aStoredWorld anUpdatedPublicRemoteContentConfiguration aConfigurationId aCaller
    identified).2 events _ _ runs
  obtain ⟨previous, committed, effect⟩ := replaced rfl
  obtain rfl : aRetrievedRCConfiguration = previous :=
    Option.some.inj (aStoredWorld_stored.symm.trans effect.before)
  obtain rfl : anUpdatedRCConfiguration = committed :=
    Option.some.inj (anUpdatedWorld_stored.symm.trans effect.after)
  exact ⟨events, runs, committedIff.mp rfl, effect⟩

end ServiceMessages.RemoteContent

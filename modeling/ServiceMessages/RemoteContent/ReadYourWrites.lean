import ServiceMessages.RemoteContent.Outcomes
import ServiceMessages.RemoteContent.Serving

/-!
# Reading what was written

Requests that are served one after the other, over a store that never fails
and a cache that may.
-/

namespace ServiceMessages.RemoteContent

open Interaction TaskEither

variable {commons : Commons} {config : IConfig} {policy : Semantics Services World}

/-- The configuration is stored, and its entry in the cache, if usable, is
this version or the stale text. -/
structure Current (commons : Commons) (configuration : RetrievedRCConfiguration)
    (stale : Option String) (world : World) : Prop where
  stored : world.store.findByConfigurationId configuration.configurationId = some configuration
  cached : ∀ redisValue other,
    world.cache (redisKey configuration.configurationId) = some redisValue →
      cachedConfiguration commons redisValue = some other →
        other = configuration ∨ stale = some redisValue

def Updates (configurationId : Ulid) (request : Request) (response : Response Body) : Prop :=
  ∃ newRCConfiguration caller,
    request = .update newRCConfiguration configurationId caller ∧ response = .successNoContent

/-- The request is an update of the configuration that may have written it: an
update that fails may have been committed all the same. -/
def MayWrite (configurationId : Ulid) (request : Request) (response : Response Body) : Prop :=
  ∃ newRCConfiguration caller, request = .update newRCConfiguration configurationId caller ∧
    (response.status = 204 ∨ response.status = 500)

variable {configuration : RetrievedRCConfiguration} {stale : Option String}

theorem Current.drift {world world' : World} (current : Current commons configuration stale world)
    (drifted : Drift commons world world') : Current commons configuration stale world' where
  stored := by
    rw [drifted.store_eq]
    exact current.stored
  cached := fun redisValue other present decodes =>
    current.cached redisValue other (drifted.cache_eq present) decodes

theorem Current.expired {world : World} (current : Current commons configuration stale world)
    (key : String) : Current commons configuration stale (world.setCache key none) :=
  current.drift (.expire key)

theorem Current.commit_other {world final : World} {committed : RetrievedRCConfiguration}
    {configurationId : Ulid} (current : Current commons configuration stale world)
    (distinct : configuration.configurationId ≠ committed.configurationId)
    (other : configuration.configurationId ≠ configurationId)
    (effect : final = world.commit committed ∨
      final = (world.commit committed).setCache (redisKey configurationId)
        (some (commons.stringify committed))) :
    Current commons configuration stale final := by
  have committedToo : Current commons configuration stale (world.commit committed) := by
    refine ⟨?_, current.cached⟩
    rw [World.store_commit, Store.findByConfigurationId_commit_of_ne _ distinct.symm]
    exact current.stored
  rcases effect with rfl | rfl
  · exact committedToo
  · refine ⟨committedToo.stored, fun redisValue version present decodes => ?_⟩
    rw [World.cache_setCache_of_ne _ fun same => other (redisKey_injective same)] at present
    exact committedToo.cached redisValue version present decodes

theorem Current.lookup {world final : World} {configurationId : Ulid}
    {events : List (Event Services)} {outcome : Except JsError (Option RetrievedRCConfiguration)}
    (current : Current commons configuration stale world)
    (lookup : LookupOutcome commons policy world configurationId events outcome final) :
    Current commons configuration stale final := by
  have leftAlone : LeftAlone policy world (redisKey configurationId) final →
      Current commons configuration stale final := by
    rintro (rfl | ⟨rfl, _⟩)
    · exact current
    · exact current.expired _
  cases lookup with
  | hit => exact current
  | failed untouched => exact leftAlone untouched
  | absent untouched => exact leftAlone untouched
  | @found found _ stored effect =>
      rcases effect with untouched | rfl
      · exact leftAlone untouched
      · refine ⟨current.stored, fun redisValue other present decodes => ?_⟩
        by_cases same : redisKey configuration.configurationId = redisKey configurationId
        · have named := redisKey_injective same
          rw [← named, current.stored] at stored
          cases stored
          rw [same, World.cache_setCache_self] at present
          cases present
          rw [cachedConfiguration_stringify] at decodes
          exact .inl (Option.some.inj decodes).symm
        · rw [World.cache_setCache_of_ne _ same] at present
          exact current.cached redisValue other present decodes

theorem Current.answer {world final : World} {events : List (Event Services)}
    {answer : Option RetrievedRCConfiguration}
    (current : Current commons configuration stale world)
    (lookup : LookupOutcome commons policy world configuration.configurationId events
      (.ok answer) final) :
    answer = some configuration ∨ ∃ redisValue other, stale = some redisValue ∧
      world.cache (redisKey configuration.configurationId) = some redisValue ∧
      cachedConfiguration commons redisValue = some other ∧ answer = some other := by
  cases lookup with
  | @hit redisValue other present decodes =>
      rcases current.cached redisValue other present decodes with rfl | isStale
      · exact .inl rfl
      · exact .inr ⟨redisValue, other, isStale, present, decodes, rfl⟩
  | absent _ missing =>
      rw [current.stored] at missing
      cases missing
  | found stored _ =>
      rw [current.stored] at stored
      exact .inl stored.symm

section Serve

variable {world final : World} {response : Response Body} {events : List (Event Services)}
  {caller : Caller}

theorem Current.serve_update (current : Current commons configuration stale world)
    {newRCConfiguration : NewRCConfigurationPublic} {configurationId : Ulid}
    (authorized : caller.Authorized)
    (runs : Runs (exec.restrict policy) world
      (handler commons config (.update newRCConfiguration configurationId caller)) events response
      final)
    (distinct : response.status = 204 ∨ response.status = 500 →
      configuration.configurationId ≠ configurationId) :
    Current commons configuration stale final := by
  cases ensures_updateRCConfigurationHandler world newRCConfiguration configurationId
    authorized _ _ _ runs with
  | lookupFailed | missing | forbidden => exact current
  | upsertFailed _ _ _ effect =>
      rcases effect with rfl | ⟨committed, built, rfl⟩
      · exact current
      · have named := configurationId_of_built built
        exact current.commit_other (by rw [named]; exact distinct (.inr rfl))
          (distinct (.inr rfl)) (.inl rfl)
  | @updated _ committed _ _ _ built effect _ =>
      have named := configurationId_of_built built
      exact current.commit_other (by rw [named]; exact distinct (.inl rfl))
        (distinct (.inl rfl)) (effect.imp_left And.left)

theorem Current.serve_create (current : Current commons configuration stale world)
    {newRCConfiguration : NewRCConfigurationPublic} (authorized : caller.Authorized)
    (runs : Runs (exec.restrict policy) world
      (handler commons config (.create newRCConfiguration caller)) events response final) :
    Current commons configuration stale final := by
  have written : ∀ {committed : RetrievedRCConfiguration},
      world.store.findByConfigurationId committed.configurationId = none →
        Current commons configuration stale (world.commit committed) := by
    intro committed absent
    have distinct : configuration.configurationId ≠ committed.configurationId := by
      intro same
      rw [← same, current.stored] at absent
      cases absent
    exact current.commit_other distinct distinct (.inl rfl)
  cases ensures_createRCConfigurationHandler world newRCConfiguration authorized _ _ _ runs with
  | failed _ _ effect =>
      rcases effect with rfl | ⟨committed, built, absent, rfl⟩
      · exact current
      · apply written
        rw [built]
        exact absent
  | created _ absent built =>
      apply written
      rw [built]
      exact absent

/-- A request that cannot have written a configuration keeps it current. -/
theorem Current.serve {request : Request} (current : Current commons configuration stale world)
    (runs : Runs (exec.restrict policy) world (handler commons config request) events response
      final)
    (unwritten : ¬ MayWrite configuration.configurationId request response) :
    Current commons configuration stale final := by
  by_cases passes : request.Passes config
  · cases request with
    | get configurationId caller =>
        obtain ⟨_, lookup, _⟩ :=
          ensures_getRCConfigurationHandler world configurationId passes _ _ _ runs
        exact current.lookup lookup
    | update newRCConfiguration configurationId caller =>
        apply current.serve_update passes runs
        rintro written rfl
        exact unwritten ⟨_, _, rfl, written⟩
    | create newRCConfiguration caller => exact current.serve_create passes runs
    | list caller =>
        obtain ⟨rfl, _⟩ := ensures_listRCConfigurationHandler world passes _ _ _ runs
        exact current
  · rw [handler_of_not_passes commons config passes] at runs
    obtain ⟨-, -, rfl⟩ := runs_done_iff.mp runs
    exact current

end Serve

theorem Current.serial {world final : World} {history : List (Request × Response Body)}
    (current : Current commons configuration stale world)
    (serial : (system commons config policy).Serial world history final)
    (unwritten : ∀ entry ∈ history,
      ¬ MayWrite configuration.configurationId entry.1 entry.2) :
    Current commons configuration stale final := by
  induction serial with
  | idle => exact current
  | drift drifted _ inductionHypothesis =>
      exact inductionHypothesis (current.drift drifted) unwritten
  | serve runs _ inductionHypothesis =>
      apply inductionHypothesis (current.serve runs (unwritten _ List.mem_cons_self))
      exact fun entry older => unwritten entry (List.mem_cons_of_mem _ older)

theorem updates_of_mayWrite {world final : World} {request : Request} {response : Response Body}
    {configurationId : Ulid} {events : List (Event Services)}
    (runs : Runs (exec.restrict storeAvailable) world (handler commons config request) events
      response final)
    (mayWrite : MayWrite configurationId request response) :
    Updates configurationId request response := by
  obtain ⟨newRCConfiguration, caller, rfl, status⟩ := mayWrite
  refine ⟨newRCConfiguration, caller, rfl, ?_⟩
  have authorized : caller.Authorized := by
    apply passes_of_runs runs
    intro refused
    simp [refused, Response.status, responseErrorForbiddenNotAuthorized] at status
  cases ensures_updateRCConfigurationHandler world newRCConfiguration configurationId
    authorized _ _ _ runs with
  | lookupFailed failed => simp [storeAvailable, Succeeds, Command.IsRedis] at failed
  | upsertFailed _ _ failed => simp [storeAvailable, Succeeds, Command.IsRedis] at failed
  | missing => simp [Response.status] at status
  | forbidden => simp [Response.status, responseErrorForbiddenNotAuthorized] at status
  | updated => rfl

theorem unwritten_of_not_updates {world final : World} {history : List (Request × Response Body)}
    {configurationId : Ulid}
    (serial : (system commons config storeAvailable).Serial world history final)
    (notUpdated : ∀ entry ∈ history, ¬ Updates configurationId entry.1 entry.2) :
    ∀ entry ∈ history, ¬ MayWrite configurationId entry.1 entry.2 := by
  induction serial with
  | idle => simp
  | drift _ _ inductionHypothesis => exact inductionHypothesis notUpdated
  | serve runs _ inductionHypothesis =>
      rw [List.forall_mem_cons] at notUpdated ⊢
      exact ⟨fun mayWrite => notUpdated.1 (updates_of_mayWrite runs mayWrite),
        inductionHypothesis notUpdated.2⟩

/-- The document a successful update wrote is current.  Only an entry that was
there before, and only if the write of the cache was refused, is stale. -/
theorem Current.of_updated {world written : World}
    {newRCConfiguration : NewRCConfigurationPublic} {configurationId : Ulid} {caller : Caller}
    {events : List (Event Services)}
    (updates : Runs (exec.restrict policy) world
      (handler commons config (.update newRCConfiguration configurationId caller)) events
      .successNoContent written) :
    ∃ (configuration : RetrievedRCConfiguration) (stale : Option String),
      configuration.toRCConfiguration = makeNewRCConfigurationWithConfigurationId configurationId
        caller.userId newRCConfiguration ∧
      Current commons configuration stale written ∧ caller.Authorized ∧
      (stale = none ∨ stale = world.cache (redisKey configurationId) ∧ Refused policy written ∧
        ¬ Acknowledged (redisKey configurationId) events) := by
  have authorized : caller.Authorized := passes_of_runs updates (by nofun)
  cases ensures_updateRCConfigurationHandler world newRCConfiguration configurationId
    authorized _ _ _ updates with
  | @updated _ committed _ _ _ built effect acknowledges =>
      have named := configurationId_of_built built
      have stored : (world.commit committed).store.findByConfigurationId
          committed.configurationId = some committed :=
        Store.findByConfigurationId_commit_self _ _
      have filled : Current commons committed none ((world.commit committed).setCache
          (redisKey configurationId) (some (commons.stringify committed))) := by
        refine ⟨stored, fun redisValue other present decodes => ?_⟩
        rw [named, World.cache_setCache_self] at present
        cases present
        rw [cachedConfiguration_stringify] at decodes
        exact .inl (Option.some.inj decodes).symm
      by_cases acknowledged : Acknowledged (redisKey configurationId) events
      · rw [acknowledges acknowledged]
        exact ⟨committed, none, built, filled, authorized, .inl rfl⟩
      · rcases effect with ⟨rfl, refused⟩ | rfl
        · refine ⟨committed, world.cache (redisKey configurationId), built,
            ⟨stored, fun redisValue other present _ => .inr ?_⟩, authorized,
            .inr ⟨rfl, refused, acknowledged⟩⟩
          rwa [named] at present
        · exact ⟨committed, none, built, filled, authorized, .inl rfl⟩

/-- After a successful update, and until the next one, a successful `get`
answers the configuration written by the update.  The one exception needs an
entry that the update found in the cache, failed to overwrite and is still
there: then the `get` may answer what that entry stands for. -/
theorem read_your_writes (commons : Commons) (config : IConfig)
    {world written later final : World} {newRCConfiguration : NewRCConfigurationPublic}
    {configurationId : Ulid} {caller reader : Caller} {events getEvents : List (Event Services)}
    {history : List (Request × Response Body)} {body : Body}
    (updates : Runs (exec.restrict storeAvailable) world
      (handler commons config (.update newRCConfiguration configurationId caller)) events
      .successNoContent written)
    (serial : (system commons config storeAvailable).Serial written history later)
    (notUpdated : ∀ entry ∈ history, ¬ Updates configurationId entry.1 entry.2)
    (reads : Runs (exec.restrict storeAvailable) later
      (handler commons config (.get configurationId reader)) getEvents (.successJson body) final) :
    ∃ configuration : RetrievedRCConfiguration,
      body = .configuration (configurationResponse commons configuration) ∧
        (configuration.toRCConfiguration = makeNewRCConfigurationWithConfigurationId
            configurationId caller.userId newRCConfiguration ∨
          ¬ Acknowledged (redisKey configurationId) events ∧
            ∃ redisValue, world.cache (redisKey configurationId) = some redisValue ∧
              later.cache (redisKey configurationId) = some redisValue ∧
              cachedConfiguration commons redisValue = some configuration) := by
  obtain ⟨configuration, stale, built, current, _, staleEntry⟩ := Current.of_updated updates
  have named := configurationId_of_built built
  subst named
  have currentLater := current.serial serial (unwritten_of_not_updates serial notUpdated)
  have mayGet : MayGet config reader := passes_of_runs reads (by nofun)
  obtain ⟨outcome, lookup, response⟩ :=
    ensures_getRCConfigurationHandler later _ mayGet _ _ _ reads
  obtain ⟨answered, rfl, bodyEq⟩ := found_of_successJson response
  rcases currentLater.answer lookup with found | ⟨redisValue, other, isStale, present, decodes,
    found⟩
  · cases found
    exact ⟨configuration, bodyEq, .inl built⟩
  · cases found
    rcases staleEntry with fresh | ⟨before, _, unacknowledged⟩
    · rw [fresh] at isStale
      cases isStale
    · exact ⟨_, bodyEq,
        .inr ⟨unacknowledged, redisValue, before.symm.trans isStale, present, decodes⟩⟩

theorem read_your_writes_sample :
    ∃ configuration : RetrievedRCConfiguration,
      Body.configuration (configurationResponse Commons.standard anUpdatedRCConfiguration) =
          .configuration (configurationResponse Commons.standard configuration) ∧
        configuration.toRCConfiguration = makeNewRCConfigurationWithConfigurationId
          aConfigurationId aCaller.userId anUpdatedPublicRemoteContentConfiguration := by
  obtain ⟨_, updates⟩ := runs_sample_update permissive_storeAvailable
  have present : anUpdatedWorld.cache (redisKey aConfigurationId) =
      some (Commons.standard.stringify anUpdatedRCConfiguration) :=
    World.cache_setCache_self _ _ _
  obtain ⟨_, reads⟩ := runs_sample_get permissive_storeAvailable rfl present
  obtain ⟨configuration, bodyEq, built | ⟨_, _, absent, _⟩⟩ :=
    read_your_writes Commons.standard aConfig updates .idle (by simp) reads
  · exact ⟨configuration, bodyEq, built⟩
  · cases absent

/-- The exception occurs: the write of the cache is refused, the update is
answered with success all the same, and the next `get` of the owner answers the
configuration that was replaced. -/
theorem stale_read_after_refused_cache_write :
    ∃ events getEvents written,
      Runs (exec.restrict storeAvailable) aCachedWorld
        (handler Commons.standard aConfig
          (.update anUpdatedPublicRemoteContentConfiguration aConfigurationId aCaller))
        events .successNoContent written ∧
      Runs (exec.restrict storeAvailable) written
        (handler Commons.standard aConfig (.get aConfigurationId aCaller)) getEvents
        (.successJson (.configuration
          (configurationResponse Commons.standard aRetrievedRCConfiguration))) written ∧
      ∀ configuration : RetrievedRCConfiguration,
        configuration.toRCConfiguration = makeNewRCConfigurationWithConfigurationId
          aConfigurationId aCaller.userId anUpdatedPublicRemoteContentConfiguration →
        configurationResponse Commons.standard aRetrievedRCConfiguration ≠
          configurationResponse Commons.standard configuration := by
  have refused : exec.restrict storeAvailable (aCachedWorld.commit anUpdatedRCConfiguration)
      (.setex (redisKey aConfigurationId) aConfig.rcConfigurationCacheTtl
        (Commons.standard.stringify anUpdatedRCConfiguration))
      (.error (.new "Connection is closed.")) (aCachedWorld.commit anUpdatedRCConfiguration) :=
    ⟨.inr ⟨rfl, by simp⟩, .inr ⟨trivial, rfl⟩⟩
  have updates := runs_update permissive_storeAvailable aCaller_authorized aCachedWorld_stored
    rfl anUpdatedPublicRemoteContentConfiguration rfl refused
  have present : (aCachedWorld.commit anUpdatedRCConfiguration).cache
      (redisKey aConfigurationId) =
        some (Commons.standard.stringify aRetrievedRCConfiguration) := aCachedWorld_cached
  obtain ⟨_, reads⟩ := runs_sample_get permissive_storeAvailable rfl present
  refine ⟨_, _, _, updates, reads, ?_⟩
  intro configuration built same
  refine anUpdated_ne (same.trans ?_)
  rw [configurationResponse, configurationResponse,
    Commons.standard.retrievedRCConfigurationToPublic_eq, built]
  rfl

end ServiceMessages.RemoteContent

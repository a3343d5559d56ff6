import ServiceMessages.Interaction.Reaction
import ServiceMessages.RemoteContent.Outcomes
import ServiceMessages.RemoteContent.Ownership

/-!
# Isolation between users

What a user is answered, and what becomes of the user's configurations, does
not depend on the configurations of others: two worlds that differ in nothing
else cannot be told apart by any sequence of requests.
-/

namespace ServiceMessages.RemoteContent

open Interaction TaskEither Protocol

variable {commons : Commons} {config : IConfig}

/-- What becomes of a write of the cache. -/
inductive WriteFate where
  | acknowledged
  | failed (reply : Except JsError (Option String)) (tookPlace : Bool)
      (notAcknowledged : reply ≠ .ok (some "OK"))

/-- All that the services answer by besides what the world holds: which entries
have expired, which commands of the cache fail (given the commands the request
issued before), the identifier that is generated, and what the store adds to
what it is handed. -/
structure Circumstances where
  expired : String → Bool
  connection : List Command → Except JsError Unit
  reading : List Command → Option JsError
  writing : List Command → WriteFate
  generated : Ulid
  metadata : RCConfiguration → Option RetrievedRCConfiguration → CosmosResourceMetadata
  conflict : RCConfiguration → CosmosErrors

namespace Circumstances

variable (circumstances : Circumstances)

def committed (world : World) (configuration : RCConfiguration) : RetrievedRCConfiguration where
  toRCConfiguration := configuration
  toCosmosResourceMetadata := circumstances.metadata configuration
    (world.store.findByConfigurationId configuration.configurationId)

def react : Reaction Services World
  | issued, world, .getInstance => (circumstances.connection issued, world)
  | issued, world, .get key =>
      match circumstances.reading issued with
      | some error => (.error error, world)
      | none => (.ok (world.cache key), world)
  | issued, world, .setex key _ value =>
      match circumstances.writing issued with
      | .acknowledged => (.ok (some "OK"), world.setCache key (some value))
      | .failed reply tookPlace _ =>
          (reply, if tookPlace then world.setCache key (some value) else world)
  | _, world, .findByConfigurationId configurationId =>
      (.ok (world.store.findByConfigurationId configurationId), world)
  | _, world, .findAllByConfigurationId configurationIds =>
      (.ok (world.store.findAllByConfigurationId configurationIds), world)
  | _, world, .create configuration =>
      match world.store.findByConfigurationId configuration.configurationId with
      | some _ => (.error (circumstances.conflict configuration), world)
      | none =>
          (.ok (circumstances.committed world configuration),
            world.commit (circumstances.committed world configuration))
  | _, world, .upsert configuration =>
      (.ok (circumstances.committed world configuration),
        world.commit (circumstances.committed world configuration))
  | _, world, .findAllByUserId userId => (.ok (world.userIndex userId), world)
  | _, world, .generateConfigurationId => (circumstances.generated, world)
  | _, world, .trackEvent _ => ((), world)

end Circumstances

def readsSucceed : Semantics Services World :=
  fun _ command reply _ =>
    match command, reply with
    | .findByConfigurationId _, .error _ => False
    | _, _ => True

/-- What is answered under any circumstances, the services may answer. -/
theorem executes_react (circumstances : Circumstances) (issued : List Command) (world : World)
    (command : Command) :
    exec.restrict readsSucceed world command (circumstances.react issued world command).1
      (circumstances.react issued world command).2 := by
  cases command with
  | getInstance => exact ⟨rfl, trivial⟩
  | generateConfigurationId => exact ⟨rfl, trivial⟩
  | trackEvent event => exact ⟨rfl, trivial⟩
  | upsert configuration => exact ⟨⟨rfl, rfl⟩, trivial⟩
  | get key =>
      refine ⟨?_, trivial⟩
      simp only [Circumstances.react]
      cases circumstances.reading issued with
      | some error => exact .inl ⟨rfl, by simp⟩
      | none => exact .inl ⟨rfl, by rintro answer ⟨⟩; rfl⟩
  | setex key seconds value =>
      refine ⟨?_, trivial⟩
      simp only [Circumstances.react]
      cases circumstances.writing issued with
      | acknowledged => exact .inl rfl
      | failed reply tookPlace notAcknowledged =>
          cases tookPlace with
          | true => exact .inl rfl
          | false => exact .inr ⟨rfl, notAcknowledged⟩
  | create configuration =>
      refine ⟨?_, trivial⟩
      simp only [Circumstances.react]
      cases found : world.store.findByConfigurationId configuration.configurationId with
      | some taken => exact .inl rfl
      | none => exact ⟨found, rfl, rfl⟩
  | findByConfigurationId configurationId =>
      exact ⟨⟨rfl, by rintro answer ⟨⟩; rfl⟩, trivial⟩
  | findAllByConfigurationId configurationIds =>
      refine ⟨⟨rfl, ?_⟩, trivial⟩
      rintro answer ⟨⟩
      exact ⟨Store.nodup_findAllByConfigurationId _ _, Store.mem_findAllByConfigurationId _ _⟩
  | findAllByUserId userId =>
      exact ⟨⟨rfl, by rintro answer ⟨⟩; rfl⟩, trivial⟩

def World.expire (world : World) (expired : String → Bool) : World :=
  { world with cache := fun key => if expired key then none else world.cache key }

theorem World.cache_of_expire {world : World} {expired : String → Bool} {key entry : String}
    (present : (world.expire expired).cache key = some entry) : world.cache key = some entry := by
  by_cases gone : expired key
  · simp [expire, gone] at present
  · simpa [expire, gone] using present

def serveRequest (commons : Commons) (config : IConfig) (world : World)
    (entry : Circumstances × Request) : Response Body × World :=
  (handler commons config entry.2).serve entry.1.react [] (world.expire entry.1.expired)

/-- Every entry of the cache stands for a configuration with the owner of the
stored one. -/
def EntriesNameOwners (commons : Commons) (world : World) : Prop :=
  ∀ configurationId redisValue, world.cache (redisKey configurationId) = some redisValue →
    ∃ configuration stored, cachedConfiguration commons redisValue = some configuration ∧
      world.store.findByConfigurationId configurationId = some stored ∧
      configuration.userId = stored.userId

/-- The same identifiers with the same owners are stored, and what the user
owns is stored and cached alike. -/
structure Equivalent (commons : Commons) (userId : String) (first second : World) : Prop where
  owners : ∀ configurationId,
    (first.store.findByConfigurationId configurationId).map (·.userId) =
      (second.store.findByConfigurationId configurationId).map (·.userId)
  documents : ∀ configurationId configuration,
    first.store.findByConfigurationId configurationId = some configuration →
      configuration.userId = userId →
        second.store.findByConfigurationId configurationId = some configuration ∧
          second.cache (redisKey configurationId) = first.cache (redisKey configurationId)
  firstNamed : EntriesNameOwners commons first
  secondNamed : EntriesNameOwners commons second

section Worlds

variable {userId : String} {first second world : World} {configurationId : Ulid}
  {configuration : RetrievedRCConfiguration}

theorem EntriesNameOwners.setCache (named : EntriesNameOwners commons world)
    (stored : world.store.findByConfigurationId configurationId = some configuration)
    {entry : Option String}
    (written : entry = none ∨ entry = some (commons.stringify configuration)) :
    EntriesNameOwners commons (world.setCache (redisKey configurationId) entry) := by
  intro other redisValue present
  by_cases same : other = configurationId
  · subst same
    rw [World.cache_setCache_self] at present
    rcases written with rfl | rfl
    · cases present
    · cases present
      exact ⟨configuration, configuration, cachedConfiguration_stringify _ _, stored, rfl⟩
  · rw [World.cache_setCache_of_ne _ fun keys => same (redisKey_injective keys)] at present
    exact named other redisValue present

theorem EntriesNameOwners.commit (named : EntriesNameOwners commons world)
    {committed : RetrievedRCConfiguration}
    (agrees : ∀ older, world.store.findByConfigurationId committed.configurationId = some older →
      older.userId = committed.userId) :
    EntriesNameOwners commons (world.commit committed) := by
  intro other redisValue present
  obtain ⟨version, stored, decodes, found, owner⟩ := named other redisValue present
  by_cases same : committed.configurationId = other
  · subst same
    exact ⟨version, committed, decodes, Store.findByConfigurationId_commit_self _ _,
      owner.trans (agrees stored found)⟩
  · exact ⟨version, stored, decodes,
      (Store.findByConfigurationId_commit_of_ne _ same).trans found, owner⟩

theorem EntriesNameOwners.expire (named : EntriesNameOwners commons world)
    (expired : String → Bool) : EntriesNameOwners commons (world.expire expired) :=
  fun other redisValue present => named other redisValue (World.cache_of_expire present)

/-- What the user owns, or nobody owns, is stored and cached alike. -/
theorem Equivalent.alike (equivalent : Equivalent commons userId first second)
    (owned : ∀ configuration,
      first.store.findByConfigurationId configurationId = some configuration →
        configuration.userId = userId) :
    second.store.findByConfigurationId configurationId =
        first.store.findByConfigurationId configurationId ∧
      second.cache (redisKey configurationId) = first.cache (redisKey configurationId) := by
  have owners := equivalent.owners configurationId
  cases found : first.store.findByConfigurationId configurationId with
  | some configuration =>
      exact equivalent.documents configurationId configuration found (owned _ found)
  | none =>
      have missing : second.store.findByConfigurationId configurationId = none := by
        simpa [found] using owners.symm
      have uncached : ∀ world : World, EntriesNameOwners commons world →
          world.store.findByConfigurationId configurationId = none →
            world.cache (redisKey configurationId) = none := by
        intro world named absent
        cases present : world.cache (redisKey configurationId) with
        | none => rfl
        | some redisValue =>
            obtain ⟨_, stored, _, foundToo, _⟩ := named configurationId redisValue present
            rw [absent] at foundToo
            cases foundToo
      rw [uncached second equivalent.secondNamed missing,
        uncached first equivalent.firstNamed found]
      exact ⟨missing, rfl⟩

theorem Equivalent.symm (equivalent : Equivalent commons userId first second) :
    Equivalent commons userId second first where
  owners := fun configurationId => (equivalent.owners configurationId).symm
  documents := by
    intro configurationId configuration found owner
    have owned : ∀ other, first.store.findByConfigurationId configurationId = some other →
        other.userId = userId := by
      intro other foundOther
      have owners := equivalent.owners configurationId
      rw [foundOther, found] at owners
      exact (Option.some.inj owners).trans owner
    obtain ⟨storedAlike, cachedAlike⟩ := equivalent.alike owned
    exact ⟨storedAlike.symm.trans found, cachedAlike.symm⟩
  firstNamed := equivalent.secondNamed
  secondNamed := equivalent.firstNamed

theorem Equivalent.expire (equivalent : Equivalent commons userId first second)
    (expired : String → Bool) :
    Equivalent commons userId (first.expire expired) (second.expire expired) where
  owners := equivalent.owners
  documents := by
    intro configurationId configuration found owner
    obtain ⟨stored, cached⟩ := equivalent.documents configurationId configuration found owner
    refine ⟨stored, ?_⟩
    simp only [World.expire, cached]
  firstNamed := equivalent.firstNamed.expire expired
  secondNamed := equivalent.secondNamed.expire expired

theorem Equivalent.setCache_foreign (equivalent : Equivalent commons userId first second)
    (stored : first.store.findByConfigurationId configurationId = some configuration)
    (foreign : configuration.userId ≠ userId) {entry : Option String}
    (written : entry = none ∨ entry = some (commons.stringify configuration)) :
    Equivalent commons userId (first.setCache (redisKey configurationId) entry) second where
  owners := equivalent.owners
  documents := by
    intro other document found owner
    have distinct : redisKey other ≠ redisKey configurationId := by
      intro same
      rw [redisKey_injective same, World.store_setCache, stored] at found
      cases found
      exact foreign owner
    rw [World.cache_setCache_of_ne _ distinct]
    exact equivalent.documents other document found owner
  firstNamed := equivalent.firstNamed.setCache stored written
  secondNamed := equivalent.secondNamed

theorem Equivalent.setCache_own (equivalent : Equivalent commons userId first second)
    (stored : first.store.findByConfigurationId configurationId = some configuration)
    (owner : configuration.userId = userId) :
    Equivalent commons userId
      (first.setCache (redisKey configurationId) (some (commons.stringify configuration)))
      (second.setCache (redisKey configurationId) (some (commons.stringify configuration))) where
  owners := equivalent.owners
  documents := by
    intro other document found ownerToo
    obtain ⟨storedToo, cached⟩ := equivalent.documents other document found ownerToo
    refine ⟨storedToo, ?_⟩
    by_cases same : redisKey other = redisKey configurationId
    · rw [same, World.cache_setCache_self, World.cache_setCache_self]
    · rw [World.cache_setCache_of_ne _ same, World.cache_setCache_of_ne _ same, cached]
  firstNamed := equivalent.firstNamed.setCache stored (.inr rfl)
  secondNamed := equivalent.secondNamed.setCache
    (equivalent.documents configurationId configuration stored owner).1 (.inr rfl)

theorem Equivalent.commit (equivalent : Equivalent commons userId first second)
    {committed : RetrievedRCConfiguration} (owner : committed.userId = userId)
    (owned : ∀ configuration,
      first.store.findByConfigurationId committed.configurationId = some configuration →
        configuration.userId = userId) :
    Equivalent commons userId (first.commit committed) (second.commit committed) := by
  obtain ⟨storedAlike, cachedAlike⟩ := equivalent.alike owned
  refine ⟨?_, ?_, ?_, ?_⟩
  · intro other
    by_cases same : committed.configurationId = other
    · subst same
      simp
    · simpa [Store.findByConfigurationId_commit_of_ne _ same] using equivalent.owners other
  · intro other document found ownerToo
    by_cases same : committed.configurationId = other
    · subst same
      rw [World.store_commit, Store.findByConfigurationId_commit_self] at found ⊢
      exact ⟨found, cachedAlike⟩
    · rw [World.store_commit, Store.findByConfigurationId_commit_of_ne _ same] at found ⊢
      exact equivalent.documents other document found ownerToo
  · exact equivalent.firstNamed.commit fun older found => (owned older found).trans owner.symm
  · apply equivalent.secondNamed.commit
    intro older found
    rw [storedAlike] at found
    exact (owned older found).trans owner.symm

end Worlds

/-- Two runs of the same request that have been answered alike so far. -/
structure Twin (commons : Commons) (request : Request) (phase : Phase) (first second : World) :
    Prop where
  served : phase.request = request
  equivalent : Equivalent commons request.caller.userId first second
  owned : ∀ configurationId, request.target = some configurationId → ∀ configuration,
    first.store.findByConfigurationId configurationId = some configuration →
      configuration.userId = request.caller.userId
  held : ∀ configuration, phase.pending = some configuration →
    first.store.findByConfigurationId configuration.configurationId = some configuration ∧
      configuration.userId = request.caller.userId

section Twins

variable {request : Request} {phase : Phase} {first second : World}

theorem Twin.quiet (twin : Twin commons request phase first second) {event : Event Services}
    (pending : (phase.advance commons event).pending = phase.pending) :
    Twin commons request (phase.advance commons event) first second where
  served := (Phase.request_advance commons phase event).trans twin.served
  equivalent := twin.equivalent
  owned := twin.owned
  held := by
    rw [pending]
    exact twin.held

theorem target_of_allows_find {requested : Ulid}
    (allowed : phase.Allows commons config (.findByConfigurationId requested)) :
    phase.request.target = some requested := by
  cases requestEq : phase.request <;> simp [Phase.Allows, requestEq] at allowed
  · simp [Request.target, allowed.1]
  · simp [Request.target, allowed.1]

theorem Twin.created (twin : Twin commons request phase first second)
    {configuration : RCConfiguration}
    (allowed : phase.Allows commons config (.create configuration)) :
    request.target = none ∧ configuration.userId = request.caller.userId := by
  rw [← twin.served]
  cases requestEq : phase.request <;> simp [Phase.Allows, requestEq] at allowed
  obtain ⟨ulid, _, rfl⟩ := allowed
  exact ⟨rfl, rfl⟩

theorem Twin.replaced (twin : Twin commons request phase first second)
    {configuration : RCConfiguration}
    (allowed : phase.Allows commons config (.upsert configuration)) :
    request.target = some configuration.configurationId ∧
      configuration.userId = request.caller.userId := by
  obtain ⟨_, caller, _, requestEq, _, _, _, _, owner⟩ := owner_of_allows_upsert allowed
  rw [← twin.served, requestEq]
  exact ⟨rfl, owner⟩

/-- A command is answered alike in both worlds, and the runs stay twins. -/
def ReactsAlike (commons : Commons) (request : Request) (phase : Phase) (first second : World)
    (circumstances : Circumstances) (issued : List Command) (command : Command) : Prop :=
  (circumstances.react issued second command).1 = (circumstances.react issued first command).1 ∧
    Twin commons request
      (phase.advance commons ⟨command, (circumstances.react issued first command).1⟩)
      (circumstances.react issued first command).2 (circumstances.react issued second command).2

section Commands

variable (circumstances : Circumstances) (issued : List Command)

theorem Twin.react_get (twin : Twin commons request phase first second)
    {configurationId : Ulid} (target : request.target = some configurationId) :
    ReactsAlike commons request phase first second circumstances issued
      (.get (redisKey configurationId)) := by
  have alike := (twin.equivalent.alike (twin.owned configurationId target)).2
  have pending : ∀ reply, (phase.advance commons
      ⟨.get (redisKey configurationId), reply⟩).pending = phase.pending := by
    intro reply
    cases usable : usableReply commons reply <;> simp [Phase.advance, usable]
  constructor
  · simp only [Circumstances.react, alike]
    cases circumstances.reading issued <;> rfl
  · simp only [Circumstances.react]
    cases circumstances.reading issued with
    | some error => exact twin.quiet (pending _)
    | none => exact twin.quiet (pending _)

theorem Twin.react_setex (twin : Twin commons request phase first second) (seconds : ℕ)
    {configuration : RetrievedRCConfiguration} (held : phase.pending = some configuration) :
    ReactsAlike commons request phase first second circumstances issued
      (.setex (redisKey configuration.configurationId) seconds
        (commons.stringify configuration)) := by
  obtain ⟨stored, owner⟩ := twin.held configuration held
  have written := twin.equivalent.setCache_own stored owner
  have after : ∀ reply world world',
      Equivalent commons request.caller.userId world world' → world.store = first.store →
        Twin commons request (phase.advance commons ⟨.setex (redisKey
          configuration.configurationId) seconds (commons.stringify configuration), reply⟩)
          world world' := by
    intro reply world world' equivalent store
    exact ⟨twin.served, equivalent, by rw [store]; exact twin.owned, by simp [Phase.advance]⟩
  constructor
  · simp only [Circumstances.react]
    cases circumstances.writing issued <;> rfl
  · simp only [Circumstances.react]
    cases circumstances.writing issued with
    | acknowledged => exact after _ _ _ written rfl
    | failed reply tookPlace notAcknowledged =>
        cases tookPlace with
        | true => exact after _ _ _ written rfl
        | false => exact after _ _ _ twin.equivalent rfl

theorem Twin.react_findByConfigurationId (twin : Twin commons request phase first second)
    {requested : Ulid} (target : request.target = some requested) :
    ReactsAlike commons request phase first second circumstances issued
      (.findByConfigurationId requested) := by
  have owned := twin.owned requested target
  have alike := (twin.equivalent.alike owned).1
  constructor
  · simp only [Circumstances.react, alike]
  · refine ⟨(Phase.request_advance commons phase _).trans twin.served, twin.equivalent,
      twin.owned, ?_⟩
    intro configuration pending
    simp only [Circumstances.react] at pending ⊢
    cases requestEq : phase.request <;> simp only [Phase.advance, requestEq] at pending
    · rw [Store.configurationId_of_findByConfigurationId pending]
      exact ⟨pending, owned configuration pending⟩
    all_goals exact twin.held configuration pending

theorem Twin.react_create (twin : Twin commons request phase first second)
    {configuration : RCConfiguration} (target : request.target = none)
    (owner : configuration.userId = request.caller.userId) :
    ReactsAlike commons request phase first second circumstances issued
      (.create configuration) := by
  have owners := twin.equivalent.owners configuration.configurationId
  cases found : first.store.findByConfigurationId configuration.configurationId with
  | some taken =>
      obtain ⟨takenToo, foundToo⟩ : ∃ takenToo,
          second.store.findByConfigurationId configuration.configurationId = some takenToo := by
        rw [found] at owners
        exact Option.map_eq_some_iff.mp owners.symm |>.imp fun _ known => known.1
      simp only [ReactsAlike, Circumstances.react, found, foundToo]
      exact ⟨trivial, twin.quiet rfl⟩
  | none =>
      have foundToo :
          second.store.findByConfigurationId configuration.configurationId = none := by
        simpa [found] using owners.symm
      have sameCommitted : circumstances.committed second configuration =
          circumstances.committed first configuration := by
        simp only [Circumstances.committed, found, foundToo]
      simp only [ReactsAlike, Circumstances.react, found, foundToo, sameCommitted]
      refine ⟨trivial, twin.served, twin.equivalent.commit owner ?_, by simp [target], ?_⟩
      · intro older impossible
        exact absurd (found.symm.trans impossible) (by simp)
      · intro pending held
        obtain ⟨stored, pendingOwner⟩ := twin.held pending held
        have distinct : configuration.configurationId ≠ pending.configurationId := by
          intro same
          exact absurd (found.symm.trans (same ▸ stored)) (by simp)
        rw [World.store_commit, Store.findByConfigurationId_commit_of_ne _ distinct]
        exact ⟨stored, pendingOwner⟩

theorem Twin.react_upsert (twin : Twin commons request phase first second)
    {configuration : RCConfiguration}
    (target : request.target = some configuration.configurationId)
    (owner : configuration.userId = request.caller.userId) :
    ReactsAlike commons request phase first second circumstances issued
      (.upsert configuration) := by
  have owned := twin.owned _ target
  have sameCommitted : circumstances.committed second configuration =
      circumstances.committed first configuration := by
    simp only [Circumstances.committed, (twin.equivalent.alike owned).1]
  simp only [ReactsAlike, Circumstances.react, sameCommitted]
  refine ⟨trivial, twin.served, twin.equivalent.commit owner owned, ?_, ?_⟩
  · intro configurationId targetToo document found
    obtain rfl := Option.some.inj (target.symm.trans targetToo)
    obtain rfl := Option.some.inj
      ((Store.findByConfigurationId_commit_self _ _).symm.trans found)
    exact owner
  · rintro pending ⟨⟩
    exact ⟨Store.findByConfigurationId_commit_self _ _, owner⟩

/-- Whatever the request does next is answered alike. -/
theorem Twin.react (twin : Twin commons request phase first second)
    (notList : ∀ caller, request ≠ .list caller) {command : Command}
    (allowed : phase.Allows commons config command) :
    ReactsAlike commons request phase first second circumstances issued command := by
  cases command with
  | getInstance | generateConfigurationId | trackEvent => exact ⟨rfl, twin.quiet rfl⟩
  | findAllByConfigurationId | findAllByUserId =>
      cases requestEq : phase.request <;> simp [Phase.Allows, requestEq] at allowed
      exact absurd (twin.served.symm.trans requestEq) (notList _)
  | get key =>
      obtain ⟨configurationId, caller, requestEq, rfl⟩ := request_of_allows_get allowed
      apply twin.react_get
      rw [← twin.served, requestEq, Request.target]
  | setex key seconds value =>
      obtain ⟨configuration, held, rfl, -, rfl⟩ := mayCache_of_allows allowed
      exact twin.react_setex circumstances issued seconds held
  | findByConfigurationId requested =>
      apply twin.react_findByConfigurationId
      rw [← twin.served]
      exact target_of_allows_find allowed
  | create configuration =>
      obtain ⟨target, owner⟩ := twin.created allowed
      exact twin.react_create circumstances issued target owner
  | upsert configuration =>
      obtain ⟨target, owner⟩ := twin.replaced allowed
      exact twin.react_upsert circumstances issued target owner

end Commands

end Twins

section Foreign

variable {world : World} {caller : Caller} {configurationId : Ulid}
  {configuration : RetrievedRCConfiguration}

/-- The response is a refusal, and at most the entry of the configuration has changed. -/
def Refuses (commons : Commons) (world : World) (configurationId : Ulid)
    (configuration : RetrievedRCConfiguration) (response : Response Body) (final : World) : Prop :=
  response = responseErrorForbiddenNotAuthorized ∧
    (final = world ∨ ∃ entry, final = world.setCache (redisKey configurationId) entry ∧
      (entry = none ∨ entry = some (commons.stringify configuration)))

theorem lookupResponse_of_foreign (external : caller.userId ≠ config.internalUserId.val)
    (foreign : configuration.userId ≠ caller.userId) :
    lookupResponse commons config configurationId caller (some configuration) =
      responseErrorForbiddenNotAuthorized := by
  simp only [lookupResponse, Ne.symm external, foreign, or_false, if_false]

theorem refuses_get_of_foreign (mayGet : MayGet config caller)
    (external : caller.userId ≠ config.internalUserId.val)
    (stored : world.store.findByConfigurationId configurationId = some configuration)
    (foreign : configuration.userId ≠ caller.userId) (named : EntriesNameOwners commons world) :
    Ensures (exec.restrict readsSucceed) world
      (handler commons config (.get configurationId caller))
      fun _ => Refuses commons world configurationId configuration := by
  refine (ensures_getRCConfigurationHandler world configurationId mayGet).mono
    fun events response final => ?_
  rintro ⟨outcome, lookup, rfl⟩
  cases lookup with
  | hit present decodes =>
      obtain ⟨version, owned, decodesToo, storedToo, owner⟩ := named _ _ present
      rw [decodes] at decodesToo
      rw [stored] at storedToo
      cases decodesToo
      cases storedToo
      exact ⟨lookupResponse_of_foreign external (by rwa [owner]), .inl rfl⟩
  | failed _ impossible => exact impossible.elim
  | absent _ missing =>
      rw [stored] at missing
      cases missing
  | found storedToo effect =>
      rw [stored] at storedToo
      cases storedToo
      refine ⟨lookupResponse_of_foreign external foreign, ?_⟩
      rcases effect with (unchanged | ⟨expired, _⟩) | filled
      · exact .inl unchanged
      · exact .inr ⟨none, expired, .inl rfl⟩
      · exact .inr ⟨_, filled, .inr rfl⟩

theorem refuses_update_of_foreign (authorized : caller.Authorized)
    (newRCConfiguration : NewRCConfigurationPublic)
    (stored : world.store.findByConfigurationId configurationId = some configuration)
    (foreign : configuration.userId ≠ caller.userId) :
    Ensures (exec.restrict readsSucceed) world
      (handler commons config (.update newRCConfiguration configurationId caller))
      fun _ => Refuses commons world configurationId configuration := by
  refine (ensures_updateRCConfigurationHandler world newRCConfiguration configurationId
    authorized).mono fun events response final outcome => ?_
  cases outcome with
  | lookupFailed impossible => exact impossible.elim
  | missing missing =>
      rw [stored] at missing
      cases missing
  | forbidden => exact ⟨rfl, .inl rfl⟩
  | upsertFailed storedToo owner | updated storedToo owner =>
      rw [stored] at storedToo
      cases storedToo
      exact absurd owner foreign

/-- A `get` or an update of a configuration of somebody else is refused, and
changes at most the entry of that configuration. -/
theorem refuses_of_foreign {request : Request}
    (external : request.caller.userId ≠ config.internalUserId.val)
    (target : request.target = some configurationId)
    (stored : world.store.findByConfigurationId configurationId = some configuration)
    (foreign : configuration.userId ≠ request.caller.userId)
    (named : EntriesNameOwners commons world) :
    Ensures (exec.restrict readsSucceed) world (handler commons config request)
      fun _ => Refuses commons world configurationId configuration := by
  by_cases passes : request.Passes config
  · cases request with
    | get requested caller =>
        obtain rfl := Option.some.inj target
        exact refuses_get_of_foreign passes external stored foreign named
    | update newRCConfiguration requested caller =>
        obtain rfl := Option.some.inj target
        exact refuses_update_of_foreign passes newRCConfiguration stored foreign
    | create | list => cases target
  · rw [handler_of_not_passes commons config passes, ensures_done]
    exact ⟨rfl, .inl rfl⟩

end Foreign

section Requests

variable {first second : World} {userId : String}

theorem Equivalent.foreign (equivalent : Equivalent commons userId first second)
    (circumstances : Circumstances) {request : Request} {configurationId : Ulid}
    (byUser : request.caller.userId = userId)
    (external : userId ≠ config.internalUserId.val)
    (target : request.target = some configurationId)
    {configuration : RetrievedRCConfiguration}
    (stored : first.store.findByConfigurationId configurationId = some configuration)
    (foreign : configuration.userId ≠ userId) :
    ((handler commons config request).serve circumstances.react [] first).1 =
        responseErrorForbiddenNotAuthorized ∧
      Equivalent commons userId
        ((handler commons config request).serve circumstances.react [] first).2 second := by
  subst byUser
  obtain ⟨events, runs⟩ := Program.runs_serve (executes_react circumstances)
    (handler commons config request) [] first
  obtain ⟨refused, effect⟩ := refuses_of_foreign external target stored foreign
    equivalent.firstNamed _ _ _ runs
  refine ⟨refused, ?_⟩
  rcases effect with unchanged | ⟨entry, changed, written⟩
  · rwa [unchanged]
  · rw [changed]
    exact equivalent.setCache_foreign stored foreign written

/-- One request of the user is answered alike in equivalent worlds and keeps
them equivalent. -/
theorem Equivalent.serveRequest (equivalent : Equivalent commons userId first second)
    (external : userId ≠ config.internalUserId.val) (entry : Circumstances × Request)
    (byUser : entry.2.caller.userId = userId) (notList : ∀ caller, entry.2 ≠ .list caller) :
    (serveRequest commons config first entry).1 = (serveRequest commons config second entry).1 ∧
      Equivalent commons userId (serveRequest commons config first entry).2
        (serveRequest commons config second entry).2 := by
  obtain ⟨circumstances, request⟩ := entry
  have expired := equivalent.expire circumstances.expired
  unfold RemoteContent.serveRequest
  by_cases owned : ∀ configurationId, request.target = some configurationId → ∀ configuration,
      (first.expire circumstances.expired).store.findByConfigurationId configurationId =
        some configuration → configuration.userId = userId
  · subst byUser
    have conforms : (lifecycle commons config).Conforms Truthful _ _ _ :=
      conforms_handler (fun _ => id) request
    obtain ⟨response, phase, twin⟩ := conforms.lockstep (Twin commons request)
      (fun phase issued first second command twin allowed => by
        obtain ⟨same, after⟩ := twin.react circumstances issued notList allowed
        have executed := (executes_react circumstances issued first command).1
        exact ⟨same, truthful_of_exec executed, after⟩)
      ⟨rfl, expired, owned, by simp [lifecycle, Phase.initial]⟩ []
    exact ⟨response, twin.equivalent⟩
  · simp only [not_forall, exists_prop] at owned
    obtain ⟨configurationId, target, configuration, stored, foreign⟩ := owned
    obtain ⟨other, storedToo, sameOwner⟩ : ∃ other,
        (second.expire circumstances.expired).store.findByConfigurationId configurationId =
          some other ∧ other.userId = configuration.userId := by
      have owners := expired.owners configurationId
      rw [stored] at owners
      exact Option.map_eq_some_iff.mp owners.symm
    obtain ⟨refused, equivalentFirst⟩ :=
      expired.foreign circumstances byUser external target stored foreign
    obtain ⟨refusedToo, equivalentBoth⟩ := equivalentFirst.symm.foreign circumstances byUser
      external target storedToo (by rwa [sameOwner])
    exact ⟨refused.trans refusedToo.symm, equivalentBoth.symm⟩

/-- Two worlds that agree on the identifiers, on their owners and on what a
user owns give the same responses to every sequence of the user's requests, and
go on to agree. -/
theorem isolation (commons : Commons) (config : IConfig)
    (external : userId ≠ config.internalUserId.val)
    (equivalent : Equivalent commons userId first second)
    (requests : List (Circumstances × Request))
    (byUser : ∀ entry ∈ requests, entry.2.caller.userId = userId)
    (notList : ∀ entry ∈ requests, ∀ caller, entry.2 ≠ .list caller) :
    (serveAll (serveRequest commons config) first requests).1 =
        (serveAll (serveRequest commons config) second requests).1 ∧
      Equivalent commons userId (serveAll (serveRequest commons config) first requests).2
        (serveAll (serveRequest commons config) second requests).2 := by
  have single : ∀ first second (entry : Circumstances × Request),
      (entry.2.caller.userId = userId ∧ ∀ caller, entry.2 ≠ .list caller) →
        Equivalent commons userId first second →
          (serveRequest commons config first entry).1 =
              (serveRequest commons config second entry).1 ∧
            Equivalent commons userId (serveRequest commons config first entry).2
              (serveRequest commons config second entry).2 :=
    fun first second entry admissible related =>
      related.serveRequest external entry admissible.1 admissible.2
  exact unwinding single equivalent fun entry membership =>
    ⟨byUser entry membership, notList entry membership⟩

end Requests

def someCircumstances : Circumstances where
  expired _ := false
  connection _ := .ok ()
  reading _ := none
  writing _ := .acknowledged
  generated := aConfigurationId
  metadata _ _ := aCosmosResourceMetadata
  conflict _ := ⟨"COSMOS_ERROR_RESPONSE", "", ""⟩

def anotherConfigurationId : Ulid := ⟨"01HQRD0YCVDXF1XDW634N87XCG"⟩

def aWorldWithAnother (publicConfiguration : NewRCConfigurationPublic) : World :=
  aStoredWorld.commit
    ⟨makeNewRCConfigurationWithConfigurationId anotherConfigurationId "anotherUserId"
      publicConfiguration, aCosmosResourceMetadata⟩

theorem equivalent_aWorldWithAnother (first second : NewRCConfigurationPublic) :
    Equivalent Commons.standard aCaller.userId (aWorldWithAnother first)
      (aWorldWithAnother second) where
  owners := by
    intro configurationId
    by_cases another : anotherConfigurationId = configurationId
    · subst another
      rfl
    · simp only [aWorldWithAnother, World.store_commit]
      rw [Store.findByConfigurationId_commit_of_ne _ another,
        Store.findByConfigurationId_commit_of_ne _ another]
  documents := by
    intro configurationId configuration found owner
    by_cases another : anotherConfigurationId = configurationId
    · subst another
      obtain rfl := Option.some.inj
        ((Store.findByConfigurationId_commit_self _ _).symm.trans found)
      exact absurd (show "anotherUserId" = aCaller.userId from owner) (by decide)
    · rw [aWorldWithAnother, World.store_commit,
        Store.findByConfigurationId_commit_of_ne _ another] at found ⊢
      exact ⟨found, rfl⟩
  firstNamed := by
    intro configurationId redisValue present
    cases present
  secondNamed := by
    intro configurationId redisValue present
    cases present

theorem isolation_sample :
    (serveAll (serveRequest Commons.standard aConfig)
        (aWorldWithAnother aPublicRemoteContentConfiguration)
        [(someCircumstances, .get anotherConfigurationId aCaller)]).1 =
      (serveAll (serveRequest Commons.standard aConfig)
        (aWorldWithAnother anUpdatedPublicRemoteContentConfiguration)
        [(someCircumstances, .get anotherConfigurationId aCaller)]).1 :=
  (isolation Commons.standard aConfig (by decide)
    (equivalent_aWorldWithAnother _ _) _ (by simp [Request.caller]) (by simp)).1

end ServiceMessages.RemoteContent

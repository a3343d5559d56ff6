import ServiceMessages.RemoteContent.Serving

/-!
# Ownership and authenticity

What links the store, its history, the cache and every half-finished request,
in any interleaving and under any failures.
-/

namespace ServiceMessages.RemoteContent

open Interaction Protocol

variable {commons : Commons} {config : IConfig} {policy : Semantics Services World}

/-- All versions of a configuration ever committed have one owner. -/
def OwnersAgree (store : Store) : Prop :=
  ∀ first ∈ store.commits, ∀ second ∈ store.commits,
    first.configurationId = second.configurationId → first.userId = second.userId

/-- Every entry of the cache is a version that was committed under its identifier. -/
def CacheAuthentic (commons : Commons) (world : World) : Prop :=
  ∀ configurationId redisValue, world.cache (redisKey configurationId) = some redisValue →
    ∃ configuration ∈ world.store.commits, configuration.configurationId = configurationId ∧
      cachedConfiguration commons redisValue = some configuration

/-- What a request goes on with was committed under the identifier it asked for. -/
structure Founded (world : World) (phase : Phase) : Prop where
  lookup : ∀ configuration, phase.lookup = some (some configuration) →
    configuration ∈ world.store.commits ∧
      ∀ configurationId, phase.request.target = some configurationId →
        configuration.configurationId = configurationId
  pending : ∀ configuration, phase.pending = some configuration →
    configuration ∈ world.store.commits

theorem ownersAgree_empty : OwnersAgree .empty := by
  simp [OwnersAgree, Store.empty]

theorem cacheAuthentic_empty : CacheAuthentic commons World.empty := by
  simp [CacheAuthentic, World.empty]

theorem founded_initial (world : World) (request : Request) :
    Founded world (.initial request) where
  lookup := by simp [Phase.initial]
  pending := by simp [Phase.initial]

theorem Founded.mono {world world' : World} {phase : Phase} (founded : Founded world phase)
    (grows : ∀ configuration ∈ world.store.commits, configuration ∈ world'.store.commits) :
    Founded world' phase where
  lookup := fun configuration known =>
    ⟨grows _ (founded.lookup configuration known).1, (founded.lookup configuration known).2⟩
  pending := fun configuration held => grows _ (founded.pending configuration held)

theorem commits_of_exec {world world' : World} {command : Command}
    {reply : Services.Reply command} (executed : exec world command reply world') :
    ∀ configuration ∈ world.store.commits, configuration ∈ world'.store.commits := by
  intro configuration membership
  rcases exec_cases executed with rfl | ⟨_, _, rfl⟩ | ⟨_, _, _, _, rfl⟩ | ⟨committed, rfl, _⟩
  · exact membership
  · exact membership
  · exact membership
  · exact List.mem_cons_of_mem _ membership

theorem ownersAgree_commit {store : Store} {committed : RetrievedRCConfiguration}
    (ownersAgree : OwnersAgree store)
    (agrees : ∀ other ∈ store.commits,
      other.configurationId = committed.configurationId → other.userId = committed.userId) :
    OwnersAgree (store.commit committed) := by
  simp only [OwnersAgree, Store.commits_commit, List.mem_cons]
  rintro first (rfl | older) second (rfl | olderToo) sameId
  · rfl
  · exact (agrees second olderToo sameId.symm).symm
  · exact agrees first older sameId
  · exact ownersAgree first older second olderToo sameId

theorem cacheAuthentic_of_drift {world world' : World}
    (authentic : CacheAuthentic commons world) (drifted : Drift commons world world') :
    CacheAuthentic commons world' := by
  intro configurationId redisValue present
  rw [drifted.store_eq]
  exact authentic configurationId redisValue (drifted.cache_eq present)

theorem mayCache_of_allows {phase : Phase} {key value : String} {seconds : ℕ}
    (allowed : phase.Allows commons config (.setex key seconds value)) :
    phase.MayCache commons config key seconds value := by
  cases requestEq : phase.request <;> simp [Phase.Allows, requestEq] at allowed
  · exact allowed
  · exact allowed

theorem owner_of_allows_upsert {phase : Phase} {configuration : RCConfiguration}
    (allowed : phase.Allows commons config (.upsert configuration)) :
    ∃ newRCConfiguration caller owned,
      phase.request = .update newRCConfiguration configuration.configurationId caller ∧
        caller.Authorized ∧ phase.lookup = some (some owned) ∧
        owned.configurationId = configuration.configurationId ∧
        owned.userId = caller.userId ∧ configuration.userId = caller.userId := by
  cases requestEq : phase.request with
  | update newRCConfiguration configurationId caller =>
      simp only [Phase.Allows, requestEq] at allowed
      obtain ⟨-, authorized, ⟨owned, lookup, named, owner⟩, rfl⟩ := allowed
      exact ⟨newRCConfiguration, caller, owned, rfl, authorized, lookup, named, owner, rfl⟩
  | get => simp [Phase.Allows, requestEq] at allowed
  | create => simp [Phase.Allows, requestEq] at allowed
  | list => simp [Phase.Allows, requestEq] at allowed

theorem request_of_allows_get {phase : Phase} {key : String}
    (allowed : phase.Allows commons config (.get key)) :
    ∃ configurationId caller, phase.request = .get configurationId caller ∧
      key = redisKey configurationId := by
  cases requestEq : phase.request <;> simp [Phase.Allows, requestEq] at allowed
  exact ⟨_, _, rfl, allowed⟩

theorem target_of_allows_create {phase : Phase} {configuration : RCConfiguration}
    (allowed : phase.Allows commons config (.create configuration)) :
    phase.request.target = none := by
  cases requestEq : phase.request <;> simp [Phase.Allows, requestEq] at allowed
  rfl

/-- The cache stays authentic whatever a request that keeps to the protocol does. -/
theorem cacheAuthentic_of_exec {world world' : World} {phase : Phase} {command : Command}
    {reply : Services.Reply command} (authentic : CacheAuthentic commons world)
    (founded : Founded world phase) (allowed : phase.Allows commons config command)
    (executed : exec world command reply world') : CacheAuthentic commons world' := by
  have kept : ∀ configurationId redisValue,
      world.cache (redisKey configurationId) = some redisValue →
        ∃ configuration ∈ world'.store.commits, configuration.configurationId = configurationId ∧
          cachedConfiguration commons redisValue = some configuration := by
    intro configurationId redisValue present
    obtain ⟨configuration, membership, named, decodes⟩ :=
      authentic configurationId redisValue present
    exact ⟨configuration, commits_of_exec executed configuration membership, named, decodes⟩
  rcases exec_cases executed with rfl | ⟨_, _, rfl⟩ | ⟨key, seconds, value, rfl, rfl⟩ |
    ⟨committed, rfl, _⟩
  · exact authentic
  · intro configurationId redisValue present
    exact kept configurationId redisValue (World.cache_of_expired present)
  · obtain ⟨configuration, held, rfl, -, rfl⟩ := mayCache_of_allows allowed
    intro configurationId redisValue present
    by_cases same : configurationId = configuration.configurationId
    · subst same
      rw [World.cache_setCache_self] at present
      cases present
      exact ⟨configuration, founded.pending _ held, rfl, by simp⟩
    · have distinct : redisKey configurationId ≠ redisKey configuration.configurationId :=
        fun equality => same (redisKey_injective equality)
      rw [World.cache_setCache_of_ne _ distinct] at present
      exact kept configurationId redisValue present
  · exact kept

theorem ownersAgree_of_exec {world world' : World} {phase : Phase} {command : Command}
    {reply : Services.Reply command} (ownersAgree : OwnersAgree world.store)
    (founded : Founded world phase) (allowed : phase.Allows commons config command)
    (executed : exec world command reply world') : OwnersAgree world'.store := by
  rcases exec_cases executed with rfl | ⟨_, _, rfl⟩ | ⟨_, _, _, _, rfl⟩ |
    ⟨committed, rfl, replaced | ⟨created, absent⟩⟩
  · exact ownersAgree
  · exact ownersAgree
  · exact ownersAgree
  · subst replaced
    obtain ⟨_, caller, owned, _, _, lookup, named, owner, owner'⟩ :=
      owner_of_allows_upsert allowed
    have membership := (founded.lookup owned lookup).1
    apply ownersAgree_commit ownersAgree
    intro other older sameId
    rw [ownersAgree other older owned membership (sameId.trans named.symm), owner, owner']
  · apply ownersAgree_commit ownersAgree
    intro other older sameId
    exact absurd sameId (Store.findByConfigurationId_eq_none_iff.mp absent other older)

/-- What a request goes on with after a reply was committed under the
identifier it asked for. -/
theorem founded_of_exec {world world' : World} {phase : Phase} {command : Command}
    {reply : Services.Reply command} (authentic : CacheAuthentic commons world)
    (founded : Founded world phase) (allowed : phase.Allows commons config command)
    (executed : exec world command reply world') :
    Founded world' (phase.advance commons ⟨command, reply⟩) := by
  have kept := founded.mono (commits_of_exec executed)
  cases command with
  | get key =>
      cases usable : usableReply commons reply with
      | none => simpa [Phase.advance, usable] using kept
      | some configuration =>
          obtain ⟨configurationId, caller, requestEq, rfl⟩ := request_of_allows_get allowed
          obtain ⟨redisValue, rfl, decodes⟩ := eq_of_usableReply usable
          obtain ⟨rfl, answers⟩ := executed.resolve_right (by simp)
          obtain ⟨committed, membership, named, decodesToo⟩ :=
            authentic configurationId redisValue (answers _ rfl).symm
          rw [decodes] at decodesToo
          cases decodesToo
          refine ⟨?_, by simpa [Phase.advance, usable] using kept.pending⟩
          simp [Phase.advance, usable, requestEq, Request.target, membership, named]
  | findByConfigurationId requested =>
      obtain ⟨rfl, answers⟩ := executed
      cases reply with
      | error error => exact kept
      | ok answer =>
          have found := answers answer rfl
          have learned : ∀ configuration, answer = some configuration →
              configuration ∈ world'.store.commits ∧
                configuration.configurationId = requested := by
            rintro configuration rfl
            exact ⟨Store.mem_commits_of_findByConfigurationId found.symm,
              Store.configurationId_of_findByConfigurationId found.symm⟩
          cases requestEq : phase.request with
          | get configurationId caller =>
              simp only [Phase.Allows, requestEq] at allowed
              obtain ⟨rfl, -⟩ := allowed
              refine ⟨?_, ?_⟩
              · simpa [Phase.advance, requestEq, Request.target] using learned
              · simpa [Phase.advance, requestEq] using
                  fun configuration known => (learned configuration known).1
          | update newRCConfiguration configurationId caller =>
              simp only [Phase.Allows, requestEq] at allowed
              obtain ⟨rfl, -⟩ := allowed
              refine ⟨?_, ?_⟩
              · simpa [Phase.advance, requestEq, Request.target] using learned
              · simpa [Phase.advance, requestEq] using kept.pending
          | create => simp [Phase.Allows, requestEq] at allowed
          | list => simp [Phase.Allows, requestEq] at allowed
  | upsert configuration =>
      cases reply with
      | error error => exact kept
      | ok committed =>
          obtain ⟨rfl, rfl⟩ := executed
          obtain ⟨_, caller, owned, requestEq, _⟩ := owner_of_allows_upsert allowed
          refine ⟨?_, ?_⟩ <;> simp [Phase.advance, requestEq, Request.target]
  | create configuration =>
      cases reply with
      | error error => exact kept
      | ok committed =>
          obtain ⟨_, rfl, rfl⟩ := executed
          have requestEq := target_of_allows_create allowed
          refine ⟨?_, by simpa [Phase.advance] using kept.pending⟩
          simp [Phase.advance, requestEq]
  | setex key seconds value => exact ⟨kept.lookup, by simp [Phase.advance]⟩
  | generateConfigurationId => exact ⟨kept.lookup, kept.pending⟩
  | _ => exact kept

theorem lookup_advance_ne {world world' : World} {phase : Phase} {command : Command}
    {reply : Services.Reply command} (allowed : phase.Allows commons config command)
    (executed : exec world command reply world') {configurationId : Ulid}
    (target : phase.request.target = some configurationId)
    {version : RetrievedRCConfiguration} (membership : version ∈ world.store.commits)
    (named : version.configurationId = configurationId) (before : phase.lookup ≠ some none) :
    (phase.advance commons ⟨command, reply⟩).lookup ≠ some none := by
  cases command with
  | get key => cases usable : usableReply commons reply <;> simp [Phase.advance, usable, before]
  | findByConfigurationId requested =>
      cases reply with
      | error error => exact before
      | ok answer =>
          have found := executed.2 answer rfl
          have present : answer ≠ none := by
            rintro rfl
            have asked : requested = configurationId := by
              cases requestEq : phase.request <;>
                simp_all [Phase.Allows, Request.target]
            subst asked
            exact Store.findByConfigurationId_eq_none_iff.mp found.symm version membership named
          cases requestEq : phase.request <;> simp [Phase.advance, requestEq, present]
  | upsert configuration => cases reply <;> simp [Phase.advance, before]
  | create configuration => cases reply <;> simp [Phase.advance, before]
  | _ => exact before

section Runs

variable {Thread : Type} [DecidableEq Thread]
  {current middle later : Config Services World Thread Request (Response Body)}

/-- The state of the endpoints after any schedule: the cache is authentic, what
every request goes on with is founded, and every request keeps to the protocol. -/
structure Sound (commons : Commons) (config : IConfig)
    (current : Config Services World Thread Request (Response Body)) : Prop where
  authentic : CacheAuthentic commons current.world
  founded : ∀ thread phase,
    (lifecycle commons config).phaseOf current.trace thread = some phase →
      Founded current.world phase
  governs : (lifecycle commons config).Governs Truthful (Ends commons config Truthful) current

theorem sound_initial {world : World} (authentic : CacheAuthentic commons world) :
    Sound commons config
      (Config.initial world : Config Services World Thread Request (Response Body)) where
  authentic := authentic
  founded := by simp [Config.initial]
  governs := governs_initial _ _

theorem permits_truthful :
    ∀ world command reply world', exec world command reply world' →
      policy world command reply world' → Truthful ⟨command, reply⟩ :=
  fun _ _ _ _ executed _ => truthful_of_exec executed

theorem Sound.run (sound : Sound commons config current)
    (reaches : (system commons config policy).Reaches current later) :
    Relation.ReflTransGen ((lifecycle commons config).Step (exec.restrict policy) (Drift commons))
      (current.world, current.trace) (later.world, later.trace) :=
  (run_of_reaches (fun _ => id) permits_truthful sound.governs reaches).1

/-- Runs of the protocol keep the cache authentic and the requests founded. -/
theorem authentic_of_run {moment after : Moment Services World Request Thread}
    (run : Relation.ReflTransGen
      ((lifecycle commons config).Step (exec.restrict policy) (Drift commons)) moment after)
    (initially : CacheAuthentic commons moment.1 ∧ ∀ thread phase,
      (lifecycle commons config).phaseOf moment.2 thread = some phase →
        Founded moment.1 phase) :
    CacheAuthentic commons after.1 ∧ ∀ thread phase,
      (lifecycle commons config).phaseOf after.2 thread = some phase → Founded after.1 phase := by
  refine modular_invariant (CacheAuthentic commons) Founded ?_ ?_ ?_ run initially
  · intro world request _
    exact founded_initial world request
  · intro world phase command reply world' authentic founded allowed executed
    exact ⟨cacheAuthentic_of_exec authentic founded allowed executed.1,
      founded_of_exec authentic founded allowed executed.1,
      fun other known => known.mono (commits_of_exec executed.1)⟩
  · intro world world' authentic drifted
    exact ⟨cacheAuthentic_of_drift authentic drifted, fun other known =>
      known.mono fun configuration membership => by rwa [drifted.store_eq]⟩

theorem Sound.reaches (sound : Sound commons config current)
    (reaches : (system commons config policy).Reaches current later) :
    Sound commons config later := by
  obtain ⟨run, governs⟩ :=
    run_of_reaches (fun _ => id) permits_truthful sound.governs reaches
  obtain ⟨authentic, founded⟩ := authentic_of_run run ⟨sound.authentic, sound.founded⟩
  exact ⟨authentic, founded, governs⟩

theorem Sound.ownersAgree (sound : Sound commons config current)
    (ownersAgree : OwnersAgree current.world.store)
    (reaches : (system commons config policy).Reaches current later) :
    OwnersAgree later.world.store := by
  induction reaches with
  | refl => exact ownersAgree
  | @tail before _ earlier step inductionHypothesis =>
      have soundBefore := sound.reaches earlier
      cases step with
      | start => exact inductionHypothesis
      | drift _ drifted =>
          rw [drifted.store_eq]
          exact inductionHypothesis
      | command thread _ _ _ _ _ running executed =>
          obtain ⟨phase, here, _, allowed, _⟩ := soundBefore.governs.conforms running
          exact ownersAgree_of_exec inductionHypothesis (soundBefore.founded thread phase here)
            allowed executed.1

theorem commits_of_reaches (reaches : (system commons config policy).Reaches current later) :
    ∀ configuration ∈ current.world.store.commits,
      configuration ∈ later.world.store.commits := by
  intro configuration membership
  induction reaches with
  | refl => exact membership
  | tail _ step inductionHypothesis =>
      cases step with
      | start => exact inductionHypothesis
      | command _ _ _ _ _ _ _ executed =>
          exact commits_of_exec executed.1 configuration inductionHypothesis
      | drift _ drifted => simpa [drifted.store_eq] using inductionHypothesis

/-- What is stored under an identifier keeps its owner. -/
theorem Sound.owner_stable (sound : Sound commons config current)
    (ownersAgree : OwnersAgree current.world.store)
    (reaches : (system commons config policy).Reaches current later)
    {configurationId : Ulid} {configuration : RetrievedRCConfiguration}
    (found : current.world.store.findByConfigurationId configurationId = some configuration) :
    ∃ newer, later.world.store.findByConfigurationId configurationId = some newer ∧
      newer.userId = configuration.userId := by
  have membership := commits_of_reaches reaches _
    (Store.mem_commits_of_findByConfigurationId found)
  have named := Store.configurationId_of_findByConfigurationId found
  cases foundLater : later.world.store.findByConfigurationId configurationId with
  | none =>
      exact absurd named (Store.findByConfigurationId_eq_none_iff.mp foundLater _ membership)
  | some newer =>
      have namedToo := Store.configurationId_of_findByConfigurationId foundLater
      exact ⟨newer, rfl, sound.ownersAgree ownersAgree reaches newer
        (Store.mem_commits_of_findByConfigurationId foundLater) configuration membership
        (namedToo.trans named.symm)⟩

theorem Sound.replaced_by_owner (sound : Sound commons config current)
    (ownersAgree : OwnersAgree current.world.store)
    (step : (system commons config policy).Step current later)
    {configurationId : Ulid} {configuration : RetrievedRCConfiguration}
    (found : current.world.store.findByConfigurationId configurationId = some configuration)
    (changed : later.world.store.findByConfigurationId configurationId ≠ some configuration) :
    ∃ thread event newRCConfiguration caller program,
      later.trace = .command thread event :: current.trace ∧
        current.threads thread = some (.update newRCConfiguration configurationId caller, program) ∧
        caller.Authorized ∧ caller.userId = configuration.userId := by
  cases step with
  | start => exact absurd found changed
  | drift _ drifted => exact absurd (by rwa [drifted.store_eq]) changed
  | command thread request command next reply world running executed =>
      obtain ⟨phase, here, served, allowed, _⟩ := sound.governs.conforms running
      rcases exec_cases executed.1 with rfl | ⟨_, _, rfl⟩ | ⟨_, _, _, _, rfl⟩ |
        ⟨committed, rfl, replaced | ⟨created, absent⟩⟩
      · exact absurd found changed
      · exact absurd found changed
      · exact absurd found changed
      · subst replaced
        by_cases same : committed.configurationId = configurationId
        · obtain ⟨newRCConfiguration, caller, owned, requestEq, authorized, lookup, named, owner,
            _⟩ := owner_of_allows_upsert allowed
          have owners := ownersAgree owned
            ((sound.founded thread phase here).lookup owned lookup).1 configuration
            (Store.mem_commits_of_findByConfigurationId found)
            (named.trans (same.trans
              (Store.configurationId_of_findByConfigurationId found).symm))
          have requestIs : request = .update newRCConfiguration configurationId caller := by
            rw [← served, ← same]
            exact requestEq
          subst requestIs
          exact ⟨thread, _, newRCConfiguration, caller, _, rfl, running, authorized,
            owner.symm.trans owners⟩
        · exact absurd ((Store.findByConfigurationId_commit_of_ne _ same).trans found) changed
      · have distinct : committed.configurationId ≠ configurationId := by
          rintro rfl
          rw [found] at absent
          cases absent
        exact absurd ((Store.findByConfigurationId_commit_of_ne _ distinct).trans found) changed

/-- The body of an answered `get` is a version of the requested configuration
that was committed, and belongs to the caller unless the caller is internal. -/
theorem Sound.body_committed (sound : Sound commons config current) {thread : Thread}
    {configurationId : Ulid} {caller : Caller} {body : Body}
    (answered : current.Answered thread (.get configurationId caller) (.successJson body)) :
    ∃ configuration ∈ current.world.store.commits,
      configuration.configurationId = configurationId ∧
        (config.internalUserId.val = caller.userId ∨ configuration.userId = caller.userId) ∧
        body = .configuration (configurationResponse commons configuration) := by
  obtain ⟨phase, here, served, ⟨configuration, lookup, allowed, bodyEq⟩, _⟩ :=
    sound.governs.answered answered
  have founded := (sound.founded thread phase here).lookup configuration lookup
  have named := founded.2 configurationId (by
    change phase.request = _ at served
    simp [served, Request.target])
  exact ⟨configuration, founded.1, named, allowed, bodyEq⟩

theorem Sound.found_of_stored (sound : Sound commons config current)
    (reaches : (system commons config policy).Reaches current later)
    {configurationId : Ulid} {configuration : RetrievedRCConfiguration}
    (found : current.world.store.findByConfigurationId configurationId = some configuration)
    {thread : Thread} (fresh : current.threads thread = none) {phase : Phase}
    (here : (lifecycle commons config).phaseOf later.trace thread = some phase)
    (target : phase.request.target = some configurationId) : phase.lookup ≠ some none := by
  have kept := Protocol.invariant
    (fun world trace =>
      (∃ stored ∈ world.store.commits, stored.configurationId = configurationId) ∧
        ∀ phase, (lifecycle commons config).phaseOf trace thread = some phase →
          phase.request.target = some configurationId → phase.lookup ≠ some none)
    ?_ ?_ ?_ (sound.run reaches) ?_
  · exact kept.2 phase here target
  · rintro world trace started request ⟨stored, knows⟩ _
    refine ⟨stored, fun phase here target => ?_⟩
    rcases phaseOf_start_cases here with ⟨_, rfl⟩ | ⟨_, here⟩
    · simp [lifecycle, Phase.initial]
    · exact knows phase here target
  · rintro world trace started before command reply world' ⟨stored, knows⟩ known allowed executed
    obtain ⟨version, membership, named⟩ := stored
    refine ⟨⟨version, commits_of_exec executed.1 version membership, named⟩,
      fun phase here target => ?_⟩
    rcases phaseOf_command_cases here with ⟨rfl, other, knownToo, rfl⟩ | ⟨_, here⟩
    · rw [known] at knownToo
      cases knownToo
      rw [lifecycle_advance, Phase.request_advance] at target
      exact lookup_advance_ne allowed executed.1 target membership named
        (knows before known target)
    · exact knows phase here target
  · rintro world trace world' ⟨stored, knows⟩ drifted
    exact ⟨by rwa [drifted.store_eq], knows⟩
  · refine ⟨⟨configuration, Store.mem_commits_of_findByConfigurationId found,
      Store.configurationId_of_findByConfigurationId found⟩, fun phase here => ?_⟩
    rw [sound.governs.phaseOf_eq_none fresh] at here
    cases here

theorem Sound.stored_of_created (sound : Sound commons config current) {thread : Thread}
    {newRCConfiguration : NewRCConfigurationPublic} {caller : Caller}
    {publicConfiguration : RCConfigurationPublic} {url : String} {payload : Body}
    (answered : current.Answered thread (.create newRCConfiguration caller)
      (.successRedirectToResource (.publicConfiguration publicConfiguration) url payload)) :
    ∃ configuration, current.world.store.findByConfigurationId
      publicConfiguration.configuration_id = some configuration := by
  obtain ⟨phase, here, _, ⟨configuration, lookup, resource⟩, _⟩ := sound.governs.answered answered
  have membership := ((sound.founded thread phase here).lookup configuration lookup).1
  have named : publicConfiguration.configuration_id = configuration.configurationId := by
    simp only [Body.publicConfiguration.injEq] at resource
    rw [resource, commons.retrievedRCConfigurationToPublic_eq]
    rfl
  cases found : current.world.store.findByConfigurationId
      publicConfiguration.configuration_id with
  | none =>
      exact absurd named.symm (Store.findByConfigurationId_eq_none_iff.mp found _ membership)
  | some stored => exact ⟨stored, rfl⟩

/-- In every interleaving of any requests, from nothing stored and nothing
cached, under any failures and expirations: a stored configuration keeps its
owner and is replaced by nobody else; every entry of the cache is a version
committed under its identifier; what a `get` answers to an external caller is
a committed version that the caller owns; and a `get` that starts after the
creation was answered does not answer 404. -/
theorem ownership_and_authenticity (commons : Commons) (config : IConfig)
    (policy : Semantics Services World)
    (started : (system commons config policy).Reaches (Config.initial World.empty) middle)
    (reaches : (system commons config policy).Reaches middle later) :
    (∀ configurationId configuration,
      middle.world.store.findByConfigurationId configurationId = some configuration →
        ∃ newer, later.world.store.findByConfigurationId configurationId = some newer ∧
          newer.userId = configuration.userId) ∧
    (∀ next configurationId configuration, (system commons config policy).Step later next →
      later.world.store.findByConfigurationId configurationId = some configuration →
      next.world.store.findByConfigurationId configurationId ≠ some configuration →
        ∃ thread event newRCConfiguration caller program,
          next.trace = .command thread event :: later.trace ∧
          later.threads thread =
            some (.update newRCConfiguration configurationId caller, program) ∧
          caller.Authorized ∧ caller.userId = configuration.userId) ∧
    (∀ configurationId redisValue,
      later.world.cache (redisKey configurationId) = some redisValue →
        ∃ configuration ∈ later.world.store.commits,
          configuration.configurationId = configurationId ∧
            cachedConfiguration commons redisValue = some configuration) ∧
    (∀ thread configurationId caller body,
      later.Answered thread (.get configurationId caller) (.successJson body) →
      caller.userId ≠ config.internalUserId.val →
        ∃ configuration ∈ later.world.store.commits,
          configuration.configurationId = configurationId ∧
            configuration.userId = caller.userId ∧
            body = .configuration (configurationResponse commons configuration)) ∧
    ∀ creator newRCConfiguration owner publicConfiguration url payload,
      middle.Answered creator (.create newRCConfiguration owner)
        (.successRedirectToResource (.publicConfiguration publicConfiguration) url payload) →
      ∀ thread caller response, middle.threads thread = none →
        later.Answered thread (.get publicConfiguration.configuration_id caller) response →
        response.status ≠ 404 := by
  have soundInitially : Sound commons config
      (Config.initial World.empty : Config Services World Thread Request (Response Body)) :=
    sound_initial cacheAuthentic_empty
  have soundMiddle := soundInitially.reaches started
  have soundLater := soundMiddle.reaches reaches
  have ownersMiddle := soundInitially.ownersAgree ownersAgree_empty started
  have ownersLater := soundMiddle.ownersAgree ownersMiddle reaches
  refine ⟨?_, ?_, soundLater.authentic, ?_, ?_⟩
  · intro configurationId configuration found
    exact soundMiddle.owner_stable ownersMiddle reaches found
  · intro next configurationId configuration step found changed
    exact soundLater.replaced_by_owner ownersLater step found changed
  · intro thread configurationId caller body answered external
    obtain ⟨configuration, membership, named, internal | owner, bodyEq⟩ :=
      soundLater.body_committed answered
    · exact absurd internal.symm external
    · exact ⟨configuration, membership, named, owner, bodyEq⟩
  · intro creator newRCConfiguration owner publicConfiguration url payload created thread caller
      response fresh answered missing
    obtain ⟨configuration, found⟩ := soundMiddle.stored_of_created created
    obtain ⟨phase, here, served, explained, _⟩ := soundLater.governs.answered answered
    rw [lifecycle_request] at served
    have known := soundMiddle.found_of_stored reaches found fresh here
      (by simp [served, Request.target])
    cases response <;> simp [Response.status] at missing
    exact known explained

end Runs

theorem ownership_and_authenticity_sample :
    ∃ later : Config Services World ℕ Request (Response Body),
      later.world = anUpdatedWorld ∧
        ∃ newer, later.world.store.findByConfigurationId aConfigurationId = some newer ∧
          newer.userId = aRetrievedRCConfiguration.userId := by
  obtain ⟨_, updates⟩ := runs_sample_update permissive_reliable
  obtain ⟨middle, started, created, _, others, _⟩ :=
    (system Commons.standard aConfig reliable).reaches_of_start 0
      (.create aPublicRemoteContentConfiguration aCaller)
      (Config.initial World.empty) (runs_sample_create permissive_reliable).advances rfl
  rw [← created] at updates
  obtain ⟨later, reaches, updated, _⟩ :=
    (system Commons.standard aConfig reliable).reaches_of_start 1
      (.update anUpdatedPublicRemoteContentConfiguration aConfigurationId aCaller) middle
      updates.advances (others 1 (by decide))
  refine ⟨later, updated, (ownership_and_authenticity Commons.standard aConfig reliable started
    reaches).1 aConfigurationId aRetrievedRCConfiguration ?_⟩
  rw [created]
  exact aStoredWorld_stored

end ServiceMessages.RemoteContent

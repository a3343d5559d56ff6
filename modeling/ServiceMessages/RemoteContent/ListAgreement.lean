import ServiceMessages.RemoteContent.Outcomes
import ServiceMessages.RemoteContent.Ownership

/-!
# Listing agrees with reading

A listing never looks at owners.  It answers what reading one by one would
answer, because the index names only configurations that the user owned once
and owners do not change.
-/

namespace ServiceMessages.RemoteContent

open Interaction TaskEither Protocol

variable {commons : Commons} {config : IConfig} {policy : Semantics Services World}

def ValidId (commons : Commons) (configurationId : Ulid) : Prop :=
  commons.decodeUlid configurationId.text = .ok configurationId

def generatesUlids (commons : Commons) : Semantics Services World :=
  fun _ command reply _ =>
    match command, reply with
    | .generateConfigurationId, ulid => ValidId commons ulid
    | _, _ => True

def ValidIds (commons : Commons) (store : Store) : Prop :=
  ∀ configuration ∈ store.commits, ValidId commons configuration.configurationId

/-- Each user is listed once for each identifier, and a valid identifier names
a stored configuration of that user. -/
structure Indexed (commons : Commons) (world : World) : Prop where
  distinct : ∀ userId, ((world.userIndex userId).map (·.id)).Nodup
  owned : ∀ userId, ∀ entry ∈ world.userIndex userId, ∀ configurationId,
    commons.decodeUlid entry.id = .ok configurationId →
      ∃ configuration, world.store.findByConfigurationId configurationId = some configuration ∧
        configuration.userId = userId

theorem indexed_empty : Indexed commons World.empty where
  distinct := by simp [World.empty]
  owned := by simp [World.empty]

theorem generated_advance {phase : Phase} {command : Command} {reply : Services.Reply command}
    {ulid : Ulid} (generated : (phase.advance commons ⟨command, reply⟩).generated = some ulid)
    {world world' : World} (permitted : generatesUlids commons world command reply world')
    (before : ∀ earlier, phase.generated = some earlier → ValidId commons earlier) :
    ValidId commons ulid := by
  cases command with
  | generateConfigurationId =>
      obtain rfl := Option.some.inj generated
      exact permitted
  | get key =>
      cases usable : usableReply commons reply <;>
        exact before ulid (by simpa [Phase.advance, usable] using generated)
  | findByConfigurationId requested =>
      cases reply with
      | error error => exact before ulid generated
      | ok answer =>
          cases requestEq : phase.request <;>
            exact before ulid (by simpa [Phase.advance, requestEq] using generated)
  | upsert configuration => cases reply <;> exact before ulid generated
  | create configuration => cases reply <;> exact before ulid generated
  | _ => exact before ulid generated

theorem validIds_of_exec {world world' : World} {phase : Phase} {command : Command}
    {reply : Services.Reply command} (validIds : ValidIds commons world.store)
    (founded : Founded world phase)
    (generated : ∀ ulid, phase.generated = some ulid → ValidId commons ulid)
    (allowed : phase.Allows commons config command)
    (executed : exec world command reply world') : ValidIds commons world'.store := by
  rcases exec_cases executed with rfl | ⟨_, _, rfl⟩ | ⟨_, _, _, _, rfl⟩ |
    ⟨committed, rfl, replaced | ⟨created, absent⟩⟩
  · exact validIds
  · exact validIds
  · exact validIds
  · subst replaced
    obtain ⟨_, _, owned, _, _, lookup, named, _⟩ := owner_of_allows_upsert allowed
    rintro configuration (_ | ⟨_, older⟩)
    · rw [← named]
      exact validIds owned (founded.lookup owned lookup).1
    · exact validIds configuration older
  · subst created
    rintro configuration (_ | ⟨_, older⟩)
    · cases requestEq : phase.request <;> simp [Phase.Allows, requestEq] at allowed
      obtain ⟨ulid, known, built⟩ := allowed
      rw [configurationId_of_built built]
      exact generated ulid known
    · exact validIds configuration older

section Runs

variable {Thread : Type} [DecidableEq Thread]
  {current later : Config Services World Thread Request (Response Body)}

theorem validIds_of_run {moment after : Moment Services World Request Thread}
    (run : Relation.ReflTransGen ((lifecycle commons config).Step
      (exec.restrict (generatesUlids commons)) (Drift commons)) moment after)
    (initially : (CacheAuthentic commons moment.1 ∧ ValidIds commons moment.1.store) ∧
      ∀ thread phase, (lifecycle commons config).phaseOf moment.2 thread = some phase →
        Founded moment.1 phase ∧
          ∀ ulid, phase.generated = some ulid → ValidId commons ulid) :
    ValidIds commons after.1.store := by
  refine (modular_invariant
    (fun world => CacheAuthentic commons world ∧ ValidIds commons world.store)
    (fun world phase => Founded world phase ∧
      ∀ ulid, phase.generated = some ulid → ValidId commons ulid)
    ?_ ?_ ?_ run initially).1.2
  · intro world request _
    exact ⟨founded_initial world request, by simp [lifecycle, Phase.initial]⟩
  · rintro world phase command reply world' ⟨authentic, validIds⟩ ⟨founded, generated⟩ allowed
      executed
    refine ⟨⟨cacheAuthentic_of_exec authentic founded allowed executed.1,
      validIds_of_exec validIds founded generated allowed executed.1⟩,
      ⟨founded_of_exec authentic founded allowed executed.1, fun ulid known =>
        generated_advance known executed.2 generated⟩, ?_⟩
    rintro other ⟨foundedToo, generatedToo⟩
    exact ⟨foundedToo.mono (commits_of_exec executed.1), generatedToo⟩
  · rintro world world' ⟨authentic, validIds⟩ drifted
    rw [drifted.store_eq]
    refine ⟨⟨cacheAuthentic_of_drift authentic drifted, validIds⟩, ?_⟩
    rintro other ⟨founded, generated⟩
    exact ⟨founded.mono fun configuration membership => by rwa [drifted.store_eq], generated⟩

/-- The index stays one of owners, because owners do not change. -/
theorem Sound.indexed (sound : Sound commons config current)
    (ownersAgree : OwnersAgree current.world.store) (indexed : Indexed commons current.world)
    (reaches : (system commons config policy).Reaches current later) :
    Indexed commons later.world := by
  induction reaches with
  | refl => exact indexed
  | @tail before after earlier step inductionHypothesis =>
      have soundBefore := sound.reaches earlier
      have ownersBefore := sound.ownersAgree ownersAgree earlier
      have stable : ∀ configurationId configuration,
          before.world.store.findByConfigurationId configurationId = some configuration →
            ∃ newer, after.world.store.findByConfigurationId configurationId = some newer ∧
              newer.userId = configuration.userId := fun configurationId configuration found =>
        soundBefore.owner_stable ownersBefore (.single step) found
      have kept : after.world.userIndex = before.world.userIndex →
          Indexed commons after.world := by
        intro same
        refine ⟨by rw [same]; exact inductionHypothesis.distinct, ?_⟩
        intro userId entry listed configurationId decoded
        rw [same] at listed
        obtain ⟨configuration, found, owner⟩ :=
          inductionHypothesis.owned userId entry listed configurationId decoded
        obtain ⟨newer, foundNewer, sameOwner⟩ := stable _ _ found
        exact ⟨newer, foundNewer, sameOwner.trans owner⟩
      cases step with
      | start => exact kept rfl
      | command _ _ _ _ _ _ _ executed =>
          apply kept
          rcases exec_cases executed.1 with rfl | ⟨_, _, rfl⟩ | ⟨_, _, _, _, rfl⟩ | ⟨_, rfl, _⟩ <;>
            rfl
      | drift _ drifted =>
          cases drifted with
          | expire => exact kept rfl
          | index userIndex distinct recorded =>
              refine ⟨distinct, fun userId entry listed configurationId decoded => ?_⟩
              rcases recorded userId entry listed with older | owned
              · exact inductionHypothesis.owned userId entry older configurationId decoded
              · exact owned configurationId decoded

end Runs

section Listing

variable {world : World} {caller : Caller} {retrievedConfigurations : List RetrievedRCConfiguration}

theorem mem_configIdList {configList : List RetrievedUserRCConfiguration} {configurationId : Ulid} :
    configurationId ∈ configIdList commons configList ↔
      ∃ entry ∈ configList, commons.decodeUlid entry.id = .ok configurationId := by
  have decoded : ∀ outcome : Except commons.Errors Ulid,
      outcome.toOption = some configurationId ↔ outcome = .ok configurationId := by
    rintro (errors | decoded) <;> simp [Except.toOption]
  simp [configIdList, decoded]

theorem listed_iff_indexed (validIds : ValidIds commons world.store)
    (members : ∀ configuration, configuration ∈ retrievedConfigurations ↔
      ∃ configurationId ∈ configIdList commons (world.userIndex caller.userId),
        world.store.findByConfigurationId configurationId = some configuration)
    {configurationId : Ulid} {configuration : RetrievedRCConfiguration}
    (stored : world.store.findByConfigurationId configurationId = some configuration) :
    configuration ∈ retrievedConfigurations ↔
      ∃ entry ∈ world.userIndex caller.userId, entry.id = configurationId.text := by
  have named := Store.configurationId_of_findByConfigurationId stored
  rw [members]
  constructor
  · rintro ⟨listed, membership, found⟩
    obtain ⟨entry, indexed, decoded⟩ := mem_configIdList.mp membership
    have namedToo := Store.configurationId_of_findByConfigurationId found
    refine ⟨entry, indexed, ?_⟩
    rw [← commons.text_of_decodeUlid _ _ decoded, ← namedToo, named]
  · rintro ⟨entry, indexed, text⟩
    have valid := validIds configuration (Store.mem_commits_of_findByConfigurationId stored)
    rw [named] at valid
    exact ⟨configurationId, mem_configIdList.mpr ⟨entry, indexed, by rw [text, valid]⟩, stored⟩

theorem nodup_configurationIds (distinct : retrievedConfigurations.Nodup)
    (stored : ∀ configuration ∈ retrievedConfigurations,
      world.store.findByConfigurationId configuration.configurationId = some configuration) :
    (retrievedConfigurations.map (·.configurationId)).Nodup := by
  apply (List.nodup_map_iff_inj_on distinct).mpr
  intro first listed second listedToo same
  have found := stored first listed
  rw [same, stored second listedToo] at found
  exact (Option.some.inj found).symm

theorem configuration_id_listedConfiguration (userId : String)
    (configuration : RetrievedRCConfiguration) :
    (listedConfiguration commons userId configuration).configuration_id =
      configuration.configurationId := by
  rw [listedConfiguration, commons.retrievedRCConfigurationToPublic_eq]
  rfl

/-- The owner reads what is stored, wherever the store is read or has to be. -/
theorem get_of_stored {configuration : RetrievedRCConfiguration}
    (authorized : caller.Authorized)
    (stored : world.store.findByConfigurationId configuration.configurationId =
      some configuration)
    (owner : configuration.userId = caller.userId) :
    Ensures (exec.restrict storeAvailable) world
      (handler commons config (.get configuration.configurationId caller))
      fun events response _ =>
        (world.cache (redisKey configuration.configurationId) = none ∨ ∃ reply,
          (⟨.findByConfigurationId configuration.configurationId, reply⟩ : Event Services) ∈
            events) →
          response =
            .successJson (.configuration (configurationResponse commons configuration)) := by
  refine (ensures_getRCConfigurationHandler world _ (.inr authorized)).mono
    fun events response final => ?_
  rintro ⟨outcome, lookup, rfl⟩ reads
  cases lookup with
  | hit present _ unread =>
      rcases reads with uncached | ⟨reply, read⟩
      · rw [uncached] at present
        cases present
      · exact absurd read (unread reply)
  | failed _ failed => simp [storeAvailable, Succeeds, Command.IsRedis] at failed
  | absent _ missing =>
      rw [stored] at missing
      cases missing
  | found found _ =>
      rw [stored] at found
      cases found
      simp only [lookupResponse, owner, or_true, if_true]

end Listing

/-- In every state that is reached from nothing by any requests, under any
failures and with an index that lags behind: a listing by an authorized caller,
while the containers do not fail, ends, and always with a list that names no
configuration twice, names a stored one exactly when it is in the caller's
index, and has for each one the body that the caller reads from the same store. -/
theorem list_agrees_with_get (commons : Commons) (config : IConfig) {Thread : Type}
    [DecidableEq Thread] {current : Config Services World Thread Request (Response Body)}
    (reaches : (system commons config (generatesUlids commons)).Reaches
      (Config.initial World.empty) current)
    {caller : Caller} (authorized : caller.Authorized) :
    (∃ events response final, Runs (exec.restrict storeAvailable) current.world
      (handler commons config (.list caller)) events response final) ∧
    Ensures (exec.restrict storeAvailable) current.world
      (handler commons config (.list caller)) fun _ response _ =>
        ∃ rcConfigList, response = .successJson (.configurationList ⟨rcConfigList⟩) ∧
          (rcConfigList.map (·.configuration_id)).Nodup ∧
          (∀ configurationId configuration,
            current.world.store.findByConfigurationId configurationId = some configuration →
              ((∃ element ∈ rcConfigList, element.configuration_id = configurationId) ↔
                ∃ entry ∈ current.world.userIndex caller.userId,
                  entry.id = configurationId.text)) ∧
          ∀ element ∈ rcConfigList, ∀ reading : World,
            reading.store = current.world.store →
              (∃ events response final, Runs (exec.restrict storeAvailable) reading
                (handler commons config (.get element.configuration_id caller))
                events response final) ∧
              Ensures (exec.restrict storeAvailable) reading
                (handler commons config (.get element.configuration_id caller))
                fun events response _ =>
                  (reading.cache (redisKey element.configuration_id) = none ∨ ∃ reply,
                    (⟨.findByConfigurationId element.configuration_id, reply⟩ : Event Services) ∈
                      events) →
                    response = .successJson (.configuration element) := by
  have initially : Sound commons config
      (Config.initial World.empty : Config Services World Thread Request (Response Body)) :=
    sound_initial cacheAuthentic_empty
  have indexed := initially.indexed ownersAgree_empty indexed_empty reaches
  have validIds := validIds_of_run (initially.run reaches)
    ⟨⟨cacheAuthentic_empty, by simp [Config.initial, World.empty, ValidIds, Store.empty]⟩,
      by simp [Config.initial]⟩
  refine ⟨request_answered permissive_storeAvailable current.world (by simp), ?_⟩
  refine (ensures_listRCConfigurationHandler current.world authorized).mono
    fun events response final => ?_
  rintro ⟨-, outcome⟩
  cases outcome with
  | indexFailed failed => simp [storeAvailable, Succeeds, Command.IsRedis] at failed
  | storeFailed failed => simp [storeAvailable, Succeeds, Command.IsRedis] at failed
  | @listed retrievedConfigurations distinct members =>
      have owned : ∀ configuration ∈ retrievedConfigurations,
          current.world.store.findByConfigurationId configuration.configurationId =
            some configuration ∧ configuration.userId = caller.userId := by
        intro configuration listed
        obtain ⟨configurationId, membership, found⟩ := (members configuration).mp listed
        obtain ⟨entry, inIndex, decoded⟩ := mem_configIdList.mp membership
        obtain ⟨owned, foundToo, owner⟩ := indexed.owned _ entry inIndex _ decoded
        rw [found] at foundToo
        cases foundToo
        rw [Store.configurationId_of_findByConfigurationId found]
        exact ⟨found, owner⟩
      have listedIds : (retrievedConfigurations.map
          (listedConfiguration commons caller.userId)).map (·.configuration_id) =
            retrievedConfigurations.map (·.configurationId) := by
        simp [configuration_id_listedConfiguration]
      refine ⟨_, rfl, ?_, ?_, ?_⟩
      · rw [listedIds]
        exact nodup_configurationIds distinct fun configuration listed => (owned _ listed).1
      · intro configurationId configuration stored
        rw [← listed_iff_indexed validIds members stored]
        simp only [List.mem_map, exists_exists_and_eq_and, configuration_id_listedConfiguration]
        constructor
        · rintro ⟨listed, membership, rfl⟩
          rw [(owned listed membership).1] at stored
          cases stored
          exact membership
        · intro membership
          exact ⟨configuration, membership, Store.configurationId_of_findByConfigurationId stored⟩
      · intro element membership reading sameStore
        obtain ⟨configuration, listed, rfl⟩ := List.mem_map.mp membership
        obtain ⟨stored, owner⟩ := owned configuration listed
        have body : listedConfiguration commons caller.userId configuration =
            configurationResponse commons configuration := by
          rw [listedConfiguration, configurationResponse, owner]
        refine ⟨request_answered permissive_storeAvailable reading (by simp), ?_⟩
        rw [configuration_id_listedConfiguration, body]
        exact get_of_stored authorized (by rwa [sameStore]) owner

def anIndexedWorld : World :=
  { aStoredWorld with
    userIndex := fun userId =>
      if userId = aCaller.userId then [⟨aConfigurationId.text, aCaller.userId⟩] else [] }

theorem aStoredWorld_drifts : Drift Commons.standard aStoredWorld anIndexedWorld := by
  refine .index _ (fun userId => ?_) (fun userId entry listed => .inr ?_)
  · split_ifs <;> simp
  · split_ifs at listed with same
    · obtain rfl := List.mem_singleton.mp listed
      intro configurationId decoded
      have text := Commons.standard.text_of_decodeUlid _ _ decoded
      obtain rfl : configurationId = aConfigurationId := congrArg Ulid.mk text
      exact ⟨aRetrievedRCConfiguration, aStoredWorld_stored, same.symm⟩
    · cases listed

theorem runs_sample_list :
    ∃ events, Runs (exec.restrict storeAvailable) anIndexedWorld
      (handler Commons.standard aConfig (.list aCaller)) events
      (.successJson (.configurationList
        ⟨[configurationResponse Commons.standard aRetrievedRCConfiguration]⟩)) anIndexedWorld := by
  have indexed : exec.restrict storeAvailable anIndexedWorld (.findAllByUserId aCaller.userId)
      (.ok [⟨aConfigurationId.text, aCaller.userId⟩]) anIndexedWorld := by
    refine ⟨⟨rfl, ?_⟩, .inl ⟨_, rfl⟩⟩
    rintro answer ⟨⟩
    simp [anIndexedWorld]
  have stored : exec.restrict storeAvailable anIndexedWorld
      (.findAllByConfigurationId [aConfigurationId]) (.ok [aRetrievedRCConfiguration])
      anIndexedWorld := by
    refine ⟨⟨rfl, ?_⟩, .inl ⟨_, rfl⟩⟩
    rintro answer ⟨⟩
    have found := aStoredWorld_stored
    refine ⟨by simp, fun configuration => ?_⟩
    simp [anIndexedWorld, found, eq_comm]
  rw [handler, listRCConfigurationHandler_of_authorized _ aCaller_authorized]
  exact ⟨_, .call indexed (.call stored .done)⟩

/-- After a creation and an update of the index, the list shows the document as
it is read one by one. -/
theorem list_agrees_with_get_sample :
    ∃ (current : Config Services World ℕ Request (Response Body))
      (events : List (Event Services)),
      (system Commons.standard aConfig (generatesUlids Commons.standard)).Reaches
        (.initial World.empty) current ∧
      Runs (exec.restrict storeAvailable) current.world
        (handler Commons.standard aConfig (.list aCaller)) events
        (.successJson (.configurationList
          ⟨[configurationResponse Commons.standard aRetrievedRCConfiguration]⟩)) current.world ∧
      ∃ events final, Runs (exec.restrict storeAvailable) current.world
        (handler Commons.standard aConfig (.get aConfigurationId aCaller)) events
        (.successJson (.configuration
          (configurationResponse Commons.standard aRetrievedRCConfiguration))) final := by
  have creates : Runs (exec.restrict (generatesUlids Commons.standard)) World.empty
      (handler Commons.standard aConfig (.create aPublicRemoteContentConfiguration aCaller)) _
      (createdResponse Commons.standard aRetrievedRCConfiguration) aStoredWorld :=
    runs_create aCaller_authorized rfl _ rfl rfl trivial
  obtain ⟨created, started, arrived, _⟩ :=
    (system Commons.standard aConfig (generatesUlids Commons.standard)).reaches_of_start 0
      (.create aPublicRemoteContentConfiguration aCaller) (Config.initial World.empty)
      creates.advances rfl
  have drifted := aStoredWorld_drifts
  rw [← arrived] at drifted
  have reaches := started.tail (.drift anIndexedWorld drifted)
  obtain ⟨events, lists⟩ := runs_sample_list
  obtain ⟨-, listed⟩ := list_agrees_with_get Commons.standard aConfig reaches aCaller_authorized
  obtain ⟨rcConfigList, answered, -, -, agrees⟩ := listed events _ _ lists
  obtain rfl :
      [configurationResponse Commons.standard aRetrievedRCConfiguration] = rcConfigList := by
    simpa using answered
  obtain ⟨⟨_, response, final, gets⟩, reads⟩ := agrees _ List.mem_cons_self anIndexedWorld rfl
  obtain rfl := reads _ _ _ gets (.inl rfl)
  exact ⟨_, events, reaches, lists, _, final, gets⟩

end ServiceMessages.RemoteContent

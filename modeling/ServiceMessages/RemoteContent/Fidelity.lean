import ServiceMessages.RemoteContent.Ownership
import ServiceMessages.RemoteContent.ReadYourWrites

/-!
# Fidelity of what is read

A configuration that was created or updated is read back as it was written,
field by field.
-/

namespace ServiceMessages.RemoteContent

open Interaction TaskEither Protocol

variable {commons : Commons} {config : IConfig} {policy : Semantics Services World}

def writtenResponse (newRCConfiguration : NewRCConfigurationPublic) (configurationId : Ulid)
    (userId : String) : RCConfigurationResponse :=
  { newRCConfiguration with
    configuration_id := configurationId
    user_id := userId }

theorem configurationResponse_eq_writtenResponse {configuration : RetrievedRCConfiguration}
    {newRCConfiguration : NewRCConfigurationPublic} {configurationId : Ulid} {userId : String}
    (built : configuration.toRCConfiguration =
      makeNewRCConfigurationWithConfigurationId configurationId userId newRCConfiguration) :
    configurationResponse commons configuration =
      writtenResponse newRCConfiguration configurationId userId := by
  rw [configurationResponse, commons.retrievedRCConfigurationToPublic_eq, built,
    toPublic_makeNewRCConfigurationWithConfigurationId]
  rfl

/-- The document of an answered creation is current: nothing of its identifier
was cached before. -/
theorem Current.of_created {world written : World} (authentic : CacheAuthentic commons world)
    {newRCConfiguration : NewRCConfigurationPublic} {caller : Caller}
    {events : List (Event Services)} {publicConfiguration : RCConfigurationPublic} {url : String}
    {payload : Body}
    (creates : Runs (exec.restrict policy) world
      (handler commons config (.create newRCConfiguration caller)) events
      (.successRedirectToResource (.publicConfiguration publicConfiguration) url payload)
      written) :
    ∃ configuration : RetrievedRCConfiguration,
      configuration.toRCConfiguration = makeNewRCConfigurationWithConfigurationId
        publicConfiguration.configuration_id caller.userId newRCConfiguration ∧
      Current commons configuration none written ∧ caller.Authorized := by
  have authorized : caller.Authorized := passes_of_runs creates (by nofun)
  obtain ⟨response, responseEq, outcome⟩ : ∃ response,
      response = Response.successRedirectToResource (.publicConfiguration publicConfiguration)
        url payload ∧
      CreateOutcome commons policy world newRCConfiguration caller response written :=
    ⟨_, rfl, ensures_createRCConfigurationHandler world newRCConfiguration authorized _ _ _
      creates⟩
  cases outcome with
  | failed => cases responseEq
  | @created ulid committed _ absent built =>
      have named := configurationId_of_built built
      have answered := configuration_id_of_createdResponse commons responseEq
      refine ⟨committed, by rw [answered, named, built], ⟨?_, ?_⟩, authorized⟩
      · exact Store.findByConfigurationId_commit_self _ _
      · intro redisValue other present _
        obtain ⟨version, membership, versionNamed, _⟩ := authentic _ _ present
        rw [named] at versionNamed
        exact absurd versionNamed
          (Store.findByConfigurationId_eq_none_iff.mp absent version membership)

/-- The caller's write of the payload under the identifier was answered with success. -/
inductive Wrote (commons : Commons) (config : IConfig)
    (newRCConfiguration : NewRCConfigurationPublic) (configurationId : Ulid) (caller : Caller)
    (world written : World) : Prop where
  | created {events publicConfiguration url payload} :
      publicConfiguration.configuration_id = configurationId →
      Runs (exec.restrict reliable) world
        (handler commons config (.create newRCConfiguration caller)) events
        (.successRedirectToResource (.publicConfiguration publicConfiguration) url payload)
        written →
      Wrote commons config newRCConfiguration configurationId caller world written
  | updated {events} :
      Runs (exec.restrict reliable) world
        (handler commons config (.update newRCConfiguration configurationId caller)) events
        .successNoContent written →
      Wrote commons config newRCConfiguration configurationId caller world written

theorem Wrote.current {world written : World} (authentic : CacheAuthentic commons world)
    {newRCConfiguration : NewRCConfigurationPublic} {configurationId : Ulid} {caller : Caller}
    (wrote : Wrote commons config newRCConfiguration configurationId caller world written) :
    ∃ configuration : RetrievedRCConfiguration,
      configuration.toRCConfiguration = makeNewRCConfigurationWithConfigurationId
        configurationId caller.userId newRCConfiguration ∧
      Current commons configuration none written ∧ caller.Authorized := by
  cases wrote with
  | created named creates =>
      subst named
      exact Current.of_created authentic creates
  | updated updates =>
      obtain ⟨configuration, stale, built, current, authorized, fresh | ⟨_, refused, _⟩⟩ :=
        Current.of_updated updates
      · rw [fresh] at current
        exact ⟨configuration, built, current, authorized⟩
      · exact absurd refused (not_refused_reliable _)

/-- What a caller wrote is what the same user and the internal user read.  From an
empty store and an empty cache, requests are served one after the other, with
any failures; a write is answered with success while no command fails; and
nothing that follows may write the same configuration.  Then a `get` during
which no command fails ends, and always with the payload, its identifier and
its owner. -/
theorem write_read_fidelity (commons : Commons) (config : IConfig)
    (policy : Semantics Services World) {world written later : World}
    {earlier history : List (Request × Response Body)}
    {newRCConfiguration : NewRCConfigurationPublic} {configurationId : Ulid}
    {caller reader : Caller}
    (reached : (system commons config policy).Serial World.empty earlier world)
    (wrote : Wrote commons config newRCConfiguration configurationId caller world written)
    (serial : (system commons config policy).Serial written history later)
    (unwritten : ∀ entry ∈ history, ¬ MayWrite configurationId entry.1 entry.2)
    (mayRead : reader = caller ∨ reader.userId = caller.userId ∧ reader.Authorized ∨
      reader.userId = config.internalUserId.val) :
    (∃ events response final, Runs (exec.restrict reliable) later
      (handler commons config (.get configurationId reader)) events response final) ∧
    Ensures (exec.restrict reliable) later
      (handler commons config (.get configurationId reader)) fun _ response _ =>
        response = .successJson (.configuration
          (writtenResponse newRCConfiguration configurationId caller.userId)) := by
  refine ⟨request_answered permissive_reliable later (by simp), ?_⟩
  obtain ⟨now, reaches, here⟩ := reached.reaches (Config.initial World.empty) rfl 0
    fun _ _ => rfl
  have initially : Sound commons config
      (Config.initial World.empty : Config Services World ℕ Request (Response Body)) :=
    sound_initial cacheAuthentic_empty
  have authentic := (initially.reaches reaches).authentic
  rw [here] at authentic
  obtain ⟨configuration, built, current, authorized⟩ := wrote.current authentic
  have named := configurationId_of_built built
  have owner := userId_of_built built
  subst named
  have currentLater := current.serial serial unwritten
  have mayGet : MayGet config reader := by
    rcases mayRead with rfl | ⟨-, authorized⟩ | internal
    · exact .inr authorized
    · exact .inr authorized
    · exact .inl internal.symm
  have allowed : config.internalUserId.val = reader.userId ∨
      configuration.userId = reader.userId := by
    rcases mayRead with rfl | ⟨same, -⟩ | internal
    · exact .inr owner
    · exact .inr (owner.trans same.symm)
    · exact .inl internal.symm
  refine (ensures_getRCConfigurationHandler later _ mayGet).mono fun events response final => ?_
  rintro ⟨outcome, lookup, rfl⟩
  cases outcome with
  | error error =>
      cases lookup with
      | failed _ failed => simp [reliable, Succeeds] at failed
  | ok answer =>
      rcases currentLater.answer lookup with rfl | ⟨_, _, stale, _⟩
      · simp only [lookupResponse, allowed, if_true]
        rw [configurationResponse_eq_writtenResponse built]
      · cases stale

theorem write_read_fidelity_sample :
    (∃ events response final, Runs (exec.restrict reliable) aStoredWorld
      (handler Commons.standard aConfig (.get aConfigurationId aCaller)) events response final) ∧
    Ensures (exec.restrict reliable) aStoredWorld
      (handler Commons.standard aConfig (.get aConfigurationId aCaller)) fun _ response _ =>
        response = .successJson (.configuration
          (writtenResponse aPublicRemoteContentConfiguration aConfigurationId aCaller.userId)) :=
  write_read_fidelity Commons.standard aConfig reliable .idle
    (.created rfl (runs_sample_create permissive_reliable)) .idle (by simp) (.inl rfl)

end ServiceMessages.RemoteContent

import ServiceMessages.RemoteContent.Gate
import ServiceMessages.RemoteContent.Mappers

/-!
# Creating a configuration
-/

namespace ServiceMessages.RemoteContent

open Interaction TaskEither

variable (commons : Commons)

def generateConfigurationId : Program Services Ulid :=
  Program.perform (I := Services) .generateConfigurationId

def create (configuration : RCConfiguration) : Task CosmosErrors RetrievedRCConfiguration :=
  Program.perform (I := Services) (.create configuration)

def createdResponse (retrievedConfiguration : RetrievedRCConfiguration) : Response Body :=
  let publicConfiguration :=
    Body.publicConfiguration (commons.retrievedRCConfigurationToPublic retrievedConfiguration)
  .successRedirectToResource publicConfiguration "/api/v1/remote-contents/configurations/"
    publicConfiguration

def createRCConfigurationHandler (newRCConfiguration : NewRCConfigurationPublic)
    (caller : Caller) : Program Services (Response Body) :=
  checkGroupAndManageSubscription caller.subscriptionId caller.userGroups
    |> chain (fun _ =>
      (generateConfigurationId.bind fun ulid =>
          create (makeNewRCConfigurationWithConfigurationId ulid caller.userId
            newRCConfiguration))
        |> mapLeft (handleCosmosErrorResponse
          "Something went wrong trying to create the configuration"))
    |> map (createdResponse commons)
    |> toUnion

theorem createRCConfigurationHandler_of_authorized {caller : Caller}
    (authorized : caller.Authorized) (newRCConfiguration : NewRCConfigurationPublic) :
    createRCConfigurationHandler commons newRCConfiguration caller =
      .call (I := Services) .generateConfigurationId fun ulid =>
        .call (I := Services)
          (.create (makeNewRCConfigurationWithConfigurationId ulid caller.userId
            newRCConfiguration)) fun
          | .error e =>
              .done (handleCosmosErrorResponse
                "Something went wrong trying to create the configuration" e)
          | .ok retrievedConfiguration =>
              .done (createdResponse commons retrievedConfiguration) := by
  simp only [createRCConfigurationHandler, generateConfigurationId, create, Program.perform,
    checkGroupAndManageSubscription_of_authorized authorized, chain, map, mapLeft, toUnion,
    fold_of, fold_call, Program.bind_call, Program.bind_done]
  congr 1
  funext ulid
  congr 1
  funext reply
  cases reply <;> rfl

theorem createRCConfigurationHandler_of_not_authorized {caller : Caller}
    (refused : ¬ caller.Authorized) (newRCConfiguration : NewRCConfigurationPublic) :
    createRCConfigurationHandler commons newRCConfiguration caller =
      .done responseErrorForbiddenNotAuthorized := by
  simp only [createRCConfigurationHandler,
    checkGroupAndManageSubscription_of_not_authorized refused, chain, map, toUnion, fold_left]

theorem configuration_id_of_createdResponse {retrievedConfiguration : RetrievedRCConfiguration}
    {publicConfiguration : RCConfigurationPublic} {url : String} {payload : Body}
    (response : createdResponse commons retrievedConfiguration =
      .successRedirectToResource (.publicConfiguration publicConfiguration) url payload) :
    publicConfiguration.configuration_id = retrievedConfiguration.configurationId := by
  simp only [createdResponse, Response.successRedirectToResource.injEq,
    Body.publicConfiguration.injEq] at response
  rw [← response.1, commons.retrievedRCConfigurationToPublic_eq]
  rfl

end ServiceMessages.RemoteContent

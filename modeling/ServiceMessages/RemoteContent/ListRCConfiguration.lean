import ServiceMessages.RemoteContent.CreateRCConfiguration

/-!
# Listing the configurations of a user
-/

namespace ServiceMessages.RemoteContent

open Interaction TaskEither

variable (commons : Commons)

def findAllByUserId (userId : String) : Task CosmosErrors (List RetrievedUserRCConfiguration) :=
  Program.perform (I := Services) (.findAllByUserId userId)

def findAllByConfigurationId (configurationIds : List Ulid) :
    Task CosmosErrors (List RetrievedRCConfiguration) :=
  Program.perform (I := Services) (.findAllByConfigurationId configurationIds)

/-- The entries of the index that are valid identifiers. -/
def configIdList (configList : List RetrievedUserRCConfiguration) : List Ulid :=
  configList.filterMap fun configuration => (commons.decodeUlid configuration.id).toOption

/-- An element of the list: the public view, stamped with the caller. -/
def listedConfiguration (userId : String) (configuration : RetrievedRCConfiguration) :
    RCConfigurationResponse :=
  { commons.retrievedRCConfigurationToPublic configuration with user_id := userId }

def listResponse (userId : String) (retrievedConfigurations : List RetrievedRCConfiguration) :
    Response Body :=
  .successJson (.configurationList
    { rcConfigList := retrievedConfigurations.map (listedConfiguration commons userId) })

def listRCConfigurationHandler (caller : Caller) : Program Services (Response Body) :=
  checkGroupAndManageSubscription caller.subscriptionId caller.userGroups
    |> chain (fun _ =>
      findAllByUserId caller.userId
        |> mapLeft (handleCosmosErrorResponse
          "Something went wrong trying to retrieve the user's configurations"))
    |> chain (fun configList =>
      findAllByConfigurationId (configIdList commons configList)
        |> mapLeft (handleCosmosErrorResponse
          "Something went wrong trying to retrieve the configurations by id"))
    |> map (listResponse commons caller.userId)
    |> toUnion

theorem listRCConfigurationHandler_of_authorized {caller : Caller}
    (authorized : caller.Authorized) :
    listRCConfigurationHandler commons caller =
      .call (I := Services) (.findAllByUserId caller.userId) fun
        | .error e =>
            .done (handleCosmosErrorResponse
              "Something went wrong trying to retrieve the user's configurations" e)
        | .ok configList =>
            .call (I := Services)
              (.findAllByConfigurationId (configIdList commons configList)) fun
              | .error e =>
                  .done (handleCosmosErrorResponse
                    "Something went wrong trying to retrieve the configurations by id" e)
              | .ok retrievedConfigurations =>
                  .done (listResponse commons caller.userId retrievedConfigurations) := by
  simp only [listRCConfigurationHandler, findAllByUserId, findAllByConfigurationId,
    Program.perform, checkGroupAndManageSubscription_of_authorized authorized, chain, map,
    mapLeft, toUnion, fold_of, fold_call]
  congr 1
  funext reply
  cases reply with
  | error error => rfl
  | ok configList =>
      simp only [fold_done_ok, fold_of, fold_call]
      congr 1
      funext reply
      cases reply <;> rfl

theorem listRCConfigurationHandler_of_not_authorized {caller : Caller}
    (refused : ¬ caller.Authorized) :
    listRCConfigurationHandler commons caller = .done responseErrorForbiddenNotAuthorized := by
  simp only [listRCConfigurationHandler,
    checkGroupAndManageSubscription_of_not_authorized refused, chain, map, toUnion, fold_left]

end ServiceMessages.RemoteContent

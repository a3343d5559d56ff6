import ServiceMessages.RemoteContent.GetRCConfiguration
import ServiceMessages.RemoteContent.Mappers

/-!
# Replacing one configuration
-/

namespace ServiceMessages.RemoteContent

open Interaction TaskEither

variable (commons : Commons) (config : IConfig)

def eventName : String := "remote.content.configuration.updated"

def isUserAllowedToUpdateConfiguration (userId : String)
    (configuration : RetrievedRCConfiguration) :
    Task (Response Body) RetrievedRCConfiguration :=
  fromPredicate (fun configuration => decide (configuration.userId = userId))
    responseErrorForbiddenNotAuthorized configuration

def upsert (configuration : RCConfiguration) : Task CosmosErrors RetrievedRCConfiguration :=
  Program.perform (I := Services) (.upsert configuration)

def trackEvent (event : TelemetryEvent) : Program Services Unit :=
  Program.perform (I := Services) (.trackEvent event)

def updateEvent (rcConfiguration : RetrievedRCConfiguration) : TelemetryEvent where
  name := eventName
  configurationId := rcConfiguration.configurationId
  configurationName := rcConfiguration.name
  userId := rcConfiguration.userId
  samplingEnabled := "false"

def handleUpsert (newRCConfiguration : RCConfiguration) :
    Task (Response Body) (Response Body) :=
  upsert newRCConfiguration
    |> mapLeft (fun e =>
      .errorInternal ("Something went wrong trying to upsert the configuration: " ++ e.text))
    |> chainFirst (fun rcConfiguration =>
      setWithExpirationTask (redisKey rcConfiguration.configurationId)
          (commons.stringify rcConfiguration) config.rcConfigurationCacheTtl none
        |> map (fun _ => rcConfiguration)
        |> orElse (fun _ => of rcConfiguration))
    |> chain (fun rcConfiguration =>
      (trackEvent (updateEvent rcConfiguration)).bind fun _ => of .successNoContent)

def handleEmptyConfiguration (maybeConfiguration : Option RetrievedRCConfiguration) :
    Task (Response Body) RetrievedRCConfiguration :=
  fromOption
    (.errorNotFound "Configuration not found" "Cannot find any remote-content configuration")
    maybeConfiguration

def handleGetRCConfiguration (configurationId : Ulid) :
    Task (Response Body) (Option RetrievedRCConfiguration) :=
  findByConfigurationId configurationId
    |> mapLeft (fun e =>
      .errorInternal
        ("Something went wrong trying to retrieve the configuration: " ++ e.text))

def updateRCConfigurationHandler (newRCConfiguration : NewRCConfigurationPublic)
    (configurationId : Ulid) (caller : Caller) : Program Services (Response Body) :=
  checkGroupAndManageSubscription caller.subscriptionId caller.userGroups
    |> chain (fun _ => handleGetRCConfiguration configurationId)
    |> chain handleEmptyConfiguration
    |> chain (isUserAllowedToUpdateConfiguration caller.userId)
    |> map (fun _ =>
      makeNewRCConfigurationWithConfigurationId configurationId caller.userId
        newRCConfiguration)
    |> chain (handleUpsert commons config)
    |> toUnion

theorem toUnion_handleUpsert (newRCConfiguration : RCConfiguration) :
    toUnion (handleUpsert commons config newRCConfiguration) =
      .call (I := Services) (.upsert newRCConfiguration) fun
        | .error e =>
            .done (.errorInternal
              ("Something went wrong trying to upsert the configuration: " ++ e.text))
        | .ok rcConfiguration =>
            (setWithExpirationTask (redisKey rcConfiguration.configurationId)
              (commons.stringify rcConfiguration) config.rcConfigurationCacheTtl none).bind
                fun _ => .call (I := Services) (.trackEvent (updateEvent rcConfiguration))
                  fun _ => .done .successNoContent := by
  simp only [toUnion, handleUpsert, upsert, Program.perform, mapLeft, chainFirst, chain, map,
    orElse, fold_call]
  congr 1
  funext reply
  cases reply with
  | error error => rfl
  | ok rcConfiguration =>
      simp only [fold_done_ok, fold_of, fold_fold, fold_left, fold_const, fold_of_bind]
      rfl

theorem updateRCConfigurationHandler_of_authorized {caller : Caller}
    (authorized : caller.Authorized) (newRCConfiguration : NewRCConfigurationPublic)
    (configurationId : Ulid) :
    updateRCConfigurationHandler commons config newRCConfiguration configurationId caller =
      .call (I := Services) (.findByConfigurationId configurationId) fun
        | .error e =>
            .done (.errorInternal
              ("Something went wrong trying to retrieve the configuration: " ++ e.text))
        | .ok none =>
            .done (.errorNotFound "Configuration not found"
              "Cannot find any remote-content configuration")
        | .ok (some configuration) =>
            if configuration.userId = caller.userId then
              toUnion (handleUpsert commons config
                (makeNewRCConfigurationWithConfigurationId configurationId caller.userId
                  newRCConfiguration))
            else .done responseErrorForbiddenNotAuthorized := by
  simp only [updateRCConfigurationHandler, handleGetRCConfiguration, findByConfigurationId,
    Program.perform, checkGroupAndManageSubscription_of_authorized authorized, chain, map,
    mapLeft, toUnion, fold_of, fold_call]
  congr 1
  funext reply
  cases reply with
  | error error => rfl
  | ok answer =>
      cases answer with
      | none => rfl
      | some configuration =>
          by_cases owner : configuration.userId = caller.userId
          · simp only [fold_done_ok, fold_of, handleEmptyConfiguration, fromOption_some,
              isUserAllowedToUpdateConfiguration, fromPredicate, owner, decide_true, if_true]
          · simp only [fold_done_ok, fold_of, handleEmptyConfiguration, fromOption_some,
              isUserAllowedToUpdateConfiguration, fromPredicate, owner, decide_false, if_false]
            rfl

theorem updateRCConfigurationHandler_of_not_authorized {caller : Caller}
    (refused : ¬ caller.Authorized) (newRCConfiguration : NewRCConfigurationPublic)
    (configurationId : Ulid) :
    updateRCConfigurationHandler commons config newRCConfiguration configurationId caller =
      .done responseErrorForbiddenNotAuthorized := by
  simp only [updateRCConfigurationHandler,
    checkGroupAndManageSubscription_of_not_authorized refused, chain, map, toUnion, fold_left]

end ServiceMessages.RemoteContent

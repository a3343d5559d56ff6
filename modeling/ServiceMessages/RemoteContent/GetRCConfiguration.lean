import ServiceMessages.RemoteContent.RedisStorage

/-!
# Reading one configuration
-/

namespace ServiceMessages.RemoteContent

open Interaction TaskEither

variable (commons : Commons) (config : IConfig)

def rcConfigurationRedisPrefix : String := "RC-CONFIGURATION"

def redisKey (configurationId : Ulid) : String :=
  rcConfigurationRedisPrefix ++ "-" ++ configurationId.text

theorem redisKey_injective : Function.Injective redisKey := by
  intro first second equality
  have texts : first.text = second.text := by
    simpa [redisKey, ← String.toList_inj] using equality
  cases first
  cases second
  simpa using texts

def handleErrorResponse (error : JsError) : Response Body :=
  .errorInternal
    ("Something went wrong trying to retrieve the configuration: " ++ error.toString)

def handleEmptyErrorResponse (configurationId : Ulid)
    (maybeRCConfiguration : Option RetrievedRCConfiguration) :
    Task (Response Body) RetrievedRCConfiguration :=
  fromOption
    (.errorNotFound "Configuration not found"
      ("Cannot find any configuration with configurationId: " ++ configurationId.text))
    maybeRCConfiguration

def parseRedisValue (redisValue : String) : Except JsError commons.Json :=
  (commons.parse redisValue).mapError fun _ =>
    .new "Cannot parse RCConfiguration Json from Redis"

def validateRedisValue (redisValue : commons.Json) :
    Except JsError RetrievedRCConfiguration :=
  (commons.decode redisValue).mapError fun _ =>
    .new "Cannot decode RCConfiguration Json from Redis"

def parseAndValidateRedisValue (redisValue : String) :
    Except JsError RetrievedRCConfiguration :=
  (parseRedisValue commons redisValue).bind (validateRedisValue commons)

def handleRedisEmptyResponse (maybeRedisResponse : Option String) : Task JsError String :=
  fromOption (.new "Cannot Get RCConfiguration from Redis") maybeRedisResponse

def findByConfigurationId (configurationId : Ulid) :
    Task CosmosErrors (Option RetrievedRCConfiguration) :=
  Program.perform (I := Services) (.findByConfigurationId configurationId)

/-- What `getOrCacheMaybeRCConfigurationById` does when the cache has no usable
entry: read the store and fill the cache, whatever comes of the filling. -/
def findAndCacheMaybeRCConfigurationById (configurationId : Ulid) :
    Task JsError (Option RetrievedRCConfiguration) :=
  findByConfigurationId configurationId
    |> mapLeft (fun e =>
      JsError.new (e.kind ++ ", RCConfiguration Id=" ++ configurationId.text))
    |> chainFirst (fun maybeRCConfiguration =>
      fromOption
          (JsError.new ("Cannot find any configuration with id: " ++ configurationId.text))
          maybeRCConfiguration
        |> chain (fun rCConfiguration =>
          setWithExpirationTask (redisKey configurationId)
            (commons.stringify rCConfiguration) config.rcConfigurationCacheTtl none)
        -- `chainFirst` drops the value of this branch as well
        |> map (fun _ => maybeRCConfiguration)
        |> orElse (fun _ => of maybeRCConfiguration))

def getOrCacheMaybeRCConfigurationById (configurationId : Ulid) :
    Task JsError (Option RetrievedRCConfiguration) :=
  getTask (redisKey configurationId)
    |> chain handleRedisEmptyResponse
    |> chainEitherK (parseAndValidateRedisValue commons)
    |> fold
      (fun _ => findAndCacheMaybeRCConfigurationById commons config configurationId)
      (fun rCConfiguration => of (some rCConfiguration))

/-- The body of a successful answer: the public view and the owner. -/
def configurationResponse (retrievedConfiguration : RetrievedRCConfiguration) :
    RCConfigurationResponse :=
  { commons.retrievedRCConfigurationToPublic retrievedConfiguration with
    user_id := retrievedConfiguration.userId }

def getRCConfigurationHandler (configurationId : Ulid) (caller : Caller) :
    Program Services (Response Body) :=
  (if config.internalUserId.val = caller.userId then of true
    else checkGroupAndManageSubscription caller.subscriptionId caller.userGroups)
    |> chain (fun _ =>
      getOrCacheMaybeRCConfigurationById commons config configurationId
        |> mapLeft handleErrorResponse)
    |> chain (handleEmptyErrorResponse configurationId)
    |> chain (fromPredicate
      (fun retrievedConfiguration =>
        decide (config.internalUserId.val = caller.userId) ||
          decide (retrievedConfiguration.userId = caller.userId))
      responseErrorForbiddenNotAuthorized)
    |> map (fun retrievedConfiguration =>
      Response.successJson (.configuration (configurationResponse commons retrievedConfiguration)))
    |> toUnion

/-- The configuration an entry of the cache stands for, if it is usable. -/
def cachedConfiguration (redisValue : String) : Option RetrievedRCConfiguration :=
  (parseAndValidateRedisValue commons redisValue).toOption

@[simp]
theorem cachedConfiguration_stringify (configuration : RetrievedRCConfiguration) :
    cachedConfiguration commons (commons.stringify configuration) = some configuration := by
  have decoded := commons.decode_stringify configuration
  unfold cachedConfiguration parseAndValidateRedisValue parseRedisValue validateRedisValue
  cases parsed : commons.parse (commons.stringify configuration) with
  | error errors => simp [parsed, Except.bind] at decoded
  | ok json =>
      have valid : commons.decode json = .ok configuration := by
        simpa [parsed, Except.bind] using decoded
      simp [Except.mapError, Except.bind, Except.toOption, valid]

def usableReply : Except JsError (Option String) → Option RetrievedRCConfiguration
  | .ok (some redisValue) => cachedConfiguration commons redisValue
  | _ => none

variable {commons} in
theorem eq_of_usableReply {reply : Except JsError (Option String)}
    {configuration : RetrievedRCConfiguration}
    (usable : usableReply commons reply = some configuration) :
    ∃ redisValue, reply = .ok (some redisValue) ∧
      cachedConfiguration commons redisValue = some configuration := by
  cases reply with
  | error error => simp [usableReply] at usable
  | ok answer =>
      cases answer with
      | none => simp [usableReply] at usable
      | some redisValue => exact ⟨redisValue, rfl, usable⟩

theorem findAndCacheMaybeRCConfigurationById_eq (configurationId : Ulid) :
    findAndCacheMaybeRCConfigurationById commons config configurationId =
      .call (I := Services) (.findByConfigurationId configurationId) fun
        | .error e =>
            left (.new (e.kind ++ ", RCConfiguration Id=" ++ configurationId.text))
        | .ok none => of none
        | .ok (some rCConfiguration) =>
            (setWithExpirationTask (redisKey configurationId)
              (commons.stringify rCConfiguration) config.rcConfigurationCacheTtl none).bind
                fun _ => of (some rCConfiguration) := by
  simp only [findAndCacheMaybeRCConfigurationById, findByConfigurationId, Program.perform,
    mapLeft, chainFirst, chain, map, orElse, fold_call]
  congr 1
  funext reply
  cases reply with
  | error error => rfl
  | ok answer =>
      cases answer with
      | none => rfl
      | some rCConfiguration =>
          simp only [fold_done_ok, fold_of, fromOption_some, fold_fold, fold_left]
          exact fold_const ..

theorem getOrCacheMaybeRCConfigurationById_eq (configurationId : Ulid) :
    getOrCacheMaybeRCConfigurationById commons config configurationId =
      .call (I := Services) .getInstance fun
        | .error _ => findAndCacheMaybeRCConfigurationById commons config configurationId
        | .ok _ => .call (I := Services) (.get (redisKey configurationId)) fun reply =>
            match usableReply commons reply with
            | some rCConfiguration => of (some rCConfiguration)
            | none => findAndCacheMaybeRCConfigurationById commons config configurationId := by
  simp only [getOrCacheMaybeRCConfigurationById, getTask_eq, chain, chainEitherK, fold_call]
  congr 1
  funext client
  cases client with
  | error error => rfl
  | ok client =>
      simp only [fold_call]
      congr 1
      funext reply
      cases reply with
      | error error => rfl
      | ok answer =>
          cases answer with
          | none => rfl
          | some redisValue =>
              simp only [fold_done_ok, handleRedisEmptyResponse, fromOption_some, fold_of,
                usableReply, cachedConfiguration, fromEither]
              cases parseAndValidateRedisValue commons redisValue <;> rfl

/-- The answer to a caller who passed the first check, from what is stored. -/
def lookupResponse (configurationId : Ulid) (caller : Caller) :
    Option RetrievedRCConfiguration → Response Body
  | none =>
      .errorNotFound "Configuration not found"
        ("Cannot find any configuration with configurationId: " ++ configurationId.text)
  | some configuration =>
      if config.internalUserId.val = caller.userId ∨ configuration.userId = caller.userId then
        .successJson (.configuration (configurationResponse commons configuration))
      else responseErrorForbiddenNotAuthorized

/-- The caller passes the first check of `getRCConfigurationHandler`. -/
def MayGet (caller : Caller) : Prop :=
  config.internalUserId.val = caller.userId ∨ caller.Authorized

instance (caller : Caller) : Decidable (MayGet config caller) :=
  inferInstanceAs (Decidable (_ ∨ _))

theorem getRCConfigurationHandler_of_mayGet {caller : Caller} (mayGet : MayGet config caller)
    (configurationId : Ulid) :
    getRCConfigurationHandler commons config configurationId caller =
      fold (fun error => .done (handleErrorResponse error))
        (fun maybeRCConfiguration =>
          .done (lookupResponse commons config configurationId caller maybeRCConfiguration))
        (getOrCacheMaybeRCConfigurationById commons config configurationId) := by
  have check : (if config.internalUserId.val = caller.userId then of true
      else checkGroupAndManageSubscription caller.subscriptionId caller.userGroups) =
        (of true : Task (Response Body) Bool) := by
    by_cases internal : config.internalUserId.val = caller.userId
    · simp [internal]
    · rcases mayGet with same | authorized
      · exact absurd same internal
      · simp [internal, checkGroupAndManageSubscription_of_authorized authorized]
  simp only [getRCConfigurationHandler, check, chain, mapLeft, map, toUnion, fold_of, fold_fold,
    fold_left]
  congr 1
  funext maybeRCConfiguration
  cases maybeRCConfiguration with
  | none => rfl
  | some configuration =>
      by_cases allowed : config.internalUserId.val = caller.userId ∨
          configuration.userId = caller.userId
      · have permitted : (decide (config.internalUserId.val = caller.userId) ||
            decide (configuration.userId = caller.userId)) = true := by
          simpa using allowed
        simp only [handleEmptyErrorResponse, fromOption_some, fold_of, fromPredicate, permitted,
          if_true, lookupResponse, allowed]
      · have refused : (decide (config.internalUserId.val = caller.userId) ||
            decide (configuration.userId = caller.userId)) = false := by
          simpa using allowed
        simp only [handleEmptyErrorResponse, fromOption_some, fold_of, fromPredicate, refused,
          lookupResponse, allowed, if_false]
        rfl

theorem getRCConfigurationHandler_of_not_mayGet {caller : Caller}
    (refused : ¬ MayGet config caller) (configurationId : Ulid) :
    getRCConfigurationHandler commons config configurationId caller =
      .done responseErrorForbiddenNotAuthorized := by
  obtain ⟨external, unauthorized⟩ := not_or.mp refused
  simp only [getRCConfigurationHandler, external, if_false,
    checkGroupAndManageSubscription_of_not_authorized unauthorized, chain, map, toUnion,
    fold_left]

end ServiceMessages.RemoteContent

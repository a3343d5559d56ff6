import ServiceMessages.RemoteContent.Gate

/-!
# Single commands against the cache

Every command first obtains the client, which may fail as well.
-/

namespace ServiceMessages.RemoteContent

open Interaction TaskEither

def singleStringReplyAsync (command : Task JsError (Option String)) : Task JsError Bool :=
  map (fun reply => decide (reply = some "OK")) command

def singleValueReplyAsync (command : Task JsError (Option String)) :
    Task JsError (Option String) :=
  map id command

def falsyResponseToErrorAsync (error : JsError) (response : Task JsError Bool) :
    Task JsError Unit :=
  chain (fun res => if res then of () else left error) response

def getInstance : Task JsError Unit := Program.perform (I := Services) .getInstance

def settingError (errorMsg : Option String) : JsError :=
  .new (match errorMsg with
    | some message => if message = "" then "Error setting key value pair on redis" else message
    | none => "Error setting key value pair on redis")

def setWithExpirationTask (key value : String) (expirationInSeconds : ℕ)
    (errorMsg : Option String) : Task JsError Unit :=
  getInstance
    |> chain (fun _ => Program.perform (I := Services) (.setex key expirationInSeconds value))
    |> singleStringReplyAsync
    |> falsyResponseToErrorAsync (settingError errorMsg)

def getTask (key : String) : Task JsError (Option String) :=
  getInstance
    |> chain (fun _ => Program.perform (I := Services) (.get key))
    |> singleValueReplyAsync

/-- Both commands of a write of the cache, with the reply that counts as success. -/
theorem setWithExpirationTask_eq (key value : String) (expirationInSeconds : ℕ)
    (errorMsg : Option String) :
    setWithExpirationTask key value expirationInSeconds errorMsg =
      .call (I := Services) .getInstance fun
        | .error error => left error
        | .ok _ => .call (I := Services) (.setex key expirationInSeconds value) fun
            | .error error => left error
            | .ok reply => if reply = some "OK" then of () else left (settingError errorMsg) := by
  simp only [setWithExpirationTask, falsyResponseToErrorAsync, singleStringReplyAsync, map, chain,
    getInstance, Program.perform, fold_call]
  congr 1
  funext client
  cases client with
  | error error => rfl
  | ok client =>
      simp only [fold_done_ok, fold_call]
      congr 1
      funext reply
      cases reply with
      | error error => rfl
      | ok answer => by_cases acknowledged : answer = some "OK" <;> simp [acknowledged]

theorem getTask_eq (key : String) :
    getTask key =
      .call (I := Services) .getInstance fun
        | .error error => left error
        | .ok _ => .call (I := Services) (.get key) .done := by
  simp only [getTask, singleValueReplyAsync, map, chain, getInstance, Program.perform, fold_call]
  congr 1
  funext client
  cases client with
  | error error => rfl
  | ok client =>
      simp only [fold_done_ok, fold_call]
      congr 1
      funext reply
      cases reply <;> rfl

end ServiceMessages.RemoteContent

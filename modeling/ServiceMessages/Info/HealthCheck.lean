import ServiceMessages.Common.Responses
import ServiceMessages.Environment.Configuration
import ServiceMessages.Interaction.Parallel

/-!
# The health of the application

The checks of the database and of the clients of the storage run in parallel,
once the environment has been found to be valid.  The answer names every check
that failed, always in the same order.
-/

namespace ServiceMessages.Info

open Interaction TaskEither Environment

inductive ProblemSource where
  | AzureCosmosDB
  | AzureStorage
  | Config
  | Url

def ProblemSource.name : ProblemSource → String
  | .AzureCosmosDB => "AzureCosmosDB"
  | .AzureStorage => "AzureStorage"
  | .Config => "Config"
  | .Url => "Url"

abbrev HealthProblem := String

def formatProblem (source : ProblemSource) (message : String) : HealthProblem :=
  source.name ++ "|" ++ message

def toHealthProblems (source : ProblemSource) (e : JsError) : List HealthProblem :=
  [formatProblem source e.message]

inductive StorageProduct where
  | Blob
  | File
  | Queue
  | Table
deriving DecidableEq

/-- What a client of the storage may do wrong: it cannot be created, or it
calls back with an error. -/
inductive StorageFailure where
  | thrown (error : JsError)
  | reported (err : JsError)

inductive Check where
  | getDatabaseAccount
  | getServiceProperties (product : StorageProduct) (connStr : String)
deriving DecidableEq

abbrev Check.Reply : Check → Type
  | .getDatabaseAccount => Except JsError Unit
  | .getServiceProperties .. => Except StorageFailure Unit

abbrev Checks : Interface where
  Command := Check
  Reply := Check.Reply

abbrev HealthCheck (A : Type) := TaskEither.{0, 0} Checks (List HealthProblem) A

def checkConfigHealth (readableReport : List ValidationError → String)
    (environment : ProcessEnv) : HealthCheck IConfig :=
  fromEither (IConfig.decode environment)
    |> mapLeft (fun errors => errors.map fun e => formatProblem .Config (readableReport [e]))

def checkAzureCosmosDbHealth : HealthCheck Bool :=
  Program.perform (I := Checks) .getDatabaseAccount
    |> mapLeft (toHealthProblems .AzureCosmosDB)
    |> map (fun _ => true)

/-- `replace(/\n/gim, " ")` -/
def withoutNewlines (message : String) : String :=
  message.map fun character => if character = '\n' then ' ' else character

/-- A client that calls back with an error rejects with its message, which is
then made an error again. -/
def StorageFailure.toError : StorageFailure → JsError
  | .thrown error => error
  | .reported err => .new (withoutNewlines err.message)

def checkStorageProduct (connStr : String) (product : StorageProduct) : HealthCheck Unit :=
  Program.perform (I := Checks) (.getServiceProperties product connStr)
    |> mapLeft (fun failure => toHealthProblems .AzureStorage failure.toError)

def storageProducts : List StorageProduct := [.Blob, .File, .Queue, .Table]

def checkAzureStorageHealth (schedules : ℕ → List Bool) (connStr : String) : HealthCheck Bool :=
  sequence schedules (storageProducts.map (checkStorageProduct connStr))
    |> map (fun _ => true)

/-- All the checks.  The schedules are those of the four storage checks, and of
the check of the database next to them. -/
def checkApplicationHealth (readableReport : List ValidationError → String)
    (environment : ProcessEnv) (schedules : ℕ → List Bool) (schedule : List Bool) :
    HealthCheck Bool :=
  of ()
    |> chain (fun _ => checkConfigHealth readableReport environment)
    |> chain (fun config =>
      sequenceT schedule checkAzureCosmosDbHealth
        (checkAzureStorageHealth schedules (config.values .QueueStorageConnection).val))
    |> map (fun _ => true)

structure IInfo where
  name : String
  version : String

def packageInfo : IInfo where
  name := "@pagopa/io-functions-service-messages"
  version := "1.10.11"

def infoHandler (healthCheck : HealthCheck Bool) : Program Checks (Response IInfo) :=
  healthCheck
    |> mapLeft (fun problems => .errorInternal ("\n\n".intercalate problems))
    |> map (fun _ => .successJson packageInfo)
    |> toUnion

def problemsOf : Event Checks → List HealthProblem
  | ⟨.getDatabaseAccount, .error error⟩ => [formatProblem .AzureCosmosDB error.message]
  | ⟨.getServiceProperties .., .error (.thrown error)⟩ =>
      [formatProblem .AzureStorage error.message]
  | ⟨.getServiceProperties .., .error (.reported err)⟩ =>
      [formatProblem .AzureStorage (withoutNewlines err.message)]
  | _ => []

def report : List HealthProblem → Response IInfo
  | [] => .successJson packageInfo
  | problems => .errorInternal ("\n\n".intercalate problems)

theorem surveys_checkAzureCosmosDbHealth :
    Surveys problemsOf [.getDatabaseAccount] checkAzureCosmosDbHealth := by
  apply Surveys.map
  intro events outcome answers
  obtain ⟨reply, rest, rfl, finished⟩ := Program.answers_call_iff.mp answers
  refine ⟨[⟨.getDatabaseAccount, reply⟩], rfl, ?_⟩
  cases reply with
  | ok =>
      cases finished
      exact ⟨.refl _, .nothing _⟩
  | error error =>
      cases finished
      exact ⟨.refl _, .all (List.cons_ne_nil _ _)⟩

theorem surveys_checkStorageProduct (connStr : String) (product : StorageProduct) :
    Surveys problemsOf [.getServiceProperties product connStr]
      (checkStorageProduct connStr product) := by
  intro events outcome answers
  obtain ⟨reply, rest, rfl, finished⟩ := Program.answers_call_iff.mp answers
  refine ⟨[⟨.getServiceProperties product connStr, reply⟩], rfl, ?_⟩
  cases reply with
  | ok =>
      cases finished
      exact ⟨.refl _, .nothing _⟩
  | error failure =>
      cases failure with
      | thrown error =>
          cases finished
          exact ⟨.refl _, .all (List.cons_ne_nil _ _)⟩
      | reported err =>
          cases finished
          exact ⟨.refl _, .all (List.cons_ne_nil _ _)⟩

theorem surveys_checkAzureStorageHealth (schedules : ℕ → List Bool) (connStr : String) :
    Surveys problemsOf (storageProducts.map fun product => .getServiceProperties product connStr)
      (checkAzureStorageHealth schedules connStr) := by
  apply Surveys.map
  apply surveys_sequence
  rw [List.forall₂_map_left_iff, List.forall₂_map_right_iff, List.forall₂_same]
  intro product _
  exact surveys_checkStorageProduct connStr product

/-- The checks in the order in which their problems are named. -/
def connectionChecks (config : IConfig) : List Check :=
  .getDatabaseAccount ::
    storageProducts.map fun product =>
      .getServiceProperties product (config.values .QueueStorageConnection).val

theorem infoHandler_eq_bind (healthCheck : HealthCheck Bool) :
    infoHandler healthCheck = healthCheck.bind fun outcome => infoHandler (.done outcome) := by
  unfold infoHandler toUnion TaskEither.map mapLeft
  rw [fold_fold, fold_fold, fold]
  congr 1
  funext outcome
  cases outcome <;> rfl

theorem infoHandler_of_reports {outcome : Except (List HealthProblem) Bool}
    {problems : List HealthProblem} (reports : Reports outcome problems) :
    infoHandler (.done outcome) = .done (report problems) := by
  cases reports with
  | nothing => rfl
  | @all problems some =>
      cases problems with
      | nil => exact absurd rfl some
      | cons problem others => rfl

section Application

variable (readableReport : List ValidationError → String) {environment : ProcessEnv}
  (schedules : ℕ → List Bool) (schedule : List Bool)

theorem surveys_checkApplicationHealth {config : IConfig}
    (decoded : IConfig.decode environment = .ok config) :
    Surveys problemsOf (connectionChecks config)
      (checkApplicationHealth readableReport environment schedules schedule) := by
  apply Surveys.map
  unfold checkConfigHealth
  rw [decoded]
  exact surveys_checkAzureCosmosDbHealth.sequenceT
    (surveys_checkAzureStorageHealth schedules (config.values .QueueStorageConnection).val)

theorem checkApplicationHealth_of_error {errors : List ValidationError}
    (refused : IConfig.decode environment = .error errors) :
    checkApplicationHealth readableReport environment schedules schedule =
      left (errors.map fun e => formatProblem .Config (readableReport [e])) := by
  unfold checkApplicationHealth checkConfigHealth
  rw [refused]
  rfl

end Application

/-- With an invalid environment nothing is checked, and the answer has one line
for every error.  With a valid one every check is made exactly once, whatever
the order in which they take their turns and whichever of them fail, and the
answer is 200 when all succeed and else has the problem of every check that
failed, in an order that does not depend on that of the replies. -/
theorem info_reports_every_problem {World : Type}
    (readableReport : List ValidationError → String) (environment : ProcessEnv)
    (schedules : ℕ → List Bool) (schedule : List Bool) (exec : Semantics Checks World)
    (world : World) :
    Ensures exec world
      (infoHandler (checkApplicationHealth readableReport environment schedules schedule))
      fun events response _ =>
        match IConfig.decode environment with
        | .error errors =>
            events = [] ∧ response = .errorInternal ("\n\n".intercalate
              (errors.map fun e => formatProblem .Config (readableReport [e])))
        | .ok config =>
            ∃ asked : List (Event Checks), asked.map Event.command = connectionChecks config ∧
              events.Perm asked ∧ response = report (asked.flatMap problemsOf) := by
  intro events response final runs
  cases decoded : IConfig.decode environment with
  | error errors =>
      rw [checkApplicationHealth_of_error readableReport schedules schedule decoded] at runs
      obtain ⟨rfl, rfl, rfl⟩ := runs_done_iff.mp runs
      exact ⟨rfl, rfl⟩
  | ok config =>
      rw [infoHandler_eq_bind] at runs
      obtain ⟨earlier, later, middle, outcome, checked, answered, rfl⟩ := runs_bind_iff.mp runs
      have surveys := surveys_checkApplicationHealth readableReport schedules schedule decoded
      obtain ⟨asked, issued, shuffled, reports⟩ := surveys earlier outcome (.of_runs checked)
      rw [infoHandler_of_reports reports] at answered
      obtain ⟨rfl, rfl, rfl⟩ := runs_done_iff.mp answered
      exact ⟨asked, issued, by simpa using shuffled, rfl⟩

end ServiceMessages.Info

import Mathlib.Data.Nat.Notation
import ServiceMessages.Common.Strings

/-!
# Errors and responses

What the handlers answer, and the two kinds of errors they see on the way:
those raised by the language and those of the document store.
-/

namespace ServiceMessages

structure JsError where
  name : String
  message : String
deriving DecidableEq

namespace JsError

def new (message : String) : JsError where
  name := "Error"
  message := message

def toString (error : JsError) : String :=
  if error.name = "" then error.message
  else if error.message = "" then error.name
  else error.name ++ ": " ++ error.message

end JsError

/-- A failure of the document store: its kind, how it is printed inside a
text, and how it is serialized. -/
structure CosmosErrors where
  kind : String
  text : String
  json : String
deriving DecidableEq

/-- The responses of the handlers.  The detail of a refusal is absent when it
is the predefined one. -/
inductive Response (Body : Type) where
  | successJson (body : Body)
  | successNoContent
  | successRedirectToResource (resource : Body) (url : String) (payload : Body)
  | errorForbiddenNotAuthorized (detail : Option String)
  | errorForbiddenAnonymousUser
  | errorNotFound (title detail : String)
  | errorInternal (detail : String)
deriving DecidableEq

namespace Response

def status {Body : Type} : Response Body → ℕ
  | .successJson _ => 200
  | .successNoContent => 204
  | .successRedirectToResource .. => 201
  | .errorForbiddenNotAuthorized _ => 403
  | .errorForbiddenAnonymousUser => 403
  | .errorNotFound .. => 404
  | .errorInternal _ => 500

theorem status_eq_204_iff {Body : Type} {response : Response Body} :
    response.status = 204 ↔ response = .successNoContent := by
  cases response <;> simp [status]

/-- The detail a response shows to the code that handles it. -/
def detail {Body : Type} : Response Body → Option String
  | .errorNotFound title detail => some (title ++ ": " ++ detail)
  | .errorInternal detail => some ("Internal server error: " ++ detail)
  | _ => none

end Response

def handleCosmosErrorResponse {Body : Type} (message : String) (error : CosmosErrors) :
    Response Body :=
  .errorInternal (message ++ ": " ++ error.json)

end ServiceMessages

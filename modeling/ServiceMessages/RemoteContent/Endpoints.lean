import ServiceMessages.Interaction.Guard
import ServiceMessages.Interaction.LocalView
import ServiceMessages.RemoteContent.ListAgreement

/-!
# Requests as they arrive

What the endpoints require of the headers, the path and the body of a request
before a handler sees it.  A request that is refused leaves nothing behind, and
whatever an endpoint shows of a configuration was once submitted by the user
the configuration is shown to, or shown as the owner.
-/

namespace ServiceMessages.RemoteContent

open Interaction TaskEither Protocol

/-- A request, by endpoint: its headers, the parameter of its path, and its body. -/
inductive HttpRequest (Payload : Type) where
  | createRCConfiguration (headers : Headers) (body : Payload)
  | getRCConfiguration (headers : Headers) (configurationId : String)
  | listRCConfiguration (headers : Headers)
  | updateRCConfiguration (headers : Headers) (configurationId : String) (body : Payload)

/-- What a parameter or a body that cannot be decoded is answered, or what a
handler answers. -/
inductive HttpResponse (Errors : Type) where
  | errorFromValidationErrors (errors : Errors)
  | response (response : Response Body)

namespace HttpResponse

variable {Errors : Type}

def status : HttpResponse Errors → ℕ
  | .errorFromValidationErrors _ => 400
  | .response answer => answer.status

end HttpResponse

section Middlewares

variable {Payload : Type} (commons : Commons) (config : IConfig)
  (decodePayload : Payload → Except commons.Errors NewRCConfigurationPublic)

def requiredCaller (headers : Headers) : Except (HttpResponse commons.Errors) Caller :=
  (requiredHeaders headers).mapError .response

def requiredParamMiddleware (configurationId : String) :
    Except (HttpResponse commons.Errors) Ulid :=
  (commons.decodeUlid configurationId).mapError .errorFromValidationErrors

def requiredBodyPayloadMiddleware (body : Payload) :
    Except (HttpResponse commons.Errors) NewRCConfigurationPublic :=
  (decodePayload body).mapError .errorFromValidationErrors

def withRequestMiddlewares :
    HttpRequest Payload → Except (HttpResponse commons.Errors) Request
  | .createRCConfiguration headers body => do
      let caller ← requiredCaller commons headers
      let newRCConfiguration ← requiredBodyPayloadMiddleware commons decodePayload body
      return .create newRCConfiguration caller
  | .getRCConfiguration headers configurationId => do
      let caller ← requiredCaller commons headers
      let configurationId ← requiredParamMiddleware commons configurationId
      return .get configurationId caller
  | .listRCConfiguration headers => do
      let caller ← requiredCaller commons headers
      return .list caller
  | .updateRCConfiguration headers configurationId body => do
      let caller ← requiredCaller commons headers
      let configurationId ← requiredParamMiddleware commons configurationId
      let newRCConfiguration ← requiredBodyPayloadMiddleware commons decodePayload body
      return .update newRCConfiguration configurationId caller

def middlewares : Guard (HttpRequest Payload) (HttpResponse commons.Errors) Request
    (Response Body) where
  entry := withRequestMiddlewares commons decodePayload
  answer := .response

/-- The endpoints, from the request that arrives to the response that leaves. -/
def endpoints (policy : Semantics Services World) :
    System Services World (HttpRequest Payload) (HttpResponse commons.Errors) :=
  (middlewares commons decodePayload).before (system commons config policy)

end Middlewares

variable {commons : Commons} {config : IConfig} {policy : Semantics Services World}
  {Payload : Type}
  {decodePayload : Payload → Except commons.Errors NewRCConfigurationPublic}

section Except

variable {E F A B : Type} {outcome : Except E A}

theorem mapError_eq_ok_iff {transform : E → F} {value : A} :
    outcome.mapError transform = .ok value ↔ outcome = .ok value := by
  cases outcome <;> simp [Except.mapError]

theorem mapError_eq_error_iff {transform : E → F} {error : F} :
    outcome.mapError transform = .error error ↔
      ∃ cause, outcome = .error cause ∧ transform cause = error := by
  cases outcome <;> simp [Except.mapError]

theorem bind_eq_ok_iff {continuation : A → Except E B} {value : B} :
    outcome >>= continuation = .ok value ↔
      ∃ middle, outcome = .ok middle ∧ continuation middle = .ok value := by
  cases outcome <;> simp [bind, Except.bind]

theorem bind_eq_error_iff {continuation : A → Except E B} {error : E} :
    outcome >>= continuation = .error error ↔
      outcome = .error error ∨
        ∃ middle, outcome = .ok middle ∧ continuation middle = .error error := by
  cases outcome <;> simp [bind, Except.bind]

end Except

/-- What is required of a request for a handler to see it. -/
inductive Admitted {Payload : Type} (commons : Commons)
    (decodePayload : Payload → Except commons.Errors NewRCConfigurationPublic) :
    HttpRequest Payload → Request → Prop where
  | create {headers body caller newRCConfiguration} :
      requiredHeaders headers = .ok caller →
      decodePayload body = .ok newRCConfiguration →
      Admitted commons decodePayload (.createRCConfiguration headers body)
        (.create newRCConfiguration caller)
  | get {headers param caller configurationId} :
      requiredHeaders headers = .ok caller →
      commons.decodeUlid param = .ok configurationId →
      Admitted commons decodePayload (.getRCConfiguration headers param)
        (.get configurationId caller)
  | list {headers caller} :
      requiredHeaders headers = .ok caller →
      Admitted commons decodePayload (.listRCConfiguration headers) (.list caller)
  | update {headers param body caller configurationId newRCConfiguration} :
      requiredHeaders headers = .ok caller →
      commons.decodeUlid param = .ok configurationId →
      decodePayload body = .ok newRCConfiguration →
      Admitted commons decodePayload (.updateRCConfiguration headers param body)
        (.update newRCConfiguration configurationId caller)

theorem admitted_of_eq_ok {httpRequest : HttpRequest Payload} {request : Request}
    (admits : withRequestMiddlewares commons decodePayload httpRequest = .ok request) :
    Admitted commons decodePayload httpRequest request := by
  cases httpRequest with
  | createRCConfiguration headers body =>
      simp only [withRequestMiddlewares, requiredCaller, requiredBodyPayloadMiddleware,
        bind_eq_ok_iff, mapError_eq_ok_iff] at admits
      obtain ⟨caller, known, newRCConfiguration, decoded, same⟩ := admits
      cases same
      exact .create known decoded
  | getRCConfiguration headers param =>
      simp only [withRequestMiddlewares, requiredCaller, requiredParamMiddleware,
        bind_eq_ok_iff, mapError_eq_ok_iff] at admits
      obtain ⟨caller, known, configurationId, named, same⟩ := admits
      cases same
      exact .get known named
  | listRCConfiguration headers =>
      simp only [withRequestMiddlewares, requiredCaller, bind_eq_ok_iff,
        mapError_eq_ok_iff] at admits
      obtain ⟨caller, known, same⟩ := admits
      cases same
      exact .list known
  | updateRCConfiguration headers param body =>
      simp only [withRequestMiddlewares, requiredCaller, requiredParamMiddleware,
        requiredBodyPayloadMiddleware, bind_eq_ok_iff, mapError_eq_ok_iff] at admits
      obtain ⟨caller, known, configurationId, named, newRCConfiguration, decoded, same⟩ := admits
      cases same
      exact .update known named decoded

theorem Admitted.eq_ok {httpRequest : HttpRequest Payload} {request : Request}
    (admitted : Admitted commons decodePayload httpRequest request) :
    withRequestMiddlewares commons decodePayload httpRequest = .ok request := by
  cases admitted with
  | create known decoded =>
      simp [withRequestMiddlewares, requiredCaller, requiredBodyPayloadMiddleware, known, decoded,
        Except.mapError, bind, Except.bind, pure, Except.pure]
  | get known named =>
      simp [withRequestMiddlewares, requiredCaller, requiredParamMiddleware, known, named,
        Except.mapError, bind, Except.bind, pure, Except.pure]
  | list known =>
      simp [withRequestMiddlewares, requiredCaller, known,
        Except.mapError, bind, Except.bind, pure, Except.pure]
  | update known named decoded =>
      simp [withRequestMiddlewares, requiredCaller, requiredParamMiddleware,
        requiredBodyPayloadMiddleware, known, named, decoded, Except.mapError, bind, Except.bind,
        pure, Except.pure]

theorem status_of_requiredHeader {name : String} {refusal answer : Response Body}
    {headers : Headers} (refused : requiredHeader name refusal headers = .error answer) :
    answer = refusal := by
  cases header : headers name with
  | none =>
      simp only [requiredHeader, header, Except.error.injEq] at refused
      exact refused.symm
  | some text =>
      by_cases empty : text = ""
      · simp only [requiredHeader, header, empty, ne_eq, not_true, dite_false,
          Except.error.injEq] at refused
        exact refused.symm
      · simp [requiredHeader, header, empty] at refused

theorem status_of_requiredHeaders {headers : Headers} {answer : Response Body}
    (refused : requiredHeaders headers = .error answer) : answer.status = 403 := by
  simp only [requiredHeaders, bind_eq_error_iff] at refused
  obtain subscription | ⟨_, _, groups | ⟨_, _, user | ⟨_, _, impossible⟩⟩⟩ := refused
  · rw [status_of_requiredHeader subscription]
    rfl
  · rw [status_of_requiredHeader groups]
    rfl
  · unfold requiredUserIdMiddleware at user
    cases path : requiredHeader "x-user-id" .errorForbiddenAnonymousUser headers with
    | ok path => simp [path, Except.map] at user
    | error refusal =>
        obtain rfl : refusal = answer := by simpa [path, Except.map] using user
        rw [status_of_requiredHeader path]
        rfl
  · cases impossible

theorem status_of_requiredCaller {headers : Headers} {answer : HttpResponse commons.Errors}
    (refused : requiredCaller commons headers = .error answer) : answer.status = 403 := by
  obtain ⟨refusal, unknown, rfl⟩ := mapError_eq_error_iff.mp refused
  exact status_of_requiredHeaders unknown

theorem status_of_requiredParamMiddleware {param : String} {answer : HttpResponse commons.Errors}
    (refused : requiredParamMiddleware commons param = .error answer) : answer.status = 400 := by
  obtain ⟨errors, -, rfl⟩ := mapError_eq_error_iff.mp refused
  rfl

theorem status_of_requiredBodyPayloadMiddleware {body : Payload}
    {answer : HttpResponse commons.Errors}
    (refused : requiredBodyPayloadMiddleware commons decodePayload body = .error answer) :
    answer.status = 400 := by
  obtain ⟨errors, -, rfl⟩ := mapError_eq_error_iff.mp refused
  rfl

theorem status_of_eq_error {httpRequest : HttpRequest Payload}
    {answer : HttpResponse commons.Errors}
    (refused : withRequestMiddlewares commons decodePayload httpRequest = .error answer) :
    answer.status = 400 ∨ answer.status = 403 := by
  cases httpRequest with
  | createRCConfiguration headers body =>
      simp only [withRequestMiddlewares, bind_eq_error_iff] at refused
      obtain caller | ⟨_, _, payload | ⟨_, _, impossible⟩⟩ := refused
      · exact .inr (status_of_requiredCaller caller)
      · exact .inl (status_of_requiredBodyPayloadMiddleware payload)
      · cases impossible
  | getRCConfiguration headers param =>
      simp only [withRequestMiddlewares, bind_eq_error_iff] at refused
      obtain caller | ⟨_, _, named | ⟨_, _, impossible⟩⟩ := refused
      · exact .inr (status_of_requiredCaller caller)
      · exact .inl (status_of_requiredParamMiddleware named)
      · cases impossible
  | listRCConfiguration headers =>
      simp only [withRequestMiddlewares, bind_eq_error_iff] at refused
      obtain caller | ⟨_, _, impossible⟩ := refused
      · exact .inr (status_of_requiredCaller caller)
      · cases impossible
  | updateRCConfiguration headers param body =>
      simp only [withRequestMiddlewares, bind_eq_error_iff] at refused
      obtain caller | ⟨_, _, named | ⟨_, _, payload | ⟨_, _, impossible⟩⟩⟩ := refused
      · exact .inr (status_of_requiredCaller caller)
      · exact .inl (status_of_requiredParamMiddleware named)
      · exact .inl (status_of_requiredBodyPayloadMiddleware payload)
      · cases impossible

instance (request : Request) : Decidable (request.Passes config) :=
  match request with
  | .get _ caller => inferInstanceAs (Decidable (MayGet config caller))
  | .update _ _ caller => inferInstanceAs (Decidable caller.Authorized)
  | .create _ caller => inferInstanceAs (Decidable caller.Authorized)
  | .list caller => inferInstanceAs (Decidable caller.Authorized)

variable (commons config decodePayload) in
/-- The request does not get past the middlewares, or not past the check that
the handlers start with. -/
def refused (httpRequest : HttpRequest Payload) : Bool :=
  match withRequestMiddlewares commons decodePayload httpRequest with
  | .error _ => true
  | .ok request => !decide (request.Passes config)

variable (policy) in
theorem handler_of_refused {httpRequest : HttpRequest Payload}
    (isRefused : refused commons config decodePayload httpRequest = true) :
    ∃ answer, (endpoints commons config decodePayload policy).handler httpRequest = .done answer ∧
      (answer.status = 400 ∨ answer.status = 403) := by
  cases outcome : withRequestMiddlewares commons decodePayload httpRequest with
  | error answer =>
      refine ⟨answer, ?_, status_of_eq_error outcome⟩
      simp [endpoints, Guard.before, Guard.serve, middlewares, outcome]
  | ok request =>
      have unauthorized : ¬ request.Passes config := by
        simpa [refused, outcome] using isRefused
      refine ⟨.response responseErrorForbiddenNotAuthorized, ?_, .inr rfl⟩
      simp [endpoints, Guard.before, Guard.serve, Guard.wrap, middlewares, outcome, system,
        handler_of_not_passes commons config unauthorized]

section Runs

variable {Thread : Type} [DecidableEq Thread]

/-- Requests that are refused, for their headers, their path, their body or
their groups, can be left out of any schedule: they are answered 400 or 403, and
the store, the cache and the answers to everybody else are the same without
them. -/
theorem refused_requests_leave_no_trace {Payload : Type} (commons : Commons) (config : IConfig)
    (decodePayload : Payload → Except commons.Errors NewRCConfigurationPublic)
    (policy : Semantics Services World) {first : World}
    {current : Config Services World Thread (HttpRequest Payload) (HttpResponse commons.Errors)}
    (reaches : (endpoints commons config decodePayload policy).Reaches (.initial first) current) :
    (endpoints commons config decodePayload policy).Reaches (.initial first)
        (current.without (refused commons config decodePayload)) ∧
      ∀ thread httpRequest program, current.threads thread = some (httpRequest, program) →
        if refused commons config decodePayload httpRequest then
          ∃ answer, program = .done answer ∧ (answer.status = 400 ∨ answer.status = 403)
        else
          (current.without (refused commons config decodePayload)).threads thread =
            some (httpRequest, program) := by
  obtain ⟨reached, resting⟩ := reaches.without
    fun httpRequest isRefused =>
      (handler_of_refused policy isRefused).imp fun _ => And.left
  refine ⟨reached, fun thread httpRequest program running => ?_⟩
  split_ifs with isRefused
  · obtain ⟨answer, answered, status⟩ := handler_of_refused policy isRefused
    exact ⟨answer, (resting thread httpRequest program running isRefused).trans answered, status⟩
  · rw [Bool.not_eq_true] at isRefused
    simp only [Config.without, running]
    exact busyThread_of_busy isRefused program

end Runs

def Request.Writes : Request → RCConfiguration → Prop
  | .create newRCConfiguration caller, configuration =>
      ∃ ulid, configuration =
        makeNewRCConfigurationWithConfigurationId ulid caller.userId newRCConfiguration
  | .update newRCConfiguration configurationId caller, configuration =>
      configuration =
        makeNewRCConfigurationWithConfigurationId configurationId caller.userId newRCConfiguration
  | _, _ => False

theorem writes_of_allows_upsert {phase : Phase} {configuration : RCConfiguration}
    (allowed : phase.Allows commons config (.upsert configuration)) :
    phase.request.Writes configuration := by
  cases requestEq : phase.request with
  | update newRCConfiguration configurationId caller =>
      simp only [Phase.Allows, requestEq] at allowed
      exact allowed.2.2.2
  | get => simp [Phase.Allows, requestEq] at allowed
  | create => simp [Phase.Allows, requestEq] at allowed
  | list => simp [Phase.Allows, requestEq] at allowed

theorem writes_of_allows_create {phase : Phase} {configuration : RCConfiguration}
    (allowed : phase.Allows commons config (.create configuration)) :
    phase.request.Writes configuration := by
  cases requestEq : phase.request with
  | create newRCConfiguration caller =>
      simp only [Phase.Allows, requestEq] at allowed
      obtain ⟨ulid, -, built⟩ := allowed
      exact ⟨ulid, built⟩
  | get => simp [Phase.Allows, requestEq] at allowed
  | update => simp [Phase.Allows, requestEq] at allowed
  | list => simp [Phase.Allows, requestEq] at allowed

section Inside

variable {Thread : Type} [DecidableEq Thread]
  {current later : Config Services World Thread Request (Response Body)}

/-- Among the requests that were started, and may write, is one that asked to
store this document. -/
def Submitted (config : IConfig)
    (current : Config Services World Thread Request (Response Body))
    (configuration : RetrievedRCConfiguration) : Prop :=
  ∃ thread request program, current.threads thread = some (request, program) ∧
    request.Passes config ∧ request.Writes configuration.toRCConfiguration

theorem Submitted.kept {configuration : RetrievedRCConfiguration}
    (submitted : Submitted config current configuration)
    (reaches : (system commons config policy).Reaches current later) :
    Submitted config later configuration := by
  obtain ⟨thread, request, program, running, passes, writes⟩ := submitted
  obtain ⟨rest, goesOn⟩ := reaches.keeps running
  exact ⟨thread, request, rest, goesOn, passes, writes⟩

theorem follows_of_reaches {first : World}
    (reaches : (system commons config policy).Reaches (.initial first) current) :
    Follows (system commons config policy) (fun _ => True) current :=
  (follows_initial first).reaches (fun _ _ _ _ _ => trivial) reaches

theorem passes_of_call (follows : Follows (system commons config policy) (fun _ => True) current)
    {thread : Thread} {request : Request} {command : Command}
    {next : Services.Reply command → Program Services (Response Body)}
    (running : current.threads thread = some (request, .call command next)) :
    request.Passes config := by
  by_contra unauthorized
  have advances := follows.advances running
  generalize eventsOf thread current.trace = events at advances
  simp only [system, handler_of_not_passes commons config unauthorized] at advances
  cases advances

theorem submitted_of_reaches
    (reaches : (system commons config policy).Reaches (.initial World.empty) current) :
    ∀ configuration ∈ current.world.store.commits, Submitted config current configuration := by
  induction reaches with
  | refl => simp [Config.initial, World.empty, Store.empty]
  | @tail before after earlier step inductionHypothesis =>
      have kept : ∀ configuration ∈ before.world.store.commits,
          Submitted config after configuration := fun configuration membership =>
        (inductionHypothesis configuration membership).kept (.single step)
      have sound := (sound_initial cacheAuthentic_empty).reaches earlier
      have follows := follows_of_reaches earlier
      intro configuration membership
      have taken := step
      cases step with
      | start => exact kept configuration membership
      | drift _ drifted =>
          apply kept
          rwa [← drifted.store_eq]
      | command thread request command next reply world running executed =>
          obtain ⟨phase, here, served, allowed, -⟩ := sound.governs.conforms running
          obtain ⟨rest, goesOn⟩ := System.Reaches.keeps (.single taken) running
          have passes := passes_of_call follows running
          rw [lifecycle_request] at served
          subst served
          rcases exec_cases executed.1 with rfl | ⟨_, _, rfl⟩ | ⟨_, _, _, _, rfl⟩ |
            ⟨committed, rfl, replaced | ⟨created, -⟩⟩
          · exact kept configuration membership
          · exact kept configuration membership
          · exact kept configuration membership
          · subst replaced
            rcases List.mem_cons.mp membership with rfl | older
            · exact ⟨thread, _, rest, goesOn, passes, writes_of_allows_upsert allowed⟩
            · exact kept configuration older
          · subst created
            rcases List.mem_cons.mp membership with rfl | older
            · exact ⟨thread, _, rest, goesOn, passes, writes_of_allows_create allowed⟩
            · exact kept configuration older

/-- What the replies that a list is made of say about the store. -/
def Vouches (commons : Commons) (world : World) : Event Services → Prop
  | ⟨.findAllByUserId userId, .ok configList⟩ =>
      ∀ entry ∈ configList, ∀ configurationId, commons.decodeUlid entry.id = .ok configurationId →
        ∃ configuration ∈ world.store.commits,
          configuration.configurationId = configurationId ∧ configuration.userId = userId
  | ⟨.findAllByConfigurationId configurationIds, .ok retrievedConfigurations⟩ =>
      ∀ configuration ∈ retrievedConfigurations,
        configuration ∈ world.store.commits ∧ configuration.configurationId ∈ configurationIds
  | _ => True

theorem Vouches.mono {world world' : World} {event : Event Services}
    (vouches : Vouches commons world event)
    (grows : ∀ configuration ∈ world.store.commits, configuration ∈ world'.store.commits) :
    Vouches commons world' event := by
  obtain ⟨command, reply⟩ := event
  cases command with
  | findAllByUserId userId =>
      cases reply with
      | error error => trivial
      | ok configList =>
          intro entry listed configurationId decoded
          obtain ⟨configuration, membership, named⟩ := vouches entry listed configurationId decoded
          exact ⟨configuration, grows _ membership, named⟩
  | findAllByConfigurationId configurationIds =>
      cases reply with
      | error error => trivial
      | ok retrievedConfigurations =>
          intro configuration listed
          exact ⟨grows _ (vouches configuration listed).1, (vouches configuration listed).2⟩
  | _ => trivial

theorem vouches_of_exec {world world' : World} {command : Command}
    {reply : Services.Reply command} (indexed : Indexed commons world)
    (executed : exec world command reply world') : Vouches commons world' ⟨command, reply⟩ := by
  cases command with
  | findAllByUserId userId =>
      cases reply with
      | error error => trivial
      | ok configList =>
          obtain ⟨rfl, answers⟩ := executed
          obtain rfl := answers configList rfl
          intro entry listed configurationId decoded
          obtain ⟨configuration, found, owner⟩ :=
            indexed.owned userId entry listed configurationId decoded
          exact ⟨configuration, Store.mem_commits_of_findByConfigurationId found,
            Store.configurationId_of_findByConfigurationId found, owner⟩
  | findAllByConfigurationId configurationIds =>
      cases reply with
      | error error => trivial
      | ok retrievedConfigurations =>
          obtain ⟨rfl, answers⟩ := executed
          obtain ⟨-, members⟩ := answers retrievedConfigurations rfl
          intro configuration listed
          obtain ⟨configurationId, membership, found⟩ := (members configuration).mp listed
          have named := Store.configurationId_of_findByConfigurationId found
          exact ⟨Store.mem_commits_of_findByConfigurationId found, by rwa [named]⟩
  | _ => trivial

theorem vouches_of_reaches
    (reaches : (system commons config policy).Reaches (.initial World.empty) current)
    {thread : Thread} {event : Event Services}
    (issued : .command thread event ∈ current.trace) : Vouches commons current.world event := by
  refine reaches.events (Vouches commons) ?_ ?_ issued
  · intro before earlier command reply world' executed
    have indexed := (sound_initial cacheAuthentic_empty).indexed ownersAgree_empty indexed_empty
      earlier
    exact vouches_of_exec indexed executed.1
  · intro before after _ step event vouches
    exact vouches.mono (commits_of_reaches (.single step))

/-- A list is made of the index of the caller and of what the store has under
its identifiers. -/
theorem events_of_listed {caller : Caller} {events : List (Event Services)}
    {list : RCConfigurationListResponse}
    (runs : Runs (anyReply fun _ => True) .unit (listRCConfigurationHandler commons caller) events
      (.successJson (.configurationList list)) .unit) :
    caller.Authorized ∧ ∃ configList retrievedConfigurations,
      events = [⟨.findAllByUserId caller.userId, .ok configList⟩,
        ⟨.findAllByConfigurationId (configIdList commons configList),
          .ok retrievedConfigurations⟩] ∧
      list.rcConfigList =
        retrievedConfigurations.map (listedConfiguration commons caller.userId) := by
  by_cases authorized : caller.Authorized
  · rw [listRCConfigurationHandler_of_authorized commons authorized] at runs
    obtain ⟨reply, _, rest, -, rfl, retrieving⟩ := runs_call_iff.mp runs
    cases reply with
    | error error =>
        obtain ⟨-, impossible, -⟩ := runs_done_iff.mp retrieving
        cases impossible
    | ok configList =>
        obtain ⟨reply, _, rest', -, rfl, ending⟩ := runs_call_iff.mp retrieving
        cases reply with
        | error error =>
            obtain ⟨-, impossible, -⟩ := runs_done_iff.mp ending
            cases impossible
        | ok retrievedConfigurations =>
            obtain ⟨rfl, same, -⟩ := runs_done_iff.mp ending
            simp only [listResponse, Response.successJson.injEq, Body.configurationList.injEq]
              at same
            subst same
            exact ⟨authorized, configList, retrievedConfigurations, rfl, rfl⟩
  · rw [listRCConfigurationHandler_of_not_authorized commons authorized] at runs
    obtain ⟨-, impossible, -⟩ := runs_done_iff.mp runs
    cases impossible

theorem committed_of_listed
    (reaches : (system commons config policy).Reaches (.initial World.empty) current)
    {thread : Thread} {caller : Caller} {list : RCConfigurationListResponse}
    (answered : current.Answered thread (.list caller) (.successJson (.configurationList list)))
    {element : RCConfigurationResponse} (listed : element ∈ list.rcConfigList) :
    caller.Authorized ∧ ∃ configuration ∈ current.world.store.commits,
      configuration.userId = caller.userId ∧
        element = listedConfiguration commons caller.userId configuration := by
  have vouched : ∀ event ∈ eventsOf thread current.trace, Vouches commons current.world event :=
    fun event membership => vouches_of_reaches reaches ((mem_eventsOf_iff _ _).mp membership)
  obtain ⟨authorized, configList, retrievedConfigurations, events, elements⟩ :=
    events_of_listed ((follows_of_reaches reaches).runs answered)
  rw [events] at vouched
  have indexed : Vouches commons current.world
      ⟨.findAllByUserId caller.userId, .ok configList⟩ := vouched _ (by simp)
  have stored : Vouches commons current.world ⟨.findAllByConfigurationId
      (configIdList commons configList), .ok retrievedConfigurations⟩ := vouched _ (by simp)
  rw [elements] at listed
  obtain ⟨configuration, retrieved, rfl⟩ := List.mem_map.mp listed
  obtain ⟨membership, asked⟩ := stored configuration retrieved
  obtain ⟨entry, inIndex, decoded⟩ := mem_configIdList.mp asked
  obtain ⟨owned, membershipToo, named, owner⟩ := indexed entry inIndex _ decoded
  have owners := (sound_initial cacheAuthentic_empty).ownersAgree ownersAgree_empty reaches
  exact ⟨authorized, configuration, membership,
    (owners _ membership _ membershipToo named.symm).trans owner, rfl⟩

theorem passes_of_answered
    (reaches : (system commons config policy).Reaches (.initial World.empty) current)
    {thread : Thread} {request : Request} {response : Response Body}
    (answered : current.Answered thread request response)
    (granted : response ≠ responseErrorForbiddenNotAuthorized) : request.Passes config := by
  by_contra unauthorized
  have runs := (follows_of_reaches reaches).runs answered
  simp only [system, handler_of_not_passes commons config unauthorized] at runs
  obtain ⟨-, same, -⟩ := runs_done_iff.mp runs
  exact granted same

end Inside

/-- The response to a request shows the configuration of a user. -/
inductive Shows {Payload Errors : Type} :
    HttpRequest Payload → HttpResponse Errors → RCConfigurationResponse → Prop where
  | get {headers param shown} :
      Shows (.getRCConfiguration headers param)
        (.response (.successJson (.configuration shown))) shown
  | list {headers list shown} :
      shown ∈ list.rcConfigList →
      Shows (.listRCConfiguration headers)
        (.response (.successJson (.configurationList list))) shown

/-- The request asks for what is shown, on behalf of its owner or of the
internal user. -/
inductive MaySee {Payload : Type} (commons : Commons) (config : IConfig)
    (shown : RCConfigurationResponse) : HttpRequest Payload → Prop where
  | get {headers param caller} :
      requiredHeaders headers = .ok caller →
      MayGet config caller →
      commons.decodeUlid param = .ok shown.configuration_id →
      config.internalUserId.val = caller.userId ∨ shown.user_id = caller.userId →
      MaySee commons config shown (.getRCConfiguration headers param)
  | list {headers caller} :
      requiredHeaders headers = .ok caller →
      caller.Authorized →
      shown.user_id = caller.userId →
      MaySee commons config shown (.listRCConfiguration headers)

/-- The body of the request is what is shown, on behalf of an owner who may
write. -/
inductive Submits {Payload : Type} (commons : Commons)
    (decodePayload : Payload → Except commons.Errors NewRCConfigurationPublic)
    (shown : RCConfigurationResponse) : HttpRequest Payload → Prop where
  | create {headers body caller newRCConfiguration} :
      requiredHeaders headers = .ok caller →
      caller.Authorized →
      decodePayload body = .ok newRCConfiguration →
      shown = { newRCConfiguration with
        configuration_id := shown.configuration_id, user_id := caller.userId } →
      Submits commons decodePayload shown (.createRCConfiguration headers body)
  | update {headers param body caller newRCConfiguration} :
      requiredHeaders headers = .ok caller →
      caller.Authorized →
      commons.decodeUlid param = .ok shown.configuration_id →
      decodePayload body = .ok newRCConfiguration →
      shown = { newRCConfiguration with
        configuration_id := shown.configuration_id, user_id := caller.userId } →
      Submits commons decodePayload shown (.updateRCConfiguration headers param body)

theorem configurationResponse_of_built {configuration : RetrievedRCConfiguration} {ulid : Ulid}
    {userId : String} {newRCConfiguration : NewRCConfigurationPublic}
    (built : configuration.toRCConfiguration =
      makeNewRCConfigurationWithConfigurationId ulid userId newRCConfiguration) :
    configurationResponse commons configuration =
      { newRCConfiguration with configuration_id := ulid, user_id := userId } := by
  rw [configurationResponse, commons.retrievedRCConfigurationToPublic_eq, userId_of_built built,
    built, toPublic_makeNewRCConfigurationWithConfigurationId]

theorem listedConfiguration_eq {configuration : RetrievedRCConfiguration} {userId : String}
    (owner : configuration.userId = userId) :
    listedConfiguration commons userId configuration =
      configurationResponse commons configuration := by
  rw [listedConfiguration, configurationResponse, owner]

theorem submits_of_writes {httpRequest : HttpRequest Payload} {request : Request}
    {configuration : RetrievedRCConfiguration}
    (admitted : Admitted commons decodePayload httpRequest request)
    (passes : request.Passes config) (writes : request.Writes configuration.toRCConfiguration) :
    Submits commons decodePayload (configurationResponse commons configuration) httpRequest := by
  cases admitted with
  | create known decoded =>
      obtain ⟨ulid, built⟩ := writes
      rw [configurationResponse_of_built built]
      exact .create known passes decoded rfl
  | update known named decoded =>
      rw [configurationResponse_of_built writes]
      exact .update known passes named decoded rfl
  | get => cases writes
  | list => cases writes

section Outside

variable {Thread : Type} [DecidableEq Thread]

/-- In every interleaving of requests as they arrive: what is shown of a
configuration is shown to its owner or to the internal user, and is to the last
field what its owner, who may write, has submitted in the body of one request. -/
theorem shown_was_submitted {Payload : Type} (commons : Commons) (config : IConfig)
    (decodePayload : Payload → Except commons.Errors NewRCConfigurationPublic)
    (policy : Semantics Services World)
    {current : Config Services World Thread (HttpRequest Payload) (HttpResponse commons.Errors)}
    (reaches : (endpoints commons config decodePayload policy).Reaches (.initial World.empty)
      current)
    {reader : Thread} {httpRequest : HttpRequest Payload}
    {httpResponse : HttpResponse commons.Errors} {shown : RCConfigurationResponse}
    (answered : current.Answered reader httpRequest httpResponse)
    (shows : Shows httpRequest httpResponse shown) :
    MaySee commons config shown httpRequest ∧
      ∃ writer submission program, current.threads writer = some (submission, program) ∧
        Submits commons decodePayload shown submission := by
  obtain ⟨inside, insideReaches, behind⟩ := (Guard.behind_initial World.empty).reaches reaches
  have sound := (sound_initial cacheAuthentic_empty).reaches insideReaches
  have submitted : ∀ configuration ∈ inside.world.store.commits,
      ∃ writer submission program, current.threads writer = some (submission, program) ∧
        Submits commons decodePayload (configurationResponse commons configuration)
          submission := by
    intro configuration membership
    obtain ⟨writer, request, program, running, passes, writes⟩ :=
      submitted_of_reaches insideReaches configuration membership
    obtain ⟨submission, admits, here⟩ := behind.exists_of_admitted running
    exact ⟨writer, submission, _, here,
      submits_of_writes (admitted_of_eq_ok admits) passes writes⟩
  obtain refusal | ⟨request, response, admits, same, insideAnswered⟩ := behind.answered answered
  · -- a refusal shows nothing
    have status := status_of_eq_error refusal
    cases shows <;> simp [HttpResponse.status, Response.status] at status
  · have admitted := admitted_of_eq_ok admits
    cases shows with
    | get =>
        cases admitted with
        | get known named =>
            obtain rfl := HttpResponse.response.inj same
            obtain ⟨configuration, membership, namedToo, allowed, body⟩ :=
              sound.body_committed insideAnswered
            cases body
            refine ⟨.get known (passes_of_answered insideReaches insideAnswered (by simp [
              responseErrorForbiddenNotAuthorized])) ?_ allowed, submitted _ membership⟩
            rw [named, ← namedToo, configurationResponse,
              commons.retrievedRCConfigurationToPublic_eq]
            rfl
    | list listed =>
        cases admitted with
        | list known =>
            obtain rfl := HttpResponse.response.inj same
            obtain ⟨authorized, configuration, membership, owner, rfl⟩ :=
              committed_of_listed insideReaches insideAnswered listed
            refine ⟨.list known authorized rfl, ?_⟩
            rw [listedConfiguration_eq owner]
            exact submitted _ membership

end Outside

theorem advances_endpoints {httpRequest : HttpRequest Payload} {request : Request}
    (admitted : Admitted commons decodePayload httpRequest request) {world final : World}
    {events : List (Event Services)} {response : Response Body}
    (runs : Runs (exec.restrict policy) world (handler commons config request) events response
      final) :
    Advances (endpoints commons config decodePayload policy).exec world
      ((endpoints commons config decodePayload policy).handler httpRequest) events
      (.done (.response response)) final := by
  have served : (endpoints commons config decodePayload policy).handler httpRequest =
      (middlewares commons decodePayload).wrap (handler commons config request) := by
    simp [endpoints, Guard.before, Guard.serve, middlewares, admitted.eq_ok, system]
  rw [served]
  exact runs.advances.bind _

def someHeaders : Headers
  | "x-user-id" => some "/subscriptions/aSubscriptionId/users/aUserId"
  | "x-subscription-id" => some "MANAGE-aSubscriptionId"
  | "x-user-groups" => some "GroupA,GroupB,GroupC,ApiRemoteContentConfigurationWrite"
  | _ => none

abbrev sampleEndpoints : System Services World (HttpRequest NewRCConfigurationPublic)
    (HttpResponse Commons.standard.Errors) :=
  endpoints Commons.standard aConfig .ok storeAvailable

abbrev SampleConfig : Type :=
  Config Services World ℕ (HttpRequest NewRCConfigurationPublic)
    (HttpResponse Commons.standard.Errors)

theorem admitted_sample_post : @Admitted NewRCConfigurationPublic Commons.standard .ok
    (.createRCConfiguration someHeaders aPublicRemoteContentConfiguration)
    (.create aPublicRemoteContentConfiguration aCaller) :=
  .create (by rfl) rfl

theorem decodeUlid_aConfigurationId :
    Commons.standard.decodeUlid aConfigurationId.text = .ok aConfigurationId := by
  have valid : isUlid aConfigurationId.text = true := by decide
  simp [Commons.standard, valid]

theorem admitted_sample_get : @Admitted NewRCConfigurationPublic Commons.standard .ok
    (.getRCConfiguration someHeaders aConfigurationId.text) (.get aConfigurationId aCaller) :=
  .get (by rfl) decodeUlid_aConfigurationId

theorem reaches_sample_post :
    ∃ current : SampleConfig, sampleEndpoints.Reaches (.initial World.empty) current ∧
      current.world = aStoredWorld ∧ current.threads 1 = none ∧
      current.Answered 0 (.createRCConfiguration someHeaders aPublicRemoteContentConfiguration)
        (.response (createdResponse Commons.standard aRetrievedRCConfiguration)) := by
  obtain ⟨current, reaches, arrived, answered, others, -⟩ :=
    sampleEndpoints.reaches_of_start 0 _ (.initial World.empty)
      (advances_endpoints admitted_sample_post (runs_sample_create permissive_storeAvailable)) rfl
  exact ⟨current, reaches, arrived, others 1 (by decide), answered⟩

theorem runs_sample_read : ∃ events final, Runs (exec.restrict storeAvailable) aStoredWorld
    (handler Commons.standard aConfig (.get aConfigurationId aCaller)) events
    (.successJson (.configuration
      (configurationResponse Commons.standard aRetrievedRCConfiguration))) final := by
  obtain ⟨events, response, final, runs⟩ : ∃ events response final,
      Runs (exec.restrict storeAvailable) aStoredWorld
        (handler Commons.standard aConfig (.get aConfigurationId aCaller)) events response final :=
    request_answered permissive_storeAvailable aStoredWorld (by simp)
  have reads : Ensures (exec.restrict storeAvailable) aStoredWorld
      (handler Commons.standard aConfig (.get aRetrievedRCConfiguration.configurationId aCaller))
      _ := get_of_stored aCaller_authorized aStoredWorld_stored rfl
  obtain rfl := reads events response final runs (.inl rfl)
  exact ⟨events, final, runs⟩

/-- A configuration is posted, and a listing without headers is refused. -/
theorem refused_requests_leave_no_trace_sample :
    ∃ (current : SampleConfig) (answer : HttpResponse Commons.standard.Errors),
      sampleEndpoints.Reaches (.initial World.empty) current ∧
        current.Answered 1 (.listRCConfiguration fun _ => none) answer ∧
        (answer.status = 400 ∨ answer.status = 403) ∧
        sampleEndpoints.Reaches (.initial World.empty)
          (current.without (refused Commons.standard aConfig .ok)) ∧
        (current.without (refused Commons.standard aConfig .ok)).threads 1 = none ∧
        (current.without (refused Commons.standard aConfig .ok)).Answered 0
          (.createRCConfiguration someHeaders aPublicRemoteContentConfiguration)
          (.response (createdResponse Commons.standard aRetrievedRCConfiguration)) := by
  obtain ⟨middle, posted, stored, fresh, created⟩ := reaches_sample_post
  obtain ⟨current, refusal, -, started, -⟩ := sampleEndpoints.reaches_of_start 1
    (.listRCConfiguration fun _ => none) middle .refl fresh
  obtain ⟨without, served⟩ := refused_requests_leave_no_trace Commons.standard aConfig .ok
    storeAvailable (posted.trans refusal)
  have atOnce := served 1 _ _ started
  rw [if_pos (by rfl)] at atOnce
  obtain ⟨answer, answered, status⟩ := atOnce
  have kept := served 0 _ _ (refusal.answered created)
  rw [if_neg (by decide)] at kept
  rw [answered] at started
  refine ⟨current, answer, posted.trans refusal, started, status, without, ?_, kept⟩
  simp only [Config.without, started]
  exact busyThread_of_idle (by rfl) _

theorem shown_was_submitted_sample :
    ∃ (current : SampleConfig) (writer : ℕ) (submission : _) (program : _),
      sampleEndpoints.Reaches (.initial World.empty) current ∧
        current.threads writer = some (submission, program) ∧
        Submits Commons.standard .ok
          (configurationResponse Commons.standard aRetrievedRCConfiguration) submission := by
  obtain ⟨middle, posted, stored, fresh, -⟩ := reaches_sample_post
  obtain ⟨events, final, runs⟩ := runs_sample_read
  rw [← stored] at runs
  obtain ⟨current, read, -, answered, -⟩ := sampleEndpoints.reaches_of_start 1 _ middle
    (advances_endpoints admitted_sample_get runs) fresh
  obtain ⟨-, writer, submission, program, running, submits⟩ := shown_was_submitted
    Commons.standard aConfig .ok storeAvailable (posted.trans read) answered .get
  exact ⟨current, writer, submission, program, posted.trans read, running, submits⟩

end ServiceMessages.RemoteContent

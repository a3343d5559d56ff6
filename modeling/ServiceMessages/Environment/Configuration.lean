import ServiceMessages.RemoteContent.CacheLifetime

/-!
# The configuration

The configuration is decoded from the environment when the application starts,
as a whole: it is accepted when every variable is, and else the errors name the
variables that are not.  What is accepted can be written and read again.
-/

namespace ServiceMessages.Environment

/-- The codecs of intersections and unions on the way are named by their
positions. -/
structure ValidationError where
  codecs : List String
  variableName : String
  place : List String

def Setting.errors (codecs : List String) (environment : ProcessEnv) (setting : Setting) :
    List ValidationError :=
  match setting.validate environment with
  | .ok _ => []
  | .error places => places.map fun place => ⟨codecs, setting.name, place⟩

/-- In production no service may be given, and elsewhere one has to be. -/
inductive ReqServiceIdConfig where
  | production
  | elsewhere (NODE_ENV : { text : String // text ≠ "production" })
      (REQ_SERVICE_ID : NonEmptyString)

def productionErrors (environment : ProcessEnv) : List ValidationError :=
  (if environment "NODE_ENV" = some "production" then []
    else [⟨["1", "0"], "NODE_ENV", []⟩]) ++
  if environment "REQ_SERVICE_ID" = none then [] else [⟨["1", "0"], "REQ_SERVICE_ID", []⟩]

def elsewhereErrors (environment : ProcessEnv) : List ValidationError :=
  (if environment "NODE_ENV" ≠ none ∧ environment "NODE_ENV" ≠ some "production" then []
    else [⟨["1", "1"], "NODE_ENV", []⟩]) ++
  if environment "REQ_SERVICE_ID" ≠ none ∧ environment "REQ_SERVICE_ID" ≠ some "" then []
    else [⟨["1", "1"], "REQ_SERVICE_ID", []⟩]

def validateReqServiceIdConfig (environment : ProcessEnv) :
    Except (List ValidationError) ReqServiceIdConfig :=
  match environment "NODE_ENV", environment "REQ_SERVICE_ID" with
  | some nodeEnv, none =>
      if nodeEnv = "production" then .ok .production
      else .error (productionErrors environment ++ elsewhereErrors environment)
  | some nodeEnv, some reqServiceId =>
      if accepted : nodeEnv ≠ "production" ∧ reqServiceId ≠ "" then
        .ok (.elsewhere ⟨nodeEnv, accepted.1⟩ ⟨reqServiceId, accepted.2⟩)
      else .error (productionErrors environment ++ elsewhereErrors environment)
  | none, _ => .error (productionErrors environment ++ elsewhereErrors environment)

structure IConfig where
  values : (setting : Setting) → setting.kind.Value
  reqServiceIdConfig : ReqServiceIdConfig
  MESSAGE_CONFIGURATION_CHANGE_FEED_START_TIME : ℕ
  isProduction : Bool
  REDIS_CLUSTER_ENABLED : Option Bool
  REDIS_TLS_ENABLED : Option Bool

/-- The errors of the three codecs that are intersected, the last of which is an
intersection as well. -/
def errors (environment : ProcessEnv) : List ValidationError :=
  Setting.application.flatMap (Setting.errors ["0"] environment) ++
    (match validateReqServiceIdConfig environment with
      | .ok _ => []
      | .error errors => errors) ++
    Setting.redisParams.flatMap (Setting.errors ["2", "0"] environment) ++
    Setting.partialRedisParams.flatMap (Setting.errors ["2", "1"] environment)

/-- What a flag of the cache says, if it is set at all.  Only capital letters
have these letters as their small ones. -/
def enabled? (text : Option String) : Option Bool :=
  text.map fun text => text.toList.map Char.toLower == "true".toList

/-- Some of the values are computed before the rest is decoded, and need no
validation any more. -/
def IConfig.decode (environment : ProcessEnv) : Except (List ValidationError) IConfig :=
  if accepted : ∀ setting ∈ Setting.all, (setting.validate environment).toOption.isSome then
    match validateReqServiceIdConfig environment with
    | .ok reqServiceIdConfig =>
        .ok
          { values := fun setting =>
              (setting.validate environment).toOption.get (accepted setting setting.mem_all)
            reqServiceIdConfig := reqServiceIdConfig
            MESSAGE_CONFIGURATION_CHANGE_FEED_START_TIME :=
              ((environment "MESSAGE_CONFIGURATION_CHANGE_FEED_START_TIME").bind
                nonNegativeIntegerFromString).getD 0
            isProduction := environment "NODE_ENV" == some "production"
            REDIS_CLUSTER_ENABLED := enabled? (environment "REDIS_CLUSTER_ENABLED")
            REDIS_TLS_ENABLED := enabled? (environment "REDIS_TLS_ENABLED") }
    | .error _ => .error (errors environment)
  else .error (errors environment)

section Environment

variable (environment : ProcessEnv)

/-- One of the two alternatives applies. -/
def AcceptsReqServiceId : Prop :=
  environment "NODE_ENV" = some "production" ∧ environment "REQ_SERVICE_ID" = none ∨
    (∃ nodeEnv, environment "NODE_ENV" = some nodeEnv ∧ nodeEnv ≠ "production") ∧
      ∃ reqServiceId, environment "REQ_SERVICE_ID" = some reqServiceId ∧ reqServiceId ≠ ""

/-- The variable is not what the configuration asks for. -/
inductive Faulty : String → Prop where
  | setting (setting : Setting) :
      ¬ setting.kind.Accepts (environment setting.name) → Faulty setting.name
  | nodeEnv : ¬ AcceptsReqServiceId environment → Faulty "NODE_ENV"
  | reqServiceId : ¬ AcceptsReqServiceId environment → Faulty "REQ_SERVICE_ID"

variable {environment}

def Names (errors : List ValidationError) (name : String) : Prop :=
  ∃ error ∈ errors, error.variableName = name

theorem names_append {first second : List ValidationError} {name : String} :
    Names (first ++ second) name ↔ Names first name ∨ Names second name := by
  simp [Names, or_and_right, exists_or]

theorem names_errors (codecs : List String) {setting : Setting} {name : String} :
    Names (setting.errors codecs environment) name ↔
      setting.name = name ∧ ¬ setting.kind.Accepts (environment setting.name) := by
  have judged := judged_validate setting.kind (environment setting.name)
  unfold Setting.errors Setting.validate
  generalize setting.kind.validate (environment setting.name) = outcome at judged
  cases judged with
  | accepted value accepts => simp [Names, accepts]
  | @refused places _ wrong refuses =>
      obtain ⟨place, others, rfl⟩ := List.exists_cons_of_ne_nil wrong
      simp only [Names, List.mem_map]
      constructor
      · rintro ⟨_, ⟨place, -, rfl⟩, same⟩
        exact ⟨same, refuses⟩
      · rintro ⟨same, -⟩
        exact ⟨_, ⟨place, List.mem_cons_self, rfl⟩, same⟩

theorem names_flatMap_errors (codecs : List String) {settings : List Setting} {name : String} :
    Names (settings.flatMap (Setting.errors codecs environment)) name ↔
      ∃ setting ∈ settings, setting.name = name ∧
        ¬ setting.kind.Accepts (environment setting.name) := by
  simp only [← names_errors codecs]
  constructor
  · rintro ⟨error, listed, same⟩
    obtain ⟨setting, member, listed⟩ := List.mem_flatMap.mp listed
    exact ⟨setting, member, error, listed, same⟩
  · rintro ⟨setting, member, error, listed, same⟩
    exact ⟨error, List.mem_flatMap.mpr ⟨setting, member, listed⟩, same⟩

theorem names_ite {condition : Prop} [Decidable condition] {error : ValidationError}
    {name : String} :
    Names (if condition then [] else [error]) name ↔
      ¬ condition ∧ name = error.variableName := by
  split_ifs with holds
  · simp [Names, holds]
  · simp [Names, holds, eq_comm]

theorem names_reqServiceIdErrors {name : String} :
    Names (productionErrors environment ++ elsewhereErrors environment) name ↔
      name = "NODE_ENV" ∨ name = "REQ_SERVICE_ID" := by
  simp only [productionErrors, elsewhereErrors, names_append, names_ite]
  constructor
  · rintro ((⟨-, same⟩ | ⟨-, same⟩) | ⟨-, same⟩ | ⟨-, same⟩)
    · exact .inl same
    · exact .inr same
    · exact .inl same
    · exact .inr same
  · rintro (same | same)
    · by_cases isProduction : environment "NODE_ENV" = some "production"
      · exact .inr (.inl ⟨fun other => other.2 isProduction, same⟩)
      · exact .inl (.inl ⟨isProduction, same⟩)
    · by_cases absent : environment "REQ_SERVICE_ID" = none
      · exact .inr (.inr ⟨fun given => given.1 absent, same⟩)
      · exact .inl (.inr ⟨absent, same⟩)

variable (environment) in
inductive JudgedReqServiceId :
    Except (List ValidationError) ReqServiceIdConfig → Prop where
  | accepted (value) : AcceptsReqServiceId environment → JudgedReqServiceId (.ok value)
  | refused : ¬ AcceptsReqServiceId environment →
      JudgedReqServiceId (.error (productionErrors environment ++ elsewhereErrors environment))

variable (environment) in
theorem judged_validateReqServiceIdConfig :
    JudgedReqServiceId environment (validateReqServiceIdConfig environment) := by
  unfold validateReqServiceIdConfig
  split
  · rename_i nodeEnv given absent
    split_ifs with isProduction
    · exact .accepted _ (.inl ⟨by rw [given, isProduction], absent⟩)
    · refine .refused ?_
      simp [AcceptsReqServiceId, given, absent, isProduction]
  · rename_i nodeEnv reqServiceId given named
    split_ifs with accepted
    · exact .accepted _ (.inr ⟨⟨nodeEnv, given, accepted.1⟩, reqServiceId, named, accepted.2⟩)
    · refine .refused ?_
      simpa [AcceptsReqServiceId, given, named] using accepted
  · rename_i absent
    refine .refused ?_
    simp [AcceptsReqServiceId, absent]

theorem names_of_validateReqServiceIdConfig {name : String} :
    Names (match validateReqServiceIdConfig environment with
      | .ok _ => []
      | .error errors => errors) name ↔
      (name = "NODE_ENV" ∨ name = "REQ_SERVICE_ID") ∧ ¬ AcceptsReqServiceId environment := by
  have judged := judged_validateReqServiceIdConfig environment
  generalize validateReqServiceIdConfig environment = outcome at judged
  cases judged with
  | accepted value accepts => simp [Names, accepts]
  | refused refuses => simp [names_reqServiceIdErrors, refuses]

theorem names_errors_iff_faulty {name : String} :
    Names (errors environment) name ↔ Faulty environment name := by
  simp only [errors, names_append, names_flatMap_errors, names_of_validateReqServiceIdConfig]
  constructor
  · rintro (((⟨setting, -, rfl, refuses⟩ | ⟨rfl | rfl, refuses⟩) | ⟨setting, -, rfl, refuses⟩) |
      ⟨setting, -, rfl, refuses⟩)
    · exact .setting setting refuses
    · exact .nodeEnv refuses
    · exact .reqServiceId refuses
    · exact .setting setting refuses
    · exact .setting setting refuses
  · intro faulty
    cases faulty with
    | setting setting refuses =>
        have member := setting.mem_all
        rw [Setting.all, List.mem_append, List.mem_append] at member
        rcases member with (member | member) | member
        · exact .inl (.inl (.inl ⟨setting, member, rfl, refuses⟩))
        · exact .inl (.inr ⟨setting, member, rfl, refuses⟩)
        · exact .inr ⟨setting, member, rfl, refuses⟩
    | nodeEnv refuses => exact .inl (.inl (.inr ⟨.inl rfl, refuses⟩))
    | reqServiceId refuses => exact .inl (.inl (.inr ⟨.inr rfl, refuses⟩))

end Environment

def IConfig.writeOther (config : IConfig) : String → Option String
  | "NODE_ENV" =>
      match config.reqServiceIdConfig with
      | .production => some "production"
      | .elsewhere nodeEnv _ => some nodeEnv.val
  | "REQ_SERVICE_ID" =>
      match config.reqServiceIdConfig with
      | .production => none
      | .elsewhere _ reqServiceId => some reqServiceId.val
  | "MESSAGE_CONFIGURATION_CHANGE_FEED_START_TIME" =>
      Kind.nonNegativeInteger.write config.MESSAGE_CONFIGURATION_CHANGE_FEED_START_TIME
  | "REDIS_CLUSTER_ENABLED" => config.REDIS_CLUSTER_ENABLED.bind Kind.boolean.write
  | "REDIS_TLS_ENABLED" => config.REDIS_TLS_ENABLED.bind Kind.boolean.write
  | _ => none

def IConfig.toEnvironment (config : IConfig) : ProcessEnv := fun name =>
  match Setting.all.find? fun setting => setting.name = name with
  | some setting => setting.kind.write (config.values setting)
  | none => config.writeOther name

section Written

variable {environment : ProcessEnv} {config : IConfig}

theorem toEnvironment_name (setting : Setting) :
    config.toEnvironment setting.name = setting.kind.write (config.values setting) := by
  have found : (Setting.all.find? fun other => other.name = setting.name) = some setting := by
    cases setting <;> rfl
  simp only [IConfig.toEnvironment, found]

theorem toEnvironment_of_missing {name : String}
    (missing : (Setting.all.find? fun setting => setting.name = name) = none) :
    config.toEnvironment name = config.writeOther name := by
  simp only [IConfig.toEnvironment, missing]

/-- The alternative that applies, with what its variables say. -/
def ReqServiceIdConfig.Means (environment : ProcessEnv) : ReqServiceIdConfig → Prop
  | .production =>
      environment "NODE_ENV" = some "production" ∧ environment "REQ_SERVICE_ID" = none
  | .elsewhere nodeEnv reqServiceId =>
      environment "NODE_ENV" = some nodeEnv.val ∧
        environment "REQ_SERVICE_ID" = some reqServiceId.val

theorem validateReqServiceIdConfig_eq_ok_iff {reqServiceIdConfig : ReqServiceIdConfig} :
    validateReqServiceIdConfig environment = .ok reqServiceIdConfig ↔
      reqServiceIdConfig.Means environment := by
  constructor
  · intro validated
    unfold validateReqServiceIdConfig at validated
    split at validated
    · rename_i nodeEnv given absent
      split_ifs at validated with isProduction
      cases validated
      exact ⟨by rw [given, isProduction], absent⟩
    · rename_i nodeEnv reqServiceId given named
      split_ifs at validated with accepted
      cases validated
      exact ⟨given, named⟩
    · cases validated
  · intro means
    unfold validateReqServiceIdConfig
    cases reqServiceIdConfig with
    | production =>
        rw [means.1, means.2]
        rfl
    | elsewhere nodeEnv reqServiceId =>
        rw [means.1, means.2]
        exact dif_pos ⟨nodeEnv.property, reqServiceId.property⟩

theorem ReqServiceIdConfig.Means.isProduction_iff {reqServiceIdConfig : ReqServiceIdConfig}
    (means : reqServiceIdConfig.Means environment) :
    environment "NODE_ENV" = some "production" ↔ reqServiceIdConfig = .production := by
  cases reqServiceIdConfig with
  | production => simp [means.1]
  | elsewhere nodeEnv reqServiceId => simp [means.1, nodeEnv.property]

/-- Every part of the configuration is what the environment says. -/
structure Reads (environment : ProcessEnv) (config : IConfig) : Prop where
  values : ∀ setting : Setting,
    setting.kind.Means (environment setting.name) (config.values setting)
  reqServiceIdConfig : config.reqServiceIdConfig.Means environment
  startTime : config.MESSAGE_CONFIGURATION_CHANGE_FEED_START_TIME =
    ((environment "MESSAGE_CONFIGURATION_CHANGE_FEED_START_TIME").bind
      nonNegativeIntegerFromString).getD 0
  isProduction : config.isProduction = true ↔ environment "NODE_ENV" = some "production"
  cluster : config.REDIS_CLUSTER_ENABLED = enabled? (environment "REDIS_CLUSTER_ENABLED")
  tls : config.REDIS_TLS_ENABLED = enabled? (environment "REDIS_TLS_ENABLED")

theorem eq_ok_get {E A : Type} {outcome : Except E A} (isSome : outcome.toOption.isSome) :
    outcome = .ok (outcome.toOption.get isSome) := by
  cases outcome with
  | ok value => rfl
  | error places => cases isSome

theorem reads_of_decode (decoded : IConfig.decode environment = .ok config) :
    Reads environment config := by
  unfold IConfig.decode at decoded
  split at decoded
  · rename_i accepted
    split at decoded
    · rename_i reqServiceIdConfig validated
      cases decoded
      constructor
      · intro setting
        exact validate_eq_ok_iff.mp (eq_ok_get (accepted setting setting.mem_all))
      · exact validateReqServiceIdConfig_eq_ok_iff.mp validated
      · rfl
      · exact beq_iff_eq
      · rfl
      · rfl
    · cases decoded
  · cases decoded

theorem Reads.validate (reads : Reads environment config) (setting : Setting) :
    setting.validate environment = .ok (config.values setting) :=
  validate_eq_ok_iff.mpr (reads.values setting)

theorem Reads.decode (reads : Reads environment config) :
    IConfig.decode environment = .ok config := by
  have accepted : ∀ setting ∈ Setting.all, (setting.validate environment).toOption.isSome := by
    intro setting _
    rw [reads.validate setting]
    rfl
  have isProduction : (environment "NODE_ENV" == some "production") = config.isProduction := by
    rw [Bool.eq_iff_iff, beq_iff_eq, reads.isProduction]
  rw [IConfig.decode, dif_pos accepted,
    validateReqServiceIdConfig_eq_ok_iff.mpr reads.reqServiceIdConfig]
  obtain ⟨values, reqServiceIdConfig, startTime, production, cluster, tls⟩ := config
  have same : (fun setting : Setting => (setting.validate environment).toOption.get
      (accepted setting setting.mem_all)) = values := by
    funext setting
    simp only [reads.validate setting]
    rfl
  simp only [same, isProduction, ← reads.startTime, ← reads.cluster, ← reads.tls]

theorem enabled?_write (value : Option Bool) :
    enabled? (value.bind Kind.boolean.write) = value := by
  cases value with
  | none => rfl
  | some value =>
      cases value with
      | true => decide
      | false => decide

theorem reqServiceIdConfig_toEnvironment :
    config.reqServiceIdConfig.Means config.toEnvironment := by
  have nodeEnv : config.toEnvironment "NODE_ENV" = _ := toEnvironment_of_missing rfl
  have reqServiceId : config.toEnvironment "REQ_SERVICE_ID" = _ := toEnvironment_of_missing rfl
  unfold IConfig.writeOther at nodeEnv reqServiceId
  cases alternative : config.reqServiceIdConfig <;> rw [alternative] at nodeEnv reqServiceId <;>
    exact ⟨nodeEnv, reqServiceId⟩

theorem startTime_write {given : Option String} {startTime : ℕ}
    (parsed : startTime = (given.bind nonNegativeIntegerFromString).getD 0) :
    ((Kind.nonNegativeInteger.write startTime).bind nonNegativeIntegerFromString).getD 0 =
      startTime := by
  cases known : given.bind nonNegativeIntegerFromString with
  | none =>
      rw [known] at parsed
      subst parsed
      have zero := nonNegativeIntegerFromString_toDigits (by norm_num : 0 < 2 ^ 53)
      simp only [Kind.write, Option.bind_some, zero, Option.getD_some, Option.getD_none]
  | some integer =>
      rw [known] at parsed
      obtain ⟨text, -, numeral⟩ := Option.bind_eq_some_iff.mp known
      subst parsed
      simp only [Kind.write, Option.bind_some, Option.getD_some,
        nonNegativeIntegerFromString_write numeral]

theorem Reads.toEnvironment (reads : Reads environment config) :
    Reads config.toEnvironment config where
  values setting := by
    rw [toEnvironment_name]
    exact means_write (reads.values setting)
  reqServiceIdConfig := reqServiceIdConfig_toEnvironment
  startTime := by
    rw [toEnvironment_of_missing rfl]
    exact (startTime_write reads.startTime).symm
  isProduction := by
    rw [reqServiceIdConfig_toEnvironment.isProduction_iff, reads.isProduction,
      reads.reqServiceIdConfig.isProduction_iff]
  cluster := by
    rw [toEnvironment_of_missing rfl]
    exact (enabled?_write _).symm
  tls := by
    rw [toEnvironment_of_missing rfl]
    exact (enabled?_write _).symm

def IConfig.remoteContent (config : IConfig) : RemoteContent.IConfig where
  internalUserId := config.values .INTERNAL_USER_ID
  rcConfigurationCacheTtl := config.values .RC_CONFIGURATION_CACHE_TTL

theorem Reads.remoteContent (reads : Reads environment config) :
    RemoteContent.IConfig.decode environment = some config.remoteContent := by
  rw [RemoteContent.IConfig.decode, reads.validate, reads.validate]
  rfl

end Written

variable {environment : ProcessEnv}

theorem not_faulty_of_decode {config : IConfig}
    (decoded : IConfig.decode environment = .ok config) (name : String) :
    ¬ Faulty environment name := by
  have reads := reads_of_decode decoded
  have accepts (setting : Setting) : setting.kind.Accepts (environment setting.name) := by
    have judged := judged_validate setting.kind (environment setting.name)
    have validated := reads.validate setting
    unfold Setting.validate at validated
    rw [validated] at judged
    cases judged with
    | accepted _ accepts => exact accepts
  have alternative : AcceptsReqServiceId environment := by
    have judged := judged_validateReqServiceIdConfig environment
    rw [validateReqServiceIdConfig_eq_ok_iff.mpr reads.reqServiceIdConfig] at judged
    cases judged with
    | accepted _ accepts => exact accepts
  intro faulty
  cases faulty with
  | setting setting refuses => exact refuses (accepts setting)
  | nodeEnv refuses => exact refuses alternative
  | reqServiceId refuses => exact refuses alternative

theorem errors_of_decode {found : List ValidationError}
    (refused : IConfig.decode environment = .error found) :
    found = errors environment ∧ ∃ name, Faulty environment name := by
  unfold IConfig.decode at refused
  split at refused
  · split at refused
    · cases refused
    · rename_i places invalid
      cases refused
      refine ⟨rfl, "NODE_ENV", .nodeEnv ?_⟩
      have judged := judged_validateReqServiceIdConfig environment
      rw [invalid] at judged
      cases judged with
      | refused refuses => exact refuses
  · rename_i rejected
    cases refused
    refine ⟨rfl, ?_⟩
    simp only [not_forall] at rejected
    obtain ⟨setting, -, invalid⟩ := rejected
    refine ⟨setting.name, .setting setting ?_⟩
    have judged := judged_validate setting.kind (environment setting.name)
    unfold Setting.validate at invalid
    generalize setting.kind.validate (environment setting.name) = outcome at judged invalid
    cases judged with
    | accepted value => exact absurd rfl invalid
    | refused _ refuses => exact refuses

/-- An environment is accepted as a whole or not at all.  A configuration comes
from an environment without faulty variables, says what its variables say, also
where the handlers look, and can be written as an environment that is decoded
to it.  The errors name all faulty variables, of which there are some, and no
other. -/
theorem configuration_is_decoded_as_a_whole (environment : ProcessEnv) :
    match IConfig.decode environment with
    | .ok config =>
        (∀ name, ¬ Faulty environment name) ∧ Reads environment config ∧
          RemoteContent.IConfig.decode environment = some config.remoteContent ∧
          IConfig.decode config.toEnvironment = .ok config
    | .error found =>
        (∃ name, Faulty environment name) ∧
          ∀ name, Names found name ↔ Faulty environment name := by
  cases decoded : IConfig.decode environment with
  | ok config =>
      have reads := reads_of_decode decoded
      exact ⟨not_faulty_of_decode decoded, reads, reads.remoteContent, reads.toEnvironment.decode⟩
  | error found =>
      obtain ⟨rfl, faulty⟩ := errors_of_decode decoded
      exact ⟨faulty, fun _ => names_errors_iff_faulty⟩

end ServiceMessages.Environment

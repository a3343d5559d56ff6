import ServiceMessages.Common.Numbers
import ServiceMessages.Environment.CommaSeparatedListOf

/-!
# The variables of the configuration

Each variable has a codec, which accepts some of its values and says what they
stand for.
-/

namespace ServiceMessages.Environment

abbrev ProcessEnv := String → Option String

inductive FeatureFlagType where
  | none
  | beta
  | canary
  | prod

def FeatureFlagType.text : FeatureFlagType → String
  | .none => "none"
  | .beta => "beta"
  | .canary => "canary"
  | .prod => "prod"

inductive Setting where
  | APPINSIGHTS_INSTRUMENTATIONKEY
  | COSMOSDB_KEY
  | COSMOSDB_NAME
  | COSMOSDB_URI
  | REMOTE_CONTENT_COSMOSDB_KEY
  | REMOTE_CONTENT_COSMOSDB_NAME
  | REMOTE_CONTENT_COSMOSDB_URI
  | INTERNAL_USER_ID
  | MESSAGE_CONTAINER_NAME
  | QueueStorageConnection
  | FF_TYPE
  | USE_FALLBACK
  | FF_BETA_TESTERS
  | FF_CANARY_USERS_REGEX
  | BACKEND_BASE_URL
  | BACKEND_TOKEN
  | MESSAGE_CONTENT_STORAGE_CONNECTION_STRING
  | NOTIFICATION_QUEUE_NAME
  | NOTIFICATION_QUEUE_STORAGE_CONNECTION_STRING
  | RC_CONFIGURATION_CACHE_TTL
  | REDIS_URL
  | REDIS_PASSWORD
  | REDIS_PORT
deriving DecidableEq

namespace Setting

def name : Setting → String
  | APPINSIGHTS_INSTRUMENTATIONKEY => "APPINSIGHTS_INSTRUMENTATIONKEY"
  | COSMOSDB_KEY => "COSMOSDB_KEY"
  | COSMOSDB_NAME => "COSMOSDB_NAME"
  | COSMOSDB_URI => "COSMOSDB_URI"
  | REMOTE_CONTENT_COSMOSDB_KEY => "REMOTE_CONTENT_COSMOSDB_KEY"
  | REMOTE_CONTENT_COSMOSDB_NAME => "REMOTE_CONTENT_COSMOSDB_NAME"
  | REMOTE_CONTENT_COSMOSDB_URI => "REMOTE_CONTENT_COSMOSDB_URI"
  | INTERNAL_USER_ID => "INTERNAL_USER_ID"
  | MESSAGE_CONTAINER_NAME => "MESSAGE_CONTAINER_NAME"
  | QueueStorageConnection => "QueueStorageConnection"
  | FF_TYPE => "FF_TYPE"
  | USE_FALLBACK => "USE_FALLBACK"
  | FF_BETA_TESTERS => "FF_BETA_TESTERS"
  | FF_CANARY_USERS_REGEX => "FF_CANARY_USERS_REGEX"
  | BACKEND_BASE_URL => "BACKEND_BASE_URL"
  | BACKEND_TOKEN => "BACKEND_TOKEN"
  | MESSAGE_CONTENT_STORAGE_CONNECTION_STRING => "MESSAGE_CONTENT_STORAGE_CONNECTION_STRING"
  | NOTIFICATION_QUEUE_NAME => "NOTIFICATION_QUEUE_NAME"
  | NOTIFICATION_QUEUE_STORAGE_CONNECTION_STRING =>
      "NOTIFICATION_QUEUE_STORAGE_CONNECTION_STRING"
  | RC_CONFIGURATION_CACHE_TTL => "RC_CONFIGURATION_CACHE_TTL"
  | REDIS_URL => "REDIS_URL"
  | REDIS_PASSWORD => "REDIS_PASSWORD"
  | REDIS_PORT => "REDIS_PORT"

/-- The settings of the application, in the order in which they are decoded. -/
def application : List Setting :=
  [APPINSIGHTS_INSTRUMENTATIONKEY, COSMOSDB_KEY, COSMOSDB_NAME, COSMOSDB_URI,
    REMOTE_CONTENT_COSMOSDB_KEY, REMOTE_CONTENT_COSMOSDB_NAME, REMOTE_CONTENT_COSMOSDB_URI,
    INTERNAL_USER_ID, MESSAGE_CONTAINER_NAME, QueueStorageConnection, FF_TYPE, USE_FALLBACK,
    FF_BETA_TESTERS, FF_CANARY_USERS_REGEX, BACKEND_BASE_URL, BACKEND_TOKEN,
    MESSAGE_CONTENT_STORAGE_CONNECTION_STRING, NOTIFICATION_QUEUE_NAME,
    NOTIFICATION_QUEUE_STORAGE_CONNECTION_STRING, RC_CONFIGURATION_CACHE_TTL]

def redisParams : List Setting := [REDIS_URL]

def partialRedisParams : List Setting := [REDIS_PASSWORD, REDIS_PORT]

def all : List Setting := application ++ redisParams ++ partialRedisParams

theorem mem_all (setting : Setting) : setting ∈ all := by
  cases setting <;> decide

end Setting

inductive Kind where
  /-- `NonEmptyString` -/
  | required
  /-- The same in a partial interface. -/
  | optional
  /-- The same with a default. -/
  | defaulted (default : String)
  | featureFlagType
  | boolean
  | commaSeparatedList
  | nonNegativeInteger

abbrev Kind.Value : Kind → Type
  | .required => NonEmptyString
  | .optional => Option NonEmptyString
  | .defaulted _ => NonEmptyString
  | .featureFlagType => FeatureFlagType
  | .boolean => Bool
  | .commaSeparatedList => List NonEmptyString
  | .nonNegativeInteger => ℕ

/-- The places inside a value that are wrong.  The place of the whole value is
the empty one. -/
abbrev Places := List (List String)

def validateNonEmptyString (text : String) : Except Places NonEmptyString :=
  if nonempty : text ≠ "" then .ok ⟨text, nonempty⟩ else .error [[]]

def FeatureFlagType.all : List FeatureFlagType := [.none, .beta, .canary, .prod]

/-- A union of literals, every one of which complains. -/
def validateFeatureFlagType (text : String) : Except Places FeatureFlagType :=
  match FeatureFlagType.all.find? fun flag => flag.text = text with
  | some flag => .ok flag
  | none => .error [["0"], ["1"], ["2"], ["3"]]

def validateBoolean (text : String) : Except Places Bool :=
  if text = "true" then .ok true
  else if text = "false" then .ok false
  else .error [[]]

def ListError.place {E : Type} : ListError E → List String
  | .notAnArray => []
  | .element index _ => [toString index]

def Kind.validate : (kind : Kind) → Option String → Except Places kind.Value
  | .required, some text => validateNonEmptyString text
  | .required, none => .error [[]]
  | .optional, some text => (validateNonEmptyString text).map some
  | .optional, none => .ok none
  | .defaulted default, text => validateNonEmptyString (text.getD default)
  | .featureFlagType, text => validateFeatureFlagType (text.getD "none")
  | .boolean, text => validateBoolean (text.getD "false")
  | .commaSeparatedList, text => (FF_BETA_TESTERS text).mapError (·.map ListError.place)
  | .nonNegativeInteger, some text =>
      match nonNegativeIntegerFromString text with
      | some integer => .ok integer
      | none => .error [[]]
  | .nonNegativeInteger, none => .error [[]]

namespace Setting

def kind : Setting → Kind
  | FF_TYPE => .featureFlagType
  | USE_FALLBACK => .boolean
  | FF_BETA_TESTERS => .commaSeparatedList
  | FF_CANARY_USERS_REGEX => .defaulted "XYZ"
  | RC_CONFIGURATION_CACHE_TTL => .nonNegativeInteger
  | REDIS_PASSWORD => .optional
  | REDIS_PORT => .optional
  | _ => .required

def validate (environment : ProcessEnv) (setting : Setting) :
    Except Places setting.kind.Value :=
  setting.kind.validate (environment setting.name)

end Setting

/-- What each of the codecs asks for. -/
def Kind.Accepts : Kind → Option String → Prop
  | .required, text => text ≠ none ∧ text ≠ some ""
  | .optional, text => text ≠ some ""
  | .defaulted default, text => text.getD default ≠ ""
  | .featureFlagType, text => text.getD "none" ∈ ["none", "beta", "canary", "prod"]
  | .boolean, text => text.getD "false" ∈ ["true", "false"]
  | .commaSeparatedList, _ => True
  | .nonNegativeInteger, text =>
      ∃ given integer, text = some given ∧ nonNegativeIntegerFromString given = some integer

/-- Either value comes with at least one place that is wrong. -/
inductive Judged {A : Type} : Except Places A → Prop → Prop where
  | accepted (value) {accepts : Prop} : accepts → Judged (.ok value) accepts
  | refused {places : Places} {accepts : Prop} :
      places ≠ [] → ¬ accepts → Judged (.error places) accepts

theorem Judged.congr {A : Type} {outcome : Except Places A} {accepts accepts' : Prop}
    (judged : Judged outcome accepts) (same : accepts ↔ accepts') : Judged outcome accepts' :=
  propext same ▸ judged

theorem Judged.map {A B : Type} {outcome : Except Places A} {accepts : Prop}
    (judged : Judged outcome accepts) (transform : A → B) :
    Judged (outcome.map transform) accepts := by
  cases judged with
  | accepted value accepts => exact .accepted _ accepts
  | refused wrong refuses => exact .refused wrong refuses

theorem judged_validateNonEmptyString (text : String) :
    Judged (validateNonEmptyString text) (text ≠ "") := by
  unfold validateNonEmptyString
  split
  · exact .accepted _ ‹_›
  · exact .refused (List.cons_ne_nil _ _) ‹_›

theorem judged_validateFeatureFlagType (text : String) :
    Judged (validateFeatureFlagType text) (text ∈ ["none", "beta", "canary", "prod"]) := by
  have texts : ["none", "beta", "canary", "prod"] =
      FeatureFlagType.all.map FeatureFlagType.text := rfl
  rw [texts, List.mem_map]
  unfold validateFeatureFlagType
  split
  · rename_i flag found
    have matching := List.find?_some found
    exact .accepted _ ⟨flag, List.mem_of_find?_eq_some found, by simpa using matching⟩
  · rename_i missing
    refine .refused (List.cons_ne_nil _ _) ?_
    rintro ⟨flag, listed, same⟩
    exact List.find?_eq_none.mp missing flag listed (by simpa using same)

theorem judged_validateBoolean (text : String) :
    Judged (validateBoolean text) (text ∈ ["true", "false"]) := by
  unfold validateBoolean
  split_ifs with isTrue isFalse
  · exact .accepted _ (by simp [isTrue])
  · exact .accepted _ (by simp [isFalse])
  · exact .refused (List.cons_ne_nil _ _) (by simp [isTrue, isFalse])

theorem judged_validate (kind : Kind) (text : Option String) :
    Judged (kind.validate text) (kind.Accepts text) := by
  cases kind with
  | required =>
      cases text with
      | none => exact .refused (List.cons_ne_nil _ _) (by simp [Kind.Accepts])
      | some text =>
          exact (judged_validateNonEmptyString text).congr (by simp [Kind.Accepts])
  | optional =>
      cases text with
      | none => exact .accepted _ (by simp [Kind.Accepts])
      | some text =>
          exact ((judged_validateNonEmptyString text).map some).congr (by simp [Kind.Accepts])
  | defaulted default => exact judged_validateNonEmptyString (text.getD default)
  | featureFlagType => exact judged_validateFeatureFlagType (text.getD "none")
  | boolean => exact judged_validateBoolean (text.getD "false")
  | commaSeparatedList =>
      obtain ⟨items, decoded, -⟩ := exists_decode (text.getD "")
      have validated : Kind.commaSeparatedList.validate text = .ok items := by
        rw [Kind.validate, FF_BETA_TESTERS, decoded]
        rfl
      rw [validated]
      exact .accepted _ trivial
  | nonNegativeInteger =>
      cases text with
      | none => exact .refused (List.cons_ne_nil _ _) (by simp [Kind.Accepts])
      | some text =>
          cases parsed : nonNegativeIntegerFromString text with
          | none =>
              simp only [Kind.validate, parsed]
              exact .refused (List.cons_ne_nil _ _) (by simp [Kind.Accepts, parsed])
          | some integer =>
              simp only [Kind.validate, parsed]
              exact .accepted _ ⟨text, integer, rfl, parsed⟩

/-- What a value says of the text that it was decoded from. -/
def Kind.Means : (kind : Kind) → Option String → kind.Value → Prop
  | .required, text, value => text = some value.val
  | .optional, text, value => text = value.map Subtype.val
  | .defaulted default, text, value => text.getD default = value.val
  | .featureFlagType, text, flag => text.getD "none" = flag.text
  | .boolean, text, value => text.getD "false" = if value then "true" else "false"
  | .commaSeparatedList, text, items => items.map (·.val.toList) = fieldsOf (text.getD "")
  | .nonNegativeInteger, text, integer =>
      ∃ given number, text = some given ∧ stringToNumber given = .finite number ∧
        number.value = integer

theorem validateNonEmptyString_eq_ok_iff {text : String} {value : NonEmptyString} :
    validateNonEmptyString text = .ok value ↔ text = value.val := by
  unfold validateNonEmptyString
  constructor
  · intro validated
    split at validated <;> cases validated
    rfl
  · rintro rfl
    exact dif_pos value.property

theorem validateFeatureFlagType_eq_ok_iff {text : String} {flag : FeatureFlagType} :
    validateFeatureFlagType text = .ok flag ↔ text = flag.text := by
  constructor
  · intro validated
    unfold validateFeatureFlagType at validated
    split at validated
    · rename_i found matching
      cases validated
      have same := List.find?_some matching
      simpa [eq_comm] using same
    · cases validated
  · rintro rfl
    cases flag <;> rfl

theorem validateBoolean_eq_ok_iff {text : String} {value : Bool} :
    validateBoolean text = .ok value ↔ text = if value then "true" else "false" := by
  unfold validateBoolean
  split_ifs with isTrue isFalse <;> cases value <;> simp_all

/-- A variable is decoded to what it says. -/
theorem validate_eq_ok_iff {kind : Kind} {text : Option String} {value : kind.Value} :
    kind.validate text = .ok value ↔ kind.Means text value := by
  cases kind with
  | required =>
      cases text with
      | none => simp [Kind.validate, Kind.Means]
      | some text => simp [Kind.validate, Kind.Means, validateNonEmptyString_eq_ok_iff]
  | optional =>
      cases text with
      | none => cases value <;> simp [Kind.validate, Kind.Means]
      | some text =>
          cases value with
          | none => cases validated : validateNonEmptyString text <;>
              simp [Kind.validate, Kind.Means, validated, Except.map]
          | some value =>
              simp only [Kind.validate, Kind.Means, Option.map_some, Option.some.injEq,
                ← validateNonEmptyString_eq_ok_iff]
              cases validateNonEmptyString text <;> simp [Except.map]
  | defaulted default => exact validateNonEmptyString_eq_ok_iff
  | featureFlagType => exact validateFeatureFlagType_eq_ok_iff
  | boolean => exact validateBoolean_eq_ok_iff
  | commaSeparatedList =>
      rw [Kind.Means, ← decode_eq_ok_iff, Kind.validate, FF_BETA_TESTERS]
      cases decode (text.getD "") <;> simp [Except.mapError]
  | nonNegativeInteger =>
      cases text with
      | none => simp [Kind.validate, Kind.Means]
      | some text =>
          have means : Kind.nonNegativeInteger.Means (some text) value ↔
              nonNegativeIntegerFromString text = some value := by
            rw [nonNegativeIntegerFromString_eq_some_iff]
            simp [Kind.Means]
          rw [means, Kind.validate]
          cases nonNegativeIntegerFromString text <;> simp

def Kind.write : (kind : Kind) → kind.Value → Option String
  | .required, value => some value.val
  | .optional, value => value.map Subtype.val
  | .defaulted _, value => some value.val
  | .featureFlagType, flag => some flag.text
  | .boolean, value => some (if value then "true" else "false")
  | .commaSeparatedList, items => some (encode items)
  | .nonNegativeInteger, integer => some (String.ofList (Nat.toDigits 10 integer))

theorem nonNegativeIntegerFromString_write {text : String} {integer : ℕ}
    (parsed : nonNegativeIntegerFromString text = some integer) :
    nonNegativeIntegerFromString (String.ofList (Nat.toDigits 10 integer)) = some integer := by
  obtain ⟨number, -, value⟩ := nonNegativeIntegerFromString_eq_some_iff.mp parsed
  have kept := round_of_nonNegativeIntegerFromString parsed
  have bounded : |binary64.round (integer : ℚ)| < 2 ^ 1024 := by
    rw [kept, ← value]
    exact number.bounded
  rw [nonNegativeIntegerFromString_eq_some_iff, stringToNumber_toDigits, Number.nearest,
    dif_pos bounded]
  exact ⟨_, rfl, kept⟩

theorem means_write {kind : Kind} {text : Option String} {value : kind.Value}
    (means : kind.Means text value) : kind.Means (kind.write value) value := by
  cases kind with
  | required | optional | defaulted | featureFlagType | boolean => rfl
  | commaSeparatedList =>
      have listed : value.map (·.val.toList) = fieldsOf (text.getD "") := means
      rw [Kind.write, Kind.Means, Option.getD_some, fieldsOf_encode, listed, fieldsOf,
        Text.fields_intercalate_fields]
  | nonNegativeInteger =>
      obtain ⟨given, number, -, denoted, same⟩ := means
      have parsed := nonNegativeIntegerFromString_eq_some_iff.mpr ⟨number, denoted, same⟩
      obtain ⟨written, denotes, value⟩ := nonNegativeIntegerFromString_eq_some_iff.mp
        (nonNegativeIntegerFromString_write parsed)
      exact ⟨_, written, rfl, denotes, value⟩

end ServiceMessages.Environment

import ServiceMessages.RemoteContent.GetRCConfiguration
import ServiceMessages.RemoteContent.Mappers
import ServiceMessages.Text.Json

/-!
# Serialized configurations

The text a stored configuration is serialized to, field by field in the order
in which the mappers build it, absent fields left out.  With it the functions
of other packages have an instance that satisfies all that is asked of them.
-/

namespace ServiceMessages.RemoteContent

open Text

def nonEmptyCodec : Codec NonEmptyString :=
  Codec.quoted.refine (fun text => if nonempty : text ≠ "" then some ⟨text, nonempty⟩ else none)
    Subtype.val (fun value => by simp [value.property])

def fiscalCodeCodec : Codec FiscalCode :=
  Codec.quoted.convert FiscalCode.mk FiscalCode.text (fun _ => rfl)

def fiscalCodesCodec : Codec (List FiscalCode) :=
  Codec.list fiscalCodeCodec (fun _ => ⟨_, _, rfl, by decide⟩)

def hasPreconditionCodec : Codec HasPrecondition :=
  Codec.quoted.refine
    (fun text =>
      if text = "ALWAYS" then some .ALWAYS
      else if text = "ONCE" then some .ONCE
      else if text = "NEVER" then some .NEVER
      else none)
    (fun
      | .ALWAYS => "ALWAYS"
      | .ONCE => "ONCE"
      | .NEVER => "NEVER")
    (by rintro (_ | _ | _) <;> decide)

def certCodec : Codec RCClientCertModel :=
  ((nonEmptyCodec.marked "\x7b\"clientCert\":".toList).pair
    ((nonEmptyCodec.marked ",\"clientKey\":".toList).pair
      ((nonEmptyCodec.marked ",\"serverCa\":".toList).closed "\x7d".toList))).convert
    (fun (clientCert, clientKey, serverCa) => ⟨clientCert, clientKey, serverCa⟩)
    (fun cert => (cert.clientCert, cert.clientKey, cert.serverCa)) (fun _ => rfl)

def detailsAuthenticationCodec : Codec RCAuthenticationConfigModel :=
  ((Codec.optional "\"cert\":".toList (certCodec.closed ",".toList)
      ((nonEmptyCodec.marked "\"headerKeyName\":".toList).pair
        ((nonEmptyCodec.marked ",\"key\":".toList).pair
          (nonEmptyCodec.marked ",\"type\":".toList)))
      (fun _ => ⟨"\"headerKeyName\":".toList, ⟨_, rfl⟩, by decide⟩)).marked
        "\x7b".toList).closed "\x7d".toList |>.convert
    (fun (cert, headerKeyName, key, type) => ⟨headerKeyName, key, type, cert⟩)
    (fun details => (details.cert, details.headerKeyName, details.key, details.type))
    (fun _ => rfl)

def environmentCodec : Codec RCEnvironmentConfig :=
  ((nonEmptyCodec.marked "\"baseUrl\":".toList).pair
    (detailsAuthenticationCodec.marked ",\"detailsAuthentication\":".toList)).convert
    (fun (baseUrl, detailsAuthentication) => ⟨baseUrl, detailsAuthentication⟩)
    (fun environment => (environment.baseUrl, environment.detailsAuthentication))
    (fun _ => rfl)

def prodEnvironmentCodec : Codec RCEnvironmentConfig :=
  (environmentCodec.marked "\x7b".toList).closed "\x7d".toList

def testEnvironmentCodec : Codec RCTestEnvironmentConfig :=
  ((environmentCodec.marked "\x7b".toList).pair
    ((fiscalCodesCodec.marked ",\"testUsers\":".toList).closed "\x7d".toList)).convert
    (fun (environment, testUsers) => ⟨environment, testUsers⟩)
    (fun environment => (environment.toRCEnvironmentConfig, environment.testUsers))
    (fun _ => rfl)

def metadataCodec : Codec CosmosResourceMetadata :=
  ((Codec.quoted.marked ",\"_etag\":".toList).pair
    ((Codec.quoted.marked ",\"_rid\":".toList).pair
      ((Codec.quoted.marked ",\"_self\":".toList).pair
        ((Codec.natural '}' (by decide)).marked ",\"_ts\":".toList)))).convert
    (fun (etag, rid, self, ts) => ⟨etag, rid, self, ts⟩)
    (fun metadata => (metadata._etag, metadata._rid, metadata._self, metadata._ts))
    (fun _ => rfl)

def environmentAndOwnerCodec : Codec (Option RCTestEnvironmentConfig × String) :=
  Codec.optional ",\"testEnvironment\":".toList testEnvironmentCodec
    (Codec.quoted.marked ",\"userId\":".toList)
    (fun _ => ⟨",\"userId\":".toList, ⟨_, rfl⟩, by decide⟩)

theorem environmentAndOwnerCodec_starts (value : Option RCTestEnvironmentConfig × String) :
    ∃ start, start <+: environmentAndOwnerCodec.print value ∧
      ¬ ",\"prodEnvironment\":".toList <+: start ∧ ¬ start <+: ",\"prodEnvironment\":".toList := by
  rcases value with ⟨_ | _, _⟩
  · exact ⟨",\"userId\":".toList, ⟨_, rfl⟩, by decide⟩
  · exact ⟨",\"testEnvironment\":".toList, ⟨_, rfl⟩, by decide⟩

def configurationCodec : Codec RCConfiguration :=
  ((Codec.quoted.marked "\x7b\"configurationId\":".toList).pair
    ((nonEmptyCodec.marked ",\"description\":".toList).pair
      ((fiscalCodesCodec.marked ",\"disableLollipopFor\":".toList).pair
        ((hasPreconditionCodec.marked ",\"hasPrecondition\":".toList).pair
          ((Codec.quoted.marked ",\"id\":".toList).pair
            ((Codec.truthValue.marked ",\"isLollipopEnabled\":".toList).pair
              ((nonEmptyCodec.marked ",\"name\":".toList).pair
                (Codec.optional ",\"prodEnvironment\":".toList prodEnvironmentCodec
                  environmentAndOwnerCodec environmentAndOwnerCodec_starts)))))))).convert
    (fun (configurationId, description, disableLollipopFor, hasPrecondition, id,
        isLollipopEnabled, name, prodEnvironment, testEnvironment, userId) =>
      ⟨⟨configurationId⟩, description, disableLollipopFor, hasPrecondition, id,
        isLollipopEnabled, name, prodEnvironment, testEnvironment, userId⟩)
    (fun configuration =>
      (configuration.configurationId.text, configuration.description,
        configuration.disableLollipopFor, configuration.hasPrecondition, configuration.id,
        configuration.isLollipopEnabled, configuration.name, configuration.prodEnvironment,
        configuration.testEnvironment, configuration.userId))
    (fun _ => rfl)

def retrievedConfigurationCodec : Codec RetrievedRCConfiguration :=
  (configurationCodec.pair metadataCodec).convert
    (fun (configuration, metadata) => ⟨configuration, metadata._etag, metadata._rid,
      metadata._self, metadata._ts⟩)
    (fun retrieved => (retrieved.toRCConfiguration, retrieved.toCosmosResourceMetadata))
    (fun _ => rfl)

/-- The format of an identifier: 26 characters of the alphabet without the
letters that are easily confused. -/
def isUlid (text : String) : Bool :=
  text.toList.length == 26 &&
    text.toList.all fun character =>
      "0123456789abcdefghjkmnpqrstvwxyzABCDEFGHJKMNPQRSTVWXYZ".toList.contains character

/-- The functions of other packages, on serialized configurations. -/
def Commons.standard : Commons where
  Json := RetrievedRCConfiguration
  Errors := Unit
  parse text :=
    match retrievedConfigurationCodec.deserialize text with
    | some configuration => .ok configuration
    | none => .error ()
  decode := .ok
  stringify := retrievedConfigurationCodec.serialize
  retrievedRCConfigurationToPublic configuration := configuration.toRCConfiguration.toPublic
  decodeUlid text := if isUlid text then .ok ⟨text⟩ else .error ()
  decode_stringify := by
    intro configuration
    simp [Except.bind]
  retrievedRCConfigurationToPublic_eq := fun _ => rfl
  text_of_decodeUlid := by
    intro text configurationId decoded
    split_ifs at decoded
    cases decoded
    rfl

def aConfig : IConfig where
  internalUserId := ⟨"internalUserId", by decide⟩
  rcConfigurationCacheTtl := 1000

def aCaller : Caller where
  subscriptionId := ⟨"MANAGE-aSubscriptionId", by decide⟩
  userGroups := ⟨"GroupA,GroupB,GroupC,ApiRemoteContentConfigurationWrite", by decide⟩
  userId := "aUserId"

def aConfigurationId : Ulid := ⟨"01HNG1XBMT8V6HWGF5T053K9RJ"⟩

def aPublicRemoteContentConfiguration : NewRCConfigurationPublic where
  name := ⟨"aRemoteContentConfiguration", by decide⟩
  description := ⟨"a description", by decide⟩
  has_precondition := .ALWAYS
  disable_lollipop_for := []
  is_lollipop_enabled := false
  test_environment := none
  prod_environment := some
    { base_url := ⟨"aValidUrl", by decide⟩
      details_authentication :=
        { header_key_name := ⟨"a", by decide⟩
          key := ⟨"key", by decide⟩
          type := ⟨"type", by decide⟩
          cert := none } }

def aCosmosResourceMetadata : CosmosResourceMetadata where
  _etag := "_etag"
  _rid := "_rid"
  _self := "_self"
  _ts := 1

def anUpdatedPublicRemoteContentConfiguration : NewRCConfigurationPublic :=
  { aPublicRemoteContentConfiguration with name := ⟨"anUpdatedConfiguration", by decide⟩ }

def aRetrievedRCConfiguration : RetrievedRCConfiguration where
  toRCConfiguration := makeNewRCConfigurationWithConfigurationId aConfigurationId aCaller.userId
    aPublicRemoteContentConfiguration
  toCosmosResourceMetadata := aCosmosResourceMetadata

def anUpdatedRCConfiguration : RetrievedRCConfiguration where
  toRCConfiguration := makeNewRCConfigurationWithConfigurationId aConfigurationId aCaller.userId
    anUpdatedPublicRemoteContentConfiguration
  toCosmosResourceMetadata := aCosmosResourceMetadata

/-- The sample configuration is stored, and nothing else. -/
def aStoredWorld : World :=
  World.empty.commit aRetrievedRCConfiguration

def aCachedWorld : World :=
  aStoredWorld.setCache (redisKey aConfigurationId)
    (some (Commons.standard.stringify aRetrievedRCConfiguration))

def anUpdatedWorld : World :=
  (aStoredWorld.commit anUpdatedRCConfiguration).setCache (redisKey aConfigurationId)
    (some (Commons.standard.stringify anUpdatedRCConfiguration))

theorem aStoredWorld_stored :
    aStoredWorld.store.findByConfigurationId aConfigurationId = some aRetrievedRCConfiguration :=
  Store.findByConfigurationId_commit_self _ _

theorem aCachedWorld_stored :
    aCachedWorld.store.findByConfigurationId aConfigurationId = some aRetrievedRCConfiguration :=
  aStoredWorld_stored

theorem aCachedWorld_cached : aCachedWorld.cache (redisKey aConfigurationId) =
    some (Commons.standard.stringify aRetrievedRCConfiguration) :=
  World.cache_setCache_self _ _ _

theorem anUpdatedWorld_stored :
    anUpdatedWorld.store.findByConfigurationId aConfigurationId = some anUpdatedRCConfiguration :=
  Store.findByConfigurationId_commit_self _ _

theorem anUpdated_ne : configurationResponse Commons.standard aRetrievedRCConfiguration ≠
    configurationResponse Commons.standard anUpdatedRCConfiguration := by
  decide

theorem aCaller_authorized : aCaller.Authorized := by decide

end ServiceMessages.RemoteContent

import ServiceMessages.Common.Strings

/-!
# Remote-content configurations

The two shapes of a configuration: the public one of the interface, in snake
case, and the one of the store, in camel case.
-/

namespace ServiceMessages.RemoteContent

inductive HasPrecondition where
  | ALWAYS
  | ONCE
  | NEVER
deriving DecidableEq

structure RCClientCert where
  client_cert : NonEmptyString
  client_key : NonEmptyString
  server_ca : NonEmptyString
deriving DecidableEq

structure RCAuthenticationConfig where
  header_key_name : NonEmptyString
  key : NonEmptyString
  type : NonEmptyString
  cert : Option RCClientCert
deriving DecidableEq

structure RCConfigurationProdEnvironment where
  base_url : NonEmptyString
  details_authentication : RCAuthenticationConfig
deriving DecidableEq

structure RCConfigurationTestEnvironment extends RCConfigurationProdEnvironment where
  test_users : List FiscalCode
deriving DecidableEq

structure NewRCConfigurationPublic where
  name : NonEmptyString
  description : NonEmptyString
  has_precondition : HasPrecondition
  disable_lollipop_for : List FiscalCode
  is_lollipop_enabled : Bool
  test_environment : Option RCConfigurationTestEnvironment
  prod_environment : Option RCConfigurationProdEnvironment
deriving DecidableEq

structure RCConfigurationPublic extends NewRCConfigurationPublic where
  configuration_id : Ulid
deriving DecidableEq

structure RCConfigurationResponse extends RCConfigurationPublic where
  user_id : String
deriving DecidableEq

structure RCConfigurationListResponse where
  rcConfigList : List RCConfigurationResponse
deriving DecidableEq

structure RCClientCertModel where
  clientCert : NonEmptyString
  clientKey : NonEmptyString
  serverCa : NonEmptyString
deriving DecidableEq

structure RCAuthenticationConfigModel where
  headerKeyName : NonEmptyString
  key : NonEmptyString
  type : NonEmptyString
  cert : Option RCClientCertModel
deriving DecidableEq

structure RCEnvironmentConfig where
  baseUrl : NonEmptyString
  detailsAuthentication : RCAuthenticationConfigModel
deriving DecidableEq

structure RCTestEnvironmentConfig extends RCEnvironmentConfig where
  testUsers : List FiscalCode
deriving DecidableEq

/-- A configuration as it is handed to the store.  The `userId` comes from the
path in a header by an unchecked cast, so it is any string. -/
structure RCConfiguration where
  configurationId : Ulid
  description : NonEmptyString
  disableLollipopFor : List FiscalCode
  hasPrecondition : HasPrecondition
  id : String
  isLollipopEnabled : Bool
  name : NonEmptyString
  prodEnvironment : Option RCEnvironmentConfig
  testEnvironment : Option RCTestEnvironmentConfig
  userId : String
deriving DecidableEq

structure CosmosResourceMetadata where
  _etag : String
  _rid : String
  _self : String
  _ts : Nat
deriving DecidableEq

/-- A configuration as the store returns it. -/
structure RetrievedRCConfiguration extends RCConfiguration, CosmosResourceMetadata
deriving DecidableEq

def RCClientCertModel.toPublic (cert : RCClientCertModel) : RCClientCert where
  client_cert := cert.clientCert
  client_key := cert.clientKey
  server_ca := cert.serverCa

def RCAuthenticationConfigModel.toPublic (detailsAuth : RCAuthenticationConfigModel) :
    RCAuthenticationConfig where
  header_key_name := detailsAuth.headerKeyName
  key := detailsAuth.key
  type := detailsAuth.type
  cert := detailsAuth.cert.map RCClientCertModel.toPublic

def RCEnvironmentConfig.toPublic (environment : RCEnvironmentConfig) :
    RCConfigurationProdEnvironment where
  base_url := environment.baseUrl
  details_authentication := environment.detailsAuthentication.toPublic

def RCTestEnvironmentConfig.toPublic (environment : RCTestEnvironmentConfig) :
    RCConfigurationTestEnvironment where
  base_url := environment.baseUrl
  details_authentication := environment.detailsAuthentication.toPublic
  test_users := environment.testUsers

/-- The public view: every field of the stored shape under its name in snake
case, and nothing about the owner. -/
def RCConfiguration.toPublic (configuration : RCConfiguration) : RCConfigurationPublic where
  configuration_id := configuration.configurationId
  name := configuration.name
  description := configuration.description
  has_precondition := configuration.hasPrecondition
  disable_lollipop_for := configuration.disableLollipopFor
  is_lollipop_enabled := configuration.isLollipopEnabled
  test_environment := configuration.testEnvironment.map RCTestEnvironmentConfig.toPublic
  prod_environment := configuration.prodEnvironment.map RCEnvironmentConfig.toPublic

/-- An entry of the index from users to the configurations they own. -/
structure RetrievedUserRCConfiguration where
  id : String
  userId : String
deriving DecidableEq

end ServiceMessages.RemoteContent

import ServiceMessages.RemoteContent.Configuration

/-!
# From the public shape to the stored shape
-/

namespace ServiceMessages.RemoteContent

def getModelCertFromPublic (cert : RCClientCert) : RCClientCertModel where
  clientCert := cert.client_cert
  clientKey := cert.client_key
  serverCa := cert.server_ca

def getModelDetailsAuthenticationFromPublic (detailsAuth : RCAuthenticationConfig) :
    RCAuthenticationConfigModel where
  cert := detailsAuth.cert.map getModelCertFromPublic
  headerKeyName := detailsAuth.header_key_name
  key := detailsAuth.key
  type := detailsAuth.type

def getModelProdEnvironmentFromPublic (prodEnvironment : RCConfigurationProdEnvironment) :
    RCEnvironmentConfig where
  baseUrl := prodEnvironment.base_url
  detailsAuthentication :=
    getModelDetailsAuthenticationFromPublic prodEnvironment.details_authentication

def getModelTestEnvironmentFromPublic (testEnv : RCConfigurationTestEnvironment) :
    RCTestEnvironmentConfig where
  baseUrl := testEnv.base_url
  detailsAuthentication :=
    getModelDetailsAuthenticationFromPublic testEnv.details_authentication
  testUsers := testEnv.test_users

/-- The generator of the identifier is applied by the caller, which passes the
identifier it returned. -/
def makeNewRCConfigurationWithConfigurationId (ulid : Ulid) (userId : String)
    (publicConfiguration : NewRCConfigurationPublic) : RCConfiguration where
  configurationId := ulid
  description := publicConfiguration.description
  disableLollipopFor := publicConfiguration.disable_lollipop_for
  hasPrecondition := publicConfiguration.has_precondition
  id := ulid.text
  isLollipopEnabled := publicConfiguration.is_lollipop_enabled
  name := publicConfiguration.name
  prodEnvironment := publicConfiguration.prod_environment.map getModelProdEnvironmentFromPublic
  testEnvironment := publicConfiguration.test_environment.map getModelTestEnvironmentFromPublic
  userId := userId

section Stored

variable {configuration : RetrievedRCConfiguration} {ulid : Ulid} {userId : String}
  {publicConfiguration : NewRCConfigurationPublic}

theorem configurationId_of_built (built : configuration.toRCConfiguration =
    makeNewRCConfigurationWithConfigurationId ulid userId publicConfiguration) :
    configuration.configurationId = ulid := by
  rw [built]
  rfl

theorem userId_of_built (built : configuration.toRCConfiguration =
    makeNewRCConfigurationWithConfigurationId ulid userId publicConfiguration) :
    configuration.userId = userId := by
  rw [built]
  rfl

end Stored

@[simp]
theorem toPublic_getModelCertFromPublic (cert : RCClientCert) :
    (getModelCertFromPublic cert).toPublic = cert := rfl

@[simp]
theorem toPublic_getModelDetailsAuthenticationFromPublic (detailsAuth : RCAuthenticationConfig) :
    (getModelDetailsAuthenticationFromPublic detailsAuth).toPublic = detailsAuth := by
  cases detailsAuth with
  | mk header_key_name key type cert =>
      cases cert <;> rfl

@[simp]
theorem toPublic_getModelProdEnvironmentFromPublic
    (prodEnvironment : RCConfigurationProdEnvironment) :
    (getModelProdEnvironmentFromPublic prodEnvironment).toPublic = prodEnvironment := by
  simp [getModelProdEnvironmentFromPublic, RCEnvironmentConfig.toPublic]

@[simp]
theorem toPublic_getModelTestEnvironmentFromPublic (testEnv : RCConfigurationTestEnvironment) :
    (getModelTestEnvironmentFromPublic testEnv).toPublic = testEnv := by
  simp [getModelTestEnvironmentFromPublic, RCTestEnvironmentConfig.toPublic]

/-- Nothing of a payload is lost, and nothing is added but the identifier. -/
theorem toPublic_makeNewRCConfigurationWithConfigurationId (ulid : Ulid) (userId : String)
    (publicConfiguration : NewRCConfigurationPublic) :
    (makeNewRCConfigurationWithConfigurationId ulid userId publicConfiguration).toPublic =
      { publicConfiguration with configuration_id := ulid } := by
  have prodEnvironments : RCEnvironmentConfig.toPublic ∘ getModelProdEnvironmentFromPublic = id :=
    funext toPublic_getModelProdEnvironmentFromPublic
  have testEnvironments :
      RCTestEnvironmentConfig.toPublic ∘ getModelTestEnvironmentFromPublic = id :=
    funext toPublic_getModelTestEnvironmentFromPublic
  simp [makeNewRCConfigurationWithConfigurationId, RCConfiguration.toPublic, prodEnvironments,
    testEnvironments]

end ServiceMessages.RemoteContent

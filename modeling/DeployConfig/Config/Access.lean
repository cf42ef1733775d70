/-
  Access to the cluster.
-/
import DeployConfig.Binding.Slot

namespace DeployConfig

/-- How to reach the target cluster. -/
structure Access where
  username : Option String := none
  password : Option String := none
  masterUrl : Option String := none
  apiVersion : Option String := none
  nameSpace : Option String := none
  caCertFile : Option String := none
  caCertData : Option String := none
  clientCertFile : Option String := none
  clientCertData : Option String := none
  clientKeyFile : Option String := none
  clientKeyData : Option String := none
  clientKeyAlgo : Option String := none
  clientKeyPassphrase : Option String := none
  trustStoreFile : Option String := none
  trustStorePassphrase : Option String := none
  keyStoreFile : Option String := none
  keyStorePassphrase : Option String := none
  maxConcurrentRequests : Option UInt32 := none
  maxConcurrentRequestsPerHost : Option UInt32 := none
  trustCerts : Option Bool := none
  httpProxy : Option String := none
  httpsProxy : Option String := none
  proxyUsername : Option String := none
  proxyPassword : Option String := none
  noProxy : List String := []
  /-- Milliseconds. -/
  requestTimeout : Option UInt32 := none
  /-- Milliseconds. -/
  connectionTimeout : Option UInt32 := none
  deriving DecidableEq

instance : Bindable Access where
  kind := "access"
  empty := {}
  slots := [
    .optional "username" .string (.mk (·.username) fun t v => { t with username := v }),
    .optional "password" .string (.mk (·.password) fun t v => { t with password := v }),
    .optional "masterUrl" .string (.mk (·.masterUrl) fun t v => { t with masterUrl := v }),
    .optional "apiVersion" .string (.mk (·.apiVersion) fun t v => { t with apiVersion := v }),
    .optional "namespace" .string (.mk (·.nameSpace) fun t v => { t with nameSpace := v }),
    .optional "caCertFile" .string (.mk (·.caCertFile) fun t v => { t with caCertFile := v }),
    .optional "caCertData" .string (.mk (·.caCertData) fun t v => { t with caCertData := v }),
    .optional "clientCertFile" .string
      (.mk (·.clientCertFile) fun t v => { t with clientCertFile := v }),
    .optional "clientCertData" .string
      (.mk (·.clientCertData) fun t v => { t with clientCertData := v }),
    .optional "clientKeyFile" .string
      (.mk (·.clientKeyFile) fun t v => { t with clientKeyFile := v }),
    .optional "clientKeyData" .string
      (.mk (·.clientKeyData) fun t v => { t with clientKeyData := v }),
    .optional "clientKeyAlgo" .string
      (.mk (·.clientKeyAlgo) fun t v => { t with clientKeyAlgo := v }),
    .optional "clientKeyPassphrase" .string
      (.mk (·.clientKeyPassphrase) fun t v => { t with clientKeyPassphrase := v }),
    .optional "trustStoreFile" .string
      (.mk (·.trustStoreFile) fun t v => { t with trustStoreFile := v }),
    .optional "trustStorePassphrase" .string
      (.mk (·.trustStorePassphrase) fun t v => { t with trustStorePassphrase := v }),
    .optional "keyStoreFile" .string (.mk (·.keyStoreFile) fun t v => { t with keyStoreFile := v }),
    .optional "keyStorePassphrase" .string
      (.mk (·.keyStorePassphrase) fun t v => { t with keyStorePassphrase := v }),
    .optional "maxConcurrentRequests" (.integer UInt32)
      (.mk (·.maxConcurrentRequests) fun t v => { t with maxConcurrentRequests := v }),
    .optional "maxConcurrentRequestsPerHost" (.integer UInt32)
      (.mk (·.maxConcurrentRequestsPerHost) fun t v =>
        { t with maxConcurrentRequestsPerHost := v }),
    .optional "trustCerts" .boolean (.mk (·.trustCerts) fun t v => { t with trustCerts := v }),
    .optional "httpProxy" .string (.mk (·.httpProxy) fun t v => { t with httpProxy := v }),
    .optional "httpsProxy" .string (.mk (·.httpsProxy) fun t v => { t with httpsProxy := v }),
    .optional "proxyUsername" .string
      (.mk (·.proxyUsername) fun t v => { t with proxyUsername := v }),
    .optional "proxyPassword" .string
      (.mk (·.proxyPassword) fun t v => { t with proxyPassword := v }),
    .whole "noProxy" .strings (.mk (·.noProxy) fun t v => { t with noProxy := v }),
    .optional "requestTimeout" (.integer UInt32)
      (.mk (·.requestTimeout) fun t v => { t with requestTimeout := v }),
    .optional "connectionTimeout" (.integer UInt32)
      (.mk (·.connectionTimeout) fun t v => { t with connectionTimeout := v })]

instance : Writable Access where
  fields a := [
    ("username", a.username.map .string),
    ("password", a.password.map .string),
    ("masterUrl", a.masterUrl.map .string),
    ("apiVersion", a.apiVersion.map .string),
    ("namespace", a.nameSpace.map .string),
    ("caCertFile", a.caCertFile.map .string),
    ("caCertData", a.caCertData.map .string),
    ("clientCertFile", a.clientCertFile.map .string),
    ("clientCertData", a.clientCertData.map .string),
    ("clientKeyFile", a.clientKeyFile.map .string),
    ("clientKeyData", a.clientKeyData.map .string),
    ("clientKeyAlgo", a.clientKeyAlgo.map .string),
    ("clientKeyPassphrase", a.clientKeyPassphrase.map .string),
    ("trustStoreFile", a.trustStoreFile.map .string),
    ("trustStorePassphrase", a.trustStorePassphrase.map .string),
    ("keyStoreFile", a.keyStoreFile.map .string),
    ("keyStorePassphrase", a.keyStorePassphrase.map .string),
    ("maxConcurrentRequests", a.maxConcurrentRequests.map Writable.ofInteger),
    ("maxConcurrentRequestsPerHost", a.maxConcurrentRequestsPerHost.map Writable.ofInteger),
    ("trustCerts", a.trustCerts.map .boolean),
    ("httpProxy", a.httpProxy.map .string),
    ("httpsProxy", a.httpsProxy.map .string),
    ("proxyUsername", a.proxyUsername.map .string),
    ("proxyPassword", a.proxyPassword.map .string),
    ("noProxy", Writable.list .string a.noProxy),
    ("requestTimeout", a.requestTimeout.map Writable.ofInteger),
    ("connectionTimeout", a.connectionTimeout.map Writable.ofInteger)]

end DeployConfig

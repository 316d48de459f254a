import Reprox.Config.Validation

/-!
# Certificates and server configurations

The certificate in force lives in a resolver that every server configuration
shares by reference, so a server configuration itself holds the protocol
versions and the application protocols but no certificate. Parsing PEM,
importing keys and checking version sets belong to the TLS library and are
parameters.
-/

namespace Reprox.Tls

open Foundations Config

inductive ProtocolVersion where
  | tls12
  | tls13
  deriving DecidableEq, Repr

/-- The TLS library, as far as the program calls it. -/
structure Provider where
  pemCertificates : Bytes → Except Report (List Bytes)
  pemPrivateKey : Bytes → Except Report Bytes
  loadPrivateKey : Bytes → Except Report Bytes
  keysMatch : List Bytes → Bytes → Except Report Unit
  withProtocolVersions : List ProtocolVersion → Except Report Unit

structure CertifiedKey where
  certs : List Bytes
  key : Bytes
  deriving DecidableEq, Repr

structure ReloadableCertResolver where
  certKey : CertifiedKey
  deriving DecidableEq, Repr

def ReloadableCertResolver.update (_ : ReloadableCertResolver) (key : CertifiedKey) :
    ReloadableCertResolver := ⟨key⟩

def ReloadableCertResolver.resolve (r : ReloadableCertResolver) : CertifiedKey := r.certKey

structure ServerConfig where
  versions : List ProtocolVersion
  alpnProtocols : List Text
  deriving DecidableEq, Repr

def versionsFor (cfg : ServiceConfig) : List ProtocolVersion :=
  if cfg.tlsMinVersion = "1.3".toList then [.tls13] else [.tls12, .tls13]

section Provider

variable (tls : Provider)

def buildServerConfig (alpnProtocols : List Text) (cfg : ServiceConfig) :
    Except Report ServerConfig := do
  withContext "failed to configure the requested TLS versions".toList
    (tls.withProtocolVersions (versionsFor cfg))
  pure ⟨versionsFor cfg, alpnProtocols⟩

/-- The library accepts the two version sets that are ever requested. -/
def Provider.SupportsVersions : Prop :=
  tls.withProtocolVersions [.tls13] = .ok () ∧ tls.withProtocolVersions [.tls12, .tls13] = .ok ()

variable (read : Text → Except Report Bytes)

def loadCerts (path : Text) : Except Report (List Bytes) := do
  let buffer ← withContext ("failed to open certificate file ".toList ++ Text.quoted path)
    (read path)
  let certs ← withContext ("failed to parse PEM certificates from ".toList ++ Text.quoted path)
    (tls.pemCertificates buffer)
  ensure (certs ≠ []) ("no certificates found in ".toList ++ Text.quoted path)
  pure certs

def loadKey (path : Text) : Except Report Bytes := do
  let buffer ← withContext ("failed to open key file ".toList ++ Text.quoted path) (read path)
  withContext ("failed to parse private key from ".toList ++ Text.quoted path)
    (tls.pemPrivateKey buffer)

def loadCertifiedKey (certPath keyPath : Text) : Except Report CertifiedKey := do
  let certs ← loadCerts tls read certPath
  let keyDer ← loadKey tls read keyPath
  let signingKey ← withContext ("the key at ".toList ++ Text.quoted keyPath ++
    " isn't valid for the TLS provider".toList) (tls.loadPrivateKey keyDer)
  withContext ("the private key at ".toList ++ Text.quoted keyPath ++
      " does not match the certificate at ".toList ++ Text.quoted certPath)
    (tls.keysMatch certs signingKey)
  pure ⟨certs, signingKey⟩

def certifiedKeyOf (cfg : ServiceConfig) : Except Report CertifiedKey :=
  loadCertifiedKey tls read cfg.tlsCertPath cfg.tlsKeyPath

variable {tls read}

theorem buildServerConfig_ok {alpnProtocols : List Text} {cfg : ServiceConfig}
    {serverConfig : ServerConfig}
    (h : buildServerConfig tls alpnProtocols cfg = .ok serverConfig) :
    serverConfig = ⟨versionsFor cfg, alpnProtocols⟩ := by
  simp only [buildServerConfig, bind_eq_ok] at h
  obtain ⟨-, -, h⟩ := h
  exact (Except.ok.inj h).symm

theorem buildServerConfig_of_supports (h : tls.SupportsVersions) (alpnProtocols : List Text)
    (cfg : ServiceConfig) :
    buildServerConfig tls alpnProtocols cfg = .ok ⟨versionsFor cfg, alpnProtocols⟩ := by
  have hversions : tls.withProtocolVersions (versionsFor cfg) = .ok () := by
    unfold versionsFor
    split_ifs
    · exact h.1
    · exact h.2
  simp only [buildServerConfig, hversions]
  rfl

end Provider

/-- A library that takes every file for a certificate and a key that match. -/
def Provider.accepting : Provider where
  pemCertificates buffer := .ok [buffer]
  pemPrivateKey buffer := .ok buffer
  loadPrivateKey keyDer := .ok keyDer
  keysMatch _ _ := .ok ()
  withProtocolVersions _ := .ok ()

theorem Provider.accepting_supportsVersions : Provider.accepting.SupportsVersions := ⟨rfl, rfl⟩

end Reprox.Tls

import PaymentRelay.Json.Record
import PaymentRelay.Settings.Address

/-
  Settings of the relay, each with a default.
-/

namespace PaymentRelay

/-- Which wallet the relay hands requests to. -/
inductive Backend where
  /-- Wallets that are connected over sockets. -/
  | socket
  /-- One wallet that is reached over HTTP. -/
  | payd
  deriving DecidableEq, Repr

/-- Where the relay listens and how payers reach it. -/
structure ServerSettings where
  host : String := "0.0.0.0"
  port : UInt16 := 8445
  fqdn : String := "localhost:8445"
  secure : Bool := false
  deriving DecidableEq

/-- Which installation this is. -/
structure DeploymentSettings where
  environment : String := "dev"
  region : String := "local"
  version : String := "0.1.0"
  commit : String := "test"
  deriving DecidableEq

structure LoggingSettings where
  level : String := "info"
  json : Bool := false
  deriving DecidableEq

structure WalletSettings where
  backend : Backend := .socket
  deriving DecidableEq

/-- The wallet that is reached over HTTP; the port begins with a colon. -/
structure PaydSettings where
  noop : Bool := false
  host : String := "payd"
  port : String := ":8443"
  secure : Bool := false
  deriving DecidableEq

/-- The limits of wallet connections. -/
structure SocketSettings where
  callTimeout : UInt64 := 10
  channelTimeout : UInt64 := 7200
  maxMessageBytes : UInt64 := 10000
  deriving DecidableEq

structure Settings where
  server : ServerSettings := {}
  deployment : DeploymentSettings := {}
  logging : LoggingSettings := {}
  wallet : WalletSettings := {}
  payd : PaydSettings := {}
  socket : SocketSettings := {}
  deriving DecidableEq

/-- The scheme and host of a web address. -/
def originOf (secure : Bool) (host : String) : String :=
  (if secure then "https://" else "http://") ++ host

/-- The address payers reach the relay on. -/
def ServerSettings.publicUrl (s : ServerSettings) : String := originOf s.secure s.fqdn

/-- The address of the wallet. -/
def PaydSettings.baseUrl (s : PaydSettings) : String := originOf s.secure (s.host ++ s.port)

def DeploymentSettings.isDev (s : DeploymentSettings) : Bool := s.environment = "dev"

namespace Backend

def name : Backend → String
  | .socket => "socket"
  | .payd => "payd"

def decoder : Decoder Backend := .variant [("socket", .socket), ("payd", .payd)]

def encode (b : Backend) : Json := .text b.name

end Backend

def ServerSettings.record : Record ServerSettings where
  name := "ServerConfig"
  types := [String, UInt16, String, Bool]
  fields :=
    .cons (.withDefault "host" .text .text ({} : ServerSettings).host) <|
    .cons (.withDefault "port" .port (fun p => .ofNat p.toNat) ({} : ServerSettings).port) <|
    .cons (.withDefault "fqdn" .text .text ({} : ServerSettings).fqdn) <|
    .cons (.withDefault "secure" .bool .bool ({} : ServerSettings).secure) .nil
  build := fun (host, port, fqdn, secure, ()) => ⟨host, port, fqdn, secure⟩
  parts := fun s => (s.host, s.port, s.fqdn, s.secure, ())

def DeploymentSettings.record : Record DeploymentSettings where
  name := "DeploymentConfig"
  types := [String, String, String, String]
  fields :=
    .cons (.withDefault "environment" .text .text ({} : DeploymentSettings).environment) <|
    .cons (.withDefault "region" .text .text ({} : DeploymentSettings).region) <|
    .cons (.withDefault "version" .text .text ({} : DeploymentSettings).version) <|
    .cons (.withDefault "commit" .text .text ({} : DeploymentSettings).commit) .nil
  build := fun (environment, region, version, commit, ()) => ⟨environment, region, version, commit⟩
  parts := fun s => (s.environment, s.region, s.version, s.commit, ())

def LoggingSettings.record : Record LoggingSettings where
  name := "LoggingConfig"
  types := [String, Bool]
  fields :=
    .cons (.withDefault "level" .text .text ({} : LoggingSettings).level) <|
    .cons (.withDefault "json" .bool .bool ({} : LoggingSettings).json) .nil
  build := fun (level, json, ()) => ⟨level, json⟩
  parts := fun s => (s.level, s.json, ())

def WalletSettings.record : Record WalletSettings where
  name := "WalletConfig"
  types := [Backend]
  fields :=
    .cons (.withDefault "backend" Backend.decoder Backend.encode ({} : WalletSettings).backend) .nil
  build := fun (backend, ()) => ⟨backend⟩
  parts := fun s => (s.backend, ())

def PaydSettings.record : Record PaydSettings where
  name := "PayDConfig"
  types := [Bool, String, String, Bool]
  fields :=
    .cons (.withDefault "noop" .bool .bool ({} : PaydSettings).noop) <|
    .cons (.withDefault "host" .text .text ({} : PaydSettings).host) <|
    .cons (.withDefault "port" .text .text ({} : PaydSettings).port) <|
    .cons (.withDefault "secure" .bool .bool ({} : PaydSettings).secure) .nil
  build := fun (noop, host, port, secure, ()) => ⟨noop, host, port, secure⟩
  parts := fun s => (s.noop, s.host, s.port, s.secure, ())

def SocketSettings.record : Record SocketSettings where
  name := "SocketConfig"
  types := [UInt64, UInt64, UInt64]
  fields :=
    .cons (.withDefault "call_timeout_seconds" (.word "u64") (fun n => .number (.ofWord n))
      ({} : SocketSettings).callTimeout) <|
    .cons (.withDefault "channel_timeout_seconds" (.word "u64") (fun n => .number (.ofWord n))
      ({} : SocketSettings).channelTimeout) <|
    .cons (.withDefault "max_message_bytes" (.word "usize") (fun n => .number (.ofWord n))
      ({} : SocketSettings).maxMessageBytes) .nil
  build := fun (call, channel, max, ()) => ⟨call, channel, max⟩
  parts := fun s => (s.callTimeout, s.channelTimeout, s.maxMessageBytes, ())

def Settings.record : Record Settings where
  name := "ProxyConfig"
  types := [ServerSettings, DeploymentSettings, LoggingSettings, WalletSettings, PaydSettings,
    SocketSettings]
  fields :=
    .cons (.withDefault "server" ServerSettings.record.decoder ServerSettings.record.encode {}) <|
    .cons (.withDefault "deployment" DeploymentSettings.record.decoder
      DeploymentSettings.record.encode {}) <|
    .cons (.withDefault "logging" LoggingSettings.record.decoder
      LoggingSettings.record.encode {}) <|
    .cons (.withDefault "wallet" WalletSettings.record.decoder WalletSettings.record.encode {}) <|
    .cons (.withDefault "payd" PaydSettings.record.decoder PaydSettings.record.encode {}) <|
    .cons (.withDefault "socket" SocketSettings.record.decoder SocketSettings.record.encode {}) .nil
  build := fun (server, deployment, logging, wallet, payd, socket, ()) =>
    ⟨server, deployment, logging, wallet, payd, socket⟩
  parts := fun s => (s.server, s.deployment, s.logging, s.wallet, s.payd, s.socket, ())

end PaymentRelay

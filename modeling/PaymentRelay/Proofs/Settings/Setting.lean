import Mathlib.Data.List.Nodup
import PaymentRelay.Proofs.Settings.Form

/-
  The settings one by one.

  A setting has a variable, a form and a place in the settings. Each place is independent of the
  others (`get_put_self`, `get_put_ne`), together they are all there is (`ext_get`), and no two
  settings have a variable in common (`name_injective`). The list of variables is the list of
  settings, each read by its form and put into its place (`Variable.all_eq`).
-/

namespace PaymentRelay.Settings

/-- A setting. -/
inductive Setting where
  | serverHost
  | serverPort
  | serverFqdn
  | serverSecure
  | environment
  | region
  | version
  | commit
  | logLevel
  | jsonLogs
  | walletBackend
  | paydNoop
  | paydHost
  | paydPort
  | paydSecure
  | callTimeout
  | channelTimeout
  | maxMessageBytes
  deriving DecidableEq, Repr

namespace Setting

/-- The settings in the order in which they are loaded. -/
def all : List Setting :=
  [serverHost, serverPort, serverFqdn, serverSecure, environment, region, version, commit,
    logLevel, jsonLogs, walletBackend, paydNoop, paydHost, paydPort, paydSecure, callTimeout,
    channelTimeout, maxMessageBytes]

/-- The name of the variable of a setting, after what all names begin with. -/
def key : Setting → String
  | serverHost => "SERVER_HOST"
  | serverPort => "SERVER_PORT"
  | serverFqdn => "SERVER_FQDN"
  | serverSecure => "SERVER_SECURE"
  | environment => "ENVIRONMENT"
  | region => "REGION"
  | version => "VERSION"
  | commit => "COMMIT"
  | logLevel => "LOG_LEVEL"
  | jsonLogs => "JSON_LOGS"
  | walletBackend => "WALLET_BACKEND"
  | paydNoop => "PAYD_NOOP"
  | paydHost => "PAYD_HOST"
  | paydPort => "PAYD_PORT"
  | paydSecure => "PAYD_SECURE"
  | callTimeout => "SOCKET_CALL_TIMEOUT_SECONDS"
  | channelTimeout => "SOCKET_CHANNEL_TIMEOUT_SECONDS"
  | maxMessageBytes => "SOCKET_MAX_MESSAGE_BYTES"

/-- The name of the variable of a setting. -/
def name (k : Setting) : String := variablePrefix ++ k.key

/-- The form of a setting. -/
def form : Setting → Form
  | serverPort => .port
  | serverSecure | jsonLogs | paydNoop | paydSecure => .flag
  | walletBackend => .backend
  | paydPort => .colonText
  | callTimeout | channelTimeout | maxMessageBytes => .word
  | _ => .text

/-- The value of a setting. -/
def get : (k : Setting) → Settings → k.form.Value
  | serverHost, s => s.server.host
  | serverPort, s => s.server.port
  | serverFqdn, s => s.server.fqdn
  | serverSecure, s => s.server.secure
  | environment, s => s.deployment.environment
  | region, s => s.deployment.region
  | version, s => s.deployment.version
  | commit, s => s.deployment.commit
  | logLevel, s => s.logging.level
  | jsonLogs, s => s.logging.json
  | walletBackend, s => s.wallet.backend
  | paydNoop, s => s.payd.noop
  | paydHost, s => s.payd.host
  | paydPort, s => s.payd.port
  | paydSecure, s => s.payd.secure
  | callTimeout, s => s.socket.callTimeout
  | channelTimeout, s => s.socket.channelTimeout
  | maxMessageBytes, s => s.socket.maxMessageBytes

/-- The settings with another value of a setting. -/
def put : (k : Setting) → k.form.Value → Settings → Settings
  | serverHost, v, s => { s with server.host := v }
  | serverPort, v, s => { s with server.port := v }
  | serverFqdn, v, s => { s with server.fqdn := v }
  | serverSecure, v, s => { s with server.secure := v }
  | environment, v, s => { s with deployment.environment := v }
  | region, v, s => { s with deployment.region := v }
  | version, v, s => { s with deployment.version := v }
  | commit, v, s => { s with deployment.commit := v }
  | logLevel, v, s => { s with logging.level := v }
  | jsonLogs, v, s => { s with logging.json := v }
  | walletBackend, v, s => { s with wallet.backend := v }
  | paydNoop, v, s => { s with payd.noop := v }
  | paydHost, v, s => { s with payd.host := v }
  | paydPort, v, s => { s with payd.port := v }
  | paydSecure, v, s => { s with payd.secure := v }
  | callTimeout, v, s => { s with socket.callTimeout := v }
  | channelTimeout, v, s => { s with socket.channelTimeout := v }
  | maxMessageBytes, v, s => { s with socket.maxMessageBytes := v }

end Setting

end PaymentRelay.Settings

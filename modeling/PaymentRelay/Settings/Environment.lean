import PaymentRelay.Settings.Basic
import PaymentRelay.Text.Case

/-
  Settings from the environment.

  Every setting has one variable. The variables are looked up in a fixed order, each sets its own
  field and nothing else, and the first malformed value in that order is the error. Settings that
  load need not make sense together; `Settings.check` says whether they do.
-/

namespace PaymentRelay

/-- What is wrong with settings. -/
inductive SettingsError where
  | invalidAddress (host : String)
  | invalidValue (key value : String)
  | invalidLimit (reason : String)
  | invalidTimeout (reason : String)
  | invalid (reason : String)
  deriving DecidableEq, Repr

/-- The message of an error. -/
def SettingsError.text : SettingsError → String
  | .invalidAddress host => "invalid bind address: " ++ host
  | .invalidValue key value => "invalid value for DPP_" ++ key ++ ": '" ++ value ++ "'"
  | .invalidLimit reason => "invalid limit: " ++ reason
  | .invalidTimeout reason => "invalid timeout: " ++ reason
  | .invalid reason => "invalid configuration: " ++ reason

namespace Settings

/-- What the names of all variables begin with. -/
def variablePrefix : String := "DPP_"

/-- The value of decimal digits below a bound, after an optional plus sign. -/
def natural? (bound : Nat) (s : String) : Option Nat :=
  let cs := match s.toList with
    | '+' :: rest => rest
    | cs => cs
  if cs ≠ [] ∧ cs.all (fun c => '0' ≤ c && c ≤ '9') then
    let n := cs.foldl (fun n c => n * 10 + (c.toNat - 48)) 0
    if n < bound then some n else none
  else none

/-- A number of 64 bits. -/
def word (key value : String) : Except SettingsError UInt64 :=
  match natural? UInt64.size value with
  | some n => .ok (UInt64.ofNat n)
  | none => .error (.invalidValue key value)

/-- A port, which may be written with colons before it. -/
def port (key value : String) : Except SettingsError UInt16 :=
  let digits := String.ofList (value.toList.dropWhile (· = ':'))
  match natural? UInt16.size digits with
  | some n => .ok (UInt16.ofNat n)
  | none => .error (.invalidValue key digits)

/-- Only `true`, in any case, and `1` are true. -/
def flag (value : String) : Bool := lowerCase value = "true" || value = "1"

/-- The backend of a name, in any case. -/
def backend (value : String) : Except SettingsError Backend :=
  let name := lowerCase value
  if name = "socket" ∨ name = "sockets" then .ok .socket
  else if name = "payd" ∨ name = "http" then .ok .payd
  else .error (.invalidValue "WALLET_BACKEND" name)

/-- A port with a colon before it. -/
def colonPort (value : String) : String :=
  match value.toList with
  | ':' :: _ => value
  | _ => ":" ++ value

/-- A variable: the name it has after the common beginning, and what its value does to the
settings. -/
structure Variable where
  key : String
  apply : String → Settings → Except SettingsError Settings

/-- A variable whose value is always good. -/
def Variable.simple (key : String) (set : String → Settings → Settings) : Variable :=
  ⟨key, fun value s => .ok (set value s)⟩

/-- A variable whose value is read first. -/
def Variable.parsed {α : Type} (key : String) (read : String → Except SettingsError α)
    (set : α → Settings → Settings) : Variable :=
  ⟨key, fun value s => (read value).map fun a => set a s⟩

/-- All variables, in the order in which they are looked up. -/
def Variable.all : List Variable := [
  .simple "SERVER_HOST" fun v s => { s with server.host := v },
  .parsed "SERVER_PORT" (port "SERVER_PORT") fun v s => { s with server.port := v },
  .simple "SERVER_FQDN" fun v s => { s with server.fqdn := v },
  .simple "SERVER_SECURE" fun v s => { s with server.secure := flag v },
  .simple "ENVIRONMENT" fun v s => { s with deployment.environment := v },
  .simple "REGION" fun v s => { s with deployment.region := v },
  .simple "VERSION" fun v s => { s with deployment.version := v },
  .simple "COMMIT" fun v s => { s with deployment.commit := v },
  .simple "LOG_LEVEL" fun v s => { s with logging.level := v },
  .simple "JSON_LOGS" fun v s => { s with logging.json := flag v },
  .parsed "WALLET_BACKEND" backend fun v s => { s with wallet.backend := v },
  .simple "PAYD_NOOP" fun v s => { s with payd.noop := flag v },
  .simple "PAYD_HOST" fun v s => { s with payd.host := v },
  .simple "PAYD_PORT" fun v s => { s with payd.port := colonPort v },
  .simple "PAYD_SECURE" fun v s => { s with payd.secure := flag v },
  .parsed "SOCKET_CALL_TIMEOUT_SECONDS" (word "SOCKET_CALL_TIMEOUT_SECONDS")
    fun v s => { s with socket.callTimeout := v },
  .parsed "SOCKET_CHANNEL_TIMEOUT_SECONDS" (word "SOCKET_CHANNEL_TIMEOUT_SECONDS")
    fun v s => { s with socket.channelTimeout := v },
  .parsed "SOCKET_MAX_MESSAGE_BYTES" (word "SOCKET_MAX_MESSAGE_BYTES")
    fun v s => { s with socket.maxMessageBytes := v }]

/-- The settings after the variables of a list, in order. -/
def applyAll (env : String → Option String) :
    List Variable → Settings → Except SettingsError Settings
  | [], s => .ok s
  | v :: rest, s =>
    match env (variablePrefix ++ v.key) with
    | none => applyAll env rest s
    | some value =>
      match v.apply value s with
      | .ok s => applyAll env rest s
      | .error e => .error e

/-- The settings of an environment. -/
def load (env : String → Option String) : Except SettingsError Settings :=
  applyAll env Variable.all {}

/-- The address to listen on. -/
def address (s : Settings) : Except SettingsError SocketAddress :=
  match IpAddress.read? s.server.host with
  | some ip => .ok ⟨ip, s.server.port⟩
  | none => .error (.invalidAddress s.server.host)

/-- Whether settings make sense, or the first thing that does not. -/
def check (s : Settings) : Except SettingsError Unit :=
  match s.address with
  | .error e => .error e
  | .ok _ =>
    if s.socket.callTimeout = 0 then
      .error (.invalidTimeout "socket call timeout cannot be 0")
    else if s.socket.channelTimeout = 0 then
      .error (.invalidTimeout "socket channel timeout cannot be 0")
    else if s.socket.maxMessageBytes = 0 then
      .error (.invalidLimit "max_message_bytes cannot be 0")
    else if s.wallet.backend = .payd ∧ s.payd.noop = false ∧ s.payd.host = "" then
      .error (.invalid "payd host cannot be empty")
    else .ok ()

end Settings

end PaymentRelay

import PaymentRelay.LogFilter
import PaymentRelay.Relay.Basic

/-
  Starting a relay.

  The settings are loaded, the log filter is read and the relay is built, in this order, and the
  first of these that fails is the reason why the relay does not start. A relay that starts has
  passed the check of its settings (`start_check`).
-/

namespace PaymentRelay

/-- Why a relay does not start. -/
inductive StartError where
  /-- A setting is malformed. -/
  | settings (e : SettingsError)
  | logFilter (level : String)
  /-- The settings make no sense together. -/
  | relay (e : SettingsError)
  deriving DecidableEq, Repr

/-- The message of an error. -/
def StartError.text : StartError → String
  | .settings e => "failed to load configuration: " ++ e.text
  | .logFilter level => "failed to initialise logging: invalid log filter: " ++ level
  | .relay e => "failed to build proxy: " ++ Relay.startText e

namespace Relay

/-- The settings and the relay that an environment describes. -/
def start (env : String → Option String) : Except StartError (Settings × Relay) :=
  match Settings.load env with
  | .error e => .error (.settings e)
  | .ok s =>
    if LogFilter.isValid s.logging.level = false then .error (.logFilter s.logging.level)
    else
      match ofSettings s with
      | .error e => .error (.relay e)
      | .ok r => .ok (s, r)

theorem ofSettings_check {s : Settings} {r : Relay} (h : ofSettings s = .ok r) :
    s.check = .ok () := by
  unfold ofSettings at h
  split at h
  · cases h
  · assumption

theorem start_check {env : String → Option String} {s : Settings} {r : Relay}
    (h : start env = .ok (s, r)) : s.check = .ok () := by
  unfold start at h
  split at h
  · cases h
  · split at h
    · cases h
    · split at h
      · cases h
      · next relay =>
        cases h
        exact ofSettings_check relay

end Relay

end PaymentRelay

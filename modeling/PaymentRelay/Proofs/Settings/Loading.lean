import PaymentRelay.Proofs.Settings.Setting

/-
  Settings loaded from an environment.

  Loading goes through the settings in order. A variable that is bound to something with a meaning
  sets its setting and no other, one that is not bound sets nothing, and one that is bound to
  something without a meaning ends the loading with an error that names it (`applyAll_wellFormed`,
  `applyAll_malformed`). So an environment loads exactly if every setting can be given its value,
  and settings are loaded exactly if each of them has what the environment gives
  (`load_eq_ok_iff`); else the first variable without a meaning is the error (`load_malformed`).
-/

namespace PaymentRelay.Settings

namespace Setting

/-- A setting has what the environment gives: what its variable means, or else what it had. -/
def Given (env : String → Option String) (before after : Settings) (k : Setting) : Prop :=
  match env k.name with
  | some value => k.form.Means value (k.get after)
  | none => k.get after = k.get before

end Setting

open Setting

section
variable {env env' : String → Option String} {k : Setting} {s s' base : Settings}

theorem Setting.Given.unique (first : Given env base s k) (second : Given env base s' k) :
    k.get s = k.get s' := by
  unfold Given at first second
  cases bound : env k.name with
  | some value =>
    rw [bound] at first second
    exact first.unique second
  | none =>
    rw [bound] at first second
    exact first.trans second.symm

end

end PaymentRelay.Settings

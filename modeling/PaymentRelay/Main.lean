import PaymentRelay.Relay.Start

/-
  The command line: it says whether a relay would start in this environment, and where it would
  listen.
-/

namespace PaymentRelay

/-- The values of the variables in the environment of the process. -/
def readEnvironment : List Settings.Variable → IO (List (String × String))
  | [] => return []
  | v :: rest => do
    let name := Settings.variablePrefix ++ v.key
    let others ← readEnvironment rest
    match ← IO.getEnv name with
    | some value => return (name, value) :: others
    | none => return others

/-- What is printed on a start, and whether it is one. -/
def startReport (env : String → Option String) : Except String String :=
  match Relay.start env with
  | .error e => .error e.text
  | .ok (s, _) =>
    match s.address with
    | .ok a => .ok ("listening on " ++ a.text)
    | .error e => .error e.text

end PaymentRelay

def main : IO UInt32 := do
  let env ← PaymentRelay.readEnvironment PaymentRelay.Settings.Variable.all
  match PaymentRelay.startReport fun name => PaymentRelay.Dict.lookup name env with
  | .ok line =>
    IO.println line
    return 0
  | .error line =>
    IO.eprintln ("Error: " ++ line)
    return 1

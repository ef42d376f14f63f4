import PaymentRelay.Json.Record

/-
  Payments and acknowledgements.

  Of what payer and payee hand each other only a mode and a memo are looked at. Everything else in
  the object is kept as it is and handed on.
-/

namespace PaymentRelay

/-- A payment or an acknowledgement: an object with a mode, a memo and anything else. -/
structure Slip where
  mode : Option String
  memo : Option String
  /-- The members that are neither the mode nor the memo. -/
  others : Dict Json

namespace Slip

def empty : Slip := ⟨none, none, .empty⟩

/-- The fields that are looked at. -/
def known : Fields [Option String, Option String] :=
  .cons (.optional "modeId" .text .text) <| .cons (.optional "memo" .text .text) .nil

/-- Reads the members: the known ones into their fields, any other as it is. -/
def collect (src : Source) : List (Document × Document) →
    Slots [Option String, Option String] → Dict Json → Except Fault Slip
  | [], (mode, memo, ()), others => .ok ⟨mode.getD none, memo.getD none, others⟩
  | (.text (some key), doc) :: rest, slots, others =>
    match known.place src key doc slots with
    | some (.ok slots) => collect src rest slots others
    | some (.error e) => .error e
    | none =>
      match Decoder.inside (.field key) (Decoder.json src doc) with
      | .ok j => collect src rest slots (others.insert key j)
      | .error e => .error e
  | (_, _) :: _, _, _ => .error .unreadable

/-- Decodes a slip; only an object is one. -/
def decoder (title : String) : Decoder Slip := fun src doc =>
  match doc with
  | .object members closed =>
    match src.enter? with
    | none => .error .unreadable
    | some inner =>
      match collect inner members Slots.none .empty with
      | .error e => .error e
      | .ok slip => if src.isText && !closed then .error .unreadable else .ok slip
  | doc => .error (doc.wrongType title)

/-- What a payer submits. -/
def payment : Decoder Slip := decoder "struct Payment"

/-- What a payee answers. -/
def acknowledgement : Decoder Slip := decoder "struct PaymentAck"

/-- A slip as an object: the mode and the memo if they are there, and the rest. -/
def encode (s : Slip) : Json :=
  .object (known.members (s.mode, s.memo, ()) ++ s.others.entries)

end Slip

end PaymentRelay

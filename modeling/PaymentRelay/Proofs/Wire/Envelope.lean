import PaymentRelay.Proofs.Wire.Agreement
import PaymentRelay.Proofs.Wire.PassThrough
import PaymentRelay.Proofs.Wire.Stability

/-
  Envelopes that are passed on.

  An envelope is passed on as a value, with its members in the order of their keys. Whatever it
  holds, and with or without a signature and a key, the value is read as that envelope again
  (`Envelope.ofJson_terms`).
-/

namespace PaymentRelay

open Decoder

theorem Field.keeps_optionalText {name : String} {room : Nat} (o : Option String) :
    (optional name .text .text).Keeps room o := by
  cases o with
  | none => exact rfl
  | some s => exact ⟨rfl, rfl⟩

namespace Envelope

theorem readsBack (room : Nat) (p : Envelope) :
    record.decoder.ReadsBack (room + 1) (record.encode p) p :=
  Record.readsBack (r := record) (a := p)
    ⟨readsBack_text _, Field.keeps_optionalText _, Field.keeps_optionalText _, readsBack_text _,
      readsBack_text _, trivial⟩ (by decide)

theorem unrepeated_encode (p : Envelope) :
    (Document.ofJson (record.encode p)).unrepeated = true := by
  obtain ⟨payload, _ | signature, _ | publicKey, encoding, mimeType⟩ := p <;> rfl

theorem depth_encode (p : Envelope) : (record.encode p).depth = 1 := by
  obtain ⟨payload, _ | signature, _ | publicKey, encoding, mimeType⟩ := p <;> rfl

/-- The value of an envelope is read as that envelope. -/
theorem ofJson_terms (p : Envelope) : record.decoder.ofJson p.terms = .ok p := by
  have value : toJson? (.text 1) (Document.ofJson (record.encode p)) = some p.terms := by
    rw [toJson?_ofJson, depth_encode]
    rfl
  -- A value and the text of it are decoded alike, and the text is read back.
  have alike := Record.agrees agree_fields _ _ _ value p.unrepeated_encode
  rw [(readsBack 0 p).decoded] at alike
  exact toOption_eq_some_iff.mp alike.symm

end Envelope

end PaymentRelay

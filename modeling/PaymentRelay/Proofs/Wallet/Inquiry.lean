import PaymentRelay.Wallet.Inquiry

/-
  What comes of inquiries.

  An inquiry is run against any client, which answers every request. Looking one thing up and then
  another comes to the second result, or to the failure of the first (`Lookup.run_andThen`), and a
  description is put around a failure where it arises (`Lookup.run_describe`).
-/

namespace PaymentRelay

section
variable {α β : Type} (client : Exchange → Except Failure Json)

theorem Inquiry.run_map (f : α → β) (i : Inquiry α) :
    (i.map f).run client = ((i.run client).1, f (i.run client).2) := by
  induction i with
  | done a => rfl
  | ask x next ih => rw [map, run, ih, run]

namespace Lookup

theorem run_one (x : Exchange) (d : Decoder α) :
    ((one x d).run client).2 =
      (client x).bind fun j => (d.ofJson j).mapError .ofFault := rfl

theorem run_describe (description : String) (l : Lookup α) :
    ((describe description l).run client).2 =
      Failure.describe description (l.run client).2 := by
  rw [describe, Inquiry.run_map]

theorem run_andThen (next : α → Lookup β) (l : Lookup α) :
    ((andThen next l).run client).2 =
      (l.run client).2.bind fun a => ((next a).run client).2 := by
  induction l with
  | done result => cases result <;> rfl
  | ask x rest ih => exact ih (client x)

end Lookup

end

end PaymentRelay

import PaymentRelay.Proofs.Time.Timestamp
import PaymentRelay.Proofs.Wire.Format
import PaymentRelay.Proofs.Wire.Slip

/-
  What is written in a format is read back.

  Every record of the wire is faithful, field by field, in the room that its nesting leaves it. So
  whatever was read from a text of integers is written as a text that is read as the same again
  (`Format.rereads`), in whatever form the first text was.
-/

namespace PaymentRelay

variable {room : Nat} {name : String}

/-! ## Fields of the wire -/

namespace Decoder

theorem readsBack_timestamp (t : Timestamp) : timestamp.ReadsBack room (.text t.text) t := by
  refine ⟨rfl, ?_⟩
  simp only [timestamp, Document.ofJson, Timestamp.read?_text]

theorem stable_text : text.Stable .text room := stable_of_readsBack readsBack_text

theorem stable_bool : bool.Stable .bool room := stable_of_readsBack readsBack_bool

theorem stable_word : (word name).Stable .ofWord room := stable_of_readsBack readsBack_word

end Decoder

namespace Field

theorem faithful_text : (required name .text .text).Faithful room :=
  faithful_required Decoder.stable_text

theorem faithful_optionalText : (optional name .text .text).Faithful room :=
  faithful_optional Decoder.stable_text fun _ => nofun

theorem faithful_defaultText {s : String} : (withDefault name .text .text s).Faithful room :=
  faithful_withDefault Decoder.stable_text (Decoder.readsBack_text s)

theorem faithful_flag {b : Bool} : (withDefault name .bool .bool b).Faithful room :=
  faithful_withDefault Decoder.stable_bool (Decoder.readsBack_bool b)

theorem faithful_word {type : String} : (required name (.word type) .ofWord).Faithful room :=
  faithful_required Decoder.stable_word

theorem faithful_defaultWord {type : String} {n : UInt64} :
    (withDefault name (.word type) .ofWord n).Faithful room :=
  faithful_withDefault Decoder.stable_word (Decoder.readsBack_word n)

/-- A record may stand for its absence if it is what comes of an empty object. -/
theorem faithful_defaultRecord {α : Type} {r : Record α} {a : α} (faithful : r.fields.Faithful room)
    (distinct : r.fields.Distinct) (empty : r.fields.complete Slots.none = .ok (r.parts a)) :
    (withDefault name r.decoder r.encode a).Faithful (room + 1) :=
  faithful_withDefault (Record.stable faithful distinct)
    (Record.readsBack (faithful.complete (Fields.keepsFound_none _) empty) distinct)

end Field

/-! ## Records of the wire -/

theorem Message.faithful_fields (now : Timestamp) : (record now).fields.Faithful (room + 1) := by
  refine ⟨Field.faithful_text, Field.faithful_text, Field.faithful_defaultText,
    Field.faithful_defaultText, ?headers, ?body, ?timestamp, trivial⟩
  case headers =>
    exact Field.faithful_withDefault (Decoder.stable_dict Decoder.stable_text)
      (Decoder.readsBack_dict fun _ => nofun)
  case body => exact Field.faithful_withDefault Decoder.stable_json ⟨rfl, rfl⟩
  case timestamp =>
    exact Field.faithful_withDefault (Decoder.stable_of_readsBack Decoder.readsBack_timestamp)
      (Decoder.readsBack_timestamp now)

theorem Envelope.faithful_fields : record.fields.Faithful room :=
  ⟨Field.faithful_text, Field.faithful_optionalText, Field.faithful_optionalText,
    Field.faithful_defaultText, Field.faithful_defaultText, trivial⟩

theorem TermsArgs.faithful_fields : record.fields.Faithful room := ⟨Field.faithful_text, trivial⟩

theorem PaymentArgs.faithful_fields : record.fields.Faithful room := ⟨Field.faithful_text, trivial⟩

theorem ProofArgs.faithful_fields : record.fields.Faithful room :=
  ⟨Field.faithful_text, Field.faithful_text, trivial⟩

/-- Extensions are left out when there are none, which is what absent ones are. -/
theorem Merchant.faithful_extensions : extensionsField.Faithful (room + 1) := by
  have none : extensionsField.Keeps (room + 1) .empty := rfl
  refine ⟨fun doc d integral decoded => ?_, fun d same => ?_⟩
  · have back := Decoder.stable_dict_json doc d integral decoded
    by_cases empty : d.isEmpty
    · obtain ⟨entries, sorted⟩ := d
      obtain rfl : entries = [] := List.isEmpty_iff.mp empty
      exact none
    · rw [Field.Keeps]
      simp only [extensionsField, empty]
      exact back
  · cases same
    exact none

theorem Merchant.faithful_fields : record.fields.Faithful (room + 1) :=
  ⟨Field.faithful_defaultText, Field.faithful_optionalText, Field.faithful_optionalText,
    Field.faithful_optionalText, faithful_extensions, trivial⟩

theorem Output.faithful_fields : record.fields.Faithful room :=
  ⟨Field.faithful_word, Field.faithful_text, Field.faithful_optionalText, trivial⟩

/-- The alias is read, and never written. -/
theorem Destination.faithful_fields : record.fields.Faithful room :=
  have amount : satoshisField.Faithful room := ⟨Decoder.stable_word, nofun⟩
  ⟨Field.faithful_text, amount, trivial⟩

theorem Fee.faithful_fields : record.fields.Faithful room :=
  ⟨Field.faithful_defaultWord, Field.faithful_defaultWord, trivial⟩

theorem FeeQuote.faithful_fields : record.fields.Faithful (room + 1) :=
  have fee {name : String} :
      (Field.withDefault name Fee.record.decoder Fee.record.encode .zero).Faithful (room + 1) :=
    Field.faithful_defaultRecord Fee.faithful_fields (by decide) rfl
  ⟨fee, fee, trivial⟩

theorem Terms.faithful_fields : record.fields.Faithful (room + 2) := by
  have time {name : String} : (Field.required name .seconds .ofSeconds).Faithful (room + 2) :=
    Field.faithful_required (Decoder.stable_of_readsBack Decoder.readsBack_seconds)
  refine ⟨Field.faithful_text, time, time, Field.faithful_text, Field.faithful_text,
    ?beneficiary, ?outputs, ?fees, trivial⟩
  case beneficiary =>
    exact Field.faithful_optional (Record.stable Merchant.faithful_fields (by decide))
      fun _ => nofun
  case outputs =>
    exact Field.faithful_required
      (Decoder.stable_list (Record.stable Output.faithful_fields (by decide)))
  case fees =>
    exact Field.faithful_required (Record.stable FeeQuote.faithful_fields (by decide))

theorem ErrorRecord.faithful_fields : record.fields.Faithful room :=
  ⟨Field.faithful_defaultText, Field.faithful_defaultText, Field.faithful_defaultText,
    Field.faithful_defaultText, trivial⟩

/-! ## Settings -/

theorem Backend.readsBack (b : Backend) : decoder.ReadsBack room b.encode b := by
  cases b <;> exact ⟨rfl, rfl⟩

theorem Backend.stable : decoder.Stable encode room := Decoder.stable_of_readsBack readsBack

theorem Settings.faithful_fields : record.fields.Faithful (room + 1) := by
  have port : (Field.withDefault "port" .port (fun p => .ofNat p.toNat)
      ({} : ServerSettings).port).Faithful room :=
    Field.faithful_withDefault (Decoder.stable_of_readsBack Decoder.readsBack_port)
      (Decoder.readsBack_port _)
  have backend : (Field.withDefault "backend" Backend.decoder Backend.encode
      ({} : WalletSettings).backend).Faithful room :=
    Field.faithful_withDefault Backend.stable (Backend.readsBack _)
  have server : ServerSettings.record.fields.Faithful room :=
    ⟨Field.faithful_defaultText, port, Field.faithful_defaultText, Field.faithful_flag, trivial⟩
  have deployment : DeploymentSettings.record.fields.Faithful room :=
    ⟨Field.faithful_defaultText, Field.faithful_defaultText, Field.faithful_defaultText,
      Field.faithful_defaultText, trivial⟩
  have logging : LoggingSettings.record.fields.Faithful room :=
    ⟨Field.faithful_defaultText, Field.faithful_flag, trivial⟩
  have wallet : WalletSettings.record.fields.Faithful room := ⟨backend, trivial⟩
  have payd : PaydSettings.record.fields.Faithful room :=
    ⟨Field.faithful_flag, Field.faithful_defaultText, Field.faithful_defaultText,
      Field.faithful_flag, trivial⟩
  have socket : SocketSettings.record.fields.Faithful room :=
    ⟨Field.faithful_defaultWord, Field.faithful_defaultWord, Field.faithful_defaultWord, trivial⟩
  exact ⟨Field.faithful_defaultRecord server (by decide) rfl,
    Field.faithful_defaultRecord deployment (by decide) rfl,
    Field.faithful_defaultRecord logging (by decide) rfl,
    Field.faithful_defaultRecord wallet (by decide) rfl,
    Field.faithful_defaultRecord payd (by decide) rfl,
    Field.faithful_defaultRecord socket (by decide) rfl, trivial⟩

/-! ## Formats -/

theorem Message.distinct_fields (now : Timestamp) : (record now).fields.Distinct :=
  (by decide : (record .epoch).fields.Distinct)

/-- A message that was read is read back at any other time: what is written of it has a
timestamp. -/
theorem Message.readsBack {now : Timestamp} {m : Message}
    (kept : (record m.timestamp).fields.Keeps room ((record m.timestamp).parts m)) :
    (record now).decoder.ReadsBack (room + 1) m.encode m :=
  Record.readsBack (r := record now) (a := m) kept (distinct_fields now)

namespace Format

variable {f : Format} {now now' : Timestamp}

/-- Whatever is read in a format is written so that it is read back, at any other time. -/
theorem stable {doc : Document} {v : f.Content} (integral : doc.isIntegral = true)
    (decoded : f.decoder now (.text Source.maxDepth) doc = .ok v) :
    (f.decoder now').ReadsBack Source.maxDepth (f.encode v) v := by
  cases f with
  | message =>
    have kept := Record.keeps_of_decoded (Message.faithful_fields now) integral decoded
    exact Message.readsBack kept
  | payment => exact Slip.stable _ doc v integral decoded
  | acknowledgement => exact Slip.stable _ doc v integral decoded
  | terms => exact Decoder.stable_json doc v integral decoded
  | envelope => exact Record.stable Envelope.faithful_fields (by decide) doc v integral decoded
  | termsArgs => exact Record.stable TermsArgs.faithful_fields (by decide) doc v integral decoded
  | paymentArgs =>
    exact Record.stable PaymentArgs.faithful_fields (by decide) doc v integral decoded
  | proofArgs => exact Record.stable ProofArgs.faithful_fields (by decide) doc v integral decoded
  | merchant => exact Record.stable Merchant.faithful_fields (by decide) doc v integral decoded
  | output => exact Record.stable Output.faithful_fields (by decide) doc v integral decoded
  | destination =>
    exact Record.stable Destination.faithful_fields (by decide) doc v integral decoded
  | feeQuote => exact Record.stable FeeQuote.faithful_fields (by decide) doc v integral decoded
  | paymentTerms => exact Record.stable Terms.faithful_fields (by decide) doc v integral decoded
  | errorRecord =>
    exact Record.stable ErrorRecord.faithful_fields (by decide) doc v integral decoded
  | settings => exact Record.stable Settings.faithful_fields (by decide) doc v integral decoded

/-- Whatever form the text of a value has, the text that is written of the value is read as that
value again, and so is written the same again. -/
theorem rereads {cs : List Symbol} {v : f.Content}
    (integral : (Document.read cs).1.isIntegral = true)
    (decoded : (f.decoder now).ofSymbols cs = .ok v) :
    (f.decoder now').ofString (f.encode v).print = .ok v ∧
      ((f.decoder now').ofString (f.encode v).print).map (fun w => (f.encode w).print) =
        .ok (f.encode v).print := by
  have back : (f.decoder now').ofString (f.encode v).print = .ok v :=
    (stable integral (Decoder.decoded_of_ofSymbols decoded)).print
  exact ⟨back, by rw [back]; rfl⟩

/-- The text of a message with its fields in another order, one of them unknown, the others absent,
with an escape and a timestamp that is neither complete nor in UTC. -/
def roughText : List Char :=
  ['\x7b', '"', 'x', '"', ':', '[', ']', ',', '"', 't', 'i', 'm', 'e', 's', 't', 'a', 'm', 'p',
    '"', ':', '"', '1', '9', '7', '0', '-', '1', '-', '1', 't', '1', ':', '0', ':', '0', '+', '0',
    '1', ':', '0', '0', '"', ',', '"', 'c', 'h', 'a', 'n', 'n', 'e', 'l', 'I', 'd', '"', ':', '"',
    '\\', 'u', '0', '0', '6', '3', '"', ',', '"', 'k', 'e', 'y', '"', ':', '"', 'k', '"', '\x7d']

theorem rereads_rough :
    (message.decoder .epoch).ofString (message.encode (.new "k" "c" .epoch)).print =
        .ok (.new "k" "c" .epoch) ∧
      ((message.decoder .epoch).ofString (message.encode (.new "k" "c" .epoch)).print).map
        (fun w => (message.encode w).print) = .ok (message.encode (.new "k" "c" .epoch)).print :=
  have integral : (Document.read (Utf8.ofChars roughText)).1.isIntegral = true := rfl
  have decoded : (message.decoder .epoch).ofSymbols (Utf8.ofChars roughText) =
      .ok (.new "k" "c" .epoch) := rfl
  rereads integral decoded

end Format

end PaymentRelay

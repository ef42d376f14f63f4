import Mathlib.Data.Option.Basic
import PaymentRelay.Proofs.Wire.Format
import PaymentRelay.Proofs.Wire.Slip

/-
  A text and its value are read as the same.

  A format is read from a text, as the body of a request or as a frame, or from a value that was
  passed through, as the body of a message or the answer of a wallet. If the text has a value and
  repeats no key, both ways come to the same (`Format.reads_alike`), but for the timestamp that each
  of them makes up for a message without one.
-/

namespace PaymentRelay

/-! ## Records of the wire -/

section

open Decoder

theorem Decoder.agrees_timestamp : timestamp.Agrees :=
  agrees_of_plain (fun _ _ _ => rfl) (fun _ _ _ => rfl) (fun _ _ _ => rfl)

theorem Message.agree_fields (now : Timestamp) : (record now).fields.Agree :=
  ⟨agrees_text, agrees_text, agrees_text, agrees_text, agrees_dict agrees_text, agrees_json,
    agrees_timestamp, trivial⟩

theorem Envelope.agree_fields : record.fields.Agree :=
  ⟨agrees_text, agrees_optional agrees_text, agrees_optional agrees_text, agrees_text, agrees_text,
    trivial⟩

theorem TermsArgs.agree_fields : record.fields.Agree := ⟨agrees_text, trivial⟩

theorem PaymentArgs.agree_fields : record.fields.Agree := ⟨agrees_text, trivial⟩

theorem ProofArgs.agree_fields : record.fields.Agree := ⟨agrees_text, agrees_text, trivial⟩

theorem Merchant.agree_fields : record.fields.Agree :=
  ⟨agrees_text, agrees_optional agrees_text, agrees_optional agrees_text,
    agrees_optional agrees_text, agrees_dict agrees_json, trivial⟩

theorem Output.agree_fields : record.fields.Agree :=
  ⟨agrees_integer, agrees_text, agrees_optional agrees_text, trivial⟩

theorem Destination.agree_fields : record.fields.Agree := ⟨agrees_text, agrees_integer, trivial⟩

theorem Fee.agree_fields : record.fields.Agree := ⟨agrees_integer, agrees_integer, trivial⟩

theorem FeeQuote.agree_fields : record.fields.Agree :=
  ⟨Record.agrees Fee.agree_fields, Record.agrees Fee.agree_fields, trivial⟩

theorem Terms.agree_fields : record.fields.Agree :=
  ⟨agrees_text, agrees_integer, agrees_integer, agrees_text, agrees_text,
    agrees_optional (Record.agrees Merchant.agree_fields),
    agrees_list (Record.agrees Output.agree_fields), Record.agrees FeeQuote.agree_fields, trivial⟩

theorem ErrorRecord.agree_fields : record.fields.Agree :=
  ⟨agrees_text, agrees_text, agrees_text, agrees_text, trivial⟩

theorem Settings.agree_fields : record.fields.Agree := by
  refine ⟨Record.agrees ?server, Record.agrees ?deployment, Record.agrees ?logging,
    Record.agrees ?wallet, Record.agrees ?payd, Record.agrees ?socket, trivial⟩
  case server => exact ⟨agrees_text, agrees_integer, agrees_text, agrees_bool, trivial⟩
  case deployment => exact ⟨agrees_text, agrees_text, agrees_text, agrees_text, trivial⟩
  case logging => exact ⟨agrees_text, agrees_bool, trivial⟩
  case wallet => exact ⟨agrees_variant, trivial⟩
  case payd => exact ⟨agrees_bool, agrees_text, agrees_text, agrees_bool, trivial⟩
  case socket => exact ⟨agrees_integer, agrees_integer, agrees_integer, trivial⟩

end

namespace Format

variable {f : Format} {now now' : Timestamp}

theorem agrees : (f.decoder now).Agrees := by
  cases f with
  | message => exact Record.agrees (Message.agree_fields now)
  | payment => exact Slip.agrees _
  | acknowledgement => exact Slip.agrees _
  | terms => exact Decoder.agrees_json
  | envelope => exact Record.agrees Envelope.agree_fields
  | termsArgs => exact Record.agrees TermsArgs.agree_fields
  | paymentArgs => exact Record.agrees PaymentArgs.agree_fields
  | proofArgs => exact Record.agrees ProofArgs.agree_fields
  | merchant => exact Record.agrees Merchant.agree_fields
  | output => exact Record.agrees Output.agree_fields
  | destination => exact Record.agrees Destination.agree_fields
  | feeQuote => exact Record.agrees FeeQuote.agree_fields
  | paymentTerms => exact Record.agrees Terms.agree_fields
  | errorRecord => exact Record.agrees ErrorRecord.agree_fields
  | settings => exact Record.agrees Settings.agree_fields

end Format

/-! ## Values that are made up -/

namespace Fields

/-- The fields are read in the same way; if they are absent they may have different values. -/
def SameForm : {ts : List Type} → Fields ts → Fields ts → Prop
  | _, .nil, .nil => True
  | _, .cons f rest, .cons f' rest' =>
    f' = { f with absent := f'.absent } ∧ f'.absent.isSome = f.absent.isSome ∧ rest.SameForm rest'

/-- The rows are the same but for values that were made up, each by its own fields. -/
def Alike : {ts : List Type} → Fields ts → Fields ts → Row ts → Row ts → Prop
  | _, .nil, .nil, _, _ => True
  | _, .cons f rest, .cons f' rest', (a, row), (b, row') =>
    (b = a ∨ f.absent = some a ∧ f'.absent = some b) ∧ rest.Alike rest' row row'

variable {ts : List Type} {fs fs' : Fields ts} {src : Source} {slots : Slots ts}

theorem SameForm.place (same : fs.SameForm fs') (key : String) (doc : Document) :
    fs'.place src key doc slots = fs.place src key doc slots := by
  induction fs with
  | nil =>
    cases fs'
    rfl
  | cons f rest ih =>
    cases fs' with
    | cons f' rest' =>
      obtain ⟨slot, slots⟩ := slots
      obtain ⟨form, -, others⟩ := same
      generalize f'.absent = absent at form
      subst form
      change (cons { f with absent } rest').place src key doc (.cons slot slots) =
        (cons f rest).place src key doc (.cons slot slots)
      cases own : f.answersTo key with
      | false =>
        rw [place_of_unanswered own, ← ih others]
        exact place_of_unanswered (f := { f with absent }) own
      | true =>
        cases slot with
        | none =>
          rw [place_of_answered own]
          exact place_of_answered (f := { f with absent }) own
        | some a =>
          rw [place_of_repeated own]
          exact place_of_repeated (f := { f with absent }) own

theorem SameForm.count (same : fs.SameForm fs') : fs'.count = fs.count := by
  induction fs with
  | nil =>
    cases fs'
    rfl
  | cons f rest ih =>
    cases fs' with
    | cons f' rest' => exact congrArg (· + 1) (ih same.2.2)

theorem SameForm.collect (same : fs.SameForm fs') (members : List (Document × Document)) :
    fs'.collect src members slots = fs.collect src members slots := by
  induction members generalizing slots with
  | nil => rfl
  | cons member rest ih =>
    obtain ⟨key, doc⟩ := member
    cases key with
    | text key =>
      cases key with
      | none => rfl
      | some key =>
        rw [collect_cons, collect_cons, same.place key doc]
        have others : fs'.collect src rest = fs.collect src rest := funext fun _ => ih
        rw [others]
    | _ => rfl

/-- A value that is read from a document, or made up by either field. -/
theorem Alike.cons {α : Type} {f f' : Field α} {o o' : Option α} {rows rows' : Option (Row ts)}
    (first : Option.Rel (fun a b => b = a ∨ f.absent = some a ∧ f'.absent = some b) o o')
    (others : Option.Rel (fs.Alike fs') rows rows') :
    Option.Rel ((Fields.cons f fs).Alike (.cons f' fs')) (o.bind fun a => rows.map (Row.cons a))
      (o'.bind fun b => rows'.map (Row.cons b)) := by
  cases first with
  | none => exact .none
  | some same =>
    cases others with
    | none => exact .none
    | some alike => exact .some ⟨same, alike⟩

theorem rel_absent {α : Type} {f f' : Field α} (sure : f'.absent.isSome = f.absent.isSome) :
    Option.Rel (fun a b => b = a ∨ f.absent = some a ∧ f'.absent = some b) f.absent f'.absent := by
  cases default : f.absent <;> cases default' : f'.absent <;> rw [default, default'] at sure
  · exact .none
  · cases sure
  · cases sure
  · exact .some (.inr ⟨rfl, rfl⟩)

theorem rel_refl {α : Type} {f f' : Field α} (o : Option α) :
    Option.Rel (fun a b => b = a ∨ f.absent = some a ∧ f'.absent = some b) o o := by
  cases o with
  | none => exact .none
  | some a => exact .some (.inl rfl)

theorem toOption_complete_cons {α : Type} {f : Field α} {slot : Option α} :
    ((cons f fs).complete (.cons slot slots)).toOption =
      (slot.or f.absent).bind fun a => (fs.complete slots).toOption.map (Row.cons a) := by
  rw [Slots.cons, Fields.complete]
  cases slot.or f.absent with
  | none => rfl
  | some a => exact Decoder.toOption_map (Row.cons a)

theorem SameForm.complete (same : fs.SameForm fs') :
    Option.Rel (fs.Alike fs') (fs.complete slots).toOption (fs'.complete slots).toOption := by
  induction fs with
  | nil =>
    cases fs'
    exact .some trivial
  | cons f rest ih =>
    cases fs' with
    | cons f' rest' =>
      obtain ⟨slot, slots⟩ := slots
      obtain ⟨-, sure, others⟩ := same
      change Option.Rel _ ((cons f rest).complete (.cons slot slots)).toOption
        ((cons f' rest').complete (.cons slot slots)).toOption
      rw [toOption_complete_cons, toOption_complete_cons]
      refine Alike.cons ?_ (ih others)
      cases slot with
      | none => exact rel_absent sure
      | some a => exact rel_refl (some a)

theorem SameForm.ofItems (same : fs.SameForm fs') {expected : String} {index : Nat}
    {docs : List Document} :
    Option.Rel (fs.Alike fs') (fs.ofItems src true expected index docs).toOption
      (fs'.ofItems src true expected index docs).toOption := by
  induction fs generalizing index docs with
  | nil =>
    cases fs'
    cases (Fields.nil.ofItems src true expected index docs).toOption with
    | none => exact .none
    | some row => exact .some trivial
  | cons f rest ih =>
    cases fs' with
    | cons f' rest' =>
      obtain ⟨form, sure, others⟩ := same
      cases docs with
      | nil =>
        rw [toOption_ofItems_nil, toOption_ofItems_nil]
        exact Alike.cons (rel_absent sure) (ih others)
      | cons doc docs =>
        have decoder : f'.decoder = f.decoder := by rw [form]
        rw [toOption_ofItems_cons, toOption_ofItems_cons, decoder]
        exact Alike.cons (rel_refl _) (ih others)

end Fields

/-- A record and the same one with other values for absent fields make alike values of a value. -/
theorem Record.ofJson_alike {α : Type} (r : Record α) (fs' : Fields r.types) {R : α → α → Prop}
    (same : r.fields.SameForm fs')
    (alike : ∀ row row', r.fields.Alike fs' row row' → R (r.build row) (r.build row')) (j : Json) :
    Option.Rel R (r.decoder.ofJson j).toOption
      (({ r with fields := fs' } : Record α).decoder.ofJson j).toOption := by
  have built {rows rows' : Option (Row r.types)}
      (related : Option.Rel (r.fields.Alike fs') rows rows') :
      Option.Rel R (rows.map r.build) (rows'.map r.build) := by
    cases related with
    | none => exact .none
    | some row => exact .some (alike _ _ row)
  cases j with
  | array items =>
    have title : ({ r with fields := fs' } : Record α).lengthTitle = r.lengthTitle := by
      simp only [lengthTitle, title, same.count]
    show Option.Rel _ (Except.map _ _).toOption (Except.map _ _).toOption
    rw [Decoder.toOption_map, Decoder.toOption_map, title]
    exact built same.ofItems
  | object members =>
    simp only [Decoder.ofJson, Document.ofJson, Record.decoder, Source.enter?, same.collect]
    cases r.fields.collect .value (Document.ofMembers members) Slots.none with
    | error fault => exact .none
    | ok slots =>
      show Option.Rel _ (Except.map _ _).toOption (Except.map _ _).toOption
      rw [Decoder.toOption_map, Decoder.toOption_map]
      exact built same.complete
  | _ => exact .none

/-! ## Formats -/

namespace Message

variable {now now' : Timestamp}

theorem sameForm_fields : (record now).fields.SameForm (record now').fields :=
  ⟨rfl, rfl, rfl, rfl, rfl, rfl, rfl, rfl, rfl, rfl, rfl, rfl, rfl, rfl, trivial⟩

/-- The messages are the same, or made at different times. -/
def SameAt (now now' : Timestamp) (m m' : Message) : Prop :=
  m' = m ∨ m.timestamp = now ∧ m' = { m with timestamp := now' }

theorem alike_of_rows {row row' : Row (record now).types}
    (alike : (record now).fields.Alike (record now').fields row row') :
    SameAt now now' ((record now).build row) ((record now').build row') := by
  -- a field with the same value for its absence at either time has the same value
  have fixed {α : Type} {a b : α} {absent : Option α}
      (given : b = a ∨ absent = some a ∧ absent = some b) : b = a :=
    given.elim id fun both => Option.some.inj (both.2.symm.trans both.1)
  obtain ⟨route, channel, app, correlation, headers, body, timestamp, ⟨⟩⟩ := row
  obtain ⟨route', channel', app', correlation', headers', body', timestamp', ⟨⟩⟩ := row'
  obtain ⟨route_eq, channel_eq, app_eq, correlation_eq, headers_eq, body_eq, time, -⟩ := alike
  obtain rfl := fixed route_eq
  obtain rfl := fixed channel_eq
  obtain rfl := fixed app_eq
  obtain rfl := fixed correlation_eq
  obtain rfl := fixed headers_eq
  obtain rfl := fixed body_eq
  rcases time with rfl | ⟨made, made'⟩
  · exact .inl rfl
  · cases made
    cases made'
    exact .inr ⟨rfl, rfl⟩

/-- The time only matters to a value of a message without a timestamp. -/
theorem ofJson_alike (j : Json) :
    Option.Rel (SameAt now now') ((record now).decoder.ofJson j).toOption
      ((record now').decoder.ofJson j).toOption :=
  (record now).ofJson_alike (record now').fields sameForm_fields (fun _ _ => alike_of_rows) j

end Message

/-- A text that has a value is decoded as its document is. -/
theorem Decoder.toOption_ofSymbols {α : Type} {d : Decoder α} {cs : List Symbol} {j : Json}
    (parsed : json.ofSymbols cs = .ok j) :
    (d.ofSymbols cs).toOption = (d (.text Source.maxDepth) (Document.read cs).1).toOption := by
  unfold ofSymbols at parsed
  dsimp only at parsed
  split at parsed
  · next rest _ after =>
    split at parsed
    · next blank =>
      simp only [ofSymbols, after]
      cases d (.text Source.maxDepth) (Document.read cs).1 with
      | error fault => rfl
      | ok a => exact congrArg Except.toOption (if_pos blank)
    · cases parsed
  · cases parsed
  · cases parsed

namespace Format

variable {f : Format} {now now' : Timestamp}

/-- The values are the same, but for the time that a message is taken to be made at. -/
def SameAt (now now' : Timestamp) : (f : Format) → f.Content → f.Content → Prop
  | message => Message.SameAt now now'
  | _ => Eq

theorem ofJson_alike (j : Json) :
    Option.Rel (f.SameAt now now') ((f.decoder now).ofJson j).toOption
      ((f.decoder now').ofJson j).toOption := by
  have same {α : Type} (o : Option α) : Option.Rel Eq o o := by
    cases o with
    | none => exact .none
    | some a => exact .some rfl
  cases f with
  | message => exact Message.ofJson_alike j
  | _ => exact same _

/-- A text in which no object repeats a key is read in a format as its value is: both ways refuse
it, or both make the same of it. -/
theorem reads_alike {cs : List Symbol} {j : Json} (parsed : Decoder.json.ofSymbols cs = .ok j)
    (single : (Document.read cs).1.unrepeated = true) :
    Option.Rel (f.SameAt now now') ((f.decoder now).ofSymbols cs).toOption
      ((f.decoder now').ofJson j).toOption := by
  have read : Decoder.toJson? (.text Source.maxDepth) (Document.read cs).1 = some j := by
    have decoded := Decoder.decoded_of_ofSymbols parsed
    unfold Decoder.json at decoded
    split at decoded
    · next read =>
      cases decoded
      exact read
    · cases decoded
  have same : ((f.decoder now).ofSymbols cs).toOption = ((f.decoder now).ofJson j).toOption := by
    rw [Decoder.toOption_ofSymbols parsed, agrees _ _ j read single]
    rfl
  rw [same]
  exact ofJson_alike j

/-- The text of a message without a timestamp, its fields not in the order of their names. -/
def shortText : List Symbol :=
  Utf8.ofChars ['\x7b', '"', 'k', 'e', 'y', '"', ':', '"', 'k', '"', ',', '"', 'c', 'h', 'a', 'n',
    'n', 'e', 'l', 'I', 'd', '"', ':', '"', 'c', '"', '\x7d']

theorem reads_alike_short :
    Option.Rel (message.SameAt .epoch { Timestamp.epoch with hour := 1 })
      ((message.decoder .epoch).ofSymbols shortText).toOption
      ((message.decoder { Timestamp.epoch with hour := 1 }).ofJson
        (.object [("channelId", .text "c"), ("key", .text "k")])).toOption :=
  have parsed : Decoder.json.ofSymbols shortText =
      .ok (.object [("channelId", .text "c"), ("key", .text "k")]) := rfl
  have single : (Document.read shortText).1.unrepeated = true := rfl
  reads_alike parsed single

end Format

end PaymentRelay

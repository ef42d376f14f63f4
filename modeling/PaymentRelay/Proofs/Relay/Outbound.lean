import PaymentRelay.Proofs.Bridge.Outcomes
import PaymentRelay.Proofs.Http.Errand
import PaymentRelay.Proofs.Relay.Connection
import PaymentRelay.Proofs.Text.Utf8
import PaymentRelay.Proofs.Wire.Stability
import PaymentRelay.Relay.Basic

/-
  What the relay writes to the wallets can be read back.

  A payment passes three bounds on how deep its brackets nest. The body of a request and a frame
  both have the room of a text. The message lies in between: it wraps the payment in one more
  object. So the frame of a payment that was accepted is read as the message that it was written
  for if the payment nests one level less than a request may, and else it is refused
  (`Frame.read?_write`, `Relay.payment_rereads`). The bounds on the size do not get in the way: the
  hub has measured the very text that is written.
-/

namespace PaymentRelay

/-! ## Frames -/

namespace Message

variable {room : Nat} {now : Timestamp} {m : Message}

/-- A message is kept where there is room for the brackets of its body. -/
theorem keeps (integral : m.body.isIntegral = true) (canonical : m.body.canonical = m.body)
    (fits : m.body.depth ≤ room + 1) :
    (record now).fields.Keeps (room + 1) ((record now).parts m) := by
  have read : Decoder.toJson? (.text (room + 1)) (Document.ofJson m.body) = some m.body := by
    rw [Decoder.toJson?_ofJson, canonical]
    exact if_pos fits
  have body : Decoder.json.ReadsBack (room + 1) m.body m.body := by
    refine ⟨integral, ?_⟩
    rw [Decoder.json, read]
  have headers : (Decoder.dict .text).ReadsBack (room + 1) (.ofDict (m.headers.map .text))
      m.headers :=
    Decoder.readsBack_dict fun e _ => Decoder.readsBack_text e.2
  exact ⟨Decoder.readsBack_text _, Decoder.readsBack_text _, Decoder.readsBack_text _,
    Decoder.readsBack_text _, headers, body, Decoder.readsBack_timestamp _, trivial⟩

theorem isIntegral_encode (integral : m.body.isIntegral = true)
    (canonical : m.body.canonical = m.body) : m.encode.isIntegral = true :=
  (keeps integral canonical (Nat.le_succ m.body.depth)).integral

/-- A message that is read has a body whose brackets there is room for. -/
theorem depth_body_le {m' : Message}
    (decoded : (record now).decoder (.text (room + 1)) (Document.ofJson m.encode) = .ok m') :
    m.body.depth ≤ room := by
  have written : ("body", m.body) ∈ (record now).fields.members ((record now).parts m) := by
    simp [record, Fields.members, Field.required, Field.withDefault]
  obtain ⟨j, read⟩ : ∃ j, Decoder.json (.text room) (Document.ofJson m.body) = .ok j :=
    Record.takes_of_decoded (r := record now) (a := m) decoded written
  rw [Decoder.json, Decoder.toJson?_ofJson] at read
  by_cases fits : m.body.depth ≤ room
  · exact fits
  · have full : ¬(Source.text room).Holds m.body.depth := fits
    rw [if_neg full] at read
    cases read

end Message

namespace Frame

variable {limit : Nat} {now : Timestamp} {m : Message}

/-- A frame has the size that the hub has measured. -/
theorem length_write (m : Message) : (write m).length = m.size := by
  rw [write, Utf8.length_bytes, Json.print, String.toList_ofList]
  rfl

/-- Decoding a frame is decoding the value that was written. -/
theorem decode_write_eq (integral : m.body.isIntegral = true)
    (canonical : m.body.canonical = m.body) :
    decode now (write m) =
      (Message.record now).decoder (.text Source.maxDepth) (Document.ofJson m.encode) := by
  rw [decode, write, Utf8.symbols_bytes]
  exact Decoder.ofString_print _ (Message.isIntegral_encode integral canonical)

/-- A message whose body nests one level less than a text may is read from its frame. -/
theorem decode_write (integral : m.body.isIntegral = true) (canonical : m.body.canonical = m.body)
    (shallow : m.body.depth < Source.maxDepth) : decode now (write m) = .ok m := by
  have back : (Message.record now).decoder.ReadsBack Source.maxDepth m.encode m :=
    Message.readsBack (Message.keeps integral canonical (Nat.le_of_lt_succ shallow))
  rw [decode_write_eq integral canonical, back.decoded]

/-- A message is read from its frame if its body nests one level less than a text may. -/
theorem read?_write (small : m.size ≤ limit) (integral : m.body.isIntegral = true)
    (canonical : m.body.canonical = m.body) :
    read? limit m.channel now (write m) =
      if m.body.depth < Source.maxDepth then some m else none := by
  rw [read?, length_write, if_neg (Nat.not_lt.mpr small)]
  split
  · next shallow =>
    rw [decode_write integral canonical shallow]
    rfl
  · next deep =>
    cases decoded : decode now (write m) with
    | error fault => rfl
    | ok m' =>
      -- Whatever was read, its body had room inside the brackets of the message.
      rw [decode_write_eq integral canonical] at decoded
      exact absurd (Nat.lt_succ_of_le (Message.depth_body_le decoded)) deep

end Frame

/-! ## Payments -/

namespace Bridge

variable {b b' : Bridge} {d : Dial} {fresh : String} {number : Nat}

/-- A call that is started has published its message. -/
theorem publish_of_start (started : b.start d fresh = (b', .ok number)) :
    ∃ n, b.hub.publish d.channel
      (if d.message.correlation = "" then { d.message with correlation := fresh } else d.message) =
        (b'.hub, .ok n) := by
  unfold start at started
  dsimp only at started
  split at started
  · cases started
  · split at started
    · cases started
    · split at started
      · cases started
      · next hub n published =>
        cases started
        exact ⟨n, published⟩

end Bridge

namespace Relay

variable {s s' : Switchboard} {q : Http.Request} {stamp : Stamp} {number call : Nat} {x : Session}
  {p : Peer} {args : PaymentArgs} {slip : Slip}

/-- The message of a payment. -/
def paymentMessage (args : PaymentArgs) (slip : Slip) (stamp : Stamp) : Message :=
  Socket.compose "payment" args.paymentId stamp.correlation slip.encode.canonical stamp.now

/-- What the relay makes of an errand that asks a question is what the switchboard makes of its
message. -/
theorem request_call {e : Errand} {question : Question} {m : Message}
    (accepted : Http.Verdict.of true q = .errand e)
    (asks : Socket.dispatch e stamp = .call question m) :
    (sockets s).request q stamp =
      match s.call e question m stamp q.isHead with
      | (s', .inl response) => (sockets s', now response)
      | (s', .inr number) => (sockets s', .wait number) := by
  have verdict : Http.Verdict.of (sockets s).isServing q = .errand e := accepted
  have called : s.carryOut e stamp q.isHead = s.call e question m stamp q.isHead := by
    rw [Switchboard.carryOut, asks]
  calc (sockets s).request q stamp
    _ = (sockets s).carryOut e stamp q.isHead := by rw [request, verdict]
    _ = match s.carryOut e stamp q.isHead with
        | (s', .inl response) => (sockets s', now response)
        | (s', .inr number) => (sockets s', .wait number) := rfl
    _ = _ := by rw [called]

theorem request_eq (accepted : Http.Verdict.of true q = .errand (.payment args slip)) :
    (sockets s).request q stamp =
      match s.call (.payment args slip) .payment (paymentMessage args slip stamp) stamp
        q.isHead with
      | (s', .inl response) => (sockets s', now response)
      | (s', .inr number) => (sockets s', .wait number) :=
  request_call accepted rfl

/-- A payment whose answer is waited for has been published, and nothing is done to the sessions. -/
theorem publish_of_payment (accepted : Http.Verdict.of true q = .errand (.payment args slip))
    (taken : (sockets s).request q stamp = (sockets s', .wait call)) :
    (∃ n, s.bridge.hub.publish args.paymentId (paymentMessage args slip stamp) =
        (s'.bridge.hub, .ok n)) ∧ s'.sessions = s.sessions ∧ s'.limits = s.limits := by
  rw [request_eq accepted, Switchboard.call] at taken
  cases started : s.bridge.start
      (Bridge.dial (paymentMessage args slip stamp) s.limits.reply) stamp.correlation with
  | mk bridge answer =>
    rw [Bridge.dial] at started
    rw [started] at taken
    cases answer with
    | error e => cases taken
    | ok number =>
      cases taken
      obtain ⟨n, published⟩ := Bridge.publish_of_start started
      -- The message has the id already that a message without one would be given.
      have filled : (if (paymentMessage args slip stamp).correlation = "" then
          { paymentMessage args slip stamp with correlation := stamp.correlation }
          else paymentMessage args slip stamp) = paymentMessage args slip stamp := ite_self _
      exact ⟨⟨n, by rw [← filled]; exact published⟩, rfl, rfl⟩

/-- A payment that can be published is, and its answer is waited for. -/
theorem request_of_published {hub : Hub} {n : Nat}
    (accepted : Http.Verdict.of true q = .errand (.payment args slip))
    (free : s.bridge.registry.isPending stamp.correlation = false)
    (published : s.bridge.hub.publish args.paymentId (paymentMessage args slip stamp) =
      (hub, .ok n)) :
    ∃ s', (sockets s).request q stamp = (sockets s', .wait s.bridge.nextCall) := by
  have started : s.bridge.start (Bridge.dial (paymentMessage args slip stamp) s.limits.reply)
      stamp.correlation = _ :=
    Bridge.start_dial (m := paymentMessage args slip stamp) s.limits.reply free
  have channel : (paymentMessage args slip stamp).channel = args.paymentId := rfl
  rw [channel, published, Bridge.dial] at started
  rw [request_eq accepted, Switchboard.call, started]
  exact ⟨_, rfl⟩

/-- The body of an accepted payment of integers is a canonical value of integers. -/
theorem integral_of_payment (accepted : Http.Verdict.of true q = .errand (.payment args slip))
    (integral : (Document.read (Utf8.symbols q.body)).1.isIntegral = true) :
    slip.encode.canonical.isIntegral = true := by
  have decoded : Slip.payment (.text Source.maxDepth) (Document.read (Utf8.symbols q.body)).1 =
      .ok slip :=
    Decoder.decoded_of_ofLeading
      (Http.Verdict.brings_of_payment accepted).value
  exact Json.isIntegral_canonical (Slip.stable _ _ slip integral decoded).integral

/-- A payment that was accepted and published is within the limit, and is written to every wallet on
its channel. -/
theorem payment_written (connected : s.Connected number x p) (joined : x.channel = args.paymentId)
    (capacity : 0 < s.bridge.hub.capacity)
    (accepted : Http.Verdict.of true q = .errand (.payment args slip))
    (taken : (sockets s).request q stamp = (sockets s', .wait call)) :
    (paymentMessage args slip stamp).size ≤ s.bridge.hub.limit ∧
      ∃ y, (s'.write x).session? number = some y ∧
        y.unread.getLast? = some (.message (paymentMessage args slip stamp)) := by
  obtain ⟨⟨n, published⟩, sessions, -⟩ := publish_of_payment accepted taken
  obtain ⟨small, p', found, last⟩ := Hub.publish_reached published connected.found
    (connected.channel.trans joined) capacity
  have there : s'.session? number = some x := by
    rw [Switchboard.session?, sessions]
    exact (Option.filter_eq_some_iff.mp connected.isOpen).1
  exact ⟨small, Switchboard.write_last there found last⟩

end Relay

/-! ## Payments of any depth -/

/-- Arrays, one in another. -/
def Json.nested : Nat → Json
  | 0 => .null
  | n + 1 => .array [nested n]

/-- A payment with arrays in it, which nests one level deeper. -/
def Slip.nested (n : Nat) : Slip := ⟨none, none, Dict.empty.insert "a" (.nested n)⟩

/-- A request with such a payment, for an invoice that a wallet serves. -/
def Http.Request.nested (n : Nat) : Http.Request where
  method := "POST"
  path := "/api/v1/payment/inv-1"
  query := ""
  headers := [("content-type", "application/json")]
  body := Utf8.bytes (Slip.nested n).encode.print
  upgradable := false

section
variable {n room : Nat}

namespace Json

theorem depth_nested (n : Nat) : (nested n).depth = n := by
  induction n with
  | zero => rfl
  | succ n ih => rw [nested, depth, depthOfItems, depthOfItems, Nat.max_zero, ih]

theorem canonical_nested (n : Nat) : (nested n).canonical = nested n := by
  induction n with
  | zero => rfl
  | succ n ih => rw [nested, canonical, canonicalItems, canonicalItems, ih]

theorem isIntegral_nested (n : Nat) : (nested n).isIntegral = true := by
  induction n with
  | zero => rfl
  | succ n ih => rw [nested, isIntegral, areIntegral, areIntegral, ih]; rfl

end Json

namespace Slip

theorem encode_nested (n : Nat) : (nested n).encode = .object [("a", .nested n)] := rfl

theorem canonical_nested (n : Nat) : (nested n).encode.canonical = (nested n).encode := by
  rw [encode_nested, Json.canonical, Json.canonicalMembers, Json.canonicalMembers,
    Json.canonical_nested]
  rfl

theorem depth_nested (n : Nat) : (nested n).encode.depth = n + 1 := by
  rw [encode_nested, Json.depth, Json.depthOfMembers, Json.depthOfMembers, Nat.max_zero,
    Json.depth_nested]

theorem kept_nested (fits : n ≤ room) : (nested n).Kept room where
  fields := ⟨rfl, rfl, trivial⟩
  others e mem := by
    obtain rfl : e = ("a", .nested n) := List.mem_singleton.mp mem
    have ignored : known.Ignores "a" := by decide
    refine ⟨ignored, Json.isIntegral_nested n, ?_⟩
    have holds : (Source.text room).Holds (Json.nested n).depth := by
      rw [Json.depth_nested]
      exact fits
    rw [Decoder.json, Decoder.toJson?_ofJson, if_pos holds, Json.canonical_nested]

theorem isIntegral_nested (n : Nat) : (nested n).encode.isIntegral = true :=
  (readsBack "" (kept_nested (Nat.le_refl n))).integral

end Slip

namespace Http

theorem Request.read_nested (n : Nat) :
    Document.read (Utf8.symbols (Request.nested n).body) =
      (Document.ofJson (Slip.nested n).encode, some []) := by
  rw [Request.nested, Utf8.symbols_bytes, Json.print, String.toList_ofList,
    Document.read_chars (Slip.isIntegral_nested n)]

theorem Request.isIntegral_nested (n : Nat) :
    (Document.read (Utf8.symbols (Request.nested n).body)).1.isIntegral = true := by
  rw [Request.read_nested, Document.isIntegral_ofJson, Slip.isIntegral_nested]

theorem Request.jsonBody_nested (fits : n < Source.maxDepth)
    (short : (Slip.nested n).encode.size ≤ bodyLimit) :
    (Request.nested n).jsonBody Slip.payment = .ok (.nested n) := by
  have json : (Request.nested n).isJson = true := rfl
  have length : (Request.nested n).body.length = (Slip.nested n).encode.size := by
    rw [Request.nested, Utf8.length_bytes, Json.print, String.toList_ofList]
    rfl
  have decoded : Slip.payment (.text Source.maxDepth) (Document.ofJson (Slip.nested n).encode) =
      .ok (.nested n) :=
    (Slip.readsBack _ (Slip.kept_nested (Nat.le_of_lt_succ fits))).decoded
  have leading : Slip.payment.ofLeading (Utf8.symbols (Request.nested n).body) =
      .ok (.nested n) := by
    rw [Decoder.ofLeading, Request.read_nested]
    simp only [decoded]
  rw [Request.jsonBody, json, if_neg Bool.noConfusion, length, if_neg (Nat.not_lt.mpr short),
    leading]

theorem Verdict.accepts_nested (serving : Bool) (fits : n < Source.maxDepth)
    (short : (Slip.nested n).encode.size ≤ bodyLimit) :
    Verdict.of serving (.nested n) = .errand (.payment ⟨"inv-1"⟩ (.nested n)) := by
  have path : Endpoint.ofPath? serving (Request.nested n).path = some (.payment "inv-1") := by
    show Endpoint.ofPath? serving "/api/v1/payment/inv-1" = _
    cases serving <;> decide +kernel
  have id : Endpoint.segment "paymentID" "inv-1" = .ok "inv-1" := by
    have plain : Percent.text? (Utf8.bytes "inv-1") = some "inv-1" := by decide +kernel
    rw [Endpoint.segment, plain]
  have head : (Request.nested n).isHead = false := rfl
  have get : (Request.nested n).isGet = false := rfl
  have post : (Request.nested n).method = "POST" := rfl
  simp only [Verdict.of, path, head, Verdict.atEndpoint, get, post, Bool.false_eq_true, if_false,
    if_true, Verdict.payment, id, Verdict.withText, Verdict.withBody,
    Request.jsonBody_nested fits short]
  rfl

theorem Verdict.of_nested (fits : n < Source.maxDepth)
    (short : (Slip.nested n).encode.size ≤ bodyLimit) :
    Verdict.of true (.nested n) = .errand (.payment ⟨"inv-1"⟩ (.nested n)) :=
  accepts_nested true fits short

end Http

namespace Relay

/-- What one request is given. -/
def sampleStamp : Stamp := ⟨"c-1", "e-1", .epoch⟩

/-- A payment of an invoice that a wallet serves is published if its message is within the limit. -/
theorem request_nested {limit : Nat} {stamp : Stamp} (fits : n < Source.maxDepth)
    (short : (Slip.nested n).encode.size ≤ Http.bodyLimit)
    (small : (paymentMessage ⟨"inv-1"⟩ (.nested n) stamp).size ≤ limit) :
    ∃ s', (sockets (.wired limit)).request (.nested n) stamp = (sockets s', .wait 0) := by
  have accepted := Http.Verdict.of_nested fits short
  obtain ⟨hub, reached, published⟩ :
      ∃ hub reached, (Switchboard.wired limit).bridge.hub.publish "inv-1"
        (paymentMessage ⟨"inv-1"⟩ (.nested n) stamp) = (hub, .ok reached) :=
    Hub.publish_join "inv-1" small
  exact request_of_published accepted rfl published

/-! ## Payments that are read back -/

section
variable {s s' : Switchboard} {q : Http.Request} {stamp : Stamp} {number call : Nat} {x : Session}
  {p : Peer} {args : PaymentArgs} {slip : Slip}

/-- Where the connections and the hub have one limit, a payment of integers that was accepted and
published is written to every wallet on its channel, in a frame that is read as the message that was
published if the payment nests one level less than a request may. Else the frame is refused. -/
theorem payment_rereads (connected : s.Connected number x p) (joined : x.channel = args.paymentId)
    (bound : s.limits.frame = s.bridge.hub.limit) (capacity : 0 < s.bridge.hub.capacity)
    (accepted : Http.Verdict.of true q = .errand (.payment args slip))
    (integral : (Document.read (Utf8.symbols q.body)).1.isIntegral = true)
    (taken : (sockets s).request q stamp = (sockets s', .wait call)) :
    ∃ m, (∃ n, s.bridge.hub.publish args.paymentId m = (s'.bridge.hub, .ok n)) ∧
      m.body = slip.encode.canonical ∧
      (∃ y, (s'.write x).session? number = some y ∧ y.unread.getLast? = some (.message m)) ∧
      ∀ now,
        (m.body.depth < Source.maxDepth →
          Frame.read? s'.limits.frame x.channel now (Frame.write m) = some m ∧
            Frame.decode now (Frame.write m) = .ok m) ∧
        (Source.maxDepth ≤ m.body.depth →
          Frame.read? s'.limits.frame x.channel now (Frame.write m) = none) := by
  obtain ⟨published, -, limits⟩ := publish_of_payment accepted taken
  obtain ⟨small, written⟩ := payment_written connected joined capacity accepted taken
  have body := integral_of_payment accepted integral
  have canonical := Json.canonical_canonical slip.encode
  refine ⟨paymentMessage args slip stamp, published, rfl, written, fun now => ?_⟩
  -- The limit of the hub, which the message is within, is that of the connection as well.
  have read : Frame.read? s.bridge.hub.limit args.paymentId now
      (Frame.write (paymentMessage args slip stamp)) = _ :=
    Frame.read?_write small body canonical
  rw [limits, joined, bound]
  constructor
  · intro shallow
    exact ⟨read.trans (if_pos shallow), Frame.decode_write body canonical shallow⟩
  · intro deep
    exact read.trans (if_neg (Nat.not_lt.mpr deep))

end

/-- A payment that nests 126 levels is read back. -/
theorem payment_rereads_shallow :
    ∃ s' m, (sockets (.wired 10000)).request (.nested 125) sampleStamp = (sockets s', .wait 0) ∧
      m.body.depth = 126 ∧ Frame.read? 10000 "inv-1" .epoch (Frame.write m) = some m := by
  have fits : 125 < Source.maxDepth := by decide
  have short : (Slip.nested 125).encode.size ≤ Http.bodyLimit := by decide +kernel
  have small : (paymentMessage ⟨"inv-1"⟩ (.nested 125) sampleStamp).size ≤ 10000 := by
    decide +kernel
  obtain ⟨s', taken⟩ := request_nested fits short small
  obtain ⟨m, -, body, -, read⟩ := payment_rereads (Switchboard.connected_wired 10000) rfl rfl
    (Hub.capacity_pos 4 10000) (Http.Verdict.of_nested fits short)
    (Http.Request.isIntegral_nested 125) taken
  have depth : m.body.depth = 126 := by rw [body, Slip.canonical_nested, Slip.depth_nested]
  have limits := (publish_of_payment (Http.Verdict.of_nested fits short) taken).2.2
  refine ⟨s', m, taken, depth, ?_⟩
  have same := ((read .epoch).1 (by rw [depth]; decide)).1
  rwa [limits] at same

/-- A payment that nests 127 levels is accepted, published and written to the wallet, and its frame
is refused. -/
theorem deep_payment_unread :
    ∃ s' m, (Switchboard.wired 10000).Connected 0 (.new 0 1 "inv-1" .start) ⟨1, "inv-1", []⟩ ∧
      (sockets (.wired 10000)).request (.nested 126) sampleStamp = (sockets s', .wait 0) ∧
      Http.Verdict.of true (.nested 126) = .errand (.payment ⟨"inv-1"⟩ (.nested 126)) ∧
      (Document.read (Utf8.symbols (Http.Request.nested 126).body)).1.isIntegral = true ∧
      (∃ n, (Switchboard.wired 10000).bridge.hub.publish "inv-1" m = (s'.bridge.hub, .ok n)) ∧
      (∃ y, (s'.write (.new 0 1 "inv-1" .start)).session? 0 = some y ∧
        y.unread.getLast? = some (.message m)) ∧
      s'.limits.frame = (Switchboard.wired 10000).bridge.hub.limit ∧
      ∀ now, Frame.read? s'.limits.frame "inv-1" now (Frame.write m) = none := by
  have fits : 126 < Source.maxDepth := by decide
  have short : (Slip.nested 126).encode.size ≤ Http.bodyLimit := by decide +kernel
  have small : (paymentMessage ⟨"inv-1"⟩ (.nested 126) sampleStamp).size ≤ 10000 := by
    decide +kernel
  have accepted := Http.Verdict.of_nested fits short
  obtain ⟨s', taken⟩ := request_nested fits short small
  have integral := Http.Request.isIntegral_nested 126
  obtain ⟨published, -, limits⟩ := publish_of_payment accepted taken
  obtain ⟨-, written⟩ := payment_written (Switchboard.connected_wired 10000) rfl
    (Hub.capacity_pos 4 10000) accepted taken
  refine ⟨s', _, Switchboard.connected_wired 10000, taken, accepted, integral, published, written,
    by rw [limits]; rfl, fun now => ?_⟩
  have deep : ¬(Slip.nested 126).encode.canonical.depth < Source.maxDepth := by
    rw [Slip.canonical_nested, Slip.depth_nested]
    decide
  rw [limits]
  exact (Frame.read?_write small (integral_of_payment accepted integral)
    (Json.canonical_canonical _)).trans (if_neg deep)

end Relay

end

end PaymentRelay

import PaymentRelay.Text.Digit

/-
  IP addresses and the address to listen on.

  Four decimal octets, or eight hexadecimal groups of which one run of zeros may be left out and
  the last two may be written as octets. An address is written with its longest run of zero groups
  left out.
-/

namespace PaymentRelay

/-- An IP address. -/
inductive IpAddress where
  | v4 (octets : List Nat)
  | v6 (groups : List Nat)
  deriving DecidableEq, Repr

namespace IpAddress

/-- The digits at the beginning of a text, and the text after them. -/
def digits (base : Nat) : List Char → List Nat × List Char
  | [] => ([], [])
  | c :: rest =>
    match digitValue? base c with
    | some d => let (ds, after) := digits base rest; (d :: ds, after)
    | none => ([], c :: rest)

def value (base : Nat) (ds : List Nat) : Nat := ds.foldl (fun n d => n * base + d) 0

/-- An octet: at most three digits, no zero before another one. -/
def octet? (cs : List Char) : Option (Nat × List Char) :=
  match digits 10 cs with
  | ([], _) | (0 :: _ :: _, _) => none
  | (ds, rest) => if ds.length ≤ 3 ∧ value 10 ds < 256 then some (value 10 ds, rest) else none

/-- A group: at most four hexadecimal digits. -/
def group? (cs : List Char) : Option (Nat × List Char) :=
  match digits 16 cs with
  | ([], _) => none
  | (ds, rest) => if ds.length ≤ 4 then some (value 16 ds, rest) else none

/-- The text after a mark. -/
def mark? (c : Char) : List Char → Option (List Char)
  | c' :: rest => if c' = c then some rest else none
  | [] => none

/-- Four octets with points between them. -/
def octets? (cs : List Char) : Option (List Nat × List Char) := do
  let (a, cs) ← octet? cs
  let (b, cs) ← (mark? '.' cs).bind octet?
  let (c, cs) ← (mark? '.' cs).bind octet?
  let (d, cs) ← (mark? '.' cs).bind octet?
  some ([a, b, c, d], cs)

/-- Four octets as two groups. -/
def octetGroups? (cs : List Char) : Option (List Nat × List Char) :=
  match octets? cs with
  | some ([a, b, c, d], rest) => some ([a * 256 + b, c * 256 + d], rest)
  | _ => none

/-- At most `room` groups with colons between them; whether they end in octets, and the text after
them. -/
def groups : Nat → Bool → List Char → List Nat × Bool × List Char
  | 0, _, cs => ([], false, cs)
  | room + 1, first, cs =>
    let inner := if first then some cs else mark? ':' cs
    let embedded := if room = 0 then none else inner.bind octetGroups?
    match embedded with
    | some (gs, rest) => (gs, true, rest)
    | none =>
      match inner.bind group? with
      | some (g, rest) =>
        let (gs, octets, after) := groups room false rest
        (g :: gs, octets, after)
      | none => ([], false, cs)

/-- Eight groups, of which a run of zeros may be left out between two colons. -/
def v6? (cs : List Char) : Option (List Nat × List Char) :=
  let (head, octets, rest) := groups 8 true cs
  if head.length = 8 then some (head, rest)
  else if octets then none
  else
    match rest with
    | ':' :: ':' :: rest =>
      let (tail, _, after) := groups (7 - head.length) true rest
      some (head ++ List.replicate (8 - head.length - tail.length) 0 ++ tail, after)
    | _ => none

/-- Reads an address. -/
def read? (s : String) : Option IpAddress :=
  match octets? s.toList with
  | some (octets, []) => some (.v4 octets)
  | some _ => none
  | none =>
    match v6? s.toList with
    | some (gs, []) => some (.v6 gs)
    | _ => none

def octetsText (octets : List Nat) : String := ".".intercalate (octets.map toString)

def groupsText (gs : List Nat) : String :=
  ":".intercalate (gs.map fun g => String.ofList (Nat.toDigits 16 g))

/-- The number of zeros at the beginning. -/
def zeros : List Nat → Nat
  | 0 :: rest => zeros rest + 1
  | _ => 0

/-- The start and the length of the longest run of zeros, the first of equals. -/
def longestZeros : Nat → List Nat → Nat × Nat
  | _, [] => (0, 0)
  | i, g :: rest =>
    let here := zeros (g :: rest)
    let (start, length) := longestZeros (i + 1) rest
    if length ≤ here then (i, here) else (start, length)

/-- Writes an address. -/
def text : IpAddress → String
  | .v4 octets => octetsText octets
  | .v6 [0, 0, 0, 0, 0, 0xFFFF, g, h] =>
    "::ffff:" ++ octetsText [g / 256, g % 256, h / 256, h % 256]
  | .v6 gs =>
    let (start, length) := longestZeros 0 gs
    if 1 < length then
      groupsText (gs.take start) ++ "::" ++ groupsText (gs.drop (start + length))
    else groupsText gs

end IpAddress

/-- An address and a port. -/
structure SocketAddress where
  ip : IpAddress
  port : UInt16
  deriving DecidableEq, Repr

/-- Writes an address and a port. -/
def SocketAddress.text (a : SocketAddress) : String :=
  match a.ip with
  | .v4 _ => a.ip.text ++ ":" ++ toString a.port.toNat
  | .v6 _ => "[" ++ a.ip.text ++ "]:" ++ toString a.port.toNat

end PaymentRelay

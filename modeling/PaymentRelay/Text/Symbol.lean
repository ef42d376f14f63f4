/-
  Text that arrives as bytes.

  A frame or a request body is a list of bytes that need not be UTF-8. `symbols` reads it as
  characters as far as it goes and keeps every ill-formed piece apart, one maximal subpart of a
  character at a time, so that a reader can refuse the piece, skip over it or replace it.
-/

namespace PaymentRelay

/-- One unit of text that arrived as bytes: a character, or a piece that belongs to none. -/
inductive Symbol where
  | char (c : Char)
  | stray (bytes : List UInt8)
  deriving DecidableEq, Repr

namespace Utf8

/-- The beginning of a character: its bytes so far (last first), the bits they carry, how many
bytes are owed after the next one, and the range the next one must lie in. -/
structure Partial where
  bytes : List UInt8
  bits : Nat
  owed : Nat
  low : UInt8
  high : UInt8

/-- What a byte starts, when no character is open. -/
def start (b : UInt8) : Symbol ⊕ Partial :=
  if b < 0x80 then .inl (.char (Char.ofNat b.toNat))
  else if b < 0xC2 then .inl (.stray [b])
  else if b < 0xE0 then .inr ⟨[b], b.toNat - 0xC0, 0, 0x80, 0xBF⟩
  else if b < 0xF0 then
    .inr ⟨[b], b.toNat - 0xE0, 1, if b = 0xE0 then 0xA0 else 0x80, if b = 0xED then 0x9F else 0xBF⟩
  else if b < 0xF5 then
    .inr ⟨[b], b.toNat - 0xF0, 2, if b = 0xF0 then 0x90 else 0x80, if b = 0xF4 then 0x8F else 0xBF⟩
  else .inl (.stray [b])

/-- The open character after a byte that continues it: complete, or still open. -/
def Partial.feed (p : Partial) (b : UInt8) : Symbol ⊕ Partial :=
  let bits := p.bits * 64 + (b.toNat - 0x80)
  match p.owed with
  | 0 => .inl (.char (Char.ofNat bits))
  | n + 1 => .inr ⟨b :: p.bytes, bits, n, 0x80, 0xBF⟩

/-- The symbols of the bytes that follow an open character. -/
def symbolsAfter : Option Partial → List UInt8 → List Symbol
  | none, [] => []
  | some p, [] => [.stray p.bytes.reverse]
  | none, b :: rest =>
    match start b with
    | .inl s => s :: symbolsAfter none rest
    | .inr p => symbolsAfter (some p) rest
  | some p, b :: rest =>
    if p.low ≤ b ∧ b ≤ p.high then
      match p.feed b with
      | .inl s => s :: symbolsAfter none rest
      | .inr q => symbolsAfter (some q) rest
    else
      .stray p.bytes.reverse ::
        match start b with
        | .inl s => s :: symbolsAfter none rest
        | .inr q => symbolsAfter (some q) rest

/-- The characters and the ill-formed pieces of a list of bytes, in order. -/
def symbols (bytes : List UInt8) : List Symbol :=
  symbolsAfter none bytes

/-- The text of a list of symbols, if every one is a character. -/
def strict? : List Symbol → Option (List Char)
  | [] => some []
  | .char c :: rest => (strict? rest).map (c :: ·)
  | .stray _ :: _ => none

/-- The text of a list of symbols, with a replacement character for every ill-formed piece. -/
def lossy : List Symbol → List Char
  | [] => []
  | .char c :: rest => c :: lossy rest
  | .stray _ :: rest => '\uFFFD' :: lossy rest

/-- The symbols of a text: each of its characters. -/
def ofChars (cs : List Char) : List Symbol :=
  cs.map .char

/-- The bytes of a text. -/
def bytes (s : String) : List UInt8 :=
  s.toUTF8.toList

/-- The number of bytes a list of characters takes. -/
def size : List Char → Nat
  | [] => 0
  | c :: rest => c.utf8Size + size rest

theorem strict?_ofChars (cs : List Char) : strict? (ofChars cs) = some cs := by
  induction cs with
  | nil => rfl
  | cons c rest ih => simp only [ofChars, List.map_cons, strict?] at ih ⊢; rw [ih]; rfl

theorem size_append (xs ys : List Char) : size (xs ++ ys) = size xs + size ys := by
  induction xs with
  | nil => simp [size]
  | cons c rest ih => simp only [List.cons_append, size, ih]; omega

end Utf8

end PaymentRelay

import PaymentRelay.Json.Decoder

/-
  Identifiers of 128 bits.

  A request and its reply are paired by an identifier. It is written as thirty-two hexadecimal
  digits in groups of 8, 4, 4, 4 and 12, and read in four forms: the digits alone, in their groups,
  the groups in braces and the groups as a name (`urn:uuid:`). Writing and reading back gives the
  same identifier (`Identity.read?_text`).
-/

namespace PaymentRelay

/-- An identifier: its thirty-two hexadecimal digits. -/
structure Identity where
  digits : List (Fin 16)
  size : digits.length = 32
  deriving DecidableEq

namespace Identity

/-- The identifier all of whose digits are zero. -/
def nil : Identity := ⟨List.replicate 32 0, by decide⟩

/-- The digit that names the version of the scheme an identifier was made by. -/
def version (i : Identity) : Fin 16 := i.digits.get ⟨12, by rw [i.size]; decide⟩

/-- A hexadecimal digit, in lower case. -/
def digitChar (d : Fin 16) : Char :=
  match d.val with
  | 0 => '0' | 1 => '1' | 2 => '2' | 3 => '3' | 4 => '4' | 5 => '5' | 6 => '6' | 7 => '7'
  | 8 => '8' | 9 => '9' | 10 => 'a' | 11 => 'b' | 12 => 'c' | 13 => 'd' | 14 => 'e' | _ => 'f'

/-- The value of a hexadecimal digit, in either case. -/
def digit? (c : Char) : Option (Fin 16) :=
  match c.toLower with
  | '0' => some 0 | '1' => some 1 | '2' => some 2 | '3' => some 3 | '4' => some 4 | '5' => some 5
  | '6' => some 6 | '7' => some 7 | '8' => some 8 | '9' => some 9 | 'a' => some 10
  | 'b' => some 11 | 'c' => some 12 | 'd' => some 13 | 'e' => some 14 | 'f' => some 15
  | _ => none

/-- The digits of a text. -/
def digits? : List Char → Option (List (Fin 16))
  | [] => some []
  | c :: rest =>
    match digit? c, digits? rest with
    | some d, some ds => some (d :: ds)
    | _, _ => none

/-- The identifier with these digits, if there are thirty-two. -/
def ofDigits? (ds : List (Fin 16)) : Option Identity :=
  if h : ds.length = 32 then some ⟨ds, h⟩ else none

/-- Reads a text of thirty-two digits. -/
def ofPlain? (cs : List Char) : Option Identity := (digits? cs).bind ofDigits?

/-- A text with hyphens after its groups of 8, 4, 4 and 4 characters. -/
def group (cs : List Char) : List Char :=
  cs.take 8 ++ '-' :: (cs.drop 8).take 4 ++ '-' :: (cs.drop 12).take 4 ++ '-' ::
    (cs.drop 16).take 4 ++ '-' :: cs.drop 20

/-- A text without the hyphens after its groups, if they stand there. -/
def ungroup? (cs : List Char) : Option (List Char) :=
  let plain := cs.take 8 ++ (cs.drop 9).take 4 ++ (cs.drop 14).take 4 ++ (cs.drop 19).take 4 ++
    cs.drop 24
  if group plain = cs then some plain else none

/-- Reads digits in groups. -/
def ofGrouped? (cs : List Char) : Option Identity := (ungroup? cs).bind ofPlain?

/-- The text within braces or after the beginning of names, or the whole text. -/
def unwrap (cs : List Char) : List Char :=
  if cs.head? = some '\x7b' ∧ cs.getLast? = some '\x7d' then (cs.drop 1).dropLast
  else if (cs.take 9).map Char.toLower = "urn:uuid:".toList then cs.drop 9
  else cs

/-- Reads an identifier in any of its forms. -/
def read? (s : String) : Option Identity :=
  let cs := s.toList
  if cs.length = 32 then ofPlain? cs else ofGrouped? (unwrap cs)

/-- Writes an identifier. -/
def text (i : Identity) : String :=
  String.ofList (group (i.digits.map digitChar))

theorem digit?_digitChar (d : Fin 16) : digit? (digitChar d) = some d := by
  revert d; decide

theorem digits?_digitChar (ds : List (Fin 16)) : digits? (ds.map digitChar) = some ds := by
  induction ds with
  | nil => rfl
  | cons d rest ih => simp [digits?, digit?_digitChar, ih]

theorem ofPlain?_digits (i : Identity) : ofPlain? (i.digits.map digitChar) = some i := by
  simp [ofPlain?, digits?_digitChar, ofDigits?, i.size]

theorem length_group {cs : List Char} (h : cs.length = 32) : (group cs).length = 36 := by
  simp [group, h]

theorem ungroup?_group {cs : List Char} (h : cs.length = 32) : ungroup? (group cs) = some cs := by
  have step (n : Nat) : (cs.drop n).take 4 ++ cs.drop (n + 4) = cs.drop n := by
    rw [← List.drop_drop, List.take_append_drop]
  have hplain : (group cs).take 8 ++ ((group cs).drop 9).take 4 ++ ((group cs).drop 14).take 4 ++
      ((group cs).drop 19).take 4 ++ (group cs).drop 24 = cs := by
    simp [group, List.drop_append, List.drop_take, h, step 16, step 12, step 8]
  simp only [ungroup?, hplain, if_true]

/-- Digits in groups have neither braces around them nor the beginning of names. -/
theorem unwrap_group (i : Identity) :
    unwrap (group (i.digits.map digitChar)) = group (i.digits.map digitChar) := by
  have hopen : (group (i.digits.map digitChar)).head? ≠ some '\x7b' := by
    cases h : i.digits with
    | nil => have := i.size; simp [h] at this
    | cons d rest =>
      have : ∀ d, digitChar d ≠ '\x7b' := by decide
      simp [group, this d]
  have hname : ((group (i.digits.map digitChar)).take 9).map Char.toLower ≠
      "urn:uuid:".toList := by
    intro h
    have := congrArg (·[8]?) h
    simp [group, i.size] at this
  rw [unwrap, if_neg fun h => hopen h.1, if_neg hname]

theorem read?_text (i : Identity) : read? i.text = some i := by
  have h : (i.digits.map digitChar).length = 32 := by simp [i.size]
  simp [read?, text, length_group h, unwrap_group, ofGrouped?, ungroup?_group h, ofPlain?_digits]

/-- Reads an identifier out of a document. -/
def decoder : Decoder Identity := fun _ doc =>
  match doc with
  | .text (some s) =>
    match read? s with
    | some i => .ok i
    | none => .error (.here .malformedText)
  | d => .error (d.wrongType "a formatted UUID string")

end Identity

end PaymentRelay

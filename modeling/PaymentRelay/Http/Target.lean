import PaymentRelay.Text.Symbol

/-
  Targets of requests.

  A target is a path with a query, either alone or behind a scheme and an authority, or it is an
  authority alone, which has no path, or an asterisk. Path and query are kept encoded; what follows
  a number sign is not part of them.
-/

namespace PaymentRelay.Http

/-- What a request asks for. -/
structure Target where
  /-- The path as it stands in the request line. -/
  path : String
  /-- What stands after the question mark, nothing if there is none. -/
  query : String
  deriving DecidableEq, Repr

namespace Target

/-- A character of a scheme. -/
def isSchemeChar (c : Char) : Bool :=
  c.isAlphanum || "+-.~".toList.contains c

/-- A character of a path. -/
def isPathChar (c : Char) : Bool :=
  ' ' < c && !"<>`".toList.contains c

/-- A character of a query. -/
def isQueryChar (c : Char) : Bool :=
  ' ' < c && !"\"<>".toList.contains c

/-! Authorities. -/

/-- What is read of an authority. -/
structure Authority where
  /-- The colons after the last user name and the last address in brackets. -/
  colons : Nat
  /-- There is a percent sign after these. -/
  percent : Bool
  opened : Bool
  closed : Bool
  deriving DecidableEq, Repr

/-- The authority with one more character. -/
def Authority.next? (a : Authority) (c : Char) : Option Authority :=
  match c with
  | ':' => if a.colons < 8 then some { a with colons := a.colons + 1 } else none
  | '[' => if a.percent || a.opened then none else some { a with opened := true }
  | ']' =>
    if a.opened && !a.closed then some ⟨0, false, true, true⟩ else none
  | '@' => some { a with colons := 0, percent := false }
  | '%' => some { a with percent := true }
  | c => if c.isAlphanum || "!$&'()*+,-.;=_~".toList.contains c then some a else none

/-- The text is an authority: a user name may come before a host, and a port after it. -/
def isAuthority (cs : List Char) : Bool :=
  match cs.foldlM Authority.next? ⟨0, false, false, false⟩ with
  | some a =>
    a.colons ≤ 1 && !a.percent && a.opened == a.closed && !cs.isEmpty && cs.getLast? != some '@'
  | none => false

/-! The whole. -/

/-- The most bytes of a target. -/
def sizeLimit : Nat := 65534

/-- The most characters of a scheme. -/
def schemeLimit : Nat := 64

/-- The text after a scheme with its colon and slashes. -/
def afterScheme? (cs : List Char) : Option (List Char) :=
  let scheme := cs.takeWhile isSchemeChar
  match cs.drop scheme.length with
  | ':' :: '/' :: '/' :: rest => if scheme.length ≤ schemeLimit then some rest else none
  | _ => none

/-- Reads a path and a query; behind an authority there may be no path, which is the same as a
slash. -/
def ofPath? (cs : List Char) : Option Target :=
  let cs := cs.takeWhile (· ≠ '#')
  let path := cs.takeWhile (· ≠ '?')
  let query := cs.drop (path.length + 1)
  if path.all isPathChar && query.all isQueryChar then
    some ⟨if path.isEmpty then "/" else String.ofList path, String.ofList query⟩
  else none

/-- Reads what stands behind a scheme. -/
def ofAuthority? (cs : List Char) : Option Target :=
  let authority := cs.takeWhile fun c => c ≠ '/' ∧ c ≠ '?' ∧ c ≠ '#'
  if isAuthority authority then ofPath? (cs.drop authority.length) else none

/-- Reads a target. -/
def read? (s : String) : Option Target :=
  let cs := s.toList
  if sizeLimit < Utf8.size cs then none
  else
    match cs with
    | '/' :: _ => ofPath? cs
    | ['*'] => some ⟨"*", ""⟩
    | _ =>
      match afterScheme? cs with
      | some rest => ofAuthority? rest
      | none => if isAuthority cs then some ⟨"", ""⟩ else none

end Target

end PaymentRelay.Http

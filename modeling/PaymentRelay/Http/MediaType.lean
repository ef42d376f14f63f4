import PaymentRelay.Http.Token

/-
  Media types, as they stand in the header `content-type`.

  A media type is a type, a subtype that may end in a suffix, and parameters. Of the parameters
  only the form matters: a value is a token or a quoted text.
-/

namespace PaymentRelay.Http

/-- A media type without its parameters, in small letters. -/
structure MediaType where
  type : List Char
  /-- The subtype up to its suffix. -/
  subtype : List Char
  suffix : Option (List Char)
  deriving DecidableEq, Repr

namespace MediaType

/-- A character of a quoted text. -/
def isQuotable (c : Char) : Bool := ' ' ≤ c && c ≤ '~'

/-- Where a reader stands among the parameters. -/
inductive Place where
  /-- Before a parameter, if one follows. -/
  | start
  | name
  /-- In a value that is a token, `some` of which is read. -/
  | value (some : Bool)
  /-- In a value that is quoted, `some` of which is read. -/
  | quoted (some : Bool)
  | escaped
  /-- After a quoted value. -/
  | after
  deriving DecidableEq, Repr

namespace Place

/-- The reader after one more character. -/
def step : Place → Char → Option Place
  | start, c =>
    if c = ' ' then some start else if isTokenChar c then some name else none
  | name, c => if isTokenChar c then some name else if c = '=' then some (value false) else none
  | value any, c =>
    if c = '"' ∧ any = false then some (quoted false)
    else if isTokenChar c then some (value true)
    else if c = ';' ∧ any = true then some start
    else none
  | quoted any, c =>
    if c = '"' ∧ any = true then some after
    else if c = '\\' then some escaped
    else if isQuotable c then some (quoted true)
    else none
  | escaped, c => if isQuotable c then some (quoted true) else none
  | after, c => if c = ';' then some start else if c = ' ' then some after else none

/-- The parameters may end here. -/
def isEnd : Place → Bool
  | start | value _ | after => true
  | _ => false

/-- The rest of the parameters is well-formed. -/
def accepts : Place → List Char → Bool
  | p, [] => p.isEnd
  | p, c :: rest =>
    match p.step c with
    | some q => q.accepts rest
    | none => false

end Place

/-- A subtype and its suffix: what stands before the last plus sign and after it. -/
def splitSuffix (cs : List Char) : List Char × Option (List Char) :=
  let suffix := (cs.reverse.takeWhile (· ≠ '+')).reverse
  let head := cs.take (cs.length - suffix.length - 1)
  if head.isEmpty then (cs, none) else (head, some suffix)

/-- Reads a media type. -/
def read? (s : String) : Option MediaType :=
  let cs := s.toList
  let type := cs.takeWhile isTokenChar
  match cs.dropWhile isTokenChar with
  | '/' :: rest =>
    let full := rest.takeWhile isTokenChar
    let params := match rest.dropWhile isTokenChar with
      | [] => true
      | ';' :: params => Place.start.accepts params
      | _ => false
    if type.isEmpty ∨ full.isEmpty ∨ params = false then none
    else
      let (subtype, suffix) := splitSuffix (full.map Char.toLower)
      some ⟨type.map Char.toLower, subtype, suffix⟩
  | _ => none

/-- The type of JSON documents, or of documents that are written in JSON. -/
def isJson (m : MediaType) : Bool :=
  m.type = "application".toList &&
    (m.subtype = "json".toList || m.suffix = some "json".toList)

end MediaType

end PaymentRelay.Http

/-
  Tokens: the words of which methods, names of headers and media types are made.
-/

namespace PaymentRelay.Http

/-- A character of a token. -/
def isTokenChar (c : Char) : Bool :=
  ('a' ≤ c && c ≤ 'z') || ('A' ≤ c && c ≤ 'Z') || ('0' ≤ c && c ≤ '9') ||
    "!#$%&'*+-.^_`|~".toList.contains c

/-- A text that is a token: some characters, and none but those of tokens. -/
def isToken (s : String) : Bool :=
  !s.isEmpty && s.toList.all isTokenChar

end PaymentRelay.Http

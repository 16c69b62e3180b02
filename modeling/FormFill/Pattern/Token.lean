import FormFill.Text.Basic

/-!
# Pattern tokens

A pattern is read token by token: a backslash and the character after it form one token, any other
character stands alone. A backslash at the very end is a token of its own, which no reading accepts.
-/

namespace FormFill.Pattern

/-- A token of a pattern. -/
inductive Token where
  | plain (c : Char)
  | escaped (c : Char)
  | dangling
  deriving DecidableEq, Repr

namespace Token

/-- The tokens of a text. -/
def scan : Text → List Token
  | [] => []
  | ['\\'] => [dangling]
  | '\\' :: c :: rest => escaped c :: scan rest
  | c :: rest => plain c :: scan rest

/-- The characters of a token. -/
def chars : Token → Text
  | plain c => [c]
  | escaped c => ['\\', c]
  | dangling => ['\\']

end Token

end FormFill.Pattern

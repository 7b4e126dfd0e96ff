import Archimate.Literal.Parse

namespace Archimate

inductive WholeError where
  | malformed (text : Text)
  | tooManyDigits (count : Nat)
deriving DecidableEq

/-- The malformed text is quoted; the quotation is cut after 200 characters. -/
def WholeError.message : WholeError → Text
  | .malformed text => "invalid literal for int() with base 10: " ++ (Text.quoted text).take 200
  | .tooManyDigits count => (LiteralError.tooManyDigits count).message

namespace Whole

def isPadding (c : CodePoint) : Bool :=
  Text.isBlank c && !(0x1C ≤ c.code && c.code ≤ 0x1F)

def isNumeral (c : CodePoint) : Bool :=
  Text.isDigit c || c == '_'

def splitSign : Text → Bool × Text
  | .char '-' :: rest => (true, rest)
  | .char '+' :: rest => (false, rest)
  | rest => (false, rest)

/-- An underscore stands between two digits. -/
def wellSpaced (numeral : Text) : Bool :=
  (Text.splitOn (.char '_') numeral).all (!·.isEmpty)

def read (text : Text) : Except WholeError Int :=
  let (negative, unsigned) := splitSign (text.dropWhile isPadding)
  let numeral := unsigned.takeWhile isNumeral
  let rest := unsigned.dropWhile isNumeral
  let digits := numeral.filter (· != .char '_')
  if !wellSpaced numeral then .error (.malformed text)
  else if digitLimit < digits.length then .error (.tooManyDigits digits.length)
  else if !(rest.dropWhile isPadding).isEmpty then .error (.malformed text)
  else
    let value : Int := Text.digitsValue digits
    .ok (if negative then -value else value)

end Whole

end Archimate

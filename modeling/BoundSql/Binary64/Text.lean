import BoundSql.Binary64.Shortest

/-! The decimal text of finite binary64 numbers: positional with a point while the first digit
stands between the fifth place after the point and the sixteenth before it, and with a signed
exponent elsewhere. -/

namespace BoundSql.Binary64

/-- From one hundred-thousandth on, and below ten to the sixteenth, the text is positional. -/
def isPositional (point : Int) : Bool := -5 < point && point ≤ 16

def positional (digits : List Char) (point : Int) : List Char :=
  let count : Int := digits.length
  if point ≤ 0 then ['0', '.'] ++ List.replicate (-point).toNat '0' ++ digits
  else if count ≤ point then digits ++ List.replicate (point - count).toNat '0' ++ ['.', '0']
  else digits.take point.toNat ++ '.' :: digits.drop point.toNat

def scientific (digits : List Char) (point : Int) : List Char :=
  let exponent := point - 1
  let sign := if exponent < 0 then '-' else '+'
  let mantissa := match digits with
    | first :: second :: rest => first :: '.' :: second :: rest
    | short => short
  mantissa ++ 'e' :: sign :: Nat.toDigits 10 exponent.natAbs

def text (number : Binary64) : String :=
  let sign := if number.isNegative then ['-'] else []
  if number.isZero then String.ofList (sign ++ ['0', '.', '0'])
  else
    let decimal := number.shortest
    let body := if isPositional decimal.point then positional decimal.digits decimal.point
      else scientific decimal.digits decimal.point
    String.ofList (sign ++ body)

end BoundSql.Binary64

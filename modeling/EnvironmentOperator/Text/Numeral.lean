namespace EnvironmentOperator.Text

def isDigit (c : Char) : Bool := '0' ≤ c && c ≤ '9'

def digitValue (c : Char) : Nat := c.toNat - '0'.toNat

def digitsValue (cs : List Char) : Nat := cs.foldl (fun n c => 10 * n + digitValue c) 0

def hexValue? (c : Char) : Option Nat :=
  if isDigit c then some (digitValue c)
  else if 'a' ≤ c ∧ c ≤ 'f' then some (c.toNat - 87)
  else if 'A' ≤ c ∧ c ≤ 'F' then some (c.toNat - 55)
  else none

def decimal (n : Nat) : String := toString n

def decimalInt (n : Int) : String := toString n

def padded (width n : Nat) : String :=
  let digits := (decimal n).toList
  String.ofList (List.replicate (width - digits.length) '0' ++ digits)

def unsigned? (greatest : Nat) (cs : List Char) : Option Nat :=
  let digits := match cs with
    | '+' :: rest => rest
    | _ => cs
  if digits ≠ [] ∧ digits.all isDigit = true ∧ digitsValue digits ≤ greatest then
    some (digitsValue digits)
  else none

def withoutSign : List Char → List Char
  | '+' :: rest => rest
  | '-' :: rest => rest
  | cs => cs

def isExponent : List Char → Bool
  | [] => true
  | c :: rest =>
      let digits := withoutSign rest
      (c = 'e' || c = 'E') && !digits.isEmpty && digits.all isDigit

/-- Digits with an optional point and exponent, or the name of a number that has no digits, after an optional
sign. -/
def isNumeral (cs : List Char) : Bool :=
  let cs := withoutSign cs
  let whole := cs.takeWhile isDigit
  let (fraction, rest) := match cs.dropWhile isDigit with
    | '.' :: rest => (rest.takeWhile isDigit, rest.dropWhile isDigit)
    | rest => ([], rest)
  ["inf", "infinity", "nan"].contains (String.ofList (cs.map Char.toLower)) ||
    (!(whole ++ fraction).isEmpty && isExponent rest)

theorem unsigned?_le {greatest n : Nat} {cs : List Char} (h : unsigned? greatest cs = some n) :
    n ≤ greatest := by
  unfold unsigned? at h
  grind

end EnvironmentOperator.Text

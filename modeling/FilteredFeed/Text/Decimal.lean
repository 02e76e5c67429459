namespace FilteredFeed.Text.Decimal

def ofNat (n : Nat) : List Char := Nat.toDigits 10 n

def ofInt (n : Int) : List Char :=
  if n < 0 then '-' :: ofNat n.natAbs else ofNat n.natAbs

def toNat (digits : List Char) : Nat := Nat.ofDigitChars 10 digits 0

-- Digits with an optional sign, of either kind.
def toInt? : List Char → Option Int
  | '-' :: digits =>
      if digits ≠ [] ∧ digits.all Char.isDigit then some (-(toNat digits : Int)) else none
  | '+' :: digits =>
      if digits ≠ [] ∧ digits.all Char.isDigit then some (toNat digits) else none
  | digits =>
      if digits ≠ [] ∧ digits.all Char.isDigit then some (toNat digits) else none

def fitsInt64 (n : Int) : Bool := decide (Int64.minValue.toInt ≤ n ∧ n ≤ Int64.maxValue.toInt)

-- Fails on numbers outside the signed 64-bit range.
def toInt64? (text : List Char) : Option Int64 :=
  match toInt? text with
  | some n => if fitsInt64 n then some (Int64.ofInt n) else none
  | none => none

def ofInt64 (n : Int64) : List Char := ofInt n.toInt

end FilteredFeed.Text.Decimal

import TraitDoc.Text.Blank
import TraitDoc.Text.Digit
import TraitDoc.Text.Split
import TraitDoc.Yaml.Character
import TraitDoc.Yaml.Double
/-!
# Numbers in YAML

Which scalars are numbers, and which of the numbers are zero. Of a number that a
document holds, only that is ever asked.

Two questions are asked of a spelling, and they have different answers. A plain
scalar *looks like* a number if it has one of a few forms, in which low lines
may separate digits and colons may separate the places of a number to the base
sixty. A scalar that is *read as* a number, because it looks like one or is
marked as one, must denote a number, where more spellings are good, with digits
of any script, and a few of the forms are not: `0x_` looks like a number and
denotes none.

An integer is taken exactly. Any other number is one of double precision, which
is zero also where the spelling is of a number too small to tell apart from it.
Places to the base sixty may have signs of their own, so a sum of places can be
zero though none of them is.

## Main definitions

* `Number.looksInteger`, `Number.looksFloat` — the forms of plain scalars.
* `Number.isZeroInteger?`, `Number.isZeroFloat?` — whether the number is zero.
-/

namespace TraitDoc.Yaml.Number

/-! ## Forms of plain scalars -/

/-- Whether all characters are digits or low lines, in either case at least one of them a digit at the front. -/
def isGrouped (isDigit : Char → Bool) (s : Text) : Bool :=
  s.head?.any isDigit && s.all fun c => isDigit c || c == '_'

/-- The text without the sign it may begin with. -/
def unsigned (s : Text) : Text :=
  match s with
  | '+' :: rest => rest
  | '-' :: rest => rest
  | s => s

/-- The digits of a base, at most sixteen. -/
def isDigitOf (base : Nat) (c : Char) : Bool := (hexDigit? c).any (· < base)

/-- Whether the text is a place of a number to the base sixty: one digit, or two below sixty. -/
def isSixtieth (s : Text) : Bool :=
  match s with
  | [c] => c.isDigit
  | [b, c] => b.isDigit && b ≤ '5' && c.isDigit
  | _ => false

/-- Whether the text has places to the base sixty behind a first one that satisfies `first`. -/
def isSexagesimal (first : Text → Bool) (s : Text) : Bool :=
  match Text.splitAt ':' s with
  | head :: place :: places => first head && (place :: places).all isSixtieth
  | _ => false

/-- Whether a plain scalar looks like an integer. -/
def looksInteger (s : Text) : Bool :=
  match unsigned s with
  | '0' :: 'b' :: rest => !rest.isEmpty && rest.all fun c => isDigitOf 2 c || c == '_'
  | '0' :: 'x' :: rest => !rest.isEmpty && rest.all fun c => isDigitOf 16 c || c == '_'
  | ['0'] => true
  | '0' :: rest => rest.all fun c => isDigitOf 8 c || c == '_'
  | s =>
    let plain := fun (t : Text) => isGrouped Char.isDigit t && t.head? != some '0'
    plain s || isSexagesimal plain s

/-- Whether the text is an exponent with its letter and its sign, or nothing. -/
def isExponent (s : Text) : Bool :=
  match s with
  | [] => true
  | e :: sign :: digits =>
    (e == 'e' || e == 'E') && (sign == '-' || sign == '+') && !digits.isEmpty &&
      digits.all Char.isDigit
  | _ => false

/-- Whether a plain scalar looks like a number that is no integer. -/
def looksFloat (s : Text) : Bool :=
  let word := unsigned s
  let whole := word.takeWhile (· != '.')
  match word.drop whole.length with
  | [] => false
  | _ :: tail =>
    let exponent := tail.dropWhile fun c => c.isDigit || c == '_'
    let grouped := isGrouped Char.isDigit
    if ["inf".toList, "Inf".toList, "INF".toList].contains tail then whole.isEmpty
    else if ["nan".toList, "NaN".toList, "NAN".toList].contains tail then s == '.' :: tail
    else if whole.isEmpty then s == word && tail.head?.any Char.isDigit && isExponent exponent
    else (grouped whole && isExponent exponent) ||
      (isSexagesimal grouped whole && exponent.isEmpty)

/-! ## What numbers denote -/

/-- Why a scalar that should be a number is none. -/
inductive Fault
  /-- It has no digits at all. -/
  | empty
  /-- It denotes no number. -/
  | impossible
  /-- It has a place that is worth more than any double-precision number. -/
  | outOfRange

/-- Whether a number may have the character at its ends: the blanks but the separators `U+001C` to `U+001F`. -/
def isMargin (c : Char) : Bool := isBlank c && !('\x1C' ≤ c && c ≤ '\x1F')

/-- The text without what a number may have at its ends, in the digits `0` to `9`. -/
def trimmed (s : Text) : Text :=
  Text.withPlainDigits ((s.dropWhile isMargin).reverse.dropWhile isMargin).reverse

/-- Whether the text begins with a minus sign. -/
def isNegative (s : Text) : Bool := s.head? == some '-'

/-- The letter that may stand behind a zero before the digits of a base. -/
def baseLetter (base : Nat) : Option Char :=
  if base == 2 then some 'b' else if base == 8 then some 'o' else if base == 16 then some 'x'
  else none

/-- The most decimal digits that are read as an integer. -/
def digitLimit : Nat := 4300

/-- The number that digits of a base denote. -/
def ofDigits (base : Nat) (digits : Text) : Nat :=
  digits.foldl (fun n c => base * n + (hexDigit? c).getD 0) 0

/-- The integer spelled to a base. -/
def integer? (base : Nat) (s : Text) : Option Int :=
  let word := trimmed s
  let digits := unsigned word
  let digits :=
    match digits with
    | '0' :: letter :: rest =>
      if some letter.toLower == baseLetter base then rest else digits
    | _ => digits
  if digits.isEmpty || !digits.all (isDigitOf base) then none
  else if base == 10 && digitLimit < digits.length then none
  else
    let n : Int := ofDigits base digits
    some (if isNegative word then -n else n)

/-- The integer with these places to the base sixty. -/
def ofSixtieths (places : List Int) : Int := places.foldl (fun n place => 60 * n + place) 0

/-- Whether the integer that a scalar denotes is zero. -/
def isZeroInteger? (scalar : Text) : Except Fault Bool := do
  let s := unsigned (scalar.filter (· != '_'))
  if s.isEmpty then throw .empty
  let number? :=
    match s with
    | ['0'] => some 0
    | '0' :: 'b' :: digits => integer? 2 digits
    | '0' :: 'x' :: digits => integer? 16 digits
    | '0' :: _ => integer? 8 s
    | s =>
      if s.contains ':' then ((Text.splitAt ':' s).mapM (integer? 10)).map ofSixtieths
      else integer? 10 s
  match number? with
  | some n => return n == 0
  | none => throw .impossible

/-- The words for what is no finite number. -/
def wordsBeyond : List Text := ["inf".toList, "infinity".toList, "nan".toList]

/-- The number that a spelling with a point or an exponent or neither denotes. -/
def double? (s : Text) : Option Double := do
  let signed := trimmed s
  let word := unsigned signed
  if wordsBeyond.contains (word.map Char.toLower) then return .beyond
  let whole := word.takeWhile Char.isDigit
  let rest := word.drop whole.length
  let fraction := if rest.head? == some '.' then rest.tail.takeWhile Char.isDigit else []
  let rest := if rest.head? == some '.' then rest.tail.drop fraction.length else rest
  let digits := whole ++ fraction
  guard (!digits.isEmpty)
  let value (power : Int) : Double :=
    .ofDecimal (isNegative signed) (ofDigits 10 digits) digits.length (power - fraction.length)
  match rest with
  | [] => return value 0
  | e :: exponent =>
    let power := unsigned exponent
    guard ((e == 'e' || e == 'E') && !power.isEmpty && power.all Char.isDigit)
    return value (if isNegative exponent then -ofDigits 10 power else ofDigits 10 power)

/-- The sum of the places to the base sixty, the last one first, the first of them worth that much. -/
def sumOfSixtieths? (sum : Double) (worth : Nat) : List Double → Option Double
  | [] => some sum
  | place :: places =>
    match Double.ofNat worth with
    | .beyond => none
    | factor => sumOfSixtieths? (sum.plus (place.times factor)) (60 * worth) places

/-- Whether the number that a scalar denotes is zero. -/
def isZeroFloat? (scalar : Text) : Except Fault Bool := do
  let s := (scalar.filter (· != '_')).map Char.toLower
  if s.isEmpty then throw .empty
  let s := unsigned s
  if s == ".inf".toList || s == ".nan".toList then return false
  match (if s.contains ':' then Text.splitAt ':' s else [s]).mapM double? with
  | none => throw .impossible
  | some places =>
    match sumOfSixtieths? (.finite 0) 1 places.reverse with
    | none => throw .outOfRange
    | some sum => return sum.isZero

end TraitDoc.Yaml.Number

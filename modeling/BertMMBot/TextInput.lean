import BertMMBot.Binary64

/-! # Text typed into a chat

The string operations the handlers apply to a message: trimming, the second word, the
command name, and `Number(text)`. A result that is not a finite number is `none`. -/
namespace TextInput

/-- What `\s` matches and `trim` removes. -/
def isSpace (c : Char) : Bool :=
  c.toNat ∈ [0x9, 0xA, 0xB, 0xC, 0xD, 0x20, 0xA0, 0x1680, 0x2028, 0x2029, 0x202F, 0x205F,
    0x3000, 0xFEFF] ∨ (0x2000 ≤ c.toNat ∧ c.toNat ≤ 0x200A)

def trimChars (cs : List Char) : List Char :=
  ((cs.dropWhile isSpace).reverse.dropWhile isSpace).reverse

def trim (text : String) : String := String.ofList (trimChars text.toList)

/-- `text.trim().split(/\s+/)[1]`, where an absent and an empty part are the same. -/
def argument (text : String) : Option String :=
  let tail := ((trimChars text.toList).dropWhile fun c => !isSpace c).dropWhile isSpace
  match tail.takeWhile fun c => !isSpace c with
  | [] => none
  | word => some (String.ofList word)

def isDigit (c : Char) : Bool := '0' ≤ c ∧ c ≤ '9'

def digitValue (c : Char) : ℕ :=
  if isDigit c then c.toNat - '0'.toNat
  else if 'a' ≤ c ∧ c ≤ 'z' then c.toNat - 'a'.toNat + 10
  else if 'A' ≤ c ∧ c ≤ 'Z' then c.toNat - 'A'.toNat + 10
  else 36

def natOfDigits (base : ℕ) (ds : List Char) : ℕ :=
  ds.foldl (fun n c => n * base + digitValue c) 0

def radixLiteral (base : ℕ) (ds : List Char) : Option ℚ :=
  if ds ≠ [] ∧ ds.all fun c => digitValue c < base then some (natOfDigits base ds) else none

def scale (mantissa : ℕ) (exponent : ℤ) : ℚ :=
  if 0 ≤ exponent then mantissa * 10 ^ exponent.toNat else mantissa / 10 ^ (-exponent).toNat

def decimalDigits (ds : List Char) : Option ℤ :=
  if ds ≠ [] ∧ ds.all isDigit then some (natOfDigits 10 ds) else none

/-- The exponent part; an absent one is 0. -/
def exponentPart : List Char → Option ℤ
  | [] => some 0
  | c :: cs =>
    if c = 'e' ∨ c = 'E' then
      match cs with
      | '+' :: ds => decimalDigits ds
      | '-' :: ds => (decimalDigits ds).map fun e => -e
      | ds => decimalDigits ds
    else none

def decimalLiteral (cs : List Char) : Option ℚ :=
  let whole := cs.takeWhile isDigit
  let afterWhole := cs.dropWhile isDigit
  let fraction := match afterWhole with
    | '.' :: ds => ds.takeWhile isDigit
    | _ => []
  let rest := match afterWhole with
    | '.' :: ds => ds.dropWhile isDigit
    | ds => ds
  if whole ++ fraction = [] then none
  else (exponentPart rest).map fun e =>
    scale (natOfDigits 10 (whole ++ fraction)) (e - fraction.length)

def numberOfChars : List Char → Option ℚ
  | [] => some 0
  | '0' :: 'x' :: ds => radixLiteral 16 ds
  | '0' :: 'X' :: ds => radixLiteral 16 ds
  | '0' :: 'o' :: ds => radixLiteral 8 ds
  | '0' :: 'O' :: ds => radixLiteral 8 ds
  | '0' :: 'b' :: ds => radixLiteral 2 ds
  | '0' :: 'B' :: ds => radixLiteral 2 ds
  | '+' :: ds => decimalLiteral ds
  | '-' :: ds => (decimalLiteral ds).map fun q => -q
  | ds => decimalLiteral ds

/-- `Number(text)` when that is finite: the double next to what is written. -/
def number (text : String) : Option ℚ :=
  (numberOfChars (trimChars text.toList)).bind Binary64.ofRat

/-- `/^\d{6}$/` -/
def isSixDigits (code : String) : Bool := code.toList.length = 6 ∧ code.toList.all isDigit

def isCommandChar (c : Char) : Bool := ('a' ≤ c.toLower ∧ c.toLower ≤ 'z') ∨ c = '_'

/-- `/^\/([a-z_]+)(?:\s|$)/i`, in lower case. -/
def commandName (text : String) : Option String :=
  match text.toList with
  | '/' :: cs =>
    let name := cs.takeWhile isCommandChar
    let rest := cs.dropWhile isCommandChar
    if name ≠ [] ∧ (rest.head?.map isSpace).getD true then
      some (String.ofList (name.map Char.toLower))
    else none
  | _ => none

/-- The digits of `/^\/resettotp\s+(-?\d+)/`. -/
def resetTotpTarget (text : String) : Option ℤ :=
  let prefixChars := "/resettotp".toList
  let cs := text.toList.drop prefixChars.length
  if text.toList.take prefixChars.length = prefixChars ∧ (cs.head?.map isSpace).getD false then
    match cs.dropWhile isSpace with
    | '-' :: ds => (decimalDigits (ds.takeWhile isDigit)).map fun n => -n
    | ds => decimalDigits (ds.takeWhile isDigit)
  else none

example : number " 12.5e1 " = some 125 ∧ number "0x10" = some 16 ∧ number "1,5" = none ∧
    number "1e400" = none ∧ number "1e-400" = some 0 := by
  decide +kernel

end TextInput

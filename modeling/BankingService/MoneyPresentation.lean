import BankingService.Library.Binary64
import BankingService.Library.Dict
import BankingService.Library.Numerals
import BankingService.Money
import BankingService.MoneyLocale

/-! The amounts that are shown for money, by the bank and by its UI, and the amounts that the UI
reads and adds up. The UI keeps an amount as a number, and computes with big integers. -/
namespace BankingService

open Python Numerals

/-- `CURRENCY_EXPONENTS`. -/
def CurrencyCode.exponent : CurrencyCode → ℕ
  | usd => 2
  | mxn => 2
  | jpy => 0
  | bhd => 3

structure MoneyPresentation where
  money : Money
  locale : String
  displayText : String

def projectMoney (money : Money) (locale : String) : Except PyException MoneyPresentation :=
  if locale ∉ MoneyLocale.SUPPORTED_SUPPORT_LOCALES then
    .error (.valueError "Unsupported voice presentation locale")
  else
    let exponent := money.currencyCode.exponent
    let whole := money.amountMinor.natAbs / 10 ^ exponent
    let fraction := money.amountMinor.natAbs % 10 ^ exponent
    let digits :=
      if exponent ≠ 0 then grouped whole ++ '.' :: padded exponent fraction else grouped whole
    let digits := if money.amountMinor < 0 then '-' :: digits else digits
    .ok ⟨money, locale, money.currencyCode.text ++ " " ++ String.ofList digits⟩

namespace MoneyUtils

/-- A value where a number should be; `other` is no finite number. -/
inductive Number where
  | finite (x : ℚ)
  | other
  deriving DecidableEq

/-- `Number.isSafeInteger(value)`, with the integer. -/
def Number.safeInteger? : Number → Option ℤ
  | finite x => if x.den = 1 ∧ InRange x.num then some x.num else none
  | other => none

/-- `Number(n)` of a big integer. -/
def Number.ofBigInt (n : ℤ) : Number :=
  if 2 ^ 1024 ≤ |Binary64.round n| then other else finite (Binary64.round n)

structure JsMoney where
  amountMinor : Number
  currencyCode : String
  deriving DecidableEq

def currencyExponents : Relational.Dict String ℕ := [("USD", 2), ("MXN", 2), ("JPY", 0), ("BHD", 3)]

/-- The currency, the amount and the exponent of valid money; none is `null`. -/
def validateMoney (money : Option JsMoney) : Except String (String × ℤ × ℕ) :=
  match money with
  | none => .error "Invalid Money amount or currency."
  | some money =>
    match money.amountMinor.safeInteger?, currencyExponents.get? money.currencyCode with
    | some amount, some exponent => .ok (money.currencyCode, amount, exponent)
    | _, _ => .error "Invalid Money amount or currency."

/-- What `trim` takes away. -/
def isTrimmed (c : Char) : Bool :=
  let n := c.toNat
  (9 ≤ n && n ≤ 13) || n == 32 || n == 0xa0 || n == 0x1680 || (0x2000 ≤ n && n ≤ 0x200a) ||
    n == 0x2028 || n == 0x2029 || n == 0x202f || n == 0x205f || n == 0x3000 || n == 0xfeff

def trim (input : String) : List Char := stripChars isTrimmed input.toList

/-- `[0-9]+`, then the end or a point and `[0-9]+`; the digits before and after the point. -/
def matchDigits (l : List Char) : Option (List Char × List Char) :=
  if l.takeWhile Char.isDigit = [] then none
  else match l.dropWhile Char.isDigit with
    | [] => some (l.takeWhile Char.isDigit, [])
    | c :: fraction =>
      if c = '.' ∧ fraction ≠ [] ∧ fraction.all Char.isDigit then
        some (l.takeWhile Char.isDigit, fraction)
      else none

/-- `/^([+-]?)([0-9]+)(?:\.([0-9]+))?$/`; whether the sign is a minus, and the digits. -/
def matchAmount (l : List Char) : Option (Bool × List Char × List Char) :=
  match l with
  | '-' :: l => (matchDigits l).map fun digits => (true, digits)
  | '+' :: l => (matchDigits l).map fun digits => (false, digits)
  | l => (matchDigits l).map fun digits => (false, digits)

def parseMoneyInput (input currencyCode : String) : Except String JsMoney :=
  match currencyExponents.get? currencyCode with
  | none => .error "Unsupported currency."
  | some exponent =>
    let badAmount := "Enter an ungrouped amount with at most " ++ toString exponent ++
      " decimal places, using a decimal point."
    match matchAmount (trim input) with
    | none => .error badAmount
    | some (negative, whole, fraction) =>
      if exponent < fraction.length then .error badAmount
      else
        let minor : ℤ := Nat.ofDigitChars 10 whole 0 * 10 ^ exponent +
          Nat.ofDigitChars 10 (fraction.rightpad exponent '0') 0
        let signed := if negative then -minor else minor
        if MAX_MINOR < signed ∨ signed < -MAX_MINOR then
          .error "Amount exceeds the supported range."
        else .ok ⟨.ofBigInt signed, currencyCode⟩

/-- The exact decimal that is handed to the number format. -/
def decimalText (amount : ℤ) (exponent : ℕ) : String :=
  let digits := padded (exponent + 1) amount.natAbs
  let decimal := if exponent ≠ 0 then
    digits.take (digits.length - exponent) ++ '.' ::
      digits.drop (digits.length - exponent) else digits
  String.ofList (if amount < 0 then '-' :: decimal else decimal)

abbrev NumberFormat := String → String → ℕ → ℕ → String → String

def formatMoney (numberFormat : NumberFormat) (money : Option JsMoney) (locale : String) :
    Except String String :=
  match money with
  | none => .ok "—"
  | some money => do
    let (currencyCode, amount, exponent) ← validateMoney (some money)
    return numberFormat locale currencyCode exponent exponent (decimalText amount exponent)

def addValue (totals : Relational.Dict String ℤ) (value : Option JsMoney) :
    Except String (Relational.Dict String ℤ) := do
  let (currencyCode, amount, _) ← validateMoney value
  return totals.set currencyCode ((totals.get? currencyCode).getD 0 + amount)

def validTotal (total : String × ℤ) : Except String JsMoney := do
  let money : JsMoney := ⟨.ofBigInt total.2, total.1⟩
  let _ ← validateMoney (some money)
  return money

def sumMoneyByCurrency (values : List (Option JsMoney)) : Except String (List JsMoney) := do
  let totals ← values.foldlM addValue []
  totals.mapM validTotal

end MoneyUtils

end BankingService

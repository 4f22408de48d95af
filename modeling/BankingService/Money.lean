import BankingService.Python
import Mathlib.Algebra.Group.Int.Defs

/-! Canonical integer money. -/
namespace BankingService

open Python

inductive CurrencyCode where
  | usd
  | mxn
  | jpy
  | bhd
  deriving DecidableEq, Repr

namespace CurrencyCode

def text : CurrencyCode → String
  | usd => "USD"
  | mxn => "MXN"
  | jpy => "JPY"
  | bhd => "BHD"

def ofText? (s : String) : Option CurrencyCode :=
  if s = "USD" then some usd else if s = "MXN" then some mxn
  else if s = "JPY" then some jpy else if s = "BHD" then some bhd else none

theorem ofText_text (c : CurrencyCode) : ofText? c.text = some c := by
  cases c <;> decide

theorem text_injective : Function.Injective text := by
  intro c d h
  have := ofText_text c
  rw [h, ofText_text d] at this
  exact (Option.some.inj this).symm

end CurrencyCode

/-- The common range of a database BIGINT and a JavaScript number. -/
def MAX_MINOR : ℤ := 2 ^ 53 - 1

def InRange (amount : ℤ) : Prop := -MAX_MINOR ≤ amount ∧ amount ≤ MAX_MINOR

instance (amount : ℤ) : Decidable (InRange amount) := inferInstanceAs (Decidable (_ ∧ _))

structure Money where
  amountMinor : ℤ
  currencyCode : CurrencyCode
  in_range : InRange amountMinor
  deriving DecidableEq

namespace Money

/-- `Money(amount_minor=…, currency_code=…)`, with the model's validation. -/
def new (amountMinor : ℤ) (currencyCode : CurrencyCode) : Except PyException Money :=
  if h : InRange amountMinor then .ok ⟨amountMinor, currencyCode, h⟩ else .error .validationError

/-- The same for a currency read from a column without a currency constraint. -/
def ofText (amountMinor : ℤ) (currency : String) : Except PyException Money :=
  match CurrencyCode.ofText? currency with
  | some c => new amountMinor c
  | none => .error .validationError

@[simp] theorem new_eq_ok {a : ℤ} {c : CurrencyCode} {m : Money} :
    new a c = .ok m ↔ m.amountMinor = a ∧ m.currencyCode = c := by
  unfold new
  split
  · next h =>
    cases m
    simp [eq_comm]
  · next h =>
    simp only [reduceCtorEq, false_iff, not_and]
    rintro rfl
    exact absurd m.in_range h

@[simp] theorem ofText_eq_ok {a : ℤ} {s : String} {m : Money} :
    ofText a s = .ok m ↔ m.amountMinor = a ∧ CurrencyCode.ofText? s = some m.currencyCode := by
  unfold ofText
  cases hc : CurrencyCode.ofText? s with
  | none => simp
  | some c =>
    simp only [new_eq_ok, Option.some.injEq]
    exact and_congr_right fun _ => eq_comm

end Money

end BankingService

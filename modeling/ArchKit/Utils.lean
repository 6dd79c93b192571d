import ArchKit.Error
import ArchKit.Radix.Decimal
import ArchKit.Text

namespace ArchKit.Utils
open Radix Text

def formatAmount (amount : UInt64) (decimals : UInt8) : String :=
  if amount = 0 ∨ decimals = 0 then toString amount.toNat
  else
    let digits := (toString amount.toNat).toList
    let decimals := decimals.toNat
    let formatted :=
      if digits.length ≤ decimals then
        '0' :: '.' :: (List.replicate (decimals - digits.length) '0' ++ digits)
      else
        let split := digits.length - decimals
        digits.take split ++ '.' :: digits.drop split
    let formatted := formatted.rdropWhile (· = '0')
    String.ofList (if formatted.getLast? = some '.' then formatted.dropLast else formatted)

def invalidAmount (value : List Char) (detail : String) : CliError :=
  .invalidArgument ("amount '" ++ String.ofList value ++ "' " ++ detail)

/-- `str::parse::<u64>`, which allows a leading plus sign. -/
def parseU64 (text : List Char) : Option UInt64 :=
  let digits := if text.head? = some '+' then text.tail else text
  if digits.isEmpty || !digits.all Char.isDigit then none
  else if natOf digits < 2 ^ 64 then some (UInt64.ofNat (natOf digits))
  else none

/-- The part of `parse_amount` after the split at the point. -/
def scaleAmount (value whole fraction : List Char) (decimals : Nat) : Except CliError UInt64 :=
  if whole.isEmpty || !whole.all Char.isDigit || !fraction.all Char.isDigit then
    .error (invalidAmount value "must be a non-negative decimal number without exponent notation")
  else if decimals < fraction.length then
    .error (invalidAmount value s!"has more than {decimals} fractional digits")
  else
    let raw := (whole ++ fraction ++ List.replicate (decimals - fraction.length) '0').dropWhile (· = '0')
    match if raw.isEmpty then some 0 else parseU64 raw with
    | none => .error (invalidAmount value "does not fit in a u64 token amount")
    | some amount =>
      if amount = 0 then .error (invalidAmount value "must be greater than zero")
      else .ok amount

def parseAmount (value : String) (decimals : UInt8) : Except CliError UInt64 :=
  let value := trim value.toList
  match splitOnce '.' value with
  | some (whole, fraction) =>
    if fraction.contains '.' then .error (invalidAmount value "must contain at most one decimal point")
    else scaleAmount value whole fraction decimals.toNat
  | none => scaleAmount value value [] decimals.toNat

end ArchKit.Utils

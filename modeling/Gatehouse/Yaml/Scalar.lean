import Gatehouse.Decimal.Notation
import Gatehouse.Yaml.Value

/-!
# Plain scalars

What a scalar without quotes stands for: null, a boolean, an integer with an
optional sign and radix mark, a finite decimal number, one of the words for
the infinities and the not-a-number, or else its own text.  Integers past
the 64-bit limits but within the 128-bit limits have no value of their own;
wider ones are read as floating-point numbers.
-/

namespace Gatehouse.Yaml.Scalar

open Gatehouse.Decimal

/-- The radix that follows a zero. -/
def radixMark? : Char → Option Nat
  | 'x' => some 16
  | 'o' => some 8
  | 'b' => some 2
  | _ => none

/-- Digits with or without a radix mark in front. -/
def unsigned? (digits : List Char) : Option Nat :=
  match digits with
  | '0' :: mark :: rest =>
    match radixMark? mark with
    | some radix => natural? radix rest
    | none => natural? 10 digits
  | _ => natural? 10 digits

/--
Several digits that begin with a zero, after an optional sign: such a scalar
is a text, never a number.
-/
def hasLeadingZero (characters : List Char) : Bool :=
  let digits :=
    match characters with
    | '-' :: rest => rest
    | '+' :: rest => rest
    | _ => characters
  match digits with
  | '0' :: rest => !rest.isEmpty && rest.all Char.isDigit
  | _ => false

/-- The integer a scalar writes, of any width. -/
def integer? (characters : List Char) : Option Int :=
  if hasLeadingZero characters then none
  else
    match characters with
    | '-' :: digits => (unsigned? digits).map fun value => -(value : Int)
    | '+' :: digits => (unsigned? digits).map fun value => (value : Int)
    | digits => (unsigned? digits).map fun value => (value : Int)

/-- A finite number in decimal notation, with an optional sign. -/
def finite? (characters : List Char) : Option Binary64 :=
  (signedDecimal? characters).filter Binary64.isFinite

/-- The floating-point number a scalar writes. -/
def float? (text : String) : Option Binary64 :=
  if text ∈ [".inf", ".Inf", ".INF", "+.inf", "+.Inf", "+.INF"] then
    some .infinity
  else if text ∈ ["-.inf", "-.Inf", "-.INF"] then
    some (Binary64.infinity.withSign true)
  else if text ∈ [".nan", ".NaN", ".NAN"] then
    some .notANumber
  else finite? text.toList

/-- The words for null. -/
def isNullWord (text : String) : Bool :=
  text ∈ ["null", "Null", "NULL", "~"]

/-- The boolean a scalar writes. -/
def bool? (text : String) : Option Bool :=
  if text ∈ ["true", "True", "TRUE"] then some true
  else if text ∈ ["false", "False", "FALSE"] then some false
  else none

/-- Whether an integer fits the 64-bit types, signed or not. -/
def isNarrow (value : Int) : Bool :=
  -(Nat.pow 2 63) ≤ value && value < UInt64.size

/-- Whether an integer fits the 128-bit types, signed or not. -/
def isWide (value : Int) : Bool :=
  -(Nat.pow 2 127) ≤ value && value < Nat.pow 2 128

/-- What a plain scalar stands for. -/
inductive Reading where
  | value (value : Value)
  /-- An integer that only the 128-bit types hold. -/
  | wide (value : Int)
  deriving Repr

/-- The reading of a plain scalar that is no integer. -/
def readOther (text : String) : Value :=
  if hasLeadingZero text.toList then .string text
  else
    match float? text with
    | some number => .number (.float number)
    | none => .string text

/-- What a plain scalar stands for. -/
def read (text : String) : Reading :=
  if text.isEmpty || isNullWord text then .value .null
  else
    match bool? text with
    | some value => .value (.bool value)
    | none =>
      match integer? text.toList with
      | some value =>
        if isNarrow value then .value (.int value)
        else if isWide value then .wide value
        else .value (readOther text)
      | none => .value (readOther text)

end Gatehouse.Yaml.Scalar

import DocUpdate.Number.DecimalText
import DocUpdate.Number.Wide

/-!
# Decimals of any length as text

A stored decimal is widened through its text, and a result is stored through the text of its
rounded coefficient and exponent. `Wide.ofDecimal` and `Wide.store` are the same without text.
-/

namespace DocUpdate.Wide

/-- The number that a text denotes, with every digit that is written. -/
def read? (text : String) : Option Wide :=
  let (negative, cs) := splitSign text.toList
  match String.ofList (cs.map Char.toLower) with
  | "nan" | "snan" => some .nan
  | "inf" | "infinity" => some (.infinity negative)
  | _ => (DecimalLiteral.read? cs).map fun parts =>
    .finite (if negative then -(parts.digits : Int) else parts.digits)
      (parts.places - parts.exponent)

/-- The number that a text denotes, or NaN if it denotes none. -/
def ofText (text : String) : Wide := (read? text).getD .nan

/-- A coefficient and a scale as text. -/
def scaledText (m s : Int) : String := toString m ++ "E" ++ toString (-s)

/-- The decimal that the text of a rounded number denotes, if there is one. -/
def storeText? : Wide → Option Decimal128
  | .nan => some (.nan false false)
  | .infinity negative => some (.infinity negative)
  | .finite m s =>
    let (c, t) := roundPrecision m s
    let (c, t) := roundScale c t
    Decimal128.parse? (scaledText c t)

/-- Stores a number through its text, as an infinity if the text denotes no decimal. -/
def storeText (a : Wide) : Decimal128 := (storeText? a).getD (.infinity a.negative)

end DocUpdate.Wide

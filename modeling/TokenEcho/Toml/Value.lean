import TokenEcho.Decimal.Binary64

/-!
# Values of a configuration document

A document is a table. Every value comes with the range of bytes it was written in, and entries keep
the order of the document.
-/

namespace TokenEcho.Toml

structure ByteRange where
  start : Nat
  stop : Nat
deriving DecidableEq, Inhabited

/-- A value. Of a date or a time only its presence matters. -/
inductive Value where
  | string (text : String)
  | integer (n : Int)
  | float (x : Binary64)
  | boolean (b : Bool)
  | moment
  | array (items : List (ByteRange × Value))
  | table (entries : List (String × ByteRange × Value))
deriving Inhabited

abbrev Entry := String × ByteRange × Value

end TokenEcho.Toml

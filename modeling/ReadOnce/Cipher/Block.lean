import ReadOnce.Bytes
import ReadOnce.Cipher.Field

/-!
Blocks of sixteen bytes as four columns of four, and the steps of the cipher on them with their inverses.
-/
namespace ReadOnce.Cipher

structure Column where
  first : UInt8
  second : UInt8
  third : UInt8
  fourth : UInt8
deriving DecidableEq, Repr, Inhabited

namespace Column

def map (change : UInt8 → UInt8) (column : Column) : Column :=
  ⟨change column.first, change column.second, change column.third, change column.fourth⟩

def xor (left right : Column) : Column :=
  ⟨left.first ^^^ right.first, left.second ^^^ right.second, left.third ^^^ right.third,
    left.fourth ^^^ right.fourth⟩

/-- The bytes moved up by one place. -/
def rotate (column : Column) : Column := ⟨column.second, column.third, column.fourth, column.first⟩

/-- The product with the polynomial 3y³ + y² + y + 2, modulo y⁴ + 1. -/
def mix (column : Column) : Column :=
  let ⟨a, b, c, d⟩ := column
  ⟨double a ^^^ double b ^^^ b ^^^ c ^^^ d, a ^^^ double b ^^^ double c ^^^ c ^^^ d,
    a ^^^ b ^^^ double c ^^^ double d ^^^ d, double a ^^^ a ^^^ b ^^^ c ^^^ double d⟩

/-- The product with the polynomial 4y² + 5, which turns `mix` into its inverse. -/
def balance (column : Column) : Column :=
  let ⟨a, b, c, d⟩ := column
  let even := double (double (a ^^^ c))
  let odd := double (double (b ^^^ d))
  ⟨a ^^^ even, b ^^^ odd, c ^^^ even, d ^^^ odd⟩

/-- The column whose mix is given. -/
def unmix (column : Column) : Column := mix (balance column)

end Column

structure Block where
  first : Column
  second : Column
  third : Column
  fourth : Column
deriving DecidableEq, Repr, Inhabited

namespace Block

def map (change : Column → Column) (block : Block) : Block :=
  ⟨change block.first, change block.second, change block.third, change block.fourth⟩

def xor (left right : Block) : Block :=
  ⟨left.first.xor right.first, left.second.xor right.second, left.third.xor right.third,
    left.fourth.xor right.fourth⟩

def substitute (block : Block) : Block := block.map (Column.map Cipher.substitute)
def restore (block : Block) : Block := block.map (Column.map Cipher.restore)
def mix (block : Block) : Block := block.map Column.mix
def unmix (block : Block) : Block := block.map Column.unmix

/-- Row by row, the bytes move to the left by the number of the row. -/
def shift (block : Block) : Block :=
  let ⟨a, b, c, d⟩ := block
  ⟨⟨a.first, b.second, c.third, d.fourth⟩, ⟨b.first, c.second, d.third, a.fourth⟩,
    ⟨c.first, d.second, a.third, b.fourth⟩, ⟨d.first, a.second, b.third, c.fourth⟩⟩

/-- Row by row, the bytes move to the right by the number of the row. -/
def unshift (block : Block) : Block :=
  let ⟨a, b, c, d⟩ := block
  ⟨⟨a.first, d.second, c.third, b.fourth⟩, ⟨b.first, a.second, d.third, c.fourth⟩,
    ⟨c.first, b.second, a.third, d.fourth⟩, ⟨d.first, c.second, b.third, a.fourth⟩⟩

/-- The block of sixteen bytes, column after column. -/
def ofBytes (bytes : Bytes) : Block :=
  let column (start : Nat) : Column :=
    ⟨bytes.getD start 0, bytes.getD (start + 1) 0, bytes.getD (start + 2) 0, bytes.getD (start + 3) 0⟩
  ⟨column 0, column 4, column 8, column 12⟩

def toBytes (block : Block) : Bytes :=
  [block.first, block.second, block.third, block.fourth].flatMap fun column =>
    [column.first, column.second, column.third, column.fourth]

end Block
end ReadOnce.Cipher

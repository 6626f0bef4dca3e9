/-!
The field of 256 elements behind the block cipher: bytes as polynomials over two elements, multiplied modulo
x⁸ + x⁴ + x³ + x + 1, and the substitution of bytes built on its inverses.
-/
namespace ReadOnce.Cipher

/-- Multiplication by x. -/
def double (byte : UInt8) : UInt8 := (byte <<< 1) ^^^ (if byte ≥ 0x80 then 0x1b else 0)

/-- The product of two elements, one bit of the second factor at a time. -/
def product (left right : UInt8) : UInt8 :=
  go 8 left right 0
where
  go : Nat → UInt8 → UInt8 → UInt8 → UInt8
    | 0, _, _, sum => sum
    | count + 1, left, right, sum =>
      go count (double left) (right >>> 1) (if right &&& 1 = 1 then sum ^^^ left else sum)

/-- The inverse of an element, its 254th power; zero stays zero. -/
def inverse (byte : UInt8) : UInt8 :=
  let square (value : UInt8) := product value value
  let third := product (square byte) byte
  let seventh := product (square third) byte
  let fifteenth := product (square seventh) byte
  let thirtyFirst := product (square fifteenth) byte
  let sixtyThird := product (square thirtyFirst) byte
  square (product (square sixtyThird) byte)

def rotate (byte : UInt8) (count : UInt8) : UInt8 := (byte <<< count) ||| (byte >>> (8 - count))

def affine (byte : UInt8) : UInt8 :=
  byte ^^^ rotate byte 1 ^^^ rotate byte 2 ^^^ rotate byte 3 ^^^ rotate byte 4 ^^^ 0x63

def affineInverse (byte : UInt8) : UInt8 :=
  rotate byte 1 ^^^ rotate byte 3 ^^^ rotate byte 6 ^^^ 0x05

def substitutes : Vector UInt8 UInt8.size :=
  Vector.ofFn fun index => affine (inverse (UInt8.ofNat index.val))

def preimages : Vector UInt8 UInt8.size :=
  Vector.ofFn fun index => inverse (affineInverse (UInt8.ofNat index.val))

/-- The substitution of a byte. -/
def substitute (byte : UInt8) : UInt8 := substitutes.get byte.toFin

/-- The byte with a given substitute. -/
def restore (byte : UInt8) : UInt8 := preimages.get byte.toFin

end ReadOnce.Cipher

import Gatehouse.Bytes

/-!
# The curve P-256

The group of points of `y² = x³ - 3x + b` over the field of a 256-bit prime, as FIPS 186-4 gives
it. Points are affine pairs of coordinates; sums are computed in Jacobian coordinates, in which
`(x, y, z)` stands for the affine point `(x / z², y / z³)` and `z = 0` for the neutral element.
-/

namespace Gatehouse.P256

/-- The order of the field. -/
def fieldOrder : Nat := 0xffffffff00000001000000000000000000000000ffffffffffffffffffffffff

/-- The order of the group of points. -/
def groupOrder : Nat := 0xffffffff00000000ffffffffffffffffbce6faada7179e84f3b9cac2fc632551

/-- The constant term of the curve's equation. -/
def constantTerm : Nat := 0x5ac635d8aa3a93e7b3ebbd55769886bc651d06b0cc53b0f63bce3c3e27d2604b

/-- Number of bytes of a coordinate. -/
def coordinateSize : Nat := 32

/-! ## Modular arithmetic -/

/-- The power with the `n` low bits of the exponent still to be used. -/
def powFrom (m base exponent : Nat) : (n acc : Nat) → Nat
  | 0, acc => acc
  | n + 1, acc =>
    let square := acc * acc % m
    powFrom m base exponent n (if exponent.testBit n then square * base % m else square)

/-- A power modulo `m`, for exponents below `2 ^ 256`. -/
def pow (m base exponent : Nat) : Nat :=
  powFrom m (base % m) exponent 256 1

/-- The inverse modulo a prime. -/
def inverse (m a : Nat) : Nat :=
  pow m a (m - 2)

/-- Difference in the field of two reduced elements. -/
def sub (a b : Nat) : Nat :=
  (a + fieldOrder - b) % fieldOrder

/-- The right side `x³ - 3x + b` of the curve's equation. -/
def rightSide (x : Nat) : Nat :=
  sub ((x * x % fieldOrder * x + constantTerm) % fieldOrder) (3 * x % fieldOrder)

/-! ## Points -/

/-- A pair of affine coordinates. -/
structure Point where
  x : Nat
  y : Nat
deriving DecidableEq, Repr

/-- Whether a pair is a point of the curve: both coordinates are reduced and the equation holds. -/
def Point.isValid (q : Point) : Bool :=
  q.x < fieldOrder && q.y < fieldOrder && q.y * q.y % fieldOrder == rightSide q.x

/-- The point that generates the group. -/
def generator : Point :=
  ⟨0x6b17d1f2e12c4247f8bce6e563a440f277037d812deb33a0f4a13945d898c296,
   0x4fe342e2fe1a7f9b8ee7eb4a7c0f9e162bce33576b315ececbb6406837bf51f5⟩

/-- A point in Jacobian coordinates. -/
structure Jacobian where
  x : Nat
  y : Nat
  z : Nat
deriving DecidableEq, Repr

namespace Jacobian

/-- The neutral element. -/
def neutral : Jacobian := ⟨1, 1, 0⟩

/-- An affine point. -/
def ofPoint (q : Point) : Jacobian := ⟨q.x, q.y, 1⟩

/-- The affine point, if there is one. -/
def toPoint? (q : Jacobian) : Option Point :=
  if q.z = 0 then none
  else
    let zi := inverse fieldOrder q.z
    let zi2 := zi * zi % fieldOrder
    some ⟨q.x * zi2 % fieldOrder, q.y * (zi2 * zi % fieldOrder) % fieldOrder⟩

/-- Twice a point. -/
def double (q : Jacobian) : Jacobian :=
  let delta := q.z * q.z % fieldOrder
  let gamma := q.y * q.y % fieldOrder
  let beta := q.x * gamma % fieldOrder
  let alpha := 3 * (sub q.x delta * ((q.x + delta) % fieldOrder)) % fieldOrder
  let x := sub (alpha * alpha % fieldOrder) (8 * beta % fieldOrder)
  let y :=
    sub (alpha * sub (4 * beta % fieldOrder) x % fieldOrder) (8 * (gamma * gamma) % fieldOrder)
  ⟨x, y, 2 * q.y * q.z % fieldOrder⟩

/-- The sum of two points. -/
def add (q r : Jacobian) : Jacobian :=
  if q.z = 0 then r
  else if r.z = 0 then q
  else
    let qz2 := q.z * q.z % fieldOrder
    let rz2 := r.z * r.z % fieldOrder
    let u := q.x * rz2 % fieldOrder
    let s := q.y * (rz2 * r.z % fieldOrder) % fieldOrder
    let h := sub (r.x * qz2 % fieldOrder) u
    let t := sub (r.y * (qz2 * q.z % fieldOrder) % fieldOrder) s
    if h = 0 then if t = 0 then q.double else neutral
    else
      let h2 := h * h % fieldOrder
      let h3 := h2 * h % fieldOrder
      let v := u * h2 % fieldOrder
      let x := sub (sub (t * t % fieldOrder) h3) (2 * v % fieldOrder)
      let y := sub (t * sub v x % fieldOrder) (s * h3 % fieldOrder)
      ⟨x, y, h * (q.z * r.z % fieldOrder) % fieldOrder⟩

/-- The multiple with the `n` low bits of the factor still to be used. -/
def mulFrom (k : Nat) (q : Jacobian) : (n : Nat) → Jacobian → Jacobian
  | 0, acc => acc
  | n + 1, acc =>
    let twice := acc.double
    mulFrom k q n (if k.testBit n then twice.add q else twice)

/-- A multiple of a point, for factors below `2 ^ 256`. -/
def mul (k : Nat) (q : Jacobian) : Jacobian :=
  mulFrom k q 256 neutral

end Jacobian

/-- A multiple of the generator. -/
def mulGenerator? (k : Nat) : Option Point :=
  (Jacobian.mul k (.ofPoint generator)).toPoint?

/-! ## Octet strings -/

namespace Point

/-- The bytes of the first coordinate. -/
def xBytes (q : Point) : Bytes := Bytes.ofNat coordinateSize q.x

/-- The bytes of the second coordinate. -/
def yBytes (q : Point) : Bytes := Bytes.ofNat coordinateSize q.y

/-- The uncompressed form: a tag and both coordinates. -/
def uncompressed (q : Point) : Bytes :=
  0x04 :: (q.xBytes ++ q.yBytes)

/-- The compressed form: a tag that tells the parity of `y`, and the first coordinate. -/
def compressed (q : Point) : Bytes :=
  (if q.y % 2 = 0 then 0x02 else 0x03) :: q.xBytes

/-- The point with a given first coordinate whose second coordinate is even. -/
def ofX? (x : Nat) : Option Point :=
  let root := pow fieldOrder (rightSide x) ((fieldOrder + 1) / 4)
  let y := if root % 2 = 0 then root else sub 0 root
  let q : Point := ⟨x, y⟩
  if q.isValid then some q else none

/-- The point with the opposite second coordinate. -/
def neg (q : Point) : Point := ⟨q.x, sub 0 q.y⟩

/-- The point that an octet string writes: uncompressed, compressed, or as its first coordinate
alone, which stands for the smaller of the two second coordinates. -/
def ofOctets? : Bytes → Option Point
  | [] => none
  | tag :: body =>
    if tag = 0x04 then
      if body.length = 2 * coordinateSize then
        let q : Point :=
          ⟨Bytes.toNat (body.take coordinateSize), Bytes.toNat (body.drop coordinateSize)⟩
        if q.isValid then some q else none
      else none
    else if body.length = coordinateSize then
      let even? := ofX? (Bytes.toNat body)
      if tag = 0x02 then even?
      else if tag = 0x03 then even?.map neg
      else if tag = 0x05 then even?.map fun q => if q.y ≤ q.neg.y then q else q.neg
      else none
    else none

end Point
end Gatehouse.P256

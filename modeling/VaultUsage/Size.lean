import VaultUsage.Binary64.Basic

/-!
# Human-readable byte sizes

A byte count below the unit system's base is printed as it is. A larger one is divided by the base,
in binary64, until the value rounded to the wanted decimals drops below the base; the unit and the
printed digits both come from that rounded value.
-/

namespace VaultUsage

inductive UnitSystem where
  | binary
  | si
  deriving DecidableEq, Repr

namespace UnitSystem

def base : UnitSystem → Nat
  | .binary => 1024
  | .si => 1000

def firstUnit : UnitSystem → String
  | .binary => "KiB"
  | .si => "kB"

/-- The units above the first one; the last is used for everything that does not fit below. -/
def largerUnits : UnitSystem → List String
  | .binary => ["MiB", "GiB", "TiB", "PiB", "EiB", "ZiB", "YiB"]
  | .si => ["MB", "GB", "TB", "PB", "EB", "ZB", "YB"]

end UnitSystem

structure SizeFormat where
  units : UnitSystem := .binary
  decimals : UInt64 := 1
  deriving DecidableEq, Repr

namespace SizeFormat

/-- More decimals than this are never printed. -/
def maxDecimals : Nat := 6

def places (f : SizeFormat) : Nat := min f.decimals.toNat maxDecimals

/-- `x` rounded to `places` decimals, a half going away from zero: scaled up, rounded to an integer
and scaled down again, each step in binary64. -/
def roundTo (places : Nat) (x : Binary64) : Binary64 :=
  let precision := Binary64.ofNat (power 10 places)
  ((x.mul precision).round).div precision

/-- The rounded value of `x` in the first unit where it is below the base. `x` is given in the unit
before `unit`. -/
def scale (base places : Nat) (x : Binary64) (unit : String) : List String → Binary64 × String
  | [] => (roundTo places (x.div (Binary64.ofNat base)), unit)
  | larger :: rest =>
    let y := x.div (Binary64.ofNat base)
    let rounded := roundTo places y
    if rounded.absLt (Binary64.ofNat base) then (rounded, unit) else scale base places y larger rest

def renderScaled (f : SizeFormat) (x : Binary64) : String :=
  let r := scale f.units.base f.places x f.units.firstUnit f.units.largerUnits
  r.1.toFixed f.places ++ " " ++ r.2

def render (f : SizeFormat) (bytes : UInt64) : String :=
  let x := Binary64.ofNat bytes.toNat
  if x.absLt (Binary64.ofNat f.units.base) then toString bytes.toNat ++ " B" else f.renderScaled x

def renderSigned (f : SizeFormat) (bytes : Int64) : String :=
  let magnitude := Binary64.ofNat bytes.toInt.natAbs
  if magnitude.absLt (Binary64.ofNat f.units.base) then toString bytes.toInt ++ " B"
  else f.renderScaled (Binary64.ofInt bytes.toInt)

end SizeFormat

end VaultUsage

/-!
# Durations

A duration is shown in whole milliseconds below a second, in seconds with two places below a
minute, and in whole minutes and seconds from there on.  Seconds with two places show the double
nearest to the duration, rounded by its exact value with ties to even.
-/

namespace ProgramFacts
namespace Duration

/-- The quotient of two numbers rounded to the nearest natural number, ties to even. -/
def roundedQuotient (num den : Nat) : Nat :=
  let q := num / den
  let twice := 2 * (num % den)
  if twice < den then q
  else if den < twice then q + 1
  else if q % 2 = 0 then q
  else q + 1

/-- A finite double that is not negative, in hundredths. -/
def hundredths (x : Float) : Nat :=
  let bits := x.toBits.toNat
  let hidden := Nat.pow 2 52
  let fraction := bits % hidden
  let exponent := bits / hidden
  let significand := if exponent = 0 then fraction else fraction + hidden
  let shift := max exponent 1
  if 1075 ≤ shift then
    100 * significand * Nat.pow 2 (shift - 1075)
  else
    roundedQuotient (100 * significand) (Nat.pow 2 (1075 - shift))

/-- A number with at least two digits. -/
def twoDigits (n : Nat) : String :=
  if n < 10 then "0" ++ n.repr else n.repr

def text (nanos : Nat) : String :=
  let seconds := nanos / 1000000000
  if seconds = 0 then
    (nanos / 1000000).repr ++ "ms"
  else if seconds < 60 then
    let h := hundredths (Float.ofNat seconds + Float.ofNat (nanos % 1000000000) / 1000000000)
    (h / 100).repr ++ "." ++ twoDigits (h % 100) ++ "s"
  else
    (seconds / 60).repr ++ "m " ++ (seconds % 60).repr ++ "s"

end Duration
end ProgramFacts

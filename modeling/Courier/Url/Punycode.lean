/-! Punycode: the ASCII form of a label that holds other characters. Only reading is needed: a label
that announces the form has to hold a well-formed one. -/
namespace Courier.Url.Punycode

def digit? (c : Char) : Option Nat :=
  if 'a' ≤ c ∧ c ≤ 'z' then some (c.toNat - 97)
  else if 'A' ≤ c ∧ c ≤ 'Z' then some (c.toNat - 65)
  else if '0' ≤ c ∧ c ≤ '9' then some (c.toNat - 22)
  else none

/-- Halves the excess over the digit range until it is small, counting 36 for each step. -/
def adaptLoop (delta k : Nat) : Nat :=
  if h : 455 < delta then adaptLoop (delta / 35) (k + 36)
  else k + 36 * delta / (delta + 38)
termination_by delta
decreasing_by omega

def adapt (delta points : Nat) (first : Bool) : Nat :=
  let scaled := if first then delta / 700 else delta / 2
  adaptLoop (scaled + scaled / points) 0

def threshold (k bias : Nat) : Nat :=
  if k ≤ bias + 1 then 1 else if k ≥ bias + 26 then 26 else k - bias

/-- One generalized variable-length integer: its value and the characters after it. -/
def integer? : List Char → (value weight k bias : Nat) → Option (Nat × List Char)
  | [], _, _, _, _ => none
  | c :: rest, value, weight, k, bias => do
    let d ← digit? c
    let value := value + d * weight
    if value ≥ 0x100000000 then none
    let t := threshold k bias
    if d < t then return (value, rest)
    if weight * (36 - t) ≥ 0x100000000 then none
    integer? rest value (weight * (36 - t)) (k + 36) bias

theorem length_lt_of_integer? {cs rest : List Char} {value weight k bias n : Nat}
    (h : integer? cs value weight k bias = some (n, rest)) : rest.length < cs.length := by
  induction cs generalizing value weight k with
  | nil => simp [integer?] at h
  | cons c cs ih =>
    simp only [integer?, Option.bind_eq_bind, Option.bind_eq_some_iff] at h
    obtain ⟨d, -, h⟩ := h
    split at h
    · simp at h
    split at h
    · simp only [Option.pure_def, Option.some.injEq, Prod.mk.injEq] at h
      simp [h.2]
    split at h
    · simp at h
    · exact Nat.lt_succ_of_lt (ih h)

/-- Inserts the encoded characters into the basic ones, first to last. -/
def insertions? (cs : List Char) (out : List Nat) (n i bias : Nat) : Option (List Nat) :=
  if cs.isEmpty then some out
  else match _h : integer? cs i 1 36 bias with
    | none => none
    | some (i', rest) =>
      let size := out.length + 1
      let code := n + i' / size
      let place := i' % size
      if code < 0x110000 && !(0xD800 ≤ code && code < 0xE000) then
        insertions? rest (out.take place ++ code :: out.drop place) code (place + 1)
          (adapt (i' - i) size (i = 0))
      else none
termination_by cs.length
decreasing_by exact length_lt_of_integer? _h

/-- The code points of an encoded label, without its announcing mark. -/
def decode? (label : List Char) : Option (List Nat) :=
  let back := label.reverse
  let tail := (back.takeWhile (· != '-')).reverse
  let basic := ((back.dropWhile (· != '-')).drop 1).reverse
  insertions? tail (basic.map Char.toNat) 128 0 72

end Courier.Url.Punycode

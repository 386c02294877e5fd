import Courier.Unicode.Table

/-! Characters that differ in case only: pairs at equal distances, and larger groups. -/
namespace Courier.Unicode

/-- For each run: how far its first code is from that of the run before, how many pairs it has, how
far these are apart, and the distance inside a pair. -/
def foldRuns : List String :=
  ["ChqhBgroiBghjiBgojiBgDrwiBghiiBgmoiBgyjiBgmhhHN+BghhD5h4ihByjihnoihx3ihBvjihnhhGjhhhGyhiihkh",
    "hGuhhhhiihGtihhhjhhCvhhhGqhhhGrhhhhihhGthhhGvhhhDhhhhGzhhhGxhhhhihhFjhhhBJShhhhGzhhhG1hhhEih",
    "hhG2hjihmhhG6hhhhihhG6jhhhihhG6hhhhiihG5iiihkhhG7hhhhkhhhjhhB4uoihxpih2hhhk0ihBqpih4hhKRrhhh",
    "hjhhKRohihKR+ihhhjhhClhhhCnhlihqhhKQ+hhhKQ8hhhKQ-qhhBJKvlhhBJKrjhhBJLnhhhBJJohhhBJKkkhhBJKkh",
    "hhKP3hhhBJKhlhhKP9shhKPnlhhBJKjlhhBJJq2hhBJI1hhhBJIyGyiihmhhhljhEikhhD0nhhBmijhBlkhhCgiihB+j",
    "iiBgjiiBgjhhBgkjiBgjhhBgmihBgjihBgjihBgBlhhopsih6hhnlhhhjhhhmwhCwwihBgjniBgjkiBgqhhBgjnhBgol",
    "hBgB1hhhkvihBm7ihB2hhvhnihvBwihDhBmhBwCbvBmhHDgBnhhHDgmhhHDgjBrhCegBtjhCegVjCwhBFewCwmhoCE5h",
    "hhHwhhBCQkkhhDXmxhhBCR4DyBwihDi6ihB-BwihDgohowmhowohowohowmhoxkiovohowihCqikhC2kihDkiihEgiih",
    "DwiihD-kohowohowohowihojhhpwhhptihowiholhhnuhhpJ+hh8BuwhwBjhhhZz6h6BaqBwhBwDghhhnjihrhhhjhhh",
    "rByihDriihnhhheKulihsxihB0uihFinihw+ihCniihllihthhhliihkhhBwiqih9hhdghoihziihloihBphhhVZs6hB",
    "gBG+BohBoFwBkhBoGgziBnhliBnsniBnwjiBnohhBnBXrBzhCgGw2hBgCawBghBgVNgBghBgDg5h7eTgBihBi"]

/-- For each group of more than two: their number, and their codes. -/
def foldGroups : List String :=
  ["jCrDrIJqjCzDzL+jF1c8d8jGlHlIJrjOkOlOmjOnOoOpjOqOrOsjPxPyPzkalc5d5Hd-jcydyewjc1d1f1kc4d4exf0j",
    "c6d6fwjdgege2jdhehfxjdjeiejjdmeme1jdpepIJmjBAyBByHEgjBA0BB0HEhjBA-BB-HEijBBhBChHEjkBBiBCiHEk",
    "HEljBBqBCqHEmjBDiBDjHEnjHEoBJSqBJSrjHTgHThHU7"]

def pairs (last : Nat) : List Nat → List (List Nat)
  | step :: count :: stride :: distance :: rest =>
    let first := last + step
    ((List.range count).map fun i => [first + i * stride, first + i * stride + distance])
      ++ pairs first rest
  | _ => []

def foldClasses : List (List Nat) :=
  let larger := unpack foldGroups
  pairs 0 (unpack foldRuns) ++ groups larger.length larger

namespace CharSet

def memCode (s : CharSet) (n : Nat) : Bool :=
  s.any fun (low, high) => low ≤ n && n ≤ high

/-- A set with all that differ in case only from its members. -/
def foldCase (s : CharSet) : CharSet :=
  let added := foldClasses.flatMap fun codes =>
    if codes.any s.memCode then codes.map fun n => (n, n) else []
  normalize (s ++ added)

end CharSet

end Courier.Unicode

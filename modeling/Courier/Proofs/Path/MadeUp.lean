import Courier.Proofs.Path.Name
import Courier.Transfer.Naming

/-! The names that are made up for files begin with a number, so that they name something, and different
numbers make different names. -/
namespace Courier

open Courier.Path (IsName)

theorem digits_of_toString (n : Nat) : ∀ c ∈ (toString n).toList, c.isDigit = true := by
  intro c hc
  rw [Nat.toString_eq_repr, Nat.toList_repr] at hc
  exact Nat.isDigit_of_mem_toDigits (by decide) (by decide) hc

theorem toString_ne_nil (n : Nat) : (toString n).toList ≠ [] := by
  rw [Nat.toString_eq_repr, Nat.toList_repr]
  exact Nat.toDigits_ne_nil

theorem number_of_digits {m n : Nat} (same : (toString m).toList = (toString n).toList) : m = n := by
  rw [Nat.toString_eq_repr, Nat.toString_eq_repr, Nat.toList_repr, Nat.toList_repr] at same
  have value := congrArg (Nat.ofDigitChars 10 · 0) same
  simpa only [Nat.ofDigitChars_ten_toDigits] using value

theorem isName_of_number {name : String} (n : Nat) (rest : List Char)
    (begins : name.toList = (toString n).toList ++ rest) (whole : '/' ∉ rest) : IsName name := by
  obtain ⟨first, more, hn⟩ := List.exists_cons_of_ne_nil (toString_ne_nil n)
  have digit : first.isDigit = true := digits_of_toString n first (by rw [hn]; exact List.mem_cons_self)
  have plain {cs : List Char} (same : name.toList = '.' :: cs) : False := by
    rw [begins, hn, List.cons_append] at same
    rw [(List.cons.inj same).1] at digit
    contradiction
  refine ⟨?_, ?_, fun dot => plain dot, fun dots => plain dots⟩
  · rw [begins, hn]
    exact List.cons_ne_nil _ _
  · rw [begins, List.mem_append, not_or]
    refine ⟨fun slash => ?_, whole⟩
    have := digits_of_toString n '/' slash
    contradiction

theorem cacheName_isName (id : TaskId) (fileName : String) : IsName (cacheName id fileName) := by
  refine isName_of_number id ('_' :: (fileName.map fun c => if isSeparator c then '_' else c).toList)
    (by simp [cacheName]) ?_
  rw [List.mem_cons, not_or, String.toList_map, List.mem_map]
  refine ⟨by decide, ?_⟩
  rintro ⟨c, -, same⟩
  by_cases separates : isSeparator c = true
  · rw [if_pos separates] at same
    contradiction
  · rw [if_neg separates] at same
    rw [same] at separates
    exact separates rfl

/-- Names that begin with a number and go on with no digit tell the number. -/
theorem takeWhile_number {name : String} (n : Nat) (rest : List Char)
    (begins : name.toList = (toString n).toList ++ rest)
    (stops : ∀ c ∈ rest.head?, c.isDigit = false) :
    name.toList.takeWhile Char.isDigit = (toString n).toList := by
  rw [begins, List.takeWhile_append_of_pos (digits_of_toString n)]
  cases rest with
  | nil => rw [List.takeWhile_nil, List.append_nil]
  | cons c rest => rw [List.takeWhile_cons_of_neg (by simp [stops c rfl]), List.append_nil]

theorem takeWhile_cacheName (id : TaskId) (fileName : String) :
    (cacheName id fileName).toList.takeWhile Char.isDigit = (toString id).toList := by
  refine takeWhile_number id ('_' :: (fileName.map fun c => if isSeparator c then '_' else c).toList)
    (by simp [cacheName]) ?_
  rintro _ ⟨⟩
  rfl

theorem id_of_cacheName {id other : TaskId} {fileName otherName : String}
    (same : cacheName id fileName = cacheName other otherName) : id = other := by
  have digits := takeWhile_cacheName id fileName
  rw [same] at digits
  exact number_of_digits (digits.symm.trans (takeWhile_cacheName other otherName))

end Courier

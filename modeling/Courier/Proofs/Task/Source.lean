import Courier.Proofs.Path.MadeUp
import Courier.Task.Basic
import Mathlib.Data.List.Basic

/-! What a key tells of its task: where the bytes come from, and nothing else. The numbers of a chat and
of a post can be read from their key, and digits of a digest never make the key of a post. -/
namespace Courier

/-- Whether two origins are the same post of a chat or the same page, whatever their files are
called. -/
def Origin.SameSource : Origin → Origin → Prop
  | .message _ chat post, .message _ chat' post' => chat = chat' ∧ post = post'
  | .article link, .article link' => link.text = link'.text
  | _, _ => False

instance Origin.decidableSameSource : DecidableRel Origin.SameSource
  | .message _ chat post, .message _ chat' post' =>
    inferInstanceAs (Decidable (chat = chat' ∧ post = post'))
  | .article link, .article link' => inferInstanceAs (Decidable (link.text = link'.text))
  | .message .., .article _ => inferInstanceAs (Decidable False)
  | .article _, .message .. => inferInstanceAs (Decidable False)

namespace Origin.SameSource

variable {a b c : Origin}

theorem refl (a : Origin) : SameSource a a := by
  cases a with
  | message => exact ⟨rfl, rfl⟩
  | article => exact rfl

theorem symm (h : SameSource a b) : SameSource b a := by
  cases a <;> cases b
  · exact ⟨h.1.symm, h.2.symm⟩
  · exact h
  · exact h
  · exact Eq.symm h

theorem trans (h : SameSource a b) (h' : SameSource b c) : SameSource a c := by
  cases a <;> cases b <;> cases c <;> first | exact h.elim | exact h'.elim | skip
  · exact ⟨h.1.trans h'.1, h.2.trans h'.2⟩
  · exact Eq.trans h h'

theorem key_eq (h : SameSource a b) : a.key = b.key := by
  cases a <;> cases b
  · obtain ⟨rfl, rfl⟩ := h
    rfl
  · exact h.elim
  · exact h.elim
  · exact congrArg Key.ofLink h

end Origin.SameSource

/-! ### The key of a post -/

theorem toString_negSucc (n : Nat) :
    (toString (Int.negSucc n)).toList = '-' :: (toString (n + 1)).toList := by
  rw [Int.toString_eq_repr, Int.repr]
  simp

theorem not_mem_toString_of_not_digit {c : Char} (other : c.isDigit = false) (n : Nat) :
    c ∉ (toString n).toList := by
  intro mem
  rw [digits_of_toString n c mem] at other
  contradiction

theorem toString_ne_negSucc (m n : Nat) :
    (toString (m : Int)).toList ≠ (toString (Int.negSucc n)).toList := by
  intro same
  refine not_mem_toString_of_not_digit (c := '-') rfl m ?_
  rw [show (toString m).toList = (toString (m : Int)).toList from rfl, same, toString_negSucc]
  exact List.mem_cons_self

theorem int_of_toString {m n : Int} (same : (toString m).toList = (toString n).toList) : m = n := by
  cases m with
  | ofNat m =>
    cases n with
    | ofNat n => exact congrArg Int.ofNat (number_of_digits same)
    | negSucc n => exact absurd same (toString_ne_negSucc m n)
  | negSucc m =>
    cases n with
    | ofNat n => exact absurd same.symm (toString_ne_negSucc n m)
    | negSucc n =>
      rw [toString_negSucc, toString_negSucc] at same
      rw [Nat.succ.inj (number_of_digits (List.cons.inj same).2)]

theorem colon_not_mem_toString (n : Int) : ':' ∉ (toString n).toList := by
  cases n with
  | ofNat n => exact not_mem_toString_of_not_digit rfl n
  | negSucc n =>
    rw [toString_negSucc, List.mem_cons, not_or]
    exact ⟨by decide, not_mem_toString_of_not_digit rfl (n + 1)⟩

namespace Key

theorem toList_ofMessage (chat post : Int) :
    (ofMessage chat post).text.toList = (toString chat).toList ++ ':' :: (toString post).toList := by
  simp [ofMessage]

/-- The colon stands between the two numbers, and neither of them has one. -/
theorem ofMessage_inj {chat post chat' post' : Int} :
    ofMessage chat post = ofMessage chat' post' ↔ chat = chat' ∧ post = post' := by
  constructor
  · intro same
    have chars := congrArg (·.text.toList) same
    simp only [toList_ofMessage] at chars
    obtain ⟨hchat, -, hpost⟩ := (List.append_cons_inj_of_notMem (colon_not_mem_toString chat)
      (colon_not_mem_toString post)).mp chars
    exact ⟨int_of_toString hchat, int_of_toString hpost⟩
  · rintro ⟨rfl, rfl⟩
    rfl

end Key

/-! ### The key of a page -/

theorem hexDigit_inj : ∀ m < 16, ∀ n < 16, Text.hexDigit m = Text.hexDigit n → m = n := by
  decide

theorem byteHex_inj {b b' : UInt8} (same : Text.byteHex b = Text.byteHex b') : b = b' := by
  have high (b : UInt8) : b.toNat / 16 < 16 := Nat.div_lt_of_lt_mul b.toNat_lt
  have low (b : UInt8) : b.toNat % 16 < 16 := Nat.mod_lt _ (by decide)
  obtain ⟨first, second⟩ := List.cons.inj same
  have hhigh := hexDigit_inj _ (high b) _ (high b') first
  have hlow := hexDigit_inj _ (low b) _ (low b') (List.cons.inj second).1
  refine UInt8.toNat_inj.mp ?_
  rw [← Nat.div_add_mod b.toNat 16, hhigh, hlow, Nat.div_add_mod]

theorem flatMap_byteHex_inj {bs bs' : List UInt8}
    (same : bs.flatMap Text.byteHex = bs'.flatMap Text.byteHex) : bs = bs' := by
  induction bs generalizing bs' with
  | nil =>
    cases bs' with
    | nil => rfl
    | cons b' bs' => simp [Text.byteHex] at same
  | cons b bs ih =>
    cases bs' with
    | nil => simp [Text.byteHex] at same
    | cons b' bs' =>
      rw [List.flatMap_cons, List.flatMap_cons] at same
      obtain ⟨first, rest⟩ := List.append_inj same rfl
      rw [byteHex_inj first, ih rest]

theorem colon_not_mem_byteHex (b : UInt8) : ':' ∉ Text.byteHex b := by
  have digit : ∀ n < 16, Text.hexDigit n ≠ ':' := by decide
  have high := digit (b.toNat / 16) (Nat.div_lt_of_lt_mul b.toNat_lt)
  have low := digit (b.toNat % 16) (Nat.mod_lt _ (by decide))
  simp [Text.byteHex, high.symm, low.symm]

namespace Key

theorem toList_ofLink (link : String) :
    (ofLink link).text.toList = (Digest.sha256 link.toUTF8.toList).flatMap Text.byteHex :=
  String.toList_ofList

theorem ofMessage_ne_ofLink (chat post : Int) (link : String) :
    ofMessage chat post ≠ ofLink link := by
  intro same
  have chars := congrArg (·.text.toList) same
  simp only [toList_ofMessage, toList_ofLink] at chars
  have colon : ':' ∈ (Digest.sha256 link.toUTF8.toList).flatMap Text.byteHex := by
    rw [← chars]
    simp
  obtain ⟨b, -, mem⟩ := List.mem_flatMap.mp colon
  exact colon_not_mem_byteHex b mem

end Key

/-- Whether the digest tells two pages apart. Nothing is asked of posts. -/
def Origin.NoCollision (a b : Origin) : Prop :=
  ∀ link link', a = .article link → b = .article link' →
    Digest.sha256 link.text.toUTF8.toList = Digest.sha256 link'.text.toUTF8.toList →
      link.text = link'.text

theorem Origin.SameSource.noCollision {a b c : Origin} (same : a.SameSource b)
    (apart : b.NoCollision c) : a.NoCollision c := by
  cases a with
  | message => nofun
  | article link =>
    cases b with
    | message => exact same.elim
    | article link' =>
      have text : link.text = link'.text := same
      rintro _ other ⟨⟩ chosen digests
      rw [text] at digests ⊢
      exact apart link' other rfl chosen digests

theorem Origin.key_eq_iff {a b : Origin} (apart : a.NoCollision b) :
    a.key = b.key ↔ a.SameSource b := by
  refine ⟨fun same => ?_, SameSource.key_eq⟩
  cases a with
  | message file chat post =>
    cases b with
    | message file' chat' post' => exact Key.ofMessage_inj.mp same
    | article link => exact absurd same (Key.ofMessage_ne_ofLink chat post link.text)
  | article link =>
    cases b with
    | message file chat post => exact absurd same.symm (Key.ofMessage_ne_ofLink chat post link.text)
    | article link' =>
      have chars := congrArg (·.text.toList) same
      simp only [Origin.key, Key.toList_ofLink] at chars
      exact apart link link' rfl rfl (flatMap_byteHex_inj chars)

/-! ### What happens to a task -/

namespace Task

variable {task task' : Task}

theorem rename_sameSource (task : Task) (name : String) :
    (task.rename name).origin.SameSource task.origin := by
  unfold rename Origin.rename
  cases task.origin with
  | message => exact ⟨rfl, rfl⟩
  | article => exact rfl

theorem advance_origin {next : Status} (h : task.advance next = .ok task') :
    task'.origin = task.origin := by
  unfold advance at h
  split at h
  · rw [← Except.ok.inj h]
  · contradiction

theorem fail_origin {reason : String} (h : task.fail reason = .ok task') :
    task'.origin = task.origin := by
  unfold fail at h
  cases moved : task.advance .failed with
  | error e => simp [moved, Except.map] at h
  | ok failed =>
    have kept := advance_origin moved
    rw [moved] at h
    rw [← Except.ok.inj h]
    exact kept

end Task

end Courier

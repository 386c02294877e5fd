import Courier.Url.Parser
import Mathlib.Tactic.SplitIfs

/-! The segments of a link's path are whole: none of them holds a slash, whatever the link is. -/
namespace Courier.Url

/-- Whether no segment of a path holds a slash. -/
def Location.IsWhole : Location → Prop
  | .segments parts => ∀ s ∈ parts, '/' ∉ s.toList
  | .verbatim _ => True

theorem hexDigit_ne_slash {n : Nat} (small : n < 16) : (Text.hexDigit n).toUpper ≠ '/' := by
  have all : ∀ n < 16, (Text.hexDigit n).toUpper ≠ '/' := by decide
  exact all n small

theorem slash_not_mem_percentByte (b : UInt8) : '/' ∉ Text.percentByte b := by
  have high : b.toNat / 16 < 16 := Nat.div_lt_of_lt_mul b.toNat_lt
  have low : b.toNat % 16 < 16 := Nat.mod_lt _ (by decide)
  simp only [Text.percentByte, Text.byteHex, List.map_cons, List.map_nil, List.mem_cons, not_or]
  exact ⟨by decide, (hexDigit_ne_slash high).symm, (hexDigit_ne_slash low).symm, List.not_mem_nil⟩

theorem slash_not_mem_percentEncode {escaped : Char → Bool} {cs : List Char} (whole : '/' ∉ cs) :
    '/' ∉ Text.percentEncode escaped cs := by
  intro mem
  obtain ⟨c, hc, hm⟩ := List.mem_flatMap.mp mem
  split at hm
  · obtain ⟨b, -, hb⟩ := List.mem_flatMap.mp hm
    exact slash_not_mem_percentByte b hb
  · rw [List.mem_singleton] at hm
    exact whole (hm ▸ hc)

theorem mem_stepUp {before : List (List Char)} {s : List Char} (hs : s ∈ stepUp before) :
    s ∈ before := by
  cases before with
  | nil => exact hs
  | cons segment earlier =>
    rw [stepUp] at hs
    split_ifs at hs
    · exact hs
    · exact List.mem_cons_of_mem segment hs

theorem slash_not_mem_resolve {isFile : Bool} {before raws : List (List Char)}
    (done : ∀ s ∈ before, '/' ∉ s) (whole : ∀ s ∈ raws, '/' ∉ s) :
    ∀ s ∈ resolve isFile before raws, '/' ∉ s := by
  induction raws generalizing before with
  | nil => simpa [resolve] using done
  | cons raw rest ih =>
    have encoded : '/' ∉ Text.percentEncode escapedInPath raw :=
      slash_not_mem_percentEncode (whole raw List.mem_cons_self)
    have others : ∀ s ∈ rest, '/' ∉ s := fun s hs => whole s (List.mem_cons_of_mem raw hs)
    have up : ∀ s ∈ stepUp before, '/' ∉ s := fun s hs => done s (mem_stepUp hs)
    have more {segment : List Char} {kept : List (List Char)} (hs : '/' ∉ segment)
        (hk : ∀ s ∈ kept, '/' ∉ s) : ∀ s ∈ segment :: kept, '/' ∉ s := by
      simpa using ⟨hs, hk⟩
    unfold resolve
    dsimp only
    split_ifs
    · exact fun s hs => more List.not_mem_nil up s (List.mem_reverse.mp hs)
    · exact ih up others
    · exact fun s hs => more List.not_mem_nil done s (List.mem_reverse.mp hs)
    · exact ih done others
    · refine ih (more ?_ done) others
      rw [List.mem_append, not_or]
      exact ⟨fun taken => encoded (List.mem_of_mem_take taken), by decide⟩
    · exact ih (more encoded done) others

theorem slash_not_mem_withoutLeadingEmpty {segments : List (List Char)}
    (whole : ∀ s ∈ segments, '/' ∉ s) : ∀ s ∈ withoutLeadingEmpty segments, '/' ∉ s := by
  unfold withoutLeadingEmpty
  split
  · simp
  · exact fun s hs => whole s (List.dropWhile_subset _ hs)

theorem isWhole_ofSegments {parts : List (List Char)} (whole : ∀ s ∈ parts, '/' ∉ s) :
    (ofSegments parts).IsWhole := by
  intro s hs
  obtain ⟨part, hp, rfl⟩ := List.mem_map.mp hs
  rw [String.toList_ofList]
  exact whole part hp

theorem isWhole_pathAfterHost (kind : SchemeKind) (cs : List Char) :
    (pathAfterHost kind cs).IsWhole := by
  have read (body : List Char) : ∀ s ∈ resolve (kind == .file) [] (cut kind.isSpecial body), '/' ∉ s :=
    slash_not_mem_resolve (by simp) fun s => slash_not_mem_of_mem_cut
  unfold pathAfterHost
  dsimp only
  split
  · split
    · intro s hs
      simp_all
    · trivial
  · apply isWhole_ofSegments
    split
    · exact slash_not_mem_withoutLeadingEmpty (read _)
    · exact read _

theorem isWhole_filePath (cs : List Char) : (filePath cs).IsWhole :=
  isWhole_ofSegments (slash_not_mem_withoutLeadingEmpty
    (slash_not_mem_resolve (by simp) fun s => slash_not_mem_of_mem_cut))

theorem afterSlashes_path {scheme : String} {kind : SchemeKind} {cs : List Char} {url : Url}
    (h : afterSlashes? scheme kind cs = some url) : ∃ rest, url.path = pathAfterHost kind rest := by
  -- The ways through the parse differ in what they refuse, and all end in a port and a path behind it.
  unfold afterSlashes? at h
  simp only [Option.bind_eq_bind, Option.pure_def, Option.bind_none] at h
  grind [Option.bind_eq_some_iff]

theorem file_isWhole {cs : List Char} {url : Url} (h : file? cs = some url) : url.path.IsWhole := by
  have file := isWhole_filePath
  have host := isWhole_pathAfterHost .file
  unfold file? at h
  simp only [Option.bind_eq_bind, Option.pure_def] at h
  grind [Option.bind_eq_some_iff]

/-- However a link is read, the segments of its path are whole. -/
theorem parse_isWhole {text : String} {url : Url} (h : parse? text = some url) : url.path.IsWhole := by
  unfold parse? at h
  simp only [Option.bind_eq_bind, Option.bind_eq_some_iff, Option.pure_def] at h
  obtain ⟨⟨scheme, rest⟩, -, h⟩ := h
  dsimp only at h
  split at h
  · exact file_isWhole h
  · obtain ⟨rest, path⟩ := afterSlashes_path h
    rw [path]
    exact isWhole_pathAfterHost ..
  · split at h
    · obtain ⟨rest, path⟩ := afterSlashes_path h
      rw [path]
      exact isWhole_pathAfterHost ..
    · rw [← Option.some.inj h]
      exact isWhole_ofSegments (slash_not_mem_resolve (by simp) fun s => slash_not_mem_of_mem_cut)
    · rw [← Option.some.inj h]
      trivial

theorem links_isWhole : links.IsWhole := by
  intro text segments read
  obtain ⟨url, parsed, read⟩ := Option.bind_eq_some_iff.mp read
  have whole := parse_isWhole parsed
  unfold segments? at read
  cases path : url.path with
  | verbatim text => simp [path] at read
  | segments parts =>
    rw [path] at read whole
    rw [← Option.some.inj read]
    exact whole

end Courier.Url

import Mathlib.Data.List.Infix
import Enunciado.Storage.Path

namespace Enunciado.Path

variable {p q : Path} {name : String}

theorem isAbove_iff : p.isAbove q ↔ p.parts <+: q.parts ∧ p.parts.length < q.parts.length := by
  simp [isAbove]

theorem isAbove_trans {r : Path} (h : p.isAbove q) (h' : q.isAbove r) : p.isAbove r := by
  rw [isAbove_iff] at h h' ⊢
  exact ⟨h.1.trans h'.1, h.2.trans h'.2⟩

-- What is on the way to a file is its folder, or on the way to that.
theorem parent_of_isAbove (h : p.isAbove q) : q.parent = p ∨ p.isAbove q.parent := by
  have ⟨hp, hl⟩ := isAbove_iff.mp h
  have hd : q.parent.parts.length = q.parts.length - 1 := List.length_dropLast
  have hp : p.parts <+: q.parent.parts :=
    List.prefix_of_prefix_length_le hp (List.dropLast_prefix _) (by omega)
  rcases Nat.eq_or_lt_of_le hp.length_le with hl | hl
  · exact .inl (congrArg Path.mk (hp.eq_of_length hl).symm)
  · exact .inr (isAbove_iff.mpr ⟨hp, hl⟩)

theorem not_isAbove (h : q.parts.length ≤ p.parts.length) : p.isAbove q = false := by
  simp [isAbove, h]

theorem parent_extend (p : Path) (suffix : String) : (p.extend suffix).parent = p.parent := by
  unfold extend
  split
  case h_1 => simp [parent]
  case h_2 h => simp [parent, List.getLast?_eq_none_iff.mp h]

-- The last part of a path is the name of something in a folder.
def EndsIn (p : Path) (name : String) : Prop :=
  p.parts = p.parent.parts ++ [name] ∧ name ∉ ["..", "/", "//"]

theorem EndsIn.extend (h : p.EndsIn name) (suffix : String) :
    p.extend suffix = ⟨p.parent.parts ++ [name ++ suffix]⟩ := by
  have hl : p.parts.getLast? = some name := by rw [h.1, List.getLast?_concat]
  rw [Path.extend, hl]
  rfl

theorem draft_not_mem (name : String) : name ++ ".tmp" ∉ ["..", "/", "//"] := by
  intro hm
  have hl : (name ++ ".tmp").length ≤ 2 := by
    simp only [List.mem_cons, List.not_mem_nil, or_false] at hm
    rcases hm with hm | hm | hm <;> rw [hm] <;> decide
  have ht : ".tmp".length = 4 := rfl
  rw [String.length_append] at hl
  omega

theorem EndsIn.draft (h : p.EndsIn name) : (p.extend ".tmp").EndsIn (name ++ ".tmp") :=
  ⟨by rw [parent_extend, h.extend], draft_not_mem name⟩

theorem splitAt_of_not_mem {separator : Char} {s : List Char} (h : separator ∉ s) :
    splitAt separator s = [s] := by
  induction s
  case nil => rfl
  case cons c s hi =>
    rw [List.mem_cons, not_or] at h
    rw [splitAt, hi h.2]
    simp [Ne.symm h.1]

-- A text that could be the name of a file is the path to it.
theorem ofString_name (h : '/' ∉ name.toList) (hn : name.toList ∉ [[], ['.']]) :
    ofString name = ⟨[name]⟩ := by
  simp only [List.mem_cons, List.not_mem_nil, or_false, not_or] at hn
  unfold ofString
  rw [splitAt_of_not_mem h]
  have hs : ∀ s, name.toList ≠ '/' :: s := fun s hs => h (hs ▸ List.mem_cons_self)
  split
  case h_1 hm => exact absurd hm (hs _)
  case h_2 hm => exact absurd hm (hs _)
  case h_3 hm => exact absurd hm (hs _)
  case h_4 => simp [hn]

theorem splitAt_ne_nil (separator : Char) (s : List Char) : splitAt separator s ≠ [] := by
  cases s
  case nil => simp [splitAt]
  case cons c s =>
    rw [splitAt]
    split
    case h_1 => split <;> simp
    case h_2 => simp

theorem not_mem_of_mem_splitAt {separator : Char} {s : List Char} :
    ∀ part ∈ splitAt separator s, separator ∉ part := by
  induction s
  case nil => simp [splitAt]
  case cons c s hi =>
    obtain ⟨part, parts, hp⟩ := List.exists_cons_of_ne_nil (splitAt_ne_nil separator s)
    rw [hp, List.forall_mem_cons] at hi
    rw [splitAt, hp]
    dsimp only
    split
    case isTrue => simpa using hi
    case isFalse hc => simpa [Ne.symm hc] using hi

theorem exists_mem_splitAt {separator c : Char} {s : List Char} (h : c ∈ s) (hc : c ≠ separator) :
    ∃ part ∈ splitAt separator s, c ∈ part := by
  induction s
  case nil => cases h
  case cons d s hi =>
    obtain ⟨part, parts, hp⟩ := List.exists_cons_of_ne_nil (splitAt_ne_nil separator s)
    rw [hp] at hi
    rw [splitAt, hp]
    rcases List.mem_cons.mp h with rfl | h
    case inl => exact ⟨c :: part, by simp [hc], by simp⟩
    case inr =>
      obtain ⟨part', hm, hm'⟩ := hi h
      dsimp only
      split
      case isTrue => exact ⟨part', by simp [hm], hm'⟩
      case isFalse =>
        rcases List.mem_cons.mp hm with rfl | hm
        case inl => exact ⟨d :: part', by simp, by simp [hm']⟩
        case inr => exact ⟨part', by simp [hm], hm'⟩

-- The path goes neither up nor back to the root on its way.
structure Direct (p : Path) : Prop where
  noUp   : ".." ∉ p.parts
  noRoot : ∀ name ∈ p.parts.tail, name ∉ ["/", "//"]

theorem direct_ofString {s : String} (h : ".." ∉ (ofString s).parts) : (ofString s).Direct := by
  refine ⟨h, fun name hn => ?_⟩
  have hm : name.toList ∈ splitAt '/' s.toList := by
    clear h
    unfold ofString at hn
    dsimp only at hn
    split at hn
    case h_4 =>
      obtain ⟨part, hp, rfl⟩ := List.mem_map.mp (List.mem_of_mem_tail hn)
      simpa using List.mem_of_mem_filter hp
    all_goals
      obtain ⟨part, hp, rfl⟩ := List.mem_map.mp hn
      simpa using List.mem_of_mem_filter hp
  have hs := not_mem_of_mem_splitAt _ hm
  simp only [List.mem_cons, List.not_mem_nil, or_false]
  rintro (rfl | rfl) <;> exact hs (by decide)

-- The path is written as the place that it leads to, with one character for the root.
structure Plain (p : Path) : Prop extends p.Direct where
  oneRoot : p.parts.head? ≠ some "//"

theorem plain_name (hn : name ∉ ["..", "//"]) : Plain ⟨[name]⟩ := by
  simp only [List.mem_cons, List.not_mem_nil, or_false, not_or] at hn
  exact ⟨⟨by simpa using Ne.symm hn.1, by simp⟩, by simpa using hn.2⟩

theorem toString_name (hn : name ∉ ["..", "/", "//"]) : Path.toString ⟨[name]⟩ = name := by
  simp only [List.mem_cons, List.not_mem_nil, or_false, not_or] at hn
  unfold Path.toString
  split
  case h_1 h => cases h
  case h_2 h =>
    cases h
    exact absurd rfl hn.2.1
  case h_3 h =>
    cases h
    exact absurd rfl hn.2.2
  case h_4 => exact String.intercalate_singleton

theorem mem_intercalate {a : α} {separator : List α} (ha : a ∉ separator) {ls : List (List α)} :
    a ∈ separator.intercalate ls ↔ ∃ l ∈ ls, a ∈ l := by
  induction ls
  case nil => simp
  case cons l ls hi =>
    cases ls
    case nil => simp
    case cons =>
      rw [List.intercalate_cons_cons, List.mem_append, List.mem_append, hi]
      simp [ha]

-- A path as text has no characters but those of its names and those that part them.
theorem mem_toString {c : Char} (hd : c ≠ '.') (hs : c ≠ '/') :
    c ∈ p.toString.toList ↔ ∃ name ∈ p.parts, c ∈ name.toList := by
  have hj (names : List String) : c ∈ ['/'].intercalate (names.map String.toList) ↔
      ∃ name ∈ names, c ∈ name.toList := by
    simp [mem_intercalate (a := c) (fun h => hs (List.mem_singleton.mp h))]
  unfold Path.toString
  split
  case h_1 h => simp [h, hd]
  case h_2 h => simp [h, hs, hj]
  case h_3 h => simp [h, hs, hj]
  case h_4 =>
    rw [String.toList_intercalate]
    exact hj p.parts

theorem hasNul_iff {s : String} : hasNul s ↔ '\x00' ∈ s.toList := by
  simp [hasNul]

-- What is in a text is also in the path that it is read as.
theorem noNul_of_ofString {s : String} (h : hasNul (ofString s).toString = false) :
    hasNul s = false := by
  rw [← Bool.not_eq_true, hasNul_iff, mem_toString (by decide) (by decide)] at h
  rw [← Bool.not_eq_true, hasNul_iff]
  refine mt (fun hs => ?_) h
  obtain ⟨part, hm, hp⟩ := exists_mem_splitAt hs (by decide : '\x00' ≠ '/')
  have hn : part ≠ [] ∧ part ≠ ['.'] := by
    refine ⟨?_, ?_⟩ <;> (rintro rfl; revert hp; decide)
  have hf : part ∈ (splitAt '/' s.toList).filter fun name => name ≠ [] ∧ name ≠ ['.'] :=
    List.mem_filter.mpr ⟨hm, decide_eq_true hn⟩
  have hm := List.mem_map_of_mem (f := String.ofList) hf
  refine ⟨String.ofList part, ?_, by simpa using hp⟩
  unfold ofString
  dsimp only
  split
  case h_4 => exact hm
  all_goals exact List.mem_cons_of_mem _ hm

theorem noNul_of_extend {suffix : String} (h : hasNul (p.extend suffix).toString = false) :
    hasNul p.toString = false := by
  rw [← Bool.not_eq_true, hasNul_iff, mem_toString (by decide) (by decide)] at h ⊢
  refine mt (fun ⟨name, hm, hc⟩ => ?_) h
  cases hl : p.parts.getLast?
  case none =>
    rw [List.getLast?_eq_none_iff.mp hl] at hm
    cases hm
  case some last =>
    have hp : p.parts.dropLast ++ [last] = p.parts := List.dropLast_append_getLast? last hl
    rw [← hp] at hm
    rw [extend, hl]
    rcases List.mem_append.mp hm with hm | hm
    · exact ⟨name, List.mem_append_left _ hm, hc⟩
    · refine ⟨last ++ suffix, List.mem_append_right _ (List.mem_singleton.mpr rfl), ?_⟩
      rw [String.toList_append, ← List.mem_singleton.mp hm]
      exact List.mem_append_left _ hc

end Enunciado.Path

import Enunciado.Json.Printer
import Enunciado.Json.Reader

namespace Enunciado.Json

variable {opening s t cs rest : List Char} {c : Char} {n : Nat}

section Escapes

theorem hexValue?_digitChar (h : n < 16) : hexValue? (Nat.digitChar n) = some n := by
  revert n
  decide

-- Four digits are read as a number, if the text goes on.
theorem codeUnit?_hexDigits (h : n < 0x10000) (c : Char) (s : List Char) :
    ∃ hl, codeUnit? (Text.hexDigits 4 n ++ c :: s) = some (n, ⟨c :: s, hl⟩) := by
  have hd (n : Nat) : hexValue? (Nat.digitChar (n % 16)) = some (n % 16) :=
    hexValue?_digitChar (Nat.mod_lt _ (by decide))
  have hn : ((n / 16 / 16 / 16 % 16 * 16 + n / 16 / 16 % 16) * 16 + n / 16 % 16) * 16 + n % 16 = n := by
    omega
  refine ⟨by simp [Text.hexDigits], ?_⟩
  simp [Text.hexDigits, codeUnit?, hd, hn]

theorem readUnicode_hexDigits (hc : c.toNat < 0x20) (a : Char) (s : List Char) :
    ∃ hl, readUnicode (Text.hexDigits 4 c.toNat ++ a :: s) = .ok (c, ⟨a :: s, hl⟩) := by
  have hu : ofCodeUnit c.toNat = c := by
    rw [ofCodeUnit, if_neg (by omega), Char.ofNat_toNat]
  have ⟨hl, hn⟩ := codeUnit?_hexDigits (n := c.toNat) (by omega) a s
  refine ⟨hl, ?_⟩
  rw [readUnicode, hn]
  dsimp only
  rw [if_neg (by omega), hu]

-- The three ways in which a character is printed.
theorem escapeChar_cases (c : Char) :
    (∃ e ≠ 'u', escaped? e = some c ∧ escapeChar c = ['\\', e]) ∨
    (c.toNat < 0x20 ∧ escapeChar c = '\\' :: 'u' :: Text.hexDigits 4 c.toNat) ∨
    (¬c.toNat < 0x20 ∧ c ≠ '"' ∧ c ≠ '\\' ∧ escapeChar c = [c]) := by
  by_cases hn : c ∈ ['"', '\\', '\n', '\r', '\t', '\x08', '\x0c']
  case pos =>
    refine .inl ?_
    simp only [List.mem_cons, List.not_mem_nil, or_false] at hn
    rcases hn with rfl | rfl | rfl | rfl | rfl | rfl | rfl
    all_goals exact ⟨_, by decide, rfl, rfl⟩
  case neg =>
    simp only [List.mem_cons, List.not_mem_nil, or_false, not_or] at hn
    obtain ⟨hq, hb, h₁, h₂, h₃, h₄, h₅⟩ := hn
    by_cases hc : c.toNat < 0x20
    case pos => exact .inr (.inl ⟨hc, by simp only [escapeChar, *, if_true, if_false]⟩)
    case neg => exact .inr (.inr ⟨hc, hq, hb, by simp only [escapeChar, *, if_false]⟩)

end Escapes

section Strings

-- The characters `cs` are read from `s`, and `t` is left.
def ReadsString (opening s cs t : List Char) : Prop :=
  ∃ h, readString opening s = .ok (cs, ⟨t, h⟩)

theorem ReadsString.named (h : ReadsString opening s cs t) {e : Char}
    (he : escaped? e = some c) (hu : e ≠ 'u') : ReadsString opening ('\\' :: e :: s) (c :: cs) t := by
  have ⟨hl, hs⟩ := h
  refine ⟨by simp; omega, ?_⟩
  rw [readString, he]
  · simp [hs]
  · exact hu

theorem ReadsString.numbered (h : ReadsString opening s cs t) (hc : c.toNat < 0x20) :
    ReadsString opening ('\\' :: 'u' :: Text.hexDigits 4 c.toNat ++ s) (c :: cs) t := by
  have ⟨hl, hs⟩ := h
  cases s
  case nil => contradiction
  case cons a s =>
    have ⟨_, hu⟩ := readUnicode_hexDigits hc a s
    refine ⟨by simp at hl ⊢; omega, ?_⟩
    simp only [List.cons_append]
    rw [readString, hu]
    simp [hs]

theorem ReadsString.plain (h : ReadsString opening s cs t) (hc : ¬c.toNat < 0x20)
    (hq : c ≠ '"') (hb : c ≠ '\\') : ReadsString opening (c :: s) (c :: cs) t := by
  have ⟨hl, hs⟩ := h
  refine ⟨by simp; omega, ?_⟩
  rw [readString, if_neg hc, hs]
  · exact hq
  all_goals
    intros
    contradiction

-- A character is read as it was printed, whatever comes after it.
theorem ReadsString.escapeChar (h : ReadsString opening s cs t) (c : Char) :
    ReadsString opening (Json.escapeChar c ++ s) (c :: cs) t := by
  rcases escapeChar_cases c with ⟨e, hu, he, hw⟩ | ⟨hc, hw⟩ | ⟨hc, hq, hb, hw⟩
  · exact hw ▸ h.named he hu
  · exact hw ▸ h.numbered hc
  · exact hw ▸ h.plain hc hq hb

theorem readsString_flatMap (opening s rest : List Char) :
    ReadsString opening (s.flatMap escapeChar ++ '"' :: rest) s rest := by
  induction s
  case nil =>
    change ReadsString opening ('"' :: rest) [] rest
    exact ⟨by simp, by rw [readString]⟩
  case cons c s hi =>
    rw [List.flatMap_cons, List.append_assoc]
    exact hi.escapeChar c

end Strings

end Enunciado.Json

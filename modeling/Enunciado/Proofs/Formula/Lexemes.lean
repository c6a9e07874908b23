import Enunciado.Proofs.Formula.Grammar

namespace Enunciado

open Text

namespace Lexeme

theorem reserved?_glyph (op : Operator) : reserved? op.glyph = some (operator op) := by
  cases op <;> rfl

theorem reserved?_ne_ending (h : reserved? c = some l) : l ≠ ending := by
  rintro rfl
  cases text_of_reserved? h

theorem isBlank_of_reserved? (h : reserved? c = some l) : isBlank c = false := by
  unfold reserved? at h
  split at h
  case h_10 => contradiction
  all_goals decide

end Lexeme

namespace Token

variable {c : Char} {l : Lexeme} {ls : List Lexeme} {pending s t : List Char}

-- What a character that ends names gives by itself; none if it goes on with a name.
def parting? (c : Char) : Option (List Lexeme) :=
  match Lexeme.reserved? c with
  | some l => some [l]
  | none => if isBlank c then some [] else none

theorem parting?_reserved (h : Lexeme.reserved? c = some l) : parting? c = some [l] := by
  simp [parting?, h]

theorem parting?_other (h : Lexeme.reserved? c = none) (hb : ¬isBlank c) : parting? c = none := by
  simp [parting?, h, hb]

theorem parting?_letter (h : Formula.isLetterName [c]) : parting? c = none := by
  have ⟨ha, hz⟩ : 'a' ≤ c ∧ c ≤ 'z' := by simpa [Formula.isLetterName] using h
  have hr : Lexeme.reserved? c = none := by
    unfold Lexeme.reserved?
    split
    case h_10 => rfl
    all_goals revert ha hz; decide
  have hb : isBlank c = false := by
    have ha : 97 ≤ c.toNat := ha
    have hz : c.toNat ≤ 122 := hz
    simp [isBlank, blanks, covers, show ¬c.toNat ≤ 13 by omega, show ¬c.toNat ≤ 32 by omega,
      show c.toNat ≤ 133 by omega, show ¬133 ≤ c.toNat by omega]
  exact parting?_other hr (by simp [hb])

theorem reserved?_of_mem_parting (h : parting? c = some ls) (hl : l ∈ ls) :
    Lexeme.reserved? c = some l := by
  unfold parting? at h
  split at h
  case h_1 hr =>
    cases h
    exact List.mem_singleton.mp hl ▸ hr
  case h_2 => split at h <;> cases h; cases hl

theorem ending_not_mem_parting (h : parting? c = some ls) : .ending ∉ ls :=
  fun hl => Lexeme.reserved?_ne_ending (reserved?_of_mem_parting h hl) rfl

theorem flatMap_text_parting (h : parting? c = some ls) :
    ls.flatMap (·.text) = [c].filter (!isBlank ·) := by
  unfold parting? at h
  split at h
  case h_1 l hl =>
    cases h
    simp [Lexeme.text_of_reserved? hl, Lexeme.isBlank_of_reserved? hl]
  case h_2 => split at h <;> cases h; simp_all

theorem not_isBlank_of_parting (h : parting? c = none) : isBlank c = false := by
  unfold parting? at h
  split at h
  case h_1 => cases h
  case h_2 => simpa using h

-- The name whose characters have been read so far, last first.
def pendingName : List Char → List Lexeme
  | [] => []
  | pending => [.name pending.reverse]

-- The lexemes of what is left of an expression, with the characters of a name that has begun.
def lexemesFrom (pending : List Char) : List Char → List Lexeme
  | [] => pendingName pending
  | c :: s =>
    match parting? c with
    | some ls => pendingName pending ++ ls ++ lexemesFrom [] s
    | none => lexemesFrom (c :: pending) s

theorem lexemesFrom_parting (h : parting? c = some ls) :
    lexemesFrom pending (c :: s) = pendingName pending ++ ls ++ lexemesFrom [] s := by
  simp [lexemesFrom, h]

theorem lexemesFrom_other (h : parting? c = none) :
    lexemesFrom pending (c :: s) = lexemesFrom (c :: pending) s := by
  simp [lexemesFrom, h]

-- The lexemes of an expression.
def lexemes (s : List Char) : List Lexeme :=
  (tokenize s).dropLast.map (·.lexeme)

theorem map_lexeme_ofPending (i : Nat) (pending : List Char) :
    (ofPending i pending).map (·.lexeme) = pendingName pending := by
  cases pending <;> rfl

theorem scan_parting (h : parting? c = some ls) (i : Nat) (pending s : List Char) :
    scan i pending (c :: s) = ofPending i pending ++ ls.map (⟨·, i⟩) ++ scan (i + 1) [] s := by
  unfold parting? at h
  split at h
  case h_1 l hl =>
    cases h
    simp [scan, hl]
  case h_2 hl =>
    split at h <;> cases h
    case isTrue hb => simp [scan, hl, hb]

theorem scan_other (h : parting? c = none) (i : Nat) (pending s : List Char) :
    scan i pending (c :: s) = scan (i + 1) (c :: pending) s := by
  unfold parting? at h
  split at h
  case h_1 => cases h
  case h_2 hl => simp_all [scan]

theorem map_lexeme_scan (i : Nat) (pending s : List Char) :
    (scan i pending s).map (·.lexeme) = lexemesFrom pending s ++ [.ending] := by
  induction s generalizing i pending
  case nil => simp [scan, lexemesFrom, map_lexeme_ofPending]
  case cons c s hi =>
    cases hc : parting? c
    case some ls =>
      simp [scan_parting hc, lexemesFrom_parting hc, hi, map_lexeme_ofPending, Function.comp_def]
    case none => rw [scan_other hc, lexemesFrom_other hc, hi]

theorem lexemes_eq (s : List Char) : lexemes s = lexemesFrom [] s := by
  rw [lexemes, List.map_dropLast, tokenize, map_lexeme_scan, List.dropLast_concat]

theorem map_lexeme_tokenize (s : List Char) :
    (tokenize s).map (·.lexeme) = lexemes s ++ [.ending] := by
  rw [lexemes_eq]
  exact map_lexeme_scan 0 [] s

theorem ending_not_mem_pendingName : .ending ∉ pendingName pending := by
  cases pending <;> simp [pendingName]

theorem ending_not_mem_lexemesFrom : .ending ∉ lexemesFrom pending s := by
  induction s generalizing pending
  case nil => exact ending_not_mem_pendingName
  case cons c s hi =>
    rw [lexemesFrom]
    split
    case h_1 ls hc => simp [hi, ending_not_mem_pendingName, ending_not_mem_parting hc]
    case h_2 => exact hi

theorem ending_not_mem_lexemes : .ending ∉ lexemes s := by
  rw [lexemes_eq]
  exact ending_not_mem_lexemesFrom

section Joining

-- Where a name ends, the lexemes on either side do not depend on each other.
theorem lexemes_append_parting (h : parting? c = some ls) :
    lexemes (s ++ c :: t) = lexemes s ++ ls ++ lexemes t := by
  have go (pending) :
      lexemesFrom pending (s ++ c :: t) = lexemesFrom pending s ++ ls ++ lexemesFrom [] t := by
    induction s generalizing pending
    case nil => simp [lexemesFrom, h]
    case cons d s hi =>
      simp only [List.cons_append, lexemesFrom]
      split <;> simp [hi]
  simp only [lexemes_eq, go]

theorem lexemes_nil : lexemes [] = [] :=
  rfl

theorem lexemes_denied : lexemes ('¬' :: s) = .operator .not :: lexemes s := by
  have hn : parting? '¬' = some [.operator .not] := rfl
  exact lexemes_append_parting (s := []) hn

theorem lexemes_parenthesized :
    lexemes ('(' :: s ++ [')']) = .opening :: lexemes s ++ [.closing] := by
  have ho : parting? '(' = some [.opening] := rfl
  have hc : parting? ')' = some [.closing] := rfl
  have h : lexemes ('(' :: s) = .opening :: lexemes s := lexemes_append_parting (s := []) ho
  rw [lexemes_append_parting hc, h, lexemes_nil, List.append_nil]

theorem lexemes_joined (op : Operator) :
    lexemes (s ++ [' ', op.glyph, ' '] ++ t) = lexemes s ++ .operator op :: lexemes t := by
  have hb : parting? ' ' = some [] := by decide
  have hg := parting?_reserved (Lexeme.reserved?_glyph op)
  calc lexemes (s ++ [' ', op.glyph, ' '] ++ t)
    _ = lexemes ((s ++ [' ']) ++ op.glyph :: ([] ++ ' ' :: t)) := by simp
    _ = lexemes s ++ .operator op :: lexemes t := by
      simp only [lexemes_append_parting hg, lexemes_append_parting hb, lexemes_nil]
      simp

theorem lexemes_letter (h : Formula.isLetterName s) : lexemes s = [.name s] := by
  match s with
  | [c] => simp [lexemes_eq, lexemesFrom, parting?_letter h, pendingName]

end Joining

section Characters

-- The lexemes hold all characters of the expression but for the blanks.
theorem flatMap_text_lexemes (s : List Char) :
    (lexemes s).flatMap (·.text) = s.filter (!isBlank ·) := by
  have hp (pending) : (pendingName pending).flatMap (·.text) = pending.reverse := by
    cases pending <;> simp [pendingName, Lexeme.text]
  have go (pending) : (lexemesFrom pending s).flatMap (·.text) =
      pending.reverse ++ s.filter (!isBlank ·) := by
    induction s generalizing pending
    case nil => simp [lexemesFrom, hp]
    case cons c s hi =>
      rw [lexemesFrom, List.filter_cons]
      split
      case h_1 ls hc =>
        simp [hp, hi, flatMap_text_parting hc, List.filter_cons]
        split <;> rfl
      case h_2 hc => simp [hi, not_isBlank_of_parting hc]
  rw [lexemes_eq, go]
  rfl

end Characters

end Token

-- Blanks do not count when parentheses are balanced.
theorem balancedFrom_filter (n : Nat) (s : List Char) :
    balancedFrom n (s.filter (!isBlank ·)) = balancedFrom n s := by
  induction s generalizing n
  case nil => rfl
  case cons c s hi =>
    by_cases hb : isBlank c
    case pos =>
      have ho : c ≠ '(' := by rintro rfl; revert hb; decide
      have hc : c ≠ ')' := by rintro rfl; revert hb; decide
      simp [hb, hi, balancedFrom, ho, hc]
    case neg => simp [hb, hi, balancedFrom]

theorem balanced_eq (s : List Char) :
    balanced s = balancedFrom 0 ((Token.lexemes s).flatMap (·.text)) := by
  rw [Token.flatMap_text_lexemes, balancedFrom_filter, balanced]

theorem isVoid_eq (s : List Char) :
    isVoid s = ((Token.lexemes s).flatMap (·.text)).isEmpty := by
  rw [Token.flatMap_text_lexemes, isVoid, Bool.eq_iff_iff]
  simp

end Enunciado

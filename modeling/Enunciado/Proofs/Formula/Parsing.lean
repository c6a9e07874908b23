import Mathlib.Data.List.Basic
import Enunciado.Proofs.Formula.Reading

namespace Enunciado.Formula

open Token

variable {n : Nat} {A : Phrase} {ts : List Lexeme} {c : Char} {s t : List Char} {x : Formula String}

-- All parentheses that the text opens are closed in it, and no others are.
def Closed (s : List Char) : Prop :=
  ∀ n t, balancedFrom n (s ++ t) = balancedFrom n t

namespace Closed

theorem char (ho : c ≠ '(') (hc : c ≠ ')') : Closed [c] :=
  fun n t => by simp [balancedFrom, ho, hc]

theorem glyph (op : Operator) : Closed [op.glyph] := by
  cases op <;> exact char (by decide) (by decide)

theorem letter (h : isLetterName s) : Closed s := by
  match s with
  | [c] =>
    have ha : 'a' ≤ c := (by simpa [isLetterName] using h : 'a' ≤ c ∧ c ≤ 'z').1
    apply char <;> (rintro rfl; revert ha; decide)

theorem append (hs : Closed s) (ht : Closed t) : Closed (s ++ t) :=
  fun n u => by rw [List.append_assoc, hs, ht]

theorem parenthesized (h : Closed s) : Closed (['('] ++ s ++ [')']) :=
  fun n t => by simp [balancedFrom, h (n + 1) (')' :: t)]

theorem balanced (h : Closed s) : balanced s := by
  simpa [Enunciado.balanced, balancedFrom] using h 0 []

end Closed

namespace Derives

theorem closed (h : Derives n A ts x) : Closed (ts.flatMap (·.text)) := by
  induction h using stepwise
  case operand hi => exact hi
  case append op _ _ _ _ _ _ _ _ hx hy =>
    rw [List.flatMap_append]
    exact hx.append ((Closed.glyph op).append hy)
  case denial hi => exact (Closed.glyph .not).append hi
  case primary hi => exact hi
  case group hi => simpa [Lexeme.text] using hi.parenthesized
  case constant b => cases b <;> exact .char (by decide) (by decide)
  case letter hc => simpa [Lexeme.text] using Closed.letter hc

theorem text_ne_nil (h : Derives n A ts x) : ts.flatMap (·.text) ≠ [] := by
  induction h using stepwise
  case operand hi => exact hi
  case append hx _ => simp [hx]
  case primary hi => exact hi
  case constant b => cases b <;> simp [Lexeme.text]
  case letter chars hc =>
    have : chars ≠ [] := by rintro rfl; contradiction
    simpa [Lexeme.text]
  all_goals simp [Lexeme.text]

end Derives

theorem ofTokens_tokenize_eq_ok_iff :
    ofTokens (tokenize s) = .ok x ↔ Derives maxNesting .expression (lexemes s) x := by
  constructor
  case mp =>
    intro h
    unfold ofTokens at h
    split at h
    · contradiction
    case h_2 y t r _ hr =>
      split at h <;> cases h
      case isTrue ht =>
      obtain ⟨us, hus, hd⟩ := (Returns.of_readTier hr).sound .expression rfl (by decide)
      rw [map_lexeme_tokenize, List.map_cons, ht] at hus
      have := (List.append_cons_inj_of_notMem ending_not_mem_lexemes (by simp)).mp hus
      exact this.1 ▸ hd
    case h_3 hr =>
      obtain ⟨us, hus, hd⟩ := (Returns.of_readTier hr).sound .expression rfl (by decide)
      have hm : Lexeme.ending ∈ us := by
        rw [map_lexeme_tokenize, List.map_nil, List.append_nil] at hus
        simp [← hus]
      exact absurd hm hd.ending_not_mem
  case mpr =>
    intro h
    have hs : Stops .expression [.ending] := by simp [Stops]
    obtain ⟨r, hr, h⟩ := h.returns (m := 0) (by simp) hs (map_lexeme_tokenize s)
    obtain ⟨t, r', hr', ht, _⟩ := List.map_eq_cons_iff.mp hr
    obtain ⟨_, h⟩ := h.readTier
    subst hr'
    rw [show Phrase.expression.operators = tiers from rfl] at h
    simp only [ofTokens, h, ht, if_true]

-- Of an expression with a derivation, only the depth of its formula is left to be checked.
theorem parse_of_derives (h : Derives maxNesting .expression (lexemes e.toList) x) :
    parse e = if x.depth ≤ maxDepth then .ok x else .error .tooDeep := by
  have hv : Text.isVoid e.toList = false := by simp [isVoid_eq, h.text_ne_nil]
  have hb : balanced e.toList = true := by
    rw [balanced_eq]
    exact h.closed.balanced
  simp [parse, ofChars, hv, hb, ofTokens_tokenize_eq_ok_iff.mpr h]

theorem derives_of_parse (h : parse e = .ok x) :
    Derives maxNesting .expression (lexemes e.toList) x ∧ x.depth ≤ maxDepth := by
  unfold parse ofChars at h
  split at h
  case isTrue => contradiction
  case isFalse =>
    split at h
    case isFalse => contradiction
    case isTrue =>
      split at h
      case h_1 => contradiction
      case h_2 y hy =>
        split at h <;> cases h
        case isTrue hd => exact ⟨ofTokens_tokenize_eq_ok_iff.mp hy, hd⟩

theorem parse_eq_ok_iff :
    parse e = .ok x ↔
      Derives maxNesting .expression (lexemes e.toList) x ∧ x.depth ≤ maxDepth := by
  refine ⟨derives_of_parse, fun ⟨h, hd⟩ => ?_⟩
  rw [parse_of_derives h, if_pos hd]

theorem parse_eq_ok_iff_of_derives (h : Derives maxNesting .expression (lexemes e.toList) x) :
    parse e = .ok y ↔ y = x ∧ y.depth ≤ maxDepth := by
  rw [parse_of_derives h]
  split
  case isTrue hx =>
    constructor
    case mp =>
      rintro ⟨rfl⟩
      exact ⟨rfl, hx⟩
    case mpr =>
      rintro ⟨rfl, -⟩
      rfl
  case isFalse hx =>
    constructor
    case mp => exact nofun
    case mpr =>
      rintro ⟨rfl, hy⟩
      contradiction

theorem parse_iff_derives_within_limits :
    (∀ e x, parse e = .ok x ↔
      Derives maxNesting .expression (lexemes e.toList) x ∧ x.depth ≤ maxDepth) ∧
    (∀ e, (¬∃ x, Derives maxNesting .expression (lexemes e.toList) x ∧ x.depth ≤ maxDepth) →
      ∃ error, parse e = .error error) ∧
    (∀ e op, ∀ first : Operand, ∀ rest : List Operand, op ≠ .not →
      (∀ p ∈ first :: rest, Derives (maxNesting - 1) .expression p.1 p.2) →
      lexemes e.toList = (first.grouped.join op (rest.map (·.grouped))).1 →
      ∀ x, parse e = .ok x ↔
        x = (first.grouped.join op (rest.map (·.grouped))).2 ∧ x.depth ≤ maxDepth) := by
  refine ⟨fun e x => parse_eq_ok_iff, fun e h => ?_, fun e op first rest hop hp he x => ?_⟩
  case refine_1 =>
    cases he : parse e
    case error error => exact ⟨error, rfl⟩
    case ok x => exact absurd ⟨x, parse_eq_ok_iff.mp he⟩ h
  case refine_2 =>
    have hd := Derives.join_grouped hop hp
    exact parse_eq_ok_iff_of_derives (he ▸ hd)

theorem parse_two_groups :
    (∃ error, parse "p ∧ (q" = .error error) ∧
    parse "((p)) → (¬q)" = .ok (.binary .implies (.var "p") (.unary .not (.var "q"))) := by
  constructor
  case left =>
    refine parse_iff_derives_within_limits.2.1 _ fun ⟨x, hx⟩ => ?_
    have he : parse "p ∧ (q" = .error .unbalanced := by cbv
    cases he.symm.trans (parse_eq_ok_iff.mpr hx)
  case right =>
    let first : Operand := ([.opening, .name ['p'], .closing], .var "p")
    let second : Operand := ([.operator .not, .name ['q']], .unary .not (.var "q"))
    have hp : ∀ p ∈ [first, second], Derives (maxNesting - 1) .expression p.1 p.2 := by
      simp only [List.mem_cons, List.not_mem_nil, or_false]
      rintro p (rfl | rfl)
      · have hl : Derives 48 .primary [.name ['p']] (.var "p") := .letter rfl
        have hd : Derives 48 .expression [.name ['p']] (.var "p") :=
          hl.loosen Phrase.precedence_le_primary
        exact .loosen (.group hd) Phrase.precedence_le_primary
      · have hd : Derives 49 .negation [.operator .not, .name ['q']] (.unary .not (.var "q")) :=
          .denial (.primary (.letter rfl))
        exact .loosen hd Phrase.precedence_pos
    have hs : lexemes "((p)) → (¬q)".toList = (first.grouped.join .implies [second.grouped]).1 := by
      decide
    have hg := parse_iff_derives_within_limits.2.2 _ .implies first [second] (by decide) hp hs
    exact (hg _).mpr ⟨rfl, by cbv⟩

end Enunciado.Formula

import Mathlib.Data.List.Infix
import Enunciado.Proofs.Formula.Failure

namespace Enunciado

section Characters

variable {m n : Nat} {c : Char} {s : List Char}

-- The text closes all parentheses that it opens and `n` more that are open before it, and nowhere
-- one that is not open.
structure BalancesFrom (n : Nat) (s : List Char) : Prop where
  opened : ∀ p, p <+: s → p.count ')' ≤ n + p.count '('
  closed : s.count ')' = n + s.count '('

theorem balancesFrom_nil : BalancesFrom n [] ↔ n = 0 := by
  refine ⟨fun h => by simpa using h.closed.symm, ?_⟩
  rintro rfl
  exact ⟨fun p hp => by simp [List.prefix_nil.mp hp], rfl⟩

-- What is open behind the first character has to be closed in what follows.
theorem balancesFrom_cons (h : m + [c].count ')' = n + [c].count '(') :
    BalancesFrom n (c :: s) ↔ BalancesFrom m s := by
  have hc (p : List Char) :
      (c :: p).count ')' + (m + p.count '(') = p.count ')' + (n + (c :: p).count '(') := by
    rw [← List.singleton_append, List.count_append, List.count_append]
    omega
  constructor
  case mp =>
    refine fun hb => ⟨fun p hp => ?_, ?_⟩
    case refine_1 =>
      have := hb.opened (c :: p) (List.cons_prefix_cons.mpr ⟨rfl, hp⟩)
      have := hc p
      omega
    case refine_2 =>
      have := hb.closed
      have := hc s
      omega
  case mpr =>
    refine fun hb => ⟨fun p hp => ?_, ?_⟩
    case refine_1 =>
      obtain rfl | ⟨q, rfl, hq⟩ := List.prefix_cons_iff.mp hp
      case inl => simp
      case inr =>
        have := hb.opened q hq
        have := hc q
        omega
    case refine_2 =>
      have := hb.closed
      have := hc s
      omega

theorem balancedFrom_iff (n : Nat) (s : List Char) : balancedFrom n s ↔ BalancesFrom n s := by
  fun_induction balancedFrom n s
  case case1 n => simp [balancesFrom_nil]
  case case2 n s hi => rw [hi, balancesFrom_cons rfl]
  case case3 s _ => exact ⟨nofun, fun h => absurd (h.opened [')'] (by simp)) (by decide)⟩
  case case4 s n _ hi => rw [hi, balancesFrom_cons rfl]
  case case5 n c s ho hc hi => rw [hi, balancesFrom_cons (m := n) (by simp [ho, hc])]

theorem balanced_iff :
    balanced s ↔ (∀ p, p <+: s → p.count ')' ≤ p.count '(') ∧ s.count ')' = s.count '(' := by
  rw [balanced, balancedFrom_iff]
  refine ⟨fun h => ⟨fun p hp => ?_, ?_⟩, fun h => ⟨fun p hp => ?_, ?_⟩⟩
  · simpa using h.opened p hp
  · simpa using h.closed
  · simpa using h.1 p hp
  · simpa using h.2

end Characters

namespace Formula

open Token Place

section Places

variable {p q : Place} {l : Lexeme} {ls : List Lexeme}

namespace Place

-- How many parentheses are open at the place.
def unclosed (p : Place) : Nat :=
  p.opened.count .parenthesis

theorem unclosed_afterOperand (marks : List Mark) :
    (afterOperand marks).unclosed = marks.count .parenthesis := by
  induction marks
  case nil => rfl
  case cons mark marks hi =>
    cases mark
    case parenthesis => rfl
    case negation => simpa [unclosed, afterOperand] using hi

end Place

theorem count_letter {chars : List Char} {c : Char} (h : isLetterName chars) (hc : c < 'a') :
    chars.count c = 0 := by
  match chars with
  | [d] =>
    have hd : 'a' ≤ d := (by simpa [isLetterName] using h : 'a' ≤ d ∧ d ≤ 'z').1
    refine List.count_eq_zero.mpr fun hm => ?_
    cases List.mem_singleton.mp hm
    exact absurd hc (Char.not_lt.mpr hd)

-- A lexeme opens and closes at a place just the parentheses in its text.
theorem Place.Next.unclosed (h : Next p l q) :
    q.unclosed + l.text.count ')' = p.unclosed + l.text.count '(' := by
  cases h
  case letter chars hc =>
    have ho : chars.count '(' = 0 := count_letter hc (by decide)
    have hc : chars.count ')' = 0 := count_letter hc (by decide)
    rw [unclosed_afterOperand, Lexeme.text, ho, hc]
    rfl
  case constant b =>
    rw [unclosed_afterOperand]
    cases b <;> rfl
  case connective op _ => cases op <;> rfl
  case closing =>
    rw [unclosed_afterOperand]
    simp [Place.unclosed, Lexeme.text]
  all_goals simp [Place.unclosed, Lexeme.text, Operator.glyph]

theorem Place.reach?_unclosed (h : p.reach? ls = some q) :
    q.unclosed + (ls.flatMap (·.text)).count ')' =
      p.unclosed + (ls.flatMap (·.text)).count '(' := by
  induction ls generalizing p
  case nil =>
    cases h
    rfl
  case cons l ls hi =>
    rw [reach?_cons, Option.bind_eq_some_iff] at h
    obtain ⟨p', hn, hr⟩ := h
    have hn := (next_of_next? hn).unclosed
    have hr := hi hr
    rw [List.flatMap_cons, List.count_append, List.count_append]
    omega

end Places

section Errors

variable {e : String} {s : List Char} {t : Token} {p q : Place} {r : List Token}

theorem IsExpression.balanced (h : IsExpression (lexemes s)) : balanced s := by
  obtain ⟨n, x, h⟩ := h
  rw [balanced_eq]
  exact h.closed.balanced

theorem balancesFrom_lexemes (hb : balanced s) :
    BalancesFrom 0 ((lexemes s).flatMap (·.text)) := by
  rwa [balanced_eq, balancedFrom_iff] at hb

-- No parenthesis is open behind all lexemes of a balanced text.
theorem unclosed_of_balanced (hb : balanced s) (h : start.reach? (lexemes s) = some q) :
    q.unclosed = 0 := by
  have hc : _ = 0 + _ := (balancesFrom_lexemes hb).closed
  have hq : q.unclosed + _ = 0 + _ := reach?_unclosed h
  omega

-- The lexemes before a token, unless it is the ending, lead where its tokens do.
theorem Leads.reach?_before (h : Leads p (tokenize s) q (t :: r)) (ht : t.lexeme ≠ .ending) :
    ∃ us, us ++ [t.lexeme] <+: lexemes s ∧ p.reach? us = some q := by
  obtain ⟨us, hus, hr⟩ := h.lexemes_eq
  have hp : us ++ [t.lexeme] <+: lexemes s ++ [.ending] := ⟨r.map (·.lexeme), by simp [hus]⟩
  refine ⟨us, (List.prefix_concat_iff.mp hp).resolve_left fun he => ht ?_, hr⟩
  exact List.singleton_inj.mp (List.append_inj' he rfl).2

-- Where no parenthesis is open, a balanced text does not close one.
theorem Leads.ne_closing (hb : balanced s) (h : Leads start (tokenize s) q (t :: r))
    (hq : q.unclosed = 0) : t.lexeme ≠ .closing := by
  intro ht
  obtain ⟨us, hp, hr⟩ := h.reach?_before (by simp [ht])
  have ho := (balancesFrom_lexemes hb).opened _ (hp.flatMap (·.text))
  have hc : q.unclosed + _ = 0 + _ := reach?_unclosed hr
  have hv (c : Char) : ((us ++ [t.lexeme]).flatMap (·.text)).count c =
      (us.flatMap (·.text)).count c + [')'].count c := by
    rw [ht, List.flatMap_append, List.count_append]
    rfl
  have : [')'].count ')' = 1 ∧ [')'].count '(' = 0 := by decide
  have := hv ')'
  have := hv '('
  omega

theorem Fails.noClosing_ne_ending (hb : balanced s)
    (h : Fails start (tokenize s) (.noClosing t)) : t.lexeme ≠ .ending := by
  intro ht
  obtain ⟨q, r, hl, he⟩ := h
  match he with
  | .noClosing _ => simpa [unclosed] using unclosed_of_balanced hb (hl.reach?_of_ending ht)

theorem Fails.trailing_ne_closing (hb : balanced s)
    (h : Fails start (tokenize s) (.trailing t)) : t.lexeme ≠ .closing := by
  obtain ⟨q, r, hl, he⟩ := h
  match he with
  | .trailing _ => exact hl.ne_closing hb rfl

-- No error is left for a parenthesis that is missing at the end or closes nothing: the check has
-- refused such texts, and nothing that is derived.
theorem balanced_decides_parentheses (e : String) :
    (balanced e.toList ↔ (∀ p, p <+: e.toList → p.count ')' ≤ p.count '(') ∧
      e.toList.count ')' = e.toList.count '(') ∧
    (IsExpression (lexemes e.toList) → balanced e.toList) ∧
    (¬Text.isVoid e.toList → ¬balanced e.toList → parse e = .error .unbalanced) ∧
    (balanced e.toList →
      (∀ t, parse e = .error (.noClosing t) →
        t.lexeme ≠ .ending ∧ (SyntaxError.noClosing t).token? = some t) ∧
      (∀ t, parse e = .error (.trailing t) → t.lexeme ≠ .closing) ∧
      (parse e = .error .unexpectedEnd →
        ∃ marks, start.reach? (lexemes e.toList) = some ⟨marks, false⟩ ∧
          .parenthesis ∉ marks)) := by
  refine ⟨balanced_iff, IsExpression.balanced, fun hv hb => ?_, fun hb => ⟨?_, ?_, ?_⟩⟩
  case refine_1 => rw [parse, ofChars, if_neg hv, if_neg hb]
  case refine_2 =>
    intro t h
    have ht := (fails_of_parse h (by simp)).2.noClosing_ne_ending hb
    exact ⟨ht, if_neg ht⟩
  case refine_3 =>
    intro t h
    exact (fails_of_parse h (by simp)).2.trailing_ne_closing hb
  case refine_4 =>
    intro h
    obtain ⟨marks, hm⟩ := (fails_of_parse h (by simp)).2.reach?_of_unexpectedEnd
    exact ⟨marks, hm, List.count_eq_zero.mp (unclosed_of_balanced hb hm)⟩

theorem parentheses_of_balanced :
    let t : Token := ⟨.name ['q'], 3⟩
    let u : Token := ⟨.name ['q'], 4⟩
    balanced "(p)".toList ∧ parse "((p)" = .error .unbalanced ∧
      (parse "(p q)" = .error (.noClosing t) ∧ (SyntaxError.noClosing t).token? = some t) ∧
      (parse "(p) q" = .error (.trailing u) ∧ u.lexeme ≠ .closing) ∧
      parse "(p) ∧ ¬" = .error .unexpectedEnd ∧
        ∃ marks, start.reach? (lexemes "(p) ∧ ¬".toList) = some ⟨marks, false⟩ ∧
          .parenthesis ∉ marks := by
  intro t u
  have hp : Derives 0 .primary [.name ['p']] _ := .letter rfl
  have hg : IsExpression (lexemes "(p)".toList) :=
    ⟨1, _, .loosen (.group (hp.loosen (by decide))) (by decide)⟩
  have ht : parse "(p q)" = .error (.noClosing t) := by cbv
  have hu : parse "(p) q" = .error (.trailing u) := by cbv
  have he : parse "(p) ∧ ¬" = .error .unexpectedEnd := by cbv
  refine ⟨(balanced_decides_parentheses _).2.1 hg, ?_, ⟨ht, ?_⟩, ⟨hu, ?_⟩, he, ?_⟩
  · exact (balanced_decides_parentheses "((p)").2.2.1 (by decide) (by decide)
  · exact ((balanced_decides_parentheses _).2.2.2 (by decide)).1 t ht |>.2
  · exact ((balanced_decides_parentheses _).2.2.2 (by decide)).2.1 u hu
  · exact ((balanced_decides_parentheses _).2.2.2 (by decide)).2.2 he

end Errors

end Formula

end Enunciado

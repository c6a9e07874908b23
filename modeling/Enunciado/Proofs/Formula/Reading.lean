import Enunciado.Proofs.Formula.Lexemes
import Enunciado.Proofs.Formula.Readers

namespace Enunciado.Formula

open Token

variable {m n : Nat} {A B : Phrase} {op : Operator} {t u : Token} {ts r r' : List Token}
variable {us vs : List Lexeme} {x y left : Formula String} {R : Reader}

section Soundness

-- The tokens `ts` begin with a phrase `A` that stands for `x`, derived within what may still be
-- opened where `m` parentheses and negations are open, and `r` is what follows it.
def Begins (m : Nat) (A : Phrase) (ts : List Token) (x : Formula String) (r : List Token) : Prop :=
  ∃ us, ts.map (·.lexeme) = us ++ r.map (·.lexeme) ∧ Derives (maxNesting - m) A us x

-- The same of the rest of a phrase of which the lexemes `us` have been read.
def Continues (m : Nat) (A : Phrase) (us : List Lexeme) (ts : List Token) (x : Formula String)
    (r : List Token) : Prop :=
  ∃ vs, ts.map (·.lexeme) = vs ++ r.map (·.lexeme) ∧ Derives (maxNesting - m) A (us ++ vs) x

namespace Begins

theorem chain (hA : A.chain? = some (op, B)) (h₁ : Begins m B ts left r)
    (h₂ : ∀ us, Derives (maxNesting - m) A us left → Continues m A us r x r') :
    Begins m A ts x r' := by
  have ⟨us, hus, hd⟩ := h₁
  have ⟨vs, hvs, hd'⟩ := h₂ us (hd.operand hA)
  exact ⟨us ++ vs, by simp [hus, hvs], hd'⟩

theorem denial (ht : t.lexeme = .operator .not) (hm : m < maxNesting)
    (h : Begins (m + 1) .negation ts x r) : Begins m .negation (t :: ts) (.unary .not x) r := by
  have ⟨us, hus, hd⟩ := h
  have hn : maxNesting - m = maxNesting - (m + 1) + 1 := by omega
  exact ⟨.operator .not :: us, by simp [ht, hus], hn ▸ .denial hd⟩

theorem primary (h : Begins m .primary ts x r) : Begins m .negation ts x r := by
  have ⟨us, hus, hd⟩ := h
  exact ⟨us, hus, .primary hd⟩

theorem group (ht : t.lexeme = .opening) (hu : u.lexeme = .closing) (hm : m < maxNesting)
    (h : Begins (m + 1) .expression ts x (u :: r)) : Begins m .primary (t :: ts) x r := by
  have ⟨us, hus, hd⟩ := h
  have hn : maxNesting - m = maxNesting - (m + 1) + 1 := by omega
  exact ⟨.opening :: us ++ [.closing], by simp [ht, hus, hu], hn ▸ .group hd⟩

end Begins

namespace Continues

theorem stop (h : Derives (maxNesting - m) A us x) : Continues m A us ts x ts :=
  ⟨[], by simpa using h⟩

theorem next (hA : A.chain? = some (op, B)) (ht : t.lexeme = .operator op)
    (hx : Derives (maxNesting - m) A us left) (hy : Begins m B ts y r)
    (h : ∀ us, Derives (maxNesting - m) A us (.binary op left y) → Continues m A us r x r') :
    Continues m A us (t :: ts) x r' := by
  have ⟨vs, hvs, hd⟩ := hy
  have ⟨ws, hws, hd'⟩ := h _ (hx.append hA hd)
  exact ⟨.operator op :: vs ++ ws, by simp [ht, hvs, hws], by simpa using hd'⟩

end Continues

-- What the reader returns is derived: a phrase with its connectives, or the rest of a chain.
def Reader.Sound (m : Nat) (ts : List Token) (x : Formula String) (r : List Token) :
    Reader → Prop
  | tier ops => ∀ A : Phrase, A.operators = ops → A ≠ .primary → Begins m A ts x r
  | chain op ops left => ∀ (A B : Phrase) us, A.chain? = some (op, B) → B.operators = ops →
    Derives (maxNesting - m) A us left → Continues m A us ts x r
  | negation => Begins m .negation ts x r
  | primary => Begins m .primary ts x r

theorem Returns.sound (h : Returns m R ts x r) : R.Sound m ts x r := by
  induction h
  case bottom hi =>
    intro A hA hp
    have hA : A = .negation := by cases A <;> simp_all [Phrase.operators]
    exact hA ▸ hi
  case tier hi₁ hi₂ =>
    intro A hA hp
    have ⟨B, hB, hops, hBp⟩ := Phrase.chain?_of_operators hA
    exact .chain hB (hi₁ B hops hBp) fun us hd => hi₂ A B us hB hops hd
  case stop => exact fun A B us _ _ hd => .stop hd
  case next ht _ _ hi₁ hi₂ =>
    intro A B us hA hB hd
    have hBp := (Phrase.chain?_ne_primary hA).2
    exact .next hA ht hd (hi₁ B hB hBp) fun us hd' => hi₂ A B us hA hB hd'
  case denial ht hm _ hi => exact .denial ht hm hi
  case primary hi => exact .primary hi
  case group ht hu hm _ hi => exact .group ht hu hm (hi .expression rfl (by decide))
  case constant ht => exact ⟨[.constant _], by simp [ht], .constant⟩
  case letter ht hc => exact ⟨[.name _], by simp [ht], .letter hc⟩

end Soundness

section Completeness

-- The reader of the phrase.
def Phrase.reader : Phrase → Reader
  | primary => .primary
  | A => .tier A.operators

theorem Phrase.reader_of_chain? (hA : A.chain? = some (op, B)) :
    A.reader = .tier (op :: B.operators) ∧ B.reader = .tier B.operators := by
  cases A <;> cases hA <;> exact ⟨rfl, rfl⟩

-- No chain in the phrase `A` goes on with the lexemes.
def Stops (A : Phrase) (vs : List Lexeme) : Prop :=
  ∀ op ∈ A.operators, vs.head? ≠ some (.operator op)

theorem Stops.operand (hA : A.chain? = some (op, B)) (h : Stops A vs) : Stops B vs :=
  fun op' hop => h op' (by simp [Phrase.chain?_operators hA, hop])

theorem Stops.rest (hA : A.chain? = some (op, B)) (h : Stops A vs)
    (rest : List Operand) :
    Stops B (rest.flatMap (fun p => .operator op :: p.1) ++ vs) := by
  cases rest
  case nil => exact h.operand hA
  case cons p rest =>
    rintro op' hop heq
    cases heq
    exact Phrase.chain?_not_mem_operators hA hop

-- All operands of a chain are read, if each of them is read wherever it is not continued.
theorem Returns.chain_operands {rest : List Operand} (left : Formula String)
    (hA : A.chain? = some (op, B)) (hvs : Stops A vs)
    (hts : ts.map (·.lexeme) = rest.flatMap (fun p => .operator op :: p.1) ++ vs)
    (h : ∀ p ∈ rest, ∀ ts vs, ts.map (·.lexeme) = p.1 ++ vs → Stops B vs →
      ∃ r, r.map (·.lexeme) = vs ∧ Returns m (.tier B.operators) ts p.2 r) :
    ∃ r, r.map (·.lexeme) = vs ∧ Returns m (.chain op B.operators left) ts
      (rest.foldl (fun left p => .binary op left p.2) left) r := by
  induction rest generalizing left ts
  case nil =>
    have hts : ts.map (·.lexeme) = vs := by simpa using hts
    refine ⟨ts, hts, .stop fun t ht hop => hvs op (by simp [Phrase.chain?_operators hA]) ?_⟩
    simp [← hts, Option.mem_def.mp ht, hop]
  case cons p rest hi =>
    simp only [List.flatMap_cons, List.cons_append, List.append_assoc] at hts
    have ⟨t, ts', hts', ht, hr⟩ := List.map_eq_cons_iff.mp hts
    subst hts'
    have ⟨r, hr, h₁⟩ := h p (by simp) _ _ hr (hvs.rest hA rest)
    have ⟨r', hr', h₂⟩ := hi (.binary op left p.2) hr fun q hq => h q (by simp [hq])
    exact ⟨r', hr', .next ht h₁ h₂⟩

namespace Derives

theorem primary_head (h : Derives n .primary us x) : ∃ l ls, us = l :: ls ∧ l ≠ .operator .not := by
  cases h
  case chain hA => simp [Phrase.chain?] at hA
  case group => exact ⟨_, _, rfl, by simp⟩
  case constant => exact ⟨_, _, rfl, by simp⟩
  case letter => exact ⟨_, _, rfl, by simp⟩

theorem returns (h : Derives n A us x) (hm : m + n ≤ maxNesting) (hvs : Stops A vs)
    (hts : ts.map (·.lexeme) = us ++ vs) :
    ∃ r, r.map (·.lexeme) = vs ∧ Returns m A.reader ts x r := by
  induction h generalizing m ts vs
  case chain op _ us x rest hA hx hrest hi hr =>
    obtain ⟨hAr, hBr⟩ := Phrase.reader_of_chain? hA
    rw [hBr] at hi hr
    have hts : ts.map (·.lexeme) = us ++ (rest.flatMap (fun p => .operator op :: p.1) ++ vs) := by
      simpa using hts
    have ⟨r, hr₁, h₁⟩ := hi hm (hvs.rest hA rest) hts
    have ⟨r', hr₂, h₂⟩ :=
      Returns.chain_operands x hA hvs hr₁ fun p hp ts vs hts hvs => hr p hp hm hvs hts
    exact ⟨r', hr₂, hAr ▸ .tier h₁ h₂⟩
  case denial hi =>
    have ⟨t, ts', hts', ht, hr⟩ := List.map_eq_cons_iff.mp hts
    have ⟨r, hr, .bottom h⟩ := hi (m := m + 1) (by omega) hvs hr
    exact ⟨r, hr, hts' ▸ .bottom (.denial ht (by omega) h)⟩
  case primary h hi =>
    have ⟨l, ls, hl, hn⟩ := h.primary_head
    subst hl
    have ⟨t, ts', hts', ht, hr⟩ := List.map_eq_cons_iff.mp hts
    have ⟨r, hr, h⟩ := hi hm hvs hts
    subst hts'
    exact ⟨r, hr, .bottom (.primary (ht ▸ hn) h)⟩
  case group us x h hi =>
    have ⟨t, ts', hts', ht, hr⟩ := List.map_eq_cons_iff.mp hts
    have hr : ts'.map (·.lexeme) = us ++ .closing :: vs := by simpa using hr
    have ⟨r, hr, h⟩ := hi (m := m + 1) (by omega) (by simp [Stops]) hr
    have ⟨u, r', hr', hu, hv⟩ := List.map_eq_cons_iff.mp hr
    subst hts' hr'
    exact ⟨r', hv, .group ht hu (by omega) h⟩
  case constant =>
    have ⟨t, ts', hts', ht, hr⟩ := List.map_eq_cons_iff.mp hts
    exact ⟨ts', hr, hts' ▸ .constant ht⟩
  case letter hc =>
    have ⟨t, ts', hts', ht, hr⟩ := List.map_eq_cons_iff.mp hts
    exact ⟨ts', hr, hts' ▸ .letter ht hc⟩

end Derives

end Completeness

end Enunciado.Formula

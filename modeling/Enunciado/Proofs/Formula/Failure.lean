import Enunciado.Proofs.Formula.Beginning
import Enunciado.Proofs.Formula.Parsing

namespace Enunciado.Formula

open Token Place

-- The error that is found at a place, with the tokens that are left there.
inductive Halts : Place → List Token → SyntaxError → Prop
  -- Not after the tokens of an expression, which have the ending at their end.
  | exhausted {p} : Halts p [] .unexpectedEnd
  | ending {marks t ts} : t.lexeme = .ending → Halts ⟨marks, false⟩ (t :: ts) .unexpectedEnd
  | nested {marks t ts} :
    t.lexeme = .opening ∨ t.lexeme = .operator .not → marks.length = maxNesting →
    Halts ⟨marks, false⟩ (t :: ts) (.tooNested t)
  | badName {marks t ts} :
    operand? marks t.lexeme = none → Halts ⟨marks, false⟩ (t :: ts) (.badName t)
  | unexpected {marks t ts} :
    operand? marks t.lexeme = none → Halts ⟨marks, false⟩ (t :: ts) (.unexpected t)
  | noClosing {marks t ts} :
    connective? (.parenthesis :: marks) t.lexeme = none →
    Halts ⟨.parenthesis :: marks, true⟩ (t :: ts) (.noClosing t)
  | trailing {t ts} : connective? [] t.lexeme = none → Halts ⟨[], true⟩ (t :: ts) (.trailing t)

variable {m : Nat} {op : Operator} {ops : List Operator} {t u : Token} {ts r r' : List Token}
variable {p q q' : Place} {marks : List Mark} {l : Lexeme} {x : Formula String} {R : Reader}

section Places

-- The tokens `ts` lead from the place `p` to the place `q`, where the tokens `r` are left.
def Leads (p : Place) (ts : List Token) (q : Place) (r : List Token) : Prop :=
  ∃ us, ts = us ++ r ∧ p.reach? (us.map (·.lexeme)) = some q

namespace Leads

theorem refl (p : Place) (ts : List Token) : Leads p ts p ts :=
  ⟨[], rfl, rfl⟩

theorem trans (h : Leads p ts q r) (h' : Leads q r q' r') : Leads p ts q' r' := by
  obtain ⟨us, rfl, hu⟩ := h
  obtain ⟨vs, rfl, hv⟩ := h'
  exact ⟨us ++ vs, by simp, by rw [List.map_append, reach?_trans hu, hv]⟩

theorem step (h : p.next? t.lexeme = some q) : Leads p (t :: ts) q ts :=
  ⟨[t], rfl, by rw [List.map_singleton, reach?_cons, h]; rfl⟩

theorem opening (ht : t.lexeme = .opening) :
    Leads ⟨marks, false⟩ (t :: ts) ⟨.parenthesis :: marks, false⟩ ts :=
  step (ht ▸ rfl)

theorem denial (ht : t.lexeme = .operator .not) :
    Leads ⟨marks, false⟩ (t :: ts) ⟨.negation :: marks, false⟩ ts :=
  step (ht ▸ rfl)

theorem connective (ht : t.lexeme = .operator op) (ho : op ≠ .not) :
    Leads ⟨marks, true⟩ (t :: ts) ⟨marks, false⟩ ts :=
  step (ht ▸ next?_connective ho marks)

theorem closing (ht : t.lexeme = .closing) :
    Leads ⟨.parenthesis :: marks, true⟩ (t :: ts) (afterOperand marks) ts :=
  step (ht ▸ rfl)

end Leads

-- The error is found at a place to which the tokens lead.
def Fails (p : Place) (ts : List Token) (e : SyntaxError) : Prop :=
  ∃ q r, Leads p ts q r ∧ Halts q r e

theorem Leads.fails (h : Leads p ts q r) (h' : Fails q r e) : Fails p ts e := by
  obtain ⟨q', r', hl, he⟩ := h'
  exact ⟨q', r', h.trans hl, he⟩

theorem Halts.fails (h : Halts p ts e) : Fails p ts e :=
  ⟨p, ts, .refl p ts, h⟩

-- No connective among `ops` comes next.
def Past (ops : List Operator) (ts : List Token) : Prop :=
  ∀ t ∈ ts.head?, ∀ op ∈ ops, t.lexeme ≠ .operator op

-- Behind an operand only a connective can follow, or what closes a parenthesis that is open.
theorem connective?_eq_none (h : ∀ op ∈ tiers, l ≠ .operator op)
    (hc : l = .closing → marks = []) : connective? marks l = none := by
  cases l
  case operator op =>
    have ho : op = .not := by
      by_contra ho
      exact h op (by cases op <;> simp [tiers] at ho ⊢) rfl
    exact if_pos ho
  case closing =>
    cases hc rfl
    rfl
  all_goals rfl

end Places

section Success

-- Where the tokens that the reader takes lead, and which connectives do not come behind them.
def Reader.LeadsOn (ts r : List Token) : Reader → Prop
  | tier ops => (∀ op ∈ ops, op ≠ .not) → ∀ marks, Settled marks →
    Leads ⟨marks, false⟩ ts ⟨marks, true⟩ r ∧ Past ops r
  | chain op ops _ => (∀ o ∈ op :: ops, o ≠ .not) → Past ops ts → ∀ marks, Settled marks →
    Leads ⟨marks, true⟩ ts ⟨marks, true⟩ r ∧ Past (op :: ops) r
  | negation | primary => ∀ marks, Leads ⟨marks, false⟩ ts (afterOperand marks) r

theorem Returns.leadsOn (h : Returns m R ts x r) : R.LeadsOn ts r := by
  induction h
  case bottom hi =>
    intro _ marks hm
    exact ⟨hm.afterOperand ▸ hi marks, fun _ _ _ => by simp⟩
  case tier hi₁ hi₂ =>
    intro ho marks hm
    obtain ⟨hl, hp⟩ := hi₁ (List.forall_mem_cons.mp ho).2 marks hm
    obtain ⟨hl', hp'⟩ := hi₂ ho hp marks hm
    exact ⟨hl.trans hl', hp'⟩
  case stop ht =>
    intro _ hp marks _
    exact ⟨.refl _ _, fun t h => List.forall_mem_cons.mpr ⟨ht t h, hp t h⟩⟩
  case next ht _ _ hi₁ hi₂ =>
    intro ho _ marks hm
    obtain ⟨hop, hops⟩ := List.forall_mem_cons.mp ho
    obtain ⟨hl, hp⟩ := hi₁ hops marks hm
    obtain ⟨hl', hp'⟩ := hi₂ ho hp marks hm
    exact ⟨(Leads.connective ht hop).trans (hl.trans hl'), hp'⟩
  case denial ht _ _ hi => exact fun marks => (Leads.denial ht).trans (hi (.negation :: marks))
  case primary hi => exact hi
  case group ht hu _ _ hi =>
    intro marks
    have hl := (hi (by decide) (.parenthesis :: marks) (settled_parenthesis marks)).1
    exact (Leads.opening ht).trans (hl.trans (.closing hu))
  case constant ht => exact fun _ => .step (ht ▸ rfl)
  case letter ht hc => exact fun _ => .step (by simp [ht, next?, operand?, hc])

-- A parenthesis is read up to where it should be closed.
theorem Returns.leads_group (ht : t.lexeme = .opening) (h : Returns m (.tier tiers) ts x r)
    (marks : List Mark) :
    Leads ⟨marks, false⟩ (t :: ts) ⟨.parenthesis :: marks, true⟩ r ∧ Past tiers r := by
  obtain ⟨hl, hp⟩ := h.leadsOn (by decide) (.parenthesis :: marks) (settled_parenthesis marks)
  exact ⟨(Leads.opening ht).trans hl, hp⟩

end Success

section Failure

-- The error is found at a place to which the tokens lead from where the reader was called.
def Reader.FailsOn (marks : List Mark) (ts : List Token) (e : SyntaxError) : Reader → Prop
  | tier ops => (∀ op ∈ ops, op ≠ .not) → Settled marks → Fails ⟨marks, false⟩ ts e
  | chain op ops _ => (∀ o ∈ op :: ops, o ≠ .not) → Settled marks → Fails ⟨marks, true⟩ ts e
  | negation => Fails ⟨marks, false⟩ ts e
  | primary => (∀ t ∈ ts.head?, t.lexeme ≠ .operator .not) → Fails ⟨marks, false⟩ ts e

-- As many parentheses and negations are open as the reader has counted.
theorem Refuses.failsOn (h : Refuses m R ts e) (hm : m ≤ maxNesting) (hl : marks.length = m) :
    R.FailsOn marks ts e := by
  induction h generalizing marks
  case bottom hi => exact fun _ _ => hi hm hl
  case first hi => exact fun ho => hi hm hl (List.forall_mem_cons.mp ho).2
  case rest h _ hi =>
    intro ho hs
    exact (h.leadsOn (List.forall_mem_cons.mp ho).2 marks hs).1.fails (hi hm hl ho hs)
  case operand ht _ hi =>
    intro ho hs
    obtain ⟨hop, hops⟩ := List.forall_mem_cons.mp ho
    exact (Leads.connective ht hop).fails (hi hm hl hops hs)
  case further ht h _ hi =>
    intro ho hs
    obtain ⟨hop, hops⟩ := List.forall_mem_cons.mp ho
    have hr := (h.leadsOn hops marks hs).1
    exact ((Leads.connective ht hop).trans hr).fails (hi hm hl ho hs)
  case noNegation => exact Halts.exhausted.fails
  case denial ht hn _ hi => exact (Leads.denial ht).fails (hi hn (congrArg (· + 1) hl))
  case tooDenied ht hn => exact (Halts.nested (.inr ht) (by omega)).fails
  case primary ht _ hi => exact hi hm hl (by simpa using ht)
  case noPrimary => exact fun _ => Halts.exhausted.fails
  case group ht hn _ hi =>
    intro _
    have hi := hi hn (congrArg (· + 1) hl) (by decide) (settled_parenthesis marks)
    exact (Leads.opening ht).fails hi
  case unclosed ht _ h => exact fun _ => (h.leads_group ht marks).1.fails Halts.exhausted.fails
  case noClosing u _ _ _ ht _ h hu =>
    intro _
    obtain ⟨hl, hp⟩ := h.leads_group ht marks
    have hc : connective? (.parenthesis :: marks) u.lexeme = none :=
      connective?_eq_none (hp u rfl) (absurd · hu)
    exact hl.fails (Halts.noClosing hc).fails
  case tooGrouped ht hn => exact fun _ => (Halts.nested (.inl ht) (by omega)).fails
  case badName ht hc => exact fun _ => (Halts.badName (by simp [ht, operand?, hc])).fails
  case ending ht => exact fun _ => (Halts.ending ht).fails
  case closing ht => exact fun _ => (Halts.unexpected (by simp [ht, operand?])).fails
  case operator t op _ ht =>
    intro hn
    have ho : op ≠ .not := fun ho => hn t rfl (ho ▸ ht)
    exact (Halts.unexpected (by simp [ht, operand?, ho])).fails

theorem fails_of_ofTokens (h : ofTokens ts = .error e) : Fails start ts e := by
  unfold ofTokens at h
  split at h
  case h_1 he =>
    cases h
    exact (Refuses.of_readTier he).failsOn (Nat.zero_le _) rfl (by decide) settled_nil
  case h_2 t r _ hr =>
    split at h <;> cases h
    have ⟨hl, hp⟩ := (Returns.of_readTier hr).leadsOn (by decide) [] settled_nil
    exact hl.fails (Halts.trailing (connective?_eq_none (hp t rfl) fun _ => rfl)).fails
  case h_3 => cases h

-- The checks of characters and of the depth apart, an error is found at a place.
theorem fails_of_parse (h : parse e = .error error)
    (hn : error ∉ [SyntaxError.blank, .unbalanced, .tooDeep]) :
    balanced e.toList ∧ Fails start (tokenize e.toList) error := by
  unfold parse ofChars at h
  split at h
  case isTrue =>
    cases h
    simp at hn
  case isFalse =>
    split at h
    case isFalse =>
      cases h
      simp at hn
    case isTrue hc =>
      split at h
      case h_1 he =>
        cases h
        exact ⟨hc, fails_of_ofTokens he⟩
      case h_2 =>
        split at h <;> cases h
        simp at hn

end Failure

section Expressions

theorem next?_ending (p : Place) : p.next? .ending = none := by
  obtain ⟨marks, _ | _⟩ := p <;> rfl

-- What tokens of an expression lead past, and what they leave, are all its lexemes.
theorem Leads.lexemes_eq {s : List Char} (h : Leads p (tokenize s) q r) :
    ∃ us, lexemes s ++ [.ending] = us ++ r.map (·.lexeme) ∧ p.reach? us = some q := by
  obtain ⟨us, hus, hr⟩ := h
  exact ⟨_, by rw [← map_lexeme_tokenize, hus, List.map_append], hr⟩

-- The ending is always left.
theorem Leads.left_ne_nil {s : List Char} (h : Leads p (tokenize s) q r) : r ≠ [] := by
  rintro rfl
  obtain ⟨us, hus, hr⟩ := h.lexemes_eq
  rw [List.map_nil, List.append_nil] at hus
  rw [← hus, reach?_append, Option.bind_eq_some_iff] at hr
  obtain ⟨p', -, hr⟩ := hr
  rw [reach?_cons, next?_ending] at hr
  cases hr

-- All lexemes lead to the place where the ending is found.
theorem Leads.reach?_of_ending {s : List Char} (h : Leads p (tokenize s) q (t :: r))
    (ht : t.lexeme = .ending) : p.reach? (lexemes s) = some q := by
  obtain ⟨us, hus, hr⟩ := h.lexemes_eq
  rw [List.map_cons, ht] at hus
  have := (List.append_cons_inj_of_notMem ending_not_mem_lexemes (by simp)).mp hus
  exact this.1 ▸ hr

-- The error states the token and its position, and is not about a limit.
def States (t : Token) : SyntaxError → Prop
  | .trailing u | .noClosing u | .badName u | .unexpected u => u = t
  | _ => False

theorem Halts.next?_eq_none (h : Halts q r error) (ht : States t error) :
    ∃ after, r = t :: after ∧ q.next? t.lexeme = none := by
  cases h
  case badName ts hu | unexpected ts hu | noClosing ts hu | trailing ts hu =>
    cases ht
    exact ⟨ts, rfl, hu⟩
  all_goals cases ht

-- The token that an error states is the first that cannot stand where it does.
theorem Fails.impossible (h : Fails start ts error) (ht : States t error) :
    ∃ before after, ts = before ++ t :: after ∧ IsBeginning (before.map (·.lexeme)) ∧
      ¬IsBeginning (before.map (·.lexeme) ++ [t.lexeme]) := by
  obtain ⟨q, r, ⟨before, rfl, hr⟩, he⟩ := h
  obtain ⟨after, rfl, hq⟩ := he.next?_eq_none ht
  refine ⟨before, after, rfl, isBeginning_iff.mpr ⟨q, hr⟩, fun hb => ?_⟩
  obtain ⟨q', hq'⟩ := isBeginning_iff.mp hb
  rw [reach?_trans hr, reach?_cons, hq] at hq'
  cases hq'

theorem Fails.nested (h : Fails start ts (.tooNested t)) :
    ∃ before after, ts = before ++ t :: after ∧ IsBeginning (before.map (·.lexeme)) ∧
      (t.lexeme = .opening ∨ t.lexeme = .operator .not) ∧
      ∃ p, start.reach? (before.map (·.lexeme)) = some p ∧ p.opened.length = maxNesting := by
  obtain ⟨q, r, ⟨before, rfl, hr⟩, he⟩ := h
  match he with
  | .nested ht hl => exact ⟨before, _, rfl, isBeginning_iff.mpr ⟨_, hr⟩, ht, _, hr, hl⟩

-- Where the end is unexpected, an operand has to come.
theorem Fails.reach?_of_unexpectedEnd {s : List Char}
    (h : Fails start (tokenize s) .unexpectedEnd) :
    ∃ marks, start.reach? (lexemes s) = some ⟨marks, false⟩ := by
  obtain ⟨q, r, hl, hq⟩ := h
  cases hq
  case exhausted => exact absurd rfl hl.left_ne_nil
  case ending marks _ _ ht => exact ⟨marks, hl.reach?_of_ending ht⟩

theorem incomplete_of_reach? {ls : List Lexeme} (h : start.reach? ls = some ⟨marks, false⟩) :
    ¬IsExpression ls ∧ ∃ more, more ≠ [] ∧ IsExpression (ls ++ more) := by
  have hn : ¬IsExpression ls := fun he => by
    cases he.reach?.symm.trans h
  obtain ⟨more, hm⟩ := isBeginning_iff.mpr ⟨_, h⟩
  refine ⟨hn, more, ?_, hm⟩
  rintro rfl
  exact hn (by simpa using hm)

theorem error_at_first_impossible_token (h : parse e = .error error) :
    (∀ t, States t error → ∃ before after, tokenize e.toList = before ++ t :: after ∧
      IsBeginning (before.map (·.lexeme)) ∧
      ¬IsBeginning (before.map (·.lexeme) ++ [t.lexeme])) ∧
    (error = .unexpectedEnd → ¬IsExpression (lexemes e.toList) ∧
      ∃ more, more ≠ [] ∧ IsExpression (lexemes e.toList ++ more)) ∧
    (∀ t, error = .tooNested t → ∃ before after, tokenize e.toList = before ++ t :: after ∧
      IsBeginning (before.map (·.lexeme)) ∧
      (t.lexeme = .opening ∨ t.lexeme = .operator .not) ∧
      ∃ p, start.reach? (before.map (·.lexeme)) = some p ∧ p.opened.length = maxNesting) := by
  refine ⟨fun t ht => ?_, ?_, ?_⟩
  case refine_1 =>
    have hn : error ∉ [SyntaxError.blank, .unbalanced, .tooDeep] := by
      rintro hm
      obtain rfl | rfl | rfl := by simpa using hm
      all_goals cases ht
    exact (fails_of_parse h hn).2.impossible ht
  case refine_2 =>
    rintro rfl
    obtain ⟨marks, hm⟩ := (fails_of_parse h (by simp)).2.reach?_of_unexpectedEnd
    exact incomplete_of_reach? hm
  case refine_3 =>
    rintro t rfl
    exact (fails_of_parse h (by simp)).2.nested

theorem error_at_second_name :
    let t : Token := ⟨.name ['r'], 8⟩
    parse "¬(p ∨ q r)" = .error (.noClosing t) ∧
      ∃ before after, tokenize "¬(p ∨ q r)".toList = before ++ t :: after ∧
        IsBeginning (before.map (·.lexeme)) ∧
        ¬IsBeginning (before.map (·.lexeme) ++ [.name ['r']]) := by
  intro t
  have h : parse "¬(p ∨ q r)" = .error (.noClosing t) := by cbv
  exact ⟨h, (error_at_first_impossible_token h).1 t rfl⟩

end Expressions

end Enunciado.Formula

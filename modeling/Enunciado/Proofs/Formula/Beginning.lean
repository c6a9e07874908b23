import Mathlib.Data.List.DropRight
import Enunciado.Proofs.Formula.Grammar

namespace Enunciado.Formula

variable {n : Nat} {A : Phrase} {op : Operator} {l : Lexeme} {us vs : List Lexeme}
variable {x y : Formula String}

-- The lexemes are an expression, however deep it is.
def IsExpression (ls : List Lexeme) : Prop :=
  ∃ n x, Derives n .expression ls x

-- Some expression begins with the lexemes.
def IsBeginning (ls : List Lexeme) : Prop :=
  ∃ more, IsExpression (ls ++ more)

-- What may be open: a parenthesis without the closing one, or a negation without its operand.
inductive Mark
  | parenthesis
  | negation
deriving DecidableEq

-- A place in an expression: what is open there, the innermost first, and whether an operand has
-- just ended. If not, one has to come next.
structure Place where
  opened : List Mark
  ended : Bool
deriving DecidableEq

namespace Place

def start : Place :=
  ⟨[], false⟩

-- With an operand, the negations right before it end as well.
def afterOperand (marks : List Mark) : Place :=
  ⟨marks.dropWhile (· = .negation), true⟩

-- The place behind a lexeme where an operand has to come; none if the lexeme cannot stand there.
def operand? (marks : List Mark) : Lexeme → Option Place
  | .opening => some ⟨.parenthesis :: marks, false⟩
  | .operator op => if op = .not then some ⟨.negation :: marks, false⟩ else none
  | .constant _ => some (afterOperand marks)
  | .name chars => if isLetterName chars then some (afterOperand marks) else none
  | .closing | .ending => none

-- The same where an operand has just ended.
def connective? (marks : List Mark) : Lexeme → Option Place
  | .operator op => if op = .not then none else some ⟨marks, false⟩
  | .closing => match marks with
    | .parenthesis :: marks => some (afterOperand marks)
    | _ => none
  | _ => none

def next? (p : Place) (l : Lexeme) : Option Place :=
  if p.ended then connective? p.opened l else operand? p.opened l

-- All ways to go on from a place.
inductive Next : Place → Lexeme → Place → Prop
  | opening {marks} : Next ⟨marks, false⟩ .opening ⟨.parenthesis :: marks, false⟩
  | denial {marks} : Next ⟨marks, false⟩ (.operator .not) ⟨.negation :: marks, false⟩
  | constant {marks b} : Next ⟨marks, false⟩ (.constant b) (afterOperand marks)
  | letter {marks chars} :
    isLetterName chars → Next ⟨marks, false⟩ (.name chars) (afterOperand marks)
  | connective {marks op} : op ≠ .not → Next ⟨marks, true⟩ (.operator op) ⟨marks, false⟩
  | closing {marks} : Next ⟨.parenthesis :: marks, true⟩ .closing (afterOperand marks)

variable {p q : Place} {marks : List Mark}

theorem next_of_next? (h : p.next? l = some q) : Next p l q := by
  obtain ⟨marks, _ | _⟩ := p
  case false =>
    cases l
    case name chars =>
      have ⟨hc, hq⟩ : isLetterName chars ∧ afterOperand marks = q := by
        simpa [next?, operand?] using h
      exact hq ▸ .letter hc
    case constant b =>
      cases h
      exact .constant
    case operator op =>
      have ⟨ho, hq⟩ : op = .not ∧ ⟨.negation :: marks, false⟩ = q := by
        simpa [next?, operand?] using h
      exact hq ▸ ho ▸ .denial
    case opening =>
      cases h
      exact .opening
    all_goals cases h
  case true =>
    cases l
    case operator op =>
      have ⟨ho, hq⟩ : op ≠ .not ∧ ⟨marks, false⟩ = q := by
        simpa [next?, connective?] using h
      exact hq ▸ .connective ho
    case closing =>
      match marks with
      | .parenthesis :: marks =>
        cases h
        exact .closing
    all_goals cases h

def reach? (p : Place) (ls : List Lexeme) : Option Place :=
  ls.foldlM next? p

theorem reach?_append :
    p.reach? (us ++ vs) = (p.reach? us).bind fun q => q.reach? vs :=
  List.foldlM_append

theorem reach?_cons : p.reach? (l :: us) = (p.next? l).bind fun q => q.reach? us :=
  List.foldlM_cons

theorem reach?_trans (h : p.reach? us = some q) : p.reach? (us ++ vs) = q.reach? vs := by
  rw [reach?_append, h, Option.bind_some]

theorem next?_connective (h : op ≠ .not) (marks : List Mark) :
    next? ⟨marks, true⟩ (.operator op) = some ⟨marks, false⟩ :=
  if_neg h

-- No negation is the innermost of what is open, so that an operand ends nothing but itself.
def Settled (marks : List Mark) : Prop :=
  marks.dropWhile (· = .negation) = marks

theorem settled_nil : Settled [] :=
  rfl

theorem settled_parenthesis (marks : List Mark) : Settled (.parenthesis :: marks) :=
  rfl

theorem settled_afterOperand (marks : List Mark) : Settled (afterOperand marks).opened :=
  List.dropWhile_idempotent ..

theorem Settled.afterOperand (h : Settled marks) : afterOperand marks = ⟨marks, true⟩ := by
  rw [Place.afterOperand, h]

end Place

open Place

section Derivations

-- A phrase is read from any place where an operand has to come, and ends as an operand does.
theorem Derives.reach? (h : Derives n A us x) (marks : List Mark) :
    reach? ⟨marks, false⟩ us = some (afterOperand marks) := by
  induction h using Derives.stepwise generalizing marks
  case operand hi => exact hi marks
  case append hA _ _ hx hy =>
    have hm := settled_afterOperand marks
    have ha : afterOperand marks = ⟨(afterOperand marks).opened, true⟩ := rfl
    rw [reach?_trans (hx marks), reach?_cons, ha, next?_connective (Phrase.chain?_ne_not hA),
      Option.bind_some, hy, hm.afterOperand]
  case denial hi => exact hi (.negation :: marks)
  case primary hi => exact hi marks
  case group hi =>
    have ho : next? ⟨marks, false⟩ .opening = some ⟨.parenthesis :: marks, false⟩ := rfl
    rw [List.cons_append, reach?_cons, ho, Option.bind_some, reach?_trans (hi _)]
    rfl
  case constant => rfl
  case letter hc => simp [Place.reach?, next?, operand?, hc]

theorem IsExpression.reach? (h : IsExpression us) : start.reach? us = some ⟨[], true⟩ := by
  obtain ⟨n, x, h⟩ := h
  exact h.reach? []

theorem IsBeginning.exists_reach? (h : IsBeginning us) : ∃ p, start.reach? us = some p := by
  obtain ⟨more, h⟩ := h
  have hr := h.reach?
  rw [reach?_append, Option.bind_eq_some_iff] at hr
  exact hr.imp fun p hp => hp.1

end Derivations

section Completion

-- Whatever operand follows the lexemes makes them an expression.
def Awaits (us : List Lexeme) : Prop :=
  ∀ n vs x, Derives n .negation vs x → IsExpression (us ++ vs)

theorem awaits_nil : Awaits [] :=
  fun n _ x h => ⟨n, x, h.loosen Phrase.precedence_pos⟩

theorem Awaits.denial (h : Awaits us) : Awaits (us ++ [.operator .not]) := by
  intro n vs x hx
  rw [List.append_assoc]
  exact h (n + 1) _ _ (.denial hx)

theorem Awaits.group (h : Awaits us) (hv : IsExpression vs) :
    IsExpression (us ++ .opening :: vs ++ [.closing]) := by
  obtain ⟨n, x, hx⟩ := hv
  rw [List.append_assoc]
  exact h (n + 1) _ _ (.primary (.group hx))

-- A phrase goes on with any connective that can stand in it: that of its own tier makes its chain
-- longer, a tighter one goes to its last operand.
theorem Derives.extend (h : Derives n A us x) (hop : op ∈ A.operators)
    (hy : Derives n .negation vs y) : ∃ z, Derives n A (us ++ .operator op :: vs) z := by
  induction h using Derives.stepwise
  case operand hA hx hi =>
    rw [Phrase.chain?_operators hA, List.mem_cons] at hop
    obtain rfl | hop := hop
    · exact ⟨_, (hx.operand hA).append hA (hy.loosen (Phrase.chain?_operand_le hA))⟩
    · exact (hi hop hy).imp fun _ hz => hz.operand hA
  case append hA hx hz _ hi =>
    rw [Phrase.chain?_operators hA, List.mem_cons] at hop
    obtain rfl | hop := hop
    · exact ⟨_, (hx.append hA hz).append hA (hy.loosen (Phrase.chain?_operand_le hA))⟩
    · obtain ⟨_, hz⟩ := hi hop hy
      exact ⟨_, by simpa using hx.append hA hz⟩
  all_goals exact absurd hop List.not_mem_nil

theorem IsExpression.awaits (h : IsExpression us) (hop : op ≠ .not) :
    Awaits (us ++ [.operator op]) := by
  intro m vs y hy
  obtain ⟨n, x, hx⟩ := h
  have ho : op ∈ Phrase.expression.operators := by
    cases op <;> simp [Phrase.operators] at hop ⊢
  obtain ⟨z, hz⟩ := (hx.mono (Nat.le_max_left n m)).extend ho (hy.mono (Nat.le_max_right n m))
  exact ⟨_, z, by simpa using hz⟩

-- `Surrounds marks us` says that the lexemes `us` end with the innermost of the parenthesis among
-- `marks`, behind the lexemes that wait for it, or that there is none.
inductive Surrounds : List Mark → List Lexeme → Prop
  | outside : Surrounds [] []
  | inside {marks us vs} :
    Surrounds marks us → Awaits vs → Surrounds (.parenthesis :: marks) (us ++ vs ++ [.opening])
  | denied {marks us} : Surrounds marks us → Surrounds (.negation :: marks) us

theorem Surrounds.afterOperand {marks : List Mark} (h : Surrounds marks us) :
    Surrounds (afterOperand marks).opened us := by
  induction h
  case outside => exact .outside
  case inside hu hw _ => exact hu.inside hw
  case denied hi => exact hi

-- All parentheses can be closed behind an expression.
theorem Surrounds.close {marks : List Mark} (h : Surrounds marks us) (hv : IsExpression vs) :
    ∃ more, IsExpression (us ++ vs ++ more) := by
  induction h generalizing vs
  case outside => exact ⟨[], by simpa using hv⟩
  case inside hw hi =>
    obtain ⟨more, hm⟩ := hi (hw.group hv)
    exact ⟨.closing :: more, by simpa using hm⟩
  case denied hi => exact hi hv

-- What lexemes are at whose end an operand has ended, or has to come.
def Fits : Bool → List Lexeme → Prop
  | true => IsExpression
  | false => Awaits

-- What is known of lexemes that lead to a place, behind the innermost parenthesis and before it.
def Stands (us : List Lexeme) (p : Place) : Prop :=
  ∃ vs ws, us = vs ++ ws ∧ Surrounds p.opened vs ∧ Fits p.ended ws

namespace Stands

variable {p q : Place} {marks : List Mark}

theorem start : Stands [] Place.start :=
  ⟨[], [], rfl, .outside, awaits_nil⟩

-- An operand of one lexeme.
theorem operand (h : Stands us ⟨marks, false⟩) (hl : Derives n .negation [l] x) :
    Stands (us ++ [l]) (afterOperand marks) := by
  obtain ⟨vs, ws, rfl, hv, hw⟩ := h
  exact ⟨vs, ws ++ [l], by simp, hv.afterOperand, hw n _ x hl⟩

theorem denial (h : Stands us ⟨marks, false⟩) :
    Stands (us ++ [.operator .not]) ⟨.negation :: marks, false⟩ := by
  obtain ⟨vs, ws, rfl, hv, hw⟩ := h
  exact ⟨vs, ws ++ [Lexeme.operator .not], by simp, hv.denied, Awaits.denial hw⟩

theorem opening (h : Stands us ⟨marks, false⟩) :
    Stands (us ++ [.opening]) ⟨.parenthesis :: marks, false⟩ := by
  obtain ⟨vs, ws, rfl, hv, hw⟩ := h
  exact ⟨vs ++ ws ++ [.opening], [], by simp, hv.inside hw, awaits_nil⟩

theorem connective (h : Stands us ⟨marks, true⟩) (hop : op ≠ .not) :
    Stands (us ++ [.operator op]) ⟨marks, false⟩ := by
  obtain ⟨vs, ws, rfl, hv, hw⟩ := h
  exact ⟨vs, ws ++ [Lexeme.operator op], by simp, hv, IsExpression.awaits hw hop⟩

theorem closing (h : Stands us ⟨.parenthesis :: marks, true⟩) :
    Stands (us ++ [.closing]) (afterOperand marks) := by
  obtain ⟨_, ws, rfl, hv, hw⟩ := h
  match hv with
  | @Surrounds.inside _ vs ws' hv hw' =>
    exact ⟨vs, ws' ++ .opening :: ws ++ [Lexeme.closing], by simp, hv.afterOperand, hw'.group hw⟩

theorem next (h : Stands us p) (hn : Next p l q) : Stands (us ++ [l]) q := by
  cases hn
  case opening => exact h.opening
  case denial => exact h.denial
  case constant => exact h.operand (.primary (.constant (n := 0)))
  case letter hc => exact h.operand (.primary (.letter (n := 0) hc))
  case connective ho => exact h.connective ho
  case closing => exact h.closing

theorem reach? (h : Stands us p) (hr : p.reach? vs = some q) : Stands (us ++ vs) q := by
  induction vs generalizing us p
  case nil =>
    cases hr
    simpa using h
  case cons l vs hi =>
    rw [reach?_cons, Option.bind_eq_some_iff] at hr
    obtain ⟨p', hn, hr⟩ := hr
    simpa using hi (h.next (next_of_next? hn)) hr

-- A letter and the closing parentheses that are missing complete what stands at a place.
theorem isBeginning (h : Stands us p) : IsBeginning us := by
  obtain ⟨marks, _ | _⟩ := p
  all_goals obtain ⟨vs, ws, rfl, hv, hw⟩ := h
  case false =>
    have hp : Derives 0 .negation [.name ['p']] _ := .primary (.letter rfl)
    obtain ⟨more, hm⟩ := hv.close (hw _ _ _ hp)
    exact ⟨.name ['p'] :: more, by simpa using hm⟩
  case true => exact hv.close hw

end Stands

-- The beginnings of expressions are the lexemes that lead to a place.
theorem isBeginning_iff : IsBeginning us ↔ ∃ p, start.reach? us = some p :=
  ⟨IsBeginning.exists_reach?, fun ⟨_, h⟩ => (Stands.start.reach? h).isBeginning⟩

end Completion

end Enunciado.Formula

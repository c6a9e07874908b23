import Enunciado.Formula.Parser
import Enunciado.Formula.Printer

namespace Enunciado.Formula

inductive Phrase
  | biconditional
  | implication
  | disjunction
  | conjunction
  | negation
  | primary
deriving DecidableEq

namespace Phrase

abbrev expression : Phrase := biconditional

-- The connective that joins the operands of the phrase, and the phrase that these operands are.
def chain? : Phrase → Option (Operator × Phrase)
  | biconditional => some (.iff, implication)
  | implication => some (.implies, disjunction)
  | disjunction => some (.or, conjunction)
  | conjunction => some (.and, negation)
  | negation | primary => none

def precedence : Phrase → Nat
  | biconditional => 1
  | implication => 2
  | disjunction => 3
  | conjunction => 4
  | negation => 5
  | primary => 6

-- The connectives that can stand in the phrase outside of parentheses.
def operators : Phrase → List Operator
  | biconditional => [.iff, .implies, .or, .and]
  | implication => [.implies, .or, .and]
  | disjunction => [.or, .and]
  | conjunction => [.and]
  | negation | primary => []

section

variable {A B : Phrase} {op : Operator}

theorem precedence_pos : 0 < A.precedence := by
  cases A <;> decide

theorem precedence_le_primary : A.precedence ≤ primary.precedence := by
  cases A <;> decide

theorem precedence_inj (h : A.precedence = B.precedence) : A = B := by
  cases A <;> cases B <;> first | rfl | simp [precedence] at h

theorem chain?_ne_not (h : A.chain? = some (op, B)) : op ≠ .not := by
  cases A <;> cases h <;> decide

theorem chain?_operand_precedence (h : A.chain? = some (op, B)) :
    B.precedence = A.precedence + 1 := by
  cases A <;> cases h <;> rfl

theorem chain?_operand_le (h : A.chain? = some (op, B)) :
    B.precedence ≤ negation.precedence := by
  cases A <;> cases h <;> decide

theorem chain?_ne_primary (h : A.chain? = some (op, B)) : A ≠ primary ∧ B ≠ primary := by
  cases A <;> cases h <;> decide

theorem chain?_operators (h : A.chain? = some (op, B)) : A.operators = op :: B.operators := by
  cases A <;> cases h <;> rfl

theorem chain?_not_mem_operators (h : A.chain? = some (op, B)) : op ∉ B.operators := by
  cases A <;> cases h <;> decide

theorem chain?_of_operators (h : A.operators = op :: ops) :
    ∃ B, A.chain? = some (op, B) ∧ B.operators = ops ∧ B ≠ primary := by
  cases A <;> cases h <;> exact ⟨_, rfl, rfl, by decide⟩

theorem exists_chain? (h : op ≠ .not) : ∃ A B, chain? A = some (op, B) := by
  cases op
  case not => contradiction
  case iff => exact ⟨biconditional, _, rfl⟩
  case implies => exact ⟨implication, _, rfl⟩
  case or => exact ⟨disjunction, _, rfl⟩
  case and => exact ⟨conjunction, _, rfl⟩

end

end Phrase

-- Lexemes, and the formula that they stand for.
abbrev Operand := List Lexeme × Formula String

namespace Operand

def grouped (p : Operand) : Operand :=
  (.opening :: p.1 ++ [.closing], p.2)

-- Operands with a connective between them; their formula is folded to the left.
def join (op : Operator) (first : Operand) (rest : List Operand) : Operand :=
  (first.1 ++ rest.flatMap fun p => .operator op :: p.1,
    rest.foldl (fun left p => .binary op left p.2) first.2)

end Operand

-- `Derives n A ts x` says that the lexemes `ts` are a phrase `A` that stands for the formula `x`,
-- and that nowhere in it are more than `n` parentheses and negations open. What is open in one
-- operand of a chain does not count in the next: all operands are derived within the same `n`.
inductive Derives : Nat → Phrase → List Lexeme → Formula String → Prop
  | chain {n A op B ts x} {rest : List Operand} :
    A.chain? = some (op, B) → Derives n B ts x → (∀ p ∈ rest, Derives n B p.1 p.2) →
    Derives n A (ts ++ rest.flatMap fun p => .operator op :: p.1)
      (rest.foldl (fun left p => .binary op left p.2) x)
  | denial {n ts x} :
    Derives n .negation ts x →
    Derives (n + 1) .negation (.operator .not :: ts) (.unary .not x)
  | primary {n ts x} :
    Derives n .primary ts x → Derives n .negation ts x
  | group {n ts x} :
    Derives n .expression ts x → Derives (n + 1) .primary (.opening :: ts ++ [.closing]) x
  | constant {n b} :
    Derives n .primary [.constant b] (.const b)
  | letter {n chars} :
    isLetterName chars → Derives n .primary [.name chars] (.var (String.ofList chars))

-- The names in the formula are names of propositions.
def Lettered (x : Formula String) : Prop :=
  ∀ name ∈ x.names, isLetterName name.toList

namespace Derives

variable {m n : Nat} {A B : Phrase} {op : Operator} {ts us : List Lexeme} {x y : Formula String}

theorem mono (h : Derives n A ts x) (hn : n ≤ m) : Derives m A ts x := by
  induction h generalizing m
  case chain hA _ _ hi hr => exact .chain hA (hi hn) fun p hp => hr p hp hn
  case denial hi =>
    obtain ⟨k, rfl⟩ : ∃ k, m = k + 1 := ⟨m - 1, by omega⟩
    exact .denial (hi (by omega))
  case primary hi => exact .primary (hi hn)
  case group hi =>
    obtain ⟨k, rfl⟩ : ∃ k, m = k + 1 := ⟨m - 1, by omega⟩
    exact .group (hi (by omega))
  case constant => exact .constant
  case letter hc => exact .letter hc

-- A single operand is a chain.
theorem operand (hA : A.chain? = some (op, B)) (h : Derives n B ts x) : Derives n A ts x := by
  simpa using Derives.chain hA h (List.forall_mem_nil _)

theorem loosen_one (hA : A ≠ .primary) :
    ∃ B : Phrase, B.precedence = A.precedence + 1 ∧
      ∀ {n ts x}, Derives n B ts x → Derives n A ts x := by
  cases A
  case primary => contradiction
  case negation => exact ⟨.primary, rfl, .primary⟩
  all_goals exact ⟨_, rfl, operand rfl⟩

theorem loosen (h : Derives n B ts x) (hp : A.precedence ≤ B.precedence) : Derives n A ts x := by
  induction hd : B.precedence - A.precedence generalizing A
  case zero =>
    cases Phrase.precedence_inj (A := A) (B := B) (by omega)
    exact h
  case succ d hi =>
    have hA : A ≠ .primary := by
      rintro rfl
      cases B <;> simp [Phrase.precedence] at hd
    have ⟨C, hC, hl⟩ := loosen_one hA
    exact hl (hi (by omega) (by omega))

-- A chain goes on to the right, and the formula with it.
theorem append (hA : A.chain? = some (op, B)) (hx : Derives n A ts x) (hy : Derives n B us y) :
    Derives n A (ts ++ .operator op :: us) (.binary op x y) := by
  cases hx
  case chain rest hf hr hA' =>
    cases hA.symm.trans hA'
    have hr' : ∀ p ∈ rest ++ [(us, y)], Derives n B p.1 p.2 := by
      simp only [List.mem_append, List.mem_singleton]
      rintro p (hp | rfl)
      · exact hr p hp
      · exact hy
    simpa using Derives.chain hA hf hr'
  all_goals simp [Phrase.chain?] at hA

-- Induction over derivations that lets a chain grow by one operand at a time.
@[elab_as_elim]
theorem stepwise {motive : ∀ n A ts x, Derives n A ts x → Prop}
    (operand : ∀ {n A op B ts x} (hA : A.chain? = some (op, B)) (h : Derives n B ts x),
      motive n B ts x h → motive n A ts x (h.operand hA))
    (append : ∀ {n A op B ts us x y} (hA : A.chain? = some (op, B)) (hx : Derives n A ts x)
      (hy : Derives n B us y), motive n A ts x hx → motive n B us y hy →
      motive n A (ts ++ .operator op :: us) (.binary op x y) (hx.append hA hy))
    (denial : ∀ {n ts x} (h : Derives n .negation ts x), motive n .negation ts x h →
      motive (n + 1) .negation (.operator .not :: ts) (.unary .not x) h.denial)
    (primary : ∀ {n ts x} (h : Derives n .primary ts x), motive n .primary ts x h →
      motive n .negation ts x h.primary)
    (group : ∀ {n ts x} (h : Derives n .expression ts x), motive n .expression ts x h →
      motive (n + 1) .primary (.opening :: ts ++ [.closing]) x h.group)
    (constant : ∀ {n b}, motive n .primary [.constant b] (.const b) .constant)
    (letter : ∀ {n chars} (hc : isLetterName chars),
      motive n .primary [.name chars] (.var (String.ofList chars)) (.letter hc))
    (h : Derives n A ts x) : motive n A ts x h := by
  induction h
  case chain n A op B ts x rest hA hx hr hi hir =>
    -- Whatever part of the chain has been read, the other operands are appended to it.
    have go (ts x) (hx : Derives n A ts x) (hm : motive n A ts x hx) :
        ∃ h, motive n A (ts ++ rest.flatMap fun p => .operator op :: p.1)
          (rest.foldl (fun left p => .binary op left p.2) x) h := by
      clear hi
      induction rest generalizing ts x
      case nil => simpa using ⟨hx, hm⟩
      case cons p rest ih =>
        have ⟨_, hr⟩ := List.forall_mem_cons.mp hr
        have hm := append hA hx _ hm (hir p List.mem_cons_self)
        simpa using ih hr (fun q hq => hir q (List.mem_cons_of_mem p hq)) _ _ _ hm
    exact (go ts x (hx.operand hA) (operand hA hx hi)).elim fun _ hm => hm
  case denial h hi => exact denial h hi
  case primary h hi => exact primary h hi
  case group h hi => exact group h hi
  case constant => exact constant
  case letter hc => exact letter hc

theorem join {first : Operand} {rest : List Operand} (hA : A.chain? = some (op, B))
    (h : ∀ p ∈ first :: rest, Derives n B p.1 p.2) :
    Derives n A (first.join op rest).1 (first.join op rest).2 :=
  .chain hA (h first (by simp)) fun p hp => h p (by simp [hp])

-- Groups that stand side by side are derived within the same limit, however many they are.
theorem join_grouped {first : Operand} {rest : List Operand} (hop : op ≠ .not)
    (h : ∀ p ∈ first :: rest, Derives n .expression p.1 p.2) :
    Derives (n + 1) .expression (first.grouped.join op (rest.map (·.grouped))).1
      (first.grouped.join op (rest.map (·.grouped))).2 := by
  have ⟨A, B, hA⟩ := Phrase.exists_chain? hop
  refine loosen (join hA fun p hp => ?_) Phrase.precedence_pos
  obtain ⟨q, hq, rfl⟩ : ∃ q ∈ first :: rest, q.grouped = p := by
    simpa [eq_comm] using hp
  exact loosen (.group (h q hq)) Phrase.precedence_le_primary

theorem ending_not_mem (h : Derives n A ts x) : .ending ∉ ts := by
  induction h using stepwise
  case operand hi => exact hi
  case primary hi => exact hi
  all_goals simp_all

theorem proper (h : Derives n A ts x) : x.Proper := by
  induction h using stepwise
  case operand hi => exact hi
  case append hA _ _ hx hy => exact ⟨Phrase.chain?_ne_not hA, hx, hy⟩
  case denial hi => exact ⟨rfl, hi⟩
  case primary hi => exact hi
  case group hi => exact hi
  all_goals trivial

theorem lettered (h : Derives n A ts x) : x.Lettered := by
  induction h using stepwise
  case append hx hy =>
    rw [Lettered, names, List.forall_mem_append]
    exact ⟨hx, hy⟩
  case letter hc => simpa [Lettered, names] using hc
  case constant => simp [Lettered, names]
  all_goals assumption

end Derives

end Enunciado.Formula

import Enunciado.Formula.Parser

namespace Enunciado.Formula

-- One of the readers, with what it is called with besides the tokens and how much is open.
inductive Reader
  | tier (ops : List Operator)
  | chain (op : Operator) (ops : List Operator) (left : Formula String)
  | negation
  | primary

-- The reader returns a formula from the tokens, behind which the last tokens are left.
inductive Returns : Nat → Reader → List Token → Formula String → List Token → Prop
  | bottom {m ts x r} : Returns m .negation ts x r → Returns m (.tier []) ts x r
  | tier {m op ops ts left x r r'} :
    Returns m (.tier ops) ts left r → Returns m (.chain op ops left) r x r' →
    Returns m (.tier (op :: ops)) ts x r'
  | stop {m op ops left ts} :
    (∀ t ∈ ts.head?, t.lexeme ≠ .operator op) → Returns m (.chain op ops left) ts left ts
  | next {m op ops left t ts right x r r'} :
    t.lexeme = .operator op → Returns m (.tier ops) ts right r →
    Returns m (.chain op ops (.binary op left right)) r x r' →
    Returns m (.chain op ops left) (t :: ts) x r'
  | denial {m t ts x r} :
    t.lexeme = .operator .not → m < maxNesting → Returns (m + 1) .negation ts x r →
    Returns m .negation (t :: ts) (.unary .not x) r
  | primary {m t ts x r} :
    t.lexeme ≠ .operator .not → Returns m .primary (t :: ts) x r → Returns m .negation (t :: ts) x r
  | group {m t u ts x r} :
    t.lexeme = .opening → u.lexeme = .closing → m < maxNesting →
    Returns (m + 1) (.tier tiers) ts x (u :: r) → Returns m .primary (t :: ts) x r
  | constant {m t b ts} :
    t.lexeme = .constant b → Returns m .primary (t :: ts) (.const b) ts
  | letter {m t chars ts} :
    t.lexeme = .name chars → isLetterName chars →
    Returns m .primary (t :: ts) (.var (String.ofList chars)) ts

-- The reader refuses the tokens with an error.
inductive Refuses : Nat → Reader → List Token → SyntaxError → Prop
  | bottom {m ts e} : Refuses m .negation ts e → Refuses m (.tier []) ts e
  | first {m op ops ts e} : Refuses m (.tier ops) ts e → Refuses m (.tier (op :: ops)) ts e
  | rest {m op ops ts left r e} :
    Returns m (.tier ops) ts left r → Refuses m (.chain op ops left) r e →
    Refuses m (.tier (op :: ops)) ts e
  | operand {m op ops left t ts e} :
    t.lexeme = .operator op → Refuses m (.tier ops) ts e →
    Refuses m (.chain op ops left) (t :: ts) e
  | further {m op ops left t ts right r e} :
    t.lexeme = .operator op → Returns m (.tier ops) ts right r →
    Refuses m (.chain op ops (.binary op left right)) r e →
    Refuses m (.chain op ops left) (t :: ts) e
  | noNegation {m} : Refuses m .negation [] .unexpectedEnd
  | denial {m t ts e} :
    t.lexeme = .operator .not → m < maxNesting → Refuses (m + 1) .negation ts e →
    Refuses m .negation (t :: ts) e
  | tooDenied {m t ts} :
    t.lexeme = .operator .not → maxNesting ≤ m → Refuses m .negation (t :: ts) (.tooNested t)
  | primary {m t ts e} :
    t.lexeme ≠ .operator .not → Refuses m .primary (t :: ts) e → Refuses m .negation (t :: ts) e
  | noPrimary {m} : Refuses m .primary [] .unexpectedEnd
  | group {m t ts e} :
    t.lexeme = .opening → m < maxNesting → Refuses (m + 1) (.tier tiers) ts e →
    Refuses m .primary (t :: ts) e
  | unclosed {m t ts x} :
    t.lexeme = .opening → m < maxNesting → Returns (m + 1) (.tier tiers) ts x [] →
    Refuses m .primary (t :: ts) .unexpectedEnd
  | noClosing {m t u ts x r} :
    t.lexeme = .opening → m < maxNesting → Returns (m + 1) (.tier tiers) ts x (u :: r) →
    u.lexeme ≠ .closing → Refuses m .primary (t :: ts) (.noClosing u)
  | tooGrouped {m t ts} :
    t.lexeme = .opening → maxNesting ≤ m → Refuses m .primary (t :: ts) (.tooNested t)
  | badName {m t chars ts} :
    t.lexeme = .name chars → ¬isLetterName chars → Refuses m .primary (t :: ts) (.badName t)
  | ending {m t ts} : t.lexeme = .ending → Refuses m .primary (t :: ts) .unexpectedEnd
  | closing {m t ts} : t.lexeme = .closing → Refuses m .primary (t :: ts) (.unexpected t)
  | operator {m t op ts} :
    t.lexeme = .operator op → Refuses m .primary (t :: ts) (.unexpected t)

-- The result without what is known of the number of tokens that are left.
def bare {P : List Token → Prop} :
    Except SyntaxError (Formula String × { ts : List Token // P ts }) →
    Except SyntaxError (Formula String × List Token)
  | .error e => .error e
  | .ok (x, r) => .ok (x, r.1)

namespace Reader

variable {m : Nat} {R : Reader} {t : Token} {ts r : List Token} {x : Formula String}

def read (m : Nat) (ts : List Token) : Reader → Except SyntaxError (Formula String × List Token)
  | tier ops => bare (readTier m ops ts)
  | chain op ops left => bare (readChain m op ops left ts)
  | negation => bare (readNegation m ts)
  | primary => bare (readPrimary m ts)

-- The reader can end with the result.
def Ends (m : Nat) (R : Reader) (ts : List Token) :
    Except SyntaxError (Formula String × List Token) → Prop
  | .error e => Refuses m R ts e
  | .ok (x, r) => Returns m R ts x r

theorem read_bottom : (tier []).read m ts = negation.read m ts := by
  rw [read, readTier, read]

theorem read_negation (ht : t.lexeme ≠ .operator .not) :
    negation.read m (t :: ts) = primary.read m (t :: ts) := by
  rw [read, readNegation, if_neg ht, read]

theorem Ends.bottom (h : negation.Ends m ts result) : (tier []).Ends m ts result := by
  cases result
  case error => exact Refuses.bottom h
  case ok => exact Returns.bottom h

theorem Ends.primary (ht : t.lexeme ≠ .operator .not) (h : primary.Ends m (t :: ts) result) :
    negation.Ends m (t :: ts) result := by
  cases result
  case error => exact Refuses.primary ht h
  case ok => exact Returns.primary ht h

theorem ends_all :
    (∀ m ops ts, (tier ops).Ends m ts ((tier ops).read m ts)) ∧
    (∀ m op ops left ts, (chain op ops left).Ends m ts ((chain op ops left).read m ts)) ∧
    (∀ m ts, negation.Ends m ts (negation.read m ts)) ∧
    (∀ m ts, primary.Ends m ts (primary.read m ts)) := by
  apply readTier.mutual_induct
  -- In two cases a reader leaves all tokens to another one, and ends as that one does.
  case case1 => exact fun m ts hi => read_bottom ▸ hi.bottom
  case case14 => exact fun m t ts ht hi => read_negation ht ▸ hi.primary ht
  all_goals
    intros
    simp_all only [read, readTier, readChain, readNegation, readPrimary, bare, Ends, if_true,
      if_false]
  case case2 => exact .first ‹_›
  case case3 => exact .rest ‹_› ‹_›
  case case4 => exact .tier ‹_› ‹_›
  case case5 => exact .stop (by simp)
  case case6 => exact .operand ‹_› ‹_›
  case case7 => exact .further ‹_› ‹_› ‹_›
  case case8 => exact .next ‹_› ‹_› ‹_›
  case case9 ht => exact .stop (by simpa using ht)
  case case10 => exact .noNegation
  case case11 | case12 => exact .denial ‹_› ‹_› ‹_›
  case case13 ht hm => exact .tooDenied ht (Nat.le_of_not_lt hm)
  case case15 => exact .noPrimary
  case case16 => exact .group ‹_› ‹_› ‹_›
  case case17 => exact .unclosed ‹_› ‹_› ‹_›
  case case18 => exact .group ‹_› ‹_› ‹_› ‹_›
  case case19 => exact .noClosing ‹_› ‹_› ‹_› ‹_›
  case case20 ht hm => exact .tooGrouped ht (Nat.le_of_not_lt hm)
  case case21 => exact .constant ‹_›
  case case22 => exact .letter ‹_› ‹_›
  case case23 ht hc => exact .badName ht (by simp [hc])
  case case24 => exact .ending ‹_›
  case case25 => exact .closing ‹_›
  case case26 => exact .operator ‹_›

theorem ends (R : Reader) : R.Ends m ts (R.read m ts) := by
  obtain ⟨ht, hc, hn, hp⟩ := ends_all
  cases R
  case tier => exact ht ..
  case chain => exact hc ..
  case negation => exact hn ..
  case primary => exact hp ..

end Reader

variable {m : Nat} {R : Reader} {ts r : List Token} {x : Formula String}

theorem bare_eq_ok_iff {P : List Token → Prop}
    {result : Except SyntaxError (Formula String × { ts : List Token // P ts })} :
    bare result = .ok (x, r) ↔ ∃ hr, result = .ok (x, ⟨r, hr⟩) := by
  rcases result with e | ⟨y, r', hr'⟩
  case error => simp [bare]
  case ok =>
    simp only [bare, Except.ok.injEq, Prod.mk.injEq, Subtype.mk.injEq]
    constructor
    · rintro ⟨rfl, rfl⟩
      exact ⟨hr', rfl, rfl⟩
    · rintro ⟨-, h⟩
      exact h

theorem Returns.of_read (h : R.read m ts = .ok (x, r)) : Returns m R ts x r := by
  have he : R.Ends m ts (.ok (x, r)) := h ▸ R.ends
  exact he

theorem Refuses.of_read (h : R.read m ts = .error e) : Refuses m R ts e := by
  have he : R.Ends m ts (.error e) := h ▸ R.ends
  exact he

theorem Returns.read (h : Returns m R ts x r) : R.read m ts = .ok (x, r) := by
  induction h
  case bottom hi => rw [Reader.read_bottom, hi]
  case tier h₁ h₂ =>
    obtain ⟨_, h₁⟩ := bare_eq_ok_iff.mp h₁
    obtain ⟨_, h₂⟩ := bare_eq_ok_iff.mp h₂
    simp only [Reader.read, readTier, h₁, h₂, bare]
  case stop ts ht =>
    cases ts
    case nil => simp only [Reader.read, readChain, bare]
    case cons t ts =>
      have ht : t.lexeme ≠ .operator _ := ht t rfl
      simp only [Reader.read, readChain, ht, if_false, bare]
  case next h₁ h₂ =>
    obtain ⟨_, h₁⟩ := bare_eq_ok_iff.mp h₁
    obtain ⟨_, h₂⟩ := bare_eq_ok_iff.mp h₂
    simp only [Reader.read, readChain, *, if_true, bare]
  case denial h =>
    obtain ⟨_, h⟩ := bare_eq_ok_iff.mp h
    simp only [Reader.read, readNegation, *, if_true, bare]
  case primary ht _ hi => rw [Reader.read_negation ht, hi]
  case group h =>
    obtain ⟨_, h⟩ := bare_eq_ok_iff.mp h
    simp only [Reader.read, readPrimary, *, if_true, bare]
  case constant ht => simp only [Reader.read, readPrimary, ht, bare]
  case letter ht hc => simp only [Reader.read, readPrimary, ht, hc, if_true, bare]

theorem Returns.of_readTier {r : Rest ts} (h : readTier m ops ts = .ok (x, r)) :
    Returns m (.tier ops) ts x r :=
  .of_read (by rw [Reader.read, h, bare])

theorem Returns.readTier (h : Returns m (.tier ops) ts x r) :
    ∃ hr, readTier m ops ts = .ok (x, ⟨r, hr⟩) :=
  bare_eq_ok_iff.mp h.read

theorem Refuses.of_readTier (h : readTier m ops ts = .error e) : Refuses m (.tier ops) ts e :=
  .of_read (by rw [Reader.read, h, bare])

end Enunciado.Formula

import Mathlib.Logic.Function.Iterate
import Enunciado.Proofs.Formula.Lexemes

namespace Enunciado.Formula

open Token

-- The token at the cursor. An ending would also be found behind the last token.
def current (s : List Char) (cursor : Nat) : Token :=
  (tokenize s).getD cursor ⟨.ending, s.length⟩

-- What is done next. Where the reader at work was called, the cursor was at `entry`.
inductive Activity
  | tier (ops : List Operator)
  | negation
  | primary
  -- A tier, whose chain has come as far as `left`, looks whether it goes on.
  | chain (entry : Nat) (op : Operator) (ops : List Operator) (left : Formula String)
  | returns (entry : Nat) (x : Formula String)
  | fails (error : SyntaxError)

-- A reader that was called at `entry` and waits for another one.
inductive Waiting
  | operand (entry : Nat) (op : Operator) (ops : List Operator)
  -- The tier waits for the right operand, and `begun` is where this round of its loop has begun.
  | round (entry begun : Nat) (op : Operator) (ops : List Operator) (left : Formula String)
  | denial (entry : Nat)
  | group (entry : Nat)

structure Reading where
  activity : Activity
  cursor : Nat
  nesting : Nat
  waiting : List Waiting

namespace Reading

variable {s : List Char} {i j k entry : Nat} {ops : List Operator} {ws : List Waiting}
variable {r : Reading} {t : Token} {x : Formula String}

def start : Reading :=
  ⟨.tier tiers, 0, 0, []⟩

-- Goes on with `r`, which is one level further inside, unless that is too far.
def enter (t : Token) (r : Reading) : Reading :=
  if r.nesting ≤ maxNesting then r else { r with activity := .fails (.tooNested t) }

def next (s : List Char) : Reading → Reading
  | ⟨.tier [], i, n, ws⟩ => ⟨.negation, i, n, ws⟩
  | ⟨.tier (op :: ops), i, n, ws⟩ => ⟨.tier ops, i, n, .operand i op ops :: ws⟩
  | ⟨.negation, i, n, ws⟩ =>
    if (current s i).lexeme = .operator .not then
      enter (current s i) ⟨.negation, i + 1, n + 1, .denial i :: ws⟩
    else ⟨.primary, i, n, ws⟩
  | ⟨.primary, i, n, ws⟩ =>
    match (current s i).lexeme with
    | .opening => enter (current s i) ⟨.tier tiers, i + 1, n + 1, .group i :: ws⟩
    | .constant b => ⟨.returns i (.const b), i + 1, n, ws⟩
    | .name chars =>
      if isLetterName chars then ⟨.returns i (.var (String.ofList chars)), i + 1, n, ws⟩
      else ⟨.fails (.badName (current s i)), i, n, ws⟩
    | .ending => ⟨.fails .unexpectedEnd, i, n, ws⟩
    | .closing | .operator _ => ⟨.fails (.unexpected (current s i)), i, n, ws⟩
  | ⟨.chain entry op ops left, i, n, ws⟩ =>
    if (current s i).lexeme = .operator op then
      ⟨.tier ops, i + 1, n, .round entry i op ops left :: ws⟩
    else ⟨.returns entry left, i, n, ws⟩
  | ⟨.returns _ x, i, n, .operand entry op ops :: ws⟩ => ⟨.chain entry op ops x, i, n, ws⟩
  | ⟨.returns _ x, i, n, .round entry _ op ops left :: ws⟩ =>
    ⟨.chain entry op ops (.binary op left x), i, n, ws⟩
  | ⟨.returns _ x, i, n, .denial entry :: ws⟩ => ⟨.returns entry (.unary .not x), i, n - 1, ws⟩
  | ⟨.returns _ x, i, n, .group entry :: ws⟩ =>
    if (current s i).lexeme = .closing then ⟨.returns entry x, i + 1, n - 1, ws⟩
    else ⟨.fails (.noClosing (current s i)), i, n, ws⟩
  | ⟨.returns entry x, i, n, []⟩ => ⟨.returns entry x, i, n, []⟩
  | ⟨.fails error, i, n, ws⟩ => ⟨.fails error, i, n, ws⟩

-- Nothing is done any more after an error, or when no reader waits for what is returned.
def Over (r : Reading) : Prop :=
  (∃ error, r.activity = .fails error) ∨ ∃ entry x, r.activity = .returns entry x ∧ r.waiting = []

-- What decreases as long as the cursor stays where it is: calls go down to what they read first,
-- and returns go up through the readers that wait.
def phase : Reading → Nat
  | ⟨.tier ops, _, _, _⟩ => ops.length + 3
  | ⟨.negation, _, _, _⟩ => 2
  | ⟨.primary, _, _, _⟩ => 1
  | ⟨.chain .., _, _, ws⟩ => 2 * ws.length + 1
  | ⟨.returns .., _, _, ws⟩ => 2 * ws.length
  | ⟨.fails _, _, _, _⟩ => 0

@[simp]
theorem enter_cursor : (enter t r).cursor = r.cursor := by
  unfold enter
  split <;> rfl

section Tokens

-- What is found behind the last token is the same as in its place.
theorem lexeme_current (s : List Char) (i : Nat) :
    (current s i).lexeme = (lexemes s)[i]?.getD .ending := by
  calc (current s i).lexeme
    _ = ((tokenize s).map (·.lexeme))[i]?.getD .ending := by
      rw [List.getElem?_map, current, List.getD_eq_getElem?_getD]
      cases (tokenize s)[i]? <;> rfl
    _ = (lexemes s)[i]?.getD .ending := by
      rw [map_lexeme_tokenize, List.getElem?_append]
      split
      case isTrue => rfl
      case isFalse h =>
        rw [List.getElem?_eq_none (Nat.le_of_not_lt h), List.getElem?_singleton]
        split <;> rfl

theorem current_eq_ending_iff : (current s i).lexeme = .ending ↔ (lexemes s).length ≤ i := by
  rw [lexeme_current]
  constructor
  case mp =>
    intro h
    by_contra hi
    rw [List.getElem?_eq_getElem (Nat.lt_of_not_le hi), Option.getD_some] at h
    exact ending_not_mem_lexemes (h ▸ List.getElem_mem _)
  case mpr =>
    intro h
    rw [List.getElem?_eq_none h, Option.getD_none]

theorem length_tokenize (s : List Char) : (tokenize s).length = (lexemes s).length + 1 := by
  simpa using congrArg List.length (map_lexeme_tokenize s)

theorem getElem?_tokenize (h : i ≤ (lexemes s).length) : (tokenize s)[i]? = some (current s i) := by
  have hi : i < (tokenize s).length := length_tokenize s ▸ Nat.lt_succ_of_le h
  rw [current, List.getD_eq_getElem?_getD, List.getElem?_eq_getElem hi, Option.getD_some]

theorem drop_tokenize (h : i ≤ (lexemes s).length) :
    (tokenize s).drop i = current s i :: (tokenize s).drop (i + 1) := by
  obtain ⟨hi, he⟩ := List.getElem?_eq_some_iff.mp (getElem?_tokenize h)
  rw [List.drop_eq_getElem_cons hi, he]

end Tokens

section Steps

-- A step moves the cursor past a token, or it leaves less to do before that happens.
theorem next_progress (s : List Char) (h : ¬r.Over) :
    (r.next s).cursor = r.cursor ∧ (r.next s).phase < r.phase ∨
      (r.next s).cursor = r.cursor + 1 ∧ (current s r.cursor).lexeme ≠ .ending := by
  fun_cases next s r
  all_goals simp_all [phase, Over]
  all_goals omega

theorem next_of_over (s : List Char) (h : r.Over) : r.next s = r := by
  fun_cases next s r <;> simp_all [Over]

theorem next_cursor (s : List Char) (r : Reading) :
    (r.next s).cursor = r.cursor ∨
      (r.next s).cursor = r.cursor + 1 ∧ (current s r.cursor).lexeme ≠ .ending := by
  by_cases h : r.Over
  case pos => exact .inl (congrArg cursor (next_of_over s h))
  case neg => exact (next_progress s h).imp And.left id

theorem next_cursor_le (h : r.cursor ≤ (lexemes s).length) :
    (r.next s).cursor ≤ (lexemes s).length := by
  obtain hc | ⟨hc, hn⟩ := next_cursor s r
  case inl => exact hc ▸ h
  case inr =>
    rw [ne_eq, current_eq_ending_iff] at hn
    omega

end Steps

section Order

-- What the first of those waiting waits for was called at `i`, right behind what it had read itself
-- by then; and so on for the others.
def Entered : Nat → List Waiting → Prop
  | i, [] => i = 0
  | i, .operand entry _ _ :: ws => i = entry ∧ Entered entry ws
  | i, .round entry begun _ _ _ :: ws => i = begun + 1 ∧ entry < begun ∧ Entered entry ws
  | i, .denial entry :: ws | i, .group entry :: ws => i = entry + 1 ∧ Entered entry ws

-- A reader that has read a formula has moved the cursor.
def Ordered : Reading → Prop
  | ⟨.tier _, i, _, ws⟩ | ⟨.negation, i, _, ws⟩ | ⟨.primary, i, _, ws⟩ => Entered i ws
  | ⟨.chain entry _ _ _, i, _, ws⟩ | ⟨.returns entry _, i, _, ws⟩ => entry < i ∧ Entered entry ws
  | ⟨.fails _, _, _, _⟩ => True

theorem enter_ordered (h : r.Ordered) : (enter t r).Ordered := by
  unfold enter
  split
  case isTrue => exact h
  case isFalse => trivial

theorem Ordered.of_tier (h : r.Ordered) (ha : r.activity = .tier ops) :
    Entered r.cursor r.waiting := by
  obtain ⟨_, _, _, _⟩ := r
  cases ha
  exact h

theorem Ordered.of_returns (h : r.Ordered) (ha : r.activity = .returns entry x) :
    entry < r.cursor ∧ Entered entry r.waiting := by
  obtain ⟨_, _, _, _⟩ := r
  cases ha
  exact h

-- The readers that wait tell where the one began that they wait for.
theorem entered_unique (hi : Entered i ws) (hj : Entered j ws) : i = j := by
  cases ws
  case nil => exact hi.trans hj.symm
  case cons w ws => cases w <;> exact hi.1.trans hj.1.symm

theorem next_ordered (h : r.Ordered) : (r.next s).Ordered := by
  fun_cases next s r
  case case3 | case5 => exact enter_ordered ⟨rfl, h⟩
  all_goals simp_all [Ordered, Entered]
  all_goals omega

end Order

section Outcome

-- Goes on with what a reader returns.
def andThen {P : List Token → Prop}
    (result : Except SyntaxError (Formula String × { ts : List Token // P ts }))
    (rest : Formula String → List Token → Except SyntaxError (Formula String)) :
    Except SyntaxError (Formula String) :=
  match result with
  | .error e => .error e
  | .ok (x, ts) => rest x ts

-- What those that wait make of a formula and of the tokens that are left behind it.
def resume : List Waiting → Nat → Formula String → List Token →
    Except SyntaxError (Formula String)
  | [], _, x, [] => .ok x
  | [], _, x, t :: _ => if t.lexeme = .ending then .ok x else .error (.trailing t)
  | .operand _ op ops :: ws, n, x, ts => andThen (readChain n op ops x ts) (resume ws n)
  | .round _ _ op ops left :: ws, n, x, ts =>
    andThen (readChain n op ops (.binary op left x) ts) (resume ws n)
  | .denial _ :: ws, n, x, ts => resume ws (n - 1) (.unary .not x) ts
  | .group _ :: _, _, _, [] => .error .unexpectedEnd
  | .group _ :: ws, n, x, t :: ts =>
    if t.lexeme = .closing then resume ws (n - 1) x ts else .error (.noClosing t)

-- What the readers make of the tokens that are left.
def outcome (s : List Char) : Reading → Except SyntaxError (Formula String)
  | ⟨.tier ops, i, n, ws⟩ => andThen (readTier n ops ((tokenize s).drop i)) (resume ws n)
  | ⟨.negation, i, n, ws⟩ => andThen (readNegation n ((tokenize s).drop i)) (resume ws n)
  | ⟨.primary, i, n, ws⟩ => andThen (readPrimary n ((tokenize s).drop i)) (resume ws n)
  | ⟨.chain _ op ops left, i, n, ws⟩ =>
    andThen (readChain n op ops left ((tokenize s).drop i)) (resume ws n)
  | ⟨.returns _ x, i, n, ws⟩ => resume ws n x ((tokenize s).drop i)
  | ⟨.fails error, _, _, _⟩ => .error error

variable (n : Nat) (op : Operator) (ops : List Operator) (left : Formula String) (t : Token)
variable (ts : List Token)
variable (rest : Formula String → List Token → Except SyntaxError (Formula String))

theorem andThen_readTier :
    andThen (readTier n (op :: ops) ts) rest =
      andThen (readTier n ops ts) fun x r => andThen (readChain n op ops x r) rest := by
  rw [readTier]
  rcases readTier n ops ts with e | ⟨x, r, hr⟩
  case error => rfl
  case ok =>
    simp only [andThen]
    rcases readChain n op ops x r with e | ⟨y, r', hr'⟩ <;> rfl

theorem andThen_readChain :
    andThen (readChain n op ops left (t :: ts)) rest =
      if t.lexeme = .operator op then
        andThen (readTier n ops ts) fun x r =>
          andThen (readChain n op ops (.binary op left x) r) rest
      else rest left (t :: ts) := by
  rw [readChain]
  split
  case isFalse => rfl
  case isTrue =>
    rcases readTier n ops ts with e | ⟨x, r, hr⟩
    case error => rfl
    case ok =>
      simp only [andThen]
      rcases readChain n op ops (.binary op left x) r with e | ⟨y, r', hr'⟩ <;> rfl

theorem andThen_readNegation :
    andThen (readNegation n (t :: ts)) rest =
      if t.lexeme = .operator .not then
        if n < maxNesting then
          andThen (readNegation (n + 1) ts) fun x r => rest (.unary .not x) r
        else .error (.tooNested t)
      else andThen (readPrimary n (t :: ts)) rest := by
  rw [readNegation]
  split
  case isFalse => rfl
  case isTrue =>
    split
    case isFalse => rfl
    case isTrue => rcases readNegation (n + 1) ts with e | ⟨x, r, hr⟩ <;> rfl

theorem andThen_readPrimary (ht : t.lexeme = .opening) :
    andThen (readPrimary n (t :: ts)) rest =
      if n < maxNesting then
        andThen (readTier (n + 1) tiers ts) fun x r =>
          match r with
          | [] => .error .unexpectedEnd
          | u :: r => if u.lexeme = .closing then rest x r else .error (.noClosing u)
      else .error (.tooNested t) := by
  simp only [readPrimary, ht]
  split
  case isFalse => rfl
  case isTrue =>
    rcases readTier (n + 1) tiers ts with e | ⟨x, _ | ⟨u, r⟩, hr⟩
    case error => rfl
    case ok.nil => rfl
    case ok.cons => by_cases hu : u.lexeme = .closing <;> simp only [andThen, hu, if_true, if_false]

theorem resume_group (i : Nat) (ws : List Waiting) (n : Nat) :
    resume (.group i :: ws) n = fun x ts =>
      match ts with
      | [] => .error .unexpectedEnd
      | t :: ts =>
        if t.lexeme = .closing then resume ws (n - 1) x ts else .error (.noClosing t) := by
  funext x ts
  cases ts <;> rfl

theorem outcome_enter (s : List Char) (r : Reading) :
    (enter t r).outcome s =
      if r.nesting ≤ maxNesting then r.outcome s else .error (.tooNested t) := by
  unfold enter
  split <;> rfl

theorem outcome_next (h : r.cursor ≤ (lexemes s).length) :
    (r.next s).outcome s = r.outcome s := by
  fun_cases next s r
  case case1 => rw [outcome, outcome, readTier]
  case case2 =>
    rw [outcome, outcome, andThen_readTier]
    rfl
  case case3 hn =>
    rw [outcome_enter, outcome, outcome, drop_tokenize h, andThen_readNegation, if_pos hn]
    rfl
  case case4 hn => rw [outcome, outcome, drop_tokenize h, andThen_readNegation, if_neg hn]
  case case5 ho =>
    rw [outcome_enter, outcome, outcome, drop_tokenize h, andThen_readPrimary _ _ _ _ ho,
      resume_group]
    rfl
  case case6 | case7 | case8 | case9 | case10 | case11 =>
    rw [outcome, outcome, drop_tokenize h]
    simp [readPrimary, *, andThen]
  case case12 hc =>
    rw [outcome, outcome, drop_tokenize h, andThen_readChain, if_pos hc]
    rfl
  case case13 hc => rw [outcome, outcome, drop_tokenize h, andThen_readChain, if_neg hc]
  case case14 | case15 | case16 => rfl
  case case17 hc => rw [outcome, outcome, drop_tokenize h, resume, if_pos hc]
  case case18 hc => rw [outcome, outcome, drop_tokenize h, resume, if_neg hc]
  case case19 | case20 => rfl

theorem outcome_start (s : List Char) : start.outcome s = ofTokens (tokenize s) := by
  rw [start, outcome, List.drop_zero, ofTokens]
  rcases readTier 0 tiers (tokenize s) with e | ⟨x, _ | ⟨t, ts⟩, hr⟩ <;> rfl

theorem outcome_of_over (h : r.Over) (hc : r.cursor ≤ (lexemes s).length) (ho : r.Ordered) :
    (∃ error, r.activity = .fails error ∧ r.outcome s = .error error) ∨
      ∃ x, r.activity = .returns 0 x ∧ r.waiting = [] ∧
        r.outcome s = if (current s r.cursor).lexeme = .ending then .ok x
          else .error (.trailing (current s r.cursor)) := by
  obtain ⟨activity, i, n, ws⟩ := r
  obtain ⟨error, ha⟩ | ⟨entry, x, ha, hw⟩ := h
  case inl =>
    cases ha
    exact .inl ⟨error, rfl, rfl⟩
  case inr =>
    cases ha
    cases hw
    have he : entry = 0 := ho.2
    refine .inr ⟨x, by rw [he], rfl, ?_⟩
    rw [outcome, drop_tokenize hc, resume]

end Outcome

section Runs

-- What is done after `k` steps.
def run (s : List Char) (k : Nat) : Reading :=
  (next s)^[k] start

theorem run_sound (s : List Char) (k : Nat) :
    (run s k).cursor ≤ (lexemes s).length ∧ (run s k).Ordered ∧
      (run s k).outcome s = ofTokens (tokenize s) := by
  induction k
  case zero => exact ⟨Nat.zero_le _, rfl, outcome_start s⟩
  case succ k hi =>
    obtain ⟨hc, ho, he⟩ := hi
    rw [run, Function.iterate_succ_apply']
    exact ⟨next_cursor_le hc, next_ordered ho, (outcome_next hc).trans he⟩

-- With each step there are fewer tokens left, or as many and less to do before the next is read.
theorem exists_over (s : List Char) (r : Reading) : ∃ k, ((next s)^[k] r).Over := by
  by_cases h : r.Over
  case pos => exact ⟨0, h⟩
  case neg =>
    obtain ⟨k, hk⟩ := exists_over s (r.next s)
    exact ⟨k + 1, hk⟩
termination_by ((lexemes s).length - r.cursor, r.phase)
decreasing_by
  obtain ⟨hc, hp⟩ | ⟨hc, hn⟩ := next_progress s h
  case inl =>
    rw [hc]
    exact .right _ hp
  case inr =>
    rw [ne_eq, current_eq_ending_iff] at hn
    exact .left _ _ (by omega)

theorem run_of_over (h : (run s k).Over) (hj : k ≤ j) : run s j = run s k := by
  induction hj
  case refl => rfl
  case step hi => rw [run, Function.iterate_succ_apply', ← run, hi, next_of_over s h]

end Runs

end Reading

open Reading in
theorem cursor_never_passes_ending (s : List Char) :
    (tokenize s).length = (lexemes s).length + 1 ∧
    (∀ i t, (tokenize s)[i]? = some t → (t.lexeme = .ending ↔ i = (lexemes s).length)) ∧
    (∀ k, (run s k).cursor ≤ (lexemes s).length ∧
      (tokenize s)[(run s k).cursor]? = some (current s (run s k).cursor) ∧
      ((run s (k + 1)).cursor = (run s k).cursor ∨
        (run s (k + 1)).cursor = (run s k).cursor + 1 ∧
          (current s (run s k).cursor).lexeme ≠ .ending)) ∧
    (∀ k entry x, (run s k).activity = .returns entry x → entry < (run s k).cursor ∧
      (∀ j ops, (run s j).activity = .tier ops → (run s j).waiting = (run s k).waiting →
        (run s j).cursor = entry) ∧
      ∀ before begun op ops left ws,
        (run s k).waiting = .round before begun op ops left :: ws →
        begun + 2 ≤ (run s k).cursor) ∧
    ∃ k, (run s k).Over ∧ (∀ j, k ≤ j → run s j = run s k) ∧
      ((∃ error, (run s k).activity = .fails error ∧ ofTokens (tokenize s) = .error error) ∨
        ∃ x, (run s k).activity = .returns 0 x ∧ (run s k).waiting = [] ∧
          ofTokens (tokenize s) =
            if (current s (run s k).cursor).lexeme = .ending then .ok x
            else .error (.trailing (current s (run s k).cursor))) := by
  refine ⟨length_tokenize s, fun i t hi => ?_, fun k => ?_, fun k entry x ha => ?_, ?_⟩
  case refine_1 =>
    have hl : i < (lexemes s).length + 1 :=
      length_tokenize s ▸ (List.getElem?_eq_some_iff.mp hi).1
    have ht : current s i = t := Option.some.inj ((getElem?_tokenize (by omega)).symm.trans hi)
    rw [← ht, current_eq_ending_iff]
    omega
  case refine_2 =>
    have hc := (run_sound s k).1
    refine ⟨hc, getElem?_tokenize hc, ?_⟩
    rw [run, Function.iterate_succ_apply']
    exact next_cursor s (run s k)
  case refine_3 =>
    obtain ⟨hl, he⟩ := (run_sound s k).2.1.of_returns ha
    refine ⟨hl, fun j ops hj hw => ?_, fun before begun op ops left ws hw => ?_⟩
    case refine_1 =>
      have hj := (run_sound s j).2.1.of_tier hj
      exact entered_unique (hw ▸ hj) he
    case refine_2 =>
      rw [hw] at he
      have hb : entry = begun + 1 := he.1
      omega
  case refine_4 =>
    obtain ⟨k, hk⟩ := exists_over s start
    obtain ⟨hc, ho, he⟩ := run_sound s k
    exact ⟨k, hk, fun j hj => run_of_over hk hj, he ▸ outcome_of_over hk hc ho⟩

example : (Reading.run "(p".toList 24).activity = .fails (.noClosing ⟨.ending, 2⟩) := by cbv

end Enunciado.Formula

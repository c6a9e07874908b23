import Enunciado.Proofs.Formula.Depth
import Enunciado.Proofs.Formula.Semantics
import Enunciado.Proofs.Formula.Tokens
import Enunciado.Proofs.Formula.Words

namespace Enunciado

open Formula Token

namespace Lexeme

variable {declared : List String} {l : Lexeme}

-- Whether the lexeme is a letter that is not declared.
def isStray (declared : List String) : Lexeme → Bool
  | name chars => isLetterName chars && !declared.contains (String.ofList chars)
  | _ => false

-- The lexeme, or ⊥ instead of a letter that is not declared.
def falsify (declared : List String) (l : Lexeme) : Lexeme :=
  if l.isStray declared then constant false else l

theorem isStray_iff :
    l.isStray declared ↔
      ∃ chars, l = name chars ∧ isLetterName chars ∧ String.ofList chars ∉ declared := by
  cases l
  case name chars => simp [isStray]
  all_goals simp [isStray]

theorem exists_letter_of_isStray {chars : List Char} (h : (name chars).isStray declared) :
    ∃ c, chars = [c] := by
  obtain ⟨_, ⟨rfl⟩, hl, -⟩ := isStray_iff.mp h
  match chars with
  | [c] => exact ⟨c, rfl⟩

theorem isStray_of_reserved? (h : reserved? c = some l) : l.isStray declared = false := by
  cases l
  case name => exact absurd rfl (reserved?_ne_name h)
  all_goals rfl

theorem falsify_of_isStray (h : l.isStray declared) : l.falsify declared = constant false :=
  if_pos h

theorem falsify_of_not_isStray (h : l.isStray declared = false) : l.falsify declared = l :=
  if_neg (ne_true_of_eq_false h)

theorem isStray_falsify (declared : List String) (l : Lexeme) :
    (l.falsify declared).isStray declared = false := by
  cases h : l.isStray declared
  case false => rw [falsify_of_not_isStray h, h]
  case true =>
    rw [falsify_of_isStray h]
    rfl

theorem falsify_of_reserved? (h : reserved? c = some l) : l.falsify declared = l :=
  falsify_of_not_isStray (isStray_of_reserved? h)

end Lexeme

namespace Token

variable {declared : List String} {t : Token} {ts us : List Token} {pending s : List Char}

-- The text with ⊥ where the token begins.
def strike (s : List Char) (t : Token) : List Char :=
  s.set t.position '⊥'

-- The text with ⊥ for those of the tokens that are letters and not declared.
def strikeAll (declared : List String) (s : List Char) (ts : List Token) : List Char :=
  (ts.filter (·.lexeme.isStray declared)).foldl strike s

theorem strikeAll_append :
    strikeAll declared s (ts ++ us) = strikeAll declared (strikeAll declared s ts) us := by
  simp [strikeAll]

theorem strikeAll_singleton (h : t.lexeme.isStray declared) :
    strikeAll declared s [t] = strike s t := by
  simp [strikeAll, h]

theorem strikeAll_eq (h : ∀ t ∈ ts, t.lexeme.isStray declared = false) :
    strikeAll declared s ts = s := by
  have hf : ts.filter (·.lexeme.isStray declared) = [] := by simpa using h
  rw [strikeAll, hf]
  rfl

-- The expression with ⊥ for each letter that is not declared.
def falsified (declared : List String) (s : List Char) : List Char :=
  strikeAll declared s (tokenize s)

theorem lexemes_name (hc : ∀ c ∈ s, parting? c = none) : lexemes s = pendingName s.reverse := by
  have go (pending) : lexemesFrom pending s = pendingName (s.reverse ++ pending) := by
    induction s generalizing pending
    case nil => rfl
    case cons c s hi =>
      have ⟨hp, hc⟩ := List.forall_mem_cons.mp hc
      simp [lexemesFrom_other hp, hi hc]
  rw [lexemes_eq, go, List.append_nil]

theorem pendingName_of_ne_nil (h : pending ≠ []) :
    pendingName pending = [.name pending.reverse] := by
  cases pending
  case nil => contradiction
  case cons => rfl

-- Striking a name leaves all characters before and behind it as they are.
theorem exists_struck (declared : List String) (hp : ∀ c ∈ pending, parting? c = none)
    (before after : List Char) :
    ∃ struck : List Char, struck.length = pending.length ∧
      strikeAll declared (before ++ pending.reverse ++ after)
        (ofPending (before.length + pending.length) pending) = before ++ struck ++ after ∧
      lexemes struck = (pendingName pending).map (·.falsify declared) := by
  by_cases hn : pending = []
  case pos =>
    subst hn
    exact ⟨[], rfl, rfl, rfl⟩
  case neg =>
    rw [ofPending_of_ne_nil hn, Nat.add_sub_cancel, pendingName_of_ne_nil hn, List.map_singleton]
    cases h : (Lexeme.name pending.reverse).isStray declared
    case false =>
      refine ⟨pending.reverse, List.length_reverse, strikeAll_eq (by simpa using h), ?_⟩
      rw [lexemes_name (by simpa using hp), List.reverse_reverse, pendingName_of_ne_nil hn,
        Lexeme.falsify_of_not_isStray h]
    case true =>
      obtain ⟨c, hc⟩ := Lexeme.exists_letter_of_isStray h
      refine ⟨['⊥'], ?_, ?_, ?_⟩
      case refine_1 => simpa using (congrArg List.length hc).symm
      case refine_2 =>
        rw [strikeAll_singleton h, strike, hc]
        simp
      case refine_3 =>
        rw [Lexeme.falsify_of_isStray h]
        rfl

-- Of the expression, `before` has been scanned and struck, and a name has begun with `pending`.
theorem exists_strikeAll_scan (declared : List String) (hp : ∀ c ∈ pending, parting? c = none)
    (before rest : List Char) :
    ∃ after, strikeAll declared (before ++ pending.reverse ++ rest)
        (scan (before.length + pending.length) pending rest) = before ++ after ∧
      lexemes after = (lexemesFrom pending rest).map (·.falsify declared) := by
  induction rest generalizing before pending
  case nil =>
    obtain ⟨struck, -, hs, hl⟩ := exists_struck declared hp before []
    refine ⟨struck, ?_, hl⟩
    rw [scan, strikeAll_append, hs, List.append_nil]
    exact strikeAll_eq (by simp [Lexeme.isStray])
  case cons c rest hi =>
    cases hc : parting? c
    case some ls =>
      obtain ⟨struck, hn, hs, hl⟩ := exists_struck declared hp before (c :: rest)
      obtain ⟨after, ha, hl'⟩ := hi (List.forall_mem_nil _) (before ++ struck ++ [c])
      refine ⟨struck ++ c :: after, ?_, ?_⟩
      case refine_1 =>
        have hr : strikeAll declared (before ++ struck ++ c :: rest)
            (ls.map (⟨·, before.length + pending.length⟩)) = before ++ struck ++ c :: rest := by
          refine strikeAll_eq <| List.forall_mem_map.mpr fun l hm => ?_
          exact Lexeme.isStray_of_reserved? (reserved?_of_mem_parting hc hm)
        have hb : before.length + pending.length + 1 =
            (before ++ struck ++ [c]).length + ([] : List Char).length := by simp [hn]; omega
        rw [scan_parting hc, strikeAll_append, strikeAll_append, hs, hr, hb]
        simpa using ha
      case refine_2 =>
        have hr : ls.map (·.falsify declared) = ls :=
          (List.map_congr_left fun l hm =>
            Lexeme.falsify_of_reserved? (reserved?_of_mem_parting hc hm)).trans (List.map_id' ls)
        rw [lexemes_append_parting hc, hl, hl', lexemesFrom_parting hc]
        simp [hr]
    case none =>
      have hp' : ∀ d ∈ c :: pending, parting? d = none := List.forall_mem_cons.mpr ⟨hc, hp⟩
      have h := hi hp' before
      rw [scan_other hc, lexemesFrom_other hc]
      simpa [Nat.add_assoc] using h

theorem lexemes_falsified (declared : List String) (s : List Char) :
    lexemes (falsified declared s) = (lexemes s).map (·.falsify declared) := by
  obtain ⟨after, ha, hl⟩ := exists_strikeAll_scan declared (List.forall_mem_nil _) [] s
  rw [lexemes_eq s, ← hl]
  exact congrArg lexemes ha

-- Nothing is replaced exactly if all letters are declared.
theorem falsified_eq_iff :
    falsified declared s = s ↔ ∀ t ∈ tokenize s, t.lexeme.isStray declared = false := by
  refine ⟨fun h t ht => ?_, strikeAll_eq⟩
  have hl : (lexemes s).map (·.falsify declared) = lexemes s := by rw [← lexemes_falsified, h]
  have ht : t.lexeme ∈ (lexemes s).map (·.falsify declared) ++ [.ending] :=
    hl.symm ▸ map_lexeme_tokenize s ▸ List.mem_map_of_mem ht
  obtain ht | ht := List.mem_append.mp ht
  case inl =>
    obtain ⟨l, -, hl⟩ := List.mem_map.mp ht
    rw [← hl, Lexeme.isStray_falsify]
  case inr =>
    rw [List.mem_singleton.mp ht]
    rfl

end Token

namespace Formula

variable {declared : List String} {n : Nat} {A : Phrase} {ts : List Lexeme} {x : Formula String}

-- The formula with a false constant for each name that is not declared.
def falsify (declared : List String) : Formula String → Formula String
  | var name => if name ∈ declared then var name else const false
  | const b => const b
  | unary op x => unary op (x.falsify declared)
  | binary op x y => binary op (x.falsify declared) (y.falsify declared)

theorem names_falsify (declared : List String) (x : Formula String) :
    (x.falsify declared).names = x.names.filter (· ∈ declared) := by
  induction x
  case var name => by_cases h : name ∈ declared <;> simp [falsify, names, h]
  case const => rfl
  case unary hi => rw [falsify, names, hi, names]
  case binary hx hy => rw [falsify, names, hx, hy, names, List.filter_append]

theorem height_falsify (declared : List String) (x : Formula String) :
    (x.falsify declared).height = x.height := by
  induction x
  case var => rw [falsify]; split <;> rfl
  case const => rfl
  case unary hi => rw [falsify, height, hi, height]
  case binary hx hy => rw [falsify, height, hx, hy, height]

-- Names that are not declared are false to begin with.
theorem truth_falsify {v : String → Bool} (h : ∀ name ∉ declared, v name = false)
    (x : Formula String) : (x.falsify declared).truth v = x.truth v := by
  induction x
  case var name => by_cases hn : name ∈ declared <;> simp [falsify, truth, hn, h]
  case const => rfl
  case unary hi => rw [falsify, truth, hi, truth]
  case binary hx hy => rw [falsify, truth, hx, hy, truth]

theorem Derives.falsify (declared : List String) (h : Derives n A ts x) :
    Derives n A (ts.map (·.falsify declared)) (x.falsify declared) := by
  induction h using Derives.stepwise
  case operand hA _ hi => exact .operand hA hi
  case append hA _ _ hx hy =>
    rw [List.map_append, List.map_cons]
    exact .append hA hx hy
  case denial hi => exact .denial hi
  case primary hi => exact .primary hi
  case group hi =>
    rw [List.cons_append, List.map_cons, List.map_append]
    exact .group hi
  case constant => exact .constant
  case letter chars hc =>
    by_cases h : String.ofList chars ∈ declared
    case pos =>
      simpa [Lexeme.falsify, Lexeme.isStray, Formula.falsify, hc, h] using Derives.letter hc
    case neg =>
      simpa [Lexeme.falsify, Lexeme.isStray, Formula.falsify, hc, h] using Derives.constant

theorem parse_falsified {e : String} (declared : List String) (h : parse e = .ok x) :
    parse (String.ofList (Token.falsified declared e.toList)) = .ok (x.falsify declared) := by
  have ⟨hd, hx⟩ := derives_of_parse h
  rw [parse_eq_ok_iff, String.toList_ofList, lexemes_falsified, depth_eq_height, height_falsify,
    ← depth_eq_height]
  exact ⟨hd.falsify declared, hx⟩

end Formula

end Enunciado

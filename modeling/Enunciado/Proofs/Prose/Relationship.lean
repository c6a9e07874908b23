import Enunciado.Proofs.Prose.Clause
import Enunciado.Prose.Relationship

namespace Enunciado.Prose

open Formula Token

section Reading

variable {γ ε : Type} {read : List Char → Except ε γ} {ignorable : ε → Bool} {P : γ → Prop}
  {readBoth : List Char × List Char → Except (RelationError ε) (γ × γ)}

theorem readConditional_eq_ok_iff :
    readConditional read parts = .ok (a, c) ↔ read parts.1 = .ok a ∧ read parts.2 = .ok c := by
  unfold readConditional
  split
  case h_1 h => simp [h]
  case h_2 h => split <;> simp_all

-- `Relates read readBoth ignorable ss rs` says that the sentences `ss` state the relationships `rs`,
-- one sentence, or a conditional and its continuation, after the other.
inductive Relates (read : List Char → Except ε γ)
    (readBoth : List Char × List Char → Except (RelationError ε) (γ × γ)) (ignorable : ε → Bool) :
    List (List Char) → List (Relationship γ) → Prop
  | nil :
    Relates read readBoth ignorable [] []
  | ignored {s e ss rs} :
    conditional? s = none → read s = .error e → ignorable e →
    Relates read readBoth ignorable ss rs → Relates read readBoth ignorable (s :: ss) rs
  | plain {s c ss rs} :
    conditional? s = none → read s = .ok c →
    Relates read readBoth ignorable ss rs → Relates read readBoth ignorable (s :: ss) (⟨.plain c, s⟩ :: rs)
  | conditional {s parts a c ss rs} :
    conditional? s = some parts → readBoth parts = .ok (a, c) →
    (∀ t ∈ ss.head?, ¬startsWithPero t) →
    Relates read readBoth ignorable ss rs → Relates read readBoth ignorable (s :: ss) (⟨.conditional a c, s⟩ :: rs)
  | chained {s t parts parts' a c a' c' ss rs} :
    conditional? s = some parts → readBoth parts = .ok (a, c) →
    startsWithPero t →
    conditional? t = some parts' → readBoth parts' = .ok (a', c') →
    Relates read readBoth ignorable ss rs →
    Relates read readBoth ignorable (s :: t :: ss) (⟨.chained a c a' c', s ++ ['.', ' '] ++ t⟩ :: rs)

theorem relate_eq_ok_iff :
    relate read readBoth ignorable ss = .ok rs ↔ Relates read readBoth ignorable ss rs := by
  constructor
  case mp =>
    intro h
    fun_induction relate generalizing rs
    case case1 => cases h; exact .nil
    case case2 hs _ hr hi ih => exact .ignored hs hr hi (ih h)
    case case4 hs _ hr ih =>
      have ⟨_, h, hrs⟩ := map_eq_ok_iff.mp h
      exact hrs ▸ .plain hs hr (ih h)
    case case6 hs _ _ hr => cases h; exact .conditional hs hr nofun .nil
    case case9 hs _ _ hr _ _ hp _ ht _ _ hr' ih =>
      have ⟨_, h, hrs⟩ := map_eq_ok_iff.mp h
      exact hrs ▸ .chained hs hr hp ht hr' (ih h)
    case case10 hs _ _ hr _ _ hp ih =>
      have ⟨_, h, hrs⟩ := map_eq_ok_iff.mp h
      exact hrs ▸ .conditional hs hr (by simpa using hp) (ih h)
    all_goals cases h
  case mpr =>
    intro h
    induction h
    case nil => simp [relate]
    case ignored hs hr hi _ ih => simp [relate, hs, hr, hi, ih]
    case plain hs hr _ ih => simp [relate, hs, hr, ih, Except.map]
    case conditional ss _ hs hr hp _ ih =>
      cases ss
      case nil => simp_all [relate]
      case cons t ss _ =>
        have hp : startsWithPero t = false := by simpa using hp
        rw [relate]
        simp [hs, hr, hp, ih, Except.map]
    case chained hs hr hp ht hr' _ ih => simp [relate, hs, hr, hp, ht, hr', ih, Except.map]

def Statement.clauses : Statement γ → List γ
  | plain c => [c]
  | conditional a c => [a, c]
  | chained a₁ c₁ a₂ c₂ => [a₁, c₁, a₂, c₂]

-- What holds of every clause that is read holds of all clauses of the relationships.
theorem Relates.forall_clauses (h : Relates read (readConditional read) ignorable ss rs)
    (hr : ∀ {s c}, read s = .ok c → P c) : ∀ r ∈ rs, ∀ c ∈ r.statement.clauses, P c := by
  have hc {parts a c} (hp : readConditional read parts = .ok (a, c)) : P a ∧ P c :=
    have ⟨ha, hc⟩ := readConditional_eq_ok_iff.mp hp
    ⟨hr ha, hr hc⟩
  induction h
  case nil => exact nofun
  case ignored ih => exact ih
  case plain hp _ ih =>
    refine List.forall_mem_cons.mpr ⟨?_, ih⟩
    simpa [Statement.clauses] using hr hp
  case conditional hp _ _ ih =>
    refine List.forall_mem_cons.mpr ⟨?_, ih⟩
    simpa [Statement.clauses] using hc hp
  case chained hp _ _ hp' _ ih =>
    refine List.forall_mem_cons.mpr ⟨?_, ih⟩
    have ⟨ha, hc₁⟩ := hc hp
    have ⟨ha', hc'⟩ := hc hp'
    simp [Statement.clauses, ha, hc₁, ha', hc']

end Reading

section Translation

variable {γ δ ε ε' : Type} {read : List Char → Except ε γ} {read' : List Char → Except ε' δ}
  {readBoth : List Char × List Char → Except (RelationError ε) (γ × γ)}
  {readBoth' : List Char × List Char → Except (RelationError ε') (δ × δ)}
  {ignorable : ε → Bool} {ignorable' : ε' → Bool} {e : ε → ε'} {f : γ → δ}

def RelationError.map (e : ε → ε') : RelationError ε → RelationError ε'
  | clause x => clause (e x)
  | continuation s => continuation s

def Statement.map (f : γ → δ) : Statement γ → Statement δ
  | plain c => plain (f c)
  | conditional a c => conditional (f a) (f c)
  | chained a₁ c₁ a₂ c₂ => chained (f a₁) (f c₁) (f a₂) (f c₂)

def Relationship.map (f : γ → δ) (r : Relationship γ) : Relationship δ :=
  ⟨r.statement.map f, r.source⟩

theorem readConditional_translate (hr : ∀ s, read' s = translate e f (read s))
    (parts : List Char × List Char) :
    readConditional read' parts =
      translate (RelationError.map e) (Prod.map f f) (readConditional read parts) := by
  unfold readConditional
  rw [hr, hr]
  cases read parts.1
  case error => rfl
  case ok => cases read parts.2 <;> rfl

-- The sentences are taken in the same way, whatever their clauses are read as.
theorem relate_translate (hr : ∀ s, read' s = translate e f (read s))
    (hc : ∀ parts,
      readBoth' parts = translate (RelationError.map e) (Prod.map f f) (readBoth parts))
    (hi : ∀ x, ignorable' (e x) = ignorable x) (ss : List (List Char)) :
    relate read' readBoth' ignorable' ss =
      translate (RelationError.map e) (List.map (Relationship.map f))
        (relate read readBoth ignorable ss) := by
  have hm (r : Relationship γ) (result : Except (RelationError ε) (List (Relationship γ))) :
      (translate (RelationError.map e) (List.map (Relationship.map f)) result).map (r.map f :: ·) =
        translate (RelationError.map e) (List.map (Relationship.map f)) (result.map (r :: ·)) := by
    cases result <;> rfl
  -- Both sides go the same way at each sentence, since `read` fails exactly where `read'` does.
  fun_induction relate read readBoth ignorable ss
  all_goals rw [relate]; simp_all [← hm, RelationError.map, Relationship.map, Statement.map]

end Translation

section Rendering

variable {n : Nat} {as : List α} {text : α → List Char}
  {formula : α → Formula String} {x y : Formula String} {symbols : List String}

-- However loose the parts are, nothing of them leaks out of their parentheses.
theorem derives_grouped (op : Operator) (hop : op ≠ .not) (ha : as ≠ [])
    (h : ∀ a ∈ as, Derives n .expression (lexemes (text a)) (formula a)) :
    Derives (n + 1) .expression
      (lexemes (joinWith [' ', op.glyph, ' '] (as.map fun a => '(' :: text a ++ [')'])))
      (foldLeft op (as.map formula)) := by
  have ⟨A, B, hA⟩ := Phrase.exists_chain? hop
  have hj := derives_joinWith hA ha fun a hm =>
    (derives_parenthesized (h a hm)).loosen (Phrase.chain?_operand_le hA)
  exact hj.loosen Phrase.precedence_pos

theorem derives_pair (op : Operator) (hop : op ≠ .not) (hx : Derives n .expression (lexemes s) x)
    (hy : Derives n .expression (lexemes t) y) :
    Derives (n + 1) .expression
      (lexemes ('(' :: s ++ [')', ' ', op.glyph, ' ', '('] ++ t ++ [')'])) (.binary op x y) := by
  have h : ∀ p ∈ [(s, x), (t, y)], Derives n .expression (lexemes p.1) p.2 := by simp [hx, hy]
  have h := derives_grouped op hop (by simp) h
  simpa [joinWith, foldLeft] using h

theorem Clause.Over.derives_expression {c : Clause String} (h : c.Over symbols)
    (hl : ∀ s ∈ symbols, isLetterName s.toList) :
    Derives 4 .expression (lexemes (c.render String.toList)) c.formula :=
  (h.derives hl).loosen Phrase.precedence_pos

theorem Statement.derives {st : Statement (Clause String)} (h : ∀ c ∈ st.clauses, c.Over symbols)
    (hl : ∀ s ∈ symbols, isLetterName s.toList) :
    Derives 6 .expression (lexemes (st.render (Clause.render String.toList))) st.formula := by
  have hd (c) (hc : c ∈ st.clauses) := (h c hc).derives_expression hl
  cases st
  case plain c => exact (hd c (by simp [clauses])).mono (by decide)
  case conditional a c =>
    have ha := hd a (by simp [clauses])
    have hc := hd c (by simp [clauses])
    exact (derives_pair .implies (by decide) ha hc).mono (by decide)
  case chained a₁ c₁ a₂ c₂ =>
    have ha₁ := hd a₁ (by simp [clauses])
    have hc₁ := hd c₁ (by simp [clauses])
    have ha₂ := hd a₂ (by simp [clauses])
    have hc₂ := hd c₂ (by simp [clauses])
    have h₁ := derives_pair .implies (by decide) ha₁ hc₁
    have h₂ := derives_pair .implies (by decide) ha₂ hc₂
    exact derives_pair .and (by decide) h₁ h₂

theorem derives_conjoin (ha : as ≠ [])
    (h : ∀ a ∈ as, Derives n .expression (lexemes (text a)) (formula a)) :
    Derives (n + 1) .expression (lexemes (conjoin (as.map text)))
      (foldLeft .and (as.map formula)) := by
  match as with
  | [a] => exact (h a (by simp)).mono (by omega)
  | a :: b :: as =>
    have hg := derives_grouped .and (by decide) ha h
    simpa [conjoin, Operator.glyph, Function.comp_def] using hg

theorem Plain.pair (op : Operator) (hop : op ≠ .iff) (hs : Plain s) (ht : Plain t) :
    Plain ('(' :: s ++ [')', ' ', op.glyph, ' ', '('] ++ t ++ [')']) := by
  have h : ∀ u ∈ ['(' :: s ++ [')'], '(' :: t ++ [')']], Plain u := by
    simpa using ⟨hs.parenthesized, ht.parenthesized⟩
  replace h := Plain.chain hop h
  simp_all [Plain, Prose.chain, Enunciado.joinWith]

theorem Statement.plain_render {st : Statement (Clause String)}
    (h : ∀ c ∈ st.clauses, c.Over symbols) (hl : ∀ s ∈ symbols, isLetterName s.toList) :
    Plain (st.render (Clause.render String.toList)) := by
  have hp (c) (hc : c ∈ st.clauses) := (h c hc).plain hl
  cases st
  case plain c => exact hp c (by simp [clauses])
  case conditional a c =>
    exact .pair .implies (by decide) (hp a (by simp [clauses])) (hp c (by simp [clauses]))
  case chained a₁ c₁ a₂ c₂ =>
    have h₁ := Plain.pair .implies (by decide) (hp a₁ (by simp [clauses]))
      (hp c₁ (by simp [clauses]))
    have h₂ := Plain.pair .implies (by decide) (hp a₂ (by simp [clauses]))
      (hp c₂ (by simp [clauses]))
    exact .pair .and (by decide) h₁ h₂

theorem Plain.conjoin {parts : List (List Char)} (h : ∀ s ∈ parts, Plain s) :
    Plain (conjoin parts) := by
  unfold Prose.conjoin
  split
  case h_1 s => exact h s (by simp)
  case h_2 =>
    have ho : Plain [' ', '∧', ' '] := by simp [Plain]
    exact ho.joinWith <| List.forall_mem_map.mpr fun s hs => (h s hs).parenthesized

end Rendering

section Extraction

variable {σ : Type} {text : String}

-- The formula that relationships mean together.
def meaning (rs : List (Relationship (Clause σ))) : Formula σ :=
  foldLeft .and (rs.map (·.statement.formula))

theorem relationships_over {ps : List (Proposition σ String)} (h : relationships ps text = .ok rs) :
    ∀ r ∈ rs, ∀ c ∈ r.statement.clauses, c.Over (ps.map (·.symbol)) :=
  (relate_eq_ok_iff.mp (mapError_eq_ok_iff.mp h)).forall_clauses readClause_over

theorem extract_eq_ok_iff {ps : List Named} :
    extract ps text = .ok s ↔ ∃ rs, relationships ps text = .ok rs ∧ rs ≠ [] ∧
      String.ofList (conjoin (rs.map fun r => r.statement.render (Clause.render String.toList)))
        = s := by
  unfold extract
  split <;> simp_all

theorem derives_extract {ps : List Named} (hl : ∀ p ∈ ps, isLetterName p.symbol.toList)
    (hr : relationships ps text = .ok rs) (hn : rs ≠ []) :
    Derives 7 .expression
      (lexemes (conjoin (rs.map fun r => r.statement.render (Clause.render String.toList))))
      (meaning rs) := by
  refine derives_conjoin hn fun r hm => ?_
  exact Statement.derives (relationships_over hr r hm) (List.forall_mem_map.mpr hl)

theorem plain_extract {ps : List Named} (hl : ∀ p ∈ ps, isLetterName p.symbol.toList)
    (hr : relationships ps text = .ok rs) :
    Plain (conjoin (rs.map fun r => r.statement.render (Clause.render String.toList))) := by
  refine .conjoin <| List.forall_mem_map.mpr fun r hm => ?_
  exact Statement.plain_render (relationships_over hr r hm) (List.forall_mem_map.mpr hl)

end Extraction

end Enunciado.Prose

import Enunciado.Proofs.Formula.Depth
import Enunciado.Proofs.Formula.Semantics
import Enunciado.Proofs.Prose.Splitting
import Enunciado.Proofs.Prose.Terms
import Enunciado.Proofs.Prose.Unchecked

namespace Enunciado.Prose

open Formula Text

variable {σ : Type} {ps : List (Proposition σ String)} {w : Char} {before s t : List Char}

section First

-- A text that begins with a term, neither denied nor after a connective.
structure BeginsTerm (s : List Char) : Prop where
  ne_nil         : s ≠ []
  head           : ∀ c ∈ s.head?, isBlank c = false
  ne_denied      : ∀ t, s ≠ denied t
  not_connective : ∀ w b t, s = w :: b :: t → isBlank b → w ≠ 'y' ∧ w ≠ 'o'

namespace BeginsTerm

theorem of_prefix (h : BeginsTerm s) (ht : t <+: s) (hn : t ≠ []) : BeginsTerm t := by
  obtain ⟨r, rfl⟩ := ht
  exact {
    ne_nil := hn
    head := fun c hc => h.head c (by simp_all [List.head?_append])
    ne_denied := by
      rintro u rfl
      exact h.ne_denied (u ++ r) rfl
    not_connective := by
      rintro w b u rfl
      exact h.not_connective w b (u ++ r) rfl
  }

theorem trim_prefix (h : BeginsTerm s) : trim s <+: s := by
  rw [trim, dropWhile_isBlank h.head]
  exact List.rdropWhile_prefix isBlank s

theorem trim_ne_nil (h : BeginsTerm s) : trim s ≠ [] := by
  obtain ⟨c, s, rfl⟩ := List.exists_cons_of_ne_nil h.ne_nil
  exact Text.trim_ne_nil List.mem_cons_self (h.head c rfl)

theorem stripNegation (h : BeginsTerm s) : stripNegation s = (false, trim s) :=
  stripNegation_of_ne_denied (h.of_prefix h.trim_prefix h.trim_ne_nil).ne_denied

theorem afterBlankWord? (h : BeginsTerm s) (hw : w = 'y' ∨ w = 'o') :
    afterBlankWord? w s = none := by
  rw [Prose.afterBlankWord?, dropWhile_isBlank h.head]
  split
  case h_1 c d r =>
    refine if_neg fun hc => ?_
    obtain ⟨hc, hd⟩ : c = w ∧ isBlank d := by simpa using hc
    obtain ⟨hy, ho⟩ := h.not_connective c d r rfl hd
    simp_all
  case h_2 => rfl

theorem exists_splitAtWord (h : BeginsTerm s) (w : Char) :
    ∃ t parts, splitAtWord w s = t :: parts ∧ BeginsTerm t := by
  obtain ⟨t, parts, hs, ht⟩ := Prose.exists_splitAtWord w s
  refine ⟨t, parts, hs, h.of_prefix ht ?_⟩
  rintro rfl
  cases s
  case nil => exact h.ne_nil rfl
  case cons c s =>
    rw [splitAtWord_cons_of_not_blank (h.head c rfl)] at hs
    cases hp : splitAtWord w s <;> simp [hp] at hs

theorem splitAtWord_denied (h : BeginsTerm s) (hb : ∀ c ∈ before, isBlank c)
    (hw : w = 'y' ∨ w = 'o') :
    splitAtWord w (denied (before ++ s)) =
      (splitAtWord w s).modifyHead fun t => denied (before ++ t) := by
  have hd : denied (before ++ s) = ['n', 'o'] ++ ((' ' :: before) ++ s) := rfl
  have hb : ∀ c ∈ ' ' :: before, isBlank c := List.forall_mem_cons.mpr ⟨rfl, hb⟩
  rw [hd, splitAtWord_solid_append solid_no.not_blank, splitAtWord_blanks_append hb (h.afterBlankWord? hw),
    List.modifyHead_modifyHead]
  rfl

theorem readLiteral_denied (h : BeginsTerm s) (hb : ∀ c ∈ before, isBlank c)
    (hr : readLiteral ps s = .ok l) :
    l.negated = false ∧ readLiteral ps (denied (before ++ s)) = .ok ⟨true, l.symbol⟩ := by
  have ht : trim (before ++ s) = trim s := trim_append_left hb
  unfold readLiteral at hr ⊢
  rw [h.stripNegation] at hr
  rw [stripNegation_denied (by rw [ht]; exact h.trim_ne_nil), ht]
  dsimp only at hr ⊢
  split at hr
  case h_1 p hp =>
    cases hr
    exact ⟨rfl, rfl⟩
  case h_2 => cases hr

end BeginsTerm

theorem readConjuncts_eq_ok_iff (hy : splitAtWord 'y' s = p :: parts)
    (ho : splitAtWord 'o' p = q :: qs) :
    readConjuncts ps s = .ok css ↔
      ∃ l d cs, readLiteral ps q = .ok l ∧ qs.mapM (readLiteral ps) = .ok d ∧
        parts.mapM (fun part => (splitAtWord 'o' part).mapM (readLiteral ps)) = .ok cs ∧
        (l :: d) :: cs = css := by
  rw [readConjuncts, hy, mapM_cons_eq_ok_iff, ho]
  simp only [mapM_cons_eq_ok_iff]
  constructor
  case mp =>
    rintro ⟨_, cs, ⟨l, d, hl, hd, rfl⟩, hc, hs⟩
    exact ⟨l, d, cs, hl, hd, hc, hs⟩
  case mpr =>
    rintro ⟨l, d, cs, hl, hd, hc, hs⟩
    exact ⟨_, cs, ⟨l, d, hl, hd, rfl⟩, hc, hs⟩

-- Only the first literal is changed by a "no " before the text.
theorem BeginsTerm.readConjuncts_denied (h : BeginsTerm s) (hb : ∀ c ∈ before, isBlank c)
    (hr : readConjuncts ps s = .ok css) :
    ∃ x d cs, css = (⟨false, x⟩ :: d) :: cs ∧
      readConjuncts ps (denied (before ++ s)) = .ok ((⟨true, x⟩ :: d) :: cs) := by
  obtain ⟨p, parts, hy, hp⟩ := h.exists_splitAtWord 'y'
  obtain ⟨q, qs, ho, hq⟩ := hp.exists_splitAtWord 'o'
  obtain ⟨⟨n, x⟩, d, cs, hl, hd, hc, rfl⟩ := (readConjuncts_eq_ok_iff hy ho).mp hr
  obtain ⟨rfl, hl⟩ := hq.readLiteral_denied hb hl
  have hy' : splitAtWord 'y' (denied (before ++ s)) = denied (before ++ p) :: parts := by
    rw [h.splitAtWord_denied hb (.inl rfl), hy, List.modifyHead_cons]
  have ho' : splitAtWord 'o' (denied (before ++ p)) = denied (before ++ q) :: qs := by
    rw [hp.splitAtWord_denied hb (.inr rfl), ho, List.modifyHead_cons]
  exact ⟨x, d, cs, rfl, (readConjuncts_eq_ok_iff hy' ho').mpr ⟨_, d, cs, hl, hd, hc, rfl⟩⟩

end First

section Clauses

variable {ns : List Named}

theorem firstBest_eq_self {α : Type} {score : α → Magnitude} {best : Option α × Magnitude}
    (h : ∀ x, ¬best.2 < score x) (xs : List α) : firstBest score best xs = best := by
  induction xs
  case nil => rfl
  case cons x xs hi => rw [firstBest, if_neg (h x), hi]

-- A text without words speaks of no proposition.
theorem bestMatch_nil : bestMatch ps [] = none := by
  have hs (p : Proposition σ String) : ¬(⟨0⟩ : Magnitude) < score [] p.meaning.toList := by
    have hz : score [] p.meaning.toList = ⟨0⟩ := by simp [score]
    rw [hz]
    decide
  have hw : foldedWords [] = [] := by decide
  have hf : firstBest _ (none, ⟨0⟩) ps = (none, ⟨0⟩) := firstBest_eq_self hs ps
  unfold bestMatch
  rw [hw]
  simp only [hf, ite_self]

theorem readClause_nil : readClause ps [] = .error ⟨[]⟩ := by
  refine readClause_eq_error ?_
  have ht : terms [] = [[]] := by simp [terms, splitAtWord, stripNegation, trim, dropEnd]
  have hn : stripNegation [] = (false, []) := rfl
  rw [unmatched?, hn, ht, List.find?_cons_of_pos (by rw [isUnmatched, bestMatch_nil]; rfl)]

theorem readClause_of_ne_denied (hs : trim s = s) (hn : ∀ t, s ≠ denied t) :
    readClause ps s = (readConjuncts ps s).map (⟨false, ·⟩) := by
  rw [readClause_eq, stripNegation_of_ne_denied (by rwa [hs]), hs]

theorem readClause_denied (hs : trim s = s) (hn : s ≠ []) :
    readClause ps (denied s) = (readConjuncts ps s).map (⟨true, ·⟩) := by
  rw [readClause_eq, stripNegation_denied (by rwa [hs]), hs]

-- "No " before a clause that does not begin with it changes the sign of the clause.
theorem readClause_denied_of_ne_denied (hs : trim s = s) (hn : ∀ t, s ≠ denied t)
    (hr : readClause ps s = .ok k) :
    k.negated = false ∧ readClause ps (denied s) = .ok ⟨true, k.conjuncts⟩ := by
  have hne : s ≠ [] := by
    rintro rfl
    rw [readClause_nil] at hr
    cases hr
  rw [readClause_of_ne_denied hs hn, map_eq_ok_iff] at hr
  obtain ⟨css, hc, rfl⟩ := hr
  exact ⟨rfl, by rw [readClause_denied hs hne, hc, Except.map]⟩

-- "No " before a clause that begins with one "no " already changes the sign of its first literal.
theorem readClause_denied_denied (hs : trim (denied s) = denied s) (hn : ∀ t, trim s ≠ denied t)
    (hw : ∀ w b t, trim s = w :: b :: t → isBlank b → w ≠ 'y' ∧ w ≠ 'o')
    (hr : readClause ps (denied s) = .ok k) :
    ∃ x d cs, k = ⟨true, (⟨false, x⟩ :: d) :: cs⟩ ∧
      readClause ps (denied (denied s)) = .ok ⟨true, (⟨true, x⟩ :: d) :: cs⟩ := by
  obtain ⟨before, hb, hbs, hne⟩ := exists_blanks_of_trim_denied hs
  rw [readClause_eq, stripNegation_denied hne, map_eq_ok_iff] at hr
  obtain ⟨css, hc, rfl⟩ := hr
  have ht : BeginsTerm (trim s) := ⟨hne, head_trim s, hn, hw⟩
  obtain ⟨x, d, cs, rfl, hd⟩ := ht.readConjuncts_denied hbs hc
  rw [← hb] at hd
  refine ⟨x, d, cs, rfl, ?_⟩
  rw [readClause_denied hs (by simp [denied]), hd, Except.map]

end Clauses

section Formulas

variable {x y : Formula σ}

theorem height_foldl_le (op : Operator) (h : y.height ≤ x.height + 1) (zs : List (Formula σ)) :
    (zs.foldl (.binary op) y).height ≤ (zs.foldl (.binary op) x).height + 1 := by
  induction zs generalizing x y
  case nil => exact h
  case cons z zs hi =>
    refine hi ?_
    simp only [Formula.height]
    omega

theorem height_denied_first_le (x : σ) (d : List (Literal σ)) (cs : List (List (Literal σ))) :
    (Clause.mk true ((⟨true, x⟩ :: d) :: cs)).formula.height ≤
      (Clause.mk true ((⟨false, x⟩ :: d) :: cs)).formula.height + 1 := by
  have hl : (Formula.unary .not (.var x)).height ≤ (Formula.var x).height + 1 := Nat.le_refl _
  have hd := height_foldl_le .or hl (d.map (·.formula))
  have hc := height_foldl_le .and hd (cs.map fun d => foldLeft .or (d.map (·.formula)))
  simpa [Clause.formula, foldLeft, Literal.formula, Formula.height] using hc

theorem foldl_eq_var {op : Operator} {zs : List (Formula σ)} (h : zs.foldl (.binary op) x = .var q) :
    zs = [] ∧ x = .var q := by
  induction zs generalizing x
  case nil => exact ⟨rfl, h⟩
  case cons z zs hi => cases (hi h).2

-- A clause that means the denial of one proposition has one literal.
theorem eq_nil_of_formula_eq_var {d : List (Literal σ)} {cs : List (List (Literal σ))}
    (h : (Clause.mk true ((⟨false, p⟩ :: d) :: cs)).formula = .unary .not (.var q)) :
    d = [] ∧ cs = [] := by
  have hf : (cs.map fun d => foldLeft .or (d.map (·.formula))).foldl (.binary .and)
      (foldLeft .or ((⟨false, p⟩ :: d).map (·.formula))) = .var q := by
    simpa [Clause.formula, foldLeft] using h
  obtain ⟨hc, hd⟩ := foldl_eq_var hf
  obtain ⟨hd, _⟩ := foldl_eq_var hd
  exact ⟨List.map_eq_nil_iff.mp hd, List.map_eq_nil_iff.mp hc⟩

end Formulas

section Expressions

variable {ns : List Named}

theorem parse_readClause (hl : ∀ p ∈ ns, isLetterName p.symbol.toList)
    (h : readClause ns s = .ok k) :
    parse (String.ofList (k.render String.toList)) =
      if k.formula.depth ≤ maxDepth then .ok k.formula else .error .tooDeep := by
  have hd := (readClause_over h).derives_expression (List.forall_mem_map.mpr hl)
  exact parse_of_derives (by rw [String.toList_ofList]; exact hd.mono (by decide))

-- The expression of a clause is read back as what the clause means.
theorem parse_of_readClause (hl : ∀ p ∈ ns, isLetterName p.symbol.toList)
    (h : readClause ns s = .ok k) (hk : k.formula.depth ≤ maxDepth)
    (he : String.ofList (k.render String.toList) = e) : parse e = .ok k.formula := by
  rw [← he, parse_readClause hl h, if_pos hk]

theorem exists_readClause {c e : String}
    (h : uncheckedClause (ns.map Proposition.declared) c = .ok (.str e)) :
    ∃ k, readClause ns c.toList = .ok k ∧ String.ofList (k.render String.toList) = e := by
  rw [uncheckedClause_declared] at h
  cases hk : readClause ns c.toList
  case error => simp [hk] at h
  case ok k =>
    rw [hk] at h
    exact ⟨k, rfl, by simpa using h⟩

theorem exists_uncheckedClause {c : String} (hl : ∀ p ∈ ns, isLetterName p.symbol.toList)
    (h : readClause ns c.toList = .ok k) (hk : k.formula.depth ≤ maxDepth) :
    ∃ e, uncheckedClause (ns.map Proposition.declared) c = .ok (.str e) ∧
      parse e = .ok k.formula :=
  ⟨_, by rw [uncheckedClause_declared, h, translate_ok], parse_of_readClause hl h hk rfl⟩

-- "No " before a clause denies what the clause means. If the clause begins with one "no " itself,
-- then what is denied is what it means with its first term denied as well, so that this is its
-- denial if there is no other term.
theorem uncheckedClause_denied {c e : String} {x : Formula String}
    (hl : ∀ p ∈ ns, isLetterName p.symbol.toList) (hc : trim c.toList = c.toList)
    (he : uncheckedClause (ns.map Proposition.declared) c = .ok (.str e)) (hp : parse e = .ok x)
    (hx : x.depth < maxDepth) :
    ((∀ s, c.toList ≠ denied s) →
      ∃ e', uncheckedClause (ns.map Proposition.declared) ("no " ++ c) = .ok (.str e') ∧
        parse e' = .ok (.unary .not x)) ∧
    ∀ s, c.toList = denied s → (∀ t, trim s ≠ denied t) →
      (∀ w b t, trim s = w :: b :: t → isBlank b → w ≠ 'y' ∧ w ≠ 'o') →
      ∃ e' p d cs, x = (Clause.mk true ((⟨false, p⟩ :: d) :: cs)).formula ∧
        uncheckedClause (ns.map Proposition.declared) ("no " ++ c) = .ok (.str e') ∧
        parse e' = .ok (Clause.mk true ((⟨true, p⟩ :: d) :: cs)).formula ∧
        ∀ q, x = .unary .not (.var q) → parse e' = .ok (.unary .not x) := by
  have hno : ("no " ++ c).toList = denied c.toList := by simp [denied]
  obtain ⟨k, hk, rfl⟩ := exists_readClause he
  obtain rfl : k.formula = x := by
    rw [parse_readClause hl hk] at hp
    split at hp <;> simp_all
  rw [depth_eq_height] at hx
  refine ⟨fun hn => ?_, fun s hs hn hw => ?_⟩
  · obtain ⟨hf, hd⟩ := readClause_denied_of_ne_denied hc hn hk
    have hk' : Clause.formula ⟨true, k.conjuncts⟩ = .unary .not k.formula := by
      simp [Clause.formula, hf]
    have hle : (Clause.formula ⟨true, k.conjuncts⟩).depth ≤ maxDepth := by
      rw [hk', depth_eq_height]
      exact hx
    rw [← hk']
    exact exists_uncheckedClause hl (hno ▸ hd) hle
  · rw [hs] at hc hk
    obtain ⟨p, d, cs, rfl, hd⟩ := readClause_denied_denied hc hn hw hk
    have hle : (Clause.formula ⟨true, (⟨true, p⟩ :: d) :: cs⟩).depth ≤ maxDepth := by
      have hh := height_denied_first_le p d cs
      rw [depth_eq_height]
      omega
    rw [hs] at hno
    obtain ⟨e', he', hp'⟩ := exists_uncheckedClause hl (hno ▸ hd) hle
    refine ⟨e', p, d, cs, rfl, he', hp', fun q hq => ?_⟩
    obtain ⟨rfl, rfl⟩ := eq_nil_of_formula_eq_var hq
    exact hp'

theorem uncheckedClause_denied_rain :
    let ps : List Declared := [⟨.str "p", .str "llueve"⟩, ⟨.str "q", .str "nieva"⟩]
    (∃ e, uncheckedClause ps ("no " ++ "llueve y nieva") = .ok (.str e) ∧
      parse e = .ok (.unary .not (.binary .and (.var "p") (.var "q")))) ∧
    ∃ e, uncheckedClause ps ("no " ++ "no llueve") = .ok (.str e) ∧
      parse e = .ok (.unary .not (.unary .not (.var "p"))) := by
  intro ps
  let ns : List Named := [⟨"p", "llueve"⟩, ⟨"q", "nieva"⟩]
  let p : Literal String := ⟨false, "p"⟩
  let q : Literal String := ⟨false, "q"⟩
  have hl : ∀ p ∈ ns, isLetterName p.symbol.toList := by simp [ns, isLetterName]
  have hp : parse "(p ∧ q)" = .ok (Clause.mk false [[p], [q]]).formula :=
    parse_of_readClause (s := "llueve y nieva".toList) hl (by decide +kernel) (by decide +kernel)
      (by decide +kernel)
  have hn : parse "¬p" = .ok (Clause.mk true [[p]]).formula :=
    parse_of_readClause (s := "no llueve".toList) hl (by decide +kernel) (by decide +kernel)
      (by decide +kernel)
  have ht : trim "llueve".toList = "llueve".toList := by decide
  refine ⟨?_, ?_⟩
  · refine (uncheckedClause_denied (c := "llueve y nieva") hl (by decide) (by decide +kernel) hp
      (by decide +kernel)).1 fun s hs => ?_
    cases hs
  · obtain ⟨e, _, _, _, _, he, _, hd⟩ := (uncheckedClause_denied (c := "no llueve") hl (by decide)
      (by decide +kernel) hn (by decide +kernel)).2 "llueve".toList rfl
      (by rw [ht]; rintro _ ⟨⟩) (by rw [ht]; rintro _ _ _ ⟨⟩; decide)
    exact ⟨e, he, hd "p" rfl⟩

-- The "no " of a clause that begins with it stays with its first term if another comes before it,
-- a third one is part of the term, and "no" is a term of its own before a connective.
theorem not_always_denied :
    let ps : List Declared := [⟨.str "p", .str "llueve"⟩, ⟨.str "q", .str "nieva"⟩]
    let x : Formula String := .unary .not (.binary .and (.var "p") (.var "q"))
    let y : Formula String := .unary .not (.binary .and (.unary .not (.var "p")) (.var "q"))
    (uncheckedClause ps "no llueve y nieva" = .ok (.str "¬(p ∧ q)") ∧
      parse "¬(p ∧ q)" = .ok x ∧ x.depth < maxDepth ∧
      uncheckedClause ps ("no " ++ "no llueve y nieva") = .ok (.str "¬(¬p ∧ q)") ∧
      parse "¬(¬p ∧ q)" = .ok y ∧ y.truth (fun _ => false) ≠ !x.truth fun _ => false) ∧
    (uncheckedClause ps "no no llueve" = .ok (.str "¬¬p") ∧
      uncheckedClause ps ("no " ++ "no no llueve") = .ok (.str "¬¬p")) ∧
    uncheckedClause ps "no y llueve" = .ok (.str "¬p") ∧
      uncheckedClause ps ("no " ++ "no y llueve") = .error (.unmatched "no".toList) := by
  intro ps x y
  let ns : List Named := [⟨"p", "llueve"⟩, ⟨"q", "nieva"⟩]
  have hl : ∀ p ∈ ns, isLetterName p.symbol.toList := by simp [ns, isLetterName]
  have hx : parse "¬(p ∧ q)" = .ok (Clause.mk true [[⟨false, "p"⟩], [⟨false, "q"⟩]]).formula :=
    parse_of_readClause (s := "no llueve y nieva".toList) hl (by decide +kernel)
      (by decide +kernel) (by decide +kernel)
  have hy : parse "¬(¬p ∧ q)" = .ok (Clause.mk true [[⟨true, "p"⟩], [⟨false, "q"⟩]]).formula :=
    parse_of_readClause (s := "no no llueve y nieva".toList) hl (by decide +kernel)
      (by decide +kernel) (by decide +kernel)
  refine ⟨⟨by decide +kernel, hx, by decide +kernel, by decide +kernel, hy, by decide⟩, ?_⟩
  decide +kernel

end Expressions

end Enunciado.Prose

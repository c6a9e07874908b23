import Enunciado.Proofs.Prose.Clause

namespace Enunciado.Prose

variable {σ : Type}

-- The conjuncts of a text that is not denied as a whole.
def readConjuncts (ps : List (Proposition σ String)) (s : List Char) :
    Except Unmatched (List (List (Literal σ))) :=
  (splitAtWord 'y' s).mapM fun part => (splitAtWord 'o' part).mapM (readLiteral ps)

theorem readClause_eq (ps : List (Proposition σ String)) (s : List Char) :
    readClause ps s =
      (readConjuncts ps (stripNegation s).2).map fun conjuncts =>
        ⟨(stripNegation s).1, conjuncts⟩ := by
  have h : readClause ps s = readConjuncts ps (stripNegation s).2 >>= fun conjuncts =>
      pure ⟨(stripNegation s).1, conjuncts⟩ := rfl
  rw [h]
  cases readConjuncts ps (stripNegation s).2 <;> rfl

-- The terms of a text, whether they are denied or not.
def terms (s : List Char) : List (List Char) :=
  ((splitAtWord 'y' s).flatMap (splitAtWord 'o')).map fun t => (stripNegation t).2

-- Whether a term speaks of no proposition.
def isUnmatched (ps : List (Proposition σ String)) (t : List Char) : Bool :=
  (bestMatch ps t).isNone

theorem failure?_readLiteral (ps : List (Proposition σ String)) (s : List Char) :
    failure? (readLiteral ps s) =
      if isUnmatched ps (stripNegation s).2 then some ⟨(stripNegation s).2⟩ else none := by
  unfold readLiteral isUnmatched
  dsimp only
  cases bestMatch ps (stripNegation s).2 <;> rfl

theorem failure?_readLiterals (ps : List (Proposition σ String)) (parts : List (List Char)) :
    failure? (parts.mapM (readLiteral ps)) =
      ((parts.map fun t => (stripNegation t).2).find? (isUnmatched ps)).map Unmatched.mk := by
  induction parts
  case nil => rfl
  case cons t parts hi =>
    rw [failure?_mapM] at hi ⊢
    rw [List.findSome?_cons, hi, failure?_readLiteral, List.map_cons, List.find?_cons]
    cases isUnmatched ps (stripNegation t).2 <;> rfl

theorem failure?_readConjuncts (ps : List (Proposition σ String)) (s : List Char) :
    failure? (readConjuncts ps s) = ((terms s).find? (isUnmatched ps)).map Unmatched.mk := by
  unfold readConjuncts terms
  rw [failure?_mapM]
  generalize splitAtWord 'y' s = parts
  induction parts
  case nil => rfl
  case cons part parts hi =>
    rw [List.findSome?_cons, hi, failure?_readLiterals, List.flatMap_cons, List.map_append,
      List.find?_append]
    cases List.find? (isUnmatched ps) ((splitAtWord 'o' part).map _) <;> rfl

-- The first term of a clause that speaks of no proposition.
def unmatched? (ps : List (Proposition σ String)) (s : List Char) : Option (List Char) :=
  (terms (stripNegation s).2).find? (isUnmatched ps)

theorem failure?_readClause (ps : List (Proposition σ String)) (s : List Char) :
    failure? (readClause ps s) = (unmatched? ps s).map Unmatched.mk := by
  rw [readClause_eq, failure?_map, failure?_readConjuncts, unmatched?]

theorem readClause_eq_error (h : unmatched? ps s = some t) : readClause ps s = .error ⟨t⟩ := by
  rw [← failure?_eq_some_iff, failure?_readClause, h, Option.map_some]

end Enunciado.Prose

import Enunciado.Proofs.Analysis.Stages
import Enunciado.Proofs.TruthTable.Rows

namespace Enunciado

open Assignment

variable {x : Formula String} {a a' : Assignment} {symbols : List String}

section Evaluation

namespace Assignment

-- The first of the names that has no value.
def missing? (a : Assignment) (names : List String) : Option String :=
  names.find? fun name => (lookup name a).isNone

theorem missing?_append (a : Assignment) (names names' : List String) :
    a.missing? (names ++ names') = (a.missing? names).or (a.missing? names') :=
  List.find?_append

theorem missing?_eq_none_iff {names : List String} :
    a.missing? names = none ↔ ∀ name ∈ names, lookup name a ≠ none := by
  simp [missing?]

theorem exists_missing?_iff {names : List String} :
    (∃ name, a.missing? names = some name) ↔ ∃ name ∈ names, lookup name a = none := by
  rw [← Option.isSome_iff_exists, ← Option.ne_none_iff_isSome, Ne, missing?_eq_none_iff]
  simp

end Assignment

-- Each connective looks at both of its sides, the left one first, whatever their values are.
theorem Formula.Proper.evaluate_strict (h : x.Proper) (a : Assignment) :
    x.evaluate (a.environment true) = match a.missing? x.names with
      | some name => .error (.unassigned name)
      | none => .ok (x.truth a.value) := by
  induction x
  case var name =>
    simp only [Formula.evaluate, environment, names, missing?, List.find?_singleton, truth, value]
    cases lookup name a <;> rfl
  case const => rfl
  case unary op x hi =>
    rw [Formula.evaluate, if_pos h.1, hi h.2, names]
    cases a.missing? x.names <;> rfl
  case binary op x y hx hy =>
    obtain ⟨f, hf⟩ := exists_truth? h.1
    simp only [Formula.evaluate, hx h.2.1, hy h.2.2, names, missing?_append, truth, hf]
    cases a.missing? x.names
    case some => rfl
    case none => cases a.missing? y.names <;> rfl

theorem Formula.Proper.evaluate_permissive (h : x.Proper) (a : Assignment) :
    x.evaluate (a.environment false) = .ok (x.truth a.value) :=
  h.evaluate fun name _ => a.environment_eq name

end Evaluation

section Tables

-- An assignment of a table has values for the symbols, and for nothing else.
theorem lookup_eq_none_of_mem (ha : a ∈ assignments symbols) {name : String} :
    lookup name a = none ↔ name ∉ symbols := by
  obtain ⟨vs, hv, rfl⟩ := List.mem_map.mp ha
  rw [lookup_eq_none_iff, mem_keys_ofPairs_iff, List.map_fst_zip (mem_valuations.mp hv).ge]

theorem missing?_of_mem (ha : a ∈ assignments symbols) (names : List String) :
    a.missing? names = names.find? (· ∉ symbols) := by
  refine congrArg (names.find? ·) (funext fun name => ?_)
  rw [Bool.eq_iff_iff, Option.isNone_iff_eq_none, lookup_eq_none_of_mem ha, decide_eq_true_iff]

-- The first row fails, if any does, and all fail alike.
theorem truthTable_strict (h : x.Proper) (symbols : List String) :
    truthTable (environment true) x symbols = match x.names.find? (· ∉ symbols) with
      | some name => .error (.unassigned name)
      | none => .ok ((assignments symbols).map x.row) := by
  have hs (a) (ha : a ∈ assignments symbols) := missing?_of_mem ha x.names ▸ h.evaluate_strict a
  cases hn : x.names.find? (· ∉ symbols)
  case none =>
    refine mapM_eq_ok fun a ha => ?_
    rw [hs a ha, hn]
    rfl
  case some name =>
    obtain ⟨a, as, he⟩ := List.exists_cons_of_ne_nil (assignments_ne_nil symbols)
    rw [truthTable, he, List.mapM_cons, hs a (he ▸ List.mem_cons_self), hn]
    rfl

theorem find?_eq_none_iff_undeclared :
    x.names.find? (· ∉ symbols) = none ↔ Analysis.undeclared symbols x = [] := by
  rw [Analysis.undeclared_eq_nil_iff]
  simp

theorem truthTable_fails_iff (h : x.Proper) :
    (∃ e, truthTable (environment true) x symbols = .error e) ↔
      Analysis.undeclared symbols x ≠ [] := by
  rw [truthTable_strict h, Ne, ← find?_eq_none_iff_undeclared]
  cases x.names.find? (· ∉ symbols) <;> simp

end Tables

section Agreement

-- The two readings of a formula under an assignment. The strict one fails at the first name that
-- has no value, and only there; for the other one such names are false.
structure Formula.ReadsAlike (x : Formula String) (a : Assignment) : Prop where
  strict     : x.evaluate (a.environment true) = match a.missing? x.names with
    | some name => .error (.unassigned name)
    | none => x.evaluate (a.environment false)
  fails      : (∃ e, x.evaluate (a.environment true) = .error e) ↔
    ∃ name ∈ x.names, lookup name a = none
  permissive : ∃ b, x.evaluate (a.environment false) = .ok b
  depends    : ∀ a' : Assignment, (∀ name ∈ x.names, a.value name = a'.value name) →
    x.evaluate (a.environment false) = x.evaluate (a'.environment false)

-- The two tables of a formula over symbols. The strict one fails if a name is not declared, as the
-- analysis does under strict settings.
structure Formula.TabulatesAlike (x : Formula String) (symbols : List String) : Prop where
  fails   : (∃ e, truthTable (environment true) x symbols = .error e) ↔
    Analysis.undeclared symbols x ≠ []
  first   : ∀ name, x.names.find? (· ∉ symbols) = some name →
    truthTable (environment true) x symbols = .error (.unassigned name)
  agrees  : Analysis.undeclared symbols x = [] →
    truthTable (environment true) x symbols = truthTable (environment false) x symbols
  refused : ∀ (settings : Settings) (expression : String), settings.strictVariables.truthy →
    Formula.parse expression = .ok x →
    ((∃ e, truthTable (environment true) x symbols = .error e) ↔
      Analysis.formulaOf settings symbols expression =
        .error (.validation (.undeclared (Analysis.undeclared symbols x))))

theorem Formula.Proper.readsAlike (h : x.Proper) (a : Assignment) : x.ReadsAlike a where
  strict := by rw [h.evaluate_strict, h.evaluate_permissive]
  fails := by
    rw [h.evaluate_strict, ← exists_missing?_iff]
    cases a.missing? x.names <;> simp
  permissive := ⟨_, h.evaluate_permissive a⟩
  depends := fun a' ha => by
    rw [h.evaluate_permissive, h.evaluate_permissive, truth_congr ha]

theorem Formula.Proper.tabulatesAlike (h : x.Proper) (symbols : List String) :
    x.TabulatesAlike symbols where
  fails := truthTable_fails_iff h
  first := fun name hn => by rw [truthTable_strict h, hn]
  agrees := fun hu => by
    rw [truthTable_strict h, find?_eq_none_iff_undeclared.mpr hu, truthTable_eq h]
  refused := fun settings expression hs hx => by
    rw [truthTable_fails_iff h, Analysis.formulaOf, hx]
    by_cases hu : Analysis.undeclared symbols x = [] <;> simp [hs, hu]

theorem strict_agrees (h : x.Proper) :
    (∀ a : Assignment, x.ReadsAlike a) ∧ ∀ symbols : List String, x.TabulatesAlike symbols :=
  ⟨h.readsAlike, h.tabulatesAlike⟩

-- The left side is false, and still the right one is looked at.
theorem strict_agrees_beside_false :
    let x : Formula String := .binary .and (.var "p") (.var "q")
    let a : Assignment := [("p", false)]
    x.Proper ∧ x.evaluate (a.environment true) = .error (.unassigned "q") ∧
      x.evaluate (a.environment false) = .ok false ∧
      truthTable (environment true) x ["p"] = .error (.unassigned "q") := by
  intro x a
  have hx : x.Proper := ⟨nofun, trivial, trivial⟩
  have ⟨ha, ht⟩ := strict_agrees hx
  exact ⟨hx, (ha a).strict, rfl, (ht ["p"]).first "q" rfl⟩

end Agreement

end Enunciado

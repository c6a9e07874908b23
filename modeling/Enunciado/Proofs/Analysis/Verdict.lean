import Enunciado.Proofs.Analysis.Stages
import Enunciado.Proofs.Formula.Parsing
import Enunciado.Proofs.TruthTable.Verdict

namespace Enunciado

open Analysis

-- The assignments of all letters in which those that are not declared are false.
def FalseElsewhere (declared : List String) (v : String → Bool) : Prop :=
  ∀ l ∈ letters, l ∉ declared → v l = false

namespace Analysis.Reached

variable {request : Request} {report : Report String}

theorem parse (h : Reached settings request now report) :
    Formula.parse report.expression = .ok report.formula :=
  (formulaOf_eq_ok_iff.mp h.formula).1

theorem proper (h : Reached settings request now report) : report.formula.Proper :=
  (Formula.derives_of_parse h.parse).1.proper

theorem lettered (h : Reached settings request now report) : report.formula.Lettered :=
  (Formula.derives_of_parse h.parse).1.lettered

theorem verdict_eq_iff (h : Reached settings request now report) {w : Verdict} :
    report.verdict = w ↔
      w.Holds {b | ∃ v, report.formula.truth
        (Assignment.restrict (report.propositions.map (·.symbol)) v) = b} := by
  have ⟨ht, hc⟩ := tabulate_eq_ok_iff.mp h.table
  rw [← classify?_eq_some_iff h.valid.nodup h.proper ht, hc, Option.some_inj]

end Analysis.Reached

theorem verdict_eq_iff_truth
    (h : (runDeclared settings text declarations expression now verbose).2 = .ok report) :
    let declared := report.propositions.map (·.symbol)
    Proposition.ofJson declarations = .ok (report.propositions.map Proposition.declared) ∧
    expressionOf report.propositions
      ⟨text, report.propositions.map Proposition.declared, expression⟩ = .ok report.expression ∧
    Formula.parse report.expression = .ok report.formula ∧
    (∀ w, report.verdict = w ↔ w.Truth report.formula (FalseElsewhere declared)) ∧
    ((∀ name ∈ report.formula.names, name ∈ declared) →
      ∀ w, report.verdict = w ↔ w.Truth report.formula fun _ => True) ∧
    (settings.strictVariables.truthy → ∀ name ∈ report.formula.names, name ∈ declared) := by
  unfold runDeclared at h
  split at h
  case h_1 => cases h
  case h_2 ps hp =>
  have hr := reached_of_run h
  obtain rfl := hr.valid.declared
  refine ⟨hp, hr.expression, hr.parse, fun w => ?_, fun hd w => ?_,
    (formulaOf_eq_ok_iff.mp hr.formula).2⟩
  case refine_1 =>
    rw [hr.verdict_eq_iff, values_eq_of_false_elsewhere hr.lettered,
      Verdict.truth_iff hr.proper hr.lettered]
    rfl
  case refine_2 =>
    rw [hr.verdict_eq_iff, values_eq_of_declared hd, Verdict.truth_iff hr.proper hr.lettered]

-- With `q` not declared, the expression is a tautology of the table, but not of all assignments.
theorem verdict_of_undeclared_letter :
    let settings : Settings := ⟨.int 9, .int 1, .int 1, .int 99, .int 9, .bool false⟩
    let x : Formula String := .unary .not (.binary .and (.var "p") (.var "q"))
    let report : Report String := ⟨"Llueve.", [⟨"p", "llueve"⟩], "¬(p ∧ q)", .tautology,
      [⟨[("p", false)], true⟩, ⟨[("p", true)], true⟩], x, ""⟩
    (runDeclared settings "Llueve." (.obj [("p", .str "llueve")]) (some "¬(p ∧ q)") "" false).2 =
      .ok report ∧
    Verdict.tautology.Truth x (FalseElsewhere ["p"]) ∧
    ¬Verdict.tautology.Truth x fun _ => True := by
  intro settings x report
  have hp : Formula.parse "¬(p ∧ q)" = .ok x := by cbv
  let request : Request := ⟨"Llueve.", [⟨.str "p", .str "llueve"⟩], some "¬(p ∧ q)"⟩
  have hr : Reached settings request "" report := {
    validated  := by decide +kernel
    expression := rfl
    formula    := formulaOf_eq_ok_iff.mpr ⟨hp, fun h => by cases h⟩
    table      := by decide +kernel
    text       := rfl
    timestamp  := rfl
  }
  have h : (runDeclared settings "Llueve." (.obj [("p", .str "llueve")]) (some "¬(p ∧ q)") ""
      false).2 = .ok report := hr.run
  refine ⟨h, ((verdict_eq_iff_truth h).2.2.2.1 _).mp rfl, fun ht => ?_⟩
  exact absurd (ht (fun _ => true) trivial) (by decide)

end Enunciado

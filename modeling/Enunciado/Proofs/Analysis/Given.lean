import Enunciado.Proofs.Analysis.Failure

namespace Enunciado

open Analysis

variable {settings : Settings} {text expression : String} {declarations : Json} {ns : List Named}
variable {symbols : List String} {x : Formula String} {r : Report String}

-- A text and declarations that are valid, with the propositions that they declare.
structure Admits (settings : Settings) (text : String) (declarations : Json) (ns : List Named) :
    Prop where
  validText : validateText settings text = .ok ()
  items     : Proposition.ofJson declarations = .ok (ns.map Proposition.declared)
  valid     : validatePropositions settings (ns.map Proposition.declared) = .ok ns

-- The values of the formula of a report, row by row.
def Report.column (r : Report String) : List Bool :=
  r.rows.map (·.result)

-- A report on a formula: its table over the symbols, and the verdict on this table.
structure Report.Tabulates (r : Report String) (symbols : List String) (x : Formula String) :
    Prop where
  formula : r.formula = x
  rows    : r.rows = (assignments symbols).map x.row
  verdict : classify? r.rows = some r.verdict

namespace Report.Tabulates

theorem column_eq (h : r.Tabulates symbols x) :
    r.column = (assignments symbols).map fun a => x.truth a.value := by
  rw [column, h.rows, List.map_map]
  rfl

theorem verdict_eq_iff (h : r.Tabulates symbols x) {w : Verdict} :
    r.verdict = w ↔ w.Holds {b | b ∈ r.column} := by
  have hn := (Verdict.ofResults?_eq_some_iff.mp h.verdict).1
  rw [← Option.some_inj, ← h.verdict, classify?, Verdict.ofResults?_eq_some_iff]
  exact and_iff_right hn

end Report.Tabulates

namespace Admits

variable (h : Admits settings text declarations ns)

include h

theorem nodup : (ns.map (·.symbol)).Nodup :=
  (validated_of_validatePropositions h.valid).nodup

theorem validate (expression : Option String) :
    Analysis.validate settings ⟨text, ns.map Proposition.declared, expression⟩ = .ok ns := by
  rw [Analysis.validate, h.validText, h.valid]

theorem runDeclared (expression : Option String) (now : String) (verbose : Bool) :
    runDeclared settings text declarations expression now verbose =
      run settings ⟨text, ns.map Proposition.declared, expression⟩ now verbose := by
  rw [Analysis.runDeclared, h.items]

theorem tabulates (hx : Formula.parse expression = .ok x)
    (hr : (Analysis.runDeclared settings text declarations (some expression) now verbose).2 =
      .ok r) : r.Tabulates (ns.map (·.symbol)) x := by
  rw [h.runDeclared] at hr
  have hd := reached_of_run hr
  obtain ⟨_, ns', e, _, _, x', _⟩ := r
  obtain rfl : ns = ns' := Except.ok.inj ((h.validate _).symm.trans hd.validated)
  obtain rfl : expression = e := Except.ok.inj hd.expression
  obtain rfl : x = x' := Except.ok.inj (hx.symm.trans hd.parse)
  have ⟨ht, hc⟩ := tabulate_eq_ok_iff.mp hd.table
  rw [truthTable_eq hd.proper] at ht
  exact ⟨rfl, (Except.ok.inj ht).symm, hc⟩

-- Undeclared names are the only reason to refuse an expression that can be read.
theorem exists_report (hx : Formula.parse expression = .ok x)
    (hs : settings.strictVariables.truthy → ∀ name ∈ x.names, name ∈ ns.map (·.symbol))
    (now : String) (verbose : Bool) :
    ∃ r, (Analysis.runDeclared settings text declarations (some expression) now verbose).2 = .ok r ∧
      r.Tabulates (ns.map (·.symbol)) x := by
  have hf : formulaOf settings (ns.map (·.symbol)) expression = .ok x :=
    formulaOf_eq_ok_iff.mpr ⟨hx, hs⟩
  obtain ⟨r, hr⟩ := Analysis.exists_report (h.validate (some expression)) rfl hf now verbose
  rw [← h.runDeclared] at hr
  exact ⟨r, hr, h.tabulates hx hr⟩

theorem refuses (hx : Formula.parse expression = .ok x) (hs : settings.strictVariables.truthy)
    (hu : undeclared (ns.map (·.symbol)) x ≠ []) (now : String) (verbose : Bool) :
    (Analysis.runDeclared settings text declarations (some expression) now verbose).2 =
      .error (.validation (.undeclared (undeclared (ns.map (·.symbol)) x))) := by
  have hf : formulaOf settings (ns.map (·.symbol)) expression =
      .error (.validation (.undeclared (undeclared (ns.map (·.symbol)) x))) := by
    rw [formulaOf, hx]
    simp [hs, hu]
  rw [h.runDeclared, run_eq_error_iff]
  exact .formula (h.validate _) rfl hf

theorem accepts_iff (hx : Formula.parse expression = .ok x) (now : String) (verbose : Bool) :
    (∃ r, (Analysis.runDeclared settings text declarations (some expression) now verbose).2 =
        .ok r) ↔
      (settings.strictVariables.truthy → ∀ name ∈ x.names, name ∈ ns.map (·.symbol)) := by
  refine ⟨fun ⟨r, hr⟩ hs => ?_, fun hs => (h.exists_report hx hs now verbose).imp fun _ => And.left⟩
  by_contra hu
  cases hr.symm.trans (h.refuses hx hs (mt undeclared_eq_nil_iff.mp hu) now verbose)

end Admits

end Enunciado

import Enunciado.Proofs.Analysis.LongNumber
import Enunciado.Proofs.Analysis.Verdict
import Enunciado.Proofs.TruthTable.Rows

namespace Enunciado

open Analysis

-- The values that declarations can be read from.
def Json.hasItems : Json → Bool
  | .obj _ | .arr _ | .str _ => true
  | _ => false

theorem Proposition.ofItem_ne_noItems (v : Json) : ofItem v ≠ .error .noItems := by
  unfold ofItem
  split <;> simp

theorem Proposition.ofJson_ne_noItems {declarations : Json} (h : declarations.hasItems) :
    ofJson declarations ≠ .error .noItems := by
  intro he
  cases declarations
  case obj => contradiction
  case arr items =>
    have ⟨v, _, hv⟩ := exists_of_mapM_error he
    exact ofItem_ne_noItems v hv
  case str s =>
    have ⟨c, _, hc⟩ := exists_of_mapM_error he
    exact ofItem_ne_noItems _ hc
  all_goals contradiction

namespace Analysis

variable {settings : Settings} {request : Request} {ps : List Named}

-- Once there is a formula, nothing can go wrong any more.
theorem exists_tabulate {x : Formula String} (h : x.Proper) (declared : List String) :
    ∃ rows verdict, tabulate declared x = .ok (rows, verdict) := by
  have hr : (assignments declared).map x.row ≠ [] := by simpa using assignments_ne_nil declared
  have ⟨verdict, hv⟩ := exists_classify? hr
  exact ⟨_, verdict, tabulate_eq_ok_iff.mpr ⟨truthTable_eq h declared, hv⟩⟩

theorem proper_of_formulaOf (h : formulaOf settings declared expression = .ok x) : x.Proper :=
  (Formula.derives_of_parse (formulaOf_eq_ok_iff.mp h).1).1.proper

theorem exists_tableLines {x : Formula String} {declared : List String} (hs : declared.Nodup)
    (hp : x.Proper) (h : tabulate declared x = .ok (rows, verdict)) (expression : String) :
    ∃ lines, tableLines declared expression rows verdict = .ok lines := by
  have ⟨ht, _⟩ := tabulate_eq_ok_iff.mp h
  rw [truthTable_eq hp] at ht
  cases ht
  have hr : ∀ r ∈ (assignments declared).map x.row, r.assignment ∈ assignments declared := by
    simp [Formula.row]
  have ⟨text, hl⟩ := exists_layout hs hr expression
  unfold tableLines
  rw [hl]
  dsimp only
  split <;> exact ⟨_, rfl⟩

-- The report on a formula that has been read; the analysis ends with it.
theorem exists_report (hv : validate settings request = .ok ps)
    (he : expressionOf ps request = .ok expression)
    (hx : formulaOf settings (ps.map (·.symbol)) expression = .ok x) (now : String)
    (verbose : Bool) : ∃ report, (run settings request now verbose).2 = .ok report := by
  have hp := proper_of_formulaOf hx
  have ⟨rows, verdict, ht⟩ := exists_tabulate hp (ps.map (·.symbol))
  have ⟨lines, hl⟩ := exists_tableLines (validated_of_validate hv).nodup hp ht expression
  unfold run
  rw [hv]
  dsimp only
  rw [he]
  dsimp only
  rw [hx]
  dsimp only
  rw [ht]
  dsimp only
  rw [hl]
  cases verbose <;> exact ⟨_, rfl⟩

-- The stages at which an analysis can fail, and their errors.
inductive Fails (settings : Settings) (request : Request) : AnalysisError → Prop
  | validation {e} :
    validate settings request = .error e → Fails settings request (.ofValidation e)
  | expression {ps e} :
    validate settings request = .ok ps → expressionOf ps request = .error e →
    Fails settings request e
  | formula {ps expression e} :
    validate settings request = .ok ps → expressionOf ps request = .ok expression →
    formulaOf settings (ps.map (·.symbol)) expression = .error e → Fails settings request e

theorem run_eq_error_iff :
    (run settings request now verbose).2 = .error e ↔ Fails settings request e := by
  constructor
  case mp =>
    intro h
    cases hv : validate settings request
    case error =>
      rw [run, hv] at h
      cases h
      exact .validation hv
    case ok ps =>
    cases he : expressionOf ps request
    case error =>
      simp only [run, hv, he] at h
      cases h
      exact .expression hv he
    case ok expression =>
    cases hx : formulaOf settings (ps.map (·.symbol)) expression
    case error =>
      simp only [run, hv, he, hx] at h
      cases h
      exact .formula hv he hx
    case ok x =>
      obtain ⟨report, hr⟩ := exists_report hv he hx now verbose
      cases h.symm.trans hr
  case mpr =>
    intro h
    cases h
    case validation hv => rw [run, hv]
    case expression hv he => simp only [run, hv, he]
    case formula hv he hx => simp only [run, hv, he, hx]

end Analysis

-- The errors that tell what is wrong with a request.
def AnalysisError.Documented : AnalysisError → Prop
  | declaration (.malformed _) | validation _ | extraction _ | badSyntax _ => True
  | declaration .noItems | evaluation _ | emptyTable | missingColumn _ | tooManyDigits => False

namespace Analysis

variable {text : String} {declarations : Json} {expression? : Option String}

theorem documented_of_expressionOf (h : expressionOf ps request = .error e) : e.Documented := by
  unfold expressionOf at h
  split at h
  case h_1 => cases h
  case h_2 =>
    cases hx : Prose.extract ps request.text <;> rw [hx] at h <;> cases h
    trivial

theorem documented_of_formulaOf (h : formulaOf settings declared expression = .error e) :
    e.Documented := by
  unfold formulaOf at h
  split at h
  case h_1 =>
    cases h
    trivial
  case h_2 =>
    split at h <;> cases h
    trivial

-- What is wrong with a text and declarations shows a whole number with too many digits.
inductive Unwritable (settings : Settings) (text : String) (declarations : Json) : Prop
  | item {item} (malformed : Proposition.ofJson declarations = .error (.malformed item))
    (long : item.hasLong)
  | fault {ps e} (read : Proposition.ofJson declarations = .ok ps)
    (refused : validate settings ⟨text, ps, none⟩ = .error e) (long : e.showsLong)

-- Such a number is one of the declarations, or one of the limits.
theorem Unwritable.hasLong (h : Unwritable settings text declarations) :
    declarations.hasLong ∨ settings.toJson.hasLong := by
  cases h
  case item hm hl => exact .inl (Proposition.hasLong_of_malformed hm hl)
  case fault ps e hj hv hl =>
    unfold validate at hv
    split at hv
    case h_1 ht =>
      cases hv
      exact .inr (hasLong_of_validateText ht hl)
    case h_2 =>
      rcases hasLong_of_validatePropositions hv hl with hs | ⟨p, hp, hl⟩
      · exact .inr hs
      · exact .inl (Proposition.hasLong_of_symbol hj hp hl)

-- An analysis that fails tells what is wrong, unless it is that.
theorem documented_or_unwritable (h : (run settings request now verbose).2 = .error e) :
    e.Documented ∨ e = .tooManyDigits ∧
      ∃ e, validate settings request = .error e ∧ e.showsLong := by
  cases run_eq_error_iff.mp h
  case validation e hv =>
    rw [AnalysisError.ofValidation_eq]
    split
    case isTrue hl => exact .inr ⟨rfl, e, hv, hl⟩
    case isFalse => exact .inl trivial
  case expression he => exact .inl (documented_of_expressionOf he)
  case formula hx => exact .inl (documented_of_formulaOf hx)

theorem tooManyDigits_iff_unwritable :
    (runDeclared settings text declarations expression? now verbose).2 = .error .tooManyDigits ↔
      Unwritable settings text declarations := by
  constructor
  case mp =>
    intro h
    unfold runDeclared at h
    split at h
    case h_1 e he =>
      cases e
      case noItems => cases h
      case malformed item =>
        rw [AnalysisError.ofDeclaration_malformed] at h
        split at h
        case isTrue hl => exact .item he hl
        case isFalse => cases h
    case h_2 ps hps =>
      rcases documented_or_unwritable h with hd | ⟨-, e, hv, hl⟩
      · exact hd.elim
      · exact .fault hps hv hl
  case mpr =>
    intro h
    cases h
    case item item hm hl =>
      have he := (AnalysisError.ofDeclaration_malformed item).trans (if_pos hl)
      rw [runDeclared, hm, ← he]
    case fault ps e hps hv hl =>
      have hv : validate settings ⟨text, ps, expression?⟩ = .error e := hv
      have he := (AnalysisError.ofValidation_eq e).trans (if_pos hl)
      rw [runDeclared, hps, ← he]
      exact run_eq_error_iff.mpr (.validation hv)

end Analysis

end Enunciado

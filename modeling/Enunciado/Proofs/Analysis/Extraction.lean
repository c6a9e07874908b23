import Enunciado.Proofs.Analysis.Failure
import Enunciado.Proofs.Prose.Relationship

namespace Enunciado

section Names

open Prose

variable {σ : Type} {symbols : List σ}

theorem names_foldLeft_subset {op : Operator} {xs : List (Formula σ)}
    (h : ∀ x ∈ xs, x.names ⊆ symbols) : (foldLeft op xs).names ⊆ symbols := by
  have hf (xs : List (Formula σ)) (x : Formula σ) (hx : x.names ⊆ symbols)
      (h : ∀ y ∈ xs, y.names ⊆ symbols) : (xs.foldl (.binary op) x).names ⊆ symbols := by
    induction xs generalizing x
    case nil => exact hx
    case cons y xs hi =>
      have ⟨hy, hs⟩ := List.forall_mem_cons.mp h
      exact hi _ (List.append_subset.mpr ⟨hx, hy⟩) hs
  cases xs
  case nil => exact List.nil_subset _
  case cons x xs =>
    have ⟨hx, hs⟩ := List.forall_mem_cons.mp h
    exact hf xs x hx hs

theorem Prose.Clause.Over.names_subset {c : Clause σ} (h : c.Over symbols) :
    c.formula.names ⊆ symbols := by
  have hx : (foldLeft .and (c.conjuncts.map fun disjuncts =>
      foldLeft .or (disjuncts.map (·.formula)))).names ⊆ symbols := by
    refine names_foldLeft_subset <| List.forall_mem_map.mpr fun d hd => ?_
    refine names_foldLeft_subset <| List.forall_mem_map.mpr fun l hm => ?_
    have hl : l.formula.names = [l.symbol] := by
      unfold Literal.formula
      split <;> rfl
    simpa [hl] using h.symbol_mem d hd l hm
  unfold Clause.formula
  dsimp only
  split <;> exact hx

theorem Prose.Statement.names_subset {st : Statement (Clause σ)}
    (h : ∀ c ∈ st.clauses, c.Over symbols) : st.formula.names ⊆ symbols := by
  have hn (c) (hc : c ∈ st.clauses) := (h c hc).names_subset
  cases st <;> simp_all [Statement.clauses, Statement.formula, Formula.names]

theorem names_meaning_subset {ps : List (Proposition σ String)}
    (h : relationships ps text = .ok rs) : (meaning rs).names ⊆ ps.map (·.symbol) :=
  names_foldLeft_subset <| List.forall_mem_map.mpr fun r hr =>
    Statement.names_subset (relationships_over h r hr)

end Names

section Formulas

open Formula Token

-- The formula that an extracted expression stands for.
structure Prose.States (ns : List Named) (expression : String) (x : Formula String) : Prop where
  derives : Derives 7 .expression (lexemes expression.toList) x
  names   : x.names ⊆ ns.map (·.symbol)

namespace Prose

variable {ns : List Named} {text expression : String} {x : Formula String}

theorem exists_states (hl : ∀ n ∈ ns, isLetterName n.symbol.toList)
    (h : extract ns text = .ok expression) : ∃ x, States ns expression x := by
  have ⟨rs, hr, hn, he⟩ := extract_eq_ok_iff.mp h
  have hd := derives_extract hl hr hn
  rw [← String.toList_ofList (l := conjoin _), he] at hd
  exact ⟨meaning rs, hd, names_meaning_subset hr⟩

theorem States.parse_eq (h : States ns expression x) :
    parse expression = if x.depth ≤ maxDepth then .ok x else .error .tooDeep :=
  parse_of_derives (h.derives.mono (by decide))

theorem States.formulaOf_eq (h : States ns expression x) (settings : Settings) :
    Analysis.formulaOf settings (ns.map (·.symbol)) expression =
      if x.depth ≤ maxDepth then .ok x else .error (.badSyntax .tooDeep) := by
  by_cases hd : x.depth ≤ maxDepth
  case pos =>
    rw [if_pos hd, Analysis.formulaOf_eq_ok_iff, h.parse_eq, if_pos hd]
    exact ⟨rfl, fun _ => @h.names⟩
  case neg =>
    rw [if_neg hd, Analysis.formulaOf, h.parse_eq, if_neg hd]

end Prose

end Formulas

namespace Analysis

variable {settings : Settings} {request : Request} {ns : List Named} {expression : String}

theorem expressionOf_of_text (h : request.expression = none) :
    expressionOf ns request = (Prose.extract ns request.text).mapError .extraction := by
  rw [expressionOf, h]

theorem exists_states_of_validate (hv : validate settings request = .ok ns)
    (hn : request.expression = none) (he : expressionOf ns request = .ok expression) :
    ∃ x, Prose.States ns expression x := by
  rw [expressionOf_of_text hn] at he
  exact Prose.exists_states (validated_of_validate hv).letters (mapError_eq_ok_iff.mp he)

-- Nothing but the formula depends on whether settings are strict, and that does not for a text.
theorem run_of_text (hn : request.expression = none) (strict : Json) (now now' : String)
    (verbose : Bool) :
    run { settings with strictVariables := strict } request now' verbose =
      ((run settings request now verbose).1,
        (run settings request now verbose).2.map fun r => { r with timestamp := now' }) := by
  have hs : validate { settings with strictVariables := strict } request =
      validate settings request :=
    rfl
  cases hv : validate settings request
  case error =>
    rw [run, run, hs, hv]
    rfl
  case ok ns =>
  cases he : expressionOf ns request
  case error =>
    simp only [run, hs, hv, he]
    rfl
  case ok expression =>
  obtain ⟨x, hx⟩ := exists_states_of_validate hv hn he
  have hf := (hx.formulaOf_eq { settings with strictVariables := strict }).trans
    (hx.formulaOf_eq settings).symm
  simp only [run, hs, hv, he, hf]
  cases formulaOf settings (ns.map (·.symbol)) expression
  case error => rfl
  case ok x =>
  dsimp only
  cases tabulate (ns.map (·.symbol)) x
  case error => rfl
  case ok table =>
  cases verbose
  case false => rfl
  case true =>
    simp only [if_true]
    cases tableLines (ns.map (·.symbol)) expression table.1 table.2 <;> rfl

theorem validateText_ne_undeclared (settings : Settings) (text : String) (names : List String) :
    validateText settings text ≠ .error (.undeclared names) := by
  unfold validateText
  dsimp only
  split_ifs <;> simp

theorem validatePropositions_ne_undeclared (settings : Settings) (ps : List Declared)
    (names : List String) : validatePropositions settings ps ≠ .error (.undeclared names) := by
  intro h
  unfold validatePropositions at h
  dsimp only at h
  iterate 4
    split at h
    case isTrue => cases h
  have ⟨⟨symbol, p⟩, _, hm⟩ := exists_of_mapM_error h
  unfold validateMeaning at hm
  split at hm
  case h_1 => split at hm <;> cases hm
  case h_2 => cases hm

theorem validate_ne_undeclared (settings : Settings) (request : Request) (names : List String) :
    validate settings request ≠ .error (.undeclared names) := by
  unfold validate
  split
  case h_1 e he =>
    rintro ⟨rfl⟩
    exact validateText_ne_undeclared _ _ names he
  case h_2 => exact validatePropositions_ne_undeclared _ _ names

theorem error_of_run_text (hn : request.expression = none)
    (h : (run settings request now verbose).2 = .error e) :
    (∀ names, e ≠ .validation (.undeclared names)) ∧ ∀ s, e = .badSyntax s → s = .tooDeep := by
  cases run_eq_error_iff.mp h
  case validation e hv =>
    rw [AnalysisError.ofValidation_eq]
    split
    case isTrue => exact ⟨nofun, nofun⟩
    case isFalse =>
      refine ⟨?_, nofun⟩
      rintro names ⟨rfl⟩
      exact validate_ne_undeclared _ _ names hv
  case expression he =>
    rw [expressionOf_of_text hn] at he
    obtain ⟨e, -, rfl⟩ := mapError_eq_error_iff.mp he
    exact ⟨by simp, by simp⟩
  case formula hv he hf =>
    obtain ⟨x, hx⟩ := exists_states_of_validate hv hn he
    rw [hx.formulaOf_eq] at hf
    split at hf <;> cases hf
    simp

theorem runDeclared_of_text (settings : Settings) (strict : Json) (text : String)
    (declarations : Json) (now now' : String) (verbose : Bool) :
    let outcome := runDeclared settings text declarations none now verbose
    runDeclared { settings with strictVariables := strict } text declarations none now' verbose =
      (outcome.1, outcome.2.map fun r => { r with timestamp := now' }) := by
  unfold runDeclared
  cases Proposition.ofJson declarations
  case error => rfl
  case ok ps => exact run_of_text rfl strict now now' verbose

theorem error_of_text (h : (runDeclared settings text declarations none now verbose).2 = .error e) :
    (∀ names, e ≠ .validation (.undeclared names)) ∧ ∀ s, e = .badSyntax s → s = .tooDeep := by
  unfold runDeclared at h
  split at h
  case h_1 e _ =>
    cases h
    unfold AnalysisError.ofDeclaration
    split
    case h_1 => split <;> exact ⟨nofun, nofun⟩
    case h_2 => exact ⟨nofun, nofun⟩
  case h_2 => exact error_of_run_text rfl h

end Analysis

open Analysis

theorem analysis_of_text_ignores_strictness (settings : Settings) (strict : Json) (text : String)
    (declarations : Json) (now now' : String) (verbose : Bool) :
    let outcome := runDeclared settings text declarations none now verbose
    runDeclared { settings with strictVariables := strict } text declarations none now' verbose =
      (outcome.1, outcome.2.map fun r => { r with timestamp := now' }) ∧
    (∀ ns expression,
      Proposition.ofJson declarations = .ok (ns.map Proposition.declared) →
      validatePropositions settings (ns.map Proposition.declared) = .ok ns →
      Prose.extract ns text = .ok expression →
      ∃ x, Prose.States ns expression x ∧
        Formula.parse expression =
          if x.depth ≤ Formula.maxDepth then .ok x else .error .tooDeep) ∧
    (∀ names, outcome.2 ≠ .error (.validation (.undeclared names))) ∧
    ∀ e, outcome.2 = .error (.badSyntax e) → e = .tooDeep := by
  intro outcome
  refine ⟨runDeclared_of_text settings strict text declarations now now' verbose,
    fun ns expression _ hv he => ?_, fun names h => (error_of_text h).1 names rfl,
    fun e h => (error_of_text h).2 e rfl⟩
  have hl := (validated_of_validatePropositions hv).letters
  exact (Prose.exists_states hl he).imp fun x hx => ⟨hx, hx.parse_eq⟩

theorem analysis_of_conditional_ignores_strictness :
    let ns : List Named := [⟨"p", "llueve"⟩, ⟨"q", "nieva"⟩]
    let declarations := Json.obj [("p", .str "llueve"), ("q", .str "nieva")]
    let strict := { Settings.standard with strictVariables := .bool true }
    let text := "Si llueve entonces nieva."
    ∃ r x,
      (runDeclared .standard text declarations none "hoy" false).2 = .ok r ∧
      (runDeclared strict text declarations none "ayer" false).2 =
        .ok { r with timestamp := "ayer" } ∧
      Prose.States ns "(p) → (q)" x := by
  intro ns declarations strict text
  have hr : Prose.relationships ns text =
      .ok [⟨.conditional ⟨false, [[⟨false, "p"⟩]]⟩ ⟨false, [[⟨false, "q"⟩]]⟩,
        "si llueve entonces nieva".toList⟩] := by
    decide +kernel
  have he : Prose.extract ns text = .ok "(p) → (q)" :=
    Prose.extract_eq_ok_iff.mpr ⟨_, hr, by decide, by decide⟩
  have hj : Proposition.ofJson declarations = .ok (ns.map Proposition.declared) := rfl
  have hp : validatePropositions .standard (ns.map Proposition.declared) = .ok ns := by
    decide +kernel
  obtain ⟨hs, hx, -⟩ :=
    analysis_of_text_ignores_strictness .standard (.bool true) text declarations "hoy" "ayer" false
  obtain ⟨x, hx, -⟩ := hx ns _ hj hp he
  have hv : validate .standard ⟨text, ns.map Proposition.declared, none⟩ = .ok ns := by
    decide +kernel
  have he : expressionOf ns ⟨text, ns.map Proposition.declared, none⟩ = .ok "(p) → (q)" := by
    rw [expressionOf_of_text rfl, he]
    rfl
  have hf : formulaOf .standard (ns.map (·.symbol)) "(p) → (q)" =
      .ok (.binary .implies (.var "p") (.var "q")) :=
    formulaOf_eq_ok_iff.mpr ⟨by cbv, nofun⟩
  obtain ⟨r, hr⟩ := exists_report hv he hf "hoy" false
  have hr : (runDeclared .standard text declarations none "hoy" false).2 = .ok r := by
    rw [runDeclared, hj]
    exact hr
  refine ⟨r, x, hr, ?_, hx⟩
  rw [congrArg Prod.snd hs, hr]
  rfl

end Enunciado

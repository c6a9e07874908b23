import Mathlib.Data.Set.List
import Enunciado.Analysis.Basic
import Enunciado.Proofs.Traversal

namespace Enunciado

section Validation

theorem repeated_eq_nil_iff [DecidableEq α] {xs : List α} : repeated xs = [] ↔ xs.Nodup := by
  induction xs
  case nil => simp [repeated]
  case cons x xs hi =>
    by_cases h : x ∈ xs <;> simp [repeated, h, hi]

theorem letterSymbol?_eq_some_iff :
    letterSymbol? v = some s ↔ v = .str s ∧ Formula.isLetterName s.toList := by
  cases v
  case str t =>
    simp only [letterSymbol?, Option.ite_none_right_eq_some, Option.some.injEq, Json.str.injEq]
    constructor
    · rintro ⟨h, rfl⟩
      exact ⟨rfl, h⟩
    · rintro ⟨rfl, h⟩
      exact ⟨h, rfl⟩
  all_goals simp [letterSymbol?]

theorem validateMeaning_eq_ok_iff {n : Named} :
    validateMeaning symbol meaning = .ok n ↔
      n.symbol = symbol ∧ meaning = .str n.meaning ∧ ¬Text.isVoid n.meaning.toList := by
  have ⟨s, m⟩ := n
  cases meaning
  case str t =>
    by_cases hv : Text.isVoid t.toList
    case pos =>
      simp only [validateMeaning, hv, if_true, reduceCtorEq, false_iff]
      rintro ⟨-, ⟨rfl⟩, h⟩
      exact h hv
    case neg =>
      rw [validateMeaning, if_neg hv]
      constructor
      · rintro ⟨rfl⟩
        exact ⟨rfl, rfl, hv⟩
      · rintro ⟨rfl, ⟨rfl⟩, -⟩
        rfl
  all_goals simp [validateMeaning]

-- Declarations that have been found to be valid, and the propositions that they declare.
structure Validated (ps : List Declared) (ns : List Named) : Prop where
  declared : ps = ns.map Proposition.declared
  nodup    : (ns.map (·.symbol)).Nodup
  letters  : ∀ n ∈ ns, Formula.isLetterName n.symbol.toList

-- A symbol that is known to be a text, with a meaning that is not.
abbrev Proposition.ofSymbol (q : String × Json) : Declared :=
  ⟨.str q.1, q.2⟩

theorem exists_symbols {ps : List Declared}
    (h : (ps.map (·.symbol)).filter (fun v => (letterSymbol? v).isNone) = []) :
    ∃ qs : List (String × Json),
      ps = qs.map .ofSymbol ∧ ∀ q ∈ qs, letterSymbol? (.str q.1) = some q.1 := by
  have hl : ∀ p ∈ ps, ∃ s, letterSymbol? p.symbol = some s := by
    simpa [List.filter_eq_nil_iff, Option.eq_none_iff_forall_ne_some] using h
  have hr : ps ∈ Set.range (List.map Proposition.ofSymbol) := by
    rw [Set.range_list_map]
    rintro ⟨symbol, meaning⟩ hp
    have ⟨s, hs⟩ := hl _ hp
    have ⟨hs, _⟩ := letterSymbol?_eq_some_iff.mp hs
    exact ⟨(s, meaning), congrArg (Proposition.mk · meaning) hs.symm⟩
  obtain ⟨qs, rfl⟩ := hr
  refine ⟨qs, rfl, fun q hq => ?_⟩
  have ⟨s, hs⟩ := hl _ (List.mem_map_of_mem hq)
  have ⟨hq, _⟩ := letterSymbol?_eq_some_iff.mp hs
  cases hq
  exact hs

-- Once the symbols are known to be letters, they are compared, and then the meanings are looked at.
theorem validatePropositions_of_letters {qs : List (String × Json)}
    (hmin : ¬(Number.int (qs.map Proposition.ofSymbol).length).lt settings.minPropositions)
    (hmax : ¬settings.maxPropositions.lt (.int (qs.map Proposition.ofSymbol).length))
    (hl : ∀ q ∈ qs, letterSymbol? (.str q.1) = some q.1) :
    validatePropositions settings (qs.map .ofSymbol) =
      if (qs.map Prod.fst).Nodup then qs.mapM fun q => validateMeaning q.1 q.2
      else .error (.repeatedSymbols (repeated (qs.map Prod.fst))) := by
  have hs : (qs.map Proposition.ofSymbol).filterMap (letterSymbol? ·.symbol) = qs.map Prod.fst := by
    rw [List.filterMap_map]
    exact List.filterMap_eq_map_iff_forall_eq_some.mpr hl
  have hb : ((qs.map Proposition.ofSymbol).map (·.symbol)).filter
      (fun v => (letterSymbol? v).isNone) = [] := by
    refine List.filter_eq_nil_iff.mpr ?_
    simp only [List.forall_mem_map]
    exact fun q hq => by simp [hl q hq]
  unfold validatePropositions
  simp only [if_neg hmin, if_neg hmax, hb, hs, ne_eq, not_true, if_false, ite_not,
    repeated_eq_nil_iff]
  refine if_congr Iff.rfl ?_ rfl
  rw [List.zip_map', List.mapM_map]
  rfl

theorem validated_of_validatePropositions (h : validatePropositions settings ps = .ok ns) :
    Validated ps ns := by
  have hv := h
  unfold validatePropositions at hv
  dsimp only at hv
  iterate 3
    split at hv
    case isTrue => cases hv
  case isFalse hmin hmax hb =>
  obtain ⟨qs, rfl, hq⟩ := exists_symbols (not_not.mp hb)
  rw [validatePropositions_of_letters hmin hmax hq] at h
  split at h
  case isFalse => cases h
  case isTrue hd =>
  have hm := mapM_eq_ok_iff.mp h
  simp only [validateMeaning_eq_ok_iff] at hm
  have hn : qs = ns.map fun n => (n.symbol, .str n.meaning) := by
    rw [← List.forall₂_eq_eq_eq]
    exact List.forall₂_map_right_iff.mpr <| hm.imp fun q n h => Prod.ext h.1.symm h.2.1
  subst hn
  exact {
    declared := by simp [Proposition.declared, Proposition.map]
    nodup    := by simpa [Function.comp_def] using hd
    letters  := fun n hn => (letterSymbol?_eq_some_iff.mp <| hq _ <| List.mem_map_of_mem hn).2
  }

end Validation

namespace Analysis

variable {settings : Settings} {request : Request} {now : String} {report : Report String}

theorem validated_of_validate (h : validate settings request = .ok ps) :
    Validated request.propositions ps := by
  unfold validate at h
  split at h
  case h_1 => cases h
  case h_2 => exact validated_of_validatePropositions h

-- What the stages have found that have led to a report.
structure Reached (settings : Settings) (request : Request) (now : String)
    (report : Report String) : Prop where
  validated  : validate settings request = .ok report.propositions
  expression : expressionOf report.propositions request = .ok report.expression
  formula    : formulaOf settings (report.propositions.map (·.symbol)) report.expression =
    .ok report.formula
  table      : tabulate (report.propositions.map (·.symbol)) report.formula =
    .ok (report.rows, report.verdict)
  text       : report.text = request.text
  timestamp  : report.timestamp = now

theorem reached_of_run (h : (run settings request now verbose).2 = .ok report) :
    Reached settings request now report := by
  unfold run at h
  dsimp only at h
  split at h
  case h_1 => cases h
  case h_2 ps hv =>
  split at h
  case h_1 => cases h
  case h_2 expression he =>
  split at h
  case h_1 => cases h
  case h_2 x hx =>
  split at h
  case h_1 => cases h
  case h_2 rows verdict ht =>
  have hr : report = ⟨request.text, ps, expression, verdict, rows, x, now⟩ := by
    cases verbose
    case false =>
      cases h
      rfl
    case true =>
      simp only [if_true] at h
      split at h <;> cases h
      rfl
  subst hr
  exact ⟨hv, he, hx, ht, rfl, rfl⟩

-- Nothing else can fail unless the table is shown.
theorem Reached.run (h : Reached settings request now report) :
    (run settings request now false).2 = .ok report := by
  simp only [Analysis.run, h.validated, h.expression, h.formula, h.table, Bool.false_eq_true,
    if_false]
  rw [← h.text, ← h.timestamp]

theorem Reached.valid (h : Reached settings request now report) :
    Validated request.propositions report.propositions :=
  validated_of_validate h.validated

theorem undeclared_eq_nil_iff {x : Formula String} :
    undeclared declared x = [] ↔ ∀ name ∈ x.names, name ∈ declared := by
  rw [undeclared, ← List.perm_nil, List.Perm.congr_left (List.mergeSort_perm _ _), List.perm_nil]
  simp [List.filter_eq_nil_iff]

theorem formulaOf_eq_ok_iff :
    formulaOf settings declared expression = .ok x ↔
      Formula.parse expression = .ok x ∧
      (settings.strictVariables.truthy → ∀ name ∈ x.names, name ∈ declared) := by
  unfold formulaOf
  cases Formula.parse expression
  case error => simp
  case ok y =>
    simp only [← undeclared_eq_nil_iff, Except.ok.injEq]
    split
    case isTrue h =>
      have ⟨hs, hu⟩ : settings.strictVariables.truthy ∧ undeclared declared y ≠ [] := by
        simpa using h
      simp only [reduceCtorEq, false_iff]
      rintro ⟨rfl, hx⟩
      exact hu (hx hs)
    case isFalse h =>
      have hu : settings.strictVariables.truthy → undeclared declared y = [] := by simpa using h
      constructor
      · rintro ⟨rfl⟩
        exact ⟨rfl, hu⟩
      · rintro ⟨rfl, -⟩
        rfl

theorem tabulate_eq_ok_iff :
    tabulate declared x = .ok (rows, verdict) ↔
      truthTable (Assignment.environment false) x declared = .ok rows ∧
      classify? rows = some verdict := by
  unfold tabulate
  cases truthTable (Assignment.environment false) x declared
  case error => simp
  case ok rows' =>
    cases hw : classify? rows'
    case none =>
      simp only [hw, reduceCtorEq, Except.ok.injEq, false_iff]
      rintro ⟨rfl, h⟩
      simp [hw] at h
    case some w =>
      simp only [hw, Except.ok.injEq, Prod.mk.injEq]
      refine and_congr_right ?_
      rintro rfl
      simp [hw]

end Analysis

end Enunciado

import Mathlib.Data.List.Induction
import Enunciado.Proofs.Analysis.Failure

namespace Enunciado

open Analysis

section Counting

-- The values that come up more than once, in the order in which they first do; none if one of them
-- cannot be a key, as those that are counted have to be.
def Json.repeatedKeys? (vs : List Json) : Option (List Json) :=
  (distinctKeys? vs).map (·.filter fun k => 1 < vs.countP (·.keyForm = k.keyForm))

variable {α : Type} [DecidableEq α]

theorem eraseDups_concat (xs : List α) (x : α) :
    (xs ++ [x]).eraseDups = if x ∈ xs then xs.eraseDups else xs.eraseDups ++ [x] := by
  rw [List.eraseDups_append]
  by_cases h : x ∈ xs <;> simp [List.removeAll, List.eraseDups_cons, h]

theorem eraseDups_filter (p : α → Bool) (xs : List α) :
    (xs.filter p).eraseDups = xs.eraseDups.filter p := by
  induction xs using List.reverseRecOn
  case nil => rfl
  case append_singleton xs x hi =>
    by_cases hp : p x
    case pos =>
      rw [List.filter_append, List.filter_singleton, hp, cond_true, eraseDups_concat,
        eraseDups_concat, hi]
      simp only [List.mem_filter, hp, and_true]
      split <;> simp [hp]
    case neg =>
      rw [List.filter_append, List.filter_singleton, eq_false_of_ne_true hp, cond_false,
        List.append_nil, hi, eraseDups_concat]
      split <;> simp [hp]

theorem repeated_eq_filter (xs : List α) :
    repeated xs = xs.eraseDups.filter fun x => 1 < xs.count x := by
  induction xs
  case nil => rfl
  case cons x xs hi =>
    have hx : 1 < (x :: xs).count x ↔ x ∈ xs := by
      rw [List.count_cons_self, Nat.lt_add_left_iff_pos, List.count_pos_iff]
    have hc : ∀ y ∈ (xs.filter (!· == x)).eraseDups,
        decide (1 < (x :: xs).count y) = decide (1 < xs.count y) := by
      intro y hy
      have hy : y ≠ x := by
        rw [eraseDups_filter, List.mem_filter] at hy
        simpa using hy.2
      rw [List.count_cons_of_ne hy.symm]
    rw [repeated, hi, List.eraseDups_cons, List.filter_cons, List.filter_congr hc]
    simp only [hx, decide_eq_true_eq]
    by_cases hm : x ∈ xs
    case pos =>
      simp [hm, eraseDups_filter, List.filter_filter, Bool.and_comm, beq_eq_decide]
    case neg =>
      have hn : xs.filter (!· == x) = xs := by
        simpa [List.filter_eq_self] using fun y hy => ne_of_mem_of_not_mem hy hm
      rw [if_neg hm, if_neg hm, hn]

@[simp]
theorem Json.keyForm_str (s : String) : (Json.str s).keyForm = .str s :=
  rfl

theorem distinctKeys?_texts (ss : List String) :
    Json.distinctKeys? (ss.map .str) = some (ss.eraseDups.map .str) := by
  have hk : (ss.map Json.str).all Json.isKey := by simp [Json.isKey]
  rw [Json.distinctKeys?, if_pos hk]
  refine congrArg some ?_
  clear hk
  induction ss using List.reverseRecOn
  case nil => rfl
  case append_singleton ss s hi =>
    have hm : (ss.eraseDups.map Json.str).any (·.keyForm = (Json.str s).keyForm) =
        decide (s ∈ ss) := by
      rw [Bool.eq_iff_iff]
      simp
    rw [List.map_append, List.foldl_append, hi, eraseDups_concat, List.map_singleton,
      List.foldl_cons, List.foldl_nil, Json.distinctKeys?.add, hm]
    by_cases hs : s ∈ ss <;> simp [hs]

theorem repeatedKeys?_texts (ss : List String) :
    Json.repeatedKeys? (ss.map .str) = some ((repeated ss).map .str) := by
  rw [Json.repeatedKeys?, distinctKeys?_texts, repeated_eq_filter, Option.map_some, List.filter_map]
  refine congrArg (fun l => some (l.map Json.str)) (List.filter_congr fun s _ => ?_)
  simp [Function.comp_def, List.count, List.countP_map, beq_eq_decide]

-- Where the symbols are counted all of them are letters, so that they can be.
theorem repeatedKeys?_of_letters {ps : List Declared}
    (h : ∀ p ∈ ps, (letterSymbol? p.symbol).isSome) :
    Json.repeatedKeys? (ps.map (·.symbol)) =
      some ((repeated (ps.filterMap fun p => letterSymbol? p.symbol)).map .str) := by
  have hs : ps.map (·.symbol) = (ps.filterMap fun p => letterSymbol? p.symbol).map .str := by
    induction ps
    case nil => rfl
    case cons p ps hi =>
      have ⟨hp, hps⟩ := List.forall_mem_cons.mp h
      have ⟨s, hs⟩ := Option.isSome_iff_exists.mp hp
      simp only [List.map_cons, List.filterMap_cons, hs, hi hps]
      rw [(letterSymbol?_eq_some_iff.mp hs).1]
  rw [hs, repeatedKeys?_texts]

end Counting

section Wording

variable {α β : Type}

namespace Formula

theorem outerPrecedence?_map (f : α → β) (x : Formula α) :
    (x.map f).outerPrecedence? = x.outerPrecedence? := by
  cases x <;> rfl

theorem isBinary_map (f : α → β) (x : Formula α) : (x.map f).isBinary = x.isBinary := by
  cases x <;> rfl

theorem render_map (f : α → β) (text : β → List Char) (x : Formula α) :
    (x.map f).render text = x.render (text ∘ f) := by
  induction x
  case var => rfl
  case const b => cases b <;> rfl
  case unary hi => simp only [map, render, hi, isBinary_map]
  case binary hx hy =>
    simp only [map, render, hx, hy, wrapsLeft, wrapsRight, outerPrecedence?_map]

theorem besideError?_map (x : Formula String) : (x.map Json.str).besideError? = none := by
  cases x <;> rfl

-- Names that are texts can be written.
theorem writingError?_map {x : Formula String} (h : x.Proper) :
    (x.map Json.str).writingError? = none := by
  induction x
  case var => rfl
  case const => rfl
  case unary hi => simp [map, writingError?, hi h.2, besideError?_map]
  case binary hx hy => simp [map, writingError?, h.1, hx h.2.1, hy h.2.2, besideError?_map]

theorem expression_map {x : Formula String} (h : x.Proper) :
    (x.map .str).expression = .ok (.str x.toExpression) := by
  have hr : (x.map Json.str).render (fun name => name.display?.getD []) = x.render String.toList :=
    render_map ..
  unfold expression
  rw [writingError?_map h, toExpression, ← hr]
  cases x
  case var => simp [map, render, Json.display?]
  all_goals rfl

end Formula

namespace Report

variable {P : Json → Prop} {p : Declared} {ms : List (Json × Json)} {r : Report Json}

theorem forall_setMeaning (hp : P p.meaning) (hm : ∀ f ∈ ms, P f.2) :
    ∀ f ∈ meanings.setMeaning p ms, P f.2 := by
  induction ms
  case nil => simpa [meanings.setMeaning] using hp
  case cons f ms hi =>
    have ⟨hf, hms⟩ := List.forall_mem_cons.mp hm
    rw [meanings.setMeaning]
    split
    case isTrue => exact List.forall_mem_cons.mpr ⟨hp, hms⟩
    case isFalse => exact List.forall_mem_cons.mpr ⟨hf, hi hms⟩

-- The meanings of the symbols are those of the propositions.
theorem forall_meanings (h : r.meanings = .ok ms) (hp : ∀ p ∈ r.propositions, P p.meaning) :
    ∀ f ∈ ms, P f.2 := by
  unfold meanings at h
  split at h <;> cases h
  exact List.foldlRecOn (motive := fun ms : List (Json × Json) => ∀ f ∈ ms, P f.2) _ _
    (List.forall_mem_nil _) fun _ hm p hmem => forall_setMeaning (hp p hmem) hm

-- The texts of a report can be keys, and its expression can be read.
theorem exists_reading (r : Report String) : ∃ s, r.document.reading = .ok s := by
  have hk : r.document.propositions.all (·.symbol.isKey) := by
    simp [document, Report.map, Proposition.map, Json.isKey]
  obtain ⟨ms, hms⟩ : ∃ ms, r.document.meanings = .ok ms := ⟨_, if_pos hk⟩
  have hl : ∀ f ∈ ms, f.2.hasLong = false :=
    forall_meanings (P := fun v => v.hasLong = false) hms
      (by simp [document, Report.map, Proposition.map, Json.hasLong, Json.isLong])
  have hn : (loneLetters false r.expression.toList).any (fun c =>
      (lookup (.str (String.singleton c)) ms).any (·.hasLong)) = false := by
    refine List.any_eq_false.mpr fun c _ => ?_
    cases hc : lookup (Json.str (String.singleton c)) ms
    case none => exact Bool.false_ne_true
    case some m => simpa using hl _ (mem_of_lookup hc)
  refine ⟨String.ofList (paraphrase
    (fun c => (lookup (.str (String.singleton c)) ms).bind Json.display?) r.expression.toList), ?_⟩
  have he : r.document.expression = .str r.expression := rfl
  simp only [reading, hms, bind, Except.bind, he, hn]
  rfl

end Report

end Wording

namespace Analysis

variable {settings : Settings} {request : Request}

theorem runDeclared_cases {declarations : Json} (hd : declarations.hasItems) (settings : Settings)
    (text : String) (expression : Option String) (now : String) (verbose : Bool) :
    let outcome := (runDeclared settings text declarations expression now verbose).2
    (∃ report, outcome = .ok report ∧ report.formula.Proper) ∨
      (∃ e, outcome = .error e ∧ e.Documented) ∨ outcome = .error .tooManyDigits := by
  unfold runDeclared
  cases hj : Proposition.ofJson declarations
  case error e =>
    cases e
    case noItems => exact absurd hj (Proposition.ofJson_ne_noItems hd)
    case malformed item =>
      dsimp only
      rw [AnalysisError.ofDeclaration_malformed]
      split
      case isTrue => exact .inr (.inr rfl)
      case isFalse => exact .inr (.inl ⟨_, rfl, trivial⟩)
  case ok ps =>
    dsimp only
    cases hr : (run settings ⟨text, ps, expression⟩ now verbose).2
    case ok report => exact .inl ⟨report, rfl, (reached_of_run hr).proper⟩
    case error e =>
      rcases documented_or_unwritable hr with he | ⟨rfl, -⟩
      · exact .inr (.inl ⟨e, rfl, he⟩)
      · exact .inr (.inr rfl)

end Analysis

theorem runDeclared_ends_as_documented {declarations : Json} (hd : declarations.hasItems)
    (settings : Settings) (text : String) (expression : Option String) (now : String)
    (verbose : Bool) :
    let outcome := (runDeclared settings text declarations expression now verbose).2
    ((∃ report, outcome = .ok report ∧
        report.document.formula.expression = .ok (.str report.formula.toExpression) ∧
        ∃ s, report.document.reading = .ok s) ∨
      (∃ e, outcome = .error e ∧ e.Documented) ∨ outcome = .error .tooManyDigits) ∧
    (outcome = .error .tooManyDigits ↔ Unwritable settings text declarations) ∧
    (Unwritable settings text declarations → declarations.hasLong ∨ settings.toJson.hasLong) ∧
    ∀ ps, Proposition.ofJson declarations = .ok ps →
      (∀ p ∈ ps, (letterSymbol? p.symbol).isSome) →
      Json.repeatedKeys? (ps.map (·.symbol)) =
        some ((repeated (ps.filterMap fun p => letterSymbol? p.symbol)).map .str) := by
  refine ⟨?_, tooManyDigits_iff_unwritable, Unwritable.hasLong,
    fun ps _ h => repeatedKeys?_of_letters h⟩
  refine (runDeclared_cases hd settings text expression now verbose).imp_left ?_
  rintro ⟨report, hr, hp⟩
  exact ⟨report, hr, Formula.expression_map hp, report.exists_reading⟩

-- A symbol that cannot be counted is refused before the symbols are counted.
theorem runDeclared_of_uncountable_symbol :
    let declarations := Json.arr [.obj [("symbol", .arr []), ("meaning", .null)], .str "qr"]
    Json.repeatedKeys? [.arr [], .str "q"] = none ∧ declarations.hasItems ∧
    ∃ e, (runDeclared .standard "Llueve mucho." declarations (some "q") "" true).2 = .error e ∧
      e.Documented ∧ e = .validation (.badSymbols [.arr []]) := by
  intro declarations
  have hd : declarations.hasItems := rfl
  have he : (runDeclared .standard "Llueve mucho." declarations (some "q") "" true).2 =
      .error (.validation (.badSymbols [.arr []])) := by
    decide +kernel
  obtain ⟨h, -⟩ :=
    runDeclared_ends_as_documented hd .standard "Llueve mucho." (some "q") "" true
  rcases h with ⟨report, hr, -⟩ | ⟨e, hr, hdoc⟩ | hr
  · cases he.symm.trans hr
  · cases he.symm.trans hr
    exact ⟨rfl, hd, _, he, hdoc, rfl⟩
  · cases he.symm.trans hr

-- An error that is not documented comes of a limit that has too many digits.
theorem undocumented_long_limit :
    let limit : Json := .int (10 ^ 4300 : Nat)
    let declarations := Json.obj [("p", .str "llueve"), ("q", .str "nieva")]
    ∃ settings e,
      Settings.ofJson (.obj [("min_text_length", limit), ("max_text_length", limit)]) =
        .ok settings ∧
      (runDeclared settings "Llueve y nieva." declarations none "" false).2 = .error e ∧
      ¬e.Documented := by
  refine ⟨{ Settings.standard with
    minTextLength := .int (10 ^ 4300 : Nat), maxTextLength := .int (10 ^ 4300 : Nat) },
    .tooManyDigits, ?_⟩
  exact ⟨by decide +kernel, by decide +kernel, id⟩

end Enunciado

import Mathlib.Data.Set.List
import Enunciado.Proofs.Prose.Preference
import Enunciado.Proofs.Prose.Relationship
import Enunciado.Prose.Unchecked

namespace Enunciado.Prose

open Formula Token

section Match

variable {σ τ : Type}

-- What a match says of the symbol does not depend on what kind of value it is.
theorem bestMatch_map (f : σ → τ) (ps : List (Proposition σ String)) (s : List Char) :
    bestMatch (ps.map (·.map f id)) s = (bestMatch ps s).map (·.map f id) := by
  unfold bestMatch
  extract_lets ws
  let agreement {σ : Type} (p : Proposition σ String) := score ws p.meaning.toList
  let translated (p : Proposition σ String) : Proposition τ String := p.map f id
  have ha (p : Proposition σ String) : agreement (translated p) = agreement p := rfl
  have h := firstBest_map translated ha (none, ⟨0⟩) ps
  dsimp only [Option.map_none] at h
  rw [h, apply_ite (Option.map _), Option.map_none]

end Match

section Declared

-- The declarations of the propositions, with meanings that are known to be texts.
abbrev untyped (ps : List Named) : List (Proposition Json String) :=
  ps.map (·.map .str id)

-- An expression as a value.
abbrev expressionValue (s : List Char) : Json :=
  .str (String.ofList s)

theorem withWords_declared (ps : List Named) :
    withWords (ps.map Proposition.declared) = .ok (untyped ps) :=
  mapM_map_eq_ok fun _ _ => rfl

theorem declared_injective : Proposition.declared.Injective := by
  rintro ⟨s, m⟩ ⟨s', m'⟩ h
  simpa [Proposition.declared, Proposition.map] using h

theorem denyValue_expressionValue (negated : Bool) (s : List Char) :
    denyValue negated (expressionValue s) = .ok (expressionValue (denyIf negated s)) := by
  cases negated <;> simp [denyValue, besideText, denyIf, Json.display?, Except.map]

theorem joinParts_expressionValue {α : Type} (op : Operator) (f : α → List Char) (as : List α) :
    joinParts op (as.map fun a => expressionValue (f a)) =
      .ok (expressionValue (chain op (as.map f))) := by
  have hm : (as.map fun a => expressionValue (f a)).mapM joinedText = .ok (as.map f) :=
    mapM_map_eq_ok fun a _ => by rw [joinedText, String.toList_ofList]
  match as with
  | [] => rfl
  | [a] => rfl
  | a :: b :: as => exact bind_eq_ok_iff.mpr ⟨_, hm, rfl⟩

def UncheckedError.ofUnmatched (e : Unmatched) : UncheckedError :=
  .unmatched e.term

theorem readTerm_untyped (ps : List Named) (s : List Char) :
    readTerm (untyped ps) s =
      translate .ofUnmatched (fun l => expressionValue (l.render String.toList))
        (readLiteral ps s) := by
  unfold readTerm readLiteral
  have ⟨negated, term⟩ := stripNegation s
  dsimp only
  rw [bestMatch_map]
  cases bestMatch ps term
  case none => rfl
  case some p =>
    have h : Json.str p.symbol = expressionValue p.symbol.toList := by simp
    simp only [Option.map_some, Proposition.map, translate_ok, Literal.render, h,
      denyValue_expressionValue]

theorem mapM_joinParts {α β ε : Type} {k : α → Except ε β} {k' : α → Except UncheckedError Json}
    {e : ε → UncheckedError} {f : β → List Char} (op : Operator)
    (h : ∀ a, k' a = translate e (fun b => expressionValue (f b)) (k a)) (as : List α) :
    as.mapM k' >>= joinParts op =
      translate e (fun bs => expressionValue (chain op (bs.map f))) (as.mapM k) := by
  rw [funext h, mapM_translate]
  cases as.mapM k
  case error => rfl
  case ok bs => exact joinParts_expressionValue op f bs

theorem readValue_untyped (ps : List Named) (s : List Char) :
    readValue (untyped ps) s =
      translate .ofUnmatched (fun c => expressionValue (c.render String.toList))
        (readClause ps s) := by
  unfold readValue readClause
  have ⟨negated, text⟩ := stripNegation s
  have hd (part : List Char) := mapM_joinParts .or (readTerm_untyped ps) (splitAtWord 'o' part)
  have hc := mapM_joinParts .and hd (splitAtWord 'y' text)
  dsimp only
  rw [← bind_assoc, hc]
  refine translate_bind fun conjuncts _ => ?_
  rw [denyValue_expressionValue]
  rfl

-- Clauses that are texts can be written beside the arrow.
theorem readValues_untyped (ps : List Named) (parts : List Char × List Char) :
    readValues (untyped ps) parts =
      translate (RelationError.map .ofUnmatched)
        (Prod.map (fun c => expressionValue (c.render String.toList))
          (fun c => expressionValue (c.render String.toList)))
        (readConditional (readClause ps) parts) := by
  rw [readValues, readConditional_translate (readValue_untyped ps)]
  cases readConditional (readClause ps) parts <;> rfl

theorem uncheckedClause_declared (ns : List Named) (clause : String) :
    uncheckedClause (ns.map Proposition.declared) clause =
      translate .ofUnmatched (fun c => expressionValue (c.render String.toList))
        (readClause ns clause.toList) := by
  rw [uncheckedClause, withWords_declared, ← readValue_untyped]
  rfl

end Declared

section Findings

variable {ps : List Declared} {ns : List Named} {text : String}

def UncheckedError.ofExtraction : ExtractionError → UncheckedError
  | .unmatched term => .unmatched term
  | .continuation s => .continuation s
  | .nothing => .nothing

def Relationship.finding (r : Relationship (Clause String)) : Finding :=
  ⟨r.statement.kind, expressionValue (r.statement.render (Clause.render String.toList)),
    String.ofList r.source⟩

theorem Relationship.map_finding (r : Relationship (Clause String)) :
    let r' := r.map fun c => expressionValue (c.render String.toList)
    ⟨r'.statement.kind, r'.statement.value, String.ofList r'.source⟩ = r.finding := by
  have ⟨st, source⟩ := r
  cases st <;>
    simp [finding, Relationship.map, Statement.map, Statement.kind, Statement.value,
      Statement.render, Json.display?]

theorem uncheckedFindings_declared (ns : List Named) (text : String) :
    uncheckedFindings (ns.map Proposition.declared) text =
      translate .ofExtraction (List.map Relationship.finding) (relationships ns text) := by
  unfold uncheckedFindings relationships
  generalize sentences (normalize text.toList) = ss
  dsimp only
  split
  case isTrue he =>
    cases List.isEmpty_iff.mp he
    rfl
  case isFalse =>
    have hi (e : Unmatched) : (UncheckedError.ofUnmatched e).isUnmatched = true := rfl
    have hr := relate_translate (readValue_untyped ns) (readValues_untyped ns) hi ss
    rw [withWords_declared]
    dsimp only [bind, Except.bind]
    rw [hr]
    cases relate (readClause ns) (readConditional (readClause ns)) (fun _ => true) ss
    case error e => cases e <;> rfl
    case ok rs =>
      refine congrArg Except.ok ?_
      rw [List.map_map]
      exact List.map_congr_left fun r _ => r.map_finding

theorem uncheckedExtract_declared (ns : List Named) (text : String) :
    uncheckedExtract (ns.map Proposition.declared) text =
      translate .ofExtraction Json.str (extract ns text) := by
  unfold uncheckedExtract extract
  rw [uncheckedFindings_declared]
  cases relationships ns text
  case error => rfl
  case ok rs =>
    match rs with
    | [] => rfl
    | [r] => rfl
    | r :: r' :: rs =>
      have hw : ((r :: r' :: rs).map (·.finding)).mapM (besideText ·.raw) =
          .ok ((r :: r' :: rs).map fun r => r.statement.render (Clause.render String.toList)) :=
        mapM_map_eq_ok fun r _ => by simp [besideText, Relationship.finding, Json.display?]
      rw [translate_ok]
      exact bind_eq_ok_iff.mpr ⟨_, rfl, bind_eq_ok_iff.mpr ⟨_, hw, rfl⟩⟩

-- Nothing is read unless all meanings are texts.
theorem exists_named_of_uncheckedExtract (hs : ∀ p ∈ ps, ∃ s, p.symbol = .str s)
    (h : uncheckedExtract ps text = .ok v) :
    ∃ ns : List Named, ns.map Proposition.declared = ps := by
  have ⟨fs, hf, hv⟩ := bind_eq_ok_iff.mp h
  unfold uncheckedFindings at hf
  dsimp only at hf
  split at hf
  case isTrue =>
    cases hf
    cases hv
  case isFalse =>
    have ⟨ws, hw, _⟩ := bind_eq_ok_iff.mp hf
    suffices ps ∈ Set.range (List.map Proposition.declared) from this
    rw [Set.range_list_map]
    rintro ⟨symbol, meaning⟩ hp
    obtain ⟨s, rfl⟩ := hs _ hp
    have ⟨w, _, hm⟩ := exists_of_mapM hw _ hp
    cases meaning
    case str m => exact ⟨⟨s, m⟩, rfl⟩
    all_goals cases hm

end Findings

section Extraction

theorem parse_of_uncheckedExtract {ps : List Declared} {text : String}
    (hl : ∀ p ∈ ps, ∃ s, p.symbol = .str s ∧ isLetterName s.toList)
    (h : uncheckedExtract ps text = .ok v) :
    ∃ ns rs s,
      ps = ns.map Proposition.declared ∧ relationships ns text = .ok rs ∧ rs ≠ [] ∧
      uncheckedFindings ps text = .ok (rs.map (·.finding)) ∧
      v = .str s ∧ extract ns text = .ok s ∧
      Derives 7 .expression (lexemes s.toList) (meaning rs) ∧
      ('↔' ∉ s.toList ∧ '⊤' ∉ s.toList ∧ '⊥' ∉ s.toList) ∧
      parse s = if (meaning rs).depth ≤ maxDepth then .ok (meaning rs) else .error .tooDeep := by
  have hs (p) (hp : p ∈ ps) : ∃ s, p.symbol = .str s := (hl p hp).imp fun _ h => h.1
  obtain ⟨ns, rfl⟩ := exists_named_of_uncheckedExtract hs h
  have hn : ∀ p ∈ ns, isLetterName p.symbol.toList := by
    simpa [Proposition.declared, Proposition.map] using hl
  rw [uncheckedExtract_declared] at h
  cases he : extract ns text
  case error e => simp [he] at h
  case ok s =>
  rw [he] at h
  cases h
  have ⟨rs, hr, hne, hse⟩ := extract_eq_ok_iff.mp he
  have hf := uncheckedFindings_declared ns text
  rw [hr] at hf
  have hd := derives_extract hn hr hne
  have hp := plain_extract hn hr
  rw [← String.toList_ofList (l := conjoin _), hse] at hd hp
  exact ⟨ns, rs, s, rfl, hr, hne, hf, rfl, he, hd, hp, parse_of_derives (hd.mono (by decide))⟩

theorem parse_of_uncheckedExtract_rain_or_snow :
    uncheckedExtract [⟨.str "p", .str "llueve"⟩, ⟨.str "q", .str "nieva"⟩]
      "Si no llueve entonces nieva o llueve. Nieva." = .ok (.str "((¬p) → ((q ∨ p))) ∧ (q)") ∧
    parse "((¬p) → ((q ∨ p))) ∧ (q)" = .ok (.binary .and
      (.binary .implies (.unary .not (.var "p")) (.binary .or (.var "q") (.var "p")))
      (.var "q")) := by
  let p : Literal String := ⟨false, "p"⟩
  let q : Literal String := ⟨false, "q"⟩
  let ns : List Named := [⟨"p", "llueve"⟩, ⟨"q", "nieva"⟩]
  have hr : relationships ns "Si no llueve entonces nieva o llueve. Nieva." = .ok
      [⟨.conditional ⟨true, [[p]]⟩ ⟨false, [[q, p]]⟩,
          "si no llueve entonces nieva o llueve".toList⟩,
        ⟨.plain ⟨false, [[q]]⟩, "nieva".toList⟩] := by
    decide +kernel
  have he : uncheckedExtract (ns.map Proposition.declared)
      "Si no llueve entonces nieva o llueve. Nieva." = .ok (.str "((¬p) → ((q ∨ p))) ∧ (q)") := by
    have he : extract ns _ = .ok "((¬p) → ((q ∨ p))) ∧ (q)" :=
      extract_eq_ok_iff.mpr ⟨_, hr, by decide, by decide⟩
    rw [uncheckedExtract_declared, he, translate_ok]
  have hl : ∀ p ∈ ns.map Proposition.declared, ∃ s, p.symbol = .str s ∧ isLetterName s.toList := by
    simp [ns, Proposition.declared, Proposition.map, isLetterName]
  obtain ⟨ns', rs, s, hn, hr', _, _, hs, _, _, _, hp⟩ := parse_of_uncheckedExtract hl he
  cases hs
  cases List.map_injective_iff.mpr declared_injective hn
  cases hr.symm.trans hr'
  exact ⟨he, hp.trans (if_pos (by decide +kernel))⟩

end Extraction

end Enunciado.Prose

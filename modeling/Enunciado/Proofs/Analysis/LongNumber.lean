import Enunciado.Analysis.Basic
import Enunciado.Proofs.Json.Fields
import Enunciado.Proofs.Json.Writer
import Enunciado.Proofs.Traversal

namespace Enunciado

variable {settings : Settings} {text : String} {v item : Json} {p : Declared} {ps : List Declared}

section Shown

-- Whether what the error shows has a whole number with too many digits.
def ValidationError.showsLong : ValidationError → Bool
  | shortText n | longText n | fewPropositions n | manyPropositions n => n.toJson.hasLong
  | badSymbols symbols => Json.anyLong symbols
  | emptyText | repeatedSymbols _ | meaningKind _ _ | blankMeaning _ | undeclared _ => false

theorem Number.display?_eq_none_iff (n : Number) : n.display? = none ↔ n.toJson.hasLong := by
  rw [display?, Option.map_eq_none_iff, Json.display?_eq_none_iff]

-- Nothing else keeps an error from being put into words.
theorem ValidationError.message?_eq_none_iff (e : ValidationError) :
    e.message? = none ↔ e.showsLong := by
  cases e
  case shortText n | longText n | fewPropositions n | manyPropositions n =>
    rw [message?, Option.map_eq_none_iff, Number.display?_eq_none_iff, showsLong]
  case badSymbols symbols =>
    rw [message?, Option.map_eq_none_iff, Json.literalItems?_eq_none_iff, showsLong]
  all_goals exact iff_of_false nofun nofun

theorem malformedMessage?_eq_none_iff (item : Json) :
    malformedMessage? item = none ↔ item.hasLong := by
  rw [malformedMessage?, Option.map_eq_none_iff, Json.literal?_eq_none_iff]

theorem AnalysisError.ofValidation_eq (e : ValidationError) :
    ofValidation e = if e.showsLong then tooManyDigits else validation e :=
  if_congr (Option.isNone_iff_eq_none.trans e.message?_eq_none_iff) rfl rfl

theorem AnalysisError.ofDeclaration_malformed (item : Json) :
    ofDeclaration (.malformed item) =
      if item.hasLong then tooManyDigits else declaration (.malformed item) :=
  if_congr (Option.isNone_iff_eq_none.trans (malformedMessage?_eq_none_iff item)) rfl rfl

end Shown

section Given

theorem Settings.hasLong_of_limit (hn : n ∈ [settings.minTextLength, settings.maxTextLength,
    settings.minPropositions, settings.maxPropositions]) (hl : n.toJson.hasLong) :
    settings.toJson.hasLong := by
  simp only [List.mem_cons, List.not_mem_nil, or_false] at hn
  rcases hn with rfl | rfl | rfl | rfl
  all_goals simp [toJson, toFields, Json.hasLong, Json.anyLongField, hl]

-- What an error shows is a limit of the settings, or a symbol that was declared.
theorem hasLong_of_validateText (h : validateText settings text = .error e) (hl : e.showsLong) :
    settings.toJson.hasLong := by
  unfold validateText at h
  dsimp only at h
  split_ifs at h <;> cases h
  case pos => cases hl
  all_goals exact settings.hasLong_of_limit (by simp) hl

theorem hasLong_of_validatePropositions (h : validatePropositions settings ps = .error e)
    (hl : e.showsLong) : settings.toJson.hasLong ∨ ∃ p ∈ ps, p.symbol.hasLong := by
  unfold validatePropositions at h
  dsimp only at h
  split_ifs at h
  case pos | pos =>
    cases h
    exact .inl (settings.hasLong_of_limit (by simp) hl)
  case pos =>
    cases h
    obtain ⟨v, hv, hl⟩ := Json.anyLong_iff.mp hl
    obtain ⟨p, hp, rfl⟩ := List.mem_map.mp (List.mem_of_mem_filter hv)
    exact .inr ⟨p, hp, hl⟩
  case pos =>
    cases h
    cases hl
  case neg =>
    obtain ⟨_, _, hm⟩ := exists_of_mapM_error h
    unfold validateMeaning at hm
    split at hm
    case h_1 =>
      split at hm <;> cases hm
      cases hl
    case h_2 =>
      cases hm
      cases hl

theorem Proposition.hasLong_of_ofItem? (h : ofItem? v = some p) (hl : p.symbol.hasLong) :
    v.hasLong := by
  unfold ofItem? at h
  split at h
  case h_1 fields =>
    simp only [bind, Option.bind_eq_some_iff] at h
    obtain ⟨symbol, hs, meaning, -, ⟨rfl⟩⟩ := h
    exact Json.anyLongField_iff.mpr ⟨_, mem_of_lookup hs, hl⟩
  case h_2 =>
    cases h
    exact Json.anyLong_iff.mpr ⟨_, List.mem_cons_self, hl⟩
  case h_3 =>
    split at h
    case h_1 =>
      cases h
      cases hl
    case h_2 => cases h
  case h_4 => cases h

theorem Proposition.hasLong_of_symbol (h : ofJson v = .ok ps) (hp : p ∈ ps)
    (hl : p.symbol.hasLong) : v.hasLong := by
  have ho {w : Json} (h : ofItem w = .ok p) : w.hasLong := by
    unfold ofItem at h
    split at h <;> cases h
    exact hasLong_of_ofItem? ‹_› hl
  cases v
  case obj fields =>
    cases h
    obtain ⟨f, -, rfl⟩ := List.mem_map.mp hp
    cases hl
  case arr items =>
    obtain ⟨w, hw, h⟩ := exists_of_mem_mapM h p hp
    exact Json.anyLong_iff.mpr ⟨w, hw, ho h⟩
  case str s =>
    obtain ⟨c, -, h⟩ := exists_of_mem_mapM h p hp
    cases ho h
  all_goals cases h

theorem Proposition.hasLong_of_malformed (h : ofJson v = .error (.malformed item))
    (hl : item.hasLong) : v.hasLong := by
  have ho {w : Json} (h : ofItem w = .error (.malformed item)) : w = item := by
    unfold ofItem at h
    split at h <;> cases h
    rfl
  cases v
  case arr items =>
    obtain ⟨w, hw, h⟩ := exists_of_mapM_error h
    exact Json.anyLong_iff.mpr ⟨w, hw, ho h ▸ hl⟩
  case str s =>
    obtain ⟨c, -, h⟩ := exists_of_mapM_error h
    cases ho h
    cases hl
  all_goals cases h

end Given

end Enunciado

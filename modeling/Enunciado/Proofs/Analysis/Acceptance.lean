import Enunciado.Proofs.Analysis.Outcome
import Enunciado.Proofs.Settings.Limits

namespace Enunciado

-- The items of an array, and the characters of a text.
def Json.listed? : Json → Option (List Json)
  | .arr items => some items
  | .str s => some (s.toList.map fun c => .str (String.singleton c))
  | _ => none

namespace Proposition

variable {v : Json} {p : Declared} {ps : List Declared} {e : DeclarationError}

-- An item that declares a proposition: an object with both keys, an array of two items, or a text
-- of two characters.
inductive OfItem : Json → Declared → Prop
  | object {fields symbol meaning} :
    lookup "symbol" fields = some symbol → lookup "meaning" fields = some meaning →
    OfItem (.obj fields) ⟨symbol, meaning⟩
  | pair {symbol meaning} : OfItem (.arr [symbol, meaning]) ⟨symbol, meaning⟩
  | text {c d} :
    OfItem (.str (String.ofList [c, d])) ⟨.str (String.singleton c), .str (String.singleton d)⟩

-- Declarations in which each item declares a proposition; an object does so with each field.
inductive OfItems : Json → List Declared → Prop
  | fields {fields} : OfItems (.obj fields) (fields.map fun f => ⟨.str f.1, f.2⟩)
  | items {v items ps} :
    v.listed? = some items → List.Forall₂ OfItem items ps → OfItems v ps

-- Declarations with an item that declares nothing, the first one.
inductive Malformed : Json → Json → Prop
  | intro {v before item after} :
    v.listed? = some (before ++ item :: after) → (∀ w ∈ before, ∃ p, OfItem w p) →
    (∀ p, ¬OfItem item p) → Malformed v item

theorem ofItem?_eq_some_iff : ofItem? v = some p ↔ OfItem v p := by
  constructor
  case mp =>
    intro h
    unfold ofItem? at h
    split at h
    case h_1 fields =>
      simp only [bind, Option.bind_eq_some_iff] at h
      obtain ⟨symbol, hs, meaning, hm, ⟨rfl⟩⟩ := h
      exact .object hs hm
    case h_2 => cases h; exact .pair
    case h_3 s =>
      split at h
      case h_1 c d hs =>
        cases h
        rw [← String.ofList_toList (s := s), hs]
        exact .text
      case h_2 => contradiction
    case h_4 => contradiction
  case mpr =>
    intro h
    cases h
    case object hs hm => simp [ofItem?, hs, hm]
    case pair => rfl
    case text => simp [ofItem?]

theorem ofItem_eq_ok_iff : ofItem v = .ok p ↔ OfItem v p := by
  rw [← ofItem?_eq_some_iff, ofItem]
  cases ofItem? v <;> simp

theorem ofItem_eq_error_iff : ofItem v = .error e ↔ e = .malformed v ∧ ∀ p, ¬OfItem v p := by
  simp only [← ofItem?_eq_some_iff, ofItem]
  cases ofItem? v <;> simp [eq_comm]

theorem ofJson_of_listed (h : v.listed? = some items) : ofJson v = items.mapM ofItem := by
  cases v
  case arr => cases h; rfl
  case str s =>
    cases h
    rw [List.mapM_map]
    rfl
  all_goals contradiction

theorem ofJson_eq_ok_iff : ofJson v = .ok ps ↔ OfItems v ps := by
  cases hl : v.listed?
  case some items =>
    rw [ofJson_of_listed hl, mapM_eq_ok_iff]
    simp only [ofItem_eq_ok_iff]
    refine ⟨.items hl, fun h => ?_⟩
    cases h
    case fields => contradiction
    case items hi h =>
      cases hl.symm.trans hi
      exact h
  case none =>
    constructor
    case mp =>
      intro h
      cases v <;> cases hl <;> cases h
      exact .fields
    case mpr =>
      intro h
      cases h
      case fields => rfl
      case items hi _ => cases hl.symm.trans hi

theorem ofJson_eq_malformed_iff : ofJson v = .error (.malformed item) ↔ Malformed v item := by
  cases hl : v.listed?
  case some items =>
    rw [ofJson_of_listed hl, mapM_eq_error_iff]
    simp only [ofItem_eq_error_iff, ofItem_eq_ok_iff]
    constructor
    case mp =>
      rintro ⟨before, _, after, rfl, ⟨⟨rfl⟩, hi⟩, hb⟩
      exact ⟨hl, hb, hi⟩
    case mpr =>
      rintro ⟨hl', hb, hi⟩
      cases hl.symm.trans hl'
      exact ⟨_, item, _, rfl, ⟨rfl, hi⟩, hb⟩
  case none =>
    constructor
    case mp =>
      intro h
      cases v <;> cases hl <;> cases h
    case mpr =>
      rintro ⟨hl', -, -⟩
      cases hl.symm.trans hl'

end Proposition

section Validity

-- Whether the value is one letter from a to z.
def Json.isLetter : Json → Bool
  | .str s => Formula.isLetterName s.toList
  | _ => false

-- Whether the value is a text that is not blank.
def Json.HasMeaning (v : Json) : Prop :=
  ∃ m, v = .str m ∧ ∃ c ∈ m.toList, Text.isBlank c = false

-- What is wrong with a meaning.
inductive Meaningless (symbol : String) : Json → ValidationError → Prop
  | kind {v} : (∀ m, v ≠ .str m) → Meaningless symbol v (.meaningKind symbol v)
  | blank {m : String} :
    (∀ c ∈ m.toList, Text.isBlank c) → Meaningless symbol (.str m) (.blankMeaning symbol)

-- The number of declarations is within the limits.
structure Counted (settings : Settings) (ps : List Declared) : Prop where
  enough : settings.minPropositions.le (.int ps.length)
  atMost : (Number.int ps.length).le settings.maxPropositions

-- Declarations without a fault.
structure WellDeclared (settings : Settings) (ps : List Declared) : Prop where
  counted  : Counted settings ps
  letters  : ∀ p ∈ ps, p.symbol.isLetter
  apart    : (ps.map (·.symbol)).Nodup
  meanings : ∀ p ∈ ps, p.meaning.HasMeaning

-- The first fault of declarations: too few, too many, symbols that are no letters (all of them),
-- letters that are repeated (each once, where it first comes), or the first meaning that is none.
inductive Fault (settings : Settings) (ps : List Declared) : ValidationError → Prop
  | few :
    ¬settings.minPropositions.le (.int ps.length) →
    Fault settings ps (.fewPropositions settings.minPropositions)
  | many :
    settings.minPropositions.le (.int ps.length) →
    ¬(Number.int ps.length).le settings.maxPropositions →
    Fault settings ps (.manyPropositions settings.maxPropositions)
  | symbols :
    Counted settings ps → ¬(∀ p ∈ ps, p.symbol.isLetter) →
    Fault settings ps (.badSymbols ((ps.map (·.symbol)).filter fun v => !v.isLetter))
  | repeated {symbols : List String} :
    Counted settings ps → (∀ p ∈ ps, p.symbol.isLetter) → ps.map (·.symbol) = symbols.map .str →
    ¬symbols.Nodup →
    Fault settings ps (.repeatedSymbols (symbols.eraseDups.filter fun s => 1 < symbols.count s))
  | meaning {before after symbol meaning e} :
    Counted settings ps → (∀ p ∈ ps, p.symbol.isLetter) → (ps.map (·.symbol)).Nodup →
    ps = before ++ ⟨.str symbol, meaning⟩ :: after → (∀ p ∈ before, p.meaning.HasMeaning) →
    Meaningless symbol meaning e → Fault settings ps e

variable {settings : Settings} {ps : List Declared} {qs : List (String × Json)}

theorem isNone_letterSymbol? (v : Json) : (letterSymbol? v).isNone = !v.isLetter := by
  cases v
  case str s => cases h : Formula.isLetterName s.toList <;> simp [letterSymbol?, Json.isLetter, h]
  all_goals rfl

theorem hasMeaning_iff {v : Json} : v.HasMeaning ↔ ∃ n, validateMeaning symbol v = .ok n := by
  simp only [validateMeaning_eq_ok_iff, Json.HasMeaning, Text.isVoid, List.all_eq_true, not_forall,
    Bool.not_eq_true]
  constructor
  case mp =>
    rintro ⟨m, rfl, c, hc, hb⟩
    exact ⟨⟨symbol, m⟩, rfl, rfl, c, hc, hb⟩
  case mpr =>
    rintro ⟨n, -, rfl, c, hc, hb⟩
    exact ⟨_, rfl, c, hc, hb⟩

theorem meaningless_iff : Meaningless symbol v e ↔ validateMeaning symbol v = .error e := by
  constructor
  case mp =>
    intro h
    cases h
    case kind hv =>
      unfold validateMeaning
      split
      case h_1 => exact absurd rfl (hv _)
      case h_2 => rfl
    case blank hb =>
      have hv := List.all_eq_true.mpr hb
      rw [validateMeaning, Text.isVoid, if_pos hv]
  case mpr =>
    intro h
    unfold validateMeaning at h
    split at h
    case h_1 m =>
      split at h <;> cases h
      case isTrue hb => exact .blank (List.all_eq_true.mp hb)
    case h_2 hv =>
      cases h
      exact .kind hv

theorem Counted.not_few (h : Counted settings ps) :
    ¬(Number.int ps.length).lt settings.minPropositions :=
  Bool.not_eq_true _ ▸ Number.not_lt_of_le h.enough

theorem Counted.not_many (h : Counted settings ps) :
    ¬settings.maxPropositions.lt (.int ps.length) :=
  Bool.not_eq_true _ ▸ Number.not_lt_of_le h.atMost

theorem filter_symbols (ps : List Declared) :
    ((ps.map (·.symbol)).filter fun v => (letterSymbol? v).isNone) =
      (ps.map (·.symbol)).filter fun v => !v.isLetter := by
  simp only [isNone_letterSymbol?]

theorem filter_symbols_eq_nil_iff :
    ((ps.map (·.symbol)).filter fun v => !v.isLetter) = [] ↔ ∀ p ∈ ps, p.symbol.isLetter := by
  simp [List.filter_eq_nil_iff]

theorem symbols_ofSymbol (qs : List (String × Json)) :
    (qs.map Proposition.ofSymbol).map (·.symbol) = (qs.map Prod.fst).map .str := by
  simp

theorem nodup_symbols_iff {symbols : List String} :
    (symbols.map Json.str).Nodup ↔ symbols.Nodup :=
  List.nodup_map_iff fun _ _ h => Json.str.inj h

theorem exists_ofSymbol (h : ∀ p ∈ ps, p.symbol.isLetter) :
    ∃ qs : List (String × Json),
      ps = qs.map .ofSymbol ∧ ∀ q ∈ qs, letterSymbol? (.str q.1) = some q.1 :=
  exists_symbols (by rw [filter_symbols, filter_symbols_eq_nil_iff.mpr h])

theorem exists_of_wellDeclared (h : WellDeclared settings ps) :
    ∃ ns, validatePropositions settings ps = .ok ns := by
  obtain ⟨qs, rfl, hl⟩ := exists_ofSymbol h.letters
  have hd : (qs.map Prod.fst).Nodup := by
    simpa only [symbols_ofSymbol, nodup_symbols_iff] using h.apart
  rw [validatePropositions_of_letters h.counted.not_few h.counted.not_many hl, if_pos hd]
  refine exists_mapM fun q hq => ?_
  exact hasMeaning_iff.mp (h.meanings _ (List.mem_map_of_mem hq))

theorem error_of_fault (hs : settings.Limited) (h : Fault settings ps e) :
    validatePropositions settings ps = .error e := by
  have hmin := Number.isNotANumber_of_le hs.propositions
  have hmax := Number.isNotANumber_of_le hs.letters
  cases h
  case few hf =>
    rw [Number.le_iff_not_lt hmin rfl, Bool.not_eq_false] at hf
    rw [validatePropositions, if_pos hf]
  case many hf hm =>
    rw [Number.le_iff_not_lt rfl hmax, Bool.not_eq_false] at hm
    have hf := Bool.not_eq_true _ ▸ Number.not_lt_of_le hf
    rw [validatePropositions, if_neg hf, if_pos hm]
  case symbols hc hl =>
    rw [← filter_symbols_eq_nil_iff] at hl
    simp only [validatePropositions, if_neg hc.not_few, if_neg hc.not_many, filter_symbols, ne_eq,
      hl, not_false_eq_true, if_true]
  case repeated symbols hc hl hsym hd =>
    obtain ⟨qs, rfl, hq⟩ := exists_ofSymbol hl
    rw [symbols_ofSymbol] at hsym
    obtain rfl : qs.map Prod.fst = symbols :=
      List.map_injective_iff.mpr (fun _ _ => Json.str.inj) hsym
    rw [validatePropositions_of_letters hc.not_few hc.not_many hq, if_neg hd, repeated_eq_filter]
  case meaning before after symbol meaning hc hl hd hps hb he =>
    obtain ⟨qs, rfl, hq⟩ := exists_ofSymbol hl
    rw [symbols_ofSymbol, nodup_symbols_iff] at hd
    obtain ⟨before, rest, rfl, rfl, hrest⟩ := List.map_eq_append_iff.mp hps
    obtain ⟨⟨s, m⟩, after, rfl, hq', rfl⟩ := List.map_eq_cons_iff.mp hrest
    obtain ⟨⟨rfl⟩, rfl⟩ := Proposition.mk.inj hq'
    rw [validatePropositions_of_letters hc.not_few hc.not_many hq, if_pos hd, mapM_eq_error_iff]
    refine ⟨before, (s, m), after, rfl, meaningless_iff.mp he, fun q hq => ?_⟩
    exact hasMeaning_iff.mp (hb _ (List.mem_map_of_mem hq))

-- Either the declarations have no fault, or there is a first one.
theorem wellDeclared_or_fault (settings : Settings) (ps : List Declared) :
    WellDeclared settings ps ∨ ∃ e, Fault settings ps e := by
  by_cases he : settings.minPropositions.le (.int ps.length)
  case neg => exact .inr ⟨_, .few he⟩
  by_cases hm : (Number.int ps.length).le settings.maxPropositions
  case neg => exact .inr ⟨_, .many he hm⟩
  have hc : Counted settings ps := ⟨he, hm⟩
  by_cases hl : ∀ p ∈ ps, p.symbol.isLetter
  case neg => exact .inr ⟨_, .symbols hc hl⟩
  obtain ⟨qs, rfl, hq⟩ := exists_ofSymbol hl
  have hs := symbols_ofSymbol qs
  by_cases hd : (qs.map Prod.fst).Nodup
  case neg => exact .inr ⟨_, .repeated hc hl hs hd⟩
  have ha := hs ▸ nodup_symbols_iff.mpr hd
  cases hv : qs.mapM fun q => validateMeaning q.1 q.2
  case ok ns =>
    refine .inl ⟨hc, hl, ha, List.forall_mem_map.mpr fun q hq => ?_⟩
    obtain ⟨n, -, hn⟩ := exists_of_mapM hv q hq
    exact hasMeaning_iff.mpr ⟨n, hn⟩
  case error e =>
    obtain ⟨before, ⟨symbol, meaning⟩, after, rfl, he, hb⟩ := mapM_eq_error_iff.mp hv
    refine .inr ⟨e, .meaning hc hl ha (List.map_append ..) ?_ (meaningless_iff.mpr he)⟩
    exact List.forall_mem_map.mpr fun q hq => hasMeaning_iff.mpr (hb q hq)

end Validity

section Check

variable {settings : Settings} {v : Json} {ps : List Declared}

-- Only symbols have too many digits to be shown.
theorem exists_long_symbol (hs : settings.Limited) (h : Fault settings ps e) (hl : e.showsLong) :
    Counted settings ps ∧ ∃ p ∈ ps, p.symbol.hasLong := by
  have hw := hs.writable
  cases h
  case few => cases hw.1.symm.trans hl
  case many => cases hw.2.symm.trans hl
  case symbols hc _ =>
    obtain ⟨v, hv, hl⟩ := Json.anyLong_iff.mp hl
    obtain ⟨p, hp, rfl⟩ := List.mem_map.mp (List.mem_of_mem_filter hv)
    exact ⟨hc, p, hp, hl⟩
  case repeated => cases hl
  case meaning he => cases he <;> cases hl

theorem fault_of_long_symbol (hc : Counted settings ps) (hp : p ∈ ps) (hl : p.symbol.hasLong) :
    ∃ e, Fault settings ps e ∧ e.showsLong := by
  have hn : p.symbol.isLetter = false := by
    unfold Json.isLetter
    split
    case h_1 hv =>
      rw [hv] at hl
      cases hl
    case h_2 => rfl
  refine ⟨_, .symbols hc fun h => ?_, Json.anyLong_iff.mpr ⟨p.symbol, ?_, hl⟩⟩
  · cases hn.symm.trans (h p hp)
  · exact List.mem_filter.mpr ⟨List.mem_map_of_mem hp, by simp [hn]⟩

-- What is said of declarations that are refused: of an item that declares nothing before anything
-- else, and then of the first fault of what is declared.
inductive Objection (settings : Settings) (v : Json) : String → Prop
  | malformed {item m} :
    Proposition.Malformed v item → malformedMessage? item = some m → Objection settings v m
  | fault {ps e m} :
    Proposition.OfItems v ps → Fault settings ps e → e.message? = some m → Objection settings v m

-- Nothing can be said: what is wrong is an item that has a whole number with too many digits, or a
-- symbol that has one, among neither too few declarations nor too many.
inductive Unsayable (settings : Settings) (v : Json) : Prop
  | item {item} : Proposition.Malformed v item → item.hasLong → Unsayable settings v
  | symbol {ps p} :
    Proposition.OfItems v ps → Counted settings ps → p ∈ ps → p.symbol.hasLong →
    Unsayable settings v

theorem Unsayable.hasLong (h : Unsayable settings v) : v.hasLong := by
  cases h
  case item hi hl =>
    exact Proposition.hasLong_of_malformed (Proposition.ofJson_eq_malformed_iff.mpr hi) hl
  case symbol hi _ hp hl =>
    exact Proposition.hasLong_of_symbol (Proposition.ofJson_eq_ok_iff.mpr hi) hp hl

theorem check_of_malformed (h : Proposition.Malformed v item) :
    checkPropositions settings v = CheckResult.refused (malformedMessage? item) := by
  rw [checkPropositions, Proposition.ofJson_eq_malformed_iff.mpr h]

theorem check_of_fault (hs : settings.Limited) (hv : Proposition.OfItems v ps)
    (h : Fault settings ps e) : checkPropositions settings v = CheckResult.refused e.message? := by
  rw [checkPropositions, Proposition.ofJson_eq_ok_iff.mpr hv]
  simp only [error_of_fault hs h]
  rfl

theorem check_of_wellDeclared (hv : Proposition.OfItems v ps) (h : WellDeclared settings ps) :
    checkPropositions settings v = .ok .ok := by
  obtain ⟨ns, hn⟩ := exists_of_wellDeclared h
  rw [checkPropositions, Proposition.ofJson_eq_ok_iff.mpr hv]
  simp only [hn]
  rfl

theorem check_of_objection (hs : settings.Limited) (h : Objection settings v m) :
    checkPropositions settings v = .ok ⟨false, m⟩ := by
  cases h
  case malformed hi hm => rw [check_of_malformed hi, hm, CheckResult.refused]
  case fault hv hf hm => rw [check_of_fault hs hv hf, hm, CheckResult.refused]

theorem check_of_unsayable (hs : settings.Limited) (h : Unsayable settings v) :
    checkPropositions settings v = .error .tooManyDigits := by
  cases h
  case item item hi hl =>
    rw [check_of_malformed hi, (malformedMessage?_eq_none_iff item).mpr hl, CheckResult.refused]
  case symbol hv hc hp hl =>
    obtain ⟨e, hf, hl⟩ := fault_of_long_symbol hc hp hl
    rw [check_of_fault hs hv hf, e.message?_eq_none_iff.mpr hl, CheckResult.refused]

theorem wellDeclared_or_objection (hs : settings.Limited) (hv : v.hasItems)
    (hu : ¬Unsayable settings v) :
    (∃ ps, Proposition.OfItems v ps ∧ WellDeclared settings ps) ∨ ∃ m, Objection settings v m := by
  cases h : Proposition.ofJson v
  case ok ps =>
    have hi := Proposition.ofJson_eq_ok_iff.mp h
    obtain hw | ⟨e, he⟩ := wellDeclared_or_fault settings ps
    case inl => exact .inl ⟨ps, hi, hw⟩
    case inr =>
      cases hm : e.message?
      case some m => exact .inr ⟨m, .fault hi he hm⟩
      case none =>
        obtain ⟨hc, p, hp, hl⟩ := exists_long_symbol hs he (e.message?_eq_none_iff.mp hm)
        exact absurd (.symbol hi hc hp hl) hu
  case error e =>
    cases e
    case noItems => exact absurd h (Proposition.ofJson_ne_noItems hv)
    case malformed item =>
      have hi := Proposition.ofJson_eq_malformed_iff.mp h
      cases hm : malformedMessage? item
      case some m => exact .inr ⟨m, .malformed hi hm⟩
      case none => exact absurd (.item hi ((malformedMessage?_eq_none_iff item).mp hm)) hu

-- Of any object, array or text a check says whether it is well declared, and else its first fault,
-- unless that can not be said, which takes a whole number with too many digits in it.
theorem check_tells_first_fault (hs : Settings.ofJson (.obj fields) = .ok settings)
    (hv : v.hasItems) :
    (¬Unsayable settings v → ∃ r, checkPropositions settings v = .ok r ∧
      (r.valid ↔ ∃ ps, Proposition.OfItems v ps ∧ WellDeclared settings ps) ∧
      (r.valid → r.message = "OK") ∧ ∀ m, r = ⟨false, m⟩ ↔ Objection settings v m) ∧
    (Unsayable settings v → checkPropositions settings v = .error .tooManyDigits ∧ v.hasLong) := by
  have hs := Settings.limited_of_accepted hs
  refine ⟨fun hu => ?_, fun hu => ⟨check_of_unsayable hs hu, hu.hasLong⟩⟩
  obtain ⟨ps, hi, hw⟩ | ⟨m, hm⟩ := wellDeclared_or_objection hs hv hu
  case inl =>
    have hc := check_of_wellDeclared hi hw
    refine ⟨.ok, hc, iff_of_true rfl ⟨ps, hi, hw⟩, fun _ => rfl, fun m => ?_⟩
    refine iff_of_false nofun fun h => ?_
    cases hc.symm.trans (check_of_objection hs h)
  case inr =>
    have hc := check_of_objection hs hm
    refine ⟨⟨false, m⟩, hc, iff_of_false nofun ?_, nofun, fun m' => ⟨?_, fun h => ?_⟩⟩
    case refine_1 =>
      rintro ⟨ps, hi, hw⟩
      cases hc.symm.trans (check_of_wellDeclared hi hw)
    case refine_2 =>
      rintro ⟨rfl⟩
      exact hm
    case refine_3 =>
      have he := hc.symm.trans (check_of_objection hs h)
      exact Except.ok.inj he

-- Symbols are told before the letter that is repeated and the meanings that are none.
theorem check_tells_symbols_first :
    let v : Json := .arr [.arr [.str "p", .int 5], .str "Px", .str "p ",
      .obj [("meaning", .null), ("symbol", .int 7)]]
    v.hasItems ∧ Settings.ofJson (.obj []) = .ok .standard ∧ v.hasLong = false ∧
    checkPropositions .standard v = .ok ⟨false, "Los símbolos de proposición deben ser letras " ++
      "minúsculas individuales (inválidos: 'P', 7)."⟩ := by
  intro v
  have hv : v.hasItems := rfl
  have hs : Settings.ofJson (.obj []) = .ok .standard := by decide +kernel
  have hl : v.hasLong = false := by decide +kernel
  obtain ⟨h, hu⟩ := check_tells_first_fault hs hv
  obtain ⟨r, hr, -, -, h⟩ := h fun h => Bool.false_ne_true (hl.symm.trans (hu h).2)
  let ps : List Declared := [⟨.str "p", .int 5⟩, ⟨.str "P", .str "x"⟩, ⟨.str "p", .str " "⟩,
    ⟨.int 7, .null⟩]
  have hi : Proposition.OfItems v ps :=
    .items rfl <| .cons .pair <| .cons (.text (c := 'P') (d := 'x')) <|
      .cons (.text (c := 'p') (d := ' ')) <| .cons (.object rfl rfl) .nil
  have hc : Counted .standard ps := ⟨by decide +kernel, by decide +kernel⟩
  have hm : (ValidationError.badSymbols ((ps.map (·.symbol)).filter fun v => !v.isLetter)).message? =
      some ("Los símbolos de proposición deben ser letras " ++
        "minúsculas individuales (inválidos: 'P', 7).") := by
    decide +kernel
  rw [hr, (h _).mpr (.fault hi (.symbols hc (by decide)) hm)]
  exact ⟨hv, hs, hl, rfl⟩

-- Of an item that is no more than a whole number with too many digits nothing is said.
theorem not_told_long_item :
    let v : Json := .arr [.int (10 ^ 4300 : Nat)]
    v.hasItems ∧ Settings.ofJson (.obj []) = .ok .standard ∧
    checkPropositions .standard v = .error .tooManyDigits := by
  decide +kernel

end Check

end Enunciado

import Enunciado.Proofs.History.Queue
import Enunciado.Proofs.Json.Digits

namespace Enunciado.History

variable {h : History} {d : Directory} {bytes : ByteArray} {v : Json} {text : String}

section Entries

-- The list of a document: the document itself, or what is in its field "history".
inductive Lists : Json → List Json → Prop
  | array : Lists (.arr items) items
  | field {fields} :
    lookup "history" fields = some (.arr items) → Lists (.obj fields) items

theorem Lists.entriesOf (h : Lists v items) : entriesOf v = entriesOf (.arr items) := by
  cases h
  case array => rfl
  case field hf => simp [History.entriesOf, hf]

theorem entriesOf_of_unlisted (h : ∀ items, ¬Lists v items) : entriesOf v = [] := by
  cases v
  case arr items => exact absurd .array (h items)
  case obj fields =>
    cases hf : lookup "history" fields
    case none => simp [entriesOf, hf]
    case some w =>
      cases w
      case arr items => exact absurd (.field hf) (h items)
      all_goals simp [entriesOf, hf]
  all_goals rfl

-- An object that holds a report.
def isReport (v : Json) : Bool :=
  match v with
  | .obj _ => (Report.ofJson v).toBool
  | _ => false

-- Every entry that is a report is found, in the order of the list, and nothing else is.
theorem reports_entriesOf (items : List Json) :
    List.Forall₂ (Report.ofJson · = .ok ·) (items.filter isReport)
      ((entriesOf (.arr items)).filterMap report?) := by
  induction items
  case nil => exact .nil
  case cons v items hi =>
    cases v
    case obj fields =>
      have he : entriesOf (.arr (.obj fields :: items)) = .obj fields :: entriesOf (.arr items) :=
        rfl
      rw [he]
      cases hr : Report.ofJson (.obj fields)
      case error =>
        rw [List.filter_cons_of_neg (by simp [isReport, hr, Except.toBool]),
          List.filterMap_cons_none (by simp [report?, hr, Except.toOption])]
        exact hi
      case ok r =>
        rw [List.filter_cons_of_pos (by simp [isReport, hr, Except.toBool]),
          List.filterMap_cons_some (by rw [report?, hr]; rfl)]
        exact .cons hr hi
    all_goals exact hi

end Entries

section Bytes

-- The reports that bytes are found to hold: those of the list in them, or none without a list.
structure Finds (bytes : ByteArray) (rs : List (Report Json)) : Prop where
  listed   : ∀ text v items, decodeText? bytes = some text → Json.parse text = .ok v →
    Lists v items → List.Forall₂ (Report.ofJson · = .ok ·) (items.filter isReport) rs
  unlisted : (∀ text v items, decodeText? bytes = some text → Json.parse text = .ok v →
    ¬Lists v items) → rs = []

-- Bytes that are refused: there is a whole number of `n` digits in them, which are too many.
def Refused (bytes : ByteArray) (n : Nat) : Prop :=
  ∃ text p, decodeText? bytes = some text ∧ Json.parse text = .error ⟨.tooManyDigits n, p⟩ ∧
    Json.TooManyDigits n text.toList

theorem finds_of_parse (ht : decodeText? bytes = some text) (hv : Json.parse text = .ok v) :
    Finds bytes ((entriesOf v).filterMap report?) where
  listed := by
    intro text' v' items ht' hv' hl
    obtain rfl : text = text' := Option.some.inj (ht.symm.trans ht')
    obtain rfl : v = v' := Except.ok.inj (hv.symm.trans hv')
    rw [hl.entriesOf]
    exact reports_entriesOf items
  unlisted := by
    intro h
    rw [entriesOf_of_unlisted fun items => h text v items ht hv]
    rfl

theorem finds_nothing (h : ∀ text v, decodeText? bytes = some text → Json.parse text ≠ .ok v) :
    Finds bytes [] where
  listed := fun text v _ ht hv => absurd hv (h text v ht)
  unlisted := fun _ => rfl

theorem finds_or_refused (bytes : ByteArray) :
    (∃ raw, entriesOfBytes bytes = .ok raw ∧ Finds bytes (raw.filterMap report?)) ∨
      ∃ n, entriesOfBytes bytes = .error (.tooManyDigits n) ∧ Refused bytes n := by
  unfold entriesOfBytes
  cases ht : decodeText? bytes
  case none => exact .inl ⟨[], rfl, finds_nothing fun text v h => by cases ht.symm.trans h⟩
  case some text =>
  dsimp only
  split
  case h_1 v hv => exact .inl ⟨_, rfl, finds_of_parse ht hv⟩
  case h_2 n p hv => exact .inr ⟨n, rfl, text, p, ht, hv, Json.tooManyDigits_of_parse hv⟩
  case h_3 e _ hv =>
    refine .inl ⟨[], rfl, finds_nothing fun text' v ht' hv' => ?_⟩
    cases ht.symm.trans ht'
    cases hv.symm.trans hv'

theorem entriesOfBytes_of_long_whole {ds : List Char} (hw : Json.Whole ds)
    (hl : Json.maxDigits < ds.length) :
    entriesOfBytes (encodeText (String.ofList ds)) = .error (.tooManyDigits ds.length) := by
  have ht : decodeText? (encodeText (String.ofList ds)) = some (String.ofList ds) :=
    decodeText?_encodeText (by simpa using Json.not_mem_of_digits hw.digits)
  rw [entriesOfBytes, ht]
  dsimp only
  rw [Json.parse_of_long_whole hw hl]

theorem whole_ones (n : Nat) : Json.Whole (List.replicate (n + 1) '1') where
  digits := fun c hc => by rw [List.eq_of_mem_replicate hc]; rfl
  leading := ⟨'1', List.replicate n '1', rfl, nofun⟩

end Bytes

section Reading

theorem stored_of_read (hb : d.read h.path h.path.toString = .ok bytes) :
    h.stored d = entriesOfBytes bytes := by
  have hh : d.has h.path = .ok true := by
    unfold Directory.read at hb
    split at hb
    case isTrue => cases hb
    case isFalse hn =>
    split at hb
    case h_1 => cases hb
    case h_2 place hl =>
    split at hb
    case h_2 => cases hb
    case h_1 hf => simp [Directory.has, hn, hl, hf]
  rw [stored, hh, hb]

theorem entries_or_refused (hb : d.read h.path h.path.toString = .ok bytes) :
    (∃ rs, Finds bytes rs ∧ h.entries d = .ok rs) ∨
      ∃ n, Refused bytes n ∧ h.entries d = .error (.tooManyDigits n) := by
  rw [entries, stored_of_read hb]
  rcases finds_or_refused bytes with ⟨raw, hr, hf⟩ | ⟨n, hr, hn⟩
  case inl => exact .inl ⟨_, hf, by rw [hr]; rfl⟩
  case inr => exact .inr ⟨n, hn, by rw [hr]; rfl⟩

-- A directory with one file.
abbrev holding (bytes : ByteArray) : Directory :=
  ⟨[(.ofString "h.json", bytes)], []⟩

theorem read_holding (bytes : ByteArray) :
    let path : Path := .ofString "h.json"
    (holding bytes).read path path.toString = .ok bytes := by
  rfl

theorem entries_holding {raw : List Json} (hs : ∀ v ∈ raw, Storable v) (maxEntries : Number) :
    History.entries ⟨.ofString "h.json", maxEntries⟩ (holding (encode raw)) =
      .ok (raw.filterMap report?) := by
  rw [entries, stored_of_read (read_holding _), entriesOfBytes_encode hs]
  rfl

-- Outside the list there is nothing, on either side.
theorem getElem?_toNat (rs : List α) (i : Int) :
    (if i < 0 then none else rs[i.toNat]?) =
      if 0 ≤ i ∧ i < rs.length then rs[i.toNat]? else none := by
  by_cases hi : i < 0
  case pos => rw [if_pos hi, if_neg (by omega)]
  case neg =>
    rw [if_neg hi]
    by_cases hl : i < rs.length
    case pos => rw [if_pos (by omega)]
    case neg => rw [if_neg (by omega), List.getElem?_eq_none (by omega)]

theorem read_unless_refused (hb : d.read h.path h.path.toString = .ok bytes) :
    (∃ rs, Finds bytes rs ∧ h.entries d = .ok rs ∧ h.size d = .ok rs.length ∧
      ∀ i, h.get? d i = .ok (if 0 ≤ i ∧ i < rs.length then rs[i.toNat]? else none)) ∨
    ∃ n, Refused bytes n ∧ h.entries d = .error (.tooManyDigits n) ∧
      h.size d = .error (.tooManyDigits n) ∧ ∀ i, h.get? d i = .error (.tooManyDigits n) := by
  rcases entries_or_refused hb with ⟨rs, hf, he⟩ | ⟨n, hn, he⟩
  case inl =>
    refine .inl ⟨rs, hf, he, by rw [size, he]; rfl, fun i => ?_⟩
    rw [get?, he, ← getElem?_toNat]
    rfl
  case inr => exact .inr ⟨n, hn, he, by rw [size, he]; rfl, fun i => by rw [get?, he]; rfl⟩

-- A report is found beside an entry that is none.
theorem read_beside_bad_entry :
    let h : History := ⟨.ofString "h.json", .int 10⟩
    let bad : Json := .obj [("expression", .str "p")]
    let d := holding (encode [bad, rainReport.document.toJson])
    h.entries d = .ok [rainReport.document] ∧ h.size d = .ok 1 ∧
      h.get? d 0 = .ok (some rainReport.document) ∧ h.get? d 1 = .ok none ∧
      h.get? d (-1) = .ok none := by
  intro h bad d
  have hb : Storable bad := ⟨.obj (by simp) (by simpa using .str "p"), _, rfl⟩
  have hr : Storable rainReport.document.toJson := storable_toJson (by decide)
  have he : h.entries d = .ok ([bad, rainReport.document.toJson].filterMap report?) :=
    entries_holding (by simpa using ⟨hb, hr⟩) _
  rw [List.filterMap_cons_none (by decide), List.filterMap_cons_some (report?_toJson _),
    List.filterMap_nil] at he
  rcases read_unless_refused (h := h) (read_holding _) with ⟨rs, -, he', hs, hg⟩ | ⟨n, -, he', -⟩
  case inl =>
    cases he.symm.trans he'
    exact ⟨he, hs, hg 0, hg 1, hg (-1)⟩
  case inr => cases he.symm.trans he'

-- A file is refused that holds nothing but a whole number.
theorem refused_long_number :
    let h : History := ⟨.ofString "h.json", .int 10⟩
    let bytes := encodeText (String.ofList (List.replicate 4301 '1'))
    let d := holding bytes
    d.read h.path h.path.toString = .ok bytes ∧ h.entries d = .error (.tooManyDigits 4301) := by
  intro h bytes d
  have hb : d.read h.path h.path.toString = .ok bytes := read_holding _
  have hr := entriesOfBytes_of_long_whole (whole_ones 4300) (by
    rw [List.length_replicate]
    decide)
  rw [List.length_replicate] at hr
  refine ⟨hb, ?_⟩
  rw [entries, stored_of_read hb, hr]
  rfl

end Reading

end Enunciado.History

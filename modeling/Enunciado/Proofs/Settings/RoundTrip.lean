import Enunciado.Proofs.Json.Lines
import Enunciado.Proofs.Json.Reading
import Enunciado.Proofs.Json.Writer
import Enunciado.Proofs.Settings.Limits
import Enunciado.Proofs.Storage.Directory
import Enunciado.Proofs.Storage.Encoding
import Enunciado.Settings.Source
import Enunciado.Settings.Target

namespace Enunciado

theorem Number.ofJson?_eq_some_iff {v : Json} {n : Number} :
    Number.ofJson? v = some n ↔ v = n.toJson := by
  constructor
  case mp =>
    intro h
    cases v <;> cases h <;> rfl
  case mpr =>
    rintro rfl
    exact ofJson?_toJson n

theorem Change.next_done_right {ε : Type} (c : Change ε) : c.next .done = c := by
  obtain ⟨d, _ | e⟩ := c <;> rfl

namespace Json

-- A truth value, a whole number, a text or nothing.
def isSimple : Json → Bool
  | null | bool _ | int _ | str _ => true
  | float _ | arr _ | obj _ => false

theorem readable_of_isSimple {v : Json} (h : v.isSimple) (hl : v.isLong = false) :
    v.Readable := by
  cases v
  case null => exact .null
  case bool b => exact .bool b
  case int n => exact .int (Nat.lt_of_not_le (isLong_int.not.mp (by simp [hl])))
  case str s => exact .str s
  all_goals cases h

end Json

namespace Directory

-- A file is read under each name of its path that could be that of a file.
theorem Reaches.readNamed {d : Directory} {name : String} {place : Path} {bytes : ByteArray}
    (h : d.Reaches (.ofString name) place) (hf : d.file? place = some bytes)
    (hn : Path.namesFolder name = false) (hl : name.utf8ByteSize < pathLimit) :
    d.readNamed name = .ok bytes := by
  have h0 : Path.hasNul name = false := Path.noNul_of_ofString h.noNul
  simp [Directory.readNamed, Directory.read, Nat.not_le.mpr hl, h0, h.located, hf, hn]

end Directory

namespace Settings

variable {s : Settings} {v : Json} {fields : List (String × Json)} {text : String}
variable {bytes : ByteArray}

section Fields

-- Settings that are accepted keep the values that they were given.
theorem eq_of_check {maxP minP minT maxT size strict : Json}
    (h : check maxP minP minT maxT size strict = .ok s) :
    maxP = s.maxPropositions.toJson ∧ minP = s.minPropositions.toJson ∧
      minT = s.minTextLength.toJson ∧ maxT = s.maxTextLength.toJson ∧
      size = s.historyMaxEntries.toJson ∧ strict = s.strictVariables := by
  unfold check at h
  simp only [bind_eq_ok_iff, bothNumbers_eq_ok_iff, throw_if_eq_ok_iff,
    Number.ofJson?_eq_some_iff] at h
  obtain ⟨_, -, -, h⟩ := h
  obtain ⟨_, ⟨hm, hn⟩, -, h⟩ := h
  obtain ⟨_, -, -, h⟩ := h
  obtain ⟨_, ⟨hu, ht⟩, -, h⟩ := h
  obtain ⟨_, ⟨hs, -⟩, -, ⟨rfl⟩⟩ := h
  exact ⟨hn, hm, ht, hu, hs, rfl⟩

-- All fields that settings have are known, so that each is found under its name.
theorem ofJson_toJson_eq (s : Settings) :
    ofJson s.toJson = check s.maxPropositions.toJson s.minPropositions.toJson
      s.minTextLength.toJson s.maxTextLength.toJson s.historyMaxEntries.toJson
      s.strictVariables := by
  rfl

-- The values of settings that are accepted are those of an object, or else standard ones; and they
-- would be accepted again.
theorem values_of_ofJson (h : ofJson v = .ok s) :
    ∃ fields, v = .obj fields ∧
      (∀ f ∈ s.toFields, f.2 = (lookup f.1 (fields ++ defaults)).getD .null) ∧
      ofJson s.toJson = .ok s := by
  unfold ofJson at h
  split at h
  case h_2 => cases h
  case h_1 fields =>
    unfold ofFields at h
    split at h
    case h_1 => cases h
    case h_2 =>
      obtain ⟨hmaxP, hminP, hminT, hmaxT, hsize, hstrict⟩ := eq_of_check h
      refine ⟨fields, rfl, ?_, ?_⟩
      case refine_1 => simp [toFields, hmaxP, hminP, hminT, hmaxT, hsize, hstrict]
      case refine_2 =>
        rw [ofJson_toJson_eq, ← hmaxP, ← hminP, ← hminT, ← hmaxT, ← hsize, ← hstrict]
        exact h

end Fields

section Values

theorem readable_fields (h : Json.Readable (.obj fields)) : ∀ f ∈ fields, f.2.Readable := by
  cases h
  assumption

theorem readable_of_fields (h : ∀ f ∈ s.toFields, f.2.Readable) : s.toJson.Readable :=
  .obj (by simp [toFields]) h

theorem readable_defaults : ∀ f ∈ defaults, f.2.Readable := by
  have hi (n : Int) (h : n.natAbs < 10 ^ 4) : (Json.int n).Readable :=
    .int (h.trans_le (Nat.pow_le_pow_right (by decide) (by decide)))
  simp [defaults, hi, Json.Readable.bool]

-- The values that are given can be read back if they were read, and so can the standard ones.
theorem readable_toJson (h : ofJson v = .ok s) (hv : v.Readable) : s.toJson.Readable := by
  obtain ⟨fields, rfl, hs, -⟩ := values_of_ofJson h
  have hf : ∀ f ∈ fields ++ defaults, f.2.Readable :=
    List.forall_mem_append.mpr ⟨readable_fields hv, readable_defaults⟩
  refine readable_of_fields fun f hm => ?_
  rw [hs f hm]
  cases hl : lookup f.1 (fields ++ defaults)
  case none => exact .null
  case some v => exact hf _ (mem_of_lookup hl)

theorem ofText_eq_ok (h : ofText text = .ok s) :
    ∃ v, Json.parse text = .ok v ∧ ofJson v = .ok s := by
  unfold ofText at h
  split at h
  case h_1 => cases h
  case h_2 v hv => exact ⟨v, hv, mapError_eq_ok_iff.mp h⟩

theorem ofBytes_eq_ok (h : ofBytes bytes = .ok s) :
    ∃ text, decodeText? bytes = some text ∧ ofText text = .ok s := by
  unfold ofBytes at h
  split at h
  case h_1 => cases h
  case h_2 text ht => exact ⟨text, ht, h⟩

end Values

section Files

theorem ofText_pretty (hv : v.Readable) : ofText v.pretty = (ofJson v).mapError .refused := by
  rw [ofText, Json.parse_pretty hv]

theorem ofBytes_encodeText (hv : v.Readable) :
    ofBytes (encodeText v.pretty) = ofText v.pretty := by
  rw [ofBytes, decodeText?_encodeText (Json.not_mem_pretty hv)]

theorem ofText_toText (h : ofJson v = .ok s) (hr : s.toJson.Readable) :
    ofText s.toText = .ok s := by
  obtain ⟨_, -, -, hs⟩ := values_of_ofJson h
  rw [toText, ofText_pretty hr, hs]
  rfl

theorem save_eq (hr : s.toJson.Readable) (d : Directory) (name : String) :
    s.save d name = (d.deposit (.ofString name) (encodeText s.toText)).mapError .file := by
  rw [save, hr.hasLong_eq_false, Json.prettyUpTo_eq hr.hasLong_eq_false, ← toText]
  exact Change.next_done_right _

-- Unless the file system refuses it, the settings are written, and then come back from their file,
-- by whatever text names it that is neither too long nor can only name a folder.
structure Returns (s : Settings) : Prop where
  text  : ofText s.toText = .ok s
  saved : ∀ d name, (∃ e, (s.save d name).failure? = some (.file e)) ∨
    ∃ d', s.save d name = .done d' ∧
      ∀ name', Path.ofString name' = .ofString name → Path.namesFolder name' = false →
        name'.utf8ByteSize < Directory.pathLimit → load d' name' = .ok s
  saves : ∀ d name, d.Accepts (.ofString name) → ∃ d', s.save d name = .done d'

theorem returns (h : ofJson v = .ok s) (hr : s.toJson.Readable) : s.Returns where
  text := ofText_toText h hr
  saved d name := by
    rw [save_eq hr]
    cases hw : (d.deposit (.ofString name) (encodeText s.toText)).failure?
    case some e => exact .inl ⟨e, by rw [Change.mapError, hw]; rfl⟩
    case none =>
      obtain ⟨d', place, -, -, hp, hd⟩ := Directory.deposit_of_done hw
      refine .inr ⟨d'.set place (encodeText s.toText), by rw [hd]; rfl, fun name' hn hf hl => ?_⟩
      have hb := (hn ▸ hp.set (encodeText s.toText)).readNamed (Directory.file?_set_self _ _ _) hf hl
      rw [load, hb]
      dsimp only
      rw [toText, ofBytes_encodeText hr]
      exact ofText_toText h hr
  saves d name ha := by
    obtain ⟨d', place, -, -, -, hd⟩ := Directory.deposit_of_done (ha.writes (encodeText s.toText))
    exact ⟨d'.set place (encodeText s.toText), by rw [save_eq hr, hd]; rfl⟩

end Files

section Simple

-- The limits are whole numbers or truth values: of the simple values, these are numbers.
def Simple (s : Settings) : Prop :=
  ∀ f ∈ s.toFields, f.2.isSimple

theorem readable_of_simple (hs : s.Simple) (hl : s.toJson.hasLong = false) :
    s.toJson.Readable := by
  rw [toJson, Json.hasLong, ← Bool.not_eq_true, Json.anyLongField_iff, not_exists] at hl
  exact readable_of_fields fun f hf =>
    Json.readable_of_isSimple (hs f hf) (Json.isLong_eq_false (by simpa using fun h => hl f ⟨hf, h⟩))

instance : Decidable s.Simple :=
  inferInstanceAs (Decidable (∀ f ∈ s.toFields, f.2.isSimple))

theorem exists_long (h : s.Simple) (hl : s.toJson.hasLong) :
    ∃ before key n after, s.toFields = before ++ (key, .int n) :: after ∧ (Json.int n).isLong ∧
      ∀ f ∈ before, f.2.Readable := by
  have ⟨f, hs⟩ : ∃ f, s.toFields.find? (·.2.isLong) = some f := by
    rw [← Option.isSome_iff_exists, List.find?_isSome]
    by_contra hn
    have hr : s.toJson.Readable := readable_of_fields fun f hf =>
      Json.readable_of_isSimple (h f hf) (by simpa using fun hl => hn ⟨f, hf, hl⟩)
    rw [hr.hasLong_eq_false] at hl
    cases hl
  obtain ⟨hf, before, after, ht, hb⟩ := List.find?_eq_some_iff_append.mp hs
  obtain ⟨key, v⟩ := f
  cases v
  case int n =>
    refine ⟨before, key, n, after, ht, hf, fun f hf => ?_⟩
    exact Json.readable_of_isSimple (h f (ht ▸ List.mem_append_left _ hf)) (by simpa using hb f hf)
  all_goals cases hf

-- The text of settings that are not written would not be read.
theorem ofText_of_long (h : s.Simple) (hl : s.toJson.hasLong) :
    ∃ k p, ofText s.toText = .error (.json s.toText ⟨.tooManyDigits k, p⟩) := by
  obtain ⟨before, key, n, after, ht, hn, hb⟩ := exists_long h hl
  have hk : (s.toFields.map Prod.fst).Nodup := by simp [toFields]
  rw [ht, List.map_append] at hk
  obtain ⟨k, p, hp⟩ := Json.parse_of_long key after hk.of_append_left hb hn
  rw [← ht] at hp
  exact ⟨k, p, by rw [ofText, toText, toJson, hp]⟩

theorem save_of_long (hl : s.toJson.hasLong) (d : Directory) (name : String) :
    (∃ e, (s.save d name).failure? = some (.file e)) ∨
      ∃ d' place text, s.save d name = .failed d' .tooManyDigits ∧
        d'.locate (.ofString name) = .ok place ∧ d'.file? place = some (encodeText text) ∧
        text.toList <+: s.toText.toList := by
  rw [save, hl]
  cases hw : (d.deposit (.ofString name) (encodeText s.toJson.prettyUpTo)).failure?
  case some e => exact .inl ⟨e, by simp [Change.next, Change.mapError, hw]⟩
  case none =>
    obtain ⟨d', place, -, -, hp, hd⟩ := Directory.deposit_of_done hw
    exact .inr ⟨_, place, s.toJson.prettyUpTo, by rw [hd]; rfl, (hp.set _).located,
      Directory.file?_set_self _ _ _, s.toJson.prettyUpTo_initial⟩

end Simple

theorem saved_settings_return :
    (∀ v s, ofJson v = .ok s → s.Simple → s.toJson.hasLong = false → s.Returns) ∧
    (∀ bytes s, ofBytes bytes = .ok s →
      s.Returns ∧ (ofText s.toText).map toText = .ok s.toText) ∧
    ∀ s : Settings, s.Simple → s.toJson.hasLong →
      (∃ k p, ofText s.toText = .error (.json s.toText ⟨.tooManyDigits k, p⟩)) ∧
      ∀ d name, (∃ e, (s.save d name).failure? = some (.file e)) ∨
        ∃ d' place text, s.save d name = .failed d' .tooManyDigits ∧
          d'.locate (.ofString name) = .ok place ∧ d'.file? place = some (encodeText text) ∧
          text.toList <+: s.toText.toList := by
  refine ⟨fun v s h hs hl => returns h (readable_of_simple hs hl), fun bytes s h => ?_,
    fun s hs hl => ⟨ofText_of_long hs hl, save_of_long hl⟩⟩
  obtain ⟨text, -, ht⟩ := ofBytes_eq_ok h
  obtain ⟨v, hp, hv⟩ := ofText_eq_ok ht
  have hr := returns hv (readable_toJson hv (Json.readable_of_parse hp))
  exact ⟨hr, by rw [hr.text]; rfl⟩

theorem partial_settings_return :
    let fields : List (String × Json) := [("min_propositions", .bool true),
      ("max_text_length", .int (10 ^ 4299 : Nat)), ("strict_variables", .str "sí")]
    let v : Json := .obj fields
    let s : Settings := ⟨.int 20, .bool true, .int 10, .int (10 ^ 4299 : Nat), .int 10, .str "sí"⟩
    let long : Settings := { s with maxTextLength := .int (10 ^ 4300 : Nat) }
    (ofJson v = .ok s ∧ s.Simple ∧ s.toJson.hasLong = false ∧ s.Returns) ∧
    (ofBytes (encodeText v.pretty) = .ok s ∧ (ofText s.toText).map toText = .ok s.toText) ∧
    long.Simple ∧ long.toJson.hasLong ∧
      ∃ k p, ofText long.toText = .error (.json long.toText ⟨.tooManyDigits k, p⟩) := by
  intro fields v s long
  have hv : ofJson v = .ok s := by decide +kernel
  have hs : s.Simple := by decide +kernel
  have hl : s.toJson.hasLong = false := by decide +kernel
  have hf : ∀ f ∈ fields, f.2.isSimple ∧ f.2.isLong = false := by decide +kernel
  have hr : v.Readable :=
    .obj (by decide) fun f h => Json.readable_of_isSimple (hf f h).1 (hf f h).2
  have hb : ofBytes (encodeText v.pretty) = .ok s := by
    rw [ofBytes_encodeText hr, ofText_pretty hr, hv]
    rfl
  have hs' : long.Simple := by decide +kernel
  have hl' : long.toJson.hasLong := by decide +kernel
  have ⟨hreturn, hloaded, hlong⟩ := saved_settings_return
  exact ⟨⟨hv, hs, hl, hreturn v s hv hs hl⟩, ⟨hb, (hloaded _ s hb).2⟩, hs', hl',
    (hlong long hs' hl').1⟩

theorem long_limit_not_saved :
    let s : Settings := { standard with maxTextLength := .int (10 ^ 4300 : Nat) }
    ofJson s.toJson = .ok s ∧ s.Simple ∧
      (s.save .empty "cfg.json").failure? = some .tooManyDigits ∧
      ∀ s', ofText s.toText ≠ .ok s' := by
  intro s
  have hs : s.Simple := by decide +kernel
  have hl : s.toJson.hasLong := by decide +kernel
  refine ⟨by decide +kernel, hs, by decide +kernel, fun s' hs' => ?_⟩
  obtain ⟨k, p, ht⟩ := ofText_of_long hs hl
  cases ht.symm.trans hs'

end Settings

end Enunciado

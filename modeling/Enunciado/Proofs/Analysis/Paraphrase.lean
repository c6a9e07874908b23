import Mathlib.Data.List.Infix
import Enunciado.Analysis.Paraphrase
import Enunciado.Proofs.Formula.Tokens
import Enunciado.Proofs.Formula.Words
import Enunciado.Proofs.Json.Fields
import Enunciado.Proofs.Text.Blank

namespace Enunciado

open Formula Text Token

variable {meaning? : Char → Option (List Char)} {c : Char} {m s u v : List Char}

section Letters

theorem isLetterName_of_parse (h : parse e = .ok x) (ht : ⟨.name s, i⟩ ∈ tokenize e.toList) :
    isLetterName s := by
  have hn : String.ofList s ∈ x.names := (mem_names_iff h).mpr ⟨_, ht, rfl, rfl⟩
  simpa using (derives_of_parse h).1.lettered _ hn

theorem length_of_isLetterName (h : isLetterName s) : s.length = 1 := by
  unfold isLetterName at h
  split at h
  case h_1 => rfl
  case h_2 => contradiction

-- What a text begins with, up to the first character that parts names.
theorem exists_unparted (s : List Char) :
    ∃ a b, s = a ++ b ∧ (∀ c ∈ a, ¬Parts c) ∧ ∀ c ∈ b.head?, Parts c := by
  let p := fun c => (parting? c).isNone
  have hp (c) : p c ↔ ¬Parts c := by simp [p, parting?_eq_none_iff]
  refine ⟨s.takeWhile p, s.dropWhile p, List.takeWhile_append_dropWhile.symm, ?_, ?_⟩
  case refine_1 => exact fun c hc => (hp c).mp (List.mem_takeWhile_imp hc)
  case refine_2 =>
    intro c hc
    have hd := List.head?_dropWhile_not p s
    simp only [Option.mem_def.mp hc, ← Bool.not_eq_true] at hd
    exact not_not.mp (mt (hp c).mpr hd)

-- Between what parts names, an expression has single letters only.
theorem alone_of_parse (h : parse e = .ok x) (hs : e.toList = u ++ c :: v) (hc : ¬Parts c) :
    isLetterName [c] ∧ (∀ d ∈ u.getLast?, Parts d) ∧ ∀ d ∈ v.head?, Parts d := by
  obtain ⟨a, before, hu, ha, hbefore⟩ := exists_unparted u.reverse
  obtain ⟨b, after, rfl, hb, hafter⟩ := exists_unparted v
  obtain rfl : u = before.reverse ++ a.reverse := by
    rw [← List.reverse_append, ← hu, List.reverse_reverse]
  have hn : StandsIn e.toList ⟨.name (a.reverse ++ c :: b), before.reverse.length⟩ :=
    .name (by simp [hs]) (by simp) (by simpa [or_imp, forall_and] using ⟨ha, hc, hb⟩)
      (by simpa using hbefore) hafter
  have hl := isLetterName_of_parse h (mem_tokenize_iff.mpr hn)
  obtain ⟨rfl, rfl⟩ : a = [] ∧ b = [] := by
    have hn := length_of_isLetterName hl
    rw [List.length_append, List.length_cons, List.length_reverse] at hn
    exact ⟨List.length_eq_zero_iff.mp (by omega), List.length_eq_zero_iff.mp (by omega)⟩
  exact ⟨hl, by simpa using hbefore, hafter⟩

theorem not_isWordChar_of_parts (h : Parts c) : isWordChar c = false := by
  obtain hb | ⟨l, hl⟩ := h
  case inl => exact not_isWordChar_of_isBlank hb
  case inr =>
    unfold Lexeme.reserved? at hl
    split at hl
    case h_10 => contradiction
    all_goals decide +kernel

end Letters

section Table

-- What a table has for a character; one that is not in it stays.
def spell (table : List (Char × List Char)) (c : Char) : List Char :=
  (lookup c table).getD [c]

theorem flatMap_spell_eq_self {table : List (Char × List Char)}
    (h : ∀ c ∈ s, lookup c table = none) : s.flatMap (spell table) = s := by
  rw [List.flatMap_congr fun c hc => by rw [spell, h c hc, Option.getD_none]]
  exact List.flatMap_singleton' s

-- Words that hold nothing to be replaced after them may be put in one after the other.
theorem foldl_replace {table : List (Char × List Char)} (h : table.Pairwise fun p q => q.1 ∉ p.2)
    (s : List Char) :
    table.foldl (fun s (glyph, word) => replace glyph word s) s = s.flatMap (spell table) := by
  induction table generalizing s
  case nil => exact (flatMap_spell_eq_self fun _ _ => rfl).symm
  case cons p table hi =>
    obtain ⟨glyph, word⟩ := p
    have ⟨hw, ht⟩ := List.pairwise_cons.mp h
    refine (hi ht (replace glyph word s)).trans ?_
    rw [replace, List.flatMap_assoc]
    refine List.flatMap_congr fun c _ => ?_
    by_cases hc : glyph = c
    case pos =>
      rw [if_pos hc.symm, spell, lookup, if_pos hc, Option.getD_some]
      refine flatMap_spell_eq_self fun d hd => lookup_eq_none_iff.mpr ?_
      intro hm
      obtain ⟨q, hq, rfl⟩ := List.mem_map.mp hm
      exact hw q hq hd
    case neg =>
      rw [if_neg (Ne.symm hc), List.flatMap_singleton, spell, spell, lookup, if_neg hc]

theorem foldl_connectives (s : List Char) :
    connectives.foldl (fun s (glyph, word) => replace glyph word s) s =
      s.flatMap (spell connectives) :=
  foldl_replace (by decide) s

end Table

section Meanings

-- What a meaning may be so that it is heard as it is.
structure Sayable (m : List Char) : Prop where
  noGlyph      : ∀ c ∈ m, lookup c connectives = none
  singleSpaces : ¬[' ', ' '] <:+: m

instance (m : List Char) : Decidable (Sayable m) :=
  decidable_of_iff (m.all (fun c => (lookup c connectives).isNone) ∧ ¬[' ', ' '] <:+: m) <| by
    simp only [List.all_eq_true, Option.isNone_iff_eq_none]
    exact ⟨fun ⟨h, h'⟩ => ⟨h, h'⟩, fun h => ⟨h.noGlyph, h.singleSpaces⟩⟩

def quoted (m : List Char) : List Char :=
  '"' :: m ++ ['"']

-- The quoted meaning of a letter that has one.
def quotedMeaning? (meaning? : Char → Option (List Char)) (c : Char) : Option (List Char) :=
  if isLetterName [c] then (meaning? c).map quoted else none

-- What one character of an expression is read as: a letter with a meaning as this in quotes, an
-- operator or a constant as its word, and all else as it is.
def transcribe (meaning? : Char → Option (List Char)) (c : Char) : List Char :=
  (quotedMeaning? meaning? c).getD (spell connectives c)

theorem transcribe_of_letter (hc : isLetterName [c]) (hm : meaning? c = some m) :
    transcribe meaning? c = quoted m := by
  rw [transcribe, quotedMeaning?, if_pos hc, hm, Option.map_some, Option.getD_some]

theorem flatMap_spell_quotedMeaning (h : ∀ c m, meaning? c = some m → Sayable m) (c : Char) :
    ((quotedMeaning? meaning? c).getD [c]).flatMap (spell connectives) = transcribe meaning? c := by
  cases hq : quotedMeaning? meaning? c
  case none => rw [transcribe, hq, Option.getD_none, Option.getD_none, List.flatMap_singleton]
  case some s =>
    rw [transcribe, hq, Option.getD_some, Option.getD_some]
    obtain ⟨-, m, hm, rfl⟩ : isLetterName [c] ∧ ∃ m, meaning? c = some m ∧ quoted m = s := by
      simpa [quotedMeaning?] using hq
    refine flatMap_spell_eq_self ?_
    have hq : lookup '"' connectives = none := by decide
    simpa [quoted, or_imp, forall_and, hq] using (h c m hm).noGlyph

-- Of an expression, `u` has been read, last character first.
theorem nameMeanings_eq (h : parse e = .ok x) (hs : e.toList = u.reverse ++ s) :
    nameMeanings meaning? (startsInWord u) s =
      s.flatMap fun c => (quotedMeaning? meaning? c).getD [c] := by
  induction s generalizing u
  case nil => rfl
  case cons c s hi =>
    have hr := hi (u := c :: u) (by simp [hs])
    rw [nameMeanings, List.flatMap_cons, ← hr, startsInWord]
    refine congrArg (· ++ _) ?_
    by_cases hc : isLetterName [c]
    case pos =>
      obtain ⟨-, hu, hv⟩ := alone_of_parse h hs (parting?_eq_none_iff.mp (parting?_letter hc))
      have hu : startsInWord u = false :=
        startsInWord_eq_false_iff.mpr fun d hd => not_isWordChar_of_parts (hu d (by simpa using hd))
      have hv : startsInWord s = false :=
        startsInWord_eq_false_iff.mpr fun d hd => not_isWordChar_of_parts (hv d hd)
      obtain ⟨ha, hz⟩ : 'a' ≤ c ∧ c ≤ 'z' := by simpa [isLetterName] using hc
      cases hm : meaning? c <;> simp [quotedMeaning?, quoted, hc, hm, hu, hv, ha, hz]
    case neg =>
      have hc' : ('a' ≤ c && c ≤ 'z') = false := by simpa [isLetterName] using hc
      simp [quotedMeaning?, hc, hc']

end Meanings

section Translation

-- The characters of a text, each read by itself, with one space for a run of spaces.
def transcription (meaning? : Char → Option (List Char)) (s : List Char) : List Char :=
  squeeze (· = ' ') (s.flatMap (transcribe meaning?))

theorem paraphrase_eq (h : parse e = .ok x) (hm : ∀ c m, meaning? c = some m → Sayable m) :
    paraphrase meaning? e.toList = trim (transcription meaning? e.toList) := by
  have hn : nameMeanings meaning? false e.toList =
      e.toList.flatMap fun c => (quotedMeaning? meaning? c).getD [c] :=
    nameMeanings_eq (u := []) h rfl
  have hs := List.flatMap_congr fun c (_ : c ∈ e.toList) => flatMap_spell_quotedMeaning hm c
  rw [paraphrase, hn, foldl_connectives, List.flatMap_assoc, hs, transcription]

-- The quotes part a meaning from what stands around it.
theorem transcription_letter (hc : isLetterName [c]) (hm : meaning? c = some m) (hs : Sayable m)
    (u v : List Char) :
    transcription meaning? (u ++ c :: v) =
      transcription meaning? u ++ quoted m ++ transcription meaning? v := by
  have hq : decide ('"' = ' ') = false := rfl
  calc transcription meaning? (u ++ c :: v)
    _ = squeeze (· = ' ') (u.flatMap (transcribe meaning?) ++ '"' ::
          (m ++ '"' :: v.flatMap (transcribe meaning?))) := by
      simp [transcription, transcribe_of_letter hc hm, quoted]
    _ = transcription meaning? u ++ '"' :: (m ++ '"' :: transcription meaning? v) := by
      rw [squeeze_append hq, squeeze_append hq, squeeze_eq_self hs.singleSpaces, transcription,
        transcription]
    _ = transcription meaning? u ++ quoted m ++ transcription meaning? v := by simp [quoted]

theorem trim_quoted (u m v : List Char) :
    trim (u ++ quoted m ++ v) = u.dropWhile isBlank ++ quoted m ++ dropEnd isBlank v := by
  have hq : isBlank '"' = false := by decide
  have hm : u ++ quoted m ++ v = u ++ '"' :: (m ++ '"' :: v) := by simp [quoted]
  rw [hm, trim, dropWhile_append_cons hq, ← List.cons_append, ← List.append_assoc,
    dropEnd_append_cons hq]
  simp [quoted]

-- An expression is read out as if each character were by itself; and wherever a letter stands, its
-- meaning does, in quotes and unchanged.
theorem paraphrase_is_transcription (h : parse e = .ok x)
    (hm : ∀ c m, meaning? c = some m → Sayable m) :
    paraphrase meaning? e.toList = trim (transcription meaning? e.toList) ∧
      ∀ before c after m, e.toList = before ++ c :: after → isLetterName [c] →
        meaning? c = some m → paraphrase meaning? e.toList =
          (transcription meaning? before).dropWhile isBlank ++ quoted m ++
            dropEnd isBlank (transcription meaning? after) := by
  refine ⟨paraphrase_eq h hm, fun before c after m hs hc hcm => ?_⟩
  rw [paraphrase_eq h hm, hs, transcription_letter hc hcm (hm c m hcm), trim_quoted]

-- Letters that are words for operators, and meanings that are made of such letters.
theorem paraphrase_is_transcription_for_letters_in_meanings :
    let meanings := [("y", "la \"y\" o la o".toList), ("o", "(p y q)".toList)]
    paraphrase (meaningOf meanings) "¬y  ∧ (o→y)".toList =
      "no \"la \"y\" o la o\" y (\"(p y q)\" implica \"la \"y\" o la o\")".toList := by
  intro meanings
  have he : parse "¬y  ∧ (o→y)" = .ok (.binary .and (.unary .not (.var "y"))
      (.binary .implies (.var "o") (.var "y"))) := by cbv
  have hs : ∀ p ∈ meanings, Sayable p.2 := by decide +kernel
  have hm (c m) (h : meaningOf meanings c = some m) : Sayable m := hs _ (mem_of_lookup h)
  exact (paraphrase_is_transcription he hm).1.trans (by decide +kernel)

end Translation

end Enunciado

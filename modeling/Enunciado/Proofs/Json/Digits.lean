import Enunciado.Proofs.Json.Reading

namespace Enunciado.Json

variable {s t u opening : List Char} {c : Char} {v : Json} {fault : Fault} {n : Nat}

section Strings

theorem codeUnit?_suffix {r : Rest s} (h : codeUnit? s = some (n, r)) : r.1 <:+ s := by
  unfold codeUnit? at h
  split at h
  case h_2 => cases h
  case h_1 a b c d e u =>
    simp only [Option.bind_eq_bind, Option.bind_eq_some_iff, Option.pure_def, Option.some.injEq,
      Prod.mk.injEq] at h
    obtain ⟨_, -, _, -, _, -, _, -, -, rfl⟩ := h
    exact List.suffix_append [a, b, c, d] (e :: u)

theorem readUnicode_suffix {r : Rest s} (h : readUnicode s = .ok (c, r)) : r.1 <:+ s := by
  unfold readUnicode at h
  split at h
  case h_1 => cases h
  case h_2 hc =>
  have hs := codeUnit?_suffix hc
  split at h
  case isFalse =>
    cases h
    exact hs
  case isTrue =>
  split at h
  case h_2 =>
    cases h
    exact hs
  case h_1 t _ =>
  split at h
  case h_1 hc' =>
    split at h
    case isFalse =>
      cases h
      exact hs
    case isTrue =>
      obtain ⟨-, rfl⟩ := Prod.mk.inj (Except.ok.inj h)
      have ht : t <:+ '\\' :: 'u' :: t := List.suffix_append ['\\', 'u'] t
      exact (codeUnit?_suffix hc').trans (ht.trans hs)
  case h_2 =>
    split at h <;> cases h
    exact hs

theorem readUnicode_fault (h : readUnicode s = .error (fault, u)) : fault = .badUnicodeEscape := by
  unfold readUnicode at h
  split at h
  case h_1 =>
    cases h
    rfl
  case h_2 =>
  split at h
  case isFalse => cases h
  case isTrue =>
  split at h
  case h_2 => cases h
  case h_1 =>
  split at h
  case h_1 => split at h <;> cases h
  case h_2 =>
    split at h <;> cases h
    rfl

theorem readString_suffix {cs : List Char} {r : Rest s} (h : readString opening s = .ok (cs, r)) :
    r.1 <:+ s := by
  fun_induction readString opening s generalizing cs
  case case2 =>
    cases h
    exact List.suffix_cons _ _
  case case6 hu _ _ _ hs hi =>
    cases h
    exact (hi hs).trans ((readUnicode_suffix hu).trans (List.suffix_append ['\\', 'u'] _))
  case case9 e _ _ _ _ _ _ _ hs hi =>
    cases h
    exact (hi hs).trans (List.suffix_append ['\\', e] _)
  case case12 hs hi =>
    cases h
    exact (hi hs).trans (List.suffix_cons _ _)
  all_goals cases h

theorem readString_fault (h : readString opening s = .error (fault, u)) :
    fault ≠ .tooManyDigits n := by
  fun_induction readString opening s
  case case4 hu =>
    cases h
    rw [readUnicode_fault hu]
    nofun
  case case5 hs hi | case8 hs hi | case11 hs hi =>
    cases h
    exact hi hs
  all_goals
    cases h
    try nofun

end Strings

section Numbers

theorem leadingDigits_suffix (s : List Char) : (leadingDigits s).2.1 <:+ s :=
  List.dropWhile_suffix _

theorem wholeDigits?_prefix {ds : List Char} {r : Rest s} (h : wholeDigits? s = some (ds, r)) :
    ds ++ r.1 = s := by
  unfold wholeDigits? at h
  split at h
  case h_1 => cases h
  case h_2 =>
    split at h
    case isTrue hc =>
      cases h
      simp [hc]
    case isFalse =>
      split at h <;> cases h
      simp

theorem fractionDigits_suffix (s : List Char) : (fractionDigits s).2.1 <:+ s := by
  unfold fractionDigits
  split
  case h_1 d s =>
    split
    case isTrue => exact (leadingDigits_suffix s).trans (List.suffix_append ['.', d] s)
    case isFalse => exact List.suffix_rfl
  case h_2 => exact List.suffix_rfl

theorem exponentSign_suffix (s : List Char) : (exponentSign s).2.1 <:+ s := by
  unfold exponentSign
  split
  case h_1 s => exact List.suffix_cons '-' s
  case h_2 s => exact List.suffix_cons '+' s
  case h_3 => exact List.suffix_rfl

theorem exponentPart_suffix (s : List Char) : (exponentPart s).2.1 <:+ s := by
  unfold exponentPart
  split
  case h_2 => exact List.suffix_rfl
  case h_1 e s =>
    split
    case isFalse => exact List.suffix_rfl
    case isTrue =>
      have hs := exponentSign_suffix s
      have hd := leadingDigits_suffix (exponentSign s).2.1
      dsimp only
      split
      case isTrue => exact List.suffix_rfl
      case isFalse => exact hd.trans (hs.trans (List.suffix_cons e s))

theorem unsigned?_suffix {negative : Bool} {x : Numeral} {r : Rest s}
    (h : unsigned? negative s = some (x, r)) : x.whole <+: s ∧ r.1 <:+ s := by
  unfold unsigned? at h
  split at h
  case h_1 => cases h
  case h_2 whole r hr hw =>
    cases h
    have hp := wholeDigits?_prefix hw
    have hf := fractionDigits_suffix r
    have he := exponentPart_suffix (fractionDigits r).2.1
    exact ⟨⟨r, hp⟩, he.trans (hf.trans ⟨whole, hp⟩)⟩

theorem numeral?_suffix {x : Numeral} {r : Rest s} (h : numeral? s = some (x, r)) :
    x.whole <:+: s ∧ r.1 <:+ s := by
  unfold numeral? at h
  split at h
  case h_1 s =>
    obtain ⟨⟨x', r'⟩, hu, h⟩ := Option.map_eq_some_iff.mp h
    cases h
    have ⟨hw, hr⟩ := unsigned?_suffix hu
    exact ⟨hw.isInfix.trans (List.suffix_cons '-' s).isInfix, hr.trans (List.suffix_cons '-' s)⟩
  case h_2 =>
    have ⟨hw, hr⟩ := unsigned?_suffix h
    exact ⟨hw.isInfix, hr⟩

theorem word?_suffix {r : Rest s} (h : word? s = some (v, r)) : r.1 <:+ s := by
  unfold word? at h
  split at h <;> cases h
  · exact List.suffix_append "null".toList _
  · exact List.suffix_append "true".toList _
  · exact List.suffix_append "false".toList _
  · exact List.suffix_append "NaN".toList _
  · exact List.suffix_append "Infinity".toList _
  · exact List.suffix_append "-Infinity".toList _

-- A row of `n` digits, which are too many.
def TooManyDigits (n : Nat) (s : List Char) : Prop :=
  maxDigits < n ∧ ∃ ds, ds.length = n ∧ (∀ c ∈ ds, isDigit c) ∧ ds <:+: s

theorem TooManyDigits.mono (h : TooManyDigits n t) (hs : t <:+ s) : TooManyDigits n s := by
  obtain ⟨hn, ds, hl, hd, ht⟩ := h
  exact ⟨hn, ds, hl, hd, ht.trans hs.isInfix⟩

theorem tooManyDigits_of_value {x : Numeral} (hw : x.whole <:+: s) (hd : ∀ c ∈ x.whole, isDigit c)
    (h : x.value = .error (.tooManyDigits n)) : TooManyDigits n s := by
  unfold Numeral.value at h
  split at h
  case isFalse => cases h
  case isTrue =>
    split at h
    case isFalse => cases h
    case isTrue hl =>
      cases h
      exact ⟨hl, x.whole, rfl, hd, hw⟩

end Numbers

section Values

theorem readScalar_suffix {r : Rest s} (h : readScalar s = .ok (v, r)) : r.1 <:+ s := by
  unfold readScalar at h
  split at h
  case h_1 =>
    split at h
    case h_1 => cases h
    case h_2 hs =>
      cases h
      exact (readString_suffix hs).trans (List.suffix_cons _ _)
  case h_2 =>
  split at h
  case h_1 hw =>
    cases h
    exact word?_suffix hw
  case h_2 =>
  split at h
  case h_1 => cases h
  case h_2 hn =>
    split at h <;> cases h
    exact (numeral?_suffix hn).2

theorem tooManyDigits_of_readScalar (h : readScalar s = .error (.tooManyDigits n, u)) :
    TooManyDigits n s := by
  unfold readScalar at h
  split at h
  case h_1 =>
    split at h
    case h_2 => cases h
    case h_1 hs =>
      cases h
      exact absurd rfl (readString_fault hs)
  case h_2 =>
  split at h
  case h_1 => cases h
  case h_2 =>
  split at h
  case h_1 => cases h
  case h_2 hn =>
    split at h
    case h_2 => cases h
    case h_1 hv =>
      cases h
      exact tooManyDigits_of_value (numeral?_suffix hn).1 (numeral?_digits hn) hv

theorem tooManyDigits_of_read {mode : Mode} {stack : List Frame}
    (h : read mode stack s = .error (.tooManyDigits n, u)) : TooManyDigits n s := by
  fun_induction read mode stack s
  case case2 mode _ => cases mode <;> cases h
  case case6 hs _ =>
    cases h
    exact tooManyDigits_of_readScalar hs
  case case7 hs _ hi => exact (hi h).mono (readScalar_suffix hs)
  case case9 hi | case11 hi => exact hi h
  case case12 hs =>
    cases h
    exact absurd rfl (readString_fault hs)
  case case13 hs hi => exact ((hi h).mono (readString_suffix hs)).mono (List.suffix_cons _ _)
  -- What is left of the text is all but its first character, or the text is refused elsewhere.
  case case3 hi | case4 hi | case5 hi | case8 hi | case10 hi | case15 hi | case18 hi | case19 hi |
      case21 hi | case22 hi =>
    exact (hi h).mono (List.suffix_cons _ _)
  all_goals cases h

theorem tooManyDigits_of_parse {text : String} {p : Nat}
    (h : parse text = .error ⟨.tooManyDigits n, p⟩) : TooManyDigits n text.toList := by
  unfold parse at h
  dsimp only at h
  split at h
  case h_1 => cases h
  case h_2 ha =>
  cases h
  unfold readAll at ha
  split at ha
  case isTrue => cases ha
  split at ha
  case h_1 hr =>
    cases ha
    exact tooManyDigits_of_read hr
  case h_2 => split at ha <;> cases ha

theorem starts_of_isDigit (hc : isDigit c) : Starts c ∧ c ≠ '[' ∧ c ≠ '\x7b' := by
  have hn (a : Char) (ha : isDigit a = false) : c ≠ a := by
    rintro rfl
    exact Bool.false_ne_true (ha.symm.trans hc)
  have hs : isSpace c = false := by
    simp [isSpace, hn ' ' rfl, hn '\t' rfl, hn '\n' rfl, hn '\r' rfl]
  exact ⟨⟨hs, hn ']' rfl, hn '\ufeff' rfl⟩, hn '[' rfl, hn '\x7b' rfl⟩

theorem parse_of_fault (hc : Starts c ∧ c ≠ '[' ∧ c ≠ '\x7b')
    (h : readScalar (c :: s) = .error (fault, c :: s)) :
    parse (String.ofList (c :: s)) = .error ⟨fault, 0⟩ := by
  have hr : read .value [] (c :: s) = .error (fault, c :: s) := by
    rw [read.eq_def]
    simp [hc.1.1, hc.2, h]
  have ha : readAll (c :: s) = .error (fault, c :: s) := by
    rw [readAll, if_neg (by simpa using hc.1.2.2), hr]
  simp [parse, ha]

theorem readScalar_of_long_whole {ds : List Char} (hw : Whole ds) (hl : maxDigits < ds.length) :
    readScalar ds = .error (.tooManyDigits ds.length, ds) := by
  let x : Numeral := ⟨false, ds, [], none⟩
  have hx : x.Written [] := ⟨hw, List.forall_mem_nil _, .absent⟩
  have hv : x.value = .error (.tooManyDigits ds.length) := by simp [Numeral.value, x, hl]
  have hc : x.chars [] ++ [] = ds := by simp [Numeral.chars, signChars, fractionChars, x]
  have he : EndsNumeral [] := by simp [EndsNumeral]
  obtain ⟨_, hs⟩ := readScalar_chars hx he
  rw [hv] at hs
  dsimp only at hs
  rwa [hc] at hs

-- A whole number with too many digits is refused.
theorem parse_of_long_whole {ds : List Char} (hw : Whole ds) (hl : maxDigits < ds.length) :
    parse (String.ofList ds) = .error ⟨.tooManyDigits ds.length, 0⟩ := by
  have hs := readScalar_of_long_whole hw hl
  obtain ⟨c, ds, rfl, -⟩ := hw.leading
  exact parse_of_fault (starts_of_isDigit (hw.digits c List.mem_cons_self)) hs

end Values

end Enunciado.Json

import Enunciado.Proofs.Text.Lowercase
import Enunciado.Text.Mark

namespace Enunciado.Text

section Codes

def CaseRun.range (r : CaseRun) : CodeRange :=
  (r.first, r.last)

-- The code points that have a lower-case form, and those between them.
def capitals : List CodeRange :=
  caseRuns.map CaseRun.range

-- The lower-case form of a code point, if it is one code point.
def lowerCode (n : Nat) : Nat :=
  bif (bits capitals).testBit n then
    ((caseRuns.find? fun r => Nat.ble n r.last).bind (·.lower? n)).getD n
  else n

-- Whether the first code point that one does not skip when one looks for case has it, if there is
-- one.
def firstCase? (codes : List Nat) : Option Bool :=
  (codes.find? fun n => !(bits caseIgnorable).testBit n).map (bits cased).testBit

variable {c : Char} {n : Nat} {r : CaseRun} {runs : List CaseRun} {s t : List Nat}

theorem CaseRun.lower?_eq_none (h : n < r.first ∨ r.last < n) : r.lower? n = none := by
  rw [CaseRun.lower?, if_neg]
  simp only [Bool.and_eq_true, decide_eq_true_eq]
  omega

theorem findSome?_lower? (h : (runs.map CaseRun.range).Pairwise Precedes) :
    runs.findSome? (·.lower? n) = (runs.find? fun r => Nat.ble n r.last).bind (·.lower? n) := by
  induction runs
  case nil => rfl
  case cons r runs hi =>
    have ⟨hb, h⟩ := List.pairwise_cons.mp h
    rw [List.findSome?_cons, List.find?_cons, hi h]
    by_cases hn : n ≤ r.last
    case pos =>
      have hr : runs.findSome? (·.lower? n) = none :=
        List.findSome?_eq_none_iff.mpr fun r' hr' =>
          CaseRun.lower?_eq_none (.inl (hn.trans_lt (hb _ (List.mem_map_of_mem hr')).1))
      rw [Nat.ble_eq_true_of_le hn, ← hi h, hr]
      cases hl : r.lower? n <;> simp [hl]
    case neg =>
      have hr : r.lower? n = none := CaseRun.lower?_eq_none (.inr (not_le.mp hn))
      have hn : Nat.ble n r.last = false := Bool.eq_false_iff.mpr (mt Nat.le_of_ble_eq_true hn)
      rw [hr, hn]

theorem increasing_case : capitals.IsChain Precedes ∧ cased.IsChain Precedes ∧
    caseIgnorable.IsChain Precedes := by
  decide +kernel

theorem lowerChar_eq (h : c ≠ 'İ') : lowerChar c = [Char.ofNat (lowerCode c.toNat)] := by
  unfold lowerChar lowerCode
  rw [if_neg h]
  cases hb : (bits capitals).testBit c.toNat
  case false =>
    have hn : caseRuns.findSome? (·.lower? c.toNat) = none := by
      rw [List.findSome?_eq_none_iff]
      intro r hr
      refine CaseRun.lower?_eq_none ?_
      by_contra! hs
      exact Bool.eq_false_iff.mp hb (testBit_bits.mpr ⟨r.range, List.mem_map_of_mem hr, hs⟩)
    rw [hn, cond_false, Char.ofNat_toNat]
  case true =>
    rw [cond_true, findSome?_lower? (List.isChain_iff_pairwise.mp increasing_case.1)]
    split
    case h_1 hn => rw [hn, Option.getD_some]
    case h_2 hn => rw [hn, Option.getD_none, Char.ofNat_toNat]

theorem toNat_ofNat (h : n.isValidChar) : (Char.ofNat n).toNat = n := by
  rw [Char.ofNat, dif_pos h]
  rfl

theorem isCaseIgnorable_eq (c : Char) : isCaseIgnorable c = (bits caseIgnorable).testBit c.toNat :=
  covers_eq_testBit increasing_case.2.2 c.toNat

theorem isCased_eq (c : Char) : isCased c = (bits cased).testBit c.toNat :=
  covers_eq_testBit increasing_case.2.1 c.toNat

theorem meetsCase_eq (s : List Char) :
    meetsCase s = (firstCase? (s.map Char.toNat)).getD false := by
  unfold meetsCase firstCase?
  induction s
  case nil => rfl
  case cons c s hi =>
    rw [List.dropWhile_cons, List.map_cons, List.find?_cons, ← isCaseIgnorable_eq]
    cases isCaseIgnorable c
    case false => simp [isCased_eq]
    case true => simpa using hi

theorem firstCase?_append : firstCase? (s ++ t) = (firstCase? s).or (firstCase? t) := by
  rw [firstCase?, List.find?_append, Option.map_or, firstCase?, firstCase?]

end Codes

section Parts

-- The characters that decompose: the Hangul syllables and those of the table.
def composed : List CodeRange :=
  (0xAC00, 0xD7A3) :: decompositions.map fun e => (e.1, e.1)

def jamos : List CodeRange :=
  [(0x1100, 0x1112), (0x1161, 0x1175), (0x11A8, 0x11C2)]

-- The Hangul syllables and the jamo they are composed of.
def hangul : List CodeRange :=
  (0xAC00, 0xD7A3) :: jamos

def marks : List CodeRange :=
  combiningClasses.map (·.1)

-- Hangul has neither case nor marks, and marks have no case.
theorem classes_apart :
    bits hangul &&& (bits capitals ||| (bits cased ||| (bits caseIgnorable ||| bits marks))) = 0 ∧
    bits marks &&& (bits capitals ||| bits cased) = 0 := by
  decide +kernel

-- What the parts of a character of the code point `n` have of it.
structure AreParts (n : Nat) (parts : List Nat) : Prop where
  valid    : ∀ p ∈ parts, p.isValidChar
  whole    : ∀ p ∈ parts, (bits composed).testBit p = false
  noSigma  : 0x3A3 ∉ parts
  case     : firstCase? parts = firstCase? [n]
  reversed : firstCase? parts.reverse = firstCase? [n]
  marks    : (bits marks).testBit n → ∀ p ∈ parts, combiningClass (Char.ofNat p) ≠ 0
  lower    : n ≠ 0x130 →
    decomposeChar (Char.ofNat (lowerCode n)) = (parts.map lowerCode).map Char.ofNat

-- A code point and its parts.
abbrev Line := Nat × List Nat

-- The code point of the line is one of a character that is no Hangul syllable.
def Line.isLetter (e : Line) : Bool :=
  decide e.1.isValidChar && (decide (e.1 < 0xAC00) || decide (0xD7A3 < e.1))

-- The parts of the line have of its code point what is asked of parts, lower case apart.
def Line.isProper : Line → Bool
  | (n, parts) =>
    (parts.all fun p => decide p.isValidChar) &&
    (parts.all fun p => !(bits composed).testBit p) && !parts.contains 0x3A3 &&
    firstCase? parts == firstCase? [n] && firstCase? parts.reverse == firstCase? [n] &&
    (!(bits marks).testBit n || parts.all fun p => combiningClass (Char.ofNat p) != 0)

-- The line stays one when it is put in lower case. The lower-case line is looked for in the block
-- of lines that the line is from, as most stand there.
def Line.lowersWithin (block : List Line) : Line → Bool
  | (n, parts) =>
    bif (bits capitals).testBit n then
      block.find? (fun e => Nat.ble (lowerCode n) e.1) == some (lowerCode n, parts.map lowerCode) ||
        decomposeChar (Char.ofNat (lowerCode n)) == (parts.map lowerCode).map Char.ofNat
    else Nat.beq n 0x130 || parts.all fun p => !(bits capitals).testBit p

-- No lower-case form in the run decomposes if its capital letter does not.
def CaseRun.keepsWhole (r : CaseRun) : Bool :=
  (List.range ((r.last - r.first) / r.step + 1)).all fun i =>
    (bits composed).testBit (r.first + r.step * i) ||
      !(bits composed).testBit (r.target + r.step * i)

-- A table of decompositions in blocks of lines. All that takes the whole table to be checked is
-- checked when it is made.
structure DecompositionTable where
  blocks     : List (List Line)
  increasing : (blocks.flatten.map fun e => (e.1, e.1)).IsChain Precedes
  letters    : blocks.flatten.all (·.isLetter)
  proper     : blocks.flatten.all (·.isProper)
  lowers     : blocks.all fun block => block.all (·.lowersWithin block)
  capitals   : caseRuns.all (·.keepsWhole)
  jamos      : bits jamos &&& bits composed = 0

def decompositionTable : DecompositionTable where
  blocks := [decompositionsA, decompositionsB, decompositionsC, decompositionsD, decompositionsE,
    decompositionsF, decompositionsG, decompositionsH, decompositionsI]
  increasing := by
    simp only [List.flatten_cons, List.flatten_nil, List.map_append, List.isChain_append]
    decide +kernel
  letters := by decide +kernel
  proper := by decide +kernel
  lowers := by decide +kernel
  capitals := by decide +kernel
  jamos := by decide +kernel

-- `Decomposes c s` says that the characters `s` are what `c` decomposes into.
inductive Decomposes (c : Char) : List Char → Prop
  | whole : (bits composed).testBit c.toNat = false → Decomposes c [c]
  | parts {parts} : AreParts c.toNat parts → Decomposes c (parts.map Char.ofNat)

variable {c : Char} {n p : Nat} {parts : List Nat} {table : List (Nat × List Nat)}

section Table

theorem testBit_composed :
    (bits composed).testBit n ↔
      (0xAC00 ≤ n ∧ n ≤ 0xD7A3) ∨ ∃ parts, (n, parts) ∈ decompositions := by
  rw [testBit_bits, composed, List.exists_mem_cons_iff]
  refine or_congr .rfl ⟨?mp, ?mpr⟩
  case mp =>
    intro ⟨r, hr, h₁, h₂⟩
    obtain ⟨e, he, rfl⟩ := List.mem_map.mp hr
    obtain rfl := Nat.le_antisymm h₁ h₂
    exact ⟨e.2, he⟩
  case mpr =>
    intro ⟨parts, h⟩
    exact ⟨(n, n), List.mem_map_of_mem h, le_rfl, le_rfl⟩

theorem flatten_blocks : decompositionTable.blocks.flatten = decompositions := by
  simp [decompositionTable, decompositions]

theorem decomposeCharGo_of_mem (ht : (table.map fun e => (e.1, e.1)).Pairwise Precedes)
    (h : (n, parts) ∈ table) : decomposeChar.go c n table = parts.map Char.ofNat := by
  induction table
  case nil => contradiction
  case cons e table hi =>
    have ⟨hb, ht⟩ := List.pairwise_cons.mp ht
    obtain rfl | h := List.mem_cons.mp h
    case inl => simp [decomposeChar.go]
    case inr =>
      have hn : e.1 < n := (hb (n, n) (List.mem_map_of_mem h)).1
      rw [decomposeChar.go, if_neg (by omega), if_neg (by omega)]
      exact hi ht h

theorem decomposeCharGo_of_not_mem (h : ∀ e ∈ table, e.1 ≠ n) :
    decomposeChar.go c n table = [c] := by
  induction table
  case nil => rfl
  case cons e table hi =>
    rw [decomposeChar.go, if_neg (Ne.symm (h e (by simp))), hi fun e he => h e (by simp [he]),
      ite_self]

theorem decomposeChar_of_whole (h : (bits composed).testBit c.toNat = false) :
    decomposeChar c = [c] := by
  have hn := testBit_composed.not.mp (Bool.eq_false_iff.mp h)
  have hs : ¬((0xAC00 ≤ c.toNat && c.toNat ≤ 0xD7A3) = true) := by
    simpa using (not_or.mp hn).1
  rw [decomposeChar, if_neg hs]
  exact decomposeCharGo_of_not_mem fun e he ht => (not_or.mp hn).2 ⟨e.2, ht ▸ he⟩

theorem decomposeChar_of_mem (h : (n, parts) ∈ decompositions) :
    decomposeChar (Char.ofNat n) = parts.map Char.ofNat := by
  rw [← flatten_blocks] at h
  have hl := List.all_eq_true.mp decompositionTable.letters _ h
  simp only [Line.isLetter, Bool.and_eq_true, Bool.or_eq_true, decide_eq_true_eq] at hl
  have hs : ¬((0xAC00 ≤ n && n ≤ 0xD7A3) = true) := by
    simp only [Bool.and_eq_true, decide_eq_true_eq]
    omega
  rw [decomposeChar, toNat_ofNat hl.1, if_neg hs, ← flatten_blocks]
  exact decomposeCharGo_of_mem (List.isChain_iff_pairwise.mp decompositionTable.increasing) h

theorem decomposeChar_lowerCode (h : (n, parts) ∈ decompositions) (hn : n ≠ 0x130) :
    decomposeChar (Char.ofNat (lowerCode n)) = (parts.map lowerCode).map Char.ofNat := by
  obtain ⟨block, hm, he⟩ := List.mem_flatten.mp (flatten_blocks ▸ h)
  have hb := List.all_eq_true.mp (List.all_eq_true.mp decompositionTable.lowers block hm) _ he
  unfold Line.lowersWithin at hb
  cases hc : (bits capitals).testBit n
  case false =>
    have hp : ∀ p ∈ parts, lowerCode p = p := by
      simp only [hc, cond_false, Bool.or_eq_true, Nat.beq_eq, hn, false_or,
        List.all_eq_true, Bool.not_eq_true'] at hb
      intro p hp
      rw [lowerCode, hb p hp, cond_false]
    rw [lowerCode, hc, cond_false, decomposeChar_of_mem h, List.map_congr_left hp, List.map_id']
  case true =>
    simp only [hc, cond_true, Bool.or_eq_true, beq_iff_eq] at hb
    obtain hb | hb := hb
    case inl =>
      refine decomposeChar_of_mem ?_
      rw [← flatten_blocks]
      exact List.mem_flatten.mpr ⟨block, hm, List.mem_of_find?_eq_some hb⟩
    case inr => exact hb

theorem areParts_of_mem (h : (n, parts) ∈ decompositions) : AreParts n parts := by
  have hp := List.all_eq_true.mp decompositionTable.proper _ (flatten_blocks ▸ h)
  simp only [Line.isProper, Bool.and_eq_true, Bool.or_eq_true, decide_eq_true_eq, beq_iff_eq,
    bne_iff_ne, Bool.not_eq_true', List.all_eq_true, List.contains_eq_mem, decide_eq_false_iff_not,
    and_assoc] at hp
  obtain ⟨hv, hw, hs, hc, hr, hm⟩ := hp
  exact ⟨hv, hw, hs, hc, hr, fun hn => hm.resolve_left (by simp [hn]), decomposeChar_lowerCode h⟩

end Table

section Syllables

theorem testBit_jamos (h : n ≤ 0xD7A3 - 0xAC00) (hp : p ∈ jamo n) : (bits jamos).testBit p := by
  rw [testBit_bits]
  simp only [jamos, List.mem_cons, List.not_mem_nil, or_false, exists_eq_or_imp, exists_eq_left]
  unfold jamo at hp
  split at hp <;> simp only [List.mem_cons, List.not_mem_nil, or_false] at hp <;> omega

theorem testBit_hangul_of_jamos (h : (bits jamos).testBit p) : (bits hangul).testBit p := by
  have ⟨r, hr, hp⟩ := testBit_bits.mp h
  exact testBit_bits.mpr ⟨r, List.mem_cons_of_mem _ hr, hp⟩

theorem hangul_plain (h : (bits hangul).testBit n) :
    (bits capitals).testBit n = false ∧ (bits cased).testBit n = false ∧
    (bits caseIgnorable).testBit n = false ∧ (bits marks).testBit n = false := by
  simpa only [Nat.testBit_or, Bool.or_eq_false_iff] using testBit_of_and_eq_zero classes_apart.1 h

theorem firstCase?_hangul (hs : s ≠ []) (h : ∀ n ∈ s, (bits hangul).testBit n) :
    firstCase? s = some false := by
  cases s
  case nil => contradiction
  case cons n s =>
    have hn := hangul_plain (h n (by simp))
    simp [firstCase?, hn.2.1, hn.2.2.1]

theorem lowerCode_hangul (h : (bits hangul).testBit n) : lowerCode n = n := by
  rw [lowerCode, (hangul_plain h).1, cond_false]

theorem decomposeChar_syllable (h₁ : 0xAC00 ≤ n) (h₂ : n ≤ 0xD7A3) :
    decomposeChar (Char.ofNat n) = (jamo (n - 0xAC00)).map Char.ofNat := by
  rw [decomposeChar, toNat_ofNat (.inl (by omega)), if_pos (by simp [h₁, h₂])]

theorem areParts_syllable (h₁ : 0xAC00 ≤ n) (h₂ : n ≤ 0xD7A3) : AreParts n (jamo (n - 0xAC00)) := by
  have hj : ∀ p ∈ jamo (n - 0xAC00), (bits jamos).testBit p := fun p => testBit_jamos (by omega)
  have hh : ∀ p ∈ jamo (n - 0xAC00), (bits hangul).testBit p :=
    fun p hp => testBit_hangul_of_jamos (hj p hp)
  have hn : (bits hangul).testBit n := testBit_bits.mpr ⟨_, List.mem_cons_self, h₁, h₂⟩
  have hs : jamo (n - 0xAC00) ≠ [] := by unfold jamo; split <;> simp
  have hc : firstCase? [n] = some false := firstCase?_hangul (by simp) (by simpa using hn)
  refine ⟨?valid, ?whole, ?noSigma, ?case, ?reversed, ?marks, ?lower⟩
  case valid =>
    intro p hp
    obtain ⟨r, hr, _, hp⟩ := testBit_bits.mp (hj p hp)
    have : jamos.all fun r => r.2 < 0xD800 := by decide
    have := List.all_eq_true.mp this r hr
    exact .inl (hp.trans_lt (by simpa using this))
  case whole =>
    intro p hp
    exact testBit_of_and_eq_zero decompositionTable.jamos (hj p hp)
  case noSigma =>
    intro hp
    exact absurd (hj _ hp) (by decide +kernel)
  case case => rw [hc, firstCase?_hangul hs hh]
  case reversed =>
    rw [hc, firstCase?_hangul (by simpa using hs) (by simpa using hh)]
  case marks =>
    intro hm
    exact absurd hm (by simp [(hangul_plain hn).2.2.2])
  case lower =>
    intro _
    rw [lowerCode_hangul hn, decomposeChar_syllable h₁ h₂,
      List.map_congr_left fun p hp => lowerCode_hangul (hh p hp), List.map_id']

end Syllables

theorem decomposes (c : Char) : Decomposes c (decomposeChar c) := by
  cases h : (bits composed).testBit c.toNat
  case false => exact decomposeChar_of_whole h ▸ .whole h
  case true =>
    obtain ⟨h₁, h₂⟩ | ⟨parts, h⟩ := testBit_composed.mp h
    case inl =>
      have := decomposeChar_syllable h₁ h₂
      rw [Char.ofNat_toNat] at this
      exact this ▸ .parts (areParts_syllable h₁ h₂)
    case inr =>
      have := decomposeChar_of_mem h
      rw [Char.ofNat_toNat] at this
      exact this ▸ .parts (areParts_of_mem h)

end Parts

section Characters

variable {c d : Char} {p : Nat} {parts : List Nat} {s : List Char}

theorem AreParts.toNat (h : AreParts n parts) (hp : p ∈ parts) : (Char.ofNat p).toNat = p :=
  toNat_ofNat (h.valid p hp)

theorem AreParts.map_toNat (h : AreParts n parts) :
    (parts.map Char.ofNat).map Char.toNat = parts := by
  rw [List.map_map]
  exact (List.map_congr_left fun p hp => h.toNat hp).trans (List.map_id' parts)

-- Parts have no parts.
theorem Decomposes.decomposeChar_of_mem (h : Decomposes c s) (hd : d ∈ s) :
    decomposeChar d = [d] := by
  refine decomposeChar_of_whole ?_
  cases h
  case whole hw => rwa [List.mem_singleton.mp hd]
  case parts hp =>
    obtain ⟨p, hm, rfl⟩ := List.mem_map.mp hd
    rw [hp.toNat hm]
    exact hp.whole p hm

theorem Decomposes.sigma_not_mem (h : Decomposes c s) (hc : c ≠ 'Σ') : 'Σ' ∉ s := by
  cases h
  case whole => simpa using hc.symm
  case parts hp =>
    intro hm
    have hm := List.mem_map_of_mem (f := Char.toNat) hm
    rw [hp.map_toNat] at hm
    exact hp.noSigma hm

theorem Decomposes.firstCase?_eq (h : Decomposes c s) :
    firstCase? (s.map Char.toNat) = firstCase? [c.toNat] := by
  cases h
  case whole => rfl
  case parts hp => rw [hp.map_toNat, hp.case]

theorem Decomposes.firstCase?_reverse_eq (h : Decomposes c s) :
    firstCase? (s.map Char.toNat).reverse = firstCase? [c.toNat] := by
  cases h
  case whole => rfl
  case parts hp => rw [hp.map_toNat, hp.reversed]

-- A text meets case in the parts of a character as it does in the character.
theorem meetsCase_decomposeChar (c : Char) (s : List Char) :
    meetsCase (decomposeChar c ++ s) = meetsCase (c :: s) := by
  rw [meetsCase_eq, meetsCase_eq, List.map_append, firstCase?_append, (decomposes c).firstCase?_eq,
    ← firstCase?_append, List.singleton_append, List.map_cons]

theorem meetsCase_reverse_decomposeChar (c : Char) (s : List Char) :
    meetsCase ((decomposeChar c).reverse ++ s) = meetsCase (c :: s) := by
  rw [meetsCase_eq, meetsCase_eq, List.map_append, firstCase?_append, List.map_reverse,
    (decomposes c).firstCase?_reverse_eq, ← firstCase?_append, List.singleton_append, List.map_cons]

theorem whole_of_lower? (hr : r ∈ caseRuns) (h : r.lower? n = some m)
    (hn : (bits composed).testBit n = false) : (bits composed).testBit m = false := by
  have hk := List.all_eq_true.mp decompositionTable.capitals r hr
  unfold CaseRun.lower? at h
  split at h
  case isTrue hc =>
    simp only [Bool.and_eq_true, decide_eq_true_eq, beq_iff_eq] at hc
    have hi : r.step * ((n - r.first) / r.step) = n - r.first :=
      Nat.mul_div_cancel' (Nat.dvd_of_mod_eq_zero hc.2)
    rw [CaseRun.keepsWhole, List.all_eq_true] at hk
    have hk := hk ((n - r.first) / r.step) <|
      List.mem_range.mpr (Nat.lt_succ_of_le (Nat.div_le_div_right (by omega)))
    rw [hi, Nat.add_sub_cancel' hc.1.1, hn, Bool.false_or, Bool.not_eq_true'] at hk
    rwa [← Option.some.inj h]
  case isFalse => cases h

theorem decomposeChar_of_lowers (h : Lowers c d) (hc : (bits composed).testBit c.toNat = false) :
    decomposeChar d = [d] := by
  cases h
  case same => exact decomposeChar_of_whole hc
  case run r hr hl => exact decomposeChar_of_whole (whole_of_lower? hr hl hc)
  case sigma hd => obtain rfl | rfl := hd <;> decide +kernel

theorem Decomposes.lower (h : Decomposes c s) (hc : c ≠ 'İ') :
    s.flatMap lowerChar = (lowerChar c).flatMap decomposeChar := by
  have hw : ∀ d ∈ s, decomposeChar d = [d] := fun d => h.decomposeChar_of_mem
  cases h
  case whole hn =>
    have ⟨d, hl, hd⟩ := exists_lowers hc
    simp [hl, decomposeChar_of_lowers hd hn]
  case parts parts hp =>
    have hn : c.toNat ≠ 0x130 := fun hn => hc (Char.toNat_inj.mp hn)
    have hl : ∀ p ∈ parts, lowerChar (Char.ofNat p) = [Char.ofNat (lowerCode p)] := by
      intro p hm
      have hi : Char.ofNat p ≠ 'İ' := by
        intro hi
        have hw := hw _ (List.mem_map_of_mem hm)
        rw [hi] at hw
        exact absurd hw (by decide +kernel)
      rw [lowerChar_eq hi, hp.toNat hm]
    rw [lowerChar_eq hc, List.flatMap_singleton, hp.lower hn, List.flatMap_map,
      List.flatMap_congr hl, List.map_map, List.map_eq_flatMap]
    rfl

-- A character may be put in lower case before it is decomposed or after it.
theorem flatMap_lowerChar_decomposeChar (c : Char) :
    (decomposeChar c).flatMap lowerChar = (lowerChar c).flatMap decomposeChar := by
  by_cases hc : c = 'İ'
  case pos =>
    subst hc
    decide +kernel
  case neg => exact (decomposes c).lower hc

section Marks

theorem testBit_marks (h : combiningClass c ≠ 0) : (bits marks).testBit c.toNat := by
  suffices h : ∀ classes, combiningClass.go c classes ≠ 0 →
      ∃ e ∈ classes, e.1.1 ≤ c.toNat ∧ c.toNat ≤ e.1.2 by
    have ⟨e, he, hc⟩ := h combiningClasses ‹_›
    exact testBit_bits.mpr ⟨e.1, List.mem_map_of_mem he, hc⟩
  intro classes hc
  induction classes
  case nil => contradiction
  case cons e classes hi =>
    rw [combiningClass.go] at hc
    split at hc
    case isTrue hl =>
      by_cases hf : e.1.1 ≤ c.toNat
      case pos => exact ⟨e, by simp, hf, hl⟩
      case neg => simp [hf] at hc
    case isFalse =>
      have ⟨e, he, hc⟩ := hi hc
      exact ⟨e, by simp [he], hc⟩

theorem ne_sigma_of_mark (h : combiningClass c ≠ 0) : c ≠ 'Σ' := by
  rintro rfl
  exact h (by decide +kernel)

theorem marks_plain (h : combiningClass c ≠ 0) :
    (bits capitals).testBit c.toNat = false ∧ (bits cased).testBit c.toNat = false := by
  simpa only [Nat.testBit_or, Bool.or_eq_false_iff] using
    testBit_of_and_eq_zero classes_apart.2 (testBit_marks h)

theorem lowerChar_mark (h : combiningClass c ≠ 0) : lowerChar c = [c] := by
  have hi : c ≠ 'İ' := by
    rintro rfl
    exact h (by decide +kernel)
  rw [lowerChar_eq hi, lowerCode, (marks_plain h).1, cond_false, Char.ofNat_toNat]

theorem isCased_mark (h : combiningClass c ≠ 0) : isCased c = false := by
  rw [isCased_eq, (marks_plain h).2]

theorem Decomposes.marks (h : Decomposes c s) (hc : combiningClass c ≠ 0) (hd : d ∈ s) :
    combiningClass d ≠ 0 := by
  cases h
  case whole => rwa [List.mem_singleton.mp hd]
  case parts hp =>
    obtain ⟨p, hm, rfl⟩ := List.mem_map.mp hd
    exact hp.marks (testBit_marks hc) p hm

end Marks

end Characters

end Enunciado.Text

import Enunciado.Proofs.Prose.Sentence
import Enunciado.Proofs.Traversal
import Enunciado.Prose.Unchecked

namespace Enunciado.Prose

section Relations

variable {γ ε : Type} {read : List Char → Except ε γ} {ignorable : ε → Bool}
  {readBoth : List Char × List Char → Except (RelationError ε) (γ × γ)} {ss ss' : List (List Char)}

-- Sentences that do not go on from those before them are read on their own.
theorem relate_append (h : ∀ s ∈ ss'.head?, ¬startsWithPero s) :
    relate read readBoth ignorable (ss ++ ss') =
      relate read readBoth ignorable ss >>= fun rs => (relate read readBoth ignorable ss').map (rs ++ ·) := by
  have hm (r : Relationship γ) (result : Except (RelationError ε) (List (Relationship γ))) :
      (result >>= fun rs => (relate read readBoth ignorable ss').map (rs ++ ·)).map (r :: ·) =
        result.map (r :: ·) >>= fun rs => (relate read readBoth ignorable ss').map (rs ++ ·) := by
    cases result
    case error => rfl
    case ok => cases relate read readBoth ignorable ss' <;> rfl
  have hp (r : Relationship γ) (result : Except (RelationError ε) (List (Relationship γ))) :
      (Except.ok [r] >>= fun rs => result.map (rs ++ ·)) = result.map (r :: ·) := by
    cases result <;> rfl
  fun_induction relate read readBoth ignorable ss
  case case1 => cases hr : relate read readBoth ignorable ss' <;> simp [hr, bind, Except.bind, Except.map]
  case case6 s parts hs a c hr =>
    rw [hp, List.singleton_append, relate]
    cases ss'
    case nil => simp [hs, hr, relate, Except.map]
    case cons t ss' =>
      have ht : startsWithPero t = false := by simpa using h
      simp [hs, hr, ht]
  -- Where a sentence can not be read, those after it are not looked at.
  case case3 | case5 | case7 | case8 =>
    rw [List.cons_append, relate]
    simp_all
    rfl
  all_goals rw [List.cons_append, relate]; simp_all [← hm]

end Relations

section Findings

variable {ps : List Declared} {ss ss' : List (List Char)}

def Finding.ofRelationship (r : Relationship Json) : Finding :=
  ⟨r.statement.kind, r.statement.value, String.ofList r.source⟩

-- What is found in the sentences of a text.
def findings (ps : List Declared) (ss : List (List Char)) :
    Except UncheckedError (List Finding) := do
  if ss.isEmpty then return []
  let ps ← withWords ps
  let rs ← (relate (readValue ps) (readValues ps) UncheckedError.isUnmatched ss).mapError
    UncheckedError.ofRelation
  return rs.map .ofRelationship

theorem uncheckedFindings_eq (ps : List Declared) (text : String) :
    uncheckedFindings ps text = findings ps (sentences (normalize text.toList)) :=
  rfl

theorem findings_of_error (hw : withWords ps = .error e) (hs : ss ≠ []) :
    findings ps ss = .error e := by
  simp [findings, hs, hw, bind, Except.bind]

theorem findings_of_ok (hw : withWords ps = .ok ws) :
    findings ps ss = translate .ofRelation (List.map .ofRelationship)
      (relate (readValue ws) (readValues ws) UncheckedError.isUnmatched ss) := by
  cases ss
  case nil => rfl
  case cons s ss =>
    simp only [findings, hw, bind, Except.bind]
    cases relate (readValue ws) (readValues ws) UncheckedError.isUnmatched (s :: ss) <;> rfl

theorem findings_append (h : ∀ s ∈ ss'.head?, ¬startsWithPero s) :
    findings ps (ss ++ ss') = do return (← findings ps ss) ++ (← findings ps ss') := by
  cases hw : withWords ps
  case error e =>
    obtain rfl | hs := eq_or_ne ss []
    · rw [List.nil_append]
      cases findings ps ss' <;> rfl
    · rw [findings_of_error hw hs, findings_of_error hw (by simp [hs])]
      rfl
  case ok ws =>
    rw [findings_of_ok hw, findings_of_ok hw, findings_of_ok hw, relate_append h]
    cases relate (readValue ws) (readValues ws) UncheckedError.isUnmatched ss
    case error => rfl
    case ok =>
      cases relate (readValue ws) (readValues ws) UncheckedError.isUnmatched ss'
      case error => rfl
      case ok => exact congrArg Except.ok List.map_append

-- Two texts with a period between them state what the first of them does and then what the second
-- does, unless the period does not count or the second goes on from the first.
theorem uncheckedFindings_append {s t : String} (hn : endsInAnyNo s.toList.reverse = false)
    (hd : endsInDottedNo s.toList.reverse = false)
    (hp : ∀ first ∈ (sentences (normalize t.toList)).head?, ¬startsWithPero first) :
    uncheckedFindings ps (s ++ ". " ++ t) = do
      return (← uncheckedFindings ps s) ++ (← uncheckedFindings ps t) := by
  have hs : (s ++ ". " ++ t).toList = s.toList ++ '.' :: ' ' :: t.toList := by simp
  rw [uncheckedFindings_eq, hs, sentences_normalize_append hn hd, findings_append hp]
  rfl

theorem uncheckedFindings_append_rain :
    let ps : List Declared := [⟨.str "p", .str "llueve"⟩, ⟨.str "q", .str "nieva"⟩]
    uncheckedFindings ps ("Si llueve entonces nieva" ++ ". " ++ "No llueve.") = .ok
      [⟨"implication", .str "(p) → (q)", "si llueve entonces nieva"⟩,
        ⟨"clause", .str "¬p", "no llueve"⟩] := by
  intro ps
  rw [uncheckedFindings_append (by decide +kernel) (by decide +kernel) (by decide +kernel)]
  decide +kernel

-- The mark of a dotted capital I makes a word of the "no" after it, so the period does not count.
theorem not_parted_after_dotted_no :
    let ps : List Declared := [⟨.str "p", .str "llueve"⟩, ⟨.str "q", .str "nieva"⟩]
    endsInAnyNo "Llueve İno".toList.reverse = false ∧
    (∀ first ∈ (sentences (normalize "Nieva".toList)).head?, ¬startsWithPero first) ∧
    uncheckedFindings ps "Llueve İno" = .ok [⟨"clause", .str "p", "llueve i\u0307no"⟩] ∧
    uncheckedFindings ps "Nieva" = .ok [⟨"clause", .str "q", "nieva"⟩] ∧
    uncheckedFindings ps ("Llueve İno" ++ ". " ++ "Nieva") =
      .ok [⟨"clause", .str "p", "llueve i\u0307no. nieva"⟩] := by
  decide +kernel

end Findings

end Enunciado.Prose

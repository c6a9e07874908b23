import Enunciado.Display

namespace Enunciado.CommandLine

def startsTag (c : Char) : Bool :=
  ('a' ≤ c && c ≤ 'z') || c = '#' || c = '/' || c = '@'

-- The inside of a tag with its closing bracket, and what follows; there is no opening bracket
-- inside.
def tagBody? : List Char → Option (List Char × List Char)
  | [] => none
  | c :: s =>
    if c = ']' then some ([c], s)
    else if c = '[' then none
    else (tagBody? s).map fun (body, r) => (c :: body, r)

-- The tag at the start of a text, and what follows it.
def tag? : List Char → Option (List Char × List Char)
  | '[' :: c :: s =>
    if startsTag c then (tagBody? s).map fun (body, r) => ('[' :: c :: body, r) else none
  | _ => none

theorem tagBody?_length {s body r : List Char} (h : tagBody? s = some (body, r)) :
    r.length < s.length := by
  induction s generalizing body with
  | nil => simp [tagBody?] at h
  | cons c s ih =>
    simp only [tagBody?] at h
    split at h
    · simp_all
    · split at h
      · simp at h
      · simp only [Option.map_eq_some_iff, Prod.exists, Prod.mk.injEq] at h
        obtain ⟨b, t, hb, -, rfl⟩ := h
        have := ih hb
        simp; omega

theorem tag?_length {s t r : List Char} (h : tag? s = some (t, r)) : r.length < s.length := by
  unfold tag? at h
  split at h
  · split at h
    · simp only [Option.map_eq_some_iff, Prod.exists, Prod.mk.injEq] at h
      obtain ⟨b, t, hb, -, rfl⟩ := h
      have := tagBody?_length hb
      simp; omega
    · simp at h
  · simp at h

-- The text with the backslashes before each tag doubled and one more put there; `slashes` is how
-- many have just been passed.
def escapeTags (slashes : Nat) (s : List Char) : List Char :=
  match _h : tag? s with
  | some (t, r) => List.replicate (2 * slashes + 1) '\\' ++ t ++ escapeTags 0 r
  | none =>
    match s with
    | [] => List.replicate slashes '\\'
    | c :: s =>
      if c = '\\' then escapeTags (slashes + 1) s
      else List.replicate slashes '\\' ++ c :: escapeTags 0 s
termination_by s.length
decreasing_by
  · exact tag?_length _h
  · simp
  · simp

-- The text without its tags. Of the backslashes before a tag half stay, and one that is left over
-- keeps the tag.
def dropTags (slashes : Nat) (s : List Char) : List Char :=
  match _h : tag? s with
  | some (t, r) =>
    List.replicate (slashes / 2) '\\' ++ (if slashes % 2 = 1 then t else []) ++ dropTags 0 r
  | none =>
    match s with
    | [] => List.replicate slashes '\\'
    | c :: s =>
      if c = '\\' then dropTags (slashes + 1) s
      else List.replicate slashes '\\' ++ c :: dropTags 0 s
termination_by s.length
decreasing_by
  · exact tag?_length _h
  · simp
  · simp

-- A single backslash at the end is doubled, so that it does not escape what comes after it.
def guardEnd (s : List Char) : List Char :=
  match s.reverse with
  | '\\' :: '\\' :: _ => s
  | '\\' :: _ => s ++ ['\\']
  | _ => s

def escape (s : String) : String :=
  String.ofList (guardEnd (escapeTags 0 s.toList))

def cell? : Json → Option String
  | .str s => some s
  | .null => some ""
  | _ => none

-- The console of the program.
def console : Console where
  escape := escape
  cell? := cell?
  cell?_text _ := rfl
  cell?_null := rfl
  cell?_eq_none v hn hs := by
    cases v
    case null => exact absurd rfl hn
    case str s => exact absurd rfl (hs s)
    all_goals rfl

def unmarked (s : String) : String :=
  String.ofList (dropTags 0 s.toList)

-- What is shown, as lines without styles.
def plainLines : Display → List String
  | .markup line => [unmarked line]
  | .plain text => [text]
  | .table title columns rows =>
    unmarked title :: (columns :: rows).map fun cells => " │ ".intercalate (cells.map unmarked)

end Enunciado.CommandLine

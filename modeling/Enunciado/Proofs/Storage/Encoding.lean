import Enunciado.Storage.Encoding

namespace Enunciado

theorem fromUTF8?_toUTF8 (s : String) : String.fromUTF8? s.toUTF8 = some s :=
  dif_pos s.isValidUTF8

theorem unifyLines_eq {s : List Char} (h : '\r' ∉ s) : unifyLines s = s := by
  fun_induction unifyLines s
  case case1 => rfl
  case case2 => exact absurd List.mem_cons_self h
  case case3 c s _ hi =>
    rw [List.mem_cons, not_or] at h
    rw [if_neg (Ne.symm h.1), hi h.2]

theorem decodeText?_encodeText {s : String} (h : '\r' ∉ s.toList) :
    decodeText? (encodeText s) = some s := by
  rw [decodeText?, encodeText, fromUTF8?_toUTF8, Option.map_some, unifyLines_eq h,
    String.ofList_toList]

end Enunciado

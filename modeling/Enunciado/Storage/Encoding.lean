namespace Enunciado

-- The text with each of the three ways to end a line written as one character.
def unifyLines : List Char → List Char
  | [] => []
  | '\r' :: '\n' :: s => '\n' :: unifyLines s
  | c :: s => (if c = '\r' then '\n' else c) :: unifyLines s

-- The text that bytes encode, as a text file is read; none if the bytes encode no text.
def decodeText? (bytes : ByteArray) : Option String :=
  (String.fromUTF8? bytes).map fun s => String.ofList (unifyLines s.toList)

def encodeText (s : String) : ByteArray :=
  s.toUTF8

end Enunciado

/-!
# UTF-8

Reading a text from bytes.  Bytes that are no text are refused with the index of the first
character that cannot be read, and how many bytes were seen to be wrong there; when the bytes
end inside a character there is no such count.
-/

namespace Transclusion.Text

/-- Why bytes are not UTF-8. -/
structure Utf8Fault where
  index : Nat
  /-- How many bytes belong to the faulty sequence; none if the input ends within it. -/
  extent : Option Nat
deriving DecidableEq, Repr

def Utf8Fault.message (fault : Utf8Fault) : String :=
  match fault.extent with
  | some extent =>
    "invalid utf-8 sequence of " ++ toString extent ++ " bytes from index " ++ toString fault.index
  | none => "incomplete utf-8 byte sequence from index " ++ toString fault.index

/-- Whether a byte continues a character. -/
def isContinuation (b : UInt8) : Bool := 0x80 ≤ b && b ≤ 0xBF

/-- Whether `b` may follow the first byte `a` of a character of three bytes: no overlong form,
no surrogate. -/
def followsOfThree (a b : UInt8) : Bool :=
  if a = 0xE0 then 0xA0 ≤ b && b ≤ 0xBF
  else if a = 0xED then 0x80 ≤ b && b ≤ 0x9F
  else isContinuation b

/-- Whether `b` may follow the first byte `a` of a character of four bytes: no overlong form,
nothing above U+10FFFF. -/
def followsOfFour (a b : UInt8) : Bool :=
  if a = 0xF0 then 0x90 ≤ b && b ≤ 0xBF
  else if a = 0xF4 then 0x80 ≤ b && b ≤ 0x8F
  else isContinuation b

/-- The low six bits, which a continuation byte contributes. -/
def payload (b : UInt8) : Nat := b.toNat % 0x40

/-- Reads the bytes from `index` on, after the characters `done` (latest first). -/
def decodeUtf8From (done : List Char) (index : Nat) : List UInt8 → Except Utf8Fault (List Char)
  | [] => .ok done.reverse
  | a :: rest =>
    if a < 0x80 then decodeUtf8From (Char.ofNat a.toNat :: done) (index + 1) rest
    else if 0xC2 ≤ a && a ≤ 0xDF then
      match rest with
      | [] => .error ⟨index, none⟩
      | b :: rest =>
        if !isContinuation b then .error ⟨index, some 1⟩
        else
          decodeUtf8From (Char.ofNat ((a.toNat - 0xC0) * 0x40 + payload b) :: done) (index + 2) rest
    else if 0xE0 ≤ a && a ≤ 0xEF then
      match rest with
      | [] => .error ⟨index, none⟩
      | b :: rest =>
        if !followsOfThree a b then .error ⟨index, some 1⟩
        else match rest with
          | [] => .error ⟨index, none⟩
          | c :: rest =>
            if !isContinuation c then .error ⟨index, some 2⟩
            else
              let code := (a.toNat - 0xE0) * 0x1000 + payload b * 0x40 + payload c
              decodeUtf8From (Char.ofNat code :: done) (index + 3) rest
    else if 0xF0 ≤ a && a ≤ 0xF4 then
      match rest with
      | [] => .error ⟨index, none⟩
      | b :: rest =>
        if !followsOfFour a b then .error ⟨index, some 1⟩
        else match rest with
          | [] => .error ⟨index, none⟩
          | c :: rest =>
            if !isContinuation c then .error ⟨index, some 2⟩
            else match rest with
              | [] => .error ⟨index, none⟩
              | d :: rest =>
                if !isContinuation d then .error ⟨index, some 3⟩
                else
                  let code := (a.toNat - 0xF0) * 0x40000 + payload b * 0x1000 + payload c * 0x40
                    + payload d
                  decodeUtf8From (Char.ofNat code :: done) (index + 4) rest
    else .error ⟨index, some 1⟩

/-- The text that the bytes are the UTF-8 form of. -/
def decodeUtf8 (bytes : List UInt8) : Except Utf8Fault String :=
  (decodeUtf8From [] 0 bytes).map String.ofList

/-- The bytes of a text in UTF-8. -/
def utf8Bytes (s : String) : List UInt8 := s.toUTF8.toList

/-- How many bytes a run of characters takes in UTF-8. -/
def utf8Length (cs : List Char) : Nat := cs.foldl (fun total c => total + c.utf8Size) 0

end Transclusion.Text

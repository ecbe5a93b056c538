/-!
# UTF-8

Octets to characters. `decode?` accepts well-formed text only. `decodeLossy` writes one replacement
character for every maximal run of octets that starts a character but does not finish it, and for
every octet that starts none.
-/

set_option autoImplicit false

namespace DatasetGate.Text.Utf8

/-- What a lead octet announces: how many octets follow, and the least and the greatest value of
the first of them. The later ones lie in `80..BF`. -/
structure Lead where
  tails : Nat
  low : UInt8
  high : UInt8
  payload : Nat

/-- The announcement of a lead octet, for the octets that can start a character. -/
def lead? (b : UInt8) : Option Lead :=
  if b < 0x80 then some ⟨0, 0x80, 0xBF, b.toNat⟩
  else if 0xC2 ≤ b ∧ b ≤ 0xDF then some ⟨1, 0x80, 0xBF, b.toNat - 0xC0⟩
  else if b = 0xE0 then some ⟨2, 0xA0, 0xBF, 0⟩
  else if b = 0xED then some ⟨2, 0x80, 0x9F, b.toNat - 0xE0⟩
  else if 0xE1 ≤ b ∧ b ≤ 0xEF then some ⟨2, 0x80, 0xBF, b.toNat - 0xE0⟩
  else if b = 0xF0 then some ⟨3, 0x90, 0xBF, 0⟩
  else if 0xF1 ≤ b ∧ b ≤ 0xF3 then some ⟨3, 0x80, 0xBF, b.toNat - 0xF0⟩
  else if b = 0xF4 then some ⟨3, 0x80, 0x8F, b.toNat - 0xF0⟩
  else none

/-- The decoder between octets: the number of octets still due, the range of the next one, and the
code point so far. With no octets due it stands between characters. -/
structure State where
  due : Nat
  low : UInt8
  high : UInt8
  codePoint : Nat

def State.start : State := ⟨0, 0x80, 0xBF, 0⟩

def replacement : Char := Char.ofNat 0xFFFD

/-- Reads octets from a state. Each result is a character, or `none` for a maximal ill-formed
run. -/
def scan : State → List UInt8 → List (Option Char)
  | state, [] => if state.due = 0 then [] else [none]
  | state, b :: rest =>
      let fresh : List (Option Char) :=
        match lead? b with
        | none => none :: scan .start rest
        | some lead =>
            if lead.tails = 0 then some (Char.ofNat lead.payload) :: scan .start rest
            else scan ⟨lead.tails, lead.low, lead.high, lead.payload⟩ rest
      if state.due = 0 then fresh
      else if state.low ≤ b ∧ b ≤ state.high then
        let codePoint := 64 * state.codePoint + (b.toNat - 0x80)
        if state.due = 1 then some (Char.ofNat codePoint) :: scan .start rest
        else scan ⟨state.due - 1, 0x80, 0xBF, codePoint⟩ rest
      else none :: fresh

def decode? (bytes : List UInt8) : Option (List Char) :=
  (scan .start bytes).mapM id

def decodeLossy (bytes : List UInt8) : List Char :=
  (scan .start bytes).map fun c => c.getD replacement

def encodeChar (c : Char) : List UInt8 :=
  let n := c.toNat
  let tail (place : Nat) : UInt8 := UInt8.ofNat (0x80 + n / place % 64)
  if n < 0x80 then [UInt8.ofNat n]
  else if n < 0x800 then [UInt8.ofNat (0xC0 + n / 64), tail 1]
  else if n < 0x10000 then [UInt8.ofNat (0xE0 + n / 4096), tail 64, tail 1]
  else [UInt8.ofNat (0xF0 + n / 262144), tail 4096, tail 64, tail 1]

def encode (cs : List Char) : List UInt8 :=
  cs.flatMap encodeChar

end DatasetGate.Text.Utf8

set_option autoImplicit false

/-! # Texts from octets -/

namespace BindingStubs.Source

def isTail (b : UInt8) : Bool := 0x80 ≤ b && b < 0xC0

def tailBits (b : UInt8) : Nat := b.toNat % 64

/-- The code point at the start of some octets, if they are well formed there, and its length:
neither overlong nor a surrogate, and no more than 0x10FFFF. -/
def leadingCode? : List UInt8 → Option (Nat × Nat)
  | [] => none
  | a :: rest =>
    let n := a.toNat
    if n < 0x80 then some (n, 1)
    else match rest with
      | [] => none
      | b :: rest =>
        if !isTail b then none
        else if 0xC2 ≤ n && n < 0xE0 then some (n % 32 * 64 + tailBits b, 2)
        else match rest with
          | [] => none
          | c :: rest =>
            if !isTail c then none
            else if 0xE0 ≤ n && n < 0xF0 then
              let code := (n % 16 * 64 + tailBits b) * 64 + tailBits c
              if code < 0x800 || (0xD800 ≤ code && code < 0xE000) then none else some (code, 3)
            else match rest with
              | [] => none
              | d :: _ =>
                if !isTail d then none
                else if 0xF0 ≤ n && n < 0xF5 then
                  let code := ((n % 8 * 64 + tailBits b) * 64 + tailBits c) * 64 + tailBits d
                  if code < 0x10000 || 0x110000 ≤ code then none else some (code, 4)
                else none

/-- Decodes octets, of which `skip` belong to a character that is already decoded. -/
def utf8Loop (acc : List Char) : (skip : Nat) → List UInt8 → Option (List Char)
  | _, [] => some acc.reverse
  | skip + 1, _ :: rest => utf8Loop acc skip rest
  | 0, b :: rest =>
    match leadingCode? (b :: rest) with
    | some (code, size) => utf8Loop (Char.ofNat code :: acc) (size - 1) rest
    | none => none

def utf8? (octets : List UInt8) : Option (List Char) := utf8Loop [] 0 octets

def latin1 (octets : List UInt8) : List Char := octets.map fun b => Char.ofNat b.toNat

def lineFeeds : (acc : List Char) → List Char → List Char
  | acc, [] => acc.reverse
  | acc, '\r' :: '\n' :: rest => lineFeeds ('\n' :: acc) rest
  | acc, '\r' :: rest => lineFeeds ('\n' :: acc) rest
  | acc, c :: rest => lineFeeds (c :: acc) rest

def decode (octets : List UInt8) : List Char := lineFeeds [] ((utf8? octets).getD (latin1 octets))

end BindingStubs.Source

/-!
# TaskMail.Text.Utf8

UTF-8 over lists of octets.

* `encode`      — the octets of a text.
* `pieces`      — an octet list as the characters it spells and the stretches that spell none.
* `decode?`     — the text of an octet list in which every octet belongs to a character.
* `decodeLossy` — the text with U+FFFD in place of each stretch that spells no character.
* `fault?`      — where the first such stretch begins, and how long it is.

A stretch is as long as it can be while it still begins some character, so a character cut
short counts once, and the octet that cuts it short is read again as a first octet.
-/

namespace TaskMail

/-- A string of octets, as files, pipes and sockets carry it. -/
abbrev Bytes := List UInt8

namespace Utf8

def encode (s : String) : Bytes :=
  s.toList.flatMap String.utf8EncodeChar

/-- A part of an octet list that decoding does not divide further. -/
inductive Piece where
  | char (c : Char)
  /-- Octets that begin no character. -/
  | broken (size : Nat)
  /-- Octets that begin a character which the end of the list cuts short. -/
  | cut (size : Nat)
  deriving Repr, DecidableEq

/-- A character of which the first `seen` octets are read and `missing` are not; the next one
has to lie between `low` and `high`. -/
structure Partial where
  seen : Nat
  missing : Nat
  code : Nat
  low : Nat
  high : Nat
  deriving Repr, DecidableEq

/-- What an octet from 0x80 on begins. The bounds on the second octet exclude overlong forms,
surrogates and codes above U+10FFFF. -/
def Partial.ofLead? (n : Nat) : Option Partial :=
  if n < 0xC2 then none
  else if n ≤ 0xDF then some ⟨1, 1, n - 0xC0, 0x80, 0xBF⟩
  else if n = 0xE0 then some ⟨1, 2, 0, 0xA0, 0xBF⟩
  else if n = 0xED then some ⟨1, 2, 0xD, 0x80, 0x9F⟩
  else if n ≤ 0xEF then some ⟨1, 2, n - 0xE0, 0x80, 0xBF⟩
  else if n = 0xF0 then some ⟨1, 3, 0, 0x90, 0xBF⟩
  else if n ≤ 0xF3 then some ⟨1, 3, n - 0xF0, 0x80, 0xBF⟩
  else if n = 0xF4 then some ⟨1, 3, 4, 0x80, 0x8F⟩
  else none

/-- The decoder between two octets: the pieces so far, the latest first, and the character
that is under way. -/
structure Decoder where
  done : List Piece
  pending : Option Partial
  deriving Repr, DecidableEq

namespace Decoder

def first (done : List Piece) (b : UInt8) : Decoder :=
  if b.toNat < 0x80 then ⟨.char (Char.ofNat b.toNat) :: done, none⟩
  else match Partial.ofLead? b.toNat with
    | some p => ⟨done, some p⟩
    | none => ⟨.broken 1 :: done, none⟩

def step (d : Decoder) (b : UInt8) : Decoder :=
  match d.pending with
  | none => first d.done b
  | some p =>
    if p.low ≤ b.toNat ∧ b.toNat ≤ p.high then
      let code := p.code * 64 + (b.toNat - 0x80)
      if p.missing ≤ 1 then ⟨.char (Char.ofNat code) :: d.done, none⟩
      else ⟨d.done, some ⟨p.seen + 1, p.missing - 1, code, 0x80, 0xBF⟩⟩
    else first (.broken p.seen :: d.done) b

def finish (d : Decoder) : List Piece :=
  match d.pending with
  | none => d.done.reverse
  | some p => (.cut p.seen :: d.done).reverse

end Decoder

def pieces (bs : Bytes) : List Piece :=
  (bs.foldl Decoder.step ⟨[], none⟩).finish

def Piece.char? : Piece → Option Char
  | .char c => some c
  | .broken _ => none
  | .cut _ => none

def decode? (bs : Bytes) : Option String :=
  ((pieces bs).mapM Piece.char?).map String.ofList

def decodeLossy (bs : Bytes) : String :=
  String.ofList ((pieces bs).map fun p => p.char?.getD (Char.ofNat 0xFFFD))

/-- The first stretch that spells no character: the number of octets before it and its size,
which is `none` when only the end of the list cuts the character short. -/
structure Fault where
  validUpTo : Nat
  size : Option Nat
  deriving Repr, DecidableEq

def faultFrom (position : Nat) : List Piece → Option Fault
  | [] => none
  | .char c :: rest => faultFrom (position + c.utf8Size) rest
  | .broken n :: _ => some ⟨position, some n⟩
  | .cut _ :: _ => some ⟨position, none⟩

def fault? (bs : Bytes) : Option Fault :=
  faultFrom 0 (pieces bs)

end Utf8

end TaskMail

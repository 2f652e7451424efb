import BlockTree.Text.Numeral

/-!
Text as octets.

* `Utf8.encode`: the octets of a text;
* `Utf8.decode`: the text of octets, or the first place where they are none;
* `readLines`: carriage returns, alone or before a line feed, become line feeds.
-/

namespace BlockTree

/-- A sequence of octets. -/
abbrev Octets := List UInt8

namespace Utf8

/-- The octets of a text. -/
def encode (text : Text) : Octets :=
  text.flatMap String.utf8EncodeChar

/-- Why octets are no text. -/
inductive Problem where
  | badLead
  | badTail
  | cutShort
  deriving DecidableEq, Repr

/-- The place of a problem: the octets concerned, from a position on. -/
structure Fault where
  problem : Problem
  position : Nat
  octets : Octets
  deriving DecidableEq, Repr

/-- What the first octet of a character says: the bits it holds, how many octets follow, and the
bounds of the next one. -/
structure Lead where
  bits : Nat
  tails : Nat
  low : Nat
  high : Nat

/-- What an octet from 128 on says as the first of a character. -/
def lead? (octet : Nat) : Option Lead :=
  if octet < 0xC2 then none
  else if octet < 0xE0 then some ⟨octet - 0xC0, 1, 0x80, 0xBF⟩
  else if octet < 0xF0 then
    some ⟨octet - 0xE0, 2, if octet = 0xE0 then 0xA0 else 0x80, if octet = 0xED then 0x9F else 0xBF⟩
  else if octet < 0xF5 then
    some ⟨octet - 0xF0, 3, if octet = 0xF0 then 0x90 else 0x80, if octet = 0xF4 then 0x8F else 0xBF⟩
  else none

/-- The code point of a character from its bits so far, and the octets after it; or the problem and
how many octets were read. -/
def readTails (bits low high : Nat) : Nat → Octets → Except (Problem × Nat) (Nat × Octets)
  | 0, octets => .ok (bits, octets)
  | _ + 1, [] => .error (.cutShort, 0)
  | tails + 1, octet :: rest =>
    if low ≤ octet.toNat && octet.toNat ≤ high then
      match readTails (64 * bits + octet.toNat % 64) 0x80 0xBF tails rest with
      | .error (problem, count) => .error (problem, count + 1)
      | .ok result => .ok result
    else .error (.badTail, 0)

theorem readTails_length {bits low high tails : Nat} {octets rest : Octets} {n : Nat}
    (h : readTails bits low high tails octets = .ok (n, rest)) : rest.length ≤ octets.length := by
  induction tails generalizing bits low high octets with
  | zero =>
    simp only [readTails, Except.ok.injEq, Prod.mk.injEq] at h
    exact Nat.le_of_eq (congrArg List.length h.2.symm)
  | succ tails ih =>
    cases octets with
    | nil => simp [readTails] at h
    | cons octet octets =>
      rw [readTails] at h
      split at h
      · split at h
        · simp at h
        · rename_i hr
          simp only [Except.ok.injEq] at h
          subst h
          exact Nat.le_succ_of_le (ih hr)
      · simp at h

/-- The text of octets that start at a position. -/
def decodeFrom (position : Nat) (octets : Octets) : Except Fault Text :=
  match octets with
  | [] => .ok []
  | octet :: rest =>
    if octet.toNat < 0x80 then
      (decodeFrom (position + 1) rest).map (Char.ofNat octet.toNat :: ·)
    else
      match lead? octet.toNat with
      | none => .error ⟨.badLead, position, [octet]⟩
      | some lead =>
        match _ : readTails lead.bits lead.low lead.high lead.tails rest with
        | .error (problem, count) => .error ⟨problem, position, octet :: rest.take count⟩
        | .ok (codePoint, after) =>
          (decodeFrom (position + 1 + lead.tails) after).map (Char.ofNat codePoint :: ·)
termination_by octets.length
decreasing_by
  · simp
  · have := readTails_length (by assumption)
    simp only [List.length_cons]
    omega

/-- The text of octets. -/
def decode (octets : Octets) : Except Fault Text :=
  decodeFrom 0 octets

/-- The wording of a problem. -/
def Problem.message : Problem → Text
  | .badLead => "invalid start byte"
  | .badTail => "invalid continuation byte"
  | .cutShort => "unexpected end of data"

/-- The wording of a fault: one octet is shown, several are given by their positions. -/
def Fault.message (fault : Fault) : Text :=
  let place : Text := match fault.octets with
    | [octet] =>
      "byte 0x" ++ (Text.hexadecimal octet.toNat).leftpad 2 '0' ++ " in position "
        ++ Text.decimal fault.position
    | octets =>
      "bytes in position " ++ Text.decimal fault.position ++ "-"
        ++ Text.decimal (fault.position + octets.length - 1)
  "'utf-8' codec can't decode " ++ place ++ ": " ++ fault.problem.message

end Utf8

/-- The text with a line feed for each line end: a carriage return, a line feed, or both in a row.
-/
def Text.readLines : Text → Text
  | [] => []
  | '\r' :: '\n' :: rest => '\n' :: readLines rest
  | '\r' :: rest => '\n' :: readLines rest
  | c :: rest => c :: readLines rest

end BlockTree

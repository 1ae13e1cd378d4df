/-!
# UTF-8

Encoding, strict decoding, and decoding that puts U+FFFD for each maximal ill-formed part.
-/
namespace AirflowDeploy.Text.Utf8

def replacement : Char := '\uFFFD'

def isContinuation (b : UInt8) : Bool := 0x80 ≤ b && b ≤ 0xBF

/-- What stands at the front of a byte sequence: a character and its length, or an ill-formed
part and its length. -/
inductive Front where
  | empty
  | char (c : Char) (length : Nat)
  | illFormed (length : Nat)
  deriving DecidableEq, Repr

/-- The six low bits of a continuation byte. -/
def payload (b : UInt8) : Nat := b.toNat % 64

/-- Range of the byte after `b`, which excludes overlong forms, surrogates and values above
U+10FFFF. -/
def secondRange (b : UInt8) : Nat × Nat :=
  if b == 0xE0 then (0xA0, 0xBF)
  else if b == 0xED then (0x80, 0x9F)
  else if b == 0xF0 then (0x90, 0xBF)
  else if b == 0xF4 then (0x80, 0x8F)
  else (0x80, 0xBF)

def isSecond (first second : UInt8) : Bool :=
  (secondRange first).1 ≤ second.toNat && second.toNat ≤ (secondRange first).2

/-- Number of bytes that a first byte announces; none for a byte that cannot come first. -/
def announced (b : UInt8) : Option Nat :=
  if b < 0x80 then some 1
  else if 0xC2 ≤ b && b ≤ 0xDF then some 2
  else if 0xE0 ≤ b && b ≤ 0xEF then some 3
  else if 0xF0 ≤ b && b ≤ 0xF4 then some 4
  else none

def front : List UInt8 → Front
  | [] => .empty
  | b :: rest =>
    match announced b, rest with
    | some 1, _ => .char (Char.ofNat b.toNat) 1
    | some 2, c :: _ =>
      if isSecond b c then .char (Char.ofNat (b.toNat % 32 * 64 + payload c)) 2 else .illFormed 1
    | some 3, c :: rest =>
      if isSecond b c then
        match rest with
        | d :: _ =>
          if isContinuation d then
            .char (Char.ofNat (b.toNat % 16 * 4096 + payload c * 64 + payload d)) 3
          else .illFormed 2
        | [] => .illFormed 2
      else .illFormed 1
    | some 4, c :: rest =>
      if isSecond b c then
        match rest with
        | d :: rest =>
          if isContinuation d then
            match rest with
            | e :: _ =>
              if isContinuation e then
                .char (Char.ofNat
                  (b.toNat % 8 * 262144 + payload c * 4096 + payload d * 64 + payload e)) 4
              else .illFormed 3
            | [] => .illFormed 3
          else .illFormed 2
        | [] => .illFormed 2
      else .illFormed 1
    | _, _ => .illFormed 1

theorem length_of_front {bs : List UInt8} {c : Char} {n : Nat} (h : front bs = .char c n) :
    0 < n ∧ n ≤ bs.length := by
  unfold front at h
  split at h
  · cases h
  · (repeat' split at h) <;> cases h <;> simp

theorem front_eq_empty_iff {bs : List UInt8} : front bs = .empty ↔ bs = [] := by
  cases bs with
  | nil => exact iff_of_true rfl rfl
  | cons b bs =>
    refine iff_of_false (fun h => ?_) (by simp)
    simp only [front] at h
    (repeat' split at h) <;> cases h

/-- Decoding with a bound on the number of steps; `bs.length` steps are enough. -/
def lossyWithin : Nat → List UInt8 → List Char
  | 0, _ => []
  | fuel + 1, bs =>
    match front bs with
    | .empty => []
    | .char c n => c :: lossyWithin fuel (bs.drop n)
    | .illFormed n => replacement :: lossyWithin fuel (bs.drop n)

/-- Decodes, with one U+FFFD for each maximal ill-formed part. -/
def decodeLossy (bs : List UInt8) : List Char := lossyWithin bs.length bs

def strictWithin : Nat → List UInt8 → Option (List Char)
  | 0, bs => if bs.isEmpty then some [] else none
  | fuel + 1, bs =>
    match front bs with
    | .empty => some []
    | .char c n => (strictWithin fuel (bs.drop n)).map (c :: ·)
    | .illFormed _ => none

/-- Decodes well-formed bytes, and nothing else. -/
def decode? (bs : List UInt8) : Option (List Char) := strictWithin bs.length bs

def encode (cs : List Char) : List UInt8 := cs.flatMap String.utf8EncodeChar

/-- Length in bytes. -/
def size : List Char → Nat
  | [] => 0
  | c :: rest => c.utf8Size + size rest

end AirflowDeploy.Text.Utf8

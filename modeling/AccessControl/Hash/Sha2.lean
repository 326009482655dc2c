import AccessControl.Text.Utf8

/-!
# SHA-2

The three digests with words of 32 and of 64 bits, as one algorithm over its word size. A message is
padded to whole blocks; each block is stretched into one word per round, and the rounds are folded
into the state.
-/
namespace AccessControl.Sha2

/-- The number of bits by which the three parts of a mixing function turn a word; the last part of
a scheduling function shifts instead. -/
structure Turns where
  first : Nat
  second : Nat
  third : Nat
  deriving DecidableEq, Repr

structure State (w : Nat) where
  a : BitVec w
  b : BitVec w
  c : BitVec w
  d : BitVec w
  e : BitVec w
  f : BitVec w
  g : BitVec w
  h : BitVec w
  deriving DecidableEq, Repr

/-- A digest of the family: its start, the constant of each round, the turns of its four functions
and the number of octets it keeps. -/
structure Digest (w : Nat) where
  start : State w
  constants : List (BitVec w)
  mixA : Turns
  mixE : Turns
  schedule0 : Turns
  schedule1 : Turns
  kept : Nat
  deriving DecidableEq, Repr

variable {w : Nat}

/-- The three turned forms of a word, combined. -/
def mix (t : Turns) (x : BitVec w) : BitVec w :=
  x.rotateRight t.first ^^^ x.rotateRight t.second ^^^ x.rotateRight t.third

/-- Two turned forms and a shifted one, combined. -/
def stretch (t : Turns) (x : BitVec w) : BitVec w :=
  x.rotateRight t.first ^^^ x.rotateRight t.second ^^^ (x >>> t.third)

/-- The octets of a word, most significant first. -/
def wordBytes : (count : Nat) → BitVec w → Bytes
  | 0, _ => []
  | count + 1, x => (x >>> (8 * count)).toNat.toUInt8 :: wordBytes count x

def wordOf (bytes : Bytes) : BitVec w :=
  bytes.foldl (fun x b => x <<< 8 ||| BitVec.ofNat w b.toNat) 0

/-- Pieces of one size; the last may be shorter. -/
def pieces {α : Type} (size : Nat) (xs : List α) : List (List α) :=
  if size = 0 ∨ xs = [] then []
  else xs.take size :: pieces size (xs.drop size)
termination_by xs.length
decreasing_by
  rename_i h
  simp only [not_or] at h
  have := List.length_pos_iff.mpr h.2
  simp only [List.length_drop]
  omega

def wordSize (w : Nat) : Nat := w / 8

def blockSize (w : Nat) : Nat := 16 * wordSize w

/-- The message with its end mark, zeros and length in bits, in whole blocks. -/
def pad (w : Nat) (message : Bytes) : Bytes :=
  let block := blockSize w
  let length := 2 * wordSize w
  let filled := (message.length + 1 + length) % block
  message ++ [0x80] ++ List.replicate ((block - filled) % block) 0 ++
    wordBytes length (BitVec.ofNat (2 * w) (8 * message.length))

/-- The next word of the schedule from the sixteen before it. -/
def nextWord (d : Digest w) (window : List (BitVec w)) : BitVec w :=
  stretch d.schedule1 (window.getD 14 0) + window.getD 9 0 +
    stretch d.schedule0 (window.getD 1 0) + window.getD 0 0

def round (d : Digest w) (s : State w) (constant word : BitVec w) : State w :=
  let choice := (s.e &&& s.f) ^^^ (~~~s.e &&& s.g)
  let majority := (s.a &&& s.b) ^^^ (s.a &&& s.c) ^^^ (s.b &&& s.c)
  let t := s.h + mix d.mixE s.e + choice + constant + word
  { a := t + mix d.mixA s.a + majority, b := s.a, c := s.b, d := s.c
    e := s.d + t, f := s.e, g := s.f, h := s.g }

/-- The rounds of a block, the window holding the next sixteen words. -/
def rounds (d : Digest w) : List (BitVec w) → List (BitVec w) → State w → State w
  | [], _, s => s
  | constant :: rest, window, s =>
    rounds d rest (window.drop 1 ++ [nextWord d window]) (round d s constant (window.getD 0 0))

def State.add (s t : State w) : State w :=
  { a := s.a + t.a, b := s.b + t.b, c := s.c + t.c, d := s.d + t.d
    e := s.e + t.e, f := s.f + t.f, g := s.g + t.g, h := s.h + t.h }

def compress (d : Digest w) (s : State w) (block : Bytes) : State w :=
  s.add (rounds d d.constants ((pieces (wordSize w) block).map wordOf) s)

def State.words (s : State w) : List (BitVec w) :=
  [s.a, s.b, s.c, s.d, s.e, s.f, s.g, s.h]

def digest (d : Digest w) (message : Bytes) : Bytes :=
  let final := (pieces (blockSize w) (pad w message)).foldl (compress d) d.start
  (final.words.flatMap (wordBytes (wordSize w))).take d.kept

/-- The 64-bit constants of the rounds. -/
def longConstants : List (BitVec 64) :=
  [0x428A2F98D728AE22, 0x7137449123EF65CD, 0xB5C0FBCFEC4D3B2F, 0xE9B5DBA58189DBBC,
   0x3956C25BF348B538, 0x59F111F1B605D019, 0x923F82A4AF194F9B, 0xAB1C5ED5DA6D8118,
   0xD807AA98A3030242, 0x12835B0145706FBE, 0x243185BE4EE4B28C, 0x550C7DC3D5FFB4E2,
   0x72BE5D74F27B896F, 0x80DEB1FE3B1696B1, 0x9BDC06A725C71235, 0xC19BF174CF692694,
   0xE49B69C19EF14AD2, 0xEFBE4786384F25E3, 0x0FC19DC68B8CD5B5, 0x240CA1CC77AC9C65,
   0x2DE92C6F592B0275, 0x4A7484AA6EA6E483, 0x5CB0A9DCBD41FBD4, 0x76F988DA831153B5,
   0x983E5152EE66DFAB, 0xA831C66D2DB43210, 0xB00327C898FB213F, 0xBF597FC7BEEF0EE4,
   0xC6E00BF33DA88FC2, 0xD5A79147930AA725, 0x06CA6351E003826F, 0x142929670A0E6E70,
   0x27B70A8546D22FFC, 0x2E1B21385C26C926, 0x4D2C6DFC5AC42AED, 0x53380D139D95B3DF,
   0x650A73548BAF63DE, 0x766A0ABB3C77B2A8, 0x81C2C92E47EDAEE6, 0x92722C851482353B,
   0xA2BFE8A14CF10364, 0xA81A664BBC423001, 0xC24B8B70D0F89791, 0xC76C51A30654BE30,
   0xD192E819D6EF5218, 0xD69906245565A910, 0xF40E35855771202A, 0x106AA07032BBD1B8,
   0x19A4C116B8D2D0C8, 0x1E376C085141AB53, 0x2748774CDF8EEB99, 0x34B0BCB5E19B48A8,
   0x391C0CB3C5C95A63, 0x4ED8AA4AE3418ACB, 0x5B9CCA4F7763E373, 0x682E6FF3D6B2B8A3,
   0x748F82EE5DEFB2FC, 0x78A5636F43172F60, 0x84C87814A1F0AB72, 0x8CC702081A6439EC,
   0x90BEFFFA23631E28, 0xA4506CEBDE82BDE9, 0xBEF9A3F7B2C67915, 0xC67178F2E372532B,
   0xCA273ECEEA26619C, 0xD186B8C721C0C207, 0xEADA7DD6CDE0EB1E, 0xF57D4F7FEE6ED178,
   0x06F067AA72176FBA, 0x0A637DC5A2C898A6, 0x113F9804BEF90DAE, 0x1B710B35131C471B,
   0x28DB77F523047D84, 0x32CAAB7B40C72493, 0x3C9EBE0A15C9BEBC, 0x431D67C49C100D4C,
   0x4CC5D4BECB3E42B6, 0x597F299CFC657E2A, 0x5FCB6FAB3AD6FAEC, 0x6C44198C4A475817]

def stateOf (words : List (BitVec w)) : State w :=
  { a := words.getD 0 0, b := words.getD 1 0, c := words.getD 2 0, d := words.getD 3 0
    e := words.getD 4 0, f := words.getD 5 0, g := words.getD 6 0, h := words.getD 7 0 }

def longStart : List (BitVec 64) :=
  [0x6A09E667F3BCC908, 0xBB67AE8584CAA73B, 0x3C6EF372FE94F82B, 0xA54FF53A5F1D36F1,
   0x510E527FADE682D1, 0x9B05688C2B3E6C1F, 0x1F83D9ABFB41BD6B, 0x5BE0CD19137E2179]

def middleStart : List (BitVec 64) :=
  [0xCBBB9D5DC1059ED8, 0x629A292A367CD507, 0x9159015A3070DD17, 0x152FECD8F70E5939,
   0x67332667FFC00B31, 0x8EB44A8768581511, 0xDB0C2E0D64F98FA7, 0x47B5481DBEFA4FA4]

def upperHalf (x : BitVec 64) : BitVec 32 := (x >>> 32).truncate 32

/-- The digest of 256 bits. Its constants and start are the upper halves of the long ones. -/
def sha256 : Digest 32 where
  start := stateOf (longStart.map upperHalf)
  constants := (longConstants.take 64).map upperHalf
  mixA := ⟨2, 13, 22⟩
  mixE := ⟨6, 11, 25⟩
  schedule0 := ⟨7, 18, 3⟩
  schedule1 := ⟨17, 19, 10⟩
  kept := 32

def sha512 : Digest 64 where
  start := stateOf longStart
  constants := longConstants
  mixA := ⟨28, 34, 39⟩
  mixE := ⟨14, 18, 41⟩
  schedule0 := ⟨1, 8, 7⟩
  schedule1 := ⟨19, 61, 6⟩
  kept := 64

def sha384 : Digest 64 :=
  { sha512 with start := stateOf middleStart, kept := 48 }

end AccessControl.Sha2

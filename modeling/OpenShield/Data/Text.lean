import OpenShield.Data.Ip

/-!
# Text as the source handles it

Character classes, trimming and the textual form of addresses, as the standard library of the
source defines them on Unicode scalar values.
-/

namespace Text

/-- Control characters (general category `Cc`). -/
def isControl (c : Char) : Bool :=
  decide (c.toNat ≤ 0x1f) || (decide (0x7f ≤ c.toNat) && decide (c.toNat ≤ 0x9f))

/-- Characters with the `White_Space` property. -/
def isWhitespace (c : Char) : Bool :=
  (decide (0x9 ≤ c.toNat) && decide (c.toNat ≤ 0xd)) ||
    (decide (0x2000 ≤ c.toNat) && decide (c.toNat ≤ 0x200a)) ||
    decide (c.toNat ∈ [0x20, 0x85, 0xa0, 0x1680, 0x2028, 0x2029, 0x202f, 0x205f, 0x3000])

def isDirectional (c : Char) : Bool :=
  (decide (0x200b ≤ c.toNat) && decide (c.toNat ≤ 0x200f)) ||
    (decide (0x202a ≤ c.toNat) && decide (c.toNat ≤ 0x202e)) ||
    (decide (0x2060 ≤ c.toNat) && decide (c.toNat ≤ 0x206f)) ||
    decide (c.toNat ∈ [0x61c, 0xfeff])

def trim (text : List Char) : List Char :=
  ((text.dropWhile isWhitespace).reverse.dropWhile isWhitespace).reverse

/-- Whether `suffix` ends `text`. -/
def endsWith (text suffix : List Char) : Bool := suffix.reverse.isPrefixOf text.reverse

/-- White space of the ASCII range: blank, tabulator, line feed, form feed, carriage return. -/
def isAsciiWhitespace (c : Char) : Bool := decide (c.toNat ∈ [0x20, 0x9, 0xa, 0xc, 0xd])

def splitOnce (separator : List Char) : List Char → Option (List Char × List Char)
  | [] => if separator = [] then some ([], []) else none
  | c :: rest =>
    if separator.isPrefixOf (c :: rest) then some ([], (c :: rest).drop separator.length)
    else (splitOnce separator rest).map fun parts => (c :: parts.1, parts.2)

def stripBeginning (beginning text : List Char) : Option (List Char) :=
  if beginning.isPrefixOf text then some (text.drop beginning.length) else none

def hexDigitValue (c : Char) : Option ℕ :=
  if c.toNat ∈ List.range' 0x30 10 then some (c.toNat - 0x30)
  else if c.toNat ∈ List.range' 0x61 6 then some (c.toNat - 0x61 + 10)
  else if c.toNat ∈ List.range' 0x41 6 then some (c.toNat - 0x41 + 10)
  else none

def digitValue (radix : ℕ) (c : Char) : Option ℕ :=
  (hexDigitValue c).filter fun value => value < radix

def digitsValue (radix : ℕ) (digits : List Char) : Option ℕ :=
  digits.foldlM (fun value c => (digitValue radix c).map fun digit => value * radix + digit) 0

def stripPlus : List Char → List Char
  | [] => []
  | c :: rest => if c = '+' then rest else c :: rest

/-- Read an unsigned number below a bound. A plus sign may stand in front of its digits. -/
def parseUnsigned (radix bound : ℕ) (text : List Char) : Option ℕ :=
  if stripPlus text = [] then none
  else (digitsValue radix (stripPlus text)).filter fun value => value < bound

def unwords (words : List String) : List Char := [' '].intercalate (words.map String.toList)

def hex (n : ℕ) : String := String.ofList (Nat.toDigits 16 n)

end Text

namespace IpAddr

def displayV4 (addr : BitVec 32) : String :=
  String.intercalate "." ([24, 16, 8, 0].map fun shift => toString ((addr >>> shift).toNat % 256))

def segments (addr : BitVec 128) : List ℕ :=
  [112, 96, 80, 64, 48, 32, 16, 0].map fun shift => (addr >>> shift).toNat % 65536

/-- The first longest run of zero groups, as start and length. The state is the position, the
current run and the best run so far. -/
def longestZeroRun (groups : List ℕ) : ℕ × ℕ :=
  let scan := groups.foldl
    (fun (state : ℕ × (ℕ × ℕ) × (ℕ × ℕ)) group =>
      let (position, (start, length), best) := state
      if group = 0 then
        let current := if length = 0 then (position, 1) else (start, length + 1)
        (position + 1, current, if best.2 < current.2 then current else best)
      else (position + 1, (0, 0), best))
    (0, (0, 0), (0, 0))
  scan.2.2

/-- Text of an IPv6 address: IPv4-mapped addresses keep their dotted form, and the first
longest run of at least two zero groups is elided. -/
def displayV6 (addr : BitVec 128) : String :=
  let groups := segments addr
  let text (part : List ℕ) := String.intercalate ":" (part.map Text.hex)
  if groups.take 6 = [0, 0, 0, 0, 0, 0xffff] then "::ffff:" ++ displayV4 (addr.setWidth 32)
  else
    let (start, length) := longestZeroRun groups
    if 1 < length then text (groups.take start) ++ "::" ++ text (groups.drop (start + length))
    else text groups

def display : IpAddr → String
  | .v4 addr => displayV4 addr
  | .v6 addr => displayV6 addr

end IpAddr

def IpNet.display : IpNet → String
  | .v4 addr len => (IpAddr.v4 addr).display ++ "/" ++ toString len.val
  | .v6 addr len => (IpAddr.v6 addr).display ++ "/" ++ toString len.val

example : (IpAddr.v4 0x0a000001).display = "10.0.0.1" := by decide
example : (IpAddr.v6 1).display = "::1" := by decide

import SenderPolicy.Domain.Direction
import SenderPolicy.Domain.Label

/-!
# Host labels

The ASCII form of a label in which hosts are named: it has letters, digits and hyphens, and all else in Punycode. Any
other ASCII character is a flaw, be it in the label or in what one of its characters is mapped to. So is a character
that is not allowed; fewer are than in other domains. Some letters and the joiners are at home in Punycode alone and
give way to other letters, or to nothing, elsewhere. A text that is read as one label may hold dots, and then is what
its parts make together. All flaws of a label are found, and it has an ASCII form if there are none.
-/

namespace SenderPolicy.Domain.Host

open Text

/-! ## Flaws -/

/-- What is wrong with a label. -/
inductive Flaw where
  /-- It has `xn--` in front of what is no Punycode. -/
  | punycode
  | direction
  | leadingMark
  /-- A character in it would have to be mapped, or is not allowed. -/
  | mapping
  /-- Its Punycode is not that of the composed form. -/
  | composition
  | symbol
  /-- A character in it is mapped to a text with a symbol. -/
  | symbolImage
  | disallowed
  deriving DecidableEq, Repr

namespace Flaw

/-- The name of a flaw. -/
def name : Flaw → String
  | punycode => "punycode"
  | direction => "check_bidi"
  | leadingMark => "start_combining_mark"
  | mapping => "invalid_mapping"
  | composition => "nfc"
  | symbol => "disallowed_by_std3_ascii_rules"
  | symbolImage => "disallowed_mapped_in_std3"
  | disallowed => "disallowed_character"

/-- The flaws in the order in which they are reported. -/
def all : List Flaw :=
  [punycode, direction, leadingMark, mapping, composition, symbol, symbolImage, disallowed]

end Flaw

/-! ## Characters -/

/-- What becomes of a character. -/
inductive Standing where
  | kept
  | mapped (text : List Char)
  /-- It stays in Punycode and gives way to a text elsewhere. -/
  | deviating (text : List Char)
  | symbol
  /-- It is mapped to a text with a symbol. -/
  | symbolic (text : List Char)
  | disallowed
  deriving DecidableEq, Repr

/-- The characters that are at home in Punycode alone. -/
def deviations : List (Char × List Char) :=
  [('ß', ['s', 's']), ('ς', ['σ']), (nonJoiner, []), (joiner, [])]

/-- The characters that are allowed in other domains, but not in host labels. Those of no domain may be among them. -/
def excludedText : String :=
  "4c0 88f-897 c5c cdc 10a0-10c5 115f-1160 17b4-17b5 1806 180e 1acf-1aeb 1b4e-1b4f 1b7f 1c89-1c8a 2061-2063 206a-206f
   20c1 2132 2183 2427-2429 2b96 3164 31e4-31e5 a7cb-a7cf a7d2 a7d4 a7da-a7f1 fbc3-fbd2 fd90-fd91 fdc8-fdce ffa0
   105c0-105f3 10940-10959 10d40-10d8f 10ec2-10efc 11380-113e2 116d0-116e3 11b60-11bf9 11db0-11de9 11f5a 13460-143fa
   16100-16139 16d40-16d79 16ea0-16ed3 16ff2-16ff6 187f8-187ff 18cff 18d09-18df2 1cc00-1cef0 1d173-1d17a 1e5d0-1e6ff
   1f6d8 1f777-1f77a 1f8b2-1f8d8 1fa54-1fa57 1fa89-1fa8f 1fabe 1fac6-1facd 1fadc-1fadf 1fae9-1faef 1fbcb-1fbef 1fbfa
   2b73a-2b73f 2cea2-2cead 2ebf0-2ee5d 2f868 2f874 2f91f 2f95f 2f9bf 323b0-33479"

/-- The runs of excluded characters. -/
def excluded : Spans Unit :=
  .ofList (Span.ofText () excludedText)

/-- Whether a character is an ASCII character other than a letter, a digit, a hyphen or a dot, or an order relation
that such a character is part of. -/
def isSymbol (c : Char) : Bool :=
  (c.toNat < 0x80 && !c.isAlphanum && c ≠ '-' && c ≠ '.') || c = '≠' || c = '≮' || c = '≯'

namespace Standing

/-- What becomes of a character that other domains map to a text. -/
def ofImage (c : Char) (text : List Char) : Standing :=
  if text = [c] then if isSymbol c then symbol else kept
  else if text.any isSymbol then symbolic text
  else mapped text

/-- What becomes of a character. -/
def of (c : Char) : Standing :=
  match deviations.lookup c with
  | some text => deviating text
  | none =>
    if c = 'ẞ' then mapped ['s', 's']
    else if 0x80 ≤ c.toNat && (excluded.value? c).isSome then disallowed
    else (map? c).elim disallowed (ofImage c)

/-- The text that a character gives way to outside Punycode. -/
def image (c : Char) : Standing → List Char
  | kept | symbol | disallowed => [c]
  | mapped text | deviating text | symbolic text => text

/-- The flaw that a character is. -/
def flaw? : Standing → Option Flaw
  | symbol => some .symbol
  | symbolic _ => some .symbolImage
  | disallowed => some .disallowed
  | _ => none

/-- Whether a character may stand in a label that has been mapped, or that comes from Punycode. -/
def stays (encoded : Bool) : Standing → Bool
  | kept => true
  | deviating _ => encoded
  | _ => false

end Standing

/-! ## Labels -/

/-- The flaws of a label that has been mapped, or that comes from Punycode. -/
def labelFlaws (encoded : Bool) (s : List Char) : List Flaw :=
  if s.head?.any isMark then [.leadingMark]
  else if s.all fun c => (Standing.of c).stays encoded then []
  else [.mapping]

/-- What has been read of a text. -/
structure Reading where
  /-- The characters of its labels; there are none in place of Punycode that cannot be read. -/
  labels : List (List Char)
  flaws : List Flaw

namespace Reading

/-- One more label. That of readable Punycode is looked at only if there is no flaw yet. -/
def add (r : Reading) (s : List Char) : Reading :=
  if acePrefix.isPrefixOf s then
    match if isAscii s then Punycode.decode? (s.drop acePrefix.length) else none with
    | none => ⟨r.labels ++ [[]], r.flaws ++ [.punycode]⟩
    | some chars =>
      let found :=
        if r.flaws ≠ [] then []
        else if Text.normalize chars ≠ chars then [.composition]
        else labelFlaws true chars
      ⟨r.labels ++ [chars], r.flaws ++ found⟩
  else ⟨r.labels ++ [s], r.flaws ++ labelFlaws false s⟩

/-- Whether the labels go together. Next to Punycode that cannot be read each has to run in one direction. -/
def keepsDirections (r : Reading) : Bool :=
  if r.flaws.contains .punycode then r.labels.all hasDirection else keepDirections r.labels

/-- The reading with the flaw that the labels do not go together, if they do not. -/
def close (r : Reading) : Reading :=
  if r.keepsDirections then r else { r with flaws := r.flaws ++ [.direction] }

end Reading

/-- What a text is read as. -/
def read (s : List Char) : Reading :=
  let mapped := Text.normalize (s.flatMap fun c => (Standing.of c).image c)
  ((mapped.splitOn '.').foldl Reading.add ⟨[], s.filterMap fun c => (Standing.of c).flaw?⟩).close

/-- The ASCII form of a label, or its flaws. -/
def toAscii (s : List Char) : Except (List Flaw) (List Char) :=
  let r := read s
  if r.flaws = [] then .ok (['.'].intercalate (r.labels.map asciiForm))
  else .error (Flaw.all.filter r.flaws.contains)

end SenderPolicy.Domain.Host

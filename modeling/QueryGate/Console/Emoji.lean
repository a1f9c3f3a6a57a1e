import QueryGate.Console.EmojiNames
import QueryGate.Text.Blank
import QueryGate.Text.CaseMap
/-! Names between colons become pictures. A name that is none stays as it is. -/

namespace QueryGate

/-- The picture of a name, in whichever case. -/
def emoji? (name : List Char) : Option (List Char) :=
  (emojiRows.lookup (String.ofList (lowerChars name))).map fun codes => codes.map Char.ofNat

/-- What may stand at the end of a name and chooses how the picture is drawn. -/
inductive EmojiVariant
  | plain
  | emoji
  | text
deriving DecidableEq, Repr

def EmojiVariant.suffix : EmojiVariant → List Char
  | .plain => []
  | .emoji => ['\ufe0f']
  | .text => ['\ufe0e']

/-- A name up to the next colon, without blanks in it, with its variant and the text after it. -/
def emojiName? : List Char → Option (List Char × EmojiVariant × List Char)
  | [] => none
  | c :: rest =>
    if "-emoji:".toList.isPrefixOf (c :: rest) then some ([], .emoji, (c :: rest).drop 7)
    else if "-text:".toList.isPrefixOf (c :: rest) then some ([], .text, (c :: rest).drop 6)
    else if c = ':' then some ([], .plain, rest)
    else if isBlank c then none
    else (emojiName? rest).map fun (name, variant, after) => (c :: name, variant, after)

/-- Replaces names from left to right; a name that is none is passed over with its colons. -/
def replaceEmoji : Nat → List Char → List Char
  | fuel + 1, ':' :: rest =>
    match emojiName? rest with
    | none => ':' :: replaceEmoji fuel rest
    | some (name, variant, after) =>
      let shown := match emoji? name with
        | some picture => picture ++ variant.suffix
        | none => ':' :: rest.take (rest.length - after.length)
      shown ++ replaceEmoji fuel after
  | fuel + 1, c :: rest => c :: replaceEmoji fuel rest
  | _, cs => cs

def withEmoji (cs : List Char) : List Char :=
  replaceEmoji cs.length cs

end QueryGate

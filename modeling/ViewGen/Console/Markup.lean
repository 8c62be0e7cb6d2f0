import ViewGen.Console.Emoji

/-!
# Markup

Printed text can hold tags in square brackets, which set the style of what follows. Without colours
only their balance matters: a closing tag must find the tag it closes. What the handler of a tag that
begins with an at sign says is not looked at.
-/

namespace ViewGen.Markup

def opensTag (c : Char) : Bool :=
  ('a' ≤ c && c ≤ 'z') || c = '#' || c = '/' || c = '@'

/-- The content of a tag after its opening bracket, and what follows the closing one. -/
def tagContent : List Char → Option (List Char × List Char)
  | [] => none
  | c :: rest =>
    if opensTag c then
      let more := rest.takeWhile fun d => d ≠ ']' && d ≠ '['
      match rest.drop more.length with
      | ']' :: after => some (c :: more, after)
      | _ => none
    else none

/-- The tag at the start of a text: the number of backslashes before it, its content and what
follows. -/
def tag? (s : List Char) : Option (Nat × List Char × List Char) :=
  let slashes := s.takeWhile (· = '\\')
  match s.drop slashes.length with
  | '[' :: rest =>
    (tagContent rest).map fun (content, after) => (slashes.length, content, after)
  | _ => none

inductive Piece where
  | text (content : List Char)
  | tag (content : List Char)
deriving DecidableEq, Repr

/-- A piece of text that has been collected in reverse, if there is any. -/
def collected (pending : List Char) : List Piece :=
  if pending.isEmpty then [] else [.text pending.reverse]

/-- A tag with backslashes before it: two stand for one, and a single one makes the tag plain text. -/
def tagPieces (slashes : Nat) (content : List Char) : List Piece :=
  (if slashes / 2 = 0 then [] else [.text (List.replicate (slashes / 2) '\\')]) ++
    [if slashes % 2 = 1 then .text ('[' :: content ++ [']']) else .tag content]

/-- Cuts a text at its tags. `fuel` bounds the number of characters. -/
def piecesFrom : Nat → List Char → List Char → List Piece
  | 0, pending, _ => collected pending
  | _, pending, [] => collected pending
  | fuel + 1, pending, c :: rest =>
    match tag? (c :: rest) with
    | some (slashes, content, after) =>
      collected pending ++ tagPieces slashes content ++ piecesFrom fuel [] after
    | none => piecesFrom fuel (c :: pending) rest

def pieces (s : List Char) : List Piece :=
  piecesFrom s.length [] s

/-- A backslash before a bracket that opens no tag is dropped. -/
def dropEscapes : List Char → List Char
  | [] => []
  | '\\' :: '[' :: rest => '[' :: dropEscapes rest
  | c :: rest => c :: dropEscapes rest

/-! ### Names of styles -/

/-- The attributes of a style by all their names, in the order in which a style lists them. -/
def attributeNames : List (String × List String) := [
  ("bold", ["bold", "b"]), ("dim", ["dim", "d"]), ("italic", ["italic", "i"]),
  ("underline", ["underline", "u"]), ("blink", ["blink"]), ("blink2", ["blink2"]),
  ("reverse", ["reverse", "r"]), ("conceal", ["conceal", "c"]), ("strike", ["strike", "s"]),
  ("underline2", ["underline2", "uu"]), ("frame", ["frame"]), ("encircle", ["encircle"]),
  ("overline", ["overline", "o"])]

/-- What the words of a style say, as far as they are known. -/
structure Style where
  attributes : List (String × Bool)
  color : Option String
  background : Option String

def attribute? (word : String) : Option String :=
  (attributeNames.find? fun (_, names) => names.contains word).map (·.1)

def colorNames : List String := [
  "default", "black", "red", "green", "yellow", "blue", "magenta", "cyan", "white", "bright_black",
  "bright_red", "bright_green", "bright_yellow", "bright_blue", "bright_magenta", "bright_cyan",
  "bright_white", "grey0", "gray0", "navy_blue", "dark_blue", "blue3", "blue1", "dark_green",
  "deep_sky_blue4", "dodger_blue3", "dodger_blue2", "green4", "spring_green4", "turquoise4",
  "deep_sky_blue3", "dodger_blue1", "green3", "spring_green3", "dark_cyan", "light_sea_green",
  "deep_sky_blue2", "deep_sky_blue1", "spring_green2", "cyan3", "dark_turquoise", "turquoise2",
  "green1", "spring_green1", "medium_spring_green", "cyan2", "cyan1", "dark_red", "deep_pink4",
  "purple4", "purple3", "blue_violet", "orange4", "grey37", "gray37", "medium_purple4",
  "slate_blue3", "royal_blue1", "chartreuse4", "dark_sea_green4", "pale_turquoise4", "steel_blue",
  "steel_blue3", "cornflower_blue", "chartreuse3", "cadet_blue", "sky_blue3", "steel_blue1",
  "pale_green3", "sea_green3", "aquamarine3", "medium_turquoise", "chartreuse2", "sea_green2",
  "sea_green1", "aquamarine1", "dark_slate_gray2", "dark_magenta", "dark_violet", "purple",
  "light_pink4", "plum4", "medium_purple3", "slate_blue1", "yellow4", "wheat4", "grey53", "gray53",
  "light_slate_grey", "light_slate_gray", "medium_purple", "light_slate_blue", "dark_olive_green3",
  "dark_sea_green", "light_sky_blue3", "sky_blue2", "dark_sea_green3", "dark_slate_gray3",
  "sky_blue1", "chartreuse1", "light_green", "pale_green1", "dark_slate_gray1", "red3",
  "medium_violet_red", "magenta3", "dark_orange3", "indian_red", "hot_pink3", "medium_orchid3",
  "medium_orchid", "medium_purple2", "dark_goldenrod", "light_salmon3", "rosy_brown", "grey63",
  "gray63", "medium_purple1", "gold3", "dark_khaki", "navajo_white3", "grey69", "gray69",
  "light_steel_blue3", "light_steel_blue", "yellow3", "dark_sea_green2", "light_cyan3",
  "light_sky_blue1", "green_yellow", "dark_olive_green2", "dark_sea_green1", "pale_turquoise1",
  "deep_pink3", "magenta2", "hot_pink2", "orchid", "medium_orchid1", "orange3", "light_pink3",
  "pink3", "plum3", "violet", "light_goldenrod3", "tan", "misty_rose3", "thistle3", "plum2",
  "khaki3", "light_goldenrod2", "light_yellow3", "grey84", "gray84", "light_steel_blue1", "yellow2",
  "dark_olive_green1", "honeydew2", "light_cyan1", "red1", "deep_pink2", "deep_pink1", "magenta1",
  "orange_red1", "indian_red1", "hot_pink", "dark_orange", "salmon1", "light_coral",
  "pale_violet_red1", "orchid2", "orchid1", "orange1", "sandy_brown", "light_salmon1",
  "light_pink1", "pink1", "plum1", "gold1", "navajo_white1", "misty_rose1", "thistle1", "yellow1",
  "light_goldenrod1", "khaki1", "wheat1", "cornsilk1", "grey100", "gray100", "grey3", "gray3",
  "grey7", "gray7", "grey11", "gray11", "grey15", "gray15", "grey19", "gray19", "grey23", "gray23",
  "grey27", "gray27", "grey30", "gray30", "grey35", "gray35", "grey39", "gray39", "grey42",
  "gray42", "grey46", "gray46", "grey50", "gray50", "grey54", "gray54", "grey58", "gray58",
  "grey62", "gray62", "grey66", "gray66", "grey70", "gray70", "grey74", "gray74", "grey78",
  "gray78", "grey82", "gray82", "grey85", "gray85", "grey89", "gray89", "grey93", "gray93"]

/-- A number of at most three digits that is no more than 255. -/
def isColorNumber (digits : List Char) : Bool :=
  !digits.isEmpty && digits.length ≤ 3 && digits.all Char.isDigit && Text.decimalValue digits ≤ 255

/-- A colour by its name, its number or its three parts. -/
def isColor (word : String) : Bool :=
  colorNames.contains word ||
    match word.toList with
    | '#' :: digits =>
      digits.length = 6 && digits.all fun c => c.isDigit || ('a' ≤ c && c ≤ 'f')
    | 'c' :: 'o' :: 'l' :: 'o' :: 'r' :: '(' :: rest =>
      rest.getLast? = some ')' && isColorNumber rest.dropLast
    | 'r' :: 'g' :: 'b' :: '(' :: rest =>
      let parts := Text.pieces ',' rest.dropLast
      rest.getLast? = some ')' && parts.length = 3 && parts.all isColorNumber
    | _ => false

/-- Reads the words of a style; nothing if one is not known. -/
def Style.ofWords (style : Style) : List String → Option Style
  | [] => some style
  | "on" :: word :: rest =>
    if isColor word then ofWords { style with background := some word } rest else none
  | "not" :: word :: rest =>
    match attribute? word with
    | some name => ofWords { style with attributes := (name, false) :: style.attributes } rest
    | none => none
  | word :: rest =>
    match attribute? word with
    | some name => ofWords { style with attributes := (name, true) :: style.attributes } rest
    | none => if isColor word then ofWords { style with color := some word } rest else none

/-- The words of a style in their order. -/
def Style.name (style : Style) : String :=
  let attributes := attributeNames.filterMap fun (name, _) =>
    (style.attributes.lookup name).map fun on => if on then name else "not " ++ name
  let background := style.background.map ("on " ++ ·)
  match attributes ++ style.color.toList ++ background.toList with
  | [] => "none"
  | words => " ".intercalate words

/-- The name by which tags of one style find each other. -/
def styleName (content : List Char) : String :=
  let lowered := String.ofList (content.map Char.toLower)
  match Style.ofWords ⟨[], none, none⟩ (Text.words lowered) with
  | some style => style.name
  | none => Text.strip lowered

/-! ### Plain text -/

/-- The text of pieces inside of open tags, the innermost first; nothing if a tag closes none. -/
def plainFrom : List String → List Piece → Option (List Char)
  | _, [] => some []
  | opened, .text content :: rest =>
    (plainFrom opened rest).map (Emoji.replace (dropEscapes content) ++ ·)
  | opened, .tag content :: rest =>
    match content.takeWhile (· ≠ '=') with
    | '/' :: name =>
      match Text.trimChars Text.isBlank name, opened with
      | [], [] => none
      | [], _ :: outer => plainFrom outer rest
      | name, opened =>
        if opened.contains (styleName name) then plainFrom (opened.erase (styleName name)) rest
        else none
    | name => plainFrom (styleName name :: opened) rest

/-- Control characters that are never printed. -/
def isSuppressed (c : Char) : Bool :=
  let n := c.toNat
  n = 7 || n = 8 || (11 ≤ n && n ≤ 13)

/-- The text without its tags; nothing if a tag closes none. -/
def plain? (markup : String) : Option (List Char) :=
  (plainFrom [] (pieces markup.toList)).map (·.filter (!isSuppressed ·))

/-! ### Escaping -/

/-- Puts backslashes before tags. `fuel` bounds the number of characters. -/
def escapeFrom : Nat → List Char → List Char
  | 0, _ => []
  | _, [] => []
  | fuel + 1, c :: rest =>
    match tag? (c :: rest) with
    | some (slashes, content, after) =>
      List.replicate (2 * slashes + 1) '\\' ++ '[' :: content ++ ']' :: escapeFrom fuel after
    | none => c :: escapeFrom fuel rest

/-- A text as markup without tags. A single backslash at its end is doubled, because a tag may
follow. -/
def escape (text : String) : String :=
  let s := escapeFrom text.length text.toList
  match s.reverse with
  | '\\' :: '\\' :: _ => String.ofList s
  | '\\' :: _ => String.ofList (s ++ ['\\'])
  | _ => String.ofList s

end ViewGen.Markup

import Mathlib.Data.Bool.AllAny
import ViewGen.Proofs.Attributes
import ViewGen.Schema.Declaration

/-!
# Lines with attributes

A field's line holds its name, its type and its attributes, with blanks between them.  It is cut into words
at every blank, in an argument too, and an attribute is looked for among these words.  So an attribute is
read as it stands there unless another one's name begins like its own, an argument holds a word that looks
like it, or its own argument holds blanks that are no single spaces or parentheses that are not balanced,
be it in a string.
-/

namespace ViewGen

/-! ## Lines -/

namespace Text

/-- Whether a text is an identifier: a word with letters, digits and underscores as its only characters of
ASCII. -/
def IsIdentifier (s : List Char) : Prop :=
  IsWord s ∧ ∀ c ∈ s, c.toNat < 128 → c.isAlphanum = true ∨ c = '_'

instance (s : List Char) : Decidable (IsIdentifier s) :=
  have : Decidable (∀ c ∈ s, c.toNat < 128 → c.isAlphanum = true ∨ c = '_') := List.decidableBAll _ s
  inferInstanceAs (Decidable (_ ∧ _))

theorem IsIdentifier.not_mem {s : List Char} {c : Char} (h : IsIdentifier s)
    (hc : c.toNat < 128 ∧ c.isAlphanum = false ∧ c ≠ '_') : c ∉ s := by
  intro hmem
  obtain hletter | hscore := h.2 c hmem hc.1
  · rw [hc.2.1] at hletter
    cases hletter
  · exact hc.2.2 hscore

/-- What stands between two parts of a line. -/
structure Gap where
  text : String
  ne_nil : text.toList ≠ []
  blank : ∀ c ∈ text.toList, isBlank c = true

/-- The gap of one space. -/
def Gap.space : Gap where
  text := " "
  ne_nil := by decide
  blank := List.all_iff_forall_prop.mp (by decide)

/-- A gap ends the word before it. -/
theorem Gap.wordsFrom (gap : Gap) (w s t : List Char) :
    wordsFrom w (s ++ (gap.text.toList ++ t)) = Text.wordsFrom w s ++ Text.wordsFrom [] t := by
  obtain ⟨c, rest, hgap⟩ := List.exists_cons_of_ne_nil gap.ne_nil
  have hblank := gap.blank
  rw [hgap, List.forall_mem_cons] at hblank
  rw [hgap, List.cons_append, wordsFrom_append_cons hblank.1, wordsFrom_blanks hblank.2]

end Text

/-- An attribute as a line holds it: its name, and what stands between its parentheses if it has any. -/
structure FieldAttribute where
  name : String
  argument : Option String
  name_isIdentifier : Text.IsIdentifier name.toList
deriving DecidableEq

namespace FieldAttribute

def text (a : FieldAttribute) : String :=
  match a.argument with
  | none => "@" ++ a.name
  | some t => "@" ++ a.name ++ "(" ++ t ++ ")"

def words (a : FieldAttribute) : List String :=
  Text.words a.text

/-- The words of an attribute after its first one.  They come from its argument. -/
def innerWords (a : FieldAttribute) : List String :=
  a.words.tail

end FieldAttribute

namespace FieldAttribute

variable {a : FieldAttribute} {t : String}

theorem toList_text_of_none (h : a.argument = none) : a.text.toList = '@' :: a.name.toList := by
  simp [text, h]

theorem toList_text_of_some (h : a.argument = some t) :
    a.text.toList = ('@' :: (a.name.toList ++ ['('])) ++ (t.toList ++ [')']) := by
  simp [text, h]

theorem not_blank_name (a : FieldAttribute) : ∀ c ∈ '@' :: a.name.toList, Text.isBlank c = false :=
  List.forall_mem_cons.mpr ⟨by decide, a.name_isIdentifier.1.2⟩

theorem not_blank_open (a : FieldAttribute) :
    ∀ c ∈ '@' :: (a.name.toList ++ ['(']), Text.isBlank c = false := by
  rw [← List.cons_append, List.forall_mem_append]
  exact ⟨a.not_blank_name, List.forall_mem_singleton.mpr (by decide)⟩

theorem wordsFrom_text_of_none (h : a.argument = none) :
    Text.wordsFrom [] a.text.toList = ['@' :: a.name.toList] := by
  have hword : Text.IsWord ('@' :: a.name.toList) := ⟨List.cons_ne_nil _ _, a.not_blank_name⟩
  rw [toList_text_of_none h, hword.wordsFrom]

/-- The words of an attribute, the first of which is its name with the beginning of its argument. -/
theorem words_eq (a : FieldAttribute) :
    ∃ start, a.words = String.ofList ('@' :: (a.name.toList ++ start)) :: a.innerWords ∧
      (a.argument = none → start = [] ∧ a.innerWords = []) ∧
      ∀ t, a.argument = some t → (∃ rest, start = '(' :: rest) ∧
        ∀ word ∈ a.innerWords, ∀ c ∈ word.toList, c ∈ t.toList ∨ c = ')' := by
  cases hargument : a.argument with
  | none =>
    have hwords : a.words = [String.ofList ('@' :: a.name.toList)] := by
      rw [words, Text.words, wordsFrom_text_of_none hargument, List.map_singleton]
    refine ⟨[], ?_, fun _ => ⟨rfl, ?_⟩, fun t ht => absurd ht (Option.some_ne_none t).symm⟩
    · rw [innerWords, hwords, List.append_nil]
      rfl
    · rw [innerWords, hwords]
      rfl
  | some t =>
    -- The name holds no blank, so the first word goes on at least to the opening parenthesis.
    obtain ⟨first, others, he, hchars⟩ := Text.wordsFrom_cons
      (w := ('@' :: (a.name.toList ++ ['('])).reverse) (by simp) (t.toList ++ [')'])
    have hwords : a.words =
        String.ofList ('@' :: (a.name.toList ++ '(' :: first)) :: others.map String.ofList := by
      rw [words, Text.words, toList_text_of_some hargument,
        Text.wordsFrom_append_left a.not_blank_open, List.append_nil, he]
      simp
    refine ⟨'(' :: first, ?_, fun ht => absurd ht (Option.some_ne_none t), ?_⟩
    · rw [innerWords, hwords]
      rfl
    intro t' ht'
    obtain rfl := Option.some.inj ht'
    refine ⟨⟨first, rfl⟩, ?_⟩
    rw [innerWords, hwords]
    intro word hword c hc
    obtain ⟨chars, hmem, rfl⟩ := List.mem_map.mp hword
    rw [String.toList_ofList] at hc
    have hin := hchars chars (List.mem_cons_of_mem _ hmem) c hc
    rwa [List.mem_append, List.mem_singleton] at hin

end FieldAttribute

/-! ## Arguments joined again -/

namespace Attribute

/-- Blanks are no parentheses, so they can be made single spaces. -/
theorem closes_collapseFrom {depth : Nat} {within : Bool} {s : List Char} :
    Closes depth (Text.collapseFrom within s) ↔ Closes depth s := by
  induction s generalizing depth within with
  | nil => rfl
  | cons c rest ih =>
    rw [Text.collapseFrom]
    by_cases hc : Text.isBlank c = true
    · have hopen : c ≠ '(' := by
        rintro rfl
        exact absurd hc (by decide)
      have hclose : c ≠ ')' := by
        rintro rfl
        exact absurd hc (by decide)
      rw [if_pos hc, closes_cons_of_ne hopen hclose]
      split
      · exact ih
      · rw [closes_cons_of_ne (by decide) (by decide)]
        exact ih
    · rw [if_neg hc]
      by_cases hopen : c = '('
      · subst hopen
        rw [closes_cons_open, closes_cons_open]
        exact ih
      by_cases hclose : c = ')'
      · subst hclose
        cases depth with
        | zero => exact iff_of_false not_closes_zero not_closes_zero
        | succ depth =>
          rw [closes_cons_close, closes_cons_close]
          exact ih
      rw [closes_cons_of_ne hopen hclose, closes_cons_of_ne hopen hclose]
      exact ih

theorem balanced_collapse {s : List Char} : Balanced (Text.collapse s) ↔ Balanced s := by
  rw [← closes_zero_iff, ← closes_zero_iff]
  exact closes_collapseFrom

theorem parenthesized_eq_none {s : List Char} (h : s.head? ≠ some '(') : parenthesized s = none := by
  unfold parenthesized
  split
  · exact absurd rfl h
  · rfl

end Attribute

/-- A text with one space for each run of blanks in it. -/
def Text.collapsed (s : String) : String :=
  String.ofList (collapse s.toList)

namespace FieldAttribute

open Attribute (argument? parenthesized Balanced)

variable {a : FieldAttribute} {key t : String}

/-- The argument with its parentheses, as the words of an attribute hold it. -/
def joinedArgument (a : FieldAttribute) : List Char :=
  match a.argument with
  | none => []
  | some t => '(' :: (Text.collapse t.toList ++ [')'])

theorem joined_words (a : FieldAttribute) (later : List String) :
    ∃ tail : List Char, tail.head? ≠ some '(' ∧
      [' '].intercalate ((a.words ++ later).map String.toList) =
        '@' :: a.name.toList ++ (a.joinedArgument ++ tail) := by
  have hid : String.toList ∘ String.ofList = id := funext fun s => String.toList_ofList
  have hmap : a.words.map String.toList = Text.wordsFrom [] a.text.toList := by
    rw [words, Text.words, List.map_map, hid, List.map_id]
  have hown : [' '].intercalate (a.words.map String.toList) =
      '@' :: a.name.toList ++ a.joinedArgument := by
    rw [hmap, joinedArgument]
    cases hargument : a.argument with
    | none =>
      rw [wordsFrom_text_of_none hargument, List.intercalate_singleton]
      exact (List.append_nil _).symm
    | some t =>
      rw [toList_text_of_some hargument, Text.wordsFrom_append_left a.not_blank_open,
        Text.intercalate_wordsFrom (by decide)]
      simp [Text.collapse]
  obtain ⟨start, hwords, -⟩ := a.words_eq
  have hne : a.words.map String.toList ≠ [] := by
    rw [hwords]
    simp
  -- Later words begin after a space, so they add no parenthesis to the name.
  rw [List.map_append]
  by_cases hlater : later = []
  · refine ⟨[], by simp, ?_⟩
    rw [hlater, List.map_nil, List.append_nil, List.append_nil, hown]
  · have hmore : later.map String.toList ≠ [] := by simpa using hlater
    refine ⟨' ' :: [' '].intercalate (later.map String.toList), by simp, ?_⟩
    rw [Text.intercalate_append hne hmore, hown, List.append_assoc]

/-- The words from those of an attribute on are read for a name that its own begins with. -/
theorem argument?_words (hstart : key.toList <+: a.name.toList) (later : List String) :
    ∃ rest tail : List Char, a.name.toList = key.toList ++ rest ∧ tail.head? ≠ some '(' ∧
      argument? ("@" ++ key) (a.words ++ later) =
        (parenthesized (rest ++ (a.joinedArgument ++ tail))).map String.ofList := by
  obtain ⟨rest, hrest⟩ := hstart
  obtain ⟨tail, htail, hjoined⟩ := a.joined_words later
  obtain ⟨start, hwords, -⟩ := a.words_eq
  refine ⟨rest, tail, hrest.symm, htail, ?_⟩
  rw [hwords, List.cons_append] at hjoined ⊢
  apply Attribute.argument?_of_joined
  · rw [String.toList_ofList, ← hrest]
    simp
  · rw [hjoined, ← hrest]
    simp

theorem argument?_of_ne (hstart : key.toList <+: a.name.toList) (hne : a.name ≠ key)
    (later : List String) : argument? ("@" ++ key) (a.words ++ later) = none := by
  obtain ⟨rest, tail, hname, -, hread⟩ := argument?_words hstart later
  cases rest with
  | nil =>
    rw [List.append_nil] at hname
    exact absurd (String.toList_inj.mp hname) hne
  | cons c others =>
    -- The name goes on, so no parenthesis follows what it begins with.
    have hc : c ≠ '(' := by
      rintro rfl
      have hmem : '(' ∈ a.name.toList := by simp [hname]
      exact a.name_isIdentifier.not_mem (by decide) hmem
    have hhead : (c :: others ++ (a.joinedArgument ++ tail)).head? ≠ some '(' := by simpa using hc
    rw [hread, Attribute.parenthesized_eq_none hhead, Option.map_none]

theorem prefix_of_name (hname : a.name = key) : key.toList <+: a.name.toList := by
  rw [hname]

theorem argument?_of_none (hname : a.name = key) (hnone : a.argument = none) (later : List String) :
    argument? ("@" ++ key) (a.words ++ later) = none := by
  obtain ⟨rest, tail, hrest, htail, hread⟩ := argument?_words (prefix_of_name hname) later
  have hnil : rest = [] := by
    rw [hname] at hrest
    simpa using hrest
  have hhead : (rest ++ (a.joinedArgument ++ tail)).head? ≠ some '(' := by
    rw [hnil, joinedArgument, hnone]
    exact htail
  rw [hread, Attribute.parenthesized_eq_none hhead, Option.map_none]

/-- A balanced argument is read with single spaces in it. -/
theorem argument?_of_balanced (hname : a.name = key) (hsome : a.argument = some t)
    (hbalanced : Balanced t.toList) (later : List String) :
    argument? ("@" ++ key) (a.words ++ later) = some (Text.collapsed t) := by
  obtain ⟨rest, tail, hrest, -, hread⟩ := argument?_words (prefix_of_name hname) later
  have hnil : rest = [] := by
    rw [hname] at hrest
    simpa using hrest
  have hparenthesized : parenthesized (rest ++ (a.joinedArgument ++ tail)) =
      some (Text.collapse t.toList) := by
    rw [Attribute.parenthesized_eq_some_iff]
    refine ⟨Attribute.balanced_collapse.mpr hbalanced, tail, ?_⟩
    rw [hnil, joinedArgument, hsome]
    simp
  rw [hread, hparenthesized]
  rfl

/-- Only a balanced argument with single spaces is read as it is written. -/
theorem argument?_eq_some_iff (hname : a.name = key) (hsome : a.argument = some t)
    (later : List String) : argument? ("@" ++ key) (a.words ++ later) = some t ↔
      Balanced t.toList ∧ Text.collapse t.toList = t.toList := by
  constructor
  · intro h
    -- Whatever is read is balanced.
    have hbalanced : Balanced t.toList := by
      obtain ⟨rest, tail, -, -, hread⟩ := argument?_words (prefix_of_name hname) later
      obtain ⟨r, hr, rfl⟩ := Option.map_eq_some_iff.mp (hread.symm.trans h)
      rw [String.toList_ofList]
      exact (Attribute.parenthesized_eq_some_iff.mp hr).1
    rw [argument?_of_balanced hname hsome hbalanced, Option.some.injEq] at h
    refine ⟨hbalanced, ?_⟩
    rw [← String.toList_ofList (l := Text.collapse t.toList)]
    exact congrArg String.toList h
  · rintro ⟨hbalanced, hsame⟩
    rw [argument?_of_balanced hname hsome hbalanced, Text.collapsed, hsame, String.ofList_toList]

end FieldAttribute

/-- A line that declares a field: its name, its type and any number of attributes. -/
structure FieldLine where
  name : String
  gap : Text.Gap
  typeWord : String
  parts : List (Text.Gap × FieldAttribute)
  name_isWord : Text.IsWord name.toList
  typeWord_isWord : Text.IsWord typeWord.toList

namespace FieldLine

def attributes (line : FieldLine) : List FieldAttribute :=
  line.parts.map (·.2)

def text (line : FieldLine) : String :=
  line.name ++ (line.gap.text ++
    (line.typeWord ++ String.join (line.parts.map fun part => part.1.text ++ part.2.text)))

theorem wordsFrom_parts (w s : List Char) (parts : List (Text.Gap × FieldAttribute)) :
    Text.wordsFrom w (s ++ parts.flatMap fun part => part.1.text.toList ++ part.2.text.toList) =
      Text.wordsFrom w s ++ parts.flatMap fun part => Text.wordsFrom [] part.2.text.toList := by
  induction parts generalizing w s with
  | nil => simp
  | cons part rest ih =>
    rw [List.flatMap_cons, List.flatMap_cons, List.append_assoc, Text.Gap.wordsFrom, ih]

theorem words_text (line : FieldLine) :
    Text.words line.text = line.name :: line.typeWord :: line.attributes.flatMap (·.words) := by
  have hparts : (String.join (line.parts.map fun part => part.1.text ++ part.2.text)).toList =
      line.parts.flatMap fun part => part.1.text.toList ++ part.2.text.toList := by
    simp only [String.toList_join, List.flatMap_map, String.toList_append]
  unfold Text.words text
  rw [String.toList_append, String.toList_append, String.toList_append, hparts, Text.Gap.wordsFrom,
    wordsFrom_parts, line.name_isWord.wordsFrom, line.typeWord_isWord.wordsFrom]
  simp only [List.map_append, List.map_cons, List.map_nil, String.ofList_toList, List.map_flatMap,
    attributes, List.flatMap_map]
  rfl

theorem parse_text (line : FieldLine) (n : Option Int) : Field.parse line.text n =
    .ok (Declaration.field line.name line.typeWord (line.attributes.flatMap (·.words))) := by
  unfold Field.parse
  rw [words_text]

end FieldLine

/-! ## The first attribute -/

namespace FieldAttribute

variable {a : FieldAttribute} {key : String}

/-- What is read of an attribute with a balanced argument. -/
def read? (a : FieldAttribute) (key : String) : Option String :=
  if a.name = key then a.argument.map Text.collapsed else none

/-- Whether the argument, if there is one, closes every parenthesis that it opens, in strings too. -/
def Closed (a : FieldAttribute) : Prop :=
  ∀ t ∈ a.argument, Attribute.Balanced t.toList

theorem argument?_of_closed (h : a.Closed) (hstart : key.toList <+: a.name.toList)
    (later : List String) : Attribute.argument? ("@" ++ key) (a.words ++ later) = a.read? key := by
  unfold read?
  by_cases hname : a.name = key
  · rw [if_pos hname]
    cases hargument : a.argument with
    | none => exact argument?_of_none hname hargument later
    | some t => exact argument?_of_balanced hname hargument (h t hargument) later
  · rw [if_neg hname]
    exact argument?_of_ne hstart hname later

/-- The first word of an attribute begins like the key exactly where its name does. -/
theorem prefix_word_iff (hkey : '(' ∉ key.toList) {start : List Char}
    (hstart : start.head? ∈ [none, some '(']) :
    ("@" ++ key).toList <+: '@' :: (a.name.toList ++ start) ↔ key.toList <+: a.name.toList := by
  have hat : ("@" ++ key).toList = '@' :: key.toList := String.toList_append
  rw [hat, List.cons_prefix_cons, and_iff_right rfl]
  constructor
  · intro h
    cases start with
    | nil => rwa [List.append_nil] at h
    | cons c rest =>
      obtain rfl : c = '(' := by simpa using hstart
      exact Text.prefix_of_prefix_append_cons hkey h
  · intro h
    exact h.trans (List.prefix_append _ _)

/-- The words of an attribute do not begin like the key if neither its name nor a word of its argument
does. -/
theorem not_prefix_words (hkey : '(' ∉ key.toList) (hname : ¬ key.toList <+: a.name.toList)
    (hinner : ∀ word ∈ a.innerWords, ¬ ("@" ++ key).toList <+: word.toList) :
    ∀ word ∈ a.words, ¬ ("@" ++ key).toList <+: word.toList := by
  obtain ⟨start, hwords, hnone, hsome⟩ := a.words_eq
  have hstart : start.head? ∈ [none, some '('] := by
    cases hargument : a.argument with
    | none => simp [(hnone hargument).1]
    | some t =>
      obtain ⟨⟨rest, rfl⟩, -⟩ := hsome t hargument
      simp
  rw [hwords, List.forall_mem_cons]
  refine ⟨?_, hinner⟩
  rw [String.toList_ofList, prefix_word_iff hkey hstart]
  exact hname

end FieldAttribute

namespace FieldLine

variable {line : FieldLine} {key : String}

/-- The first attribute whose name begins like the key. -/
def first? (line : FieldLine) (key : String) : Option FieldAttribute :=
  line.attributes.find? (key.toList <+: ·.name.toList)

/-- The attributes before that one. -/
def earlier (line : FieldLine) (key : String) : List FieldAttribute :=
  line.attributes.takeWhile (¬ key.toList <+: ·.name.toList)

/-- Whether none of them has an argument with a word in it that begins like the attribute looked for. -/
def KeepsOut (line : FieldLine) (key : String) : Prop :=
  ∀ a ∈ line.earlier key, ∀ word ∈ a.innerWords, ¬ ("@" ++ key).toList <+: word.toList

/-- The argument of the first attribute of exactly that name. -/
def argumentOf (line : FieldLine) (key : String) : Option String :=
  (line.attributes.find? (·.name == key)).bind (·.argument)

/-- What a value that is read for a key has to do with the attributes of the line. -/
structure Reads (line : FieldLine) (key : String) (value : Option String) : Prop where
  /-- Only the first attribute whose name begins like the key is read, if its argument is balanced. -/
  read : (∀ a ∈ line.first? key, a.Closed) → value = (line.first? key).bind (·.read? key)
  /-- The value is the argument of the attribute named so exactly if that attribute is the first one and
  its argument is balanced and has single spaces only, or if there is no such argument. -/
  exact : value = line.argumentOf key ↔ ∀ a ∈ line.first? key,
    if a.name = key then
      ∀ t ∈ a.argument, Attribute.Balanced t.toList ∧ Text.collapse t.toList = t.toList
    else line.argumentOf key = none

theorem not_prefix_of_first?_none (hfirst : line.first? key = none) :
    ∀ a ∈ line.attributes, ¬ key.toList <+: a.name.toList := by
  simpa [first?] using hfirst

theorem argument?_of_first?_none (hkey : '(' ∉ key.toList) (hkeep : line.KeepsOut key)
    (hfirst : line.first? key = none) :
    Attribute.argument? ("@" ++ key) (line.attributes.flatMap (·.words)) = none := by
  have hname := not_prefix_of_first?_none hfirst
  have hearlier : line.earlier key = line.attributes :=
    List.takeWhile_eq_self_iff.mpr (by simpa using hname)
  rw [KeepsOut, hearlier] at hkeep
  apply Attribute.argument?_eq_none
  intro word hword
  obtain ⟨a, ha, hmem⟩ := List.mem_flatMap.mp hword
  exact FieldAttribute.not_prefix_words hkey (hname a ha) (hkeep a ha) word hmem

/-- The words are read from those of the first attribute whose name begins like the key. -/
theorem argument?_of_first?_some {a : FieldAttribute} (hkey : '(' ∉ key.toList)
    (hkeep : line.KeepsOut key) (hfirst : line.first? key = some a) :
    ∃ later, Attribute.argument? ("@" ++ key) (line.attributes.flatMap (·.words)) =
      Attribute.argument? ("@" ++ key) (a.words ++ later) := by
  rw [first?, List.find?_eq_head?_dropWhile_not, List.head?_eq_some_iff] at hfirst
  obtain ⟨others, hothers⟩ := hfirst
  have hsplit : line.attributes = line.earlier key ++ a :: others := by
    rw [← hothers, earlier]
    simp only [decide_not, List.takeWhile_append_dropWhile]
  refine ⟨others.flatMap (·.words), ?_⟩
  rw [hsplit, List.flatMap_append, List.flatMap_cons]
  -- No word before these begins like the key: no name does, and the arguments keep it out.
  apply Attribute.argument?_append
  intro word hword
  obtain ⟨b, hb, hmem⟩ := List.mem_flatMap.mp hword
  have hname : ¬ key.toList <+: b.name.toList := by
    have hnot := List.mem_takeWhile_imp hb
    simpa using hnot
  exact FieldAttribute.not_prefix_words hkey hname (hkeep b hb) word hmem

/-- The first attribute of exactly that name is the first one whose name begins so, if that one is named
so. -/
theorem argumentOf_of_first? {a : FieldAttribute} (hfirst : line.first? key = some a)
    (hname : a.name = key) : line.argumentOf key = a.argument := by
  obtain ⟨-, before, later, hsplit, hbefore⟩ := List.find?_eq_some_iff_append.mp hfirst
  have hfind : line.attributes.find? (·.name == key) = some a := by
    refine List.find?_eq_some_iff_append.mpr ⟨by simpa using hname, before, later, hsplit, ?_⟩
    intro b hb
    have hnot := hbefore b hb
    have hne : b.name ≠ key := by
      rintro rfl
      simp at hnot
    simpa using hne
  rw [argumentOf, hfind, Option.bind_some]

theorem argumentOf_of_first?_none (hfirst : line.first? key = none) :
    line.argumentOf key = none := by
  have hfind : line.attributes.find? (·.name == key) = none := by
    rw [List.find?_eq_none]
    intro a ha heq
    rw [beq_iff_eq] at heq
    exact not_prefix_of_first?_none hfirst a ha (by rw [heq])
  rw [argumentOf, hfind, Option.bind_none]

/-- What is read for a key. -/
theorem reads_argument? (hkey : '(' ∉ key.toList) (hkeep : line.KeepsOut key) :
    line.Reads key (Attribute.argument? ("@" ++ key) (line.attributes.flatMap (·.words))) := by
  cases hfirst : line.first? key with
  | none =>
    rw [argument?_of_first?_none hkey hkeep hfirst]
    refine ⟨fun _ => by rw [hfirst, Option.bind_none], ?_⟩
    rw [argumentOf_of_first?_none hfirst, hfirst]
    exact iff_of_true rfl nofun
  | some a =>
    -- The first attribute that begins with the key decides, though its name may be longer.
    obtain ⟨later, hread⟩ := argument?_of_first?_some hkey hkeep hfirst
    have hstart : key.toList <+: a.name.toList := by
      have hfound := List.find?_some hfirst
      simpa using hfound
    rw [hread]
    refine ⟨fun hclosed => ?_, ?_⟩
    · rw [hfirst, Option.bind_some]
      exact FieldAttribute.argument?_of_closed (hclosed a hfirst) hstart later
    rw [hfirst]
    simp only [Option.mem_def, Option.some.injEq, forall_eq']
    by_cases hname : a.name = key
    · rw [if_pos hname, argumentOf_of_first? hfirst hname]
      cases hargument : a.argument with
      | none =>
        rw [FieldAttribute.argument?_of_none hname hargument]
        exact iff_of_true rfl nofun
      | some t =>
        rw [FieldAttribute.argument?_eq_some_iff hname hargument]
        simp only [Option.some.injEq, forall_eq']
    · rw [if_neg hname, FieldAttribute.argument?_of_ne hstart hname]
      exact eq_comm

/-! ## The attributes of a line -/

/-- A word is the marker of a field without equals exactly if it is an attribute of that name without an
argument, or stands in an argument. -/
theorem contains_unique_iff (line : FieldLine) :
    (line.attributes.flatMap (·.words)).contains "@unique" = true ↔ ∃ a ∈ line.attributes,
      (a.name = "unique" ∧ a.argument = none) ∨ "@unique" ∈ a.innerWords := by
  rw [List.contains_iff_mem, List.mem_flatMap]
  refine exists_congr fun a => and_congr_right fun _ => ?_
  obtain ⟨start, hwords, hnone, hsome⟩ := a.words_eq
  rw [hwords, List.mem_cons]
  refine or_congr_left ?_
  have hat : "@unique" = String.ofList ('@' :: "unique".toList) := by decide
  rw [hat, String.ofList_inj, List.cons.injEq, and_iff_right rfl]
  cases hargument : a.argument with
  | none =>
    rw [(hnone hargument).1, List.append_nil, String.toList_inj, and_iff_left rfl]
    exact eq_comm
  | some t =>
    obtain ⟨⟨rest, rfl⟩, -⟩ := hsome t hargument
    refine iff_of_false ?_ (fun h => nomatch h.2)
    intro h
    have hmem : '(' ∈ "unique".toList := by
      rw [h]
      simp
    exact absurd hmem (by decide)

/-- Every line of a name, a type and attributes declares a field.  Its default is the argument of the
attribute of that name, and its relation is made of such an argument, unless something else on the line
is taken for the attribute or the argument is not read as it stands. -/
theorem parse_attributes (line : FieldLine) (n : Option Int) :
    ∃ field argument, Field.parse line.text n = .ok field ∧
      field.relation = argument.map (Declaration.relation line.typeWord field.isList) ∧
      (field.isUnique = true ↔ ∃ a ∈ line.attributes,
        (a.name = "unique" ∧ a.argument = none) ∨ "@unique" ∈ a.innerWords) ∧
      (line.KeepsOut "default" → line.Reads "default" field.defaultText) ∧
      (line.KeepsOut "relation" → line.Reads "relation" argument) := by
  refine ⟨_, _, line.parse_text n, rfl, line.contains_unique_iff, ?_, ?_⟩
  · intro hkeep
    exact reads_argument? (by decide) hkeep
  · intro hkeep
    exact reads_argument? (by decide) hkeep

/-- The line of a field whose attributes hide each other. -/
def shadowed : FieldLine where
  name := "x"
  gap := .space
  typeWord := "Int"
  parts := [
    (.space, ⟨"unique", some "sort: Desc", by decide⟩),
    (.space, ⟨"defaulted", none, by decide⟩),
    (.space, ⟨"default", some "1", by decide⟩)]
  name_isWord := by decide
  typeWord_isWord := by decide

/-- A marker with an argument is no marker, and an attribute whose name begins like that of a later one
stands in its way. -/
theorem parse_attributes_shadowed : shadowed.text = "x Int @unique(sort: Desc) @defaulted @default(1)" ∧
    shadowed.argumentOf "default" = some "1" ∧
    ∃ field, Field.parse shadowed.text none = .ok field ∧ field.isUnique = false ∧
      field.defaultText = none := by
  refine ⟨by decide, by decide, ?_⟩
  obtain ⟨field, -, hparse, -, hunique, hdefault, -⟩ := shadowed.parse_attributes none
  refine ⟨field, hparse, ?_, ?_⟩
  · rw [← Bool.not_eq_true, hunique]
    decide
  · have hkeep : shadowed.KeepsOut "default" := by
      unfold KeepsOut
      decide
    have hfirst : shadowed.first? "default" = some ⟨"defaulted", none, by decide⟩ := by decide
    rw [(hdefault hkeep).read, hfirst]
    · rfl
    · rw [hfirst]
      intro a ha
      obtain rfl := Option.some.inj ha
      exact nofun

end FieldLine

end ViewGen

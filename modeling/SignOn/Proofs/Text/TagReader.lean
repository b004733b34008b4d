import SignOn.Proofs.Text.MarkupLaws

/-!
# The tags of a text

A reader of markup goes through a text once. It is at one `Place` after the other, and comes upon a
tag where one ends. Text without a left bracket leads it past no tag (`read_text`), and a value stays
one value up to its quotation mark (`read_quoted`), so that an escaped text keeps the reader where
it is.
-/

namespace SignOn.Text.Markup

structure Tag where
  /-- Whether the tag ends an element. -/
  closing : Bool := false
  name : String
  /-- The attributes in order; one without a value has the empty value. -/
  attributes : List (String × String) := []
  deriving DecidableEq, Repr

/-- Where a reader is: between tags, or in a tag with what it has read of it. -/
inductive Place where
  | text
  /-- Behind a left bracket. -/
  | bracket
  /-- In a declaration or a comment, up to a right bracket. -/
  | declaration
  | tagName (closing : Bool) (name : List Char)
  /-- Before the next attribute of a tag, or its end. -/
  | inside (tag : Tag)
  | attributeName (tag : Tag) (name : List Char)
  /-- Behind an equals sign. -/
  | beforeValue (tag : Tag) (name : List Char)
  | quoted (tag : Tag) (name value : List Char) (mark : Char)
  | bare (tag : Tag) (name value : List Char)
  deriving DecidableEq, Repr

/-- What ends a name in a tag: a space, a line end, or the slash of an element without contents. -/
def isGap (c : Char) : Bool :=
  c == ' ' || c == '\n' || c == '\t' || c == '/'

def Tag.shape (tag : Tag) : Bool × String × List String :=
  (tag.closing, tag.name, tag.attributes.map Prod.fst)

/-- A tag with one more attribute. References in a value are read. -/
def Tag.put (tag : Tag) (name value : List Char) : Tag :=
  { tag with
    attributes := tag.attributes ++ [(String.ofList name, String.ofList (unescapeChars value))] }

namespace Place

def next (c : Char) : Place → Place
  | text => if c = '<' then bracket else text
  | bracket =>
    if c = '!' then declaration
    else if c = '/' then tagName true []
    else if c.isAlpha then tagName false [c]
    else if c = '<' then bracket
    else text
  | declaration => if c = '>' then text else declaration
  | tagName closing s =>
    if c = '>' then text
    else if isGap c then inside { closing, name := String.ofList s }
    else tagName closing (s ++ [c])
  | inside tag =>
    if c = '>' then text else if isGap c then inside tag else attributeName tag [c]
  | attributeName tag s =>
    if c = '>' then text
    else if c = '=' then beforeValue tag s
    else if isGap c then inside (tag.put s [])
    else attributeName tag (s ++ [c])
  | beforeValue tag s =>
    if c = '>' then text
    else if c = '"' || c = '\'' then quoted tag s [] c
    else if isGap c then beforeValue tag s
    else bare tag s [c]
  | quoted tag s v mark => if c = mark then inside (tag.put s v) else quoted tag s (v ++ [c]) mark
  | bare tag s v =>
    if c = '>' then text else if isGap c then inside (tag.put s v) else bare tag s (v ++ [c])

def tag? (c : Char) (place : Place) : Option Tag :=
  if c = '>' then
    match place with
    | tagName closing s => some { closing, name := String.ofList s }
    | inside tag => some tag
    | attributeName tag s | beforeValue tag s => some (tag.put s [])
    | bare tag s v => some (tag.put s v)
    | text | bracket | declaration | quoted .. => none
  else none

end Place

def read (place : Place) : List Char → List Tag
  | [] => []
  | c :: rest => (place.tag? c).toList ++ read (place.next c) rest

def behind (place : Place) (s : List Char) : Place :=
  s.foldl (fun place c => place.next c) place

def tagsOf (s : String) : List Tag :=
  read .text s.toList

example : tagsOf "1 < 2 <!-- no --><a href='?x&amp;y' rel=up>x</a><br/>" =
    [{ name := "a", attributes := [("href", "?x&y"), ("rel", "up")] },
      { closing := true, name := "a" }, { name := "br" }] := by decide +kernel

section
variable {tag : Tag} {name value s rest : List Char} {mark : Char}

theorem read_append (place : Place) (s rest : List Char) :
    read place (s ++ rest) = read place s ++ read (behind place s) rest := by
  induction s generalizing place with
  | nil => rfl
  | cons c s ih =>
    have hbehind : behind place (c :: s) = behind (place.next c) s := rfl
    rw [List.cons_append, read, read, ih, hbehind, List.append_assoc]

theorem read_text (h : '<' ∉ s) (rest : List Char) : read .text (s ++ rest) = read .text rest := by
  induction s with
  | nil => rfl
  | cons c s ih =>
    rw [List.mem_cons, not_or] at h
    have hnext : Place.next c .text = .text := if_neg (Ne.symm h.1)
    have htag : Place.tag? c .text = none := by simp [Place.tag?]
    rw [List.cons_append, read, hnext, htag, ih h.2]
    rfl

theorem read_quoted (h : mark ∉ s) (rest : List Char) :
    read (.quoted tag name value mark) (s ++ rest) =
      read (.quoted tag name (value ++ s) mark) rest := by
  induction s generalizing value with
  | nil => rw [List.append_nil, List.nil_append]
  | cons c s ih =>
    rw [List.mem_cons, not_or] at h
    have hnext : Place.next c (.quoted tag name value mark) =
        .quoted tag name (value ++ [c]) mark := if_neg (Ne.symm h.1)
    have htag : Place.tag? c (.quoted tag name value mark) = none := by simp [Place.tag?]
    rw [List.cons_append, read, hnext, htag, ih h.2, List.append_assoc]
    rfl

theorem read_escape_text (text : String) (rest : List Char) :
    read .text ((escape text).toList ++ rest) = read .text rest :=
  read_text ((means_escape text).no_mark '<' (by decide)) rest

/-- Between quotation marks an escaped text is a value, and the value is the text. -/
theorem read_escape_value (text : String) (rest : List Char) :
    read (.quoted tag name [] '"') ((escape text).toList ++ '"' :: rest) =
      read (.inside { tag with attributes := tag.attributes ++ [(String.ofList name, text)] })
        rest := by
  have hmeans := means_escape text
  have hvalue : String.ofList (unescapeChars (escape text).toList) = text := hmeans.unescape_eq
  rw [read_quoted (hmeans.no_mark '"' (by decide)), List.nil_append, read, Place.next, if_pos rfl,
    Tag.put, hvalue]
  rfl

end

end SignOn.Text.Markup
